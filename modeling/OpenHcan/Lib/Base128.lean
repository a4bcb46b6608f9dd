import Mathlib.Algebra.Order.Ring.Nat
import Mathlib.Algebra.Ring.Nat
import Mathlib.Tactic.Ring

/-!
# Base128 — numbers as digits of seven bits

The lowest digit comes first and all but the last have the top bit set. A
number below `128 ^ k` has at most `k` digits, and at least one.
-/

namespace OpenHcan.Lib

/-- The digits of `n`, of which there are at most `k + 1`. -/
def base128 : Nat → Nat → List UInt8
  | 0, n => [UInt8.ofNat n]
  | k + 1, n =>
      if n < 128 then [UInt8.ofNat n]
      else UInt8.ofNat (n % 128 + 128) :: base128 k (n / 128)

theorem base128_small {n : Nat} (h : n < 128) (k : Nat) : base128 k n = [UInt8.ofNat n] := by
  cases k with
  | zero => rfl
  | succ k => rw [base128, if_pos h]

theorem base128_large {n : Nat} (h : 128 ≤ n) (k : Nat) :
    base128 (k + 1) n = UInt8.ofNat (n % 128 + 128) :: base128 k (n / 128) := by
  rw [base128, if_neg (by omega)]

theorem toNat_lastDigit {n : Nat} (h : n < 128) : (UInt8.ofNat n).toNat = n := by
  rw [UInt8.toNat_ofNat']
  omega

theorem toNat_digit (n : Nat) : (UInt8.ofNat (n % 128 + 128)).toNat = n % 128 + 128 := by
  rw [UInt8.toNat_ofNat']
  omega

theorem div_lt_pow {n k : Nat} (h : n < 128 ^ (k + 1)) : n / 128 < 128 ^ k := by
  rw [Nat.div_lt_iff_lt_mul (by omega)]
  rwa [pow_succ] at h

/-- What a reader of the digits has when it has read `ds`: the digits before it
had the weight `mult` together and gave `value`. -/
def readDigits (value mult : Nat) : List UInt8 → Nat
  | [] => value
  | d :: ds => readDigits (value + d.toNat % 128 * mult) (mult * 128) ds

/-- **Round trip.** -/
theorem readDigits_base128 {k : Nat} : ∀ {n : Nat}, n < 128 ^ (k + 1) → ∀ value mult : Nat,
    readDigits value mult (base128 k n) = value + n * mult := by
  induction k with
  | zero =>
      intro n h value mult
      simp only [base128, readDigits]
      rw [toNat_lastDigit (by omega), Nat.mod_eq_of_lt (by omega)]
  | succ k ih =>
      intro n h value mult
      rcases Nat.lt_or_ge n 128 with hn | hn
      · simp only [base128_small hn, readDigits]
        rw [toNat_lastDigit hn, Nat.mod_eq_of_lt hn]
      · simp only [base128_large hn, readDigits]
        have hdigit : (n % 128 + 128) % 128 = n % 128 := by omega
        have hsplit : n = n % 128 + 128 * (n / 128) := by omega
        rw [toNat_digit, hdigit, ih (div_lt_pow h)]
        conv_rhs => rw [hsplit]
        ring

end OpenHcan.Lib
