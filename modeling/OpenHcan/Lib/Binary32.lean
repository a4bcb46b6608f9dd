import Mathlib.Data.Int.Log
import Mathlib.Data.Rat.Floor
import Mathlib.Tactic.Linarith
import Mathlib.Tactic.Positivity
import Mathlib.Tactic.Ring
import OpenHcan.Lib.CString

/-!
# Binary32 — texts read as a `float`

A decimal number is read as the `float` nearest to it, ties to even: 24 binary
digits, the last of which stands for no less than `2 ^ -149`. From `2 ^ 128` on
there is none. A number that needs no more digits is read as itself
(`nearest_of_grid`); the multiples of 1/16 below `2 ^ 12` are such numbers.
-/

namespace OpenHcan.Lib

/-- The exponent of the last binary digit of a `float` near `x`. -/
def ulpExponent (x : ℚ) : ℤ := max (Int.log 2 x - 23) (-149)

/-- The nearest multiple of the last binary digit, ties to even. -/
def nearest (x : ℚ) : ℚ :=
  let ulp := (2 : ℚ) ^ ulpExponent x
  roundHalfEven (x / ulp).num.toNat (x / ulp).den * ulp

/-- The `float` nearest to a number that is not negative. -/
def toFloat (x : ℚ) : CFloat :=
  if 2 ^ 128 ≤ nearest x then .infinite false else .finite false (nearest x)

/-- A row of digits with at most one point, and the number it stands for. -/
def decimalNumber (s : List Char) : Option ℚ :=
  let whole := s.takeWhile Char.isDigit
  match s.dropWhile Char.isDigit with
  | [] => if whole.isEmpty then none else some (decimal whole)
  | ch :: places =>
      if ch = '.' ∧ places.all Char.isDigit ∧ ¬ (whole.isEmpty ∧ places.isEmpty) then
        some (decimal whole + decimal places / 10 ^ places.length)
      else none

theorem roundHalfEven_one (m : Nat) : roundHalfEven m 1 = m := by
  rw [roundHalfEven, if_pos (Or.inl (by omega)), Nat.div_one]

/-- A multiple of the last binary digit is read as itself. -/
theorem nearest_of_grid {x : ℚ} {m : ℕ} (h : x = m * 2 ^ ulpExponent x) : nearest x = x := by
  have hulp : (2 : ℚ) ^ ulpExponent x ≠ 0 := zpow_ne_zero _ (by norm_num)
  have hdiv : x / 2 ^ ulpExponent x = m := by
    rw [div_eq_iff hulp]
    exact h
  rw [nearest]
  simp only [hdiv, Rat.num_natCast, Rat.den_natCast, Int.toNat_natCast, roundHalfEven_one]
  exact h.symm

/-- The binary exponent of a positive multiple of 1/16 below `2 ^ 12`. -/
theorem log_sixteenths {k : ℕ} (hpos : 0 < k) (h : k < 65536) :
    -4 ≤ Int.log 2 ((k : ℚ) / 16) ∧ Int.log 2 ((k : ℚ) / 16) ≤ 11 := by
  have hk : (1 : ℚ) ≤ k := by exact_mod_cast hpos
  have hk' : (k : ℚ) < 65536 := by exact_mod_cast h
  have hx : (0 : ℚ) < k / 16 := by positivity
  constructor
  · have hle : ((2 : ℕ) : ℚ) ^ (-4 : ℤ) ≤ k / 16 := by
      norm_num
      linarith
    exact (Int.zpow_le_iff_le_log (by decide) hx).mp hle
  · have hlt : (k : ℚ) / 16 < ((2 : ℕ) : ℚ) ^ (12 : ℤ) := by
      norm_num
      linarith
    have := (Int.lt_zpow_iff_log_lt (by decide) hx).mp hlt
    omega

/-- **A multiple of 1/16 below `2 ^ 12` is read as itself.** -/
theorem toFloat_sixteenths {k : ℕ} (h : k < 65536) : toFloat (k / 16) = .sixteenths k := by
  have hnearest : nearest ((k : ℚ) / 16) = k / 16 := by
    rcases Nat.eq_zero_or_pos k with rfl | hpos
    · apply nearest_of_grid (m := 0)
      simp
    · obtain ⟨hlow, hhigh⟩ := log_sixteenths hpos h
      -- with exponent `11 - e` the last digit stands for `2 ^ (-12 - e)`, below 1/16
      obtain ⟨e, he⟩ : ∃ e : ℕ, Int.log 2 ((k : ℚ) / 16) = 11 - e :=
        ⟨(11 - Int.log 2 ((k : ℚ) / 16)).toNat, by omega⟩
      have hulp : ulpExponent ((k : ℚ) / 16) = -12 - e := by
        rw [ulpExponent, he]
        omega
      apply nearest_of_grid (m := k * 2 ^ (8 + e))
      rw [hulp]
      push_cast
      rw [mul_assoc, ← zpow_natCast, ← zpow_add₀ (by norm_num)]
      have hexp : ((8 + e : ℕ) : ℤ) + (-12 - e) = -4 := by omega
      rw [hexp]
      norm_num
      ring
  have hsmall : ¬ (2 : ℚ) ^ 128 ≤ k / 16 := by
    have hk : (k : ℚ) < 65536 := by exact_mod_cast h
    norm_num
    linarith
  rw [toFloat, hnearest, if_neg hsmall]
  rfl

end OpenHcan.Lib
