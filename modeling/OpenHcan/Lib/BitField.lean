import Mathlib.Algebra.Group.Nat.Defs
import Mathlib.Data.List.Basic

/-!
# BitField — words put together from fields

A field of a word is a range of its bits. Masks and shifts take fields out,
shifts and ors put them in; in numbers the first is division and remainder,
and the second is addition as long as the fields do not overlap.
-/

namespace OpenHcan.Lib

/-- The low bits of a word. -/
theorem and_lowMask (x w : Nat) : x &&& (2 ^ w - 1) = x % 2 ^ w :=
  Nat.and_two_pow_sub_one_eq_mod x w

/-- The `w` bits from bit `k` on, left where they are. -/
theorem and_fieldMask (x k w : Nat) :
    x &&& ((2 ^ w - 1) <<< k) = x / 2 ^ k % 2 ^ w * 2 ^ k := by
  rw [← Nat.shiftLeft_eq, ← Nat.shiftRight_eq_div_pow, ← and_lowMask, Nat.shiftLeft_and_distrib]
  apply Nat.eq_of_testBit_eq
  intro i
  simp only [Nat.testBit_and, Nat.testBit_shiftLeft, Nat.testBit_shiftRight]
  by_cases h : k ≤ i
  · simp [h]
  · simp [h]

/-- A field above the bits of `a`. -/
theorem or_field {a k : Nat} (h : a < 2 ^ k) (b : Nat) : a ||| b <<< k = a + b * 2 ^ k := by
  rw [Nat.or_comm, ← Nat.shiftLeft_add_eq_or_of_lt h, Nat.shiftLeft_eq, Nat.add_comm]

/-- The same in a machine word, when the field fits it. -/
theorem or_field_mod {a k n : Nat} (h : a < 2 ^ k) {b : Nat} (hb : b * 2 ^ k < n) :
    a ||| b <<< k % n = a + b * 2 ^ k := by
  rw [Nat.mod_eq_of_lt (by rwa [Nat.shiftLeft_eq]), or_field h]

/-! ## Masks without a common bit -/

theorem or_and_of_disjoint {w : Nat} {a b : BitVec w} (h : a &&& b = 0) (x : BitVec w) :
    (x ||| a) &&& b = x &&& b := by
  ext i hi
  have hbit : (a &&& b)[i] = (0 : BitVec w)[i] := by rw [h]
  rw [BitVec.getElem_and] at hbit
  simp only [BitVec.getElem_and, BitVec.getElem_or, Bool.and_or_distrib_right, hbit]
  simp

theorem and_not_and_of_disjoint {w : Nat} {a b : BitVec w} (h : a &&& b = 0) (x : BitVec w) :
    (x &&& ~~~a) &&& b = x &&& b := by
  ext i hi
  have hbit : (a &&& b)[i] = (0 : BitVec w)[i] := by rw [h]
  simp only [BitVec.getElem_and, BitVec.getElem_not] at hbit ⊢
  cases ha : a[i] <;> simp_all

end OpenHcan.Lib
