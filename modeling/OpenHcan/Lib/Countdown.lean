import Mathlib.Data.List.Basic

/-!
# Countdown — timers that are counted down to 0

A timer of a fixed width that is not 0 is one less after it is counted down;
only a 0 wraps.
-/

namespace OpenHcan.Lib

variable {v : UInt16}

theorem toNat_ne_zero (h : v ≠ 0) : v.toNat ≠ 0 := fun hzero => h (UInt16.toNat_inj.mp hzero)

theorem toNat_sub_one (h : v ≠ 0) : (v - 1).toNat = v.toNat - 1 := by
  apply UInt16.toNat_sub_of_le
  rw [UInt16.le_iff_toNat_le]
  exact Nat.one_le_iff_ne_zero.mpr (toNat_ne_zero h)

theorem sub_one_le (h : v ≠ 0) : v - 1 ≤ v := by
  rw [UInt16.le_iff_toNat_le, toNat_sub_one h]
  exact Nat.sub_le _ 1

/-- A timer that has not reached its last second goes on. -/
theorem sub_one_ne_zero (h0 : v ≠ 0) (h1 : v ≠ 1) : v - 1 ≠ 0 := by
  intro h
  have hminus := toNat_sub_one h0
  rw [h] at hminus
  have hone : v.toNat ≠ 1 := fun hone => h1 (UInt16.toNat_inj.mp hone)
  have hzero := toNat_ne_zero h0
  have hnull : (0 : UInt16).toNat = 0 := rfl
  omega

/-- A timer of a byte, which is one less after it is counted down. -/
theorem byte_sub_one_add_one {b : UInt8} (h : b ≠ 0) : (b - 1).toNat + 1 = b.toNat := by
  have hpos := UInt8.pos_iff_ne_zero.mpr h
  rw [UInt8.lt_iff_toNat_lt, UInt8.toNat_zero] at hpos
  rw [UInt8.toNat_sub_of_le _ _ (by rw [UInt8.le_iff_toNat_le]; exact hpos)]
  exact Nat.sub_add_cancel hpos

end OpenHcan.Lib
