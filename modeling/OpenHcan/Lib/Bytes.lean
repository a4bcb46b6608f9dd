import Mathlib.Algebra.Group.Nat.Defs
import Mathlib.Data.List.Basic
import Mathlib.Data.List.TakeDrop

/-!
# Bytes — numbers and records in a byte string

Little-endian numbers of a fixed width, fields of a byte string, and byte
strings that are made of records of one width.
-/

namespace OpenHcan.Lib

/-- The `w` low bytes of a number, the lowest first. -/
def encodeLE : Nat → Nat → List UInt8
  | 0, _ => []
  | w + 1, n => UInt8.ofNat n :: encodeLE w (n / 256)

/-- The number of a byte string, the lowest byte first. -/
def decodeLE : List UInt8 → Nat
  | [] => 0
  | b :: bs => b.toNat + 256 * decodeLE bs

@[simp] theorem length_encodeLE (w n : Nat) : (encodeLE w n).length = w := by
  induction w generalizing n with
  | zero => rfl
  | succ w ih => rw [encodeLE, List.length_cons, ih]

/-- A number that fits the width is read back. -/
theorem decodeLE_encodeLE {w n : Nat} (h : n < 256 ^ w) : decodeLE (encodeLE w n) = n := by
  induction w generalizing n with
  | zero =>
      rw [Nat.pow_zero] at h
      have : n = 0 := by omega
      rw [this]
      rfl
  | succ w ih =>
      have hdiv : n / 256 < 256 ^ w := by
        apply Nat.div_lt_of_lt_mul
        rw [Nat.pow_succ] at h
        omega
      rw [encodeLE, decodeLE, ih hdiv, UInt8.toNat_ofNat']
      omega

/-- The number in the `w` bytes behind `off`. -/
def fieldLE (bytes : List UInt8) (off w : Nat) : Nat := decodeLE ((bytes.drop off).take w)

/-- A field behind the first part is read from the rest. -/
theorem fieldLE_append_right (a b : List UInt8) (off w : Nat) :
    fieldLE (a ++ b) (a.length + off) w = fieldLE b off w := by
  rw [fieldLE, fieldLE, List.drop_length_add_append]

/-- A field behind the first number is read from the rest. -/
theorem fieldLE_skip {w' off : Nat} (h : w' ≤ off) (n : Nat) (bytes : List UInt8) (w : Nat) :
    fieldLE (encodeLE w' n ++ bytes) off w = fieldLE bytes (off - w') w := by
  have := fieldLE_append_right (encodeLE w' n) bytes (off - w') w
  rwa [length_encodeLE, Nat.add_sub_cancel' h] at this

/-- The first field of a byte string. -/
theorem fieldLE_encodeLE {w n : Nat} (h : n < 256 ^ w) (bytes : List UInt8) :
    fieldLE (encodeLE w n ++ bytes) 0 w = n := by
  rw [fieldLE, List.drop_zero, List.take_left' (length_encodeLE w n), decodeLE_encodeLE h]

variable {α : Type} {enc : α → List UInt8} {w : Nat}

/-- Records of width `w` take `w` bytes each. -/
theorem length_flatMap_records (hw : ∀ a, (enc a).length = w) (as : List α) :
    (as.flatMap enc).length = w * as.length := by
  induction as with
  | nil => rfl
  | cons a as ih =>
      rw [List.flatMap_cons, List.length_append, hw, ih, List.length_cons, Nat.mul_succ]
      omega

/-- The `i`-th record of a byte string made of records. -/
theorem record_flatMap (hw : ∀ a, (enc a).length = w) (as : List α) (tail : List UInt8) {i : Nat}
    (hi : i < as.length) :
    ((as.flatMap enc ++ tail).drop (w * i)).take w = enc (as[i]) := by
  induction as generalizing i with
  | nil => exact absurd hi (Nat.not_lt_zero i)
  | cons a as ih =>
      rw [List.flatMap_cons, List.append_assoc]
      cases i with
      | zero =>
          rw [Nat.mul_zero, List.drop_zero]
          exact List.take_left' (hw a)
      | succ i =>
          have hlen : w * (i + 1) = (enc a).length + w * i := by
            rw [hw, Nat.mul_succ]
            omega
          rw [hlen, List.drop_length_add_append]
          exact ih (Nat.lt_of_succ_lt_succ hi)

end OpenHcan.Lib
