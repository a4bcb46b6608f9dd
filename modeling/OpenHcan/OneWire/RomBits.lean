import Mathlib.Data.List.Nodup
import OpenHcan.OneWire.RomSearch

/-!
# RomBits — the id buffer as a queue of bits

A byte that is shifted gives its lowest bit away and takes a new one at the
other end: its bits, the lowest first, are a queue. An id is its bits.
-/

namespace OpenHcan.OneWire

/-! ## A byte -/

section

variable {b : UInt8}

theorem byteBits_length : (byteBits b).length = 8 := by
  unfold byteBits
  rw [List.length_map, List.length_range]

theorem byteBits_getElem? {j : Nat} (h : j < 8) : (byteBits b)[j]? = some (b.toNat.testBit j) := by
  unfold byteBits
  rw [List.getElem?_map, List.getElem?_range h]
  rfl

/-- A byte has no bits behind the eighth. -/
theorem testBit_of_le {j : Nat} (h : 8 ≤ j) : b.toNat.testBit j = false := by
  apply Nat.testBit_lt_two_pow
  calc b.toNat < 2 ^ 8 := b.toNat_lt
    _ ≤ 2 ^ j := Nat.pow_le_pow_right (by decide) h

/-- The lowest bit. -/
theorem byteBits_head : (byteBits b).head? = some (decide (b &&& 1 ≠ 0)) := by
  have hand : b.toNat.testBit 0 = true ↔ b &&& 1 ≠ 0 := by
    rw [Nat.testBit_zero, decide_eq_true_iff, ne_eq, ← UInt8.toNat_inj, UInt8.toNat_and,
      UInt8.toNat_one, UInt8.toNat_zero, Nat.and_one_is_mod]
    omega
  rw [List.head?_eq_getElem?, byteBits_getElem? (by decide)]
  apply congrArg some
  apply Bool.eq_iff_iff.mpr
  rw [decide_eq_true_iff]
  exact hand

theorem shiftIn_testBit (bit : Bool) (j : Nat) :
    (shiftIn b bit).toNat.testBit j = (b.toNat.testBit (j + 1) || bit && decide (7 = j)) := by
  have hbit : (if bit = true then 0x80 else 0 : UInt8).toNat.testBit j =
      (bit && decide (7 = j)) := by
    cases bit with
    | true => exact Nat.testBit_two_pow (n := 7)
    | false => exact Nat.zero_testBit j
  unfold shiftIn
  rw [UInt8.toNat_or, Nat.testBit_or, hbit, UInt8.toNat_shiftRight, Nat.testBit_shiftRight,
    UInt8.toNat_one, Nat.add_comm]

/-- **A byte is a queue**: a shift takes the lowest bit and adds one at the other end. -/
theorem byteBits_shiftIn (bit : Bool) : byteBits (shiftIn b bit) = (byteBits b).tail ++ [bit] := by
  have htail : (byteBits b).tail.length = 7 := by rw [List.length_tail, byteBits_length]
  apply List.ext_getElem?
  intro j
  rcases Nat.lt_trichotomy j 7 with hj | rfl | hj
  · rw [List.getElem?_append_left (by omega), List.getElem?_tail, byteBits_getElem? (by omega),
      byteBits_getElem? (by omega), shiftIn_testBit, decide_eq_false (by omega), Bool.and_false,
      Bool.or_false]
  · rw [List.getElem?_append_right (by omega), htail, byteBits_getElem? (by decide),
      shiftIn_testBit, testBit_of_le (by decide)]
    cases bit with
    | true => rfl
    | false => rfl
  · rw [List.getElem?_append_right (by omega), htail,
      List.getElem?_eq_none (by rw [byteBits_length]; omega),
      List.getElem?_eq_none (by rw [List.length_singleton]; omega)]

theorem byteBits_injective : Function.Injective byteBits := by
  intro a b h
  apply UInt8.toNat_inj.mp
  apply Nat.eq_of_testBit_eq
  intro j
  by_cases hj : j < 8
  · have hbit : (byteBits a)[j]? = (byteBits b)[j]? := by rw [h]
    rw [byteBits_getElem? hj, byteBits_getElem? hj] at hbit
    exact Option.some.inj hbit
  · rw [testBit_of_le (by omega), testBit_of_le (by omega)]

end

/-! ## An id -/

theorem flatMap_byteBits_length (bytes : List UInt8) :
    (bytes.flatMap byteBits).length = 8 * bytes.length := by
  induction bytes with
  | nil => rfl
  | cons b bytes ih =>
      rw [List.flatMap_cons, List.length_append, byteBits_length, ih, List.length_cons]
      omega

theorem flatMap_byteBits_injective : ∀ bytes bytes' : List UInt8,
    bytes.flatMap byteBits = bytes'.flatMap byteBits → bytes = bytes' := by
  intro bytes
  induction bytes with
  | nil =>
      intro bytes' h
      have hlen := congrArg List.length h
      rw [flatMap_byteBits_length, flatMap_byteBits_length, List.length_nil] at hlen
      exact (List.length_eq_zero_iff.mp (by omega)).symm
  | cons b bytes ih =>
      intro bytes' h
      cases bytes' with
      | nil =>
          have hlen := congrArg List.length h
          rw [flatMap_byteBits_length, flatMap_byteBits_length, List.length_nil,
            List.length_cons] at hlen
          omega
      | cons b' bytes' =>
          rw [List.flatMap_cons, List.flatMap_cons] at h
          obtain ⟨hhead, htail⟩ :=
            List.append_inj h (byteBits_length.trans byteBits_length.symm)
          rw [byteBits_injective hhead, ih bytes' htail]

theorem romBits_length (r : Rom) : (romBits r).length = 64 := by
  unfold romBits
  rw [flatMap_byteBits_length, Vector.length_toList]

/-- An id is its bits. -/
theorem romBits_injective : Function.Injective romBits := by
  intro r r' h
  exact Vector.toList_inj.mp (flatMap_byteBits_injective _ _ h)

theorem romOf_toList {bytes : List UInt8} (h : bytes.length = 8) :
    (romOf bytes).toList = bytes := by
  apply List.ext_getElem
  · rw [Vector.length_toList, h]
  · intro i hi hi'
    simp [romOf, hi']

end OpenHcan.OneWire
