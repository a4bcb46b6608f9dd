import OpenHcan.Lib.BitField
import Mathlib.Data.List.Basic
import Mathlib.Logic.Function.Basic

/-!
# RingBuffer — a queue between two indices

An array of `n` cells with a write and a read index: what lies from the read
index up to the write index, past the end of the array if need be, is the
queue. Equal indices mean an empty queue, so one cell stays free, and a writer
that does not look at the read index can turn a full queue into an empty one.
-/

namespace OpenHcan.Lib

variable {α : Type} {n w r : Nat}

/-- The cell `i` places behind `r`. -/
def ringSlot (n r i : Nat) : Nat := if r + i < n then r + i else r + i - n

/-- How many cells are in use. -/
def ringCount (n w r : Nat) : Nat := if r ≤ w then w - r else w + n - r

/-- The queue, oldest element first. -/
def ringContents (n : Nat) (buf : Nat → α) (w r : Nat) : List α :=
  (List.range (ringCount n w r)).map fun i => buf (ringSlot n r i)

@[simp] theorem length_ringContents (buf : Nat → α) :
    (ringContents n buf w r).length = ringCount n w r := by
  simp [ringContents]

theorem ringSlot_lt (hr : r < n) {i : Nat} (hi : i < n) : ringSlot n r i < n := by
  unfold ringSlot
  split <;> omega

/-- Only the cells of the array count. -/
theorem ringContents_congr (hw : w < n) (hr : r < n) {buf buf' : Nat → α}
    (h : ∀ i < n, buf i = buf' i) : ringContents n buf w r = ringContents n buf' w r := by
  unfold ringContents
  apply List.map_congr_left
  intro i hi
  have hlt : ringCount n w r < n := by
    unfold ringCount
    split <;> omega
  exact h _ (ringSlot_lt hr (Nat.lt_trans (List.mem_range.mp hi) hlt))

/-- The queue is empty when the indices are equal. -/
theorem ringCount_eq_zero_iff (hr : r < n) : ringCount n w r = 0 ↔ w = r := by
  unfold ringCount
  split <;> omega

theorem ringCount_lt (hw : w < n) (hr : r < n) : ringCount n w r < n := by
  unfold ringCount
  split <;> omega

/-- The last cell stays free: the queue is full when the next write would make
the indices equal. -/
theorem ringCount_full_iff (hw : w < n) (hr : r < n) :
    ringCount n w r + 1 = n ↔ ringSlot n w 1 = r := by
  unfold ringCount ringSlot
  split <;> split <;> omega

/-- The write index goes on. -/
theorem ringCount_push (hw : w < n) (hr : r < n) (hroom : ringSlot n w 1 ≠ r) :
    ringCount n (ringSlot n w 1) r = ringCount n w r + 1 := by
  unfold ringCount ringSlot at *
  by_cases hwrap : w + 1 < n
  · rw [if_pos hwrap] at hroom ⊢
    split <;> split <;> omega
  · rw [if_neg hwrap] at hroom ⊢
    split <;> split <;> omega

/-- The read index goes on. -/
theorem ringCount_pop (hw : w < n) (hr : r < n) (hne : w ≠ r) :
    ringCount n w (ringSlot n r 1) + 1 = ringCount n w r := by
  unfold ringCount ringSlot
  split <;> split <;> split <;> omega

/-- The write index is the cell behind the queue. -/
theorem ringSlot_ringCount (hw : w < n) (hr : r < n) : ringSlot n r (ringCount n w r) = w := by
  unfold ringCount ringSlot
  split <;> split <;> omega

theorem ringSlot_ne (hr : r < n) {i : Nat} (hi : i < ringCount n w r) :
    ringSlot n r i ≠ w := by
  unfold ringCount at hi
  unfold ringSlot
  split at hi <;> split <;> omega

/-- The cell at the write index is not part of the queue. -/
theorem ringContents_write (hr : r < n) (buf : Nat → α) (x : α) :
    ringContents n (Function.update buf w x) w r = ringContents n buf w r := by
  unfold ringContents
  apply List.map_congr_left
  intro i hi
  exact Function.update_of_ne (ringSlot_ne hr (List.mem_range.mp hi)) x buf

/-- **Writing and going on** appends, if the queue is not full. -/
theorem ringContents_push (hw : w < n) (hr : r < n) (hroom : ringSlot n w 1 ≠ r)
    (buf : Nat → α) (x : α) :
    ringContents n (Function.update buf w x) (ringSlot n w 1) r
      = ringContents n buf w r ++ [x] := by
  have hold := ringContents_write (w := w) hr buf x
  unfold ringContents at hold ⊢
  rw [ringCount_push hw hr hroom, List.range_succ, List.map_append, hold, List.map_singleton,
    ringSlot_ringCount hw hr, Function.update_self]

theorem ringSlot_succ (hr : r < n) {i : Nat} (hi : i + 1 < n) :
    ringSlot n (ringSlot n r 1) i = ringSlot n r (i + 1) := by
  unfold ringSlot
  split <;> split <;> split <;> omega

/-- **Going on from the read index** takes the oldest element out. -/
theorem ringContents_pop (hw : w < n) (hr : r < n) (hne : w ≠ r) (buf : Nat → α) :
    ringContents n buf w r = buf r :: ringContents n buf w (ringSlot n r 1) := by
  have hcount := ringCount_pop hw hr hne
  have hlt := ringCount_lt hw hr
  have hfirst : ringSlot n r 0 = r := by
    unfold ringSlot
    split <;> omega
  unfold ringContents
  rw [← hcount, List.range_succ_eq_map, List.map_cons, hfirst, List.map_map]
  congr 1
  apply List.map_congr_left
  intro i hi
  have hi' := List.mem_range.mp hi
  show buf (ringSlot n r (i + 1)) = _
  rw [ringSlot_succ hr (by omega)]

/-! ## Indices of one byte

The indices of a ring in a C program are mostly bytes, and the next index is
masked. `next` is what the program computes. -/

section ByteIndices

variable {buf : UInt8 → α} {w r : UInt8} {next : UInt8 → UInt8}

/-- The queue between two indices of one byte. -/
def byteContents (n : Nat) (buf : UInt8 → α) (w r : UInt8) : List α :=
  ringContents n (fun i => buf (UInt8.ofNat i)) w.toNat r.toNat

/-- The masked successor in a ring whose length is a power of two. -/
theorem toNat_maskedSucc {k : Nat} (hk : k ≤ 8) {idx : UInt8} (h : idx.toNat < 2 ^ k) :
    ((idx + 1) &&& UInt8.ofNat (2 ^ k - 1)).toNat = ringSlot (2 ^ k) idx.toNat 1 := by
  have hle : 2 ^ k ≤ 2 ^ 8 := Nat.pow_le_pow_right Nat.two_pos hk
  have hdvd : 2 ^ k ∣ 2 ^ 8 := Nat.pow_dvd_pow 2 hk
  have hmask : (UInt8.ofNat (2 ^ k - 1)).toNat = 2 ^ k - 1 := by
    rw [UInt8.toNat_ofNat']
    exact Nat.mod_eq_of_lt (by omega)
  rw [UInt8.toNat_and, hmask, and_lowMask, UInt8.toNat_add]
  show (idx.toNat + 1) % 2 ^ 8 % 2 ^ k = _
  rw [Nat.mod_mod_of_dvd _ hdvd]
  unfold ringSlot
  split
  · next hlt => exact Nat.mod_eq_of_lt hlt
  · have hlast : idx.toNat + 1 = 2 ^ k := by omega
    rw [hlast, Nat.mod_self, Nat.sub_self]

/-- A cell by its byte is the cell by its number. -/
theorem update_ofNat (hn : n ≤ 256) (x : α) {i : Nat} (hi : i < n) :
    Function.update buf w x (UInt8.ofNat i)
      = Function.update (fun i => buf (UInt8.ofNat i)) w.toNat x i := by
  by_cases hw : i = w.toNat
  · subst hw
    rw [UInt8.ofNat_toNat, Function.update_self, Function.update_self]
  · have hne : UInt8.ofNat i ≠ w := by
      intro heq
      apply hw
      rw [← heq, UInt8.toNat_ofNat']
      exact (Nat.mod_eq_of_lt (by omega)).symm
    rw [Function.update_of_ne hne, Function.update_of_ne hw]

section Next

variable (hnext : ∀ idx : UInt8, idx.toNat < n → (next idx).toNat = ringSlot n idx.toNat 1)
include hnext

theorem next_toNat_lt (h1 : 1 < n) {idx : UInt8} (h : idx.toNat < n) : (next idx).toNat < n := by
  rw [hnext idx h]
  exact ringSlot_lt h h1

/-- The next write would make the indices equal. -/
theorem next_eq_iff (hw : w.toNat < n) : next w = r ↔ ringSlot n w.toNat 1 = r.toNat := by
  rw [← hnext w hw]
  exact UInt8.toNat_inj.symm

/-- **The test for a full ring**: all but one of the cells are in use. -/
theorem byteContents_full_iff (hw : w.toNat < n) (hr : r.toNat < n) :
    next w = r ↔ (byteContents n buf w r).length + 1 = n := by
  unfold byteContents
  rw [next_eq_iff hnext hw, length_ringContents, ringCount_full_iff hw hr]

/-- **Writing and going on** appends, if the queue is not full. -/
theorem byteContents_push (hn : n ≤ 256) (h1 : 1 < n) (hw : w.toNat < n) (hr : r.toNat < n)
    (hroom : next w ≠ r) (x : α) :
    byteContents n (Function.update buf w x) (next w) r = byteContents n buf w r ++ [x] := by
  unfold byteContents
  rw [ringContents_congr (next_toNat_lt hnext h1 hw) hr fun i hi => update_ofNat hn x hi,
    hnext w hw]
  exact ringContents_push hw hr ((next_eq_iff hnext hw).not.mp hroom) _ x

/-- **Going on from the read index** takes the oldest element out. -/
theorem byteContents_pop (hw : w.toNat < n) (hr : r.toNat < n) (hne : w ≠ r) :
    byteContents n buf w r = buf r :: byteContents n buf w (next r) := by
  have hne' : w.toNat ≠ r.toNat := fun heq => hne (UInt8.toNat_inj.mp heq)
  unfold byteContents
  rw [ringContents_pop hw hr hne', hnext r hr, UInt8.ofNat_toNat]

end Next

theorem byteContents_self (hr : r.toNat < n) : byteContents n buf r r = [] := by
  apply List.eq_nil_of_length_eq_zero
  unfold byteContents
  rw [length_ringContents, ringCount_eq_zero_iff hr]

theorem length_byteContents_lt (hw : w.toNat < n) (hr : r.toNat < n) :
    (byteContents n buf w r).length < n := by
  unfold byteContents
  rw [length_ringContents]
  exact ringCount_lt hw hr

end ByteIndices

end OpenHcan.Lib
