import OpenHcan.Flash.Crc16

/-!
# Ihexfile — a firmware image on the host (`libhcan++/ihexfile.cc`)

What `load` leaves of a file: the bytes of its data records, filled up with
0xff to whole pages. A file that is full already gets one more page.
-/

namespace OpenHcan.Flash

/-- The number of rounds `load` pads for. -/
def padding (pageSize length : Nat) : Nat := pageSize - length % pageSize

/-- A loaded `ihexfile`. The counter of the padding loop has 8 bits: `load`
ends only if it needs no more than 255 rounds. -/
structure Ihexfile (pageSize : Nat) where
  records : List UInt8
  ends : padding pageSize records.length ≤ 255
deriving DecidableEq

namespace Ihexfile

variable {pageSize : Nat} (h : Ihexfile pageSize)

/-- `data()` -/
def data : List UInt8 := h.records ++ List.replicate (padding pageSize h.records.length) 0xff

/-- `size()`, a 16-bit value. -/
def size : Nat := h.data.length % 65536

/-- `data()[i]` -/
def byte (i : Nat) : UInt8 := h.data.getD i 0

/-- `crc16()`. The bytes are swapped, as the target is little endian. -/
def crc16 : UInt16 :=
  crc16Words (fun i => h.byte (2 * i)) (fun i => h.byte (2 * i + 1)) (h.data.length / 2)

theorem data_length : h.data.length = h.records.length + padding pageSize h.records.length := by
  simp [data]

theorem pageSize_dvd (hpage : 0 < pageSize) : pageSize ∣ h.data.length := by
  rw [data_length]
  refine ⟨h.records.length / pageSize + 1, ?_⟩
  have hmod := Nat.mod_lt h.records.length hpage
  have hdiv := Nat.div_add_mod h.records.length pageSize
  rw [Nat.mul_add, Nat.mul_one]
  unfold padding
  omega

theorem size_lt : h.size < 65536 := Nat.mod_lt _ (by decide)

end Ihexfile

/-- `ihexfile::load`, from the bytes of the data records. -/
def loadIhexfile (pageSize : Nat) (records : List UInt8) : Option (Ihexfile pageSize) :=
  if h : padding pageSize records.length ≤ 255 then some ⟨records, h⟩ else none

end OpenHcan.Flash
