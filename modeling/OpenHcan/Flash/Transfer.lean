import OpenHcan.Flash.Bootloader

/-!
# Transfer — the pieces of a line, from the host to the page buffer

`board_driver::cmd_flash` cuts a block into lines of 16 bytes and a line into
four pieces, one `FLASH_BUFFER_FILL` frame each. This module has the frames
and what the bootloader makes of one.
-/

namespace OpenHcan.Flash

/-- `send_FLASH_BUFFER_FILL(src, dst, index, b 0, .., b 3)` -/
def fillFrame (host board : UInt16) (index : UInt8) (b : Nat → UInt8) : CanixFrame where
  src := host
  dst := board
  proto := hcanProtoSfp
  size := 7
  data := payload [hcanSrvHms, hmsFlashBufferFill, index, b 0, b 1, b 2, b 3]

/-- The offset of piece `i` of line `k`. -/
def pieceIndex (k i : Nat) : UInt8 := UInt8.ofNat (16 * k + 4 * i)

/-- Piece `i` of line `k`, for a block whose bytes are `block`. -/
def pieceFrame (host board : UInt16) (block : Nat → UInt8) (k i : Nat) : CanixFrame :=
  fillFrame host board (pieceIndex k i) (fun j => block (16 * k + 4 * i + j))

theorem fillFrame_byte_index (host board : UInt16) (index : UInt8) (b : Nat → UInt8) :
    (fillFrame host board index b).byte 2 = index :=
  byte_payload _ _ _ _ _ (by omega)

/-- `data` after a piece has been read. -/
theorem readMessage_fill (data : Nat → UInt8) (host board : UInt16) (index : UInt8)
    (b : Nat → UInt8) :
    readMessage data (fillFrame host board index b) 0 = hcanSrvHms ∧
      readMessage data (fillFrame host board index b) 1 = hmsFlashBufferFill ∧
      readMessage data (fillFrame host board index b) 2 = index ∧
      ∀ j, j < 4 → readMessage data (fillFrame host board index b) (3 + j) = b j := by
  have hsize : (fillFrame host board index b).size.toNat = 7 := rfl
  have hread : ∀ i, i < 7 → readMessage data (fillFrame host board index b) i =
      [hcanSrvHms, hmsFlashBufferFill, index, b 0, b 1, b 2, b 3].getD i 0 := by
    intro i hi
    unfold readMessage
    rw [hsize, if_pos hi]
    exact byte_payload _ _ _ _ _ (by omega)
  refine ⟨hread 0 (by omega), hread 1 (by omega), hread 2 (by omega), ?_⟩
  intro j hj
  rw [hread (3 + j) (by omega)]
  have hcases : j = 0 ∨ j = 1 ∨ j = 2 ∨ j = 3 := by omega
  rcases hcases with rfl | rfl | rfl | rfl <;> rfl

/-- A piece addressed to the board reaches the fill case of the switch. -/
theorem bootReceive_fill (mcu : Mcu) (s : Bootloader) (host : UInt16) (index : UInt8)
    (b : Nat → UInt8) :
    bootReceive mcu s (fillFrame host s.selfAddr index b) =
      flashBufferFill { s with data := readMessage s.data (fillFrame host s.selfAddr index b) }
        (fillFrame host s.selfAddr index b) := by
  obtain ⟨hsrv, hcmd, -, -⟩ := readMessage_fill s.data host s.selfAddr index b
  have hsize : (fillFrame host s.selfAddr index b).size.toNat = 7 := rfl
  unfold bootReceive
  dsimp only
  rw [if_pos ⟨.inl rfl, by omega, hsrv⟩]
  unfold bootSwitch
  dsimp only
  rw [hcmd]
  rfl

/-- The line counter after a piece. -/
def countPiece (lineCounter : Nat) (index : UInt8) : Nat :=
  ((if index &&& 0x0f = 0 then 0 else lineCounter) + 4) % 65536

/-- The fill case of the switch: the bytes are stored, the counter counts
them, and from 16 on an ACK goes out. -/
theorem flashBufferFill_spec (s : Bootloader) (f : CanixFrame) :
    (flashBufferFill s f).boot.selfAddr = s.selfAddr ∧
      (flashBufferFill s f).boot.flash = s.flash ∧
      (flashBufferFill s f).boot.lineCounter = countPiece s.lineCounter (s.data 2) ∧
      (flashBufferFill s f).boot.flashBuffer = fillBuffer s.flashBuffer s.data ∧
      ((flashBufferFill s f).answer.isSome ↔ 16 ≤ countPiece s.lineCounter (s.data 2)) := by
  by_cases hfull : 16 ≤ countPiece s.lineCounter (s.data 2)
  · have hsend : flashBufferFill s f =
        bootSend { s with
          flashBuffer := fillBuffer s.flashBuffer s.data
          lineCounter := countPiece s.lineCounter (s.data 2) } f [hmsFlashBufferFillAck] :=
      if_pos hfull
    rw [hsend]
    exact ⟨rfl, rfl, rfl, rfl, fun _ => hfull, fun _ => rfl⟩
  · have hquiet : flashBufferFill s f =
        ⟨{ s with
          flashBuffer := fillBuffer s.flashBuffer s.data
          lineCounter := countPiece s.lineCounter (s.data 2) }, none, .loop⟩ :=
      if_neg hfull
    rw [hquiet]
    exact ⟨rfl, rfl, rfl, rfl, fun h => (by cases h), fun h => absurd h hfull⟩

/-- The bootloader after a piece, and whether it acknowledges. -/
structure Filled (s : Bootloader) (index : UInt8) (b : Nat → UInt8) (r : BootResult) : Prop where
  selfAddr : r.boot.selfAddr = s.selfAddr
  flash : r.boot.flash = s.flash
  lineCounter : r.boot.lineCounter = countPiece s.lineCounter index
  ack : r.answer.isSome ↔ 16 ≤ countPiece s.lineCounter index
  stored : ∀ j, j < 4 → r.boot.flashBuffer (index.toNat + j) = b j
  kept : ∀ x, x < index.toNat ∨ index.toNat + 4 ≤ x → r.boot.flashBuffer x = s.flashBuffer x

/-- **What a piece does.** -/
theorem bootReceive_filled (mcu : Mcu) (s : Bootloader) (host : UInt16) (index : UInt8)
    (b : Nat → UInt8) :
    Filled s index b (bootReceive mcu s (fillFrame host s.selfAddr index b)) := by
  obtain ⟨-, -, hindex, hbytes⟩ := readMessage_fill s.data host s.selfAddr index b
  rw [bootReceive_fill]
  obtain ⟨haddr, hflash, hcount, hbuffer, hack⟩ := flashBufferFill_spec
    { s with data := readMessage s.data (fillFrame host s.selfAddr index b) }
    (fillFrame host s.selfAddr index b)
  dsimp only at haddr hflash hcount hbuffer hack
  rw [hindex] at hcount hack
  refine ⟨haddr, hflash, hcount, hack, ?_, ?_⟩
  · intro j hj
    rw [hbuffer]
    unfold fillBuffer
    rw [hindex, if_pos (by omega), ← hbytes j hj]
    congr 1
    omega
  · intro x hx
    rw [hbuffer]
    unfold fillBuffer
    rw [hindex, if_neg (by omega)]

end OpenHcan.Flash
