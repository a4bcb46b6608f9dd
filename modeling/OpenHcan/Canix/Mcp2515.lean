import OpenHcan.Canix.RxQueue
import OpenHcan.Canix.WireId
import OpenHcan.Lib.BoundedArray

/-!
# Mcp2515 — frames in the registers of the CAN controller

The board's side of the frame format: `canix_frame_send_with_prio` packs the
addresses, the protocol and the priority into a 29-bit identifier,
`can_send_message` spreads the identifier over four registers of a transmit
buffer, and `mcp2515_read_message` collects it from the receive buffer again.

The controller is its registers. What it puts on the bus from a transmit
buffer, and what it leaves in the receive buffer, is the relation `Holds`
below, which lays the bits out as the controller's data sheet does.

Left out: the serial bus to the controller, the counter of sent frames and
the local delivery of a frame that is sent.
-/

namespace OpenHcan.Mcp2515

open OpenHcan.Lib OpenHcan.Rx

/-- The registers by address. -/
abbrev Registers := Nat → UInt8

def canintf : Nat := 0x2C
def txb0ctrl : Nat := 0x30
def txb0sidh : Nat := 0x31
def txb0dlc : Nat := 0x35
def txb0d0 : Nat := 0x36
def rxb0sidh : Nat := 0x61
def rxb0dlc : Nat := 0x65
def rxb0d0 : Nat := 0x66

/-- `1 << EXIDE` -/
def exideBit : UInt8 := 0x08

/-- `1 << TXREQ` -/
def txreqBit : UInt8 := 0x08

/-- `1 << RX0IF` -/
def rx0ifBit : UInt8 := 0x01

/-- `mcp2515_write_register` -/
def writeRegister (regs : Registers) (adress : Nat) (data : UInt8) : Registers :=
  fun a => if a = adress then data else regs a

/-- `mcp2515_write_register_p` -/
def writeRegisters (regs : Registers) (adress : Nat) (data : List UInt8) : Registers :=
  fun a => if adress ≤ a ∧ a < adress + data.length then data.getD (a - adress) 0 else regs a

/-- `mcp2515_bit_modify` -/
def bitModify (regs : Registers) (adress : Nat) (mask data : UInt8) : Registers :=
  writeRegister regs adress ((regs adress &&& ~~~mask) ||| (data &&& mask))

/-! ## Sending -/

/-- The identifier `canix_frame_send_with_prio` packs. -/
def extId (f : CanixFrame) (prio : UInt8) : UInt32 :=
  (f.src.toUInt32 &&& addrMask) ||| ((f.dst.toUInt32 &&& addrMask) <<< 10) |||
    ((f.proto.toUInt32 &&& protoMask) <<< 20) ||| (prio.toUInt32 <<< 24)

/-- `temp` in `can_send_message`. -/
def idBytes (id : UInt32) : List UInt8 :=
  [ (id >>> 21).toUInt8,
    ((id >>> 16).toUInt8 &&& (0x03 : UInt8)) ||| ((id >>> 13).toUInt8 &&& (0xE0 : UInt8)) |||
      exideBit,
    (id >>> 8).toUInt8,
    id.toUInt8 ]

/-- What `can_send_message` writes into transmit buffer `txIndex`. -/
def loadBuffer (regs : Registers) (txIndex : Nat) (id : UInt32) (data : List UInt8)
    (length : UInt8) : Registers :=
  let regs := writeRegisters regs (txb0sidh + 16 * txIndex) (idBytes id)
  let regs := writeRegister regs (txb0dlc + 16 * txIndex) length
  let regs := writeRegisters regs (txb0d0 + 16 * txIndex) (data.take length.toNat)
  bitModify regs (txb0ctrl + 16 * txIndex) txreqBit txreqBit

/-- The buffer `can_send_message` takes, `sendable` being what its status reads
return. -/
def freeBuffer (sendable : Nat → Bool) : Option Nat :=
  if sendable 0 then some 0
  else if sendable 1 then some 1
  else if sendable 2 then some 2
  else none

/-- `can_send_message`; without a free buffer the frame is dropped. -/
def canSendMessage (sendable : Nat → Bool) (regs : Registers) (id : UInt32) (data : List UInt8)
    (length : UInt8) : Registers :=
  match freeBuffer sendable with
  | some txIndex => loadBuffer regs txIndex id data length
  | none => regs

/-- `canix_frame_send_with_prio`, `anySendable` being what `can_any_sendable`
returns. -/
def canixFrameSendWithPrio (anySendable : Bool) (sendable : Nat → Bool) (regs : Registers)
    (f : CanixFrame) (prio : UInt8) : Registers :=
  if anySendable then canSendMessage sendable regs (extId f prio) f.data.toList f.size else regs

/-! ## Receiving -/

/-- The identifier `mcp2515_read_message` collects from four registers. -/
def collectId (id : Nat → UInt8) : UInt32 :=
  (id 3).toUInt32 ||| ((id 2).toUInt32 <<< 8) ||| (((id 1).toUInt32 &&& (0x03 : UInt32)) <<< 16) |||
    ((((id 1).toUInt32 &&& (0xe0 : UInt32)) >>> 3) <<< 16) ||| ((id 0).toUInt32 <<< 21)

/-- The size `mcp2515_read_message` takes from the DLC register. -/
def dlcSize (dlc : UInt8) : UInt8 := dlc &&& (0x0F : UInt8)

/-- What `mcp2515_read_message` returns and writes through its pointers. -/
structure ReadMessage where
  extended : UInt32
  size : UInt8
  data : Vector UInt8 8
deriving DecidableEq, Repr

/-- The message in what `mcp2515_read_message` has returned. -/
def ReadMessage.message (m : ReadMessage) : CanMessage :=
  ⟨m.extended, m.data.toList.take m.size.toNat, length_take_cells _ _⟩

/-- `mcp2515_read_message`, `data` being the caller's array. -/
def mcp2515ReadMessage (regs : Registers) (data : Vector UInt8 8) : Option ReadMessage := do
  let extended := collectId fun i => regs (rxb0sidh + i)
  let size := dlcSize (regs rxb0dlc)
  let data ← copyLoop (fun i => some (regs (rxb0d0 + i))) size.toNat data
  return ⟨extended, size, data⟩

/-- `mcp2515_message_available` -/
def mcp2515MessageAvailable (regs : Registers) : Bool := regs canintf &&& rx0ifBit != 0

/-! ## Identifiers -/

theorem extId_toNat (f : CanixFrame) (prio : UInt8) :
    (extId f prio).toNat =
      wireId (f.src.toNat % 1024) (f.dst.toNat % 1024) (f.proto.toNat % 8) prio.toNat := by
  have hs : f.src.toNat &&& 1023 = f.src.toNat % 1024 := and_lowMask _ 10
  have hd : f.dst.toNat &&& 1023 = f.dst.toNat % 1024 := and_lowMask _ 10
  have hp : f.proto.toNat &&& 7 = f.proto.toNat % 8 := and_lowMask _ 3
  simp only [extId, addrMask, protoMask, UInt32.toNat_or, UInt32.toNat_and,
    UInt32.toNat_shiftLeft, UInt16.toNat_toUInt32, UInt8.toNat_toUInt32, UInt32.reduceToNat,
    Nat.reduceMod, hs, hd, hp]
  exact or_wireId (by omega) (by omega) (by omega) prio.toNat_lt

/-- The board splits what was put together from `src`, `dst` and `proto`. -/
theorem decodeFrame_wireId {src dst : UInt16} {proto : UInt8} {id : UInt32} {prio : Nat}
    (hsrc : src.toNat < 1024) (hdst : dst.toNat < 1024) (hproto : proto.toNat < 8)
    (hid : id.toNat = wireId src.toNat dst.toNat proto.toNat prio) (size : UInt8)
    (data : Vector UInt8 8) : decodeFrame id size data = ⟨src, dst, proto, size, data⟩ := by
  obtain ⟨h1, h2, h3⟩ := split_wireId hsrc hdst hproto hid
  simp only [decodeFrame, addrMask, protoMask, h1, h2, h3]

/-! ## Buffers and the bus -/

/-- A frame on the bus, or waiting in a buffer for it. -/
structure BusFrame where
  id : UInt32
  data : List UInt8
deriving DecidableEq, Repr

/-- The four registers from `sidh` on hold the identifier `id`: its upper 11
bits in SIDH and the top of SIDL, the 18 bits of the extension below. Bits 2
to 4 of SIDL belong to the controller. -/
structure HoldsId (regs : Registers) (sidh : Nat) (id : UInt32) : Prop where
  sidHigh : (regs sidh).toNat = id.toNat / 2 ^ 21
  sidLow : (regs (sidh + 1)).toNat / 2 ^ 5 = id.toNat / 2 ^ 18 % 2 ^ 3
  eidHigh : (regs (sidh + 1)).toNat % 2 ^ 2 = id.toNat / 2 ^ 16 % 2 ^ 2
  eidMid : (regs (sidh + 2)).toNat = id.toNat / 2 ^ 8 % 2 ^ 8
  eidLow : (regs (sidh + 3)).toNat = id.toNat % 2 ^ 8

/-- The buffer whose registers start with `sidh` holds the frame `w`. A
controller sends what its transmit buffer holds, and its receive buffer holds
what it has received. -/
structure Holds (regs : Registers) (sidh : Nat) (w : BusFrame) : Prop where
  id : HoldsId regs sidh w.id
  length_le : w.data.length ≤ 8
  dlc : (regs (sidh + 4)).toNat % 16 = w.data.length
  data : ∀ i (h : i < w.data.length), regs (sidh + 5 + i) = w.data[i]

/-- The registers determine the identifier. -/
theorem HoldsId.unique {regs : Registers} {sidh : Nat} {id id' : UInt32}
    (h : HoldsId regs sidh id) (h' : HoldsId regs sidh id') : id = id' := by
  obtain ⟨h1, h2, h3, h4, h5⟩ := h
  obtain ⟨h1', h2', h3', h4', h5'⟩ := h'
  apply UInt32.toNat_inj.mp
  omega

/-- A buffer holds one frame. -/
theorem Holds.unique {regs : Registers} {sidh : Nat} {w w' : BusFrame} (h : Holds regs sidh w)
    (h' : Holds regs sidh w') : w = w' := by
  have hid := h.id.unique h'.id
  have hlen : w.data.length = w'.data.length := h.dlc.symm.trans h'.dlc
  have hdata : w.data = w'.data := by
    apply List.ext_getElem hlen
    intro i hi hi'
    rw [← h.data i hi, ← h'.data i hi']
  cases w
  cases w'
  simp only at hid hdata
  rw [hid, hdata]

/-- Two buffers with the same registers hold the same frame, whatever the
controller keeps in SIDL. -/
theorem Holds.copy {regs regs' : Registers} {sidh sidh' : Nat} {w : BusFrame}
    (h : Holds regs sidh w) (hcopy : ∀ i < 13, regs' (sidh' + i) = regs (sidh + i)) :
    Holds regs' sidh' w := by
  obtain ⟨⟨h1, h2, h3, h4, h5⟩, hlen, hdlc, hdata⟩ := h
  refine ⟨⟨?_, ?_, ?_, ?_, ?_⟩, hlen, ?_, ?_⟩
  · rw [← h1, ← Nat.add_zero sidh', hcopy 0 (by omega), Nat.add_zero]
  · rw [hcopy 1 (by omega), h2]
  · rw [hcopy 1 (by omega), h3]
  · rw [hcopy 2 (by omega), h4]
  · rw [hcopy 3 (by omega), h5]
  · rw [hcopy 4 (by omega), hdlc]
  · intro i hi
    rw [Nat.add_assoc, hcopy (5 + i) (by omega), ← Nat.add_assoc, hdata i hi]

/-- `mcp2515_read_message` collects the identifier the registers hold. -/
theorem collectId_eq {regs : Registers} {sidh : Nat} {id : UInt32} (h : HoldsId regs sidh id) :
    (collectId fun i => regs (sidh + i)) = id := by
  obtain ⟨h1, h2, h3, h4, h5⟩ := h
  have hl : (regs (sidh + 1)).toNat &&& 3 = (regs (sidh + 1)).toNat % 4 := and_lowMask _ 2
  have hm : (regs (sidh + 1)).toNat &&& 224 = (regs (sidh + 1)).toNat / 2 ^ 5 % 2 ^ 3 * 2 ^ 5 :=
    and_fieldMask _ 5 3
  have hr0 := (regs (sidh + 3)).toNat_lt
  have hr2 := (regs (sidh + 2)).toNat_lt
  have hr1 := (regs (sidh + 1)).toNat_lt
  have hlt := id.toNat_lt
  apply UInt32.toNat_inj.mp
  simp only [collectId, UInt32.toNat_or, UInt32.toNat_and, UInt32.toNat_shiftLeft,
    UInt32.toNat_shiftRight, UInt8.toNat_toUInt32, UInt32.reduceToNat, Nat.reduceMod, hl, hm,
    Nat.add_zero]
  -- the field in the upper bits of SIDL goes down by 3 and up by 16 bits
  have hsid : ((regs (sidh + 1)).toNat / 2 ^ 5 % 2 ^ 3 * 2 ^ 5) >>> 3 <<< 16
      = ((regs (sidh + 1)).toNat / 2 ^ 5) <<< 18 := by
    rw [Nat.shiftRight_eq_div_pow, Nat.shiftLeft_eq, Nat.shiftLeft_eq]
    omega
  rw [hsid, or_registers hr0 hr2 (by omega) (by omega) (regs sidh).toNat_lt]
  omega

theorem idBytes_holds {regs : Registers} {sidh : Nat} {id : UInt32} (hid : id.toNat < 2 ^ 29)
    (hregs : ∀ i < 4, regs (sidh + i) = (idBytes id).getD i 0) : HoldsId regs sidh id := by
  have h0 : regs sidh = (id >>> 21).toUInt8 := hregs 0 (by omega)
  have h1 := hregs 1 (by omega)
  have h2 : regs (sidh + 2) = (id >>> 8).toUInt8 := hregs 2 (by omega)
  have h3 : regs (sidh + 3) = id.toUInt8 := hregs 3 (by omega)
  have hsidl : (regs (sidh + 1)).toNat
      = id.toNat / 2 ^ 16 % 2 ^ 2 + 2 ^ 3 + id.toNat / 2 ^ 18 % 2 ^ 3 * 2 ^ 5 := by
    have hl : id.toNat / 2 ^ 16 % 2 ^ 8 &&& 3 = id.toNat / 2 ^ 16 % 2 ^ 8 % 2 ^ 2 :=
      and_lowMask _ 2
    have hm : id.toNat / 2 ^ 13 % 2 ^ 8 &&& 224
        = (id.toNat / 2 ^ 13 % 2 ^ 8 / 2 ^ 5 % 2 ^ 3) <<< 5 := by
      rw [Nat.shiftLeft_eq]
      exact and_fieldMask _ 5 3
    have hexide : id.toNat / 2 ^ 16 % 2 ^ 8 % 2 ^ 2 ||| 8
        = id.toNat / 2 ^ 16 % 2 ^ 8 % 2 ^ 2 + 1 * 2 ^ 3 :=
      or_field (k := 3) (by omega) 1
    rw [h1]
    simp only [idBytes, exideBit, List.getD_cons_succ, List.getD_cons_zero, UInt8.toNat_or,
      UInt8.toNat_and, UInt32.toNat_toUInt8, UInt32.toNat_shiftRight, UInt32.reduceToNat,
      UInt8.reduceToNat, Nat.reduceMod, Nat.shiftRight_eq_div_pow]
    rw [hl, hm, Nat.or_assoc, Nat.or_comm _ 8, ← Nat.or_assoc, hexide, or_field (by omega)]
    omega
  refine ⟨?_, ?_, ?_, ?_, ?_⟩
  · have hshift : (id >>> 21).toNat = id.toNat / 2 ^ 21 := Nat.shiftRight_eq_div_pow _ 21
    rw [h0, UInt32.toNat_toUInt8, hshift]
    omega
  · omega
  · omega
  · have hshift : (id >>> 8).toNat = id.toNat / 2 ^ 8 := Nat.shiftRight_eq_div_pow _ 8
    rw [h2, UInt32.toNat_toUInt8, hshift]
  · rw [h3, UInt32.toNat_toUInt8]

/-! ## Register writes -/

theorem writeRegister_other (regs : Registers) {adress a : Nat} (h : a ≠ adress) (data : UInt8) :
    writeRegister regs adress data a = regs a := if_neg h

theorem writeRegisters_inside (regs : Registers) {adress i : Nat} {data : List UInt8}
    (h : i < data.length) : writeRegisters regs adress data (adress + i) = data.getD i 0 := by
  unfold writeRegisters
  rw [if_pos (by omega), Nat.add_sub_cancel_left]

theorem writeRegisters_outside (regs : Registers) {adress a : Nat} {data : List UInt8}
    (h : a < adress ∨ adress + data.length ≤ a) :
    writeRegisters regs adress data a = regs a := if_neg (by omega)

/-- The three groups of registers of a loaded buffer. -/
theorem loadBuffer_id (regs : Registers) (txIndex : Nat) (id : UInt32) (data : List UInt8)
    (length : UInt8) {i : Nat} (hi : i < 4) :
    loadBuffer regs txIndex id data length (txb0sidh + 16 * txIndex + i)
      = (idBytes id).getD i 0 := by
  simp only [loadBuffer, bitModify, txb0sidh, txb0dlc, txb0d0, txb0ctrl]
  rw [writeRegister_other _ (by omega), writeRegisters_outside _ (by omega),
    writeRegister_other _ (by omega)]
  exact writeRegisters_inside regs hi

theorem loadBuffer_dlc (regs : Registers) (txIndex : Nat) (id : UInt32) (data : List UInt8)
    (length : UInt8) :
    loadBuffer regs txIndex id data length (txb0sidh + 16 * txIndex + 4) = length := by
  simp only [loadBuffer, bitModify, txb0sidh, txb0dlc, txb0d0, txb0ctrl]
  rw [writeRegister_other _ (by omega), writeRegisters_outside _ (by omega)]
  unfold writeRegister
  exact if_pos (by omega)

theorem loadBuffer_data (regs : Registers) (txIndex : Nat) (id : UInt32) {data : List UInt8}
    {length : UInt8} {i : Nat} (hi : i < (data.take length.toNat).length) :
    loadBuffer regs txIndex id data length (txb0sidh + 16 * txIndex + 5 + i)
      = (data.take length.toNat)[i] := by
  have hadress : txb0sidh + 16 * txIndex + 5 + i = txb0d0 + 16 * txIndex + i := by
    unfold txb0sidh txb0d0
    omega
  rw [hadress]
  simp only [loadBuffer, bitModify, txb0sidh, txb0dlc, txb0d0, txb0ctrl]
  rw [writeRegister_other _ (by omega), writeRegisters_inside _ hi,
    List.getD_eq_getElem?_getD, List.getElem?_eq_getElem hi, Option.getD_some]

/-- **A loaded buffer holds the frame** that was sent. -/
theorem holds_loadBuffer (regs : Registers) (txIndex : Nat) {id : UInt32}
    (hid : id.toNat < 2 ^ 29) {data : List UInt8} {length : UInt8} (hlen : length.toNat ≤ 8)
    (hdata : length.toNat ≤ data.length) :
    Holds (loadBuffer regs txIndex id data length) (txb0sidh + 16 * txIndex)
      ⟨id, data.take length.toNat⟩ where
  id := idBytes_holds hid fun i hi => loadBuffer_id regs txIndex id data length hi
  length_le := by
    rw [List.length_take]
    omega
  dlc := by
    rw [loadBuffer_dlc, List.length_take]
    omega
  data i hi := loadBuffer_data regs txIndex id hi

/-- **Reading a held frame** stays inside the caller's array and returns the
frame. -/
theorem mcp2515ReadMessage_holds {regs : Registers} {w : BusFrame} (h : Holds regs rxb0sidh w)
    (data : Vector UInt8 8) :
    ∃ m, mcp2515ReadMessage regs data = some m ∧ m.extended = w.id ∧
      m.size.toNat = w.data.length ∧ m.data.toList.take m.size.toNat = w.data := by
  have hsize : (dlcSize (regs rxb0dlc)).toNat = w.data.length := by
    have hlow : (regs rxb0dlc).toNat &&& 15 = (regs rxb0dlc).toNat % 16 := and_lowMask _ 4
    unfold dlcSize
    rw [UInt8.toNat_and]
    exact hlow.trans h.dlc
  have hcopy := copyLoop_inside (k := w.data.length) (n := 8)
    (fun i _ => rfl : ∀ i < w.data.length,
      some (regs (rxb0d0 + i)) = some ((fun i => regs (rxb0d0 + i)) i)) h.length_le data
  refine ⟨⟨w.id, dlcSize (regs rxb0dlc), overwrite (fun i => regs (rxb0d0 + i)) w.data.length data⟩,
    ?_, rfl, hsize, ?_⟩
  · simp only [mcp2515ReadMessage, collectId_eq h.id, hsize, hcopy]
    rfl
  · rw [hsize, overwrite_take h.length_le]
    apply List.ext_getElem
    · simp
    · intro i hi hi'
      rw [List.getElem_map, List.getElem_range]
      exact h.data i hi'

end OpenHcan.Mcp2515
