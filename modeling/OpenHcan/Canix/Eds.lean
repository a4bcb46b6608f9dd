import OpenHcan.Canix.Eeprom

/-!
# Eds — the EEPROM Data System (`canix/eds.c`)

The board-side heap in the EEPROM: a row of blocks, each a type byte, a size
byte and its data, type 0 marking a free block. The loops over the chain of
blocks carry a fuel argument; every turn advances the block pointer by at
least two, so `edsEnd mcu` turns are more than any of them takes.

The `canix_syslog_P` calls are left out: they write nothing the modelled
functions read.
-/

namespace OpenHcan.Eds

def edsMagic1 : UInt8 := 0xe4
def edsMagic2 : UInt8 := 0x7d

def edsStart : Nat := 32
def edsDataStart : Nat := edsStart + 2

/-- `EDS_END`: the last EEPROM address of the part. -/
def edsEnd : Mcu → Nat
  | .atmega328p | .atmega32 => 1023
  | .atmega644p => 2047

def edsOk : UInt8 := 0
def edsNotFormated : UInt8 := 1
def edsInvalidPointer : UInt8 := 2

/-! ## The block macros -/

def edsBlockType (m : Eeprom) (p : Nat) : UInt8 := eepromReadByte m p

def edsBlockIsFree (m : Eeprom) (p : Nat) : Bool := eepromReadByte m p == 0

def edsBlockSize (m : Eeprom) (p : Nat) : Nat := (eepromReadByte m (ptr (p + 1))).toNat

def edsSetBlockSize (m : Eeprom) (p : Nat) (t : UInt8) : Eeprom := eepromWriteByte m (p + 1) t

def edsSetBlockType (m : Eeprom) (p : Nat) (t : UInt8) : Eeprom := eepromWriteByte m p t

def edsBlockData (m : Eeprom) (p i : Nat) : UInt8 := eepromReadByte m (ptr (p + 2 + i))

/-! ## Formatting -/

/-- The `while` loop of `eds_format`. -/
def edsFormatLoop (mcu : Mcu) : Nat → Nat → Eeprom → Eeprom
  | 0, _, m => m
  | fuel + 1, p, m =>
      if p < edsEnd mcu - 2 then
        let size := if edsEnd mcu - (p + 1) > 128 then 128 else edsEnd mcu - (p + 1)
        let m := eepromWriteByte m p 0
        let m := eepromWriteByte m (p + 1) (UInt8.ofNat size)
        edsFormatLoop mcu fuel (p + 2 + size) m
      else m

/-- `eds_format` -/
def edsFormat (mcu : Mcu) (m : Eeprom) : Eeprom :=
  let m := eepromWriteByte m edsStart edsMagic1
  let m := eepromWriteByte m (edsStart + 1) edsMagic2
  edsFormatLoop mcu (edsEnd mcu) edsDataStart m

/-- `eds_init` -/
def edsInit (mcu : Mcu) (m : Eeprom) : UInt8 × Eeprom :=
  if eepromReadByte m edsStart = edsMagic1 ∧ eepromReadByte m (edsStart + 1) = edsMagic2 then
    (edsOk, m)
  else
    (edsNotFormated, edsFormat mcu m)

/-! ## Allocating and freeing -/

/-- `eds_next_block` -/
def edsNextBlock (m : Eeprom) (p : Nat) : Nat := ptr (p + 2 + edsBlockSize m p)

/-- The three writes with which `eds_alloc` cuts the block at `p` down to
`size` bytes: a free block is written behind it first. -/
def edsSplitBlock (m : Eeprom) (p : Nat) (size : UInt8) : Eeprom :=
  let m := eepromWriteByte m (p + 2 + size.toNat) 0
  let m := eepromWriteByte m (p + 2 + size.toNat + 1)
    (UInt8.ofNat (edsBlockSize m p - size.toNat - 2))
  eepromWriteByte m (p + 1) size

/-- The `for` loop of `eds_alloc`. -/
def edsAllocLoop (mcu : Mcu) (size : UInt8) (m : Eeprom) : Nat → Nat → Nat × Eeprom
  | 0, _ => (0, m)
  | fuel + 1, p =>
      if p < edsEnd mcu then
        if edsBlockType m p = 0 ∧ edsBlockSize m p ≥ size.toNat then
          if edsBlockSize m p = size.toNat then (p, m)
          else if edsBlockSize m p ≥ size.toNat + 2 then (p, edsSplitBlock m p size)
          else edsAllocLoop mcu size m fuel (edsNextBlock m p)
        else edsAllocLoop mcu size m fuel (edsNextBlock m p)
      else (0, m)

/-- `eds_alloc` -/
def edsAlloc (mcu : Mcu) (m : Eeprom) (size : UInt8) : Nat × Eeprom :=
  edsAllocLoop mcu size m (edsEnd mcu) edsDataStart

/-- The `for` loop of `eds_free`. -/
def edsFreeLoop (mcu : Mcu) (block : Nat) (m : Eeprom) : Nat → Nat → UInt8 × Eeprom
  | 0, _ => (edsInvalidPointer, m)
  | fuel + 1, p =>
      if p < edsEnd mcu then
        if p = block then (edsOk, edsSetBlockType m p 0)
        else edsFreeLoop mcu block m fuel (edsNextBlock m p)
      else (edsInvalidPointer, m)

/-- `eds_free` -/
def edsFree (mcu : Mcu) (m : Eeprom) (block : Nat) : UInt8 × Eeprom :=
  edsFreeLoop mcu block m (edsEnd mcu) edsDataStart

/-- One turn of `eds_defragment` at block `p`: the block the turn ends on
(the previous free block, if it swallowed `p`) and the memory. -/
def edsDefragmentTurn (m : Eeprom) (p lastFree : Nat) : Nat × Eeprom :=
  if lastFree ≠ 0 ∧ edsBlockIsFree m p = true then
    let lastSize := edsBlockSize m lastFree
    let size := edsBlockSize m p
    if lastSize + 2 + size ≤ 255 then
      (lastFree, edsSetBlockSize m lastFree (UInt8.ofNat (lastSize + 2 + size)))
    else (p, m)
  else (p, m)

/-- The `for` loop of `eds_defragment`. -/
def edsDefragmentLoop (mcu : Mcu) : Nat → Nat → Nat → Eeprom → Eeprom
  | 0, _, _, m => m
  | fuel + 1, p, lastFree, m =>
      if p < edsEnd mcu then
        let (p, m) := edsDefragmentTurn m p lastFree
        let lastFree := if edsBlockIsFree m p then p else 0
        edsDefragmentLoop mcu fuel (edsNextBlock m p) lastFree m
      else m

/-- `eds_defragment` -/
def edsDefragment (mcu : Mcu) (m : Eeprom) : Eeprom :=
  edsDefragmentLoop mcu (edsEnd mcu) edsDataStart 0 m

/-! ## The frame handler -/

def hcanEdsGetNextBlock : UInt8 := 1
def hcanEdsGetNextBlockReplay : UInt8 := 2
def hcanEdsDefragment : UInt8 := 3
def hcanEdsAllocateBlock : UInt8 := 4
def hcanEdsAllocateBlockReplay : UInt8 := 5
def hcanEdsFreeBlock : UInt8 := 6
def hcanEdsFreeBlockReplay : UInt8 := 7
def hcanEdsReadFromBlock : UInt8 := 8
def hcanEdsReadFromBlockReplay : UInt8 := 9
def hcanEdsWriteToBlock : UInt8 := 10
def hcanEdsWriteToBlockReplay : UInt8 := 11
def hcanEdsFormat : UInt8 := 12

/-- The answer frame of `eds_can_callback` with the payload bytes `bytes`
behind the service byte. -/
def edsAnswer (selfaddr : UInt16) (frame : CanixFrame) (bytes : List UInt8) : CanixFrame where
  src := selfaddr
  dst := frame.src
  proto := hcanProtoSfp
  size := UInt8.ofNat (bytes.length + 1)
  data := payload (hcanSrvEds :: bytes)

/-- The pointer in cells 2 and 3 of a request. -/
def requestPtr (frame : CanixFrame) : Nat := word (frame.byte 2) (frame.byte 3)

/-- `eds_can_callback`: the EEPROM after the request and the answer sent. -/
def edsCanCallback (mcu : Mcu) (selfaddr : UInt16) (m : Eeprom) (frame : CanixFrame) :
    Eeprom × Option CanixFrame :=
  let answer := edsAnswer selfaddr frame
  if frame.byte 1 = hcanEdsGetNextBlock then
    let h1 := requestPtr frame
    let h2 := if h1 = 0 then edsDataStart else edsNextBlock m h1
    let h2 := if h2 ≥ edsEnd mcu then 0 else h2
    (m, some (answer [hcanEdsGetNextBlockReplay, hiByte h2, loByte h2, edsBlockType m h2,
      UInt8.ofNat (edsBlockSize m h2)]))
  else if frame.byte 1 = hcanEdsAllocateBlock then
    let (h2, m) := edsAlloc mcu m (frame.byte 3)
    -- the type is written without looking at the result: at address 0, if it failed
    let m := edsSetBlockType m h2 (frame.byte 2)
    (m, some (answer [hcanEdsAllocateBlockReplay, hiByte h2, loByte h2]))
  else if frame.byte 1 = hcanEdsFreeBlock then
    let (res, m) := edsFree mcu m (requestPtr frame)
    (m, some (answer [hcanEdsFreeBlockReplay, res]))
  else if frame.byte 1 = hcanEdsDefragment then
    (edsDefragment mcu m, none)
  else if frame.byte 1 = hcanEdsReadFromBlock then
    let h1 := requestPtr frame
    let index := (frame.byte 4).toNat
    (m, some (answer [hcanEdsReadFromBlockReplay,
      eepromReadByte m (ptr (h1 + index)), eepromReadByte m (ptr (h1 + index + 1)),
      eepromReadByte m (ptr (h1 + index + 2)), eepromReadByte m (ptr (h1 + index + 3))]))
  else if frame.byte 1 = hcanEdsWriteToBlock then
    let h1 := requestPtr frame
    let index := (frame.byte 4).toNat
    (eepromWriteByte m (ptr (h1 + index)) (frame.byte 5),
      some (answer [hcanEdsWriteToBlockReplay]))
  else if frame.byte 1 = hcanEdsFormat then
    (edsFormat mcu m, none)
  else (m, none)

end OpenHcan.Eds
