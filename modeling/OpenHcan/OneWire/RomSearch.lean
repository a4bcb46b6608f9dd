import OpenHcan.Canix.Frame

/-!
# RomSearch — the devices of a 1-wire bus (`controllerboard/onewire.c`)

`ow_rom_search` finds one device in a pass and says where the next pass goes
on; `ow_discover` repeats it and reports the ids. The line is a `Bus` of
devices that follow the search protocol: it is high only if nobody pulls it
down. Timing is left out, and so is what handlers do while `ow_discover` sleeps
between its frames: the id buffer and the position are its own, and every pass
starts with a reset.
-/

namespace OpenHcan.OneWire

def hcanHes1WireDiscoveredPart1 : UInt8 := 31
def hcanHes1WireDiscoveredPart2 : UInt8 := 32
def hcanHes1WireError : UInt8 := 33

def searchRom : UInt8 := 0xF0

def searchFirst : UInt8 := 0xFF

def presenceErr : UInt8 := 0xFF

def dataErr : UInt8 := 0xFE

def lastDevice : UInt8 := 0x00

/-! ## The bits of an id -/

/-- A ROM id. -/
abbrev Rom := Vector UInt8 8

/-- The bits of a byte, the lowest first. -/
def byteBits (b : UInt8) : List Bool := (List.range 8).map fun j => b.toNat.testBit j

/-- The bits of an id in the order of the bus. -/
def romBits (r : Rom) : List Bool := r.toList.flatMap byteBits

def romBit (r : Rom) (k : Nat) : Bool := (romBits r).getD k false

/-- `b >>= 1; if (bit) b |= 0x80;` -/
def shiftIn (b : UInt8) (bit : Bool) : UInt8 := (b >>> 1) ||| (if bit then 0x80 else 0)

/-! ## The bus -/

/-- What the devices take the next slot for. -/
inductive Slot
  | idle
  | command (n : Nat) (cmd : UInt8)
  | bit (k : Nat)
  | complement (k : Nat)
  | direction (k : Nat)
deriving DecidableEq, Repr

/-- The devices of a bus, and those that are still selected. -/
structure Bus where
  devices : List Rom
  selected : List Rom
  slot : Slot

/-- No device pulls the line down. -/
def Bus.released (bus : Bus) : Bool :=
  match bus.slot with
  | .bit k => bus.selected.all fun r => romBit r k
  | .complement k => bus.selected.all fun r => !romBit r k
  | _ => true

/-- What a slot with this level of the line is for the devices. -/
def Bus.after (bus : Bus) (line : Bool) : Bus :=
  match bus.slot with
  | .idle => bus
  | .command n cmd =>
      { bus with
        slot :=
          if n + 1 < 8 then .command (n + 1) (shiftIn cmd line)
          else if shiftIn cmd line = searchRom then .bit 0
          else .idle }
  | .bit k => { bus with slot := .complement k }
  | .complement k => { bus with slot := .direction k }
  | .direction k =>
      { bus with
        selected := bus.selected.filter fun r => romBit r k = line
        slot := if k + 1 < 64 then .bit (k + 1) else .idle }

/-- `ow_reset`: is no device there? -/
def owReset (bus : Bus) : Bool × Bus :=
  (bus.devices.isEmpty, { bus with selected := bus.devices, slot := .command 0 0 })

/-- `ow_bit_io` -/
def owBitIo (bus : Bus) (bit : Bool) : Bool × Bus :=
  (bit && bus.released, bus.after (bit && bus.released))

/-- `ow_write_byte` -/
def owWriteByte (bus : Bus) (b : UInt8) : UInt8 × Bus :=
  (List.range 8).foldl
    (fun r _ => (shiftIn r.1 (owBitIo r.2 (r.1 &&& 1 ≠ 0)).1, (owBitIo r.2 (r.1 &&& 1 ≠ 0)).2))
    (b, bus)

/-! ## The search -/

/-- The variables of a search: the bus, `i` and `next_diff`. -/
structure Search where
  bus : Bus
  i : UInt8
  nextDiff : UInt8

/-- One bit of a search, with the byte of the id it is shifted into. -/
def searchBit (diff : UInt8) (s : Search) (byte : UInt8) :
    Except (UInt8 × Search) (UInt8 × Search) :=
  let read := owBitIo s.bus true
  let complement := owBitIo read.2 true
  if complement.1 = true ∧ read.1 = true then .error (byte, { s with bus := complement.2 })
  else
    let turn := complement.1 = false ∧ read.1 = false ∧
      (diff > s.i ∨ byte &&& 1 ≠ 0 ∧ diff ≠ s.i)
    let b := read.1 || turn
    .ok (shiftIn byte b,
      { bus := (owBitIo complement.2 b).2
        i := s.i - 1
        nextDiff := if turn then s.i else s.nextDiff })

/-- The next `j` bits, shifted into the byte. -/
def searchByte (diff : UInt8) : Nat → Search → UInt8 → Except (UInt8 × Search) (UInt8 × Search)
  | 0, s, byte => .ok (byte, s)
  | j + 1, s, byte =>
      match searchBit diff s byte with
      | .error r => .error r
      | .ok r => searchByte diff j r.2 r.1

/-- The bytes of the id, until `i` is 0. -/
def searchId (diff : UInt8) :
    List UInt8 → Search → Except (List UInt8 × Search) (List UInt8 × Search)
  | [], s => .ok ([], s)
  | byte :: id, s =>
      match searchByte diff 8 s byte with
      | .error r => .error (r.1 :: id, r.2)
      | .ok r =>
          if r.2.i = 0 then .ok (r.1 :: id, r.2)
          else
            match searchId diff id r.2 with
            | .error q => .error (r.1 :: q.1, q.2)
            | .ok q => .ok (r.1 :: q.1, q.2)

/-- The id buffer with these bytes. -/
def romOf (bytes : List UInt8) : Rom := Vector.ofFn fun i => bytes.getD i.val 0

/-- `ow_rom_search`: what it returns, the id buffer, and the bus. -/
def owRomSearch (bus : Bus) (diff : UInt8) (id : Rom) : UInt8 × Rom × Bus :=
  let reset := owReset bus
  if reset.1 then (presenceErr, id, reset.2)
  else
    match searchId diff id.toList ⟨(owWriteByte reset.2 searchRom).2, 8 * 8, lastDevice⟩ with
    | .error r => (dataErr, romOf r.1, r.2.bus)
    | .ok r => (r.2.nextDiff, romOf r.1, r.2.bus)

/-! ## The report -/

/-- An answer of `ow_discover`. -/
def answer (selfaddr dst : UInt16) (bytes : List UInt8) : CanixFrame where
  src := selfaddr
  dst := dst
  proto := hcanProtoSfp
  size := UInt8.ofNat (bytes.length + 1)
  data := payload (hcanSrvHes :: bytes)

/-- The two frames that report an id. -/
def discovered (selfaddr dst : UInt16) (id : Rom) : List CanixFrame :=
  [answer selfaddr dst [hcanHes1WireDiscoveredPart1, id.get 0, id.get 1, id.get 2, id.get 3],
    answer selfaddr dst [hcanHes1WireDiscoveredPart2, id.get 4, id.get 5, id.get 6, id.get 7]]

/-- The variables of `ow_discover`, and the frames it has sent. -/
structure Discover where
  bus : Bus
  id : Rom
  sent : List CanixFrame

/-- The loop of `ow_discover` with at most so many passes: `none` if they do not
suffice. -/
def discoverLoop (selfaddr dst : UInt16) : Nat → UInt8 → Discover → Option Discover
  | passes, diff, s =>
      if diff = lastDevice then some s
      else
        match passes with
        | 0 => none
        | n + 1 =>
            let r := owRomSearch s.bus diff s.id
            if r.1 = presenceErr then
              some ⟨r.2.2, r.2.1, s.sent ++ [answer selfaddr dst [hcanHes1WireError, 3]]⟩
            else if r.1 = dataErr then
              some ⟨r.2.2, r.2.1, s.sent ++ [answer selfaddr dst [hcanHes1WireError, 4]]⟩
            else
              discoverLoop selfaddr dst n r.1
                ⟨r.2.2, r.2.1, s.sent ++ discovered selfaddr dst r.2.1⟩

/-- `ow_discover` with at most so many passes; `id` is what the buffer on the stack
holds. -/
def owDiscover (selfaddr : UInt16) (frame : CanixFrame) (passes : Nat) (bus : Bus) (id : Rom) :
    Option Discover :=
  discoverLoop selfaddr frame.src passes searchFirst ⟨bus, id, []⟩

end OpenHcan.OneWire
