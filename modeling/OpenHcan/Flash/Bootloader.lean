import OpenHcan.Canix.Eeprom
import OpenHcan.Flash.Crc16

/-!
# Bootloader — the boot section of a board (`hcanbl/main.c`)

The state of `main`, the `switch` over the management messages and the boot
decision. The stack variables `data` and `flash_buffer` are functions from
indices to bytes; cells outside the arrays are whatever lies there. The
interrupt-free polling loop takes one message at a time.
-/

namespace OpenHcan.Flash

/-- `SIZE_OF_FLASHBUFFER`, the `SPM_PAGESIZE` of the part. -/
def sizeOfFlashbuffer : Mcu → Nat
  | .atmega32 => 128
  | .atmega328p => 128
  | .atmega644p => 256

/-- The type byte for the signature of the part and the target it was compiled for. -/
def deviceType : Mcu → UInt8
  | .atmega32 => 0x11
  | .atmega328p => 0x33
  | .atmega644p => 0x22

/-! ## Message codes -/

def hmsPingRequest : UInt8 := 1
def hmsDeviceStateRequest : UInt8 := 3
def hmsDeviceReset : UInt8 := 5
def hmsDeviceBootStop : UInt8 := 6
def hmsDeviceLoadApp : UInt8 := 8
def hmsDeviceTypeRequest : UInt8 := 9
def hmsFlashBufferFill : UInt8 := 16
def hmsFlashBufferFillAck : UInt8 := 17
def hmsFlashBufferWrite : UInt8 := 18
def hmsFlashBufferWriteAck : UInt8 := 19
def hmsInternalEepromWrite : UInt8 := 20
def hmsInternalEepromReadRequest : UInt8 := 22
def hmsFlashCrc16Query : UInt8 := 37
def hmsFlashCrc16Replay : UInt8 := 38

def hcanMulticastPing : UInt16 := 31

def eeprSelfAddr : Nat := 2
def eeprBoardType : Nat := 4
def eeprFirmwareCrc16 : Nat := 16
def eeprFirmwareSize : Nat := 18

/-! ## The firmware in the flash -/

/-- The program memory, by byte addresses. -/
abbrev FlashMemory := Nat → UInt8

/-- `calculate_crc16_over_flash` -/
def calculateCrc16OverFlash (flash : FlashMemory) (size : Nat) : UInt16 :=
  crc16Words (fun i => flash (2 * i)) (fun i => flash (2 * i + 1)) (size / 2)

/-- The variables of `main` and the memories of the board. -/
structure Bootloader where
  selfAddr : UInt16
  bootCounter : Nat
  lineCounter : Nat
  data : Nat → UInt8
  flashBuffer : Nat → UInt8
  flash : FlashMemory
  eeprom : Eeprom

/-- What happens after a message: the loop goes on, the watchdog resets the
board, or the application runs. -/
inductive BootNext
  | loop
  | reset
  | app
deriving DecidableEq, Repr

/-- `can_read_message` into `data`: the cells behind the payload keep what they held. -/
def readMessage (data : Nat → UInt8) (f : CanixFrame) : Nat → UInt8 :=
  fun i => if i < f.size.toNat then f.byte i else data i

/-- `flash_buffer[data[2]+i] = data[3+i]` for four bytes. -/
def fillBuffer (buffer data : Nat → UInt8) : Nat → UInt8 :=
  fun x =>
    if (data 2).toNat ≤ x ∧ x < (data 2).toNat + 4 then data (3 + (x - (data 2).toNat))
    else buffer x

/-- Erase, fill and write the page of `addr`. The page buffer of the part is
addressed by words, modulo the page. -/
def writePage (mcu : Mcu) (flash : FlashMemory) (buffer : Nat → UInt8) (addr : Nat) :
    FlashMemory :=
  let page := sizeOfFlashbuffer mcu
  fun x =>
    if x / page = addr / page then
      buffer ((x % page / 2 * 2 + page - addr % page / 2 * 2) % page + x % 2)
    else flash x

structure BootResult where
  boot : Bootloader
  answer : Option CanixFrame
  next : BootNext

/-- `bytes` go to `data[1]`, `data[2]`, .. and `_send` sends them to the sender
of the message. -/
def bootSend (s : Bootloader) (f : CanixFrame) (bytes : List UInt8) : BootResult where
  boot := { s with
    data := fun i => if 1 ≤ i ∧ i ≤ bytes.length then bytes.getD (i - 1) 0 else s.data i }
  answer := some
    { src := s.selfAddr
      dst := f.src
      proto := hcanProtoSfp
      size := UInt8.ofNat (bytes.length + 1)
      data := payload (s.data 0 :: bytes) }
  next := .loop

/-- `HCAN_HMS_FLASH_BUFFER_FILL` -/
def flashBufferFill (s : Bootloader) (f : CanixFrame) : BootResult :=
  let lineCounter := if s.data 2 &&& 0x0f = 0 then 0 else s.lineCounter
  let s : Bootloader := { s with
    flashBuffer := fillBuffer s.flashBuffer s.data
    lineCounter := (lineCounter + 4) % 65536 }
  if s.lineCounter ≥ 16 then bootSend s f [hmsFlashBufferFillAck] else ⟨s, none, .loop⟩

/-- The `switch` over `data[1]`. -/
def bootSwitch (mcu : Mcu) (s : Bootloader) (f : CanixFrame) : BootResult :=
  let cmd := s.data 1
  let addr := word (s.data 3) (s.data 2)
  if cmd = hmsPingRequest then bootSend s f [2]
  else if cmd = hmsDeviceStateRequest then
    bootSend s f [4, if s.bootCounter ≠ 0 then 0 else 1]
  else if cmd = hmsDeviceReset then ⟨s, none, .reset⟩
  else if cmd = hmsDeviceBootStop then bootSend { s with bootCounter := 0 } f [7]
  else if cmd = hmsDeviceLoadApp then ⟨s, none, .app⟩
  else if cmd = hmsDeviceTypeRequest then
    bootSend s f [10, deviceType mcu, eepromReadByte s.eeprom eeprBoardType]
  else if cmd = hmsFlashBufferFill then flashBufferFill s f
  else if cmd = hmsFlashBufferWrite then
    bootSend { s with flash := writePage mcu s.flash s.flashBuffer addr } f
      [hmsFlashBufferWriteAck]
  else if cmd = hmsInternalEepromWrite then
    bootSend { s with eeprom := eepromWriteByte s.eeprom addr (s.data 4) } f [21]
  else if cmd = hmsInternalEepromReadRequest then
    bootSend s f [23, eepromReadByte s.eeprom addr]
  else if cmd = hmsFlashCrc16Query then
    let sum := (calculateCrc16OverFlash s.flash (word (s.data 2) (s.data 3))).toNat
    bootSend s f [hmsFlashCrc16Replay, hiByte sum, loByte sum]
  else ⟨s, none, .loop⟩

/-- One message in the main loop. -/
def bootReceive (mcu : Mcu) (s : Bootloader) (f : CanixFrame) : BootResult :=
  let s := { s with data := readMessage s.data f }
  if (f.dst = s.selfAddr ∨ f.dst = hcanMulticastPing) ∧ 2 ≤ f.size.toNat ∧ s.data 0 = hcanSrvHms
  then bootSwitch mcu s f
  else ⟨s, none, .loop⟩

end OpenHcan.Flash
