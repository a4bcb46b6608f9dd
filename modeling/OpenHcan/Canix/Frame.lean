import Mathlib.Data.List.Basic

/-!
# Frame — the HCAN frame

`canix_frame` and the protocol constants the modelled handlers use. The
payload array always has its eight cells; `size` says how many of them were
sent. A handler reads cells without looking at `size`, so the cells behind it
are part of the frame (they hold whatever the stack held).
-/

namespace OpenHcan

/-- `canix_frame`. -/
structure CanixFrame where
  src : UInt16
  dst : UInt16
  proto : UInt8
  size : UInt8
  data : Vector UInt8 8
deriving DecidableEq, Repr

/-- The payload array whose first cells are `bytes`. The cells behind them
are not sent. -/
def payload (bytes : List UInt8) : Vector UInt8 8 :=
  Vector.ofFn fun i => bytes.getD i 0

namespace CanixFrame

/-- `frame->data[i]` -/
def byte (f : CanixFrame) (i : Nat) : UInt8 := f.data[i]?.getD 0

/-- The bytes that are part of the frame on the bus. -/
def bytes (f : CanixFrame) : List UInt8 := f.data.toList.take f.size.toNat

end CanixFrame

/-- The bytes of a frame are read back from its payload. -/
theorem byte_payload (src dst : UInt16) (proto size : UInt8) (bytes : List UInt8) {i : Nat}
    (hi : i < 8) :
    CanixFrame.byte ⟨src, dst, proto, size, payload bytes⟩ i = bytes.getD i 0 := by
  simp [CanixFrame.byte, payload, hi]

/-- A 16-bit value from its high and low byte (`(hi << 8) | lo`). -/
def word (hi lo : UInt8) : Nat := hi.toNat * 256 + lo.toNat

/-- `(uint8_t) (v >> 8)` -/
def hiByte (v : Nat) : UInt8 := UInt8.ofNat (v / 256)

/-- `(uint8_t) v` -/
def loByte (v : Nat) : UInt8 := UInt8.ofNat v

theorem word_lt (hi lo : UInt8) : word hi lo < 65536 := by
  have hhi := hi.toNat_lt
  have hlo := lo.toNat_lt
  unfold word
  omega

theorem word_hiByte_loByte {v : Nat} (h : v < 65536) : word (hiByte v) (loByte v) = v := by
  simp only [word, hiByte, loByte, UInt8.toNat_ofNat']
  omega

/-! ## Protocols and services -/

def hcanProtoSfp : UInt8 := 1

def hcanSrvHms : UInt8 := 1
def hcanSrvHes : UInt8 := 5
def hcanSrvEds : UInt8 := 7

def hcanHesTasterDown : UInt8 := 1
def hcanHesTasterUp : UInt8 := 2
def hcanHesRolladenPositionSet : UInt8 := 20
def hcanHesRolladenPositionRequest : UInt8 := 21
def hcanHesRolladenPositionReplay : UInt8 := 22
def hcanHesRolladenDefinePosition : UInt8 := 23
def hcanHesRolladenPositionChangedInfo : UInt8 := 24
def hcanHesMuteOn : UInt8 := 27
def hcanHesMuteOff : UInt8 := 28
def hcanHesDeviceStatesRequest : UInt8 := 75
def hcanHesDevicesConfigsRequest : UInt8 := 76
def hcanHesRolladenConfigRq : UInt8 := 79
def hcanHesRolladenConfigReplay : UInt8 := 80

def hcanMulticastControl : UInt16 := 35
def hcanMulticastInfo : UInt16 := 36

/-- A frame of the simple protocol whose `data` begins with `bytes`. -/
def sfpFrame (src dst : UInt16) (bytes : List UInt8) : CanixFrame where
  src := src
  dst := dst
  proto := hcanProtoSfp
  size := UInt8.ofNat bytes.length
  data := payload bytes

@[simp] theorem sfpFrame_byte (src dst : UInt16) (bytes : List UInt8) {i : Nat} (hi : i < 8) :
    (sfpFrame src dst bytes).byte i = bytes.getD i 0 :=
  byte_payload src dst _ _ bytes hi

end OpenHcan
