import Mathlib.Logic.Function.Basic
import OpenHcan.Lib.CString

/-!
# MqttHcan — the state of the Home Assistant gateway

`hcan4mqttha` stands between the CAN bus and an MQTT broker. Each direction has
a ring of 16 frames: a received CAN frame waits in `canRxBuf` for the broker,
the CAN message made of a received publish waits in `mqttRxBuf` for the bus. A
slot is never cleared, its content is left from the frame it held before.

`strDateiEintrag` holds what was read from the configuration files of the
device types, `dev[]` what is known of the devices by their id. An id is a byte
and the table has 255 entries: id 255 is the memory behind the table, which is
its cell 255 here.
-/

namespace OpenHcan.Mqtt

open Lib

set_option maxRecDepth 100000

/-! ## Messages of the HES service -/

namespace Hes

def powerGroupOn : UInt8 := 10
def powerGroupOff : UInt8 := 11
def powerGroupStateQuery : UInt8 := 12
def rolladenPositionSet : UInt8 := 20
def rolladenPositionRequest : UInt8 := 21
def oneWireTemperatureQuery : UInt8 := 35
def reedkontaktStateQuery : UInt8 := 41
def heizungSetModeOff : UInt8 := 52
def heizungSetModeThermostatDetails : UInt8 := 56
def heizungSetModeAutomatik : UInt8 := 58
def heizungTistRequest : UInt8 := 59

end Hes

/-- The messages the broker is interested in. -/
inductive Topic4Broker where
  | powerGroupConfigReplay
  | powerGroupStateReplay
  | powerGroupStateInfo
  | rolladenConfigReplay
  | rolladenPositionReplay
  | rolladenPositionChangedInfo
  | oneWireTemperatureConfigReplay
  | oneWireTemperature
  | oneWireTemperatureReplay
  | reedkontaktConfigReplay
  | reedkontaktStateReplay
  | reedkontaktStateChange
  | heizungConfigReplay
  | heizungModeOffDetails
  | heizungModeManualDetails
  | heizungModeThermostatDetails
  | heizungModeAutomatikDetails
  | heizungTistReplay
deriving DecidableEq, Repr

/-- The case labels of `isItTopic4Broker`. -/
def topic4Broker : UInt8 → Option Topic4Broker
  | 78 => some .powerGroupConfigReplay
  | 13 => some .powerGroupStateReplay
  | 17 => some .powerGroupStateInfo
  | 80 => some .rolladenConfigReplay
  | 22 => some .rolladenPositionReplay
  | 24 => some .rolladenPositionChangedInfo
  | 84 => some .oneWireTemperatureConfigReplay
  | 34 => some .oneWireTemperature
  | 36 => some .oneWireTemperatureReplay
  | 82 => some .reedkontaktConfigReplay
  | 42 => some .reedkontaktStateReplay
  | 43 => some .reedkontaktStateChange
  | 86 => some .heizungConfigReplay
  | 51 => some .heizungModeOffDetails
  | 53 => some .heizungModeManualDetails
  | 55 => some .heizungModeThermostatDetails
  | 57 => some .heizungModeAutomatikDetails
  | 60 => some .heizungTistReplay
  | _ => none

/-! ## Configuration and devices -/

/-- `teDev` -/
inductive TeDev where
  | light
  | switch
  | climate
  | tempsensor
  | reedkontakt
  | cover
deriving DecidableEq, Repr

/-- The device types in the order of the loops over them. -/
def TeDev.all : List TeDev := [.light, .switch, .climate, .tempsensor, .reedkontakt, .cover]

/-- `tConfigTopic` -/
structure ConfigTopic where
  tildeOhneId : List Char
  statT : List Char
  cmdT : List Char
  posT : List Char
  setPosT : List Char
deriving DecidableEq, Repr

/-- `tconfigTopicClimate` -/
structure ConfigTopicClimate where
  modeCmdT : List Char
  tempCmdT : List Char
deriving DecidableEq, Repr

/-- `tTempsensor` -/
structure Tempsensor where
  uiElement : Bool
  heizkoerperId : UInt8
deriving DecidableEq, Repr

/-- `hcanInstallation`, an entry of `dev[]` -/
structure HcanInstallation where
  sonstige : Bool
  bereichsname : List Char
  tempSensor : Tempsensor
  tIst : CFloat
  tSoll : CFloat
  mode : List Char
deriving DecidableEq, Repr

/-- `dev[]` -/
abbrev DevTable := UInt8 → HcanInstallation

/-- A field of one entry is written. -/
def DevTable.put (dev : DevTable) (id : UInt8) (f : HcanInstallation → HcanInstallation) :
    DevTable :=
  Function.update dev id (f (dev id))

/-- What the two directions share. -/
structure Ha where
  haOnline : Bool
  strDateiEintrag : TeDev → ConfigTopic
  strDateiEintragClimate : ConfigTopicClimate
  dev : DevTable

theorem DevTable.put_self (dev : DevTable) (id : UInt8) (f : HcanInstallation → HcanInstallation) :
    dev.put id f id = f (dev id) := by
  simp [DevTable.put]

theorem DevTable.put_of_ne (dev : DevTable) {id k : UInt8} (h : k ≠ id)
    (f : HcanInstallation → HcanInstallation) : dev.put id f k = dev k := by
  simp [DevTable.put, h]

/-- A write that changes nothing in the entry changes nothing. -/
theorem DevTable.put_id (dev : DevTable) (id : UInt8) {f : HcanInstallation → HcanInstallation}
    (h : f (dev id) = dev id) : dev.put id f = dev := by
  rw [DevTable.put, h, Function.update_eq_self]

/-! ## Frames and rings -/

/-- `struct can_frame`; the data bytes are the positions 0 to 7. -/
structure CanFrame where
  canId : UInt32
  canDlc : UInt8
  data : Nat → UInt8

/-- `CAN_EFF_MASK` -/
def canEffMask : UInt32 := 0x1FFFFFFF

/-- `CAN_EFF_FLAG` -/
def canEffFlag : UInt32 := 0x80000000

/-- `canRxBuf` or `mqttRxBuf` with its two indices. -/
structure Ring where
  buf : UInt8 → CanFrame
  wIdx : UInt8
  rIdx : UInt8

/-- `idx++; idx &= BUFFERSIZE-1;` -/
def nextIdx (idx : UInt8) : UInt8 := (idx + 1) &&& 15

/-- `*WIdx != *RIdx` -/
def Ring.waiting (r : Ring) : Bool := r.wIdx != r.rIdx

/-- The slot the next frame is written into, with another content. -/
def Ring.withOld (r : Ring) (old : CanFrame) : Ring :=
  { r with buf := Function.update r.buf r.wIdx old }

theorem nextIdx_ne (idx : UInt8) : nextIdx idx ≠ idx := by
  have hall : ∀ n : Fin 256, nextIdx (.ofFin n) ≠ .ofFin n := by decide
  exact hall idx.toFin

/-- The gateway: what both directions share, and the two rings. -/
structure Gateway where
  ha : Ha
  canRx : Ring
  mqttRx : Ring

end OpenHcan.Mqtt
