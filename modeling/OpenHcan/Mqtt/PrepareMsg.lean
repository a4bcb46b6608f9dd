import Mathlib.Data.Rat.Defs
import OpenHcan.Mqtt.MqttHcan

/-!
# PrepareMsg — from the broker to the CAN bus

`createMsg4cb` makes a CAN message of a received publish: `prepareMsg4cb` looks
for a device type whose tilde the topic begins with, reads the id behind it and
compares what follows with the entries of the type; `completeMsg4cb` adds the
id of the frame and its length. The message is built in the next slot of
`mqttRxBuf`, byte by byte.

The payload lies directly behind the topic in the receive buffer and the buffer
is zeroed before it is read into, so the topic as a string is continued by the
payload.
-/

namespace OpenHcan.Mqtt

open Lib

/-- What the C library is on the platform: the largest `long`, which has at
least 32 bits, and the `float` that `atof` reads from a text. -/
structure CLib where
  longMax : Nat
  longMax_ge : 2 ^ 31 - 1 ≤ longMax
  atof : List Char → CFloat

theorem long64_ge : 2 ^ 31 - 1 ≤ 2 ^ 63 - 1 := by decide

/-- A platform with a 64-bit `long`; its `atof` reads no temperature. -/
def clib64 : CLib := ⟨2 ^ 63 - 1, long64_ge, fun _ => .sixteenths 0⟩

/-- A received publish. -/
structure Received where
  topic : List Char
  payload : List Char
deriving DecidableEq, Repr

/-- `topic_rx`: the payload follows. -/
def Received.topicRx (rx : Received) : List Char := rx.topic ++ rx.payload

/-- What `prepareMsg4cb` writes: the slot and the device table. -/
structure Msg4cb where
  frame : CanFrame
  dev : DevTable

/-- `msg4cb->data[i] = b` -/
def Msg4cb.setData (m : Msg4cb) (i : Nat) (b : UInt8) : Msg4cb :=
  { m with frame := { m.frame with data := Function.update m.frame.data i b } }

@[simp] theorem Msg4cb.setData_dev (m : Msg4cb) (i : Nat) (b : UInt8) :
    (m.setData i b).dev = m.dev := rfl

@[simp] theorem Msg4cb.setData_data (m : Msg4cb) (i : Nat) (b : UInt8) :
    (m.setData i b).frame.data = Function.update m.frame.data i b := rfl

/-- `is(topic, key)` -/
def isKey (topic : List Char) (key : List Char) : Bool := strncmpEq key.length topic key

/-- `isEq(s1, s2, bisPos)` -/
def isEq (s1 s2 : List Char) (bisPos : Nat) : Bool := strncmpEq bisPos s1 s2

/-- 3 hours in seconds -/
def dauerHeizen : UInt16 := 10800

/-- A thermostat message: the target temperature is kept in `dev[]` and sent in
sixteenths of a degree, `dauer` is how long it holds. -/
def setThermostat (m : Msg4cb) (tSoll : CFloat) (dauer : UInt16) : UInt8 × Msg4cb :=
  let temp := tSoll.sixteenthsOf
  let m := m.setData 1 Hes.heizungSetModeThermostatDetails
  let m := { m with dev := m.dev.put (m.frame.data 2) fun d => { d with tSoll := tSoll } }
  (7, (((m.setData 3 (temp >>> 8).toUInt8).setData 4 temp.toUInt8).setData 5
    (dauer >>> 8).toUInt8).setData 6 dauer.toUInt8)

/-- `setClimateCanMsg` -/
def setClimateCanMsg (lib : CLib) (ha : Ha) (eDev : TeDev) (restTopic : List Char) (bisPos : Nat)
    (payload : List Char) (m : Msg4cb) : UInt8 × Msg4cb :=
  if isEq (ha.strDateiEintrag eDev).statT restTopic bisPos then
    (3, m.setData 1 Hes.heizungTistRequest)
  else if isEq ha.strDateiEintragClimate.modeCmdT restTopic bisPos then
    if isKey payload "off".toList then (3, m.setData 1 Hes.heizungSetModeOff)
    else if isKey payload "auto".toList then (3, m.setData 1 Hes.heizungSetModeAutomatik)
    else if isKey payload "heat".toList then setThermostat m (.sixteenths 312) dauerHeizen
    -- "cool": frost protection at 10 degrees without a time limit
    else setThermostat m (.sixteenths 160) 0
  else if isEq ha.strDateiEintragClimate.tempCmdT restTopic bisPos then
    setThermostat m (lib.atof payload) dauerHeizen
  else (0, m)

/-- The case of the device type in `prepareMsg4cb`. -/
def prepareCase (lib : CLib) (ha : Ha) (eDev : TeDev) (restTopic : List Char) (bisPos : Nat)
    (payload : List Char) (m : Msg4cb) : UInt8 × Msg4cb :=
  let e := ha.strDateiEintrag eDev
  match eDev with
  | .light | .switch =>
      if isEq e.statT restTopic bisPos then (3, m.setData 1 Hes.powerGroupStateQuery)
      else if isEq e.cmdT restTopic bisPos then
        (3, m.setData 1
          (if isKey payload "ON".toList then Hes.powerGroupOn else Hes.powerGroupOff))
      else (0, m)
  | .climate => setClimateCanMsg lib ha .climate restTopic bisPos payload m
  | .tempsensor =>
      if isEq e.statT restTopic bisPos then (3, m.setData 1 Hes.oneWireTemperatureQuery)
      else (0, m)
  | .reedkontakt =>
      if isEq e.statT restTopic bisPos then (3, m.setData 1 Hes.reedkontaktStateQuery)
      else (0, m)
  | .cover =>
      if isEq e.statT restTopic bisPos then (3, m.setData 1 Hes.rolladenPositionRequest)
      else if isEq e.cmdT restTopic bisPos then
        let m := m.setData 1 Hes.rolladenPositionSet
        if isKey payload "CLOSE".toList then (4, m.setData 3 200)
        else if isKey payload "OPEN".toList then (4, m.setData 3 201)
        else if isKey payload "STOP".toList then (4, m.setData 3 202)
        -- with another payload the position is not written
        else (4, m)
      else if isEq e.setPosT restTopic bisPos then
        let m := m.setData 1 Hes.rolladenPositionSet
        (4, m.setData 3 (UInt8.ofInt (strtol lib.longMax payload).1))
      else (0, m)

/-- The tilde of a device type is the beginning of `topic_rx`. -/
def tildeEq (ha : Ha) (rx : Received) (eDev : TeDev) : Bool :=
  let tilde := (ha.strDateiEintrag eDev).tildeOhneId
  isEq tilde rx.topicRx (strnlen tilde 35)

/-- The id behind the tilde, `strtol(&topic_rx[bisPos+1], &restTopic, 10)`, and
`restTopic`. -/
def idUndRest (lib : CLib) (ha : Ha) (rx : Received) (eDev : TeDev) : Int × List Char :=
  strtol lib.longMax (rx.topicRx.drop (strnlen (ha.strDateiEintrag eDev).tildeOhneId 35 + 1))

/-- `strnlen(restTopic, 30) - strnlen(payload_rx, 20)`, the number of characters
that are compared. -/
def vergleichsLaenge (rx : Received) (restTopic : List Char) : Nat :=
  sizeSub (strnlen restTopic 30) (strnlen rx.payload 20)

/-- One pass of the loop over the device types. -/
def prepareDev (lib : CLib) (ha : Ha) (rx : Received) (eDev : TeDev) (m : Msg4cb) :
    UInt8 × Msg4cb :=
  if tildeEq ha rx eDev then
    let (id, restTopic) := idUndRest lib ha rx eDev
    let m := m.setData 2 (UInt8.ofInt id)
    prepareCase lib ha eDev restTopic (vergleichsLaenge rx restTopic) rx.payload m
  else (0, m)

/-- The loop over the device types, up to the first match. -/
def prepareLoop (lib : CLib) (ha : Ha) (rx : Received) : List TeDev → Msg4cb → UInt8 × Msg4cb
  | [], m => (0, m)
  | eDev :: rest, m =>
      let (len, m) := prepareDev lib ha rx eDev m
      if len = 0 then prepareLoop lib ha rx rest m else (len, m)

/-- `prepareMsg4cb`: the length of the message, 0 for none. -/
def prepareMsg4cb (lib : CLib) (ha : Ha) (rx : Received) (m : Msg4cb) : UInt8 × Msg4cb :=
  prepareLoop lib ha rx TeDev.all m

/-- `completeMsg4cb` on the slot. -/
def completeMsg4cb (msgLen : UInt8) (msg4cb : CanFrame) : CanFrame where
  canId := (0x108DFD &&& canEffMask) ||| canEffFlag
  canDlc := msgLen
  data := Function.update msg4cb.data 0 5

/-- `createMsg4cb`: a message stays in its slot and the write index goes on. -/
def createMsg4cb (lib : CLib) (g : Gateway) (rx : Received) : Gateway × UInt8 :=
  let (msgLen, m) := prepareMsg4cb lib g.ha rx ⟨g.mqttRx.buf g.mqttRx.wIdx, g.ha.dev⟩
  let g := { g with ha := { g.ha with dev := m.dev } }
  if msgLen > 0 then
    ({ g with
      mqttRx := { g.mqttRx with
        buf := Function.update g.mqttRx.buf g.mqttRx.wIdx (completeMsg4cb msgLen m.frame)
        wIdx := nextIdx g.mqttRx.wIdx } }, msgLen)
  else
    ({ g with
      mqttRx := { g.mqttRx with
        buf := Function.update g.mqttRx.buf g.mqttRx.wIdx m.frame } }, msgLen)

end OpenHcan.Mqtt
