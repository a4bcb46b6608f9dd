import OpenHcan.Canix.Frame

/-!
# Rolladen — the roller shutter (`devices/rolladen.c`)

One shutter: its configuration, its state, the frame handler and the 10 Hz
timer handler. Two relays drive the motor: one switches the power, the other
the direction. Positions are run times in tenths of a second, counted from
the bottom.

The `canix_syslog_P` calls are left out. `DEVICE_STATES_REQUEST` sleeps
before it answers; frames and ticks that arrive meanwhile come before it
here.
-/

namespace OpenHcan.Rolladen

/-- `ROLLADEN_DIR_AUF` (up) and `ROLLADEN_DIR_AB` (down). -/
inductive Dir
  | auf
  | ab
deriving DecidableEq, Repr

/-- `!dir` -/
def Dir.not : Dir → Dir
  | .auf => .ab
  | .ab => .auf

/-- The level of the direction relay's pin. -/
def Dir.pin : Dir → Bool
  | .auf => false
  | .ab => true

/-- `eds_rolladen_block_t` -/
structure EdsRolladenBlock where
  portPower : UInt8
  portDir : UInt8
  taster : UInt8
  feature : UInt8
  laufzeit : UInt16
  maxRekalib : UInt16
  gruppe0 : UInt8
  gruppe1 : UInt8
  gruppe2 : UInt8
  gruppe3 : UInt8
  mute : UInt8
deriving DecidableEq, Repr

/-- `config.laufzeit` as an operand of a signed expression. -/
def EdsRolladenBlock.zeit (c : EdsRolladenBlock) : Int := c.laufzeit.toNat

/-- `config.feature & (1<<FEATURE_KALIBRIERUNG_OBEN)` -/
def EdsRolladenBlock.kalibrierungOben (c : EdsRolladenBlock) : Bool := c.feature &&& 1 ≠ 0

/-- `device_data_rolladen` -/
structure DeviceDataRolladen where
  config : EdsRolladenBlock
  mute : Bool
  kalibrieren : Bool
  summeLaufzeit : Nat
  laufzeit : Int
  sollLaufzeit : Int
  stoppuhr : Int
  dir : Dir
  sollDir : Dir
  exeDir : Bool
  lastDir : Dir
  sollPower : Bool
  power : Bool
  exePower : Bool
  blockingTimer : Nat
  changeDirCounter : Int
  longPressedCounter : Int
deriving DecidableEq, Repr

/-- `rolladen_init`. The execute flags and the blocking timer keep what the
memory held; `max_rekalib + 1` is a 16-bit sum. -/
def rolladenInit (p : DeviceDataRolladen) : DeviceDataRolladen :=
  { p with
    mute := false
    kalibrieren := true
    summeLaufzeit := (p.config.maxRekalib.toNat + 1) % 65536
    laufzeit := p.config.zeit / 2
    sollLaufzeit := -1
    stoppuhr := 0
    sollDir := .auf
    lastDir := .auf
    dir := .auf
    sollPower := false
    power := false
    changeDirCounter := -1
    longPressedCounter := -1 }

/-- `rolladen_get_position` -/
def rolladenGetPosition (p : DeviceDataRolladen) : UInt8 :=
  let pos := (100 * p.laufzeit).tdiv p.config.zeit + 1
  let pos := if pos < 2 then 0 else pos
  let pos := if pos > 98 then 100 else pos
  UInt8.ofNat pos.toNat

/-- `rolladen_send_changed_info` -/
def rolladenSendChangedInfo (selfaddr : UInt16) (p : DeviceDataRolladen) (pos : UInt8) :
    CanixFrame where
  src := selfaddr
  dst := hcanMulticastInfo
  proto := hcanProtoSfp
  size := 6
  data := payload [hcanSrvHes, hcanHesRolladenPositionChangedInfo, p.config.taster, pos, 0, 0]

/-- `is_group_in_rolladen` -/
def isGroupInRolladen (p : DeviceDataRolladen) (group : UInt8) : Bool :=
  p.config.taster == group ||
    [p.config.gruppe0, p.config.gruppe1, p.config.gruppe2, p.config.gruppe3].any (· == group)

/-! ## Calibration -/

/-- The target above the upper end (`laufzeit * 150 / 100`). -/
def obenSoll (p : DeviceDataRolladen) : Int := p.config.zeit * 150 / 100

/-- The target below the lower end (`-(laufzeit * 50 / 100)`). -/
def untenSoll (p : DeviceDataRolladen) : Int := -(p.config.zeit * 50 / 100)

/-- `prepare_calibration` -/
def prepareCalibration (p : DeviceDataRolladen) : DeviceDataRolladen :=
  if p.kalibrieren then
    if p.sollDir = .auf then { p with sollLaufzeit := obenSoll p }
    else { p with sollLaufzeit := untenSoll p }
  else if p.config.kalibrierungOben then
    if p.sollDir = .auf then { p with sollLaufzeit := obenSoll p, kalibrieren := true } else p
  else
    if p.sollDir = .ab then { p with sollLaufzeit := untenSoll p, kalibrieren := true } else p

/-- `calibration` -/
def calibration (p : DeviceDataRolladen) : DeviceDataRolladen :=
  if p.config.kalibrierungOben then
    if p.sollLaufzeit > p.config.zeit then
      { p with laufzeit := p.config.zeit, summeLaufzeit := 0, kalibrieren := false }
    else p
  else if p.sollLaufzeit < -1 then
    { p with laufzeit := 0, summeLaufzeit := 0, kalibrieren := false }
  else p

/-! ## Orders -/

/-- The first half of `rolladen_cmd_stop`: what the end positions mean for the
next order and for the calibration. -/
def stopEndlage (p : DeviceDataRolladen) : DeviceDataRolladen :=
  let pos := rolladenGetPosition p
  if pos = 0 ∨ pos = 100 then
    let p : DeviceDataRolladen := { p with lastDir := p.dir.not, changeDirCounter := -1 }
    if p.kalibrieren then calibration p else p
  else { p with kalibrieren := false }

/-- `rolladen_cmd_stop`, without the frame it sends. -/
def rolladenCmdStop (p : DeviceDataRolladen) : DeviceDataRolladen :=
  let p : DeviceDataRolladen := { stopEndlage p with
    stoppuhr := 0
    sollPower := false
    exePower := true
    sollDir := .auf }
  let p : DeviceDataRolladen :=
    if p.dir = .ab then { p with blockingTimer := 5, exeDir := false } else p
  { p with sollLaufzeit := -1 }

/-- The frame `rolladen_cmd_stop` sends. -/
def rolladenCmdStopInfo (selfaddr : UInt16) (p : DeviceDataRolladen) : CanixFrame :=
  rolladenSendChangedInfo selfaddr p (rolladenGetPosition p)

/-- `rolladen_cmd_drive` -/
def rolladenCmdDrive (p : DeviceDataRolladen) : DeviceDataRolladen :=
  let p := { p with sollPower := true }
  if p.sollDir = .ab then { p with exeDir := true, blockingTimer := 5, exePower := false }
  else { p with exePower := true }

/-- `set_soll_laufzeit`: 1 (`true`) if the target is not reached already. -/
def setSollLaufzeit (p : DeviceDataRolladen) (sollDir : Dir) : Bool × DeviceDataRolladen :=
  let soll := if sollDir = .ab then 0 else p.config.zeit
  let reached := if sollDir = .ab then p.laufzeit ≤ soll else p.laufzeit ≥ soll
  if reached then (false, { p with sollLaufzeit := -1 })
  else
    let p := { p with sollLaufzeit := soll, sollDir := sollDir }
    (true, if p.summeLaufzeit ≥ p.config.maxRekalib.toNat then prepareCalibration p else p)

/-! ## The frame handler -/

/-- Orders 200 and 201 of `ROLLADEN_POSITION_SET`: a button of the two-button
mode is pressed. -/
def tasterSet (selfaddr : UInt16) (p : DeviceDataRolladen) (dir : Dir) :
    DeviceDataRolladen × List CanixFrame :=
  if p.mute ∨ p.blockingTimer ≠ 0 then (p, [])
  else if p.power ∨ p.sollPower then (rolladenCmdStop p, [rolladenCmdStopInfo selfaddr p])
  else
    let (notReached, p) := setSollLaufzeit p dir
    if notReached then (rolladenCmdDrive { p with longPressedCounter := 10 }, [])
    else (p, [])

/-- The target of a position in percent, cut to the range of the shutter. -/
def prozentSoll (p : DeviceDataRolladen) (prozent : UInt8) : Int :=
  let soll := p.config.zeit * prozent.toNat / 100
  let soll := if soll < 0 then 0 else soll
  if soll > p.config.zeit then p.config.zeit else soll

/-- The default order of `ROLLADEN_POSITION_SET`: a position in percent. -/
def prozentSet (p : DeviceDataRolladen) (prozent : UInt8) : DeviceDataRolladen :=
  if p.mute ∨ p.blockingTimer ≠ 0 then p
  else
    let soll := prozentSoll p prozent
    if p.power ∨ p.sollPower ∨ soll = p.laufzeit then { p with sollLaufzeit := -1 }
    else
      rolladenCmdDrive { p with
        sollLaufzeit := soll
        kalibrieren := false
        sollDir := if soll < p.laufzeit then .ab else .auf }

/-- `ROLLADEN_POSITION_SET` -/
def positionSet (selfaddr : UInt16) (p : DeviceDataRolladen) (order : UInt8) :
    DeviceDataRolladen × List CanixFrame :=
  if order = 200 then tasterSet selfaddr p .ab
  else if order = 201 then tasterSet selfaddr p .auf
  else if order = 202 then
    let p := { p with longPressedCounter := -1 }
    (rolladenCmdStop p, [rolladenCmdStopInfo selfaddr p])
  else if order = 222 then ({ p with longPressedCounter := -1 }, [])
  else (prozentSet p order, [])

/-- `TASTER_DOWN`, the button of the one-button mode. -/
def tasterDown (selfaddr : UInt16) (p : DeviceDataRolladen) :
    DeviceDataRolladen × List CanixFrame :=
  if p.mute ∨ p.blockingTimer ≠ 0 then (p, [])
  else if p.power then
    let p := { p with changeDirCounter := 7 }
    (rolladenCmdStop p, [rolladenCmdStopInfo selfaddr p])
  else
    let p := (setSollLaufzeit p p.lastDir).2
    if p.sollLaufzeit ≠ -1 then (rolladenCmdDrive p, []) else (p, [])

/-- `ROLLADEN_DEFINE_POSITION` -/
def definePosition (p : DeviceDataRolladen) (pos : UInt8) : DeviceDataRolladen :=
  let laufzeit := ((pos.toNat + 1 : Nat) : Int) * p.config.zeit / 100
  { p with laufzeit := if laufzeit > p.config.zeit then p.config.zeit else laufzeit }

/-- An answer of `rolladen_can_callback`. -/
def rolladenAnswer (selfaddr : UInt16) (frame : CanixFrame) (bytes : List UInt8) : CanixFrame where
  src := selfaddr
  dst := frame.src
  proto := hcanProtoSfp
  size := UInt8.ofNat (bytes.length + 1)
  data := payload (hcanSrvHes :: bytes)

/-- The `switch` of `rolladen_can_callback`. -/
def rolladenSwitch (selfaddr : UInt16) (p : DeviceDataRolladen) (frame : CanixFrame) :
    DeviceDataRolladen × List CanixFrame :=
  let answer := rolladenAnswer selfaddr frame
  let cmd := frame.byte 1
  let inGroup := isGroupInRolladen p (frame.byte 2)
  if cmd = hcanHesRolladenPositionSet then
    if inGroup then positionSet selfaddr p (frame.byte 3) else (p, [])
  else if cmd = hcanHesTasterDown then
    if inGroup then tasterDown selfaddr p else (p, [])
  else if cmd = hcanHesTasterUp then
    (if inGroup then { p with changeDirCounter := -1 } else p, [])
  else if cmd = hcanHesRolladenDefinePosition then
    (if inGroup then definePosition p (frame.byte 3) else p, [])
  else if cmd = hcanHesDeviceStatesRequest then
    (p, if p.config.taster ≠ 255 then
      [answer [hcanHesRolladenPositionReplay, p.config.taster, rolladenGetPosition p]] else [])
  else if cmd = hcanHesRolladenPositionRequest then
    (p, if inGroup then
      [answer [hcanHesRolladenPositionReplay, frame.byte 2, rolladenGetPosition p]] else [])
  else if cmd = hcanHesDevicesConfigsRequest ∨ cmd = hcanHesRolladenConfigRq then
    (p, [answer [hcanHesRolladenConfigReplay, p.config.taster]])
  else (p, [])

/-- `rolladen_can_callback`: the shutter afterwards and the frames sent. The
early returns of the switch do not matter for the mute test behind it: they
belong to other commands. -/
def rolladenCanCallback (selfaddr : UInt16) (p : DeviceDataRolladen) (frame : CanixFrame) :
    DeviceDataRolladen × List CanixFrame :=
  let (p, frames) := rolladenSwitch selfaddr p frame
  if p.config.mute = frame.byte 2 then
    if frame.byte 1 = hcanHesMuteOff then ({ p with mute := false }, frames)
    else if frame.byte 1 = hcanHesMuteOn then ({ p with mute := true }, frames)
    else (p, frames)
  else (p, frames)

/-! ## The timer handler -/

/-- The two relays of a shutter. -/
inductive Relay
  | dir
  | power
deriving DecidableEq, Repr

/-- One call of `darlingtonoutput_setpin`. -/
structure PinWrite where
  relay : Relay
  port : UInt8
  value : Bool
deriving DecidableEq, Repr

/-- The calibration order of a button held for a second. -/
def longPressed (p : DeviceDataRolladen) : DeviceDataRolladen :=
  if p.longPressedCounter > 0 then { p with longPressedCounter := p.longPressedCounter - 1 }
  else if p.longPressedCounter = 0 then
    { prepareCalibration p with longPressedCounter := -1 }
  else p

/-- The change of direction of the one-button mode. -/
def changeDir (p : DeviceDataRolladen) : DeviceDataRolladen :=
  if p.changeDirCounter > 0 then { p with changeDirCounter := p.changeDirCounter - 1 }
  else if p.changeDirCounter = 0 then { p with lastDir := p.lastDir.not, changeDirCounter := -1 }
  else p

/-- The position after one more tick of driving. -/
def fahren (p : DeviceDataRolladen) : DeviceDataRolladen :=
  if p.dir = .ab then { p with laufzeit := p.laufzeit - 1 }
  else { p with laufzeit := p.laufzeit + 1 }

/-- A driving shutter has reached its target. -/
def sollErreicht (p : DeviceDataRolladen) : Bool :=
  if p.dir = .ab then p.laufzeit ≤ p.sollLaufzeit else p.laufzeit ≥ p.sollLaufzeit

/-- The check for the target ("Soll- und Endlage-Pruefung"). -/
def endlagePruefung (selfaddr : UInt16) (p : DeviceDataRolladen) :
    DeviceDataRolladen × List CanixFrame :=
  if p.power ∧ p.sollPower then
    let p := fahren p
    let (p, frames) :=
      if sollErreicht p then (rolladenCmdStop p, [rolladenCmdStopInfo selfaddr p]) else (p, [])
    ({ p with summeLaufzeit := (p.summeLaufzeit + 1) % 4294967296 }, frames)
  else (p, [])

/-- The part under "Relais-Blocking". -/
def relaisBlocking (p : DeviceDataRolladen) : DeviceDataRolladen :=
  if p.blockingTimer ≠ 0 then { p with blockingTimer := p.blockingTimer - 1 }
  else if p.sollPower then { p with exePower := true }
  else { p with exeDir := true }

/-- The part under "Relais-Execution": first the direction relay, then the power
relay. -/
def relaisExecution (p : DeviceDataRolladen) : DeviceDataRolladen × List PinWrite :=
  let (p, dirWrites) :=
    if p.exeDir ∧ p.dir ≠ p.sollDir then
      ({ p with dir := p.sollDir, exeDir := false },
        [⟨.dir, p.config.portDir, p.sollDir.pin⟩])
    else (p, [])
  if p.exePower ∧ p.power ≠ p.sollPower then
    ({ p with power := p.sollPower, exePower := false },
      dirWrites ++ [⟨.power, p.config.portPower, p.sollPower⟩])
  else (p, dirWrites)

/-- What one call of the timer handler does. -/
structure TimerResult where
  dev : DeviceDataRolladen
  writes : List PinWrite
  frames : List CanixFrame

/-- `rolladen_timer_handler` -/
def rolladenTimerHandler (selfaddr : UInt16) (p : DeviceDataRolladen) (zyklus : UInt8) :
    TimerResult :=
  if zyklus ≠ 10 then ⟨p, [], []⟩
  else
    let p := changeDir (longPressed p)
    let (p, frames) := endlagePruefung selfaddr p
    let (p, writes) := relaisExecution (relaisBlocking p)
    let p := if p.power then { p with stoppuhr := p.stoppuhr + 1 } else p
    ⟨p, writes, frames⟩

/-! ## A shutter in operation -/

/-- One write to a relay output: the value before and after, the tick, the
power output at that moment, and the last tick in which it was on. -/
structure RelayWrite where
  relay : Relay
  tick : Nat
  old : Bool
  value : Bool
  power : Bool
  lastOn : Option Nat
deriving DecidableEq, Repr

/-- A shutter with its two outputs. `tick` counts the 10 Hz calls; the rest is
observation: the last tick in which the power output was on, the tick of the
last switch of the direction output, the tick in which the power output was
last switched on, and the log of all writes. -/
structure Plant where
  dev : DeviceDataRolladen
  tick : Nat
  dirOut : Bool
  powerOut : Bool
  lastOn : Option Nat
  dirAt : Option Nat
  powerAt : Option Nat
  writes : List RelayWrite
deriving DecidableEq, Repr

/-- A shutter after `rolladen_init`, both relays off. -/
def Plant.start (p : DeviceDataRolladen) : Plant where
  dev := rolladenInit p
  tick := 0
  dirOut := false
  powerOut := false
  lastOn := none
  dirAt := none
  powerAt := none
  writes := []

/-- The output a write goes to takes the value. -/
def Plant.write (s : Plant) (w : PinWrite) : Plant :=
  match w.relay with
  | .dir =>
      { s with
        dirOut := w.value
        dirAt := if w.value ≠ s.dirOut then some s.tick else s.dirAt
        writes := s.writes ++ [⟨.dir, s.tick, s.dirOut, w.value, s.powerOut, s.lastOn⟩] }
  | .power =>
      { s with
        powerOut := w.value
        lastOn := if w.value then some s.tick else s.lastOn
        powerAt := if w.value ∧ ¬ s.powerOut then some s.tick else s.powerAt
        writes := s.writes ++ [⟨.power, s.tick, s.powerOut, w.value, s.powerOut, s.lastOn⟩] }

/-- A frame arrives, or a tenth of a second is over. -/
inductive RolladenEvent
  | frame (f : CanixFrame)
  | tick

def rolladenStep (selfaddr : UInt16) (s : Plant) : RolladenEvent → Plant
  | .frame f => { s with dev := (rolladenCanCallback selfaddr s.dev f).1 }
  | .tick =>
      let r := rolladenTimerHandler selfaddr s.dev 10
      r.writes.foldl Plant.write
        { s with
          dev := r.dev
          tick := s.tick + 1
          lastOn := if s.powerOut then some (s.tick + 1) else s.lastOn }

end OpenHcan.Rolladen
