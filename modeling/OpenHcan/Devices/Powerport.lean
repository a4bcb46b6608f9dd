import Mathlib.Algebra.Group.Nat.Defs
import OpenHcan.Canix.Frame
import OpenHcan.Lib.Resumption

/-!
# Powerport — a switched output (`devices/powerport.c`)

One powerport: its configuration, its state, the frame handler and the timer
handler. An output is switched at once or when a timer has run down, as the
features of the port say.

`canix_sleep_100th` handles frames and ticks while it waits: a function that
calls it is a `Resumption`. The `canix_syslog_P` calls are left out.
-/

namespace OpenHcan

open Lib

/-! ## The outputs -/

/-- The outputs of a board by their number, as `darlingtonoutput_getpin` reads
them. -/
abbrev Outputs := UInt8 → Bool

/-- `darlingtonoutput_getpin` -/
def darlingtonoutputGetpin (o : Outputs) (n : UInt8) : Bool := o n

/-- `darlingtonoutput_setpin` -/
def darlingtonoutputSetpin (o : Outputs) (n : UInt8) (state : Bool) : Outputs :=
  fun k => if k = n then state else o k

namespace Powerport

def hcanHesPowerGroupOn : UInt8 := 10
def hcanHesPowerGroupOff : UInt8 := 11
def hcanHesPowerGroupStateQuery : UInt8 := 12
def hcanHesPowerGroupStateReplay : UInt8 := 13
def hcanHesPowerGroupStateInfo : UInt8 := 17
def hcanHesSchalterOn : UInt8 := 25
def hcanHesSchalterOff : UInt8 := 26
def hcanHesWeckerSet : UInt8 := 72
def hcanHesWeckerDetailsRequest : UInt8 := 73
def hcanHesWeckerDetails : UInt8 := 74
def hcanHesPowerGroupConfigRq : UInt8 := 77
def hcanHesPowerGroupConfigReplay : UInt8 := 78

/-- The bits of `config.feature`. -/
inductive Feature
  | bistableRelais
  | verzoegertEin
  | autoAus
  | nachlauf
  | weckVerzoegertEin
  | weckAutoAus
deriving DecidableEq, Repr

/-- `1<<POWERPORT_FEATURE_…` -/
def Feature.mask : Feature → UInt8
  | .bistableRelais => 1
  | .verzoegertEin => 2
  | .autoAus => 4
  | .nachlauf => 8
  | .weckVerzoegertEin => 16
  | .weckAutoAus => 32

/-- `eds_powerport_block_t` -/
structure EdsPowerportBlock where
  port : UInt8
  feature : UInt8
  gruppe0 : UInt8
  gruppe1 : UInt8
  gruppe2 : UInt8
  timer : UInt8
  mute : UInt8
deriving DecidableEq, Repr

/-- `config.feature & (1<<POWERPORT_FEATURE_…)` -/
def EdsPowerportBlock.has (c : EdsPowerportBlock) (f : Feature) : Bool := c.feature &&& f.mask ≠ 0

/-- `config.feature &= ~(1<<POWERPORT_FEATURE_…)` -/
def EdsPowerportBlock.clear (c : EdsPowerportBlock) (f : Feature) : EdsPowerportBlock :=
  { c with feature := c.feature &&& ~~~ f.mask }

/-- `device_data_powerport` -/
structure DeviceDataPowerport where
  config : EdsPowerportBlock
  mute : Bool
  countDownTimer : UInt16
  bistableRelaisState : Bool
deriving DecidableEq, Repr

/-- `powerport_init`. The state of the bistable relay is what the memory held. -/
def powerportInit (p : DeviceDataPowerport) : DeviceDataPowerport :=
  { p with mute := false, countDownTimer := 0 }

/-- `powerport_setup_timer`: seconds if the top bit is set, minutes otherwise. -/
def powerportSetupTimer (p : DeviceDataPowerport) : DeviceDataPowerport :=
  { p with
    countDownTimer :=
      if p.config.timer &&& 0x80 ≠ 0 then (p.config.timer &&& 0x7f).toUInt16
      else p.config.timer.toUInt16 * 60 }

/-- What the functions of a powerport read and write: its data, the outputs of
the board, and the frames the board has sent. -/
structure PowerportIO where
  dev : DeviceDataPowerport
  outputs : Outputs
  sent : List CanixFrame

/-- The data change. -/
def PowerportIO.update (s : PowerportIO) (f : DeviceDataPowerport → DeviceDataPowerport) :
    PowerportIO :=
  { s with dev := f s.dev }

def PowerportIO.send (s : PowerportIO) (f : CanixFrame) : PowerportIO :=
  { s with sent := s.sent ++ [f] }

/-- The output of the powerport is switched. -/
def PowerportIO.setpin (s : PowerportIO) (state : Bool) : PowerportIO :=
  { s with outputs := darlingtonoutputSetpin s.outputs s.dev.config.port state }

/-- `countDownTimer = 0` -/
def timerAus (p : DeviceDataPowerport) : DeviceDataPowerport := { p with countDownTimer := 0 }

/-- `powerport_get` -/
def powerportGet (s : PowerportIO) : Bool :=
  if s.dev.config.has .bistableRelais then s.dev.bistableRelaisState
  else darlingtonoutputGetpin s.outputs s.dev.config.port

def boolByte (b : Bool) : UInt8 := if b then 1 else 0

/-- `powerport_send_state_info` -/
def powerportSendStateInfo (selfaddr : UInt16) (s : PowerportIO) : PowerportIO :=
  s.send
    { src := selfaddr
      dst := hcanMulticastInfo
      proto := hcanProtoSfp
      size := 4
      data := payload [hcanSrvHes, hcanHesPowerGroupStateInfo, s.dev.config.gruppe0,
        boolByte (powerportGet s)] }

/-! ## Switching -/

/-- The end of the pulse that switches a bistable relay. -/
def pulsEnde (selfaddr : UInt16) (s : PowerportIO) : PowerportIO :=
  powerportSendStateInfo selfaddr
    ((s.setpin false).update fun p => { p with bistableRelaisState := !p.bistableRelaisState })

/-- `powerport_on` -/
def powerportOn (selfaddr : UInt16) (s : PowerportIO) : Resumption PowerportIO :=
  if s.dev.config.has .bistableRelais then
    .sleep (s.setpin true) fun s => .done (pulsEnde selfaddr s)
  else .done (powerportSendStateInfo selfaddr (s.setpin true))

/-- `powerport_off` -/
def powerportOff (selfaddr : UInt16) (s : PowerportIO) : PowerportIO :=
  powerportSendStateInfo selfaddr (s.setpin false)

/-- `STEIGENDE_FLANKE` and `FALLENDE_FLANKE`. -/
inductive Flanke
  | steigend
  | fallend
deriving DecidableEq, Repr

/-- `set_powerport_or_timer` -/
def setPowerportOrTimer (selfaddr : UInt16) (s : PowerportIO) : Flanke → Resumption PowerportIO
  | .steigend =>
      if s.dev.config.has .autoAus then
        (powerportOn selfaddr s).map fun s => s.update powerportSetupTimer
      else if s.dev.config.has .verzoegertEin then .done (s.update powerportSetupTimer)
      else (powerportOn selfaddr s).map fun s => s.update timerAus
  | .fallend =>
      if s.dev.config.has .nachlauf then .done (s.update powerportSetupTimer)
      else .done ((powerportOff selfaddr s).update timerAus)

/-- `powerport_toggle`. The output of a bistable relay is off between the
pulses. -/
def powerportToggle (selfaddr : UInt16) (s : PowerportIO) : Resumption PowerportIO :=
  if darlingtonoutputGetpin s.outputs s.dev.config.port then
    setPowerportOrTimer selfaddr s .fallend
  else setPowerportOrTimer selfaddr s .steigend

/-- The timer has run down. -/
def timerAbgelaufen (selfaddr : UInt16) (s : PowerportIO) : Resumption PowerportIO :=
  if s.dev.config.has .weckVerzoegertEin then
    (powerportOn selfaddr s).map fun s =>
      (s.update fun p => { p with config := p.config.clear .weckVerzoegertEin }).update
        powerportSetupTimer
  else if s.dev.config.has .weckAutoAus then
    .done ((powerportOff selfaddr s).update fun p =>
      { p with config := p.config.clear .weckAutoAus })
  else if s.dev.config.has .verzoegertEin then powerportOn selfaddr s
  else if s.dev.config.has .autoAus ∨ s.dev.config.has .nachlauf then
    .done (powerportOff selfaddr s)
  else .done s

/-- `powerport_timer_handler` -/
def powerportTimerHandler (selfaddr : UInt16) (s : PowerportIO) (zyklus : UInt8) :
    Resumption PowerportIO :=
  if zyklus ≠ 1 then .done s
  else if s.dev.countDownTimer > 0 then
    (if s.dev.countDownTimer = 1 then timerAbgelaufen selfaddr s else .done s).map fun s =>
      s.update fun p => { p with countDownTimer := p.countDownTimer - 1 }
  else .done s

/-! ## The frame handler -/

/-- `is_in_group`. The group 255 is a placeholder. -/
def isInGroup (c : EdsPowerportBlock) (group : UInt8) : Bool :=
  group ≠ 255 && [c.gruppe0, c.gruppe1, c.gruppe2].any (· == group)

/-- An answer of `powerport_can_callback`. -/
def powerportAnswer (selfaddr : UInt16) (frame : CanixFrame) (bytes : List UInt8) :
    CanixFrame where
  src := selfaddr
  dst := frame.src
  proto := hcanProtoSfp
  size := UInt8.ofNat (bytes.length + 1)
  data := payload (hcanSrvHes :: bytes)

/-- The minutes a state answer shows: the running one counts. -/
def restMinuten (p : DeviceDataPowerport) : UInt8 :=
  if p.countDownTimer ≠ 0 then (p.countDownTimer / 60 + 1).toUInt8 else 0

/-- `POWER_GROUP_STATE_REPLAY` for a group. -/
def stateReplay (selfaddr : UInt16) (frame : CanixFrame) (group : UInt8) (s : PowerportIO) :
    PowerportIO :=
  s.send (powerportAnswer selfaddr frame
    [hcanHesPowerGroupStateReplay, group, boolByte (powerportGet s), restMinuten s.dev])

/-- `POWER_GROUP_CONFIG_REPLAY` for a group. -/
def configReplay (selfaddr : UInt16) (frame : CanixFrame) (group : UInt8) (s : PowerportIO) :
    PowerportIO :=
  s.send (powerportAnswer selfaddr frame [hcanHesPowerGroupConfigReplay, group])

/-- `WECKER_SET`: the feature is added and the timer set. -/
def weckerSet (selfaddr : UInt16) (frame : CanixFrame) (s : PowerportIO) :
    Resumption PowerportIO :=
  if s.dev.config.gruppe0 = frame.byte 2 then
    let s := s.update fun p =>
      { p with
        config := { p.config with
          feature := p.config.feature ||| UInt8.ofNat (2 ^ (frame.byte 3).toNat) }
        countDownTimer := UInt16.ofNat (word (frame.byte 4) (frame.byte 5)) }
    if s.dev.config.has .weckAutoAus then powerportOn selfaddr s else .done s
  else .done s

/-- `WECKER_DETAILS_REQUEST` -/
def weckerDetails (selfaddr : UInt16) (frame : CanixFrame) (s : PowerportIO) : PowerportIO :=
  if s.dev.config.gruppe0 = frame.byte 2 then
    s.send (powerportAnswer selfaddr frame
      [hcanHesWeckerDetails, s.dev.config.gruppe0, hiByte s.dev.countDownTimer.toNat,
        loByte s.dev.countDownTimer.toNat])
  else s

/-- The `switch` of `powerport_can_callback`, for a frame to one of the groups. -/
def powerportSwitch (selfaddr : UInt16) (frame : CanixFrame) (s : PowerportIO) :
    Resumption PowerportIO :=
  let cmd := frame.byte 1
  if cmd = hcanHesTasterDown then
    if s.dev.mute then .done s else powerportToggle selfaddr s
  else if cmd = hcanHesPowerGroupOn ∨ cmd = hcanHesSchalterOn then
    if s.dev.mute then .done s else setPowerportOrTimer selfaddr s .steigend
  else if cmd = hcanHesPowerGroupOff ∨ cmd = hcanHesSchalterOff then
    if s.dev.mute then .done s else setPowerportOrTimer selfaddr s .fallend
  else if cmd = hcanHesPowerGroupStateQuery then
    .done (stateReplay selfaddr frame (frame.byte 2) s)
  else if cmd = hcanHesPowerGroupConfigRq then
    .done (configReplay selfaddr frame (frame.byte 2) s)
  else if cmd = hcanHesWeckerSet then weckerSet selfaddr frame s
  else if cmd = hcanHesWeckerDetailsRequest then .done (weckerDetails selfaddr frame s)
  else .done s

/-- A request to all devices: the answer comes a tenth of a second later. -/
def requestAll (reply : UInt8 → PowerportIO → PowerportIO) (s : PowerportIO) :
    Resumption PowerportIO :=
  if s.dev.config.gruppe0 ≠ 255 then
    .sleep s fun s => .done (reply s.dev.config.gruppe0 s)
  else .done s

/-- The end of `powerport_can_callback`: the mute groups. -/
def muteGruppe (frame : CanixFrame) (p : DeviceDataPowerport) : DeviceDataPowerport :=
  if p.config.mute = frame.byte 2 then
    if frame.byte 1 = hcanHesMuteOff then { p with mute := false }
    else if frame.byte 1 = hcanHesMuteOn then
      let p := { p with mute := true }
      if p.config.has .nachlauf ∧ p.countDownTimer = 0 then powerportSetupTimer p else p
    else p
  else p

/-- `powerport_can_callback` -/
def powerportCanCallback (selfaddr : UInt16) (frame : CanixFrame) (s : PowerportIO) :
    Resumption PowerportIO :=
  (if isInGroup s.dev.config (frame.byte 2) then powerportSwitch selfaddr frame s
    else if frame.byte 1 = hcanHesDeviceStatesRequest then
      requestAll (stateReplay selfaddr frame) s
    else if frame.byte 1 = hcanHesDevicesConfigsRequest then
      requestAll (configReplay selfaddr frame) s
    else .done s).map fun s => s.update (muteGruppe frame)

end Powerport

end OpenHcan
