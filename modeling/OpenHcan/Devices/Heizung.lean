import Mathlib.Algebra.Group.Nat.Defs
import OpenHcan.Devices.Powerport
import OpenHcan.Lib.Machine

/-!
# Heizung — the valve of a radiator (`devices/heizung.c`)

A heating opens and closes a valve by pulse width modulation. Its mode says
where the heating rate comes from; a window that is open stops it, and once a
week the valve is exercised. The code of the PID controller is not part of the
default build.

What a handler reads from the rest of the board is an `Umgebung`: the clock,
which `zeitzone` matches, and the type of an EDS block.
-/

namespace OpenHcan.Heizung

open Lib

def hcanHes1WireTemperature : UInt8 := 34
def hcanHesReedkontaktOffen : UInt8 := 40
def hcanHesHeizungDetailsRequest : UInt8 := 50
def hcanHesHeizungModeOffDetails : UInt8 := 51
def hcanHesHeizungSetModeOff : UInt8 := 52
def hcanHesHeizungModeManualDetails : UInt8 := 53
def hcanHesHeizungSetModeManual : UInt8 := 54
def hcanHesHeizungModeThermostatDetails : UInt8 := 55
def hcanHesHeizungSetModeThermostatDetails : UInt8 := 56
def hcanHesHeizungModeAutomatikDetails : UInt8 := 57
def hcanHesHeizungSetModeAutomatik : UInt8 := 58
def hcanHesHeizungTistRequest : UInt8 := 59
def hcanHesHeizungTistReplay : UInt8 := 60
def hcanHesHeizungWaermebedarfInfo : UInt8 := 61
def hcanHesHeizungSolltempLineRequest : UInt8 := 66
def hcanHesHeizungSolltempLineReplay : UInt8 := 67
def hcanHesHeizungSolltempWriteLine : UInt8 := 68
def hcanHesHeizungSolltempWriteLineAck : UInt8 := 69
def hcanHesHeizungConfigRq : UInt8 := 85
def hcanHesHeizungConfigReplay : UInt8 := 86

/-- `EDS_heizung_BLOCK_ID` -/
def edsHeizungBlockId : UInt8 := 13

/-- `HEIZUNG_WAERMEBEDARF_VERZOEGERUNG_s` -/
def heizungWaermebedarfVerzoegerung : UInt8 := 210

/-! ## The data -/

/-- `HEIZUNG_MODE_…` -/
inductive HeizungMode
  | off
  | manual
  | thermostat
  | automatik
deriving DecidableEq, Repr

/-- The bits of `config.feature`. -/
inductive Feature
  | doppelWaermebedarf
  | ventilImmerPflegen
deriving DecidableEq, Repr

/-- `1<<HEIZUNG_FEATURE_…` -/
def Feature.mask : Feature → UInt8
  | .doppelWaermebedarf => 1
  | .ventilImmerPflegen => 2

/-- `solltemp_line_t` -/
structure SolltempLine where
  id : UInt8
  temp : Int16
deriving DecidableEq, Repr

/-- `eds_heizung_block_t`: the lines are `zeitzone0_id`, `zeitzone0_temp` to
`zeitzone7_temp`. -/
structure EdsHeizungBlock where
  id : UInt8
  port : UInt8
  pwmPeriode : UInt8
  sensorId : UInt8
  solltempLine : Vector SolltempLine 8
  feature : UInt8
  hysterese : UInt8
  reed : Vector UInt8 8
deriving DecidableEq, Repr

/-- `config.feature & (1<<HEIZUNG_FEATURE_…)` -/
def EdsHeizungBlock.has (c : EdsHeizungBlock) (f : Feature) : Bool := c.feature &&& f.mask ≠ 0

/-- `device_data_heizung` -/
structure DeviceDataHeizung where
  config : EdsHeizungBlock
  it : UInt16
  mode : HeizungMode
  manualRate : UInt8
  timerCounter : UInt8
  pwmCounter : UInt16
  pwmWidth : UInt16
  pwmEnd : UInt16
  waermebedarfCounter : UInt8
  receivedIntervalCounter : UInt8
  measureValue : Int16
  durationCounter : UInt16
  thermostatTemp : Int16
  lastSollTemp : Int16
  reedHeizStopCounter : UInt8
  ventilpflegeCounter : UInt16
deriving DecidableEq, Repr

/-- What a handler reads from the rest of the board. -/
structure Umgebung where
  hour : UInt8
  minute : UInt8
  dayOfWeek : UInt8
  zeitzoneMatches : UInt8 → Bool
  edsBlockType : UInt16 → UInt8

/-- What the functions of a heating read and write: its data, the outputs of the
board, and the frames the board has sent. -/
structure HeizungIO where
  dev : DeviceDataHeizung
  outputs : Outputs
  sent : List CanixFrame

def HeizungIO.update (s : HeizungIO) (f : DeviceDataHeizung → DeviceDataHeizung) : HeizungIO :=
  { s with dev := f s.dev }

def HeizungIO.send (s : HeizungIO) (f : CanixFrame) : HeizungIO :=
  { s with sent := s.sent ++ [f] }

/-- The valve is switched. -/
def HeizungIO.setpin (s : HeizungIO) (state : Bool) : HeizungIO :=
  { s with outputs := darlingtonoutputSetpin s.outputs s.dev.config.port state }

/-- The valve is open. -/
def HeizungIO.ventil (s : HeizungIO) : Bool := darlingtonoutputGetpin s.outputs s.dev.config.port

/-- `heizung_init` -/
def heizungInit (it : UInt16) (p : DeviceDataHeizung) : DeviceDataHeizung :=
  { p with
    it := it
    mode := .automatik
    manualRate := 0
    waermebedarfCounter := p.config.id &&& 0x3f
    receivedIntervalCounter := 255
    measureValue := 0
    durationCounter := 0
    thermostatTemp := 0
    reedHeizStopCounter := 0
    ventilpflegeCounter := 0
    pwmCounter := 0
    pwmWidth := 0
    pwmEnd := p.config.pwmPeriode.toUInt16 }

/-! ## Pulse width modulation -/

/-- `heizung_update_heizstop` -/
def heizungUpdateHeizstop (p : DeviceDataHeizung) : DeviceDataHeizung :=
  { p with pwmEnd := p.config.pwmPeriode.toUInt16, pwmWidth := 0 }

/-- `heizung_set_pwm` -/
def heizungSetPwm (p : DeviceDataHeizung) (rate : UInt8) : DeviceDataHeizung :=
  if p.reedHeizStopCounter ≠ 0 then heizungUpdateHeizstop p
  else
    { p with
      pwmEnd := p.config.pwmPeriode.toUInt16
      pwmWidth := UInt16.ofNat (p.config.pwmPeriode.toNat * rate.toNat / 100) }

/-- `heizung_get_pwm`: a period of 0 counts as an open valve. -/
def heizungGetPwm (p : DeviceDataHeizung) : UInt8 :=
  if p.mode ≠ .off then
    if p.pwmEnd = 0 then 100
    else UInt8.ofNat (p.pwmWidth.toNat * 100 / p.pwmEnd.toNat)
  else 0

/-- `++pwm_counter`, back to 0 at the end of the period. -/
def pwmNext (p : DeviceDataHeizung) : UInt16 :=
  if p.pwmCounter + 1 ≥ p.pwmEnd then 0 else p.pwmCounter + 1

/-- `heizung_handle_pwm` -/
def heizungHandlePwm (s : HeizungIO) : HeizungIO :=
  let s := s.update fun p => { p with pwmCounter := pwmNext p }
  s.setpin (s.dev.pwmCounter < s.dev.pwmWidth)

/-! ## The target temperature -/

/-- `heizung_get_matching_zeitzone_index`: `none` stands for -1. -/
def heizungGetMatchingZeitzoneIndex (u : Umgebung) (p : DeviceDataHeizung) : Option (Fin 8) :=
  (List.finRange 8).find? fun i => u.zeitzoneMatches (p.config.solltempLine.get i).id

/-- `heizung_get_matching_zeitzone_id` -/
def heizungGetMatchingZeitzoneId (u : Umgebung) (p : DeviceDataHeizung) : Option UInt8 :=
  (heizungGetMatchingZeitzoneIndex u p).map fun i => (p.config.solltempLine.get i).id

/-- `heizung_set_pwm_by_temp`: on and off at the target temperature, with a
hysteresis. -/
def heizungSetPwmByTemp (p : DeviceDataHeizung) (soll ist : Int16) : DeviceDataHeizung :=
  if heizungGetPwm p > 0 ∧ ist.toInt > soll.toInt + p.config.hysterese.toNat then heizungSetPwm p 0
  else if heizungGetPwm p = 0 ∧ ist.toInt < soll.toInt - p.config.hysterese.toNat then
    { heizungSetPwm p 100 with waermebedarfCounter := heizungWaermebedarfVerzoegerung }
  else p

/-! ## The details -/

/-- A frame with the address of the board. -/
def hesFrame (selfaddr dst : UInt16) (bytes : List UInt8) : CanixFrame where
  src := selfaddr
  dst := dst
  proto := hcanProtoSfp
  size := UInt8.ofNat (bytes.length + 1)
  data := payload (hcanSrvHes :: bytes)

def tempHi (t : Int16) : UInt8 := hiByte t.toUInt16.toNat

def tempLo (t : Int16) : UInt8 := loByte t.toUInt16.toNat

/-- `heizung_send_details` -/
def heizungDetails (u : Umgebung) (p : DeviceDataHeizung) : List UInt8 :=
  match p.mode with
  | .off => [hcanHesHeizungModeOffDetails, p.config.id]
  | .manual =>
      [hcanHesHeizungModeManualDetails, p.config.id, p.manualRate,
        hiByte p.durationCounter.toNat, loByte p.durationCounter.toNat]
  | .thermostat =>
      [hcanHesHeizungModeThermostatDetails, p.config.id, tempHi p.thermostatTemp,
        tempLo p.thermostatTemp, hiByte p.durationCounter.toNat, loByte p.durationCounter.toNat]
  | .automatik =>
      match heizungGetMatchingZeitzoneIndex u p with
      | some index =>
          [hcanHesHeizungModeAutomatikDetails, p.config.id,
            tempHi (p.config.solltempLine.get index).temp, tempLo (p.config.solltempLine.get index).temp,
            (heizungGetMatchingZeitzoneId u p).getD 255, tempHi p.measureValue,
            tempLo p.measureValue]
      | none => [hcanHesHeizungModeAutomatikDetails, p.config.id, 0, 0, 0]

def heizungSendDetails (selfaddr : UInt16) (u : Umgebung) (dst : UInt16) (s : HeizungIO) :
    HeizungIO :=
  s.send (hesFrame selfaddr dst (heizungDetails u s.dev))

/-! ## The timer handler -/

/-- `heizung_check_ventilpflege`: on sundays, at a minute that depends on the id. -/
def heizungCheckVentilpflege (u : Umgebung) (p : DeviceDataHeizung) : DeviceDataHeizung :=
  if p.ventilpflegeCounter = 0 ∧ (p.mode = .off ∨ p.config.has .ventilImmerPflegen) ∧
      u.dayOfWeek = 7 ∧
      u.hour.toNat * 60 + u.minute.toNat = p.config.id.toNat * 3 + (11 * 60 + 0) then
    { p with ventilpflegeCounter := 600 }
  else p

/-- The care of the valve and the age of the measured value. -/
def pflegeTick (u : Umgebung) (p : DeviceDataHeizung) : DeviceDataHeizung :=
  let p :=
    if p.ventilpflegeCounter > 0 then { p with ventilpflegeCounter := p.ventilpflegeCounter - 1 }
    else p
  let p := heizungCheckVentilpflege u p
  if p.receivedIntervalCounter ≠ 0xff then
    { p with receivedIntervalCounter := p.receivedIntervalCounter + 1 }
  else p

/-- The duration of a mode: the mode ends with it. -/
def durationTick (selfaddr : UInt16) (u : Umgebung) (s : HeizungIO) : HeizungIO :=
  if s.dev.durationCounter > 0 then
    let s := s.update fun p => { p with durationCounter := p.durationCounter - 1 }
    if s.dev.durationCounter = 0 then
      heizungSendDetails selfaddr u hcanMulticastInfo
        (s.update fun p => { p with mode := .automatik })
    else s
  else s

/-- The heat stop: the valve stays closed while a window is open. -/
def heizstopTick (p : DeviceDataHeizung) : DeviceDataHeizung :=
  if p.reedHeizStopCounter > 0 then
    heizungUpdateHeizstop { p with reedHeizStopCounter := p.reedHeizStopCounter - 1 }
  else p

/-- What `heizung_timer_handler` does every second. -/
def jedeSekunde (selfaddr : UInt16) (u : Umgebung) (s : HeizungIO) : HeizungIO :=
  (durationTick selfaddr u (heizungHandlePwm (s.update (pflegeTick u)))).update heizstopTick

/-- The mode sets the heating rate. -/
def modeZyklus (selfaddr : UInt16) (u : Umgebung) (s : HeizungIO) : HeizungIO :=
  match s.dev.mode with
  | .off =>
      let s := s.update fun p => heizungSetPwm { p with manualRate := 0 } 0
      if s.ventil then s.setpin false else s
  | .manual => s.update fun p => heizungSetPwm p p.manualRate
  | .automatik =>
      if s.dev.receivedIntervalCounter < 255 then
        match heizungGetMatchingZeitzoneIndex u s.dev with
        | some index =>
            let temp := (s.dev.config.solltempLine.get index).temp
            let s := s.update fun p => heizungSetPwmByTemp p temp p.measureValue
            if s.dev.lastSollTemp ≠ temp then
              (heizungSendDetails selfaddr u hcanMulticastInfo s).update fun p =>
                { p with lastSollTemp := temp }
            else s
        | none => s.update fun p => heizungSetPwm p 0
      else s
  | .thermostat =>
      if s.dev.receivedIntervalCounter < 255 then
        s.update fun p => heizungSetPwmByTemp p p.thermostatTemp p.measureValue
      else s

/-- The heat demand: the heating rate, doubled for two radiators. -/
def waermebedarf (p : DeviceDataHeizung) : UInt8 :=
  if p.config.has .doppelWaermebedarf then heizungGetPwm p <<< 1 else heizungGetPwm p

/-- The heat demand is reported every minute, if there is a measured value. -/
def waermebedarfMelden (selfaddr : UInt16) (s : HeizungIO) : HeizungIO :=
  if s.dev.receivedIntervalCounter = 255 ∧ s.dev.mode ≠ .manual then s
  else if s.dev.waermebedarfCounter = 0 then
    let s := s.update fun p => { p with waermebedarfCounter := 60 }
    s.send (hesFrame selfaddr hcanMulticastInfo
      [hcanHesHeizungWaermebedarfInfo, s.dev.config.id, waermebedarf s.dev])
  else s.update fun p => { p with waermebedarfCounter := p.waermebedarfCounter - 1 }

/-- The care of the valve opens it and leaves everything else. -/
def ventilpflegeAktiv (s : HeizungIO) : HeizungIO :=
  (s.update fun p => { p with manualRate := 0 }).setpin true

/-- A cycle of six seconds is over. The care of the valve leaves the function. -/
def zyklusEnde (selfaddr : UInt16) (u : Umgebung) (s : HeizungIO) : HeizungIO :=
  if s.dev.ventilpflegeCounter ≠ 0 then ventilpflegeAktiv s
  else waermebedarfMelden selfaddr (modeZyklus selfaddr u s)

/-- `timer_counter = n` -/
def timerCounterTo (n : UInt8) (p : DeviceDataHeizung) : DeviceDataHeizung :=
  { p with timerCounter := n }

/-- `heizung_timer_handler` -/
def heizungTimerHandler (selfaddr : UInt16) (u : Umgebung) (s : HeizungIO) (zyklus : UInt8) :
    HeizungIO :=
  if zyklus ≠ 1 then s
  else
    let s := jedeSekunde selfaddr u s
    if s.dev.timerCounter ≥ 5 then zyklusEnde selfaddr u (s.update (timerCounterTo 0))
    else
      waermebedarfMelden selfaddr (s.update fun p => timerCounterTo (p.timerCounter + 1) p)

/-! ## The frame handler -/

/-- `case_reedkontakt_offen`: an open window stops the heating for a minute. -/
def caseReedkontaktOffen (frame : CanixFrame) (p : DeviceDataHeizung) : DeviceDataHeizung :=
  if p.config.reed.toList.any (· == frame.byte 2) then { p with reedHeizStopCounter := 60 } else p

/-- A number of two bytes as a temperature. -/
def tempWord (hi lo : UInt8) : Int16 := (UInt16.ofNat (word hi lo)).toInt16

/-- What the frames that set a mode make of the data. -/
def setMode (frame : CanixFrame) (p : DeviceDataHeizung) : DeviceDataHeizung :=
  let cmd := frame.byte 1
  if cmd = hcanHesHeizungSetModeOff then { p with mode := .off }
  else if cmd = hcanHesHeizungSetModeManual then
    { p with
      mode := .manual
      manualRate := frame.byte 3
      durationCounter := UInt16.ofNat (word (frame.byte 4) (frame.byte 5)) }
  else if cmd = hcanHesHeizungSetModeThermostatDetails then
    { p with
      mode := .thermostat
      thermostatTemp := tempWord (frame.byte 3) (frame.byte 4)
      durationCounter := UInt16.ofNat (word (frame.byte 5) (frame.byte 6)) }
  else if cmd = hcanHesHeizungSetModeAutomatik then { p with mode := .automatik }
  else p

/-- The frame sets the mode of a heating. -/
def setztMode (frame : CanixFrame) : Bool :=
  [hcanHesHeizungSetModeOff, hcanHesHeizungSetModeManual, hcanHesHeizungSetModeThermostatDetails,
    hcanHesHeizungSetModeAutomatik].any (· == frame.byte 1)

/-- `HEIZUNG_SOLLTEMP_WRITE_LINE`: the line of the data is changed too. -/
def writeLine (frame : CanixFrame) (p : DeviceDataHeizung) : DeviceDataHeizung :=
  { p with
    config := { p.config with
      solltempLine := Vector.ofFn fun i =>
        if i.val = (frame.byte 3).toNat then
          { p.config.solltempLine.get i with temp := tempWord (frame.byte 4) (frame.byte 5) }
        else p.config.solltempLine.get i } }

/-- The answers of `heizung_can_callback` that depend on the data alone. -/
def antwort (u : Umgebung) (frame : CanixFrame) (p : DeviceDataHeizung) : Option (List UInt8) :=
  let cmd := frame.byte 1
  if cmd = hcanHesDeviceStatesRequest ∧ p.config.id ≠ 255 ∨
      cmd = hcanHesHeizungDetailsRequest ∧ frame.byte 2 = p.config.id then
    some (heizungDetails u p)
  else if cmd = hcanHesDevicesConfigsRequest ∨ cmd = hcanHesHeizungConfigRq then
    some [hcanHesHeizungConfigReplay, p.config.id, p.config.sensorId]
  else if cmd = hcanHesHeizungTistRequest ∧ frame.byte 2 = p.config.id then
    some [hcanHesHeizungTistReplay, p.config.id, tempHi p.measureValue, tempLo p.measureValue]
  else if cmd = hcanHesHeizungSolltempLineRequest ∧ frame.byte 2 = p.config.id then
    (p.config.solltempLine[(frame.byte 3).toNat]?).map fun line =>
      [hcanHesHeizungSolltempLineReplay, p.config.id, frame.byte 3, tempHi line.temp,
        tempLo line.temp, line.id]
  else none

/-- `heizung_can_callback` -/
def heizungCanCallback (selfaddr : UInt16) (u : Umgebung) (frame : CanixFrame) (s : HeizungIO) :
    HeizungIO :=
  let cmd := frame.byte 1
  if cmd = hcanHes1WireTemperature then
    if frame.byte 2 = s.dev.config.sensorId then
      s.update fun p =>
        { p with
          measureValue := tempWord (frame.byte 3) (frame.byte 4)
          receivedIntervalCounter := 0 }
    else s
  else if setztMode frame then
    if s.dev.config.id = frame.byte 2 then
      heizungSendDetails selfaddr u hcanMulticastInfo (s.update (setMode frame))
    else s
  else if cmd = hcanHesHeizungSolltempWriteLine then
    if frame.byte 2 = s.dev.config.id ∧ frame.byte 3 ≤ 7 ∧ s.dev.it ≠ 0 ∧
        u.edsBlockType s.dev.it = edsHeizungBlockId then
      (s.update (writeLine frame)).send (hesFrame selfaddr frame.src
        [hcanHesHeizungSolltempWriteLineAck, s.dev.config.id, frame.byte 3])
    else s
  else if cmd = hcanHesReedkontaktOffen then s.update (caseReedkontaktOffen frame)
  else
    match antwort u frame s.dev with
    | some bytes => s.send (hesFrame selfaddr frame.src bytes)
    | none => s

end OpenHcan.Heizung
