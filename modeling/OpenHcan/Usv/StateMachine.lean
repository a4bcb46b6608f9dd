import OpenHcan.Canix.Frame

/-!
# StateMachine — the uninterruptible power supply (`usv-modul/usvstatemachine.c`)

Two handlers switch a relay between the mains and the batteries: one counts the
time, one reads the voltages and decides. The outputs and the LEDs of the board
are those of `usv-modul/darlingtonoutput.c` and `usv-modul/led.c`.

What `adc_reach_channel` returns is a `Messung`: every call converts anew. The
direction registers of the ports are left out.
-/

namespace OpenHcan.Usv

def hcanSrvUsvs : UInt8 := 8

def hcanUsvsStateRequest : UInt8 := 1
def hcanUsvsStateInfo : UInt8 := 2
def hcanUsvsVoltageRequest : UInt8 := 3
def hcanUsvsVoltageReplay : UInt8 := 4
def hcanUsvsVoltageStatsRequest : UInt8 := 5
def hcanUsvsVoltageStatsReplay : UInt8 := 6
def hcanUsvsVoltageStatsReset : UInt8 := 7

/-! 1023 stands for 30 V. -/

/-- `_23_V` -/
def v23 : UInt16 := 784

/-- `_24_V` -/
def v24 : UInt16 := 819

def uBatWarning : UInt16 := 836

def uBatCritical : UInt16 := 829

/-! ## The outputs -/

/-- The registers of the outputs. -/
structure Ports where
  portd : UInt8
  portb : UInt8
deriving DecidableEq, Repr

/-- `darlingtonoutput_getpin` -/
def darlingtonoutputGetpin (o : Ports) (n : UInt8) : UInt8 :=
  if n < 8 then o.portd &&& (1 <<< n)
  else if n < 12 then o.portb &&& (1 <<< (n - 8))
  else 0

/-- A bit of a register is set or cleared. -/
def setBit (port n state : UInt8) : UInt8 :=
  if state ≠ 0 then port ||| (1 <<< n) else port &&& ~~~(1 <<< n)

/-- `darlingtonoutput_setpin` -/
def darlingtonoutputSetpin (o : Ports) (n state : UInt8) : Ports :=
  if n < 8 then { o with portd := setBit o.portd n state }
  else if n < 12 then { o with portb := setBit o.portb (n - 8) state }
  else o

/-! ## The LEDs -/

/-- The brightness of the LEDs in tenths, and the register they hang on. -/
structure Leds where
  ledState : Vector UInt8 8
  ledTimerCounter : UInt8
  portc : UInt8
deriving DecidableEq, Repr

/-- `led_init` -/
def ledInit : Leds := ⟨Vector.replicate 8 0, 0, 255⟩

/-- `led_set` -/
def ledSet (l : Leds) (n state : UInt8) : Leds :=
  let n := if n > 7 then 0 else n
  { l with ledState := l.ledState.setIfInBounds n.toNat state }

/-- The pin of a LED. -/
def ledPin (n : UInt8) : Option UInt8 := if n < 7 then some (7 - n) else none

/-- `led_enable`: negative logic. -/
def ledEnable (l : Leds) (n : UInt8) (enable : Bool) : Leds :=
  match ledPin n with
  | some pin => { l with portc := setBit l.portc pin (if enable then 0 else 1) }
  | none => l

/-- `led_timer_handler` -/
def ledTimerHandler (l : Leds) : Leds :=
  let c := if l.ledTimerCounter + 1 ≥ 10 then 0 else l.ledTimerCounter + 1
  (List.finRange 7).foldl
    (fun l (i : Fin 7) => ledEnable l (UInt8.ofNat i.val) (c < l.ledState[i.val]))
    { l with ledTimerCounter := c }

/-! ## The state -/

/-- The variables of the state machine, the registers it writes, and the frames the
board has sent. -/
structure UsvState where
  onBattery : UInt8
  usvTimer : UInt16
  switchBackCounter : UInt16
  ledTimer : UInt8
  timerCounter : UInt8
  uMin : Vector UInt16 5
  uMax : Vector UInt16 5
  outputs : Ports
  leds : Leds
  sent : List CanixFrame

/-- What `adc_reach_channel` returns in one call of `usv_state_handler`, in the order
of its calls. -/
structure Messung where
  stats : Vector UInt16 5
  puffer : UInt16
  bat : UInt16
  nt : UInt16
  ledPuffer : UInt16
  ledNt : UInt16
  ledBatWarning : UInt16
  ledBatCritical : UInt16
deriving DecidableEq, Repr

/-- `usv_reset_U_stats` -/
def usvResetUStats (s : UsvState) : UsvState :=
  { s with uMin := Vector.replicate 5 1023, uMax := Vector.replicate 5 0 }

/-- The state before the main loop. -/
def usvStart : UsvState :=
  usvResetUStats
    { onBattery := 0
      usvTimer := 0
      switchBackCounter := 0
      ledTimer := 5
      timerCounter := 0
      uMin := Vector.replicate 5 0
      uMax := Vector.replicate 5 0
      outputs := ⟨0, 0⟩
      leds := ledSet (ledSet (ledSet ledInit 3 10) 6 0) 1 1
      sent := [] }

/-! ## Switching -/

/-- A frame with the address of the board. -/
def usvsFrame (selfaddr dst : UInt16) (bytes : List UInt8) : CanixFrame where
  src := selfaddr
  dst := dst
  proto := hcanProtoSfp
  size := UInt8.ofNat (bytes.length + 1)
  data := payload (hcanSrvUsvs :: bytes)

/-- `canix_frame_send` -/
def UsvState.send (s : UsvState) (f : CanixFrame) : UsvState := { s with sent := s.sent ++ [f] }

/-- `switch_to_battery` -/
def switchToBattery (selfaddr : UInt16) (s : UsvState) : UsvState :=
  UsvState.send
    { s with
      onBattery := 1
      outputs := darlingtonoutputSetpin s.outputs 7 1
      usvTimer := 200
      leds := ledSet (ledSet s.leds 3 0) 6 10 }
    (usvsFrame selfaddr hcanMulticastInfo [hcanUsvsStateInfo, 1])

/-- `switch_to_netzbetrieb` -/
def switchToNetzbetrieb (selfaddr : UInt16) (s : UsvState) : UsvState :=
  UsvState.send
    { s with
      onBattery := 0
      outputs := darlingtonoutputSetpin s.outputs 7 0
      usvTimer := 10
      leds := ledSet (ledSet s.leds 3 10) 6 0 }
    (usvsFrame selfaddr hcanMulticastInfo [hcanUsvsStateInfo, 0])

/-! ## The handlers -/

/-- `usv_timer_handler`, a hundred times a second. -/
def usvTimerHandler (s : UsvState) : UsvState :=
  let s := if s.usvTimer > 0 then { s with usvTimer := s.usvTimer - 1 } else s
  let s :=
    if s.ledTimer = 0 then { s with ledTimer := 9, leds := ledTimerHandler s.leds }
    else { s with ledTimer := s.ledTimer - 1 }
  if s.timerCounter = 0 then
    { s with
      timerCounter := 100
      switchBackCounter :=
        if s.switchBackCounter > 0 then s.switchBackCounter - 1 else s.switchBackCounter }
  else { s with timerCounter := s.timerCounter - 1 }

/-- The lowest and the highest voltages. -/
def updateStats (m : Messung) (s : UsvState) : UsvState :=
  { s with
    uMax := Vector.ofFn fun i => if m.stats[i] > s.uMax[i] then m.stats[i] else s.uMax[i]
    uMin := Vector.ofFn fun i => if m.stats[i] < s.uMin[i] then m.stats[i] else s.uMin[i] }

/-- The voltages decide. -/
def umschalten (selfaddr : UInt16) (m : Messung) (s : UsvState) : UsvState :=
  if m.puffer ≤ v23 then
    if m.bat > v24 then
      if s.onBattery = 0 then { switchToBattery selfaddr s with switchBackCounter := 30 } else s
    else if s.onBattery ≠ 0 then switchToNetzbetrieb selfaddr s
    else s
  else if m.nt > v24 ∧ s.switchBackCounter = 0 then
    if s.onBattery ≠ 0 then switchToNetzbetrieb selfaddr s else s
  else s

/-- The LEDs show the voltages. -/
def updateLeds (m : Messung) (s : UsvState) : UsvState :=
  let l := ledSet s.leds 0 (if m.ledPuffer ≥ v23 then 10 else 0)
  let l := ledSet l 2 (if m.ledNt < v23 then 10 else 0)
  let l := ledSet l 4 (if m.ledBatWarning < uBatWarning then 3 else 0)
  { s with leds := ledSet l 5 (if m.ledBatCritical < uBatCritical then 5 else 0) }

/-- `usv_state_handler` -/
def usvStateHandler (selfaddr : UInt16) (m : Messung) (s : UsvState) : UsvState :=
  let s := updateStats m s
  if s.usvTimer ≠ 0 then s else updateLeds m (umschalten selfaddr m s)

/-- `usv_can_callback`: `u` is what `adc_reach_channel` returns in it. -/
def usvCanCallback (selfaddr u : UInt16) (frame : CanixFrame) (s : UsvState) : UsvState :=
  let cmd := frame.byte 1
  let n := frame.byte 2 - 1
  if cmd = hcanUsvsStateRequest then
    s.send (usvsFrame selfaddr frame.src [hcanUsvsStateInfo, s.onBattery])
  else if cmd = hcanUsvsVoltageRequest then
    if n < 5 then
      s.send (usvsFrame selfaddr frame.src
        [hcanUsvsVoltageReplay, hiByte u.toNat, loByte u.toNat])
    else s
  else if cmd = hcanUsvsVoltageStatsRequest then
    match s.uMin[n.toNat]?, s.uMax[n.toNat]? with
    | some lo, some hi =>
        s.send (usvsFrame selfaddr frame.src [hcanUsvsVoltageStatsReplay, frame.byte 2,
          hiByte lo.toNat, loByte lo.toNat, hiByte hi.toNat, loByte hi.toNat])
    | _, _ => s
  else if cmd = hcanUsvsVoltageStatsReset then usvResetUStats s
  else s

end OpenHcan.Usv
