import Mathlib.Algebra.Group.Nat.Defs
import OpenHcan.Canix.Frame
import OpenHcan.Devices.Powerport
import OpenHcan.Lib.Machine

/-!
# Lichtzone — stairway lights (`devices/lichtzone.c`)

The lights of a zone are powerports in its action groups. A zone that switches
them sends a frame to each action group. `canix_frame_send_with_prio` also
delivers that frame to the zone itself, before it returns.
-/

namespace OpenHcan

namespace Lichtzone

open Powerport (hcanHesPowerGroupOn hcanHesPowerGroupOff)

def hcanHesPowerGroupTimerQuery : UInt8 := 14
def hcanHesPowerGroupTimerReplay : UInt8 := 15
def hcanHesPowerGroupSetTimer : UInt8 := 16

/-- `LICHTZONE_EXT_TIMERINIT`: four hours -/
def lichtzoneExtTimerinit : UInt16 := 14400

def lichtzoneExtSecCounterMax : UInt8 := 3

/-- `LICHTZONE_STATE_…` -/
inductive LichtzoneState
  | off
  | on
  | onExt
deriving DecidableEq, Repr

/-- `eds_lichtzone_block_t` -/
structure EdsLichtzoneBlock where
  toggleGruppe0 : UInt8
  toggleGruppe1 : UInt8
  toggleGruppe2 : UInt8
  toggleGruppe3 : UInt8
  offGruppe0 : UInt8
  offGruppe1 : UInt8
  onGruppe0 : UInt8
  onGruppe1 : UInt8
  timerDelay : UInt8
  actionGruppe0 : UInt8
  actionGruppe1 : UInt8
deriving DecidableEq, Repr

namespace EdsLichtzoneBlock

variable (c : EdsLichtzoneBlock)

def toggleGruppen : List UInt8 :=
  [c.toggleGruppe0, c.toggleGruppe1, c.toggleGruppe2, c.toggleGruppe3]

def offGruppen : List UInt8 := [c.offGruppe0, c.offGruppe1]

def onGruppen : List UInt8 := [c.onGruppe0, c.onGruppe1]

def actionGruppen : List UInt8 := [c.actionGruppe0, c.actionGruppe1]

/-- The value `lichtzone_setup_timer` loads: seconds if the top bit is set,
minutes otherwise. -/
def ladewert : UInt16 :=
  if c.timerDelay &&& 0x80 ≠ 0 then (c.timerDelay &&& 0x7f).toUInt16
  else c.timerDelay.toUInt16 * 60

end EdsLichtzoneBlock

/-- `device_data_lichtzone` -/
structure DeviceDataLichtzone where
  config : EdsLichtzoneBlock
  state : LichtzoneState
  timerCounter : UInt16
  extonTasterDownCounter : UInt8
  extonSecCounter : UInt8
deriving DecidableEq, Repr

/-- What the functions of a zone read and write: its data and the frames the
board has sent. -/
structure LichtzoneIO where
  dev : DeviceDataLichtzone
  sent : List CanixFrame
deriving DecidableEq, Repr

def LichtzoneIO.update (s : LichtzoneIO) (f : DeviceDataLichtzone → DeviceDataLichtzone) :
    LichtzoneIO :=
  { s with dev := f s.dev }

def LichtzoneIO.send (s : LichtzoneIO) (f : CanixFrame) : LichtzoneIO :=
  { s with sent := s.sent ++ [f] }

/-- `lichtzone_setup_timer` -/
def lichtzoneSetupTimer (p : DeviceDataLichtzone) : DeviceDataLichtzone :=
  { p with timerCounter := p.config.ladewert }

/-- `if (p->config.timer_delay) lichtzone_setup_timer(p)` -/
def setupTimerIfDelay (p : DeviceDataLichtzone) : DeviceDataLichtzone :=
  if p.config.timerDelay ≠ 0 then lichtzoneSetupTimer p else p

/-- `state = …` -/
def stateTo (st : LichtzoneState) (p : DeviceDataLichtzone) : DeviceDataLichtzone :=
  { p with state := st }

/-- `state = LICHTZONE_STATE_OFF; timer_counter = 0` -/
def offUndTimerAus (p : DeviceDataLichtzone) : DeviceDataLichtzone :=
  { p with state := .off, timerCounter := 0 }

/-! ## The commands to an action group -/

/-- `POWER_GROUP_ON` for an action group: the lights have been switched on. -/
def actionGruppeOn (frame : CanixFrame) (p : DeviceDataLichtzone) (gruppe : UInt8) :
    DeviceDataLichtzone :=
  if gruppe ≠ 255 ∧ gruppe = frame.byte 2 then
    match p.state with
    | .onExt => p
    | _ => setupTimerIfDelay (stateTo .on p)
  else p

/-- The case `HCAN_HES_POWER_GROUP_ON` of `lichtzone_can_callback`. -/
def powerGroupOn (frame : CanixFrame) (p : DeviceDataLichtzone) : DeviceDataLichtzone :=
  p.config.actionGruppen.foldl (actionGruppeOn frame) p

/-- The case `HCAN_HES_POWER_GROUP_OFF` of `lichtzone_can_callback`. -/
def powerGroupOff (frame : CanixFrame) (p : DeviceDataLichtzone) : DeviceDataLichtzone :=
  if p.config.actionGruppen.any fun g => g ≠ 255 && g == frame.byte 2 then offUndTimerAus p else p

/-! ## Switching the lights -/

/-- The frame that `inform_action_groups` sends to a group. -/
def informFrame (selfaddr : UInt16) (st : LichtzoneState) (gruppe : UInt8) : CanixFrame where
  src := selfaddr
  dst := hcanMulticastControl
  proto := hcanProtoSfp
  size := 3
  data := payload [hcanSrvHes,
    if st ≠ .off then hcanHesPowerGroupOn else hcanHesPowerGroupOff, gruppe]

/-- A frame of the zone comes back to the zone. -/
def deliverOwn (frame : CanixFrame) (p : DeviceDataLichtzone) : DeviceDataLichtzone :=
  if frame.byte 1 = hcanHesPowerGroupOn then powerGroupOn frame p
  else if frame.byte 1 = hcanHesPowerGroupOff then powerGroupOff frame p
  else p

/-- One action group is informed. -/
def informActionGroup (selfaddr : UInt16) (s : LichtzoneIO) (gruppe : UInt8) : LichtzoneIO :=
  if gruppe ≠ 255 then
    let frame := informFrame selfaddr s.dev.state gruppe
    (s.send frame).update (deliverOwn frame)
  else s

/-- `inform_action_groups` -/
def informActionGroups (selfaddr : UInt16) (s : LichtzoneIO) : LichtzoneIO :=
  s.dev.config.actionGruppen.foldl (informActionGroup selfaddr) s

/-! ## A button -/

/-- A button of any group is counted. -/
def tasterZaehlen (p : DeviceDataLichtzone) : DeviceDataLichtzone :=
  { p with
    extonSecCounter := if p.extonSecCounter = 0 then 1 else p.extonSecCounter
    extonTasterDownCounter := p.extonTasterDownCounter + 1 }

/-- Three clicks within the seconds of the window. -/
def dreifachClick (p : DeviceDataLichtzone) : Bool :=
  3 ≤ p.extonTasterDownCounter ∧ 0 < p.extonSecCounter ∧
    p.extonSecCounter < lichtzoneExtSecCounterMax

/-- The extended mode begins. -/
def extOn (p : DeviceDataLichtzone) : DeviceDataLichtzone :=
  { p with
    extonSecCounter := 0
    extonTasterDownCounter := 0
    state := .onExt
    timerCounter := lichtzoneExtTimerinit }

/-- The extended mode of a zone with a timer ends. -/
def extOff (p : DeviceDataLichtzone) : DeviceDataLichtzone :=
  { p with
    state := .off
    extonSecCounter := 0
    extonTasterDownCounter := 0
    timerCounter := 0 }

/-- A toggle group that matches, in the normal mode. -/
def toggleNormal (selfaddr : UInt16) (s : LichtzoneIO) : LichtzoneIO :=
  if s.dev.config.timerDelay ≠ 0 then
    match s.dev.state with
    | .off => informActionGroups selfaddr ((s.update lichtzoneSetupTimer).update (stateTo .on))
    | .on => s.update lichtzoneSetupTimer
    | .onExt => informActionGroups selfaddr (s.update extOff)
  else
    match s.dev.state with
    | .off => informActionGroups selfaddr (s.update (stateTo .on))
    | .on => informActionGroups selfaddr (s.update (stateTo .off))
    | .onExt => informActionGroups selfaddr (s.update (stateTo .off))

/-- One toggle group. The extended mode leaves the function (`error`). -/
def toggleGruppe (selfaddr : UInt16) (frame : CanixFrame) (s : LichtzoneIO) (gruppe : UInt8) :
    Except LichtzoneIO LichtzoneIO :=
  if frame.byte 2 = gruppe then
    if dreifachClick s.dev then .error (informActionGroups selfaddr (s.update extOn))
    else .ok (toggleNormal selfaddr s)
  else .ok s

/-- One off group. -/
def offGruppe (selfaddr : UInt16) (frame : CanixFrame) (s : LichtzoneIO) (gruppe : UInt8) :
    LichtzoneIO :=
  if frame.byte 2 = gruppe then informActionGroups selfaddr (s.update offUndTimerAus) else s

/-- One on group. -/
def onGruppe (selfaddr : UInt16) (frame : CanixFrame) (s : LichtzoneIO) (gruppe : UInt8) :
    LichtzoneIO :=
  if frame.byte 2 = gruppe then
    informActionGroups selfaddr ((s.update (stateTo .on)).update setupTimerIfDelay)
  else s

/-- The off groups and the on groups. -/
def offUndOnGruppen (selfaddr : UInt16) (frame : CanixFrame) (s : LichtzoneIO) : LichtzoneIO :=
  let s := s.dev.config.offGruppen.foldl (offGruppe selfaddr frame) s
  s.dev.config.onGruppen.foldl (onGruppe selfaddr frame) s

/-- The case `HCAN_HES_TASTER_DOWN` of `lichtzone_can_callback`. -/
def tasterDown (selfaddr : UInt16) (frame : CanixFrame) (s : LichtzoneIO) : LichtzoneIO :=
  let s := s.update tasterZaehlen
  match s.dev.config.toggleGruppen.foldlM (toggleGruppe selfaddr frame) s with
  | .error s => s
  | .ok s => offUndOnGruppen selfaddr frame s

/-! ## The frame handler and the timer handler -/

/-- `POWER_GROUP_TIMER_QUERY`: the answer shows the timer. -/
def timerReplay (selfaddr : UInt16) (frame : CanixFrame) (p : DeviceDataLichtzone) :
    CanixFrame where
  src := selfaddr
  dst := frame.src
  proto := hcanProtoSfp
  size := 5
  data := payload [hcanSrvHes, hcanHesPowerGroupTimerReplay, frame.byte 2,
    hiByte p.timerCounter.toNat, loByte p.timerCounter.toNat]

/-- `lichtzone_can_callback` -/
def lichtzoneCanCallback (selfaddr : UInt16) (frame : CanixFrame) (s : LichtzoneIO) :
    LichtzoneIO :=
  let cmd := frame.byte 1
  if cmd = hcanHesTasterDown then tasterDown selfaddr frame s
  else if cmd = hcanHesPowerGroupOn then s.update (powerGroupOn frame)
  else if cmd = hcanHesPowerGroupOff then s.update (powerGroupOff frame)
  else if cmd = hcanHesPowerGroupTimerQuery then
    if s.dev.config.actionGruppen.any (· == frame.byte 2) then
      s.send (timerReplay selfaddr frame s.dev)
    else s
  else if cmd = hcanHesPowerGroupSetTimer then
    if s.dev.config.actionGruppen.any (· == frame.byte 2) then
      s.update fun p => { p with timerCounter := UInt16.ofNat (word (frame.byte 3) (frame.byte 4)) }
    else s
  else s

/-- The timer part of `lichtzone_timer_handler`. -/
def timerTick (selfaddr : UInt16) (s : LichtzoneIO) : LichtzoneIO :=
  if s.dev.config.timerDelay ≠ 0 ∧ s.dev.timerCounter > 0 then
    let s := s.update fun p => { p with timerCounter := p.timerCounter - 1 }
    if s.dev.timerCounter = 0 then informActionGroups selfaddr (s.update (stateTo .off)) else s
  else s

/-- The clicks are counted for some seconds after the first one. -/
def clickTick (p : DeviceDataLichtzone) : DeviceDataLichtzone :=
  let sec := if p.extonSecCounter ≥ 1 then p.extonSecCounter + 1 else p.extonSecCounter
  if sec ≥ lichtzoneExtSecCounterMax then
    { p with extonSecCounter := 0, extonTasterDownCounter := 0 }
  else { p with extonSecCounter := sec }

/-- `lichtzone_timer_handler` -/
def lichtzoneTimerHandler (selfaddr : UInt16) (s : LichtzoneIO) (zyklus : UInt8) : LichtzoneIO :=
  if zyklus ≠ 1 then s else (timerTick selfaddr s).update clickTick

/-- What `canix_frame_send_with_prio` delivers to the zone goes through
`lichtzone_can_callback`. -/
theorem canCallback_informFrame (selfaddr addr : UInt16) (st : LichtzoneState) (gruppe : UInt8)
    (s : LichtzoneIO) :
    lichtzoneCanCallback selfaddr (informFrame addr st gruppe) s =
      s.update (deliverOwn (informFrame addr st gruppe)) := by
  cases st with
  | off => rfl
  | on => rfl
  | onExt => rfl

end Lichtzone

end OpenHcan
