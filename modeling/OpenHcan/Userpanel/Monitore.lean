import OpenHcan.Devices.Heizung
import OpenHcan.Devices.RolladenSchlitzpos
import OpenHcan.Devices.Schalter
import OpenHcan.Lib.History
import OpenHcan.Lib.Paused

/-!
# Monitore — what the panel has heard (`userpanel-v01/*_monitor.c`)

Five modules of one shape: a list of 24 groups in the configuration and an array
with the latest report of each. `BOARD_ACTIVE` clears the array and asks for each
configured group, with a sleep after each question. 255 marks an unused slot, an
unknown state, and is a group that occurs on the bus: a report of group 255 goes
into every unused slot. And a monitor whose turn comes after a sleep forgets what
it heard meanwhile. `MonitoreRuns` shows that nothing else goes wrong.
-/

namespace OpenHcan.Userpanel

open Lib Heizung Powerport RolladenSchlitzpos Schalter

set_option maxRecDepth 100000

/-- The modules, in the order of `lcdstatemachine_can_callback`. -/
inductive Monitor
  | heiz
  | reedkontakt
  | lampen
  | sonstige
  | mute
deriving DecidableEq, Repr

/-- An array of 24 bytes. -/
abbrev Feld := Fin 24 → UInt8

/-- `userpanel_heizungen_t`, `userpanel_reedkontakte_t`, …: the first block of each
kind, if there is one. -/
abbrev Listen := Monitor → Option Feld

/-- `…_configured` and `monitor_…_state` (`monitor_Tsoll` of the heatings). -/
structure MonitorState where
  configured : Bool
  state : Feld

/-- The monitors, and the frames the panel has sent. -/
structure Monitore where
  monitor : Monitor → MonitorState
  gesendet : List CanixFrame

namespace Monitore

def send (z : Monitore) (f : CanixFrame) : Monitore := ⟨z.monitor, z.gesendet ++ [f]⟩

def setState (z : Monitore) (m : Monitor) (state : Feld) : Monitore :=
  ⟨Function.update z.monitor m ⟨(z.monitor m).configured, state⟩, z.gesendet⟩

def setConfigured (z : Monitore) (m : Monitor) (configured : Bool) : Monitore :=
  ⟨Function.update z.monitor m ⟨configured, (z.monitor m).state⟩, z.gesendet⟩

end Monitore

/-- The question a module asks for each of its groups. The switches report their
mute state by themselves. -/
def Monitor.frage : Monitor → Option UInt8
  | .heiz => some hcanHesHeizungDetailsRequest
  | .reedkontakt => some hcanHesReedkontaktStateQuery
  | .lampen => some hcanHesPowerGroupStateQuery
  | .sonstige => some hcanHesPowerGroupStateQuery
  | .mute => none

/-- The two messages that carry the state of a powerport. -/
def powerGroupMeldung (f : CanixFrame) : Option (UInt8 × UInt8) :=
  if f.byte 1 = hcanHesPowerGroupStateReplay ∨ f.byte 1 = hcanHesPowerGroupStateInfo then
    some (f.byte 2, f.byte 3)
  else none

/-- What a frame reports to a module: the group, and what goes into the array. -/
def Monitor.meldung (f : CanixFrame) : Monitor → Option (UInt8 × UInt8)
  | .heiz =>
      if f.byte 1 = hcanHesHeizungModeOffDetails then some (f.byte 2, 0)
      -- there is no temperature, the source stores 1 / 16
      else if f.byte 1 = hcanHesHeizungModeManualDetails then some (f.byte 2, 0)
      else if f.byte 1 = hcanHesHeizungModeThermostatDetails ∨
          f.byte 1 = hcanHesHeizungModeAutomatikDetails then
        some (f.byte 2, UInt8.ofNat (word (f.byte 3) (f.byte 4) / 16))
      else none
  | .reedkontakt =>
      if f.byte 1 = hcanHesReedkontaktStateReplay ∨ f.byte 1 = hcanHesReedkontaktStateChange then
        some (f.byte 2, f.byte 3)
      else none
  | .lampen => powerGroupMeldung f
  | .sonstige => powerGroupMeldung f
  | .mute =>
      if f.byte 1 = hcanHesMuteOn then some (f.byte 2, 1)
      else if f.byte 1 = hcanHesMuteOff then some (f.byte 2, 0)
      else none

section

variable (selfaddr : UInt16) (listen : Listen)

/-- The loop of `init_monitor_…_request_states` over the groups that are left. It
asks and sleeps, and returns the groups that come after the sleep. With `running`
another handler sleeps, and `canix_sleep_100th` returns at once. -/
def fragen (typ : UInt8) (running : Bool) :
    List UInt8 → Monitore → Monitore × Option (List UInt8)
  | [], z => (z, none)
  | g :: gs, z =>
      if g ≠ 255 then
        let z := z.send (sfpFrame selfaddr hcanMulticastControl [hcanSrvHes, typ, g])
        if running then fragen typ running gs z else (z, some gs)
      else fragen typ running gs z

/-- `init_monitor_…_request_states` -/
def initMonitorRequestStates (m : Monitor) (typ : UInt8) (running : Bool) (z : Monitore) :
    Monitore × Option (List UInt8) :=
  match listen m with
  | none => (z.setConfigured m false, none)
  | some c => fragen selfaddr typ running (List.ofFn c) (z.setState m fun _ => 255)

/-- `monitor_insert_…_state` -/
def monitorInsertState (m : Monitor) (gruppe state : UInt8) (z : Monitore) : Monitore :=
  match listen m with
  | none => z
  | some c => z.setState m fun i => if gruppe = c i then state else (z.monitor m).state i

/-- `monitor_…_can_callback`, with the groups it has yet to ask for when it sleeps. -/
def monitorCanCallback (running : Bool) (f : CanixFrame) (m : Monitor) (z : Monitore) :
    Monitore × Option (List UInt8) :=
  if (z.monitor m).configured = false then (z, none)
  else if f.byte 1 = hcanHesBoardActive then
    match m.frage with
    | some typ => initMonitorRequestStates selfaddr listen m typ running z
    | none => (z.setState m fun _ => 255, none)
  else
    match m.meldung f with
    | some (gruppe, state) => (monitorInsertState listen m gruppe state z, none)
    | none => (z, none)

/-- Where the panel goes on after a sleep: in the loop of a monitor and then with the
callbacks that come after it, or in a handler that is no monitor. -/
inductive PanelPlace
  | fragt (typ : UInt8) (gruppen : List UInt8) (danach : List Monitor) (f : CanixFrame)
  | andere
deriving DecidableEq

/-- The callbacks of the monitors `ms`, one after the other. -/
def callbacks (running : Bool) (f : CanixFrame) :
    List Monitor → Monitore → Monitore × Option PanelPlace
  | [], z => (z, none)
  | m :: ms, z =>
      match monitorCanCallback selfaddr listen running f m z with
      | (z', some gs) => (z', some (.fragt (m.frage.getD 0) gs ms f))
      | (z', none) => callbacks running f ms z'

/-- All modules, in the order of `lcdstatemachine_can_callback`. -/
def alleMonitore : List Monitor := [.heiz, .reedkontakt, .lampen, .sonstige, .mute]

/-- The frames the panel listens to. -/
def FuerPanel (f : CanixFrame) : Prop :=
  f.byte 0 = hcanSrvHes ∧
    (f.dst = selfaddr ∨ f.dst = hcanMulticastControl ∨ f.dst = hcanMulticastInfo)

instance (f : CanixFrame) : Decidable (FuerPanel selfaddr f) :=
  inferInstanceAs (Decidable (_ ∧ _))

/-- `hauselektrik_callback`, as far as it concerns the monitors. -/
def hauselektrikCallback (running : Bool) (f : CanixFrame) (z : Monitore) :
    Monitore × Option PanelPlace :=
  if FuerPanel selfaddr f then callbacks selfaddr listen running f alleMonitore z else (z, none)

/-- What is left of a handler after its sleep. -/
def weiter : PanelPlace → Monitore → Monitore × Option PanelPlace
  | .andere, z => (z, none)
  | .fragt typ gs ms f, z =>
      match fragen selfaddr typ false gs z with
      | (z', some gs') => (z', some (.fragt typ gs' ms f))
      | (z', none) => callbacks selfaddr listen false f ms z'

/-- What happens to the panel: a frame arrives, the sleep is over, or another handler
of the panel goes to sleep. -/
inductive PanelEvent
  | frame (f : CanixFrame)
  | wake
  | pause
deriving DecidableEq

def panelStep (c : Paused Monitore PanelPlace) : PanelEvent → Paused Monitore PanelPlace
  | .frame f => c.handle fun running z => hauselektrikCallback selfaddr listen running f z
  | .wake => c.wake (weiter selfaddr listen)
  | .pause => c.handle fun _ z => (z, some .andere)

end

/-- The panel after a reset. -/
def panelStart : Paused Monitore PanelPlace := ⟨⟨fun _ => ⟨true, fun _ => 0⟩, []⟩, none⟩

/-- A state that counts: neither 0 nor unknown. -/
def Ein (s : UInt8) : Prop := s ≠ 0 ∧ s ≠ 255

instance : DecidablePred Ein := fun _ => inferInstanceAs (Decidable (_ ∧ _))

/-- The loop of the `get_count_…_states`, over the slots that `zaehlt` does not leave out. -/
def getCountStates (zaehlt : Fin 24 → Bool) (state : Feld) : UInt8 :=
  (List.finRange 24).foldl (fun n i => if Ein (state i) ∧ zaehlt i then n + 1 else n) 0

def getCountLampenStates (z : Monitore) : UInt8 :=
  getCountStates (fun _ => true) (z.monitor .lampen).state

def getCountReedkontaktStates (z : Monitore) : UInt8 :=
  getCountStates (fun _ => true) (z.monitor .reedkontakt).state

def getCountMuteStates (z : Monitore) : UInt8 :=
  getCountStates (fun _ => true) (z.monitor .mute).state

/-- `get_count_sonstige_states(ignore)`. It compares the state of a slot with what
`leave_come_page_get_ignore` returns for the number of the slot. -/
def getCountSonstigeStates (getIgnore : UInt8 → UInt8) (ignore : UInt8) (z : Monitore) : UInt8 :=
  let state := (z.monitor .sonstige).state
  getCountStates (fun i => ¬ (ignore ≠ 0 ∧ state i = getIgnore (UInt8.ofNat i))) state

end OpenHcan.Userpanel
