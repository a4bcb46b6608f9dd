import OpenHcan.Devices.Powerport
import OpenHcan.Lib.Countdown

/-!
# PowerportRuns — a powerport over frames and seconds

A frame does one of four things to a powerport (`callback_effect`): it is an
edge, it sets the alarm clock, it changes at most the mute flag, or it is
answered a tenth of a second later. The functions that switch a bistable
relay sleep during the pulse, and other frames and ticks are handled
meanwhile.
-/

namespace OpenHcan.Powerport

open Lib

/-! ## The machine -/

/-- A HES frame, a call of the one-second timer handler, or the end of a sleep. -/
inductive PortEvent
  | frame (f : CanixFrame)
  | tick
  | wake
deriving DecidableEq, Repr

def portStep (selfaddr : UInt16) (c : Sleeper PowerportIO) : PortEvent → Sleeper PowerportIO
  | .frame f => c.handle (powerportCanCallback selfaddr f)
  | .tick => c.handle fun s => powerportTimerHandler selfaddr s 1
  | .wake => c.wake

/-- A powerport after a start of the board: all outputs are off. -/
def portStart (p : DeviceDataPowerport) : Sleeper PowerportIO where
  state := ⟨powerportInit p, fun _ => false, []⟩
  asleep := none

/-- The output is on. -/
def PowerportIO.ein (s : PowerportIO) : Bool :=
  darlingtonoutputGetpin s.outputs s.dev.config.port

/-- The value `powerport_setup_timer` loads. -/
def EdsPowerportBlock.ladewert (c : EdsPowerportBlock) : UInt16 :=
  if c.timer &&& 0x80 ≠ 0 then (c.timer &&& 0x7f).toUInt16 else c.timer.toUInt16 * 60

/-! ## The parts -/

section

variable (selfaddr : UInt16) (s : PowerportIO) (p : DeviceDataPowerport)

@[simp] theorem update_dev (f : DeviceDataPowerport → DeviceDataPowerport) :
    (s.update f).dev = f s.dev := rfl

@[simp] theorem update_outputs (f : DeviceDataPowerport → DeviceDataPowerport) :
    (s.update f).outputs = s.outputs := rfl

@[simp] theorem setpin_dev (b : Bool) : (s.setpin b).dev = s.dev := rfl

@[simp] theorem setpin_ein (b : Bool) : (s.setpin b).ein = b := by
  simp [ PowerportIO.ein, PowerportIO.setpin, darlingtonoutputGetpin, darlingtonoutputSetpin]

@[simp] theorem powerportOff_ein : (powerportOff selfaddr s).ein = false :=
  setpin_ein s false

/-- A data change that leaves the port alone leaves the output alone. -/
theorem update_ein {f : DeviceDataPowerport → DeviceDataPowerport}
    (hf : (f s.dev).config.port = s.dev.config.port) : (s.update f).ein = s.ein := by
  unfold PowerportIO.ein
  rw [update_dev, update_outputs, hf]

/-- A port that is not bistable is switched on at once. -/
theorem powerportOn_direct (hb : s.dev.config.has .bistableRelais = false) :
    powerportOn selfaddr s = .done (powerportSendStateInfo selfaddr (s.setpin true)) := by
  unfold powerportOn
  rw [hb, if_neg Bool.false_ne_true]

/-- The pulse of a bistable relay. -/
theorem powerportOn_puls (hb : s.dev.config.has .bistableRelais = true) :
    powerportOn selfaddr s =
      .sleep (s.setpin true) fun s => .done (pulsEnde selfaddr s) := by
  unfold powerportOn
  rw [if_pos hb]

theorem muteGruppe_config (f : CanixFrame) : (muteGruppe f p).config = p.config := by
  unfold muteGruppe
  split
  · split
    · rfl
    · split
      · dsimp only
        split
        · rfl
        · rfl
      · rfl
  · rfl

/-- Only the mute commands change anything at the end of the frame handler. -/
theorem muteGruppe_other {f : CanixFrame} (hoff : f.byte 1 ≠ hcanHesMuteOff)
    (hon : f.byte 1 ≠ hcanHesMuteOn) : muteGruppe f p = p := by
  unfold muteGruppe
  rw [if_neg hoff, if_neg hon]
  split
  · rfl
  · rfl

theorem update_muteGruppe_other {f : CanixFrame} (hoff : f.byte 1 ≠ hcanHesMuteOff)
    (hon : f.byte 1 ≠ hcanHesMuteOn) : s.update (muteGruppe f) = s := by
  unfold PowerportIO.update
  rw [muteGruppe_other s.dev hoff hon]

end

/-! ## The features -/

section

variable (c : EdsPowerportBlock) {f g : Feature}

theorem has_clear_self : (c.clear f).has f = false := by
  have hmask : ~~~ f.mask &&& f.mask = 0 := by cases f <;> decide
  simp [EdsPowerportBlock.has, EdsPowerportBlock.clear, UInt8.and_assoc, hmask]

/-- A feature that is cleared leaves the others. -/
theorem has_clear_other (h : f ≠ g) : (c.clear f).has g = c.has g := by
  have hmask : ~~~ f.mask &&& g.mask = g.mask := by
    cases f <;> cases g <;> first | rfl | exact absurd rfl h
  simp [EdsPowerportBlock.has, EdsPowerportBlock.clear, UInt8.and_assoc, hmask]

@[simp] theorem clear_ladewert : (c.clear f).ladewert = c.ladewert := rfl

end

/-! ## The timer -/

/-- `countDownTimer--` -/
def timerZaehlt (p : DeviceDataPowerport) : DeviceDataPowerport :=
  { p with countDownTimer := p.countDownTimer - 1 }

section

variable (selfaddr : UInt16) {s : PowerportIO}

theorem tick_aus (h : s.dev.countDownTimer = 0) :
    powerportTimerHandler selfaddr s 1 = .done s := by
  unfold powerportTimerHandler
  rw [if_neg (by decide), h, if_neg (by decide)]

theorem tick_laeuft (h0 : s.dev.countDownTimer ≠ 0) (h1 : s.dev.countDownTimer ≠ 1) :
    powerportTimerHandler selfaddr s 1 = .done (s.update timerZaehlt) := by
  unfold powerportTimerHandler
  rw [if_neg (by decide), if_pos (UInt16.pos_iff_ne_zero.mpr h0), if_neg h1]
  rfl

theorem tick_ablauf (h : s.dev.countDownTimer = 1) :
    powerportTimerHandler selfaddr s 1 =
      (timerAbgelaufen selfaddr s).map fun s => s.update timerZaehlt := by
  unfold powerportTimerHandler
  rw [if_neg (by decide), h, if_pos (by decide), if_pos rfl]
  rfl

/-- The timer has run down and the alarm clock switches on. -/
theorem ablauf_weckt (hweck : s.dev.config.has .weckVerzoegertEin = true)
    (hb : s.dev.config.has .bistableRelais = false) :
    ∃ s', timerAbgelaufen selfaddr s = .done s' ∧
      s'.dev.config = s.dev.config.clear .weckVerzoegertEin ∧
      s'.dev.countDownTimer = s.dev.config.ladewert := by
  unfold timerAbgelaufen
  rw [if_pos hweck, powerportOn_direct selfaddr s hb]
  exact ⟨_, rfl, rfl, rfl⟩

end

/-! ## What a frame does -/

/-- The edge a frame gives: a button, a group or a switch, unless the port is mute. -/
def kante (s : PowerportIO) (f : CanixFrame) : Option Flanke :=
  if isInGroup s.dev.config (f.byte 2) = true ∧ s.dev.mute = false then
    if f.byte 1 = hcanHesTasterDown then some (if s.ein then .fallend else .steigend)
    else if f.byte 1 = hcanHesPowerGroupOn ∨ f.byte 1 = hcanHesSchalterOn then some .steigend
    else if f.byte 1 = hcanHesPowerGroupOff ∨ f.byte 1 = hcanHesSchalterOff then some .fallend
    else none
  else none

/-- The frame sets the alarm clock of the port. -/
def Weckt (s : PowerportIO) (f : CanixFrame) : Prop :=
  isInGroup s.dev.config (f.byte 2) = true ∧ f.byte 1 = hcanHesWeckerSet ∧
    s.dev.config.gruppe0 = f.byte 2

instance (s : PowerportIO) (f : CanixFrame) : Decidable (Weckt s f) := by
  unfold Weckt
  infer_instance

/-- What a frame can do to a powerport. -/
inductive CallbackEffect (selfaddr : UInt16) (s : PowerportIO) (f : CanixFrame) :
    Resumption PowerportIO → Prop
  | edge (k : Flanke) : kante s f = some k →
      CallbackEffect selfaddr s f (setPowerportOrTimer selfaddr s k)
  | weck : kante s f = none → Weckt s f → CallbackEffect selfaddr s f (weckerSet selfaddr f s)
  | quiet (s' : PowerportIO) : kante s f = none → ¬ Weckt s f → s'.outputs = s.outputs →
      s'.dev = muteGruppe f s.dev → CallbackEffect selfaddr s f (.done s')
  | answer (rest : PowerportIO → Resumption PowerportIO) : kante s f = none → ¬ Weckt s f →
      muteGruppe f s.dev = s.dev →
      (∀ s', ∃ s'', rest s' = .done s'' ∧ s''.outputs = s'.outputs ∧ s''.dev = s'.dev) →
      CallbackEffect selfaddr s f (.sleep s rest)

section

variable (selfaddr : UInt16) {s : PowerportIO} {f : CanixFrame}

/-- The end of the frame handler after an answer that was sent at once. -/
theorem CallbackEffect.quietEnd {s' : PowerportIO} (hk : kante s f = none) (hw : ¬ Weckt s f)
    (ho : s'.outputs = s.outputs) (hd : s'.dev = s.dev) :
    CallbackEffect selfaddr s f
      ((Resumption.done s').map fun s => s.update (muteGruppe f)) := by
  apply CallbackEffect.quiet (s'.update (muteGruppe f)) hk hw ho
  rw [update_dev, hd]

/-- A frame that is no mute command has no end. -/
theorem map_muteGruppe_other (hoff : f.byte 1 ≠ hcanHesMuteOff) (hon : f.byte 1 ≠ hcanHesMuteOn)
    (r : Resumption PowerportIO) : r.map (fun s => s.update (muteGruppe f)) = r :=
  Resumption.map_of_id (fun s => update_muteGruppe_other s hoff hon) r

theorem CallbackEffect.edgeEnd {k : Flanke} (hk : kante s f = some k)
    (hoff : f.byte 1 ≠ hcanHesMuteOff) (hon : f.byte 1 ≠ hcanHesMuteOn) :
    CallbackEffect selfaddr s f
      ((setPowerportOrTimer selfaddr s k).map fun s => s.update (muteGruppe f)) := by
  rw [map_muteGruppe_other hoff hon]
  exact .edge k hk

/-- A request to all devices. -/
theorem CallbackEffect.answerEnd {reply : UInt8 → PowerportIO → PowerportIO}
    (hr : ∀ g t, (reply g t).outputs = t.outputs ∧ (reply g t).dev = t.dev)
    (hk : kante s f = none) (hw : ¬ Weckt s f)
    (hoff : f.byte 1 ≠ hcanHesMuteOff) (hon : f.byte 1 ≠ hcanHesMuteOn) :
    CallbackEffect selfaddr s f
      ((requestAll reply s).map fun s => s.update (muteGruppe f)) := by
  rw [map_muteGruppe_other hoff hon]
  unfold requestAll
  split
  · apply CallbackEffect.answer _ hk hw (muteGruppe_other s.dev hoff hon)
    intro s'
    exact ⟨_, rfl, hr s'.dev.config.gruppe0 s'⟩
  · exact .quiet s hk hw rfl (muteGruppe_other s.dev hoff hon).symm

/-- The commands that give an edge. -/
def edgeCmds : List UInt8 :=
  [hcanHesTasterDown, hcanHesPowerGroupOn, hcanHesSchalterOn, hcanHesPowerGroupOff,
    hcanHesSchalterOff]

theorem edgeCmds_other {cmd : UInt8} (h : cmd ∈ edgeCmds) :
    cmd ≠ hcanHesWeckerSet ∧ cmd ≠ hcanHesMuteOff ∧ cmd ≠ hcanHesMuteOn := by
  simp only [edgeCmds, List.mem_cons, List.not_mem_nil, or_false] at h
  rcases h with rfl | rfl | rfl | rfl | rfl <;> decide

/-- A command that gives an edge is taken unless the port is mute. -/
theorem edge_effect {k : Flanke} (hcmd : f.byte 1 ∈ edgeCmds)
    (hk : s.dev.mute = false → kante s f = some k) :
    CallbackEffect selfaddr s f
      ((if s.dev.mute = true then .done s else setPowerportOrTimer selfaddr s k).map
        fun s => s.update (muteGruppe f)) := by
  obtain ⟨hw, hoff, hon⟩ := edgeCmds_other hcmd
  split
  · rename_i hm
    have hnone : kante s f = none := by
      unfold kante
      rw [if_neg fun h => Bool.noConfusion (hm.symm.trans h.2)]
    exact .quietEnd selfaddr hnone (fun h => hw h.2.1) rfl rfl
  · rename_i hm
    exact .edgeEnd selfaddr (hk (by simpa using hm)) hoff hon

/-- The button gives the edge that is next. -/
theorem powerportToggle_eq (s : PowerportIO) : powerportToggle selfaddr s =
    setPowerportOrTimer selfaddr s (if s.ein then .fallend else .steigend) := by
  unfold powerportToggle PowerportIO.ein
  split
  · rfl
  · rfl

/-- The commands to one of the groups. -/
theorem switch_effect (hg : isInGroup s.dev.config (f.byte 2) = true) :
    CallbackEffect selfaddr s f
      ((powerportSwitch selfaddr f s).map fun s => s.update (muteGruppe f)) := by
  unfold powerportSwitch
  dsimp only
  split
  · rename_i hcmd
    rw [powerportToggle_eq]
    apply edge_effect selfaddr (by rw [hcmd]; decide)
    intro hm
    unfold kante
    rw [if_pos ⟨hg, hm⟩, if_pos hcmd]
  · rename_i hdown
    split
    · rename_i hcmd
      apply edge_effect selfaddr (by rcases hcmd with h | h <;> rw [h] <;> decide)
      intro hm
      unfold kante
      rw [if_pos ⟨hg, hm⟩, if_neg hdown, if_pos hcmd]
    · rename_i hein
      split
      · rename_i hcmd
        apply edge_effect selfaddr (by rcases hcmd with h | h <;> rw [h] <;> decide)
        intro hm
        unfold kante
        rw [if_pos ⟨hg, hm⟩, if_neg hdown, if_neg hein, if_pos hcmd]
      · -- no edge: a request, or the alarm clock
        rename_i haus
        have hk : kante s f = none := by
          unfold kante
          rw [if_neg hdown, if_neg hein, if_neg haus, ite_self]
        have hother {cmd : UInt8} (hne : cmd ≠ hcanHesWeckerSet) (hcmd : f.byte 1 = cmd) :
            ¬ Weckt s f := fun hw => hne (hcmd.symm.trans hw.2.1)
        split
        · rename_i hcmd
          exact .quietEnd selfaddr hk (hother (by decide) hcmd) rfl rfl
        · split
          · rename_i hcmd
            exact .quietEnd selfaddr hk (hother (by decide) hcmd) rfl rfl
          · split
            · rename_i hcmd
              by_cases hgruppe : s.dev.config.gruppe0 = f.byte 2
              · rw [map_muteGruppe_other (by rw [hcmd]; decide) (by rw [hcmd]; decide)]
                exact .weck hk ⟨hg, hcmd, hgruppe⟩
              · unfold weckerSet
                rw [if_neg hgruppe]
                exact .quietEnd selfaddr hk (fun hw => hgruppe hw.2.2) rfl rfl
            · rename_i hwecker
              have hw : ¬ Weckt s f := fun h => hwecker h.2.1
              split
              · unfold weckerDetails
                split
                · exact .quietEnd selfaddr hk hw rfl rfl
                · exact .quietEnd selfaddr hk hw rfl rfl
              · exact .quietEnd selfaddr hk hw rfl rfl

/-- **What a frame does**: it is an edge, it sets the alarm clock, it changes
at most the mute flag, or it is answered later. -/
theorem callback_effect (s : PowerportIO) (f : CanixFrame) :
    CallbackEffect selfaddr s f (powerportCanCallback selfaddr f s) := by
  unfold powerportCanCallback
  by_cases hg : isInGroup s.dev.config (f.byte 2) = true
  · rw [if_pos hg]
    exact switch_effect selfaddr hg
  · rw [if_neg hg]
    have hk : kante s f = none := by
      unfold kante
      rw [if_neg fun h => hg h.1]
    have hw : ¬ Weckt s f := fun h => hg h.1
    split
    · rename_i hcmd
      exact .answerEnd selfaddr (fun _ _ => ⟨rfl, rfl⟩) hk hw (by rw [hcmd]; decide)
        (by rw [hcmd]; decide)
    · split
      · rename_i hcmd
        exact .answerEnd selfaddr (fun _ _ => ⟨rfl, rfl⟩) hk hw (by rw [hcmd]; decide)
          (by rw [hcmd]; decide)
      · exact .quietEnd selfaddr hk hw rfl rfl

end

end OpenHcan.Powerport
