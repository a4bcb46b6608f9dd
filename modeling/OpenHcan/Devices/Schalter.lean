import Mathlib.Data.List.Chain
import OpenHcan.Devices.Powerport
import OpenHcan.Lib.History

/-!
# Schalter — a switch at an input (`devices/schalter.c`)

A switch is sampled every tenth of a second and its position is reported when
it has changed for three samples. The counter of the changed samples is not
set back by a sample at the old position, so the samples of a switch that
bounces add up.

What `inputport_read` returns for a port is part of a sample.
-/

namespace OpenHcan.Schalter

open Lib Powerport

set_option maxRecDepth 100000

def hcanHesBoardActive : UInt8 := 4

/-- `FALLING` and `RISING` -/
inductive Edge
  | falling
  | rising
deriving DecidableEq, Repr

/-- The bits of `config.feature`. -/
inductive SchalterFeature
  | invertieren
  | pullupAus
  | mute
deriving DecidableEq, Repr

/-- `1<<FEATURE_SCHALTER_…` -/
def SchalterFeature.mask : SchalterFeature → UInt8
  | .invertieren => 1
  | .pullupAus => 2
  | .mute => 4

/-- `eds_schalter_block_t` -/
structure EdsSchalterBlock where
  port : UInt8
  feature : UInt8
  gruppe : UInt8
deriving DecidableEq, Repr

/-- `config.feature & (1<<FEATURE_SCHALTER_…)` -/
def EdsSchalterBlock.has (c : EdsSchalterBlock) (f : SchalterFeature) : Bool :=
  c.feature &&& f.mask ≠ 0

/-- `device_data_schalter` -/
structure DeviceDataSchalter where
  config : EdsSchalterBlock
  newState : UInt8
  lastEdge : Edge
deriving DecidableEq, Repr

/-- What the functions of a switch read and write: its data and the frames the
board has sent. -/
structure SchalterIO where
  dev : DeviceDataSchalter
  sent : List CanixFrame
deriving DecidableEq, Repr

/-- The switch as it is sampled: `inputport_read(pullup, port) == 0`. -/
def EdsSchalterBlock.active (c : EdsSchalterBlock) (inputportRead : Bool → UInt8 → UInt8) : Bool :=
  inputportRead (!c.has .pullupAus) c.port = 0

/-- The position of a switch: `active` as an edge. -/
def edgeOf (active : Bool) : Edge := if active then .rising else .falling

/-- The command of `sendMessage`: `active` is what is reported. -/
def EdsSchalterBlock.cmd (c : EdsSchalterBlock) (active : Bool) : UInt8 :=
  if active then (if c.has .mute then hcanHesMuteOn else hcanHesSchalterOn)
  else (if c.has .mute then hcanHesMuteOff else hcanHesSchalterOff)

/-- The frame that `sendMessage` sends. -/
def meldung (selfaddr : UInt16) (c : EdsSchalterBlock) (active : Bool) : CanixFrame :=
  let active := if c.has .invertieren then !active else active
  sfpFrame selfaddr hcanMulticastControl [hcanSrvHes, c.cmd active, c.gruppe]

/-- `sendMessage` -/
def sendMessage (selfaddr : UInt16) (s : SchalterIO) (active : Bool) : SchalterIO where
  dev := { s.dev with lastEdge := edgeOf active }
  sent := s.sent ++ [meldung selfaddr s.dev.config active]

/-- The position is not the one reported last. -/
def weichtAb (p : DeviceDataSchalter) (active : Bool) : Prop :=
  active = true ∧ p.lastEdge = .falling ∨ active = false ∧ p.lastEdge = .rising

instance (p : DeviceDataSchalter) (active : Bool) : Decidable (weichtAb p active) := by
  unfold weichtAb
  infer_instance

/-- The samples of a changed position are counted, unless a report is due. -/
def entprellen (p : DeviceDataSchalter) (active : Bool) : DeviceDataSchalter :=
  if p.newState ≠ 3 ∧ weichtAb p active ∧ p.newState < 255 then
    { p with newState := p.newState + 1 }
  else p

/-- The third sample is reported. -/
def meldenWennFaellig (selfaddr : UInt16) (active : Bool) (s : SchalterIO) : SchalterIO :=
  if s.dev.newState = 3 then
    let s := sendMessage selfaddr s active
    { s with dev := { s.dev with newState := 0 } }
  else s

/-- `schalter_timer_handler` -/
def schalterTimerHandler (selfaddr : UInt16) (inputportRead : Bool → UInt8 → UInt8)
    (s : SchalterIO) (zyklus : UInt8) : SchalterIO :=
  if zyklus ≠ 10 then s
  else
    let active := s.dev.config.active inputportRead
    meldenWennFaellig selfaddr active { s with dev := entprellen s.dev active }

/-- `newState = 3` -/
def meldungFaellig (s : SchalterIO) : SchalterIO :=
  { s with dev := { s.dev with newState := 3 } }

/-- `schalter_can_callback`: a board that starts is told the position, after a
tenth of a second. -/
def schalterCanCallback (frame : CanixFrame) (s : SchalterIO) : Resumption SchalterIO :=
  if frame.byte 1 = hcanHesBoardActive then
    if s.dev.config.gruppe ≠ 255 then .sleep s fun s => .done (meldungFaellig s) else .done s
  else .done s

/-! ## The machine -/

/-- A HES frame, a call of the timer handler with what the input ports show, or
the end of a sleep. -/
inductive SchalterEvent
  | frame (f : CanixFrame)
  | tick (inputportRead : Bool → UInt8 → UInt8)
  | wake

def schalterStep (selfaddr : UInt16) (c : Sleeper SchalterIO) : SchalterEvent → Sleeper SchalterIO
  | .frame f => c.handle (schalterCanCallback f)
  | .tick r => c.handle fun s => .done (schalterTimerHandler selfaddr r s 10)
  | .wake => c.wake

/-- A switch after a start of the board: `devices_init` has cleared the memory. -/
def schalterStart (c : EdsSchalterBlock) : Sleeper SchalterIO where
  state := ⟨⟨c, 0, .falling⟩, []⟩
  asleep := none

/-- No board starts. -/
def KeinBoardActive (e : SchalterEvent) : Prop :=
  ∀ f, e = .frame f → f.byte 1 ≠ hcanHesBoardActive

/-- How many samples up to now, one after the other, show a position other than
`edge`. -/
def folge (c : EdsSchalterBlock) (edge : Edge) : List SchalterEvent → Nat
  | [] => 0
  | .tick r :: past => if edgeOf (c.active r) = edge then 0 else folge c edge past + 1
  | .frame _ :: past => folge c edge past
  | .wake :: past => folge c edge past

/-! ## One sample -/

theorem weichtAb_iff (p : DeviceDataSchalter) (active : Bool) :
    weichtAb p active ↔ edgeOf active ≠ p.lastEdge := by
  unfold weichtAb
  cases active with
  | true => cases p.lastEdge <;> simp [edgeOf]
  | false => cases p.lastEdge <;> simp [edgeOf]

theorem entprellen_gleich {p : DeviceDataSchalter} {active : Bool}
    (h : edgeOf active = p.lastEdge) : entprellen p active = p := by
  unfold entprellen
  rw [if_neg]
  rintro ⟨-, hw, -⟩
  exact (weichtAb_iff p active).mp hw h

theorem entprellen_weicht {p : DeviceDataSchalter} {active : Bool} (h : edgeOf active ≠ p.lastEdge)
    (h3 : p.newState < 3) : entprellen p active = ⟨p.config, p.newState + 1, p.lastEdge⟩ := by
  unfold entprellen
  rw [if_pos]
  refine ⟨fun heq => ?_, (weichtAb_iff p active).mpr h, UInt8.lt_trans h3 (by decide)⟩
  rw [heq] at h3
  exact absurd h3 (by decide)

/-- What a sample does to a switch whose counter is below 3. -/
inductive TickEffect (selfaddr : UInt16) (r : Bool → UInt8 → UInt8) (s : SchalterIO) :
    SchalterIO → Prop
  | same : edgeOf (s.dev.config.active r) = s.dev.lastEdge → TickEffect selfaddr r s s
  | counted (n : UInt8) : edgeOf (s.dev.config.active r) ≠ s.dev.lastEdge →
      n.toNat = s.dev.newState.toNat + 1 → n < 3 →
      TickEffect selfaddr r s ⟨⟨s.dev.config, n, s.dev.lastEdge⟩, s.sent⟩
  | reported : edgeOf (s.dev.config.active r) ≠ s.dev.lastEdge → s.dev.newState.toNat = 2 →
      TickEffect selfaddr r s ⟨⟨s.dev.config, 0, edgeOf (s.dev.config.active r)⟩,
        s.sent ++ [meldung selfaddr s.dev.config (s.dev.config.active r)]⟩

theorem tick_effect (selfaddr : UInt16) (r : Bool → UInt8 → UInt8) (s : SchalterIO)
    (h3 : s.dev.newState < 3) :
    TickEffect selfaddr r s (schalterTimerHandler selfaddr r s 10) := by
  have hlt : s.dev.newState.toNat < 3 := h3
  show TickEffect selfaddr r s (meldenWennFaellig selfaddr (s.dev.config.active r)
    ⟨entprellen s.dev (s.dev.config.active r), s.sent⟩)
  by_cases hab : edgeOf (s.dev.config.active r) = s.dev.lastEdge
  · rw [entprellen_gleich hab]
    unfold meldenWennFaellig
    rw [if_neg]
    · exact TickEffect.same hab
    · intro heq
      have hthree : s.dev.newState = 3 := heq
      rw [hthree] at h3
      exact absurd h3 (by decide)
  · rw [entprellen_weicht hab h3]
    have hnext : (s.dev.newState + 1).toNat = s.dev.newState.toNat + 1 := by
      rw [UInt8.toNat_add]
      show (s.dev.newState.toNat + 1) % 256 = s.dev.newState.toNat + 1
      omega
    unfold meldenWennFaellig
    by_cases hthree : s.dev.newState + 1 = 3
    · rw [if_pos hthree]
      apply TickEffect.reported hab
      rw [hthree] at hnext
      have hval : (3 : UInt8).toNat = 3 := rfl
      omega
    · rw [if_neg hthree]
      refine TickEffect.counted _ hab hnext ?_
      rw [UInt8.lt_iff_toNat_lt, hnext]
      have hne : (s.dev.newState + 1).toNat ≠ 3 := fun heq => hthree (UInt8.toNat_inj.mp heq)
      have hval : (3 : UInt8).toNat = 3 := rfl
      omega

/-! ## What is reported -/

section

variable (selfaddr : UInt16) (c : EdsSchalterBlock)

/-- The position reported last. A switch that has reported nothing counts as off. -/
def letztePosition (sent : List CanixFrame) : Edge :=
  match sent.getLast? with
  | none => .falling
  | some f => if f = meldung selfaddr c true then .rising else .falling

/-- An event sends nothing, or it is the third sample in a row away from the
position reported last and its position is reported. -/
def Entprellt (k : Sleeper SchalterIO × List SchalterEvent) (e : SchalterEvent) : Prop :=
  let sent := k.1.state.sent
  let sent' := (schalterStep selfaddr k.1 e).state.sent
  sent' = sent ∨
    ∃ r, e = .tick r ∧ edgeOf (c.active r) ≠ letztePosition selfaddr c sent ∧
      2 ≤ folge c (letztePosition selfaddr c sent) k.2 ∧
      sent' = sent ++ [meldung selfaddr c (c.active r)]

/-- The switch is debounced in the whole run, and no position is reported twice
in a row. -/
def Gemeldet (es : List SchalterEvent) : Prop :=
  Guarded (recorded (schalterStep selfaddr)) (Entprellt selfaddr c) (schalterStart c, []) es ∧
    (run (schalterStep selfaddr) (schalterStart c) es).state.sent.IsChain (· ≠ ·)

/-- The switch does not bounce: a sample shows the position reported last only
while no other sample is counted. -/
def PrelltNicht (k : Sleeper SchalterIO) (e : SchalterEvent) : Prop :=
  ∀ r, e = .tick r → edgeOf (k.state.dev.config.active r) = k.state.dev.lastEdge →
    k.state.dev.newState = 0

theorem cmd_ne : c.cmd true ≠ c.cmd false := by
  unfold EdsSchalterBlock.cmd
  cases c.has .mute <;> decide

/-- The two positions have different frames. -/
theorem meldung_ne : meldung selfaddr c true ≠ meldung selfaddr c false := by
  intro h
  have hcmd : c.cmd (if c.has .invertieren then !true else true) =
      c.cmd (if c.has .invertieren then !false else false) := congrArg (fun f => f.byte 1) h
  cases hinv : c.has .invertieren with
  | true =>
      rw [hinv, if_pos rfl, if_pos rfl] at hcmd
      exact cmd_ne c hcmd.symm
  | false =>
      rw [hinv, if_neg Bool.false_ne_true, if_neg Bool.false_ne_true] at hcmd
      exact cmd_ne c hcmd

theorem letztePosition_append (sent : List CanixFrame) (active : Bool) :
    letztePosition selfaddr c (sent ++ [meldung selfaddr c active]) = edgeOf active := by
  unfold letztePosition
  rw [List.getLast?_append, List.getLast?_singleton]
  cases active with
  | true =>
      show (if meldung selfaddr c true = meldung selfaddr c true then Edge.rising else .falling) = _
      rw [if_pos rfl]
      rfl
  | false =>
      show (if meldung selfaddr c false = meldung selfaddr c true then Edge.rising else .falling) = _
      rw [if_neg (meldung_ne selfaddr c).symm]
      rfl

/-- What every run of samples keeps: the data know what was reported. -/
structure SchalterInv (s : SchalterIO) : Prop where
  config : s.dev.config = c
  newState : s.dev.newState < 3
  lastEdge : s.dev.lastEdge = letztePosition selfaddr c s.sent
  chain : s.sent.IsChain (· ≠ ·)

theorem schalterInv_start : SchalterInv selfaddr c (schalterStart c).state :=
  ⟨rfl, by show (0 : UInt8) < 3; decide, rfl, List.IsChain.nil⟩

/-- The samples at the end of the past are as many as the counter says. -/
def Gezaehlt (k : Sleeper SchalterIO × List SchalterEvent) : Prop :=
  k.1.asleep = none ∧ SchalterInv selfaddr c k.1.state ∧
    k.1.state.dev.newState.toNat ≤ folge c k.1.state.dev.lastEdge k.2

/-- The counter has outlived a sample at the position reported last. -/
def Geprellt (k : Sleeper SchalterIO × List SchalterEvent) : Prop :=
  k.1.asleep = none ∧ SchalterInv selfaddr c k.1.state ∧
    folge c k.1.state.dev.lastEdge k.2 < k.1.state.dev.newState.toNat

variable {selfaddr c} {s : SchalterIO} {e : SchalterEvent}

/-- A position away from the one reported last has another frame. -/
theorem isChain_append {sent : List CanixFrame} {active : Bool} (h : sent.IsChain (· ≠ ·))
    (hpos : edgeOf active ≠ letztePosition selfaddr c sent) :
    (sent ++ [meldung selfaddr c active]).IsChain (· ≠ ·) := by
  rw [List.isChain_append]
  refine ⟨h, List.IsChain.singleton _, fun f hf g hg => ?_⟩
  obtain rfl : meldung selfaddr c active = g := by simpa using hg
  rintro rfl
  apply hpos
  unfold letztePosition
  rw [Option.mem_def.mp hf]
  cases active with
  | true => simp [edgeOf]
  | false => simp [edgeOf, (meldung_ne selfaddr c).symm]

theorem TickEffect.inv {r : Bool → UInt8 → UInt8} {s' : SchalterIO}
    (heffect : TickEffect selfaddr r s s') (h : SchalterInv selfaddr c s) :
    SchalterInv selfaddr c s' := by
  obtain ⟨rfl, newState, lastEdge, chain⟩ := h
  cases heffect with
  | same => exact ⟨rfl, newState, lastEdge, chain⟩
  | counted n _ _ hlt => exact ⟨rfl, hlt, lastEdge, chain⟩
  | reported hpos =>
      refine ⟨rfl, by show (0 : UInt8) < 3; decide, ?_, isChain_append chain (lastEdge ▸ hpos)⟩
      exact (letztePosition_append selfaddr _ _ _).symm

/-- What an event does to a switch while no board starts: it is a sample, or
nothing happens. -/
theorem step_cases (h : SchalterInv selfaddr c s) (he : KeinBoardActive e) :
    ∃ s', schalterStep selfaddr ⟨s, none⟩ e = ⟨s', none⟩ ∧
      ((∃ r, e = .tick r ∧ TickEffect selfaddr r s s') ∨ (∀ r, e ≠ .tick r) ∧ s' = s) := by
  cases e with
  | frame f =>
      have hdone : schalterCanCallback f s = .done s := if_neg (he f rfl)
      refine ⟨s, ?_, Or.inr ⟨fun r => SchalterEvent.noConfusion, rfl⟩⟩
      exact Sleeper.handle_of_done (c := ⟨s, none⟩) hdone
  | tick r => exact ⟨_, rfl, Or.inl ⟨r, rfl, tick_effect selfaddr r s h.newState⟩⟩
  | wake => exact ⟨s, rfl, Or.inr ⟨fun r => SchalterEvent.noConfusion, rfl⟩⟩

/-! ## Whole runs -/

variable {past : List SchalterEvent}

/-- An event that is no sample adds nothing to the past. -/
theorem folge_andere (edge : Edge) (h : ∀ r, e ≠ .tick r) :
    folge c edge (e :: past) = folge c edge past := by
  cases e with
  | frame f => rfl
  | tick r => exact absurd rfl (h r)
  | wake => rfl

theorem folge_gleich {edge : Edge} {r : Bool → UInt8 → UInt8} (h : edgeOf (c.active r) = edge) :
    folge c edge (.tick r :: past) = 0 := if_pos h

theorem folge_weicht {edge : Edge} {r : Bool → UInt8 → UInt8} (h : edgeOf (c.active r) ≠ edge) :
    folge c edge (.tick r :: past) = folge c edge past + 1 := if_neg h

variable {k : Sleeper SchalterIO × List SchalterEvent}

/-- An awake switch with its past. -/
theorem Gezaehlt.step (h : Gezaehlt selfaddr c k) (hguard : PrelltNicht k.1 e)
    (he : KeinBoardActive e) : Gezaehlt selfaddr c (recorded (schalterStep selfaddr) k e) := by
  obtain ⟨⟨s, asleep⟩, past⟩ := k
  obtain ⟨hawake, hinv, hcount⟩ := h
  obtain rfl : asleep = none := hawake
  obtain ⟨s', hstep, ⟨r, rfl, heffect⟩ | ⟨hother, rfl⟩⟩ := step_cases hinv he
  · rw [recorded, hstep]
    refine ⟨rfl, heffect.inv hinv, ?_⟩
    obtain rfl : s.dev.config = c := hinv.config
    cases heffect with
    | same hpos =>
        show s.dev.newState.toNat ≤ _
        rw [hguard r rfl hpos]
        exact Nat.zero_le _
    | counted n hpos hn _ =>
        show n.toNat ≤ folge _ s.dev.lastEdge _
        rw [hn, folge_weicht hpos]
        exact Nat.succ_le_succ hcount
    | reported => exact Nat.zero_le _
  · rw [recorded, hstep]
    exact ⟨rfl, hinv, hcount.trans (folge_andere _ hother).ge⟩

/-- What has been counted in a row is reported rightly. -/
theorem Gezaehlt.entprellt (h : Gezaehlt selfaddr c k) (he : KeinBoardActive e) :
    Entprellt selfaddr c k e := by
  obtain ⟨⟨s, asleep⟩, past⟩ := k
  obtain ⟨hawake, hinv, hcount⟩ := h
  obtain rfl : asleep = none := hawake
  obtain ⟨s', hstep, ⟨r, rfl, heffect⟩ | ⟨-, rfl⟩⟩ := step_cases hinv he
  · unfold Entprellt
    rw [hstep]
    obtain rfl : s.dev.config = c := hinv.config
    cases heffect with
    | same => exact Or.inl rfl
    | counted => exact Or.inl rfl
    | reported hpos h2 =>
        refine Or.inr ⟨r, rfl, hinv.lastEdge ▸ hpos, ?_, rfl⟩
        rw [← hinv.lastEdge, ← h2]
        exact hcount
  · unfold Entprellt
    rw [hstep]
    exact Or.inl rfl

/-- A bounce. -/
theorem geprellt_of_bounce (h : Gezaehlt selfaddr c k) (hguard : ¬ PrelltNicht k.1 e)
    (he : KeinBoardActive e) :
    Geprellt selfaddr c (recorded (schalterStep selfaddr) k e) ∧
      (schalterStep selfaddr k.1 e).state.sent = k.1.state.sent := by
  obtain ⟨⟨s, asleep⟩, past⟩ := k
  obtain ⟨hawake, hinv, -⟩ := h
  obtain rfl : asleep = none := hawake
  unfold PrelltNicht at hguard
  push Not at hguard
  obtain ⟨r, rfl, hpos, hcounter⟩ := hguard
  obtain ⟨s', hstep, ⟨r', hr, heffect⟩ | ⟨hother, -⟩⟩ := step_cases hinv he
  · obtain rfl := SchalterEvent.tick.inj hr
    rw [recorded, hstep]
    obtain rfl : s.dev.config = c := hinv.config
    cases heffect with
    | same =>
        refine ⟨⟨rfl, hinv, ?_⟩, rfl⟩
        show folge _ s.dev.lastEdge _ < s.dev.newState.toNat
        rw [folge_gleich hpos]
        exact Nat.pos_of_ne_zero fun hzero => hcounter (UInt8.toNat_inj.mp hzero)
    | counted n hne => exact absurd hpos hne
    | reported hne => exact absurd hpos hne
  · exact absurd rfl (hother r)

/-- After a bounce the next message is wrong. -/
theorem Geprellt.step (h : Geprellt selfaddr c k) (he : KeinBoardActive e) :
    ¬ Entprellt selfaddr c k e ∨
      Geprellt selfaddr c (recorded (schalterStep selfaddr) k e) ∧
        (schalterStep selfaddr k.1 e).state.sent = k.1.state.sent := by
  obtain ⟨⟨s, asleep⟩, past⟩ := k
  obtain ⟨hawake, hinv, hcount⟩ := h
  obtain rfl : asleep = none := hawake
  obtain ⟨s', hstep, ⟨r, rfl, heffect⟩ | ⟨hother, rfl⟩⟩ := step_cases hinv he
  · unfold Entprellt
    rw [recorded, hstep]
    have hinv' := heffect.inv hinv
    obtain rfl : s.dev.config = c := hinv.config
    cases heffect with
    | same hpos =>
        refine Or.inr ⟨⟨rfl, hinv, ?_⟩, rfl⟩
        show folge _ s.dev.lastEdge _ < s.dev.newState.toNat
        rw [folge_gleich hpos]
        exact Nat.lt_of_le_of_lt (Nat.zero_le _) hcount
    | counted n hpos hn _ =>
        refine Or.inr ⟨⟨rfl, hinv', ?_⟩, rfl⟩
        show folge _ s.dev.lastEdge _ < n.toNat
        rw [hn, folge_weicht hpos]
        exact Nat.succ_lt_succ hcount
    | reported hpos h2 =>
        refine Or.inl fun hright => ?_
        obtain hsame | ⟨r', -, -, hfolge, -⟩ := hright
        · exact absurd hsame (by simp)
        · rw [← hinv.lastEdge] at hfolge
          have hlt : folge s.dev.config s.dev.lastEdge past < s.dev.newState.toNat := hcount
          have hle : 2 ≤ folge s.dev.config s.dev.lastEdge past := hfolge
          omega
  · rw [recorded, hstep]
    refine Or.inr ⟨⟨rfl, hinv, ?_⟩, rfl⟩
    show folge _ s'.dev.lastEdge _ < s'.dev.newState.toNat
    rw [folge_andere _ hother]
    exact hcount

theorem gezaehlt_start : Gezaehlt selfaddr c (schalterStart c, []) :=
  ⟨rfl, schalterInv_start selfaddr c, Nat.zero_le _⟩

/-- A run that does not bounce counts what is in a row. -/
theorem gezaehlt_run (es : List SchalterEvent) (he : ∀ e ∈ es, KeinBoardActive e)
    (hguard : Guarded (schalterStep selfaddr) PrelltNicht (schalterStart c) es) :
    Gezaehlt selfaddr c (run (recorded (schalterStep selfaddr)) (schalterStart c, []) es) := by
  apply run_guarded (G := fun k e => PrelltNicht k.1 e ∧ KeinBoardActive e)
    (fun k e hg hk => hk.step hg.1 hg.2) es _ _ gezaehlt_start
  exact (guarded_and es _).mpr ⟨(guarded_recorded es _ []).mpr hguard, guarded_of_forall es _ he⟩

/-- Every event of a run that does not bounce is right. -/
theorem entprellt_run (es : List SchalterEvent) (he : ∀ e ∈ es, KeinBoardActive e)
    (hguard : Guarded (schalterStep selfaddr) PrelltNicht (schalterStart c) es) :
    Guarded (recorded (schalterStep selfaddr)) (Entprellt selfaddr c) (schalterStart c, []) es := by
  apply guarded_of_guarded (G := fun k e => PrelltNicht k.1 e ∧ KeinBoardActive e)
    (fun k e hg hk => hk.step hg.1 hg.2) (fun k e hg hk => hk.entprellt hg.2) es _ gezaehlt_start
  exact (guarded_and es _).mpr ⟨(guarded_recorded es _ []).mpr hguard, guarded_of_forall es _ he⟩

/-- No position is reported twice in a row, however the switch bounces. -/
theorem chain_run (es : List SchalterEvent) (he : ∀ e ∈ es, KeinBoardActive e) :
    (run (schalterStep selfaddr) (schalterStart c) es).state.sent.IsChain (· ≠ ·) := by
  have hall : Guarded (schalterStep selfaddr) (fun _ e => KeinBoardActive e) (schalterStart c) es :=
    guarded_of_forall es _ he
  have hinv := run_guarded (I := fun k => k.asleep = none ∧ SchalterInv selfaddr c k.state) ?_ es
    (schalterStart c) hall ⟨rfl, schalterInv_start selfaddr c⟩
  · exact hinv.2.chain
  · rintro ⟨s, asleep⟩ e he ⟨rfl, hinv⟩
    obtain ⟨s', hstep, ⟨r, -, heffect⟩ | ⟨-, rfl⟩⟩ := step_cases hinv he
    · rw [hstep]
      exact ⟨rfl, heffect.inv hinv⟩
    · rw [hstep]
      exact ⟨rfl, hinv⟩

/-- After a bounce a run is right only as long as nothing is sent. -/
theorem geprellt_run (es : List SchalterEvent) (he : ∀ e ∈ es, KeinBoardActive e)
    (h : Geprellt selfaddr c k)
    (hright : Guarded (recorded (schalterStep selfaddr)) (Entprellt selfaddr c) k es) :
    (run (schalterStep selfaddr) k.1 es).state.sent = k.1.state.sent := by
  induction es generalizing k with
  | nil => rfl
  | cons e es ih =>
      obtain hwrong | ⟨hnext, hsent⟩ := h.step (he e List.mem_cons_self)
      · exact absurd hright.1 hwrong
      · rw [run_cons, ← hsent]
        exact ih (fun e' he' => he e' (List.mem_cons_of_mem e he')) hnext hright.2

end

/-- **Debouncing**: a switch that does not bounce is reported at the third of
three samples in a row away from the position reported last, and no position
twice in a row. After a bounce the next message is wrong. -/
theorem schalter_gemeldet (selfaddr : UInt16) (c : EdsSchalterBlock) (es : List SchalterEvent)
    (he : ∀ e ∈ es, KeinBoardActive e) :
    (Guarded (schalterStep selfaddr) PrelltNicht (schalterStart c) es → Gemeldet selfaddr c es) ∧
      ∀ pre e post, es = pre ++ e :: post →
        Guarded (schalterStep selfaddr) PrelltNicht (schalterStart c) pre →
        ¬ PrelltNicht (run (schalterStep selfaddr) (schalterStart c) pre) e →
        (run (schalterStep selfaddr) (schalterStart c) es).state.sent ≠
          (run (schalterStep selfaddr) (schalterStart c) pre).state.sent →
        ¬ Gemeldet selfaddr c es := by
  refine ⟨fun hguard => ⟨entprellt_run es he hguard, chain_run es he⟩, ?_⟩
  rintro pre e post rfl hguard hbounce hsent ⟨hright, -⟩
  have hpre : ∀ e' ∈ pre, KeinBoardActive e' := fun e' he' => he e' (by simp [he'])
  have hpost : ∀ e' ∈ post, KeinBoardActive e' := fun e' he' => he e' (by simp [he'])
  have hcount := gezaehlt_run pre hpre hguard
  rw [run_recorded] at hcount
  obtain ⟨hgeprellt, hquiet⟩ := geprellt_of_bounce hcount hbounce (he e (by simp))
  rw [guarded_append, run_recorded] at hright
  have hlast := geprellt_run post hpost hgeprellt hright.2.2
  apply hsent
  rw [run_append, run_cons]
  exact hlast.trans hquiet

/-- Samples of a switch without features: on is a 0 at the port. -/
private def lichtschalter (samples : List Bool) : List SchalterEvent :=
  samples.map fun on => .tick fun _ _ => if on then 0 else 1

private theorem lichtschalter_only (samples : List Bool) :
    ∀ e ∈ lichtschalter samples, KeinBoardActive e := by
  intro e he f hf
  obtain ⟨on, -, rfl⟩ := List.mem_map.mp he
  exact nomatch hf

/-- Three samples in a row. -/
theorem schalter_gemeldet_on :
    Gemeldet 7 ⟨4, 0, 40⟩ (lichtschalter [true, true, true]) ∧
      (run (schalterStep 7) (schalterStart ⟨4, 0, 40⟩)
        (lichtschalter [true, true, true])).state.sent = [meldung 7 ⟨4, 0, 40⟩ true] := by
  refine ⟨(schalter_gemeldet 7 ⟨4, 0, 40⟩ _ (lichtschalter_only _)).1 ?_, by decide⟩
  refine ⟨fun r hr hpos => rfl, fun r hr hpos => ?_, fun r hr hpos => ?_, trivial⟩
  · obtain rfl := SchalterEvent.tick.inj hr
    exact absurd hpos (by decide)
  · obtain rfl := SchalterEvent.tick.inj hr
    exact absurd hpos (by decide)

/-- A switch that is on in every second sample only is reported as on. -/
theorem schalter_prellt :
    ¬ Gemeldet 7 ⟨4, 0, 40⟩ (lichtschalter [true, false, true, false, true]) := by
  rintro ⟨⟨-, -, -, -, hlast, -⟩, -⟩
  rcases hlast with hsame | ⟨r, -, -, hfolge, -⟩
  · exact absurd hsame (by decide)
  · exact absurd hfolge (by decide)

end OpenHcan.Schalter
