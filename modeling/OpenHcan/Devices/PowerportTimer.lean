import OpenHcan.Devices.PowerportRuns

/-!
# PowerportTimer — the timer of a powerport and what it was loaded with

Every handler does to the timer one thing now and, if it sleeps, one thing
when it wakes up (`Wirkt`). The bookkeeping of this module keeps the second
one and the value the timer was last loaded with beside the board.
-/

namespace OpenHcan.Powerport

open Lib

set_option maxRecDepth 100000

/-! ## What can happen to the timer -/

inductive Eingriff
  | nichts
  | aus
  | stellen (v : UInt16)
  | laden
  | zaehlen
  | ladenZaehlen
deriving DecidableEq, Repr

/-- The timer afterwards: `lade` is the configured value. -/
def Eingriff.timer (lade v : UInt16) : Eingriff → UInt16
  | .nichts => v
  | .aus => 0
  | .stellen w => w
  | .laden => lade
  | .zaehlen => v - 1
  | .ladenZaehlen => lade - 1

/-- The value that is loaded, from the configuration or from a frame. -/
def Eingriff.ladung (lade : UInt16) : Eingriff → Option UInt16
  | .stellen w => some w
  | .laden => some lade
  | .ladenZaehlen => some lade
  | _ => none

/-- What a handler does to the timer before and after its sleep. -/
structure Wirkung where
  jetzt : Eingriff
  nachher : Eingriff
deriving DecidableEq, Repr

/-- Without a sleep there is no afterwards. -/
def Wirkung.sofort (e : Eingriff) : Wirkung := ⟨e, .nichts⟩

/-- A bistable relay is switched by a pulse, and the rest comes after it. -/
def Wirkung.puls (c : EdsPowerportBlock) (e : Eingriff) : Wirkung :=
  if c.has .bistableRelais then ⟨.nichts, e⟩ else .sofort e

def flankeWirkung (c : EdsPowerportBlock) : Flanke → Wirkung
  | .steigend =>
      if c.has .autoAus then .puls c .laden
      else if c.has .verzoegertEin then .sofort .laden
      else .puls c .aus
  | .fallend => if c.has .nachlauf then .sofort .laden else .sofort .aus

/-- The frame mutes a port whose timer is off and then starts. -/
def MuteLaedt (p : DeviceDataPowerport) (f : CanixFrame) : Prop :=
  p.config.mute = f.byte 2 ∧ f.byte 1 = hcanHesMuteOn ∧ p.config.has .nachlauf = true ∧
    p.countDownTimer = 0

instance (p : DeviceDataPowerport) (f : CanixFrame) : Decidable (MuteLaedt p f) := by
  unfold MuteLaedt
  infer_instance

def frameWirkung (s : PowerportIO) (f : CanixFrame) : Wirkung :=
  match kante s f with
  | some k => flankeWirkung s.dev.config k
  | none =>
      if Weckt s f then .sofort (.stellen (UInt16.ofNat (word (f.byte 4) (f.byte 5))))
      else if MuteLaedt s.dev f then .sofort .laden
      else .sofort .nichts

/-- The tick takes the timer down. An alarm clock that has run down loads it
first; a relay that is switched on pulses first. -/
def tickWirkung (p : DeviceDataPowerport) : Wirkung :=
  if p.countDownTimer = 0 then .sofort .nichts
  else if p.countDownTimer ≠ 1 then .sofort .zaehlen
  else if p.config.has .weckVerzoegertEin then .puls p.config .ladenZaehlen
  else if p.config.has .weckAutoAus then .sofort .zaehlen
  else if p.config.has .verzoegertEin then .puls p.config .zaehlen
  else .sofort .zaehlen

/-! ## The handlers do that -/

/-- The handler starts from the data `p` and does to the timer what `w` says. -/
inductive Wirkt (p : DeviceDataPowerport) (w : Wirkung) : Resumption PowerportIO → Prop
  | done (s : PowerportIO) : w.nachher = .nichts → s.dev.config.ladewert = p.config.ladewert →
      s.dev.countDownTimer = w.jetzt.timer p.config.ladewert p.countDownTimer →
      Wirkt p w (.done s)
  | sleep (s : PowerportIO) (rest : PowerportIO → Resumption PowerportIO) :
      s.dev.config.ladewert = p.config.ladewert →
      s.dev.countDownTimer = w.jetzt.timer p.config.ladewert p.countDownTimer →
      (∀ t, ∃ t', rest t = .done t' ∧ t'.dev.config.ladewert = t.dev.config.ladewert ∧
        t'.dev.countDownTimer =
          w.nachher.timer t.dev.config.ladewert t.dev.countDownTimer) →
      Wirkt p w (.sleep s rest)

section

variable (selfaddr : UInt16) {s : PowerportIO}

/-- A port is switched on, and then the timer is touched. -/
theorem powerportOn_wirkt (e : Eingriff) (f : PowerportIO → PowerportIO)
    (hlade : ∀ t, (f t).dev.config.ladewert = t.dev.config.ladewert)
    (hf : ∀ t, (f t).dev.countDownTimer = e.timer t.dev.config.ladewert t.dev.countDownTimer) :
    Wirkt s.dev (.puls s.dev.config e) ((powerportOn selfaddr s).map f) := by
  unfold Wirkung.puls
  split
  · rename_i hb
    rw [powerportOn_puls selfaddr s hb]
    exact .sleep _ _ rfl rfl fun t =>
      ⟨_, rfl, hlade (pulsEnde selfaddr t), hf (pulsEnde selfaddr t)⟩
  · rename_i hb
    rw [powerportOn_direct selfaddr s (by simpa using hb)]
    exact .done _ rfl (hlade _) (hf _)

theorem flanke_wirkt (k : Flanke) :
    Wirkt s.dev (flankeWirkung s.dev.config k) (setPowerportOrTimer selfaddr s k) := by
  unfold setPowerportOrTimer flankeWirkung
  cases k with
  | steigend =>
      dsimp only
      split
      · exact powerportOn_wirkt selfaddr .laden _ (fun _ => rfl) fun _ => rfl
      · split
        · exact .done _ rfl rfl rfl
        · exact powerportOn_wirkt selfaddr .aus _ (fun _ => rfl) fun _ => rfl
  | fallend =>
      dsimp only
      split
      · exact .done _ rfl rfl rfl
      · exact .done _ rfl rfl rfl

theorem muteGruppe_countDownTimer (p : DeviceDataPowerport) (f : CanixFrame) :
    (muteGruppe f p).countDownTimer =
      if MuteLaedt p f then p.config.ladewert else p.countDownTimer := by
  by_cases hmute : p.config.mute = f.byte 2
  · by_cases hoff : f.byte 1 = hcanHesMuteOff
    · have hon : ¬ MuteLaedt p f := fun h => absurd (hoff.symm.trans h.2.1) (by decide)
      unfold muteGruppe
      rw [if_pos hmute, if_pos hoff, if_neg hon]
    · by_cases hon : f.byte 1 = hcanHesMuteOn
      · unfold muteGruppe
        rw [if_pos hmute, if_neg hoff, if_pos hon]
        dsimp only
        split
        · rename_i hlauf
          rw [if_pos ⟨hmute, hon, hlauf⟩]
          rfl
        · rename_i hlauf
          rw [if_neg fun h => hlauf h.2.2]
      · rw [muteGruppe_other p hoff hon, if_neg fun h => hon h.2.1]
  · have hno : ¬ MuteLaedt p f := fun h => hmute h.1
    unfold muteGruppe
    rw [if_neg hmute, if_neg hno]

/-- The alarm clock sets the timer, whatever relay it then switches. -/
theorem weckerSet_wirkt {f : CanixFrame} (hw : Weckt s f) :
    Wirkt s.dev (.sofort (.stellen (UInt16.ofNat (word (f.byte 4) (f.byte 5)))))
      (weckerSet selfaddr f s) := by
  unfold weckerSet
  rw [if_pos hw.2.2]
  dsimp only
  split
  · unfold powerportOn
    split
    · exact .sleep _ _ rfl rfl fun t => ⟨_, rfl, rfl, rfl⟩
    · exact .done _ rfl rfl rfl
  · exact .done _ rfl rfl rfl

/-- A frame that is no edge and no alarm clock: the mute command may load the timer. -/
theorem quiet_wirkt {s' : PowerportIO} {f : CanixFrame} (hdev : s'.dev = muteGruppe f s.dev) :
    Wirkt s.dev (if MuteLaedt s.dev f then .sofort .laden else .sofort .nichts) (.done s') := by
  have htimer := muteGruppe_countDownTimer s.dev f
  have hconfig := muteGruppe_config s.dev f
  rw [← hdev] at htimer hconfig
  split
  · rename_i hmute
    rw [if_pos hmute] at htimer
    exact .done _ rfl (congrArg EdsPowerportBlock.ladewert hconfig) htimer
  · rename_i hmute
    rw [if_neg hmute] at htimer
    exact .done _ rfl (congrArg EdsPowerportBlock.ladewert hconfig) htimer

/-- An answer that is sent later touches no timer. -/
theorem answer_wirkt {rest : PowerportIO → Resumption PowerportIO} {f : CanixFrame}
    (hmute : muteGruppe f s.dev = s.dev)
    (hrest : ∀ t, ∃ t', rest t = .done t' ∧ t'.outputs = t.outputs ∧ t'.dev = t.dev) :
    Wirkt s.dev (if MuteLaedt s.dev f then .sofort .laden else .sofort .nichts)
      (.sleep s rest) := by
  have hsleep (e : Eingriff)
      (he : s.dev.countDownTimer = e.timer s.dev.config.ladewert s.dev.countDownTimer) :
      Wirkt s.dev (.sofort e) (.sleep s rest) := by
    apply Wirkt.sleep s rest rfl he
    intro t
    obtain ⟨t', hdone, -, hdev⟩ := hrest t
    exact ⟨t', hdone, by rw [hdev], by rw [hdev]; rfl⟩
  split
  · -- a timer that the frame would load has been loaded before
    rename_i hlaedt
    have htimer := muteGruppe_countDownTimer s.dev f
    rw [hmute, if_pos hlaedt] at htimer
    exact hsleep .laden htimer
  · exact hsleep .nichts rfl

/-- **What a frame does to the timer.** -/
theorem frame_wirkt (f : CanixFrame) :
    Wirkt s.dev (frameWirkung s f) (powerportCanCallback selfaddr f s) := by
  have heffect := callback_effect selfaddr s f
  generalize powerportCanCallback selfaddr f s = r at heffect ⊢
  unfold frameWirkung
  cases heffect with
  | edge k hk =>
      rw [hk]
      exact flanke_wirkt selfaddr k
  | weck hk hw =>
      rw [hk]
      dsimp only
      rw [if_pos hw]
      exact weckerSet_wirkt selfaddr hw
  | quiet s' hk hw houtputs hdev =>
      rw [hk]
      dsimp only
      rw [if_neg hw]
      exact quiet_wirkt hdev
  | answer rest hk hw hmute hrest =>
      rw [hk]
      dsimp only
      rw [if_neg hw]
      exact answer_wirkt hmute hrest

/-- **What a tick does to the timer.** -/
theorem tick_wirkt :
    Wirkt s.dev (tickWirkung s.dev) (powerportTimerHandler selfaddr s 1) := by
  unfold tickWirkung
  by_cases h0 : s.dev.countDownTimer = 0
  · rw [if_pos h0, tick_aus selfaddr h0]
    exact .done _ rfl rfl rfl
  · by_cases h1 : s.dev.countDownTimer = 1
    · rw [if_neg h0, if_neg fun h => h h1, tick_ablauf selfaddr h1]
      unfold timerAbgelaufen
      split
      · rw [Resumption.map_map]
        exact powerportOn_wirkt selfaddr .ladenZaehlen _ (fun _ => rfl) fun _ => rfl
      · split
        · exact .done _ rfl rfl rfl
        · split
          · exact powerportOn_wirkt selfaddr .zaehlen _ (fun _ => rfl) fun _ => rfl
          · split
            · exact .done _ rfl rfl rfl
            · exact .done _ rfl rfl rfl
    · rw [if_neg h0, if_pos h1, tick_laeuft selfaddr h0 h1]
      exact .done _ rfl rfl rfl

end

/-! ## The bookkeeping -/

/-- A powerport, what its sleeping handler will do to the timer, and the value
that was loaded last. -/
structure Zaehlwerk where
  board : Sleeper PowerportIO
  rest : Eingriff
  geladen : UInt16

namespace Zaehlwerk

def dev (z : Zaehlwerk) : DeviceDataPowerport := z.board.state.dev

def timer (z : Zaehlwerk) : UInt16 := z.dev.countDownTimer

def lade (z : Zaehlwerk) : UInt16 := z.dev.config.ladewert

/-- What the handler of an event does. -/
def wirkung (z : Zaehlwerk) : PortEvent → Wirkung
  | .frame f => frameWirkung z.board.state f
  | .tick => tickWirkung z.dev
  | .wake => .sofort .nichts

/-- What happens to the timer in a step: a handler that starts while another one
sleeps goes straight on. -/
def eingriffe (z : Zaehlwerk) : PortEvent → List Eingriff
  | .wake => [z.rest]
  | e =>
      if z.board.asleep.isSome then [(z.wirkung e).jetzt, (z.wirkung e).nachher]
      else [(z.wirkung e).jetzt]

end Zaehlwerk

/-- The timer after some steps of the handlers. -/
def timerNach (lade v : UInt16) (es : List Eingriff) : UInt16 :=
  es.foldl (fun v e => e.timer lade v) v

/-- The value loaded last, `v` if there was none. -/
def geladenNach (lade v : UInt16) (es : List Eingriff) : UInt16 :=
  es.foldl (fun v e => (e.ladung lade).getD v) v

def zaehlStep (selfaddr : UInt16) (z : Zaehlwerk) (e : PortEvent) : Zaehlwerk where
  board := portStep selfaddr z.board e
  rest := if e = .wake then .nichts else if z.board.asleep.isSome then z.rest
    else (z.wirkung e).nachher
  geladen := geladenNach z.lade z.geladen (z.eingriffe e)

/-- Nothing has been loaded after the start. -/
def zaehlStart (p : DeviceDataPowerport) : Zaehlwerk := ⟨portStart p, .nichts, 0⟩

/-! ## The books are true -/

/-- The handler that sleeps will do what is written down. -/
structure Gebucht (z : Zaehlwerk) : Prop where
  wach : z.board.asleep = none → z.rest = .nichts
  schlaf : ∀ rest, z.board.asleep = some rest → ∀ t, ∃ t', rest t = .done t' ∧
    t'.dev.config.ladewert = t.dev.config.ladewert ∧
    t'.dev.countDownTimer = z.rest.timer t.dev.config.ladewert t.dev.countDownTimer

section

variable (selfaddr : UInt16) {z : Zaehlwerk}

theorem gebucht_start (p : DeviceDataPowerport) : Gebucht (zaehlStart p) where
  wach _ := rfl
  schlaf _ h := nomatch h

/-- A handler that starts, with the books kept. -/
theorem Gebucht.handle (hz : Gebucht z) {e : PortEvent} (he : e ≠ .wake)
    {h : PowerportIO → Resumption PowerportIO}
    (hstep : portStep selfaddr z.board e = z.board.handle h)
    (hw : Wirkt z.dev (z.wirkung e) (h z.board.state)) :
    Gebucht (zaehlStep selfaddr z e) ∧
      (zaehlStep selfaddr z e).timer = timerNach z.lade z.timer (z.eingriffe e) := by
  have hlist : z.eingriffe e =
      if z.board.asleep.isSome then [(z.wirkung e).jetzt, (z.wirkung e).nachher]
      else [(z.wirkung e).jetzt] := by
    cases e with
    | frame f => rfl
    | tick => rfl
    | wake => exact absurd rfl he
  obtain ⟨⟨s, asleep⟩, rest, geladen⟩ := z
  unfold zaehlStep Zaehlwerk.timer Zaehlwerk.dev
  rw [hlist, hstep, if_neg he]
  cases asleep with
  | none =>
      dsimp only [Option.isSome]
      rw [if_neg Bool.false_ne_true, if_neg Bool.false_ne_true, Sleeper.handle_awake]
      have hw : Wirkt s.dev (Zaehlwerk.wirkung ⟨⟨s, none⟩, rest, geladen⟩ e) (h s) := hw
      generalize h s = r at hw ⊢
      cases hw with
      | done s' hnach _ htimer => exact ⟨⟨fun _ => hnach, fun r h => nomatch h⟩, htimer⟩
      | sleep s' rest' _ htimer hrest =>
          refine ⟨⟨fun h => (nomatch h), fun r h => ?_⟩, htimer⟩
          obtain rfl := Option.some.inj h
          exact hrest
  | some asleep =>
      dsimp only [Option.isSome]
      rw [if_pos rfl, if_pos rfl, Sleeper.handle_asleep]
      have hw : Wirkt s.dev (Zaehlwerk.wirkung ⟨⟨s, some asleep⟩, rest, geladen⟩ e) (h s) := hw
      refine ⟨⟨fun h => (nomatch h), hz.schlaf⟩, ?_⟩
      generalize h s = r at hw ⊢
      cases hw with
      | done s' hnach _ htimer =>
          rw [hnach]
          exact htimer
      | sleep s' rest' hlade htimer hrest =>
          obtain ⟨t', hdone, -, hnach⟩ := hrest s'
          show (rest' s').straight.dev.countDownTimer = _
          rw [hdone]
          show t'.dev.countDownTimer = _
          rw [hnach, hlade, htimer]
          rfl

/-- **A step does to the timer** what the books say. -/
theorem Gebucht.step (hz : Gebucht z) (e : PortEvent) :
    Gebucht (zaehlStep selfaddr z e) ∧
      (zaehlStep selfaddr z e).timer = timerNach z.lade z.timer (z.eingriffe e) := by
  cases e with
  | frame f =>
      exact hz.handle selfaddr (e := .frame f) PortEvent.noConfusion rfl (frame_wirkt selfaddr f)
  | tick =>
      have hw : Wirkt z.dev (tickWirkung z.dev)
          (powerportTimerHandler selfaddr z.board.state 1) := tick_wirkt selfaddr
      exact hz.handle selfaddr (e := .tick) (h := fun s => powerportTimerHandler selfaddr s 1)
        PortEvent.noConfusion rfl hw
  | wake =>
      obtain ⟨⟨s, asleep⟩, rest, geladen⟩ := z
      cases asleep with
      | none =>
          have hrest : rest = .nichts := hz.wach rfl
          subst hrest
          exact ⟨⟨fun _ => rfl, fun r h => nomatch h⟩, rfl⟩
      | some asleep =>
          obtain ⟨t', hdone, -, htimer⟩ := hz.schlaf asleep rfl s
          have hstep : (zaehlStep selfaddr ⟨⟨s, some asleep⟩, rest, geladen⟩ .wake).board =
              ⟨t', none⟩ := by
            show Sleeper.settle (asleep s) = ⟨t', none⟩
            rw [hdone]
            rfl
          refine ⟨⟨fun _ => rfl, fun r h => ?_⟩, ?_⟩
          · rw [hstep] at h
            exact nomatch h
          · unfold Zaehlwerk.timer Zaehlwerk.dev
            rw [hstep]
            exact htimer

end

/-! ## The property and its condition -/

/-- The step counts the timer down. -/
def Eingriff.zaehlt : Eingriff → Bool
  | .zaehlen => true
  | .ladenZaehlen => true
  | _ => false

/-- The timer after a tick is one less than before it or, if it was loaded, than
the value loaded, and 0 if that was 0. A tick that sleeps is over when it has
woken up. -/
def TickRichtig (selfaddr : UInt16) (z : Zaehlwerk) (e : PortEvent) : Prop :=
  (match e with
    | .frame _ => False
    | .tick => (portStep selfaddr z.board .tick).asleep.isSome = z.board.asleep.isSome
    | .wake => z.rest.zaehlt = true) →
  (zaehlStep selfaddr z e).timer.toNat = (geladenNach z.lade z.timer (z.eingriffe e)).toNat - 1

/-- The step is right, and the timer is not above the value loaded last. -/
def ZaehltRichtig (selfaddr : UInt16) (z : Zaehlwerk) (e : PortEvent) : Prop :=
  TickRichtig selfaddr z e ∧
    (zaehlStep selfaddr z e).timer ≤ (zaehlStep selfaddr z e).geladen

/-- The tick does not count down from 0. -/
def NichtUnterNull (z : Zaehlwerk) : PortEvent → Prop
  | .frame _ => True
  | .tick =>
      z.timer = 1 → z.dev.config.has .weckVerzoegertEin = true →
        z.board.asleep.isSome = true ∨ z.dev.config.has .bistableRelais = false → z.lade ≠ 0
  | .wake => (z.rest = .zaehlen → z.timer ≠ 0) ∧ (z.rest = .ladenZaehlen → z.lade ≠ 0)

instance (z : Zaehlwerk) : DecidablePred (NichtUnterNull z)
  | .frame _ => inferInstanceAs (Decidable True)
  | .tick => inferInstanceAs (Decidable (z.timer = 1 → _))
  | .wake => inferInstanceAs (Decidable (_ ∧ _))

/-! ## One thing done to the timer -/

/-- The timer is not counted down from 0. -/
def Eingriff.Geht (lade v : UInt16) : Eingriff → Prop
  | .zaehlen => v ≠ 0
  | .ladenZaehlen => lade ≠ 0
  | _ => True

/-- The timer stays below the value loaded last. -/
theorem Eingriff.timer_le {lade v g : UInt16} {e : Eingriff} (he : e.Geht lade v) (h : v ≤ g) :
    e.timer lade v ≤ (e.ladung lade).getD g := by
  cases e with
  | nichts => exact h
  | aus => exact UInt16.le_iff_toNat_le.mpr (Nat.zero_le _)
  | stellen w => exact UInt16.le_refl w
  | laden => exact UInt16.le_refl lade
  | zaehlen => exact UInt16.le_trans (sub_one_le he) h
  | ladenZaehlen => exact sub_one_le he

theorem Eingriff.geht_iff {lade v : UInt16} {e : Eingriff} :
    e.Geht lade v ↔ (e = .zaehlen → v ≠ 0) ∧ (e = .ladenZaehlen → lade ≠ 0) := by
  cases e with
  | nichts => simp [Eingriff.Geht]
  | aus => simp [Eingriff.Geht]
  | stellen w => simp [Eingriff.Geht]
  | laden => simp [Eingriff.Geht]
  | zaehlen => simp [Eingriff.Geht]
  | ladenZaehlen => simp [Eingriff.Geht]

/-- **One less**, exactly if the timer is not counted down from 0. -/
theorem Eingriff.eins_weniger_iff {lade v : UInt16} {e : Eingriff} (he : e.zaehlt = true) :
    (e.timer lade v).toNat = ((e.ladung lade).getD v).toNat - 1 ↔ e.Geht lade v := by
  have hiff (w : UInt16) : (w - 1).toNat = w.toNat - 1 ↔ w ≠ 0 := by
    constructor
    · rintro h rfl
      exact absurd h (by decide)
    · exact toNat_sub_one
  cases e with
  | zaehlen => exact hiff v
  | ladenZaehlen => exact hiff lade
  | nichts => exact nomatch he
  | aus => exact nomatch he
  | stellen w => exact nomatch he
  | laden => exact nomatch he

theorem Eingriff.geht_of_not_zaehlt {lade v : UInt16} {e : Eingriff} (he : e.zaehlt = false) :
    e.Geht lade v := by
  cases e with
  | nichts => trivial
  | aus => trivial
  | stellen w => trivial
  | laden => trivial
  | zaehlen => exact nomatch he
  | ladenZaehlen => exact nomatch he

/-- Frames do not count. -/
theorem flankeWirkung_not_zaehlt (c : EdsPowerportBlock) (k : Flanke) :
    (flankeWirkung c k).jetzt.zaehlt = false ∧ (flankeWirkung c k).nachher.zaehlt = false := by
  unfold flankeWirkung Wirkung.puls
  cases k with
  | steigend =>
      dsimp only
      split
      · split <;> exact ⟨rfl, rfl⟩
      · split
        · exact ⟨rfl, rfl⟩
        · split <;> exact ⟨rfl, rfl⟩
  | fallend =>
      dsimp only
      split <;> exact ⟨rfl, rfl⟩

theorem frameWirkung_not_zaehlt (s : PowerportIO) (f : CanixFrame) :
    (frameWirkung s f).jetzt.zaehlt = false ∧ (frameWirkung s f).nachher.zaehlt = false := by
  unfold frameWirkung
  split
  · exact flankeWirkung_not_zaehlt s.dev.config _
  · split
    · exact ⟨rfl, rfl⟩
    · split
      · exact ⟨rfl, rfl⟩
      · exact ⟨rfl, rfl⟩

/-- What a tick can do. -/
inductive TickArt (p : DeviceDataPowerport) : Wirkung → Prop
  | steht : p.countDownTimer = 0 → TickArt p (.sofort .nichts)
  | zaehlt : p.countDownTimer ≠ 0 →
      ¬ (p.countDownTimer = 1 ∧ p.config.has .weckVerzoegertEin = true) →
      TickArt p (.sofort .zaehlen)
  | puls : p.countDownTimer = 1 → p.config.has .weckVerzoegertEin = false →
      TickArt p ⟨.nichts, .zaehlen⟩
  | weckt : p.countDownTimer = 1 → p.config.has .weckVerzoegertEin = true →
      p.config.has .bistableRelais = false → TickArt p (.sofort .ladenZaehlen)
  | wecktPuls : p.countDownTimer = 1 → p.config.has .weckVerzoegertEin = true →
      p.config.has .bistableRelais = true → TickArt p ⟨.nichts, .ladenZaehlen⟩

theorem tickWirkung_art (p : DeviceDataPowerport) : TickArt p (tickWirkung p) := by
  unfold tickWirkung Wirkung.puls
  by_cases h0 : p.countDownTimer = 0
  · rw [if_pos h0]
    exact .steht h0
  · rw [if_neg h0]
    by_cases h1 : p.countDownTimer = 1
    · rw [if_neg fun h => h h1]
      split
      · rename_i hweck
        split
        · rename_i hb
          exact .wecktPuls h1 hweck hb
        · rename_i hb
          exact .weckt h1 hweck (by simpa using hb)
      · rename_i hweck
        have hzaehlt : TickArt p (.sofort .zaehlen) := .zaehlt h0 fun h => hweck h.2
        split
        · exact hzaehlt
        · split
          · split
            · exact .puls h1 (by simpa using hweck)
            · exact hzaehlt
          · exact hzaehlt
    · rw [if_pos h1]
      exact .zaehlt h0 fun h => h1 h.1

/-! ## A step is right exactly when it does not count below 0 -/

section

variable (selfaddr : UInt16) {z : Zaehlwerk}

/-- A tick of a port without a bistable relay does not sleep. -/
theorem tick_schlaeft_nicht (h1 : z.timer = 1) (hweck : z.dev.config.has .weckVerzoegertEin = true)
    (hende : z.board.asleep.isSome = true ∨ z.dev.config.has .bistableRelais = false) :
    (portStep selfaddr z.board .tick).asleep.isSome = z.board.asleep.isSome := by
  obtain ⟨⟨s, asleep⟩, rest, geladen⟩ := z
  cases asleep with
  | some asleep => rfl
  | none =>
      have hb : s.dev.config.has .bistableRelais = false := hende.resolve_left Bool.false_ne_true
      show (Sleeper.settle (powerportTimerHandler selfaddr s 1)).asleep.isSome = false
      obtain ⟨s', hdone, -⟩ := ablauf_weckt selfaddr hweck hb
      rw [tick_ablauf selfaddr h1, hdone]
      rfl

/-- A handler that goes to sleep is not over. -/
theorem tick_schlaeft (hz : z.board.asleep = none) (hw : (z.wirkung .tick).nachher ≠ .nichts) :
    (portStep selfaddr z.board .tick).asleep.isSome = true := by
  obtain ⟨⟨s, asleep⟩, rest, geladen⟩ := z
  obtain rfl : asleep = none := hz
  show (Sleeper.settle (powerportTimerHandler selfaddr s 1)).asleep.isSome = true
  have hwirkt : Wirkt s.dev (tickWirkung s.dev) (powerportTimerHandler selfaddr s 1) :=
    tick_wirkt selfaddr
  generalize powerportTimerHandler selfaddr s 1 = r at hwirkt ⊢
  cases hwirkt with
  | done s' hnach => exact absurd hnach hw
  | sleep s' rest' => rfl

/-- Frames keep the timer below the value loaded last. -/
theorem frame_richtig (hz : Gebucht z) (hle : z.timer ≤ z.geladen) (f : CanixFrame) :
    (zaehlStep selfaddr z (.frame f)).timer ≤ (zaehlStep selfaddr z (.frame f)).geladen := by
  obtain ⟨hjetzt, hnachher⟩ := frameWirkung_not_zaehlt z.board.state f
  rw [(hz.step selfaddr (.frame f)).2]
  show timerNach z.lade z.timer (z.eingriffe (.frame f)) ≤
    geladenNach z.lade z.geladen (z.eingriffe (.frame f))
  have hgeht : (frameWirkung z.board.state f).jetzt.Geht z.lade z.timer :=
    Eingriff.geht_of_not_zaehlt hjetzt
  have hone := Eingriff.timer_le hgeht hle
  unfold Zaehlwerk.eingriffe
  dsimp only
  split
  · exact Eingriff.timer_le (Eingriff.geht_of_not_zaehlt hnachher) hone
  · exact hone

/-- A step in which one thing `x` happens to the timer. -/
theorem step_richtig (hz : Gebucht z) (hle : z.timer ≤ z.geladen) {e : PortEvent} {x : Eingriff}
    (htimer : timerNach z.lade z.timer (z.eingriffe e) = x.timer z.lade z.timer)
    (hladung : ∀ v, geladenNach z.lade v (z.eingriffe e) = (x.ladung z.lade).getD v)
    (hx : x.Geht z.lade z.timer) (hzaehlt : x.zaehlt = true ∨ x = .nichts ∧ z.timer = 0) :
    ZaehltRichtig selfaddr z e := by
  have hstep := (hz.step selfaddr e).2
  constructor
  · intro _
    rw [hstep, htimer, hladung]
    rcases hzaehlt with hzaehlt | ⟨rfl, h0⟩
    · exact (Eingriff.eins_weniger_iff hzaehlt).mpr hx
    · show z.timer.toNat = z.timer.toNat - 1
      rw [h0]
      rfl
  · rw [hstep, htimer]
    show x.timer z.lade z.timer ≤ geladenNach z.lade z.geladen (z.eingriffe e)
    rw [hladung]
    exact Eingriff.timer_le hx hle

theorem eingriffe_tick : z.eingriffe .tick =
    if z.board.asleep.isSome then [(tickWirkung z.dev).jetzt, (tickWirkung z.dev).nachher]
    else [(tickWirkung z.dev).jetzt] := rfl

/-- A tick in which one thing happens at once. -/
theorem sofort_richtig (hz : Gebucht z) (hle : z.timer ≤ z.geladen) {x : Eingriff}
    (hw : tickWirkung z.dev = .sofort x) (hx : x.Geht z.lade z.timer)
    (hzaehlt : x.zaehlt = true ∨ x = .nichts ∧ z.timer = 0) : ZaehltRichtig selfaddr z .tick := by
  apply step_richtig selfaddr hz hle _ _ hx hzaehlt
  · rw [eingriffe_tick, hw]
    split <;> rfl
  · intro v
    rw [eingriffe_tick, hw]
    split <;> rfl

/-- A tick that pulses: it goes on at once if another handler sleeps, and later
otherwise. -/
theorem puls_richtig (hz : Gebucht z) (hle : z.timer ≤ z.geladen) {x : Eingriff}
    (hw : tickWirkung z.dev = ⟨.nichts, x⟩) (hzaehlt : x.zaehlt = true)
    (hx : z.board.asleep.isSome = true → x.Geht z.lade z.timer) :
    ZaehltRichtig selfaddr z .tick := by
  cases hasleep : z.board.asleep.isSome with
  | true =>
      apply step_richtig selfaddr hz hle _ _ (hx hasleep) (Or.inl hzaehlt)
      · rw [eingriffe_tick, hw, hasleep]
        rfl
      · intro v
        rw [eingriffe_tick, hw, hasleep]
        rfl
  | false =>
      have hnone : z.board.asleep = none := Option.isNone_iff_eq_none.mp (by simpa using hasleep)
      have hnachher : (z.wirkung .tick).nachher ≠ .nichts := by
        show (tickWirkung z.dev).nachher ≠ .nichts
        rw [hw]
        rintro rfl
        exact nomatch hzaehlt
      constructor
      · intro hende
        have hende : (portStep selfaddr z.board .tick).asleep.isSome =
            z.board.asleep.isSome := hende
        rw [tick_schlaeft selfaddr hnone hnachher, hasleep] at hende
        exact nomatch hende
      · rw [(hz.step selfaddr .tick).2]
        show timerNach z.lade z.timer (z.eingriffe .tick) ≤
          geladenNach z.lade z.geladen (z.eingriffe .tick)
        rw [eingriffe_tick, hw, hasleep]
        exact hle

theorem tick_richtig_iff (hz : Gebucht z) (hle : z.timer ≤ z.geladen) :
    ZaehltRichtig selfaddr z .tick ↔ NichtUnterNull z .tick := by
  constructor
  · intro h h1 hweck hende
    have hr := h.1 (tick_schlaeft_nicht selfaddr h1 hweck hende)
    rw [(hz.step selfaddr .tick).2, eingriffe_tick] at hr
    -- the alarm clock has run down: it loads the timer and takes one off
    have hgeht : Eingriff.ladenZaehlen.Geht z.lade z.timer := by
      apply (Eingriff.eins_weniger_iff rfl).mp
      have hart := tickWirkung_art z.dev
      generalize tickWirkung z.dev = w at hart hr
      cases hart with
      | steht h0 => exact absurd (h1.symm.trans h0) (by decide)
      | zaehlt _ hno => exact absurd ⟨h1, hweck⟩ hno
      | puls _ hno => exact absurd (hweck.symm.trans hno) Bool.noConfusion
      | weckt =>
          split at hr
          · exact hr
          · exact hr
      | wecktPuls _ _ hb =>
          have hasleep := hende.resolve_right fun h => nomatch hb.symm.trans h
          rw [if_pos hasleep] at hr
          exact hr
    exact hgeht
  · intro hg
    have hart := tickWirkung_art z.dev
    obtain ⟨w, hw⟩ : ∃ w, tickWirkung z.dev = w := ⟨_, rfl⟩
    rw [hw] at hart
    cases hart with
    | steht h0 => exact sofort_richtig selfaddr hz hle hw trivial (Or.inr ⟨rfl, h0⟩)
    | zaehlt h0 => exact sofort_richtig selfaddr hz hle hw h0 (Or.inl rfl)
    | puls h1 =>
        apply puls_richtig selfaddr hz hle hw rfl
        intro _ h0
        exact absurd (h1.symm.trans h0) (by decide)
    | weckt h1 hweck hb =>
        exact sofort_richtig selfaddr hz hle hw (hg h1 hweck (Or.inr hb)) (Or.inl rfl)
    | wecktPuls h1 hweck hb =>
        apply puls_richtig selfaddr hz hle hw rfl
        intro hasleep
        exact hg h1 hweck (Or.inl hasleep)

theorem wake_richtig_iff (hz : Gebucht z) (hle : z.timer ≤ z.geladen) :
    ZaehltRichtig selfaddr z .wake ↔ NichtUnterNull z .wake := by
  have hgeht : NichtUnterNull z .wake ↔ z.rest.Geht z.lade z.timer := Eingriff.geht_iff.symm
  rw [hgeht]
  have hstep : (zaehlStep selfaddr z .wake).timer = z.rest.timer z.lade z.timer :=
    (hz.step selfaddr .wake).2
  constructor
  · intro h
    cases hzaehlt : z.rest.zaehlt with
    | false => exact Eingriff.geht_of_not_zaehlt hzaehlt
    | true =>
        have hr := h.1 hzaehlt
        rw [hstep] at hr
        exact (Eingriff.eins_weniger_iff hzaehlt).mp hr
  · intro hg
    constructor
    · intro hzaehlt
      rw [hstep]
      exact (Eingriff.eins_weniger_iff hzaehlt).mpr hg
    · rw [hstep]
      exact Eingriff.timer_le hg hle

/-- **The timer of a powerport** is counted down as it should, in every step of a
run, exactly if no tick finds a 0 to count down. -/
theorem timer_zaehlt_richtig_iff (p : DeviceDataPowerport) (es : List PortEvent) :
    (∀ pre e post, es = pre ++ e :: post →
      ZaehltRichtig selfaddr (run (zaehlStep selfaddr) (zaehlStart p) pre) e) ↔
      Guarded (zaehlStep selfaddr) NichtUnterNull (zaehlStart p) es := by
  rw [← guarded_iff_split]
  apply guarded_congr_of_invariant (I := fun z => Gebucht z ∧ z.timer ≤ z.geladen)
  · intro z e hr hz
    exact ⟨(hz.1.step selfaddr e).1, hr.2⟩
  · intro z e hz
    cases e with
    | frame f =>
        refine iff_of_true ⟨False.elim, ?_⟩ trivial
        exact frame_richtig selfaddr hz.1 hz.2 f
    | tick => exact tick_richtig_iff selfaddr hz.1 hz.2
    | wake => exact wake_richtig_iff selfaddr hz.1 hz.2
  · exact ⟨gebucht_start p, UInt16.le_refl 0⟩

end

/-! ## A timer that wraps -/

/-- A port in group 1 without features, with no configured timer. -/
private def ohneTimer : DeviceDataPowerport where
  config := ⟨3, 0, 1, 255, 255, 0, 255⟩
  mute := false
  countDownTimer := 0
  bistableRelaisState := false

/-- The port 1 is to be switched on in a second. -/
private def weckeEin : CanixFrame where
  src := 900
  dst := hcanMulticastInfo
  proto := hcanProtoSfp
  size := 6
  data := payload [hcanSrvHes, hcanHesWeckerSet, 1, 4, 0, 1]

/-- The alarm clock has run down: the timer is loaded with 0 and counted down. -/
theorem timer_wird_65535 :
    (run (zaehlStep 5) (zaehlStart ohneTimer) [.frame weckeEin, .tick]).timer = 65535 ∧
      ¬ ∀ (selfaddr : UInt16) (p : DeviceDataPowerport) (es pre : List PortEvent) (e : PortEvent)
        (post : List PortEvent), es = pre ++ e :: post →
          ZaehltRichtig selfaddr (run (zaehlStep selfaddr) (zaehlStart p) pre) e := by
  refine ⟨by decide, fun h => ?_⟩
  have hstep := h 5 ohneTimer [.frame weckeEin, .tick] [.frame weckeEin] .tick [] rfl
  exact absurd (hstep.1 (by decide)) (by decide)

end OpenHcan.Powerport
