import OpenHcan.Devices.PowerportRuns

/-!
# PowerportAutoAus — outputs that switch themselves off

A port with AUTO_AUS that is on has a timer running, and the timer switches
the output off — if the timer, once it has run down, does switch off. The
rising edge looks at AUTO_AUS first and the timer at VERZOEGERT_EIN first, and
an alarm clock can bring any feature and any time.
-/

namespace OpenHcan.Powerport

open Lib

set_option maxRecDepth 100000

/-! ## The property and its condition -/

/-- A timer that has run down switches the output of an AUTO_AUS port off. -/
def EdsPowerportBlock.AblaufAus (c : EdsPowerportBlock) : Prop :=
  c.has .weckVerzoegertEin = false ∧ (c.has .weckAutoAus = true ∨ c.has .verzoegertEin = false)

instance (c : EdsPowerportBlock) : Decidable c.AblaufAus := by
  unfold EdsPowerportBlock.AblaufAus
  infer_instance

/-- If the output is on, its timer runs, and the output is off when the timer
has run down and no frame has come. -/
def SchaltetAus (selfaddr : UInt16) (c : Sleeper PowerportIO) : Prop :=
  c.state.ein = true → 0 < c.state.dev.countDownTimer ∧
    ∀ es : List PortEvent, (∀ f, PortEvent.frame f ∉ es) →
      c.state.dev.countDownTimer.toNat ≤ es.count .tick →
        (run (portStep selfaddr) c es).state.ein = false

/-- What an alarm clock makes of the data of a port. -/
def geweckt (frame : CanixFrame) (p : DeviceDataPowerport) : DeviceDataPowerport where
  config := { p.config with feature := p.config.feature ||| UInt8.ofNat (2 ^ (frame.byte 3).toNat) }
  mute := p.mute
  countDownTimer := UInt16.ofNat (word (frame.byte 4) (frame.byte 5))
  bistableRelaisState := p.bistableRelaisState

/-- An alarm clock that leaves the output on, or switches it on, runs and
switches it off. -/
def WeckerSchaltetAus (s : PowerportIO) (f : CanixFrame) : Prop :=
  (geweckt f s.dev).config.has .weckAutoAus = true ∨ s.ein = true →
    0 < (geweckt f s.dev).countDownTimer ∧ (geweckt f s.dev).config.AblaufAus ∧
      ((geweckt f s.dev).config.has .weckAutoAus = true →
        (geweckt f s.dev).config.has .bistableRelais = false)

instance (s : PowerportIO) (f : CanixFrame) : Decidable (WeckerSchaltetAus s f) := by
  unfold WeckerSchaltetAus
  infer_instance

/-- The step does not take a branch that leaves the output on for ever. -/
def BehaeltAutoAus (c : Sleeper PowerportIO) : PortEvent → Prop
  | .frame f =>
      (kante c.state f = some .steigend →
        c.state.dev.config.AblaufAus ∧ c.state.dev.config.has .bistableRelais = false) ∧
      (Weckt c.state f → WeckerSchaltetAus c.state f)
  | .tick =>
      c.state.dev.countDownTimer = 1 →
        if c.state.dev.config.has .weckVerzoegertEin then
          1 < c.state.dev.config.ladewert ∧
            (c.state.dev.config.has .weckAutoAus = true ∨
              c.state.dev.config.has .verzoegertEin = false) ∧
            c.state.dev.config.has .bistableRelais = false
        else c.state.dev.config.AblaufAus
  | .wake => True

instance (c : Sleeper PowerportIO) : DecidablePred (BehaeltAutoAus c)
  | .frame f => inferInstanceAs (Decidable (_ ∧ (Weckt c.state f → WeckerSchaltetAus c.state f)))
  | .tick => inferInstanceAs (Decidable (c.state.dev.countDownTimer = 1 → _))
  | .wake => inferInstanceAs (Decidable True)

/-! ## Short handlers

Without a bistable relay only the answers to a request to all devices come
after a sleep.
-/

/-- The rest of a handler that only sends. -/
def NurAntwort (rest : PowerportIO → Resumption PowerportIO) : Prop :=
  ∀ s, ∃ s', rest s = .done s' ∧ s'.outputs = s.outputs ∧ s'.dev = s.dev

/-- A handler that has done its work, but for an answer. -/
inductive Kurz (s : PowerportIO) : Resumption PowerportIO → Prop
  | done : Kurz s (.done s)
  | sleep (rest : PowerportIO → Resumption PowerportIO) : NurAntwort rest → Kurz s (.sleep s rest)

/-- What holds of the outputs and the data of a port. -/
def Sieht (P : DeviceDataPowerport → Outputs → Prop) (c : Sleeper PowerportIO) : Prop :=
  P c.state.dev c.state.outputs ∧ ∀ rest, c.asleep = some rest → NurAntwort rest

section

variable {P Q : DeviceDataPowerport → Outputs → Prop} {c : Sleeper PowerportIO}

theorem Sieht.wake (hc : Sieht P c) : Sieht P c.wake := by
  obtain ⟨s, asleep⟩ := c
  cases asleep with
  | none => exact hc
  | some rest =>
      obtain ⟨s', hdone, houtputs, hdev⟩ := hc.2 rest rfl s
      show Sieht P (Sleeper.settle (rest s))
      rw [hdone]
      refine ⟨?_, fun rest h => nomatch h⟩
      show P s'.dev s'.outputs
      rw [hdev, houtputs]
      exact hc.1

/-- A short handler is through at once. -/
theorem Sieht.handle {h : PowerportIO → Resumption PowerportIO} {s : PowerportIO}
    (hc : Sieht P c) (hs : Kurz s (h c.state)) (hQ : Q s.dev s.outputs) :
    Sieht Q (c.handle h) := by
  obtain ⟨s₀, asleep⟩ := c
  cases asleep with
  | none =>
      show Sieht Q (Sleeper.settle (h s₀))
      have hs : Kurz s (h s₀) := hs
      generalize h s₀ = r at hs ⊢
      cases hs with
      | done => exact ⟨hQ, fun rest h => nomatch h⟩
      | sleep rest hrest => exact ⟨hQ, fun rest' h => Option.some.inj h ▸ hrest⟩
  | some rest =>
      show Sieht Q ⟨(h s₀).straight, some rest⟩
      refine ⟨?_, hc.2⟩
      have hs : Kurz s (h s₀) := hs
      generalize h s₀ = r at hs ⊢
      cases hs with
      | done => exact hQ
      | sleep rest' hrest =>
          obtain ⟨s', hdone, houtputs, hdev⟩ := hrest s
          show Q (rest' s).straight.dev (rest' s).straight.outputs
          rw [hdone]
          show Q s'.dev s'.outputs
          rw [hdev, houtputs]
          exact hQ

end

/-! ## The invariant -/

/-- AUTO_AUS is set and its timer is not 0. An output that is on has a timer
that runs and will switch it off. -/
structure Sicher (p : DeviceDataPowerport) (o : Outputs) : Prop where
  autoAus : p.config.has .autoAus = true
  ladewert : 0 < p.config.ladewert
  ein : darlingtonoutputGetpin o p.config.port = true →
    0 < p.countDownTimer ∧ p.config.AblaufAus

section

variable (selfaddr : UInt16) {s : PowerportIO}

theorem Sicher.edge (hs : Sicher s.dev s.outputs) {k : Flanke}
    (hk : k = .steigend → s.dev.config.AblaufAus ∧ s.dev.config.has .bistableRelais = false) :
    ∃ s', setPowerportOrTimer selfaddr s k = .done s' ∧ Sicher s'.dev s'.outputs := by
  cases k with
  | steigend =>
      obtain ⟨hablauf, hb⟩ := hk rfl
      refine ⟨(powerportSendStateInfo selfaddr (s.setpin true)).update powerportSetupTimer, ?_, ?_⟩
      · unfold setPowerportOrTimer
        rw [if_pos hs.autoAus, powerportOn_direct selfaddr s hb, Resumption.map_done]
      · exact ⟨hs.autoAus, hs.ladewert, fun _ => ⟨hs.ladewert, hablauf⟩⟩
  | fallend =>
      unfold setPowerportOrTimer
      dsimp only
      split
      · refine ⟨_, rfl, hs.autoAus, hs.ladewert, fun hein => ?_⟩
        exact ⟨hs.ladewert, (hs.ein hein).2⟩
      · refine ⟨_, rfl, hs.autoAus, hs.ladewert, fun hein => ?_⟩
        have haus : ((powerportOff selfaddr s).update timerAus).ein = false := by
          rw [update_ein _ rfl, powerportOff_ein]
        exact absurd (hein.symm.trans haus) Bool.noConfusion

/-- The features that are set stay set. -/
theorem geweckt_has (f : CanixFrame) {g : Feature} (h : s.dev.config.has g = true) :
    (geweckt f s.dev).config.has g = true := by
  simp only [EdsPowerportBlock.has, ne_eq, decide_eq_true_eq] at h ⊢
  show ¬ (s.dev.config.feature ||| UInt8.ofNat (2 ^ (f.byte 3).toNat)) &&& g.mask = 0
  intro hzero
  have hor : s.dev.config.feature &&& g.mask |||
      UInt8.ofNat (2 ^ (f.byte 3).toNat) &&& g.mask = 0 := by
    rw [← hzero]
    exact UInt8.toBitVec_inj.mp BitVec.and_or_distrib_right.symm
  exact h (UInt8.or_eq_zero_iff.mp hor).1

/-- The alarm clock is set, and the output on at once if it is to go off
later. -/
theorem weckerSet_eq {f : CanixFrame} (hw : Weckt s f) :
    weckerSet selfaddr f s =
      if (geweckt f s.dev).config.has .weckAutoAus then powerportOn selfaddr (s.update (geweckt f))
      else .done (s.update (geweckt f)) := by
  unfold weckerSet
  rw [if_pos hw.2.2]
  rfl

theorem Sicher.weck (hs : Sicher s.dev s.outputs) {f : CanixFrame} (hw : Weckt s f)
    (hf : WeckerSchaltetAus s f) :
    ∃ s', weckerSet selfaddr f s = .done s' ∧ Sicher s'.dev s'.outputs := by
  rw [weckerSet_eq selfaddr hw]
  split
  · rename_i hauto
    obtain ⟨hpos, hablauf, hb⟩ := hf (Or.inl hauto)
    rw [powerportOn_direct selfaddr (s.update (geweckt f)) (hb hauto)]
    exact ⟨_, rfl, geweckt_has f hs.autoAus, hs.ladewert, fun _ => ⟨hpos, hablauf⟩⟩
  · refine ⟨_, rfl, geweckt_has f hs.autoAus, hs.ladewert, fun hein => ?_⟩
    have hf := hf (Or.inr hein)
    exact ⟨hf.1, hf.2.1⟩

/-- The mute commands only start a timer. -/
theorem Sicher.mute (hs : Sicher s.dev s.outputs) (f : CanixFrame) :
    Sicher (muteGruppe f s.dev) s.outputs := by
  have hconfig := muteGruppe_config s.dev f
  refine ⟨by rw [hconfig]; exact hs.autoAus, by rw [hconfig]; exact hs.ladewert, ?_⟩
  rw [hconfig]
  intro hein
  obtain ⟨hpos, hablauf⟩ := hs.ein hein
  refine ⟨?_, hablauf⟩
  unfold muteGruppe
  split
  · split
    · exact hpos
    · split
      · dsimp only
        split
        · exact hs.ladewert
        · exact hpos
      · exact hpos
  · exact hpos

theorem Sicher.frame (hs : Sicher s.dev s.outputs) (f : CanixFrame)
    (hk : kante s f = some .steigend →
      s.dev.config.AblaufAus ∧ s.dev.config.has .bistableRelais = false)
    (hw : Weckt s f → WeckerSchaltetAus s f) :
    ∃ s', Kurz s' (powerportCanCallback selfaddr f s) ∧ Sicher s'.dev s'.outputs := by
  have heffect := callback_effect selfaddr s f
  generalize powerportCanCallback selfaddr f s = r at heffect ⊢
  cases heffect with
  | edge k hkante =>
      obtain ⟨s', hdone, hs'⟩ := hs.edge selfaddr (k := k) fun h => hk (h ▸ hkante)
      exact ⟨s', hdone ▸ .done, hs'⟩
  | weck _ hweckt =>
      obtain ⟨s', hdone, hs'⟩ := hs.weck selfaddr hweckt (hw hweckt)
      exact ⟨s', hdone ▸ .done, hs'⟩
  | quiet s' _ _ houtputs hdev =>
      refine ⟨s', .done, ?_⟩
      rw [houtputs, hdev]
      exact hs.mute f
  | answer rest _ _ _ hrest => exact ⟨s, .sleep rest hrest, hs⟩

/-- The timer has run down and switches off. -/
theorem ablauf_aus (ha : s.dev.config.has .autoAus = true) (h : s.dev.config.AblaufAus) :
    ∃ s', timerAbgelaufen selfaddr s = .done s' ∧ s'.outputs = (s.setpin false).outputs ∧
      s'.dev.countDownTimer = s.dev.countDownTimer ∧
      s'.dev.config.port = s.dev.config.port ∧ s'.dev.config.ladewert = s.dev.config.ladewert ∧
      s'.dev.config.has .autoAus = true := by
  unfold timerAbgelaufen
  rw [h.1, if_neg Bool.false_ne_true]
  split
  · refine ⟨_, rfl, rfl, rfl, rfl, rfl, ?_⟩
    show (s.dev.config.clear .weckAutoAus).has .autoAus = true
    rw [has_clear_other _ (by decide), ha]
  · rename_i hweck
    have hein : s.dev.config.has .verzoegertEin = false := h.2.resolve_left hweck
    rw [hein, if_neg Bool.false_ne_true, if_pos (Or.inl ha)]
    exact ⟨_, rfl, rfl, rfl, rfl, rfl, ha⟩

/-- The alarm clock switches on, and the timer it loads switches off. -/
theorem Sicher.geweckt (hs : Sicher s.dev s.outputs)
    (hweck : s.dev.config.has .weckVerzoegertEin = true)
    (hlade : 1 < s.dev.config.ladewert)
    (hbits : s.dev.config.has .weckAutoAus = true ∨ s.dev.config.has .verzoegertEin = false)
    (hb : s.dev.config.has .bistableRelais = false) :
    ∃ s', timerAbgelaufen selfaddr s = .done s' ∧
      Sicher (timerZaehlt s'.dev) s'.outputs := by
  obtain ⟨s', hdone, hconfig, htimer⟩ := ablauf_weckt selfaddr hweck hb
  refine ⟨s', hdone, ?_, ?_, fun _ => ⟨?_, ?_⟩⟩
  · show s'.dev.config.has .autoAus = true
    rw [hconfig, has_clear_other _ (by decide), hs.autoAus]
  · show 0 < s'.dev.config.ladewert
    rw [hconfig, clear_ladewert]
    exact hs.ladewert
  · show 0 < s'.dev.countDownTimer - 1
    rw [htimer]
    apply UInt16.pos_iff_ne_zero.mpr
    apply sub_one_ne_zero (UInt16.pos_iff_ne_zero.mp hs.ladewert)
    intro hone
    rw [hone] at hlade
    exact absurd hlade (by decide)
  · show s'.dev.config.AblaufAus
    rw [hconfig]
    refine ⟨has_clear_self _, ?_⟩
    rw [has_clear_other _ (by decide), has_clear_other _ (by decide)]
    exact hbits

/-- The timer has run down and switches off: what follows is safe. -/
theorem Sicher.abgelaufen (hs : Sicher s.dev s.outputs) (h : s.dev.config.AblaufAus) :
    ∃ s', timerAbgelaufen selfaddr s = .done s' ∧
      Sicher (timerZaehlt s'.dev) s'.outputs := by
  obtain ⟨s', hdone, houtputs, -, hport, hlade, hauto⟩ := ablauf_aus selfaddr hs.autoAus h
  refine ⟨s', hdone, hauto, ?_, fun hein => ?_⟩
  · show 0 < s'.dev.config.ladewert
    rw [hlade]
    exact hs.ladewert
  · have hein : darlingtonoutputGetpin s'.outputs s'.dev.config.port = true := hein
    rw [houtputs, hport] at hein
    exact absurd (hein.symm.trans (setpin_ein s false)) Bool.noConfusion

theorem Sicher.tick (hs : Sicher s.dev s.outputs)
    (hablauf : s.dev.countDownTimer = 1 →
      if s.dev.config.has .weckVerzoegertEin then
        1 < s.dev.config.ladewert ∧
          (s.dev.config.has .weckAutoAus = true ∨ s.dev.config.has .verzoegertEin = false) ∧
          s.dev.config.has .bistableRelais = false
      else s.dev.config.AblaufAus) :
    ∃ s', powerportTimerHandler selfaddr s 1 = .done s' ∧ Sicher s'.dev s'.outputs := by
  by_cases h0 : s.dev.countDownTimer = 0
  · exact ⟨s, tick_aus selfaddr h0, hs⟩
  · by_cases h1 : s.dev.countDownTimer = 1
    · have hende : ∃ s', timerAbgelaufen selfaddr s = .done s' ∧
          Sicher (timerZaehlt s'.dev) s'.outputs := by
        have hablauf := hablauf h1
        split at hablauf
        · rename_i hweck
          exact hs.geweckt selfaddr hweck hablauf.1 hablauf.2.1 hablauf.2.2
        · exact hs.abgelaufen selfaddr hablauf
      obtain ⟨s', hdone, hs'⟩ := hende
      rw [tick_ablauf selfaddr h1, hdone]
      exact ⟨s'.update timerZaehlt, rfl, hs'⟩
    · refine ⟨_, tick_laeuft selfaddr h0 h1, hs.autoAus, hs.ladewert, fun hein => ?_⟩
      refine ⟨?_, (hs.ein hein).2⟩
      show 0 < s.dev.countDownTimer - 1
      exact UInt16.pos_iff_ne_zero.mpr (sub_one_ne_zero h0 h1)

end

/-! ## Seconds without frames -/

/-- The output is off for good, or the timer will switch it off within `n`
seconds. -/
structure Restlauf (n : Nat) (p : DeviceDataPowerport) (o : Outputs) : Prop where
  autoAus : p.config.has .autoAus = true
  ein : darlingtonoutputGetpin o p.config.port = true →
    p.countDownTimer ≠ 0 ∧ p.countDownTimer.toNat ≤ n ∧ p.config.AblaufAus
  aus : darlingtonoutputGetpin o p.config.port = false → p.countDownTimer = 0

section

variable (selfaddr : UInt16)

theorem Restlauf.tick {n : Nat} {s : PowerportIO} (hs : Restlauf (n + 1) s.dev s.outputs) :
    ∃ s', powerportTimerHandler selfaddr s 1 = .done s' ∧ Restlauf n s'.dev s'.outputs := by
  cases hein : s.ein with
  | false =>
      refine ⟨s, tick_aus selfaddr (hs.aus hein), hs.autoAus, fun h => ?_, hs.aus⟩
      exact absurd (h.symm.trans hein) Bool.noConfusion
  | true =>
      obtain ⟨h0, hn, hablauf⟩ := hs.ein hein
      by_cases h1 : s.dev.countDownTimer = 1
      · obtain ⟨s', hdone, houtputs, htimer, hport, -, hauto⟩ :=
          ablauf_aus selfaddr hs.autoAus hablauf
        have haus : darlingtonoutputGetpin s'.outputs s'.dev.config.port = false := by
          rw [houtputs, hport]
          exact setpin_ein s false
        refine ⟨s'.update timerZaehlt, by rw [tick_ablauf selfaddr h1, hdone]; rfl, hauto, ?_, ?_⟩
        · intro hein
          exact absurd (hein.symm.trans haus) Bool.noConfusion
        · intro _
          show s'.dev.countDownTimer - 1 = 0
          rw [htimer, h1]
          rfl
      · refine ⟨_, tick_laeuft selfaddr h0 h1, hs.autoAus, fun _ => ⟨?_, ?_, hablauf⟩, ?_⟩
        · exact sub_one_ne_zero h0 h1
        · show (s.dev.countDownTimer - 1).toNat ≤ n
          rw [toNat_sub_one h0]
          exact Nat.sub_le_of_le_add hn
        · intro haus
          exact absurd (hein.symm.trans haus) Bool.noConfusion

/-- **Without frames** the output is off after `n` ticks. -/
theorem run_restlauf :
    ∀ (es : List PortEvent) (n : Nat) (c : Sleeper PowerportIO), Sieht (Restlauf n) c →
      (∀ f, PortEvent.frame f ∉ es) → n ≤ es.count .tick →
        (run (portStep selfaddr) c es).state.ein = false := by
  intro es
  induction es with
  | nil =>
      intro n c hc _ hn
      cases hein : c.state.ein with
      | false => exact hein
      | true =>
          obtain ⟨hne, hle, -⟩ := hc.1.ein hein
          have hzero : c.state.dev.countDownTimer.toNat = 0 := by
            have hcount : List.count PortEvent.tick [] = 0 := rfl
            omega
          exact absurd (UInt16.toNat_inj.mp hzero) hne
  | cons e es ih =>
      intro n c hc hframe hn
      have htail : ∀ f, PortEvent.frame f ∉ es := fun f h => hframe f (List.mem_cons_of_mem e h)
      cases e with
      | frame f => exact absurd List.mem_cons_self (hframe f)
      | tick =>
          rw [List.count_cons_self] at hn
          have hc' : Sieht (Restlauf (n - 1 + 1)) c := by
            refine ⟨⟨hc.1.autoAus, fun hein => ?_, hc.1.aus⟩, hc.2⟩
            obtain ⟨hne, hle, hablauf⟩ := hc.1.ein hein
            exact ⟨hne, by omega, hablauf⟩
          obtain ⟨s', hdone, hs'⟩ := hc'.1.tick selfaddr
          have hkurz : Kurz s' (powerportTimerHandler selfaddr c.state 1) := hdone ▸ .done
          exact ih (n - 1) _ (hc'.handle hkurz hs') htail (by omega)
      | wake =>
          rw [List.count_cons_of_ne (by decide)] at hn
          exact ih n _ hc.wake htail hn

/-- The invariant gives the property. -/
theorem Sieht.schaltetAus {c : Sleeper PowerportIO} (hc : Sieht Sicher c) :
    SchaltetAus selfaddr c := by
  intro hein
  obtain ⟨hpos, hablauf⟩ := hc.1.ein hein
  refine ⟨hpos, fun es hframe hcount => run_restlauf selfaddr es _ c ⟨?_, hc.2⟩ hframe hcount⟩
  refine ⟨hc.1.autoAus, fun _ => ⟨UInt16.pos_iff_ne_zero.mp hpos, Nat.le_refl _, hablauf⟩, ?_⟩
  intro haus
  exact absurd (hein.symm.trans haus) Bool.noConfusion

/-! ## All runs -/

/-- A step that takes none of the bad branches keeps the invariant. -/
theorem Sieht.portStep {c : Sleeper PowerportIO} (e : PortEvent) (hg : BehaeltAutoAus c e)
    (hc : Sieht Sicher c) : Sieht Sicher (portStep selfaddr c e) := by
  cases e with
  | frame f =>
      obtain ⟨s', hkurz, hs'⟩ := hc.1.frame selfaddr f hg.1 hg.2
      exact hc.handle hkurz hs'
  | tick =>
      obtain ⟨s', hdone, hs'⟩ := hc.1.tick selfaddr hg
      have hkurz : Kurz s' (powerportTimerHandler selfaddr c.state 1) := hdone ▸ .done
      exact hc.handle hkurz hs'
  | wake => exact hc.wake

/-- **AUTO_AUS**: as long as no step takes a branch that leaves the output on,
an output that is on has a timer that runs, and it is off when the timer has run
down. -/
theorem autoAus_schaltet_aus (p : DeviceDataPowerport) (es : List PortEvent)
    (hauto : p.config.has .autoAus = true) (hlade : 0 < p.config.ladewert)
    (hg : Guarded (portStep selfaddr) BehaeltAutoAus (portStart p) es) :
    SchaltetAus selfaddr (run (portStep selfaddr) (portStart p) es) := by
  apply Sieht.schaltetAus
  apply run_guarded (fun c e hg hc => hc.portStep selfaddr e hg) es (portStart p) hg
  refine ⟨⟨hauto, hlade, fun hein => ?_⟩, fun rest h => nomatch h⟩
  exact absurd hein Bool.false_ne_true

end

/-! ## One port that stays on -/

/-- A port in group 1, with a timer of two seconds. -/
private def zweiSekunden (feature : UInt8) : DeviceDataPowerport where
  config := ⟨3, feature, 1, 255, 255, 0x82, 255⟩
  mute := false
  countDownTimer := 0
  bistableRelaisState := false

/-- The group 1 is switched on. -/
private def gruppeEin : CanixFrame where
  src := 900
  dst := hcanMulticastInfo
  proto := hcanProtoSfp
  size := 3
  data := payload [hcanSrvHes, hcanHesPowerGroupOn, 1]

theorem autoAus_schaltet_aus_ein :
    SchaltetAus 5 (run (portStep 5) (portStart (zweiSekunden 4)) [.frame gruppeEin, .tick]) ∧
      (run (portStep 5) (portStart (zweiSekunden 4)) [.frame gruppeEin, .tick]).state.ein = true :=
  ⟨autoAus_schaltet_aus 5 (zweiSekunden 4) [.frame gruppeEin, .tick] (by decide) (by decide)
    ⟨⟨by decide, by decide⟩, by decide, trivial⟩, by decide⟩

/-- With VERZOEGERT_EIN beside AUTO_AUS the output is on and no timer runs. -/
theorem autoAus_bleibt_ein :
    ¬ ∀ (selfaddr : UInt16) (p : DeviceDataPowerport) (es : List PortEvent),
      p.config.has .bistableRelais = false → p.config.has .autoAus = true →
        0 < p.config.ladewert →
          SchaltetAus selfaddr (run (portStep selfaddr) (portStart p) es) := by
  intro h
  have hport := h 5 (zweiSekunden 6) [.frame gruppeEin, .tick, .tick] (by decide) (by decide)
    (by decide)
  exact absurd (hport (by decide)).1 (by decide)

end OpenHcan.Powerport
