import OpenHcan.Devices.HeizungRuns

/-!
# HeizungPflege — the valve is exercised

The care of the valve writes the output at the end of a cycle, the pulse width
modulation writes it every second, and the report is left out only at the end
of a cycle. Whether a cycle has ended since the care is on is no data of the
heating; a run is followed by it.
-/

namespace OpenHcan.Heizung

open Lib

set_option maxRecDepth 100000

/-! ## The property -/

/-- A heating, and whether a cycle has ended in the care that is on. -/
structure Beobachtet where
  io : HeizungIO
  begonnen : Bool

/-- One step, observed: the care goes on until its counter is 0. -/
def beobachte (selfaddr : UInt16) (x : Beobachtet) (e : HeizEvent) : Beobachtet where
  io := heizStep selfaddr x.io e
  begonnen := (heizStep selfaddr x.io e).dev.ventilpflegeCounter ≠ 0 ∧
    (x.begonnen = true ∨ e.isTick = true ∧ x.io.dev.timerCounter ≥ 5)

/-- The care that has begun keeps the valve open after every tick, and no heat demand is
sent. -/
def PflegeGilt (selfaddr : UInt16) (x : Beobachtet) (e : HeizEvent) : Prop :=
  (beobachte selfaddr x e).begonnen = true →
    (e.isTick = true → (heizStep selfaddr x.io e).ventil = true) ∧
      ∀ f ∈ gesendet x.io (heizStep selfaddr x.io e), istWaermebedarf f = false

/-- The heating is off, and its valve is not exercised. -/
def Aus (s : HeizungIO) : Prop := s.dev.mode = .off ∧ s.dev.ventilpflegeCounter = 0

/-- A heating that is off without care, and stays so for six ticks, is closed. -/
def SchliesstDanach (selfaddr : UInt16) (s : HeizungIO) : Prop :=
  ∀ es, (∀ pre, pre <+: es → Aus (run (heizStep selfaddr) s pre)) →
    6 ≤ es.countP HeizEvent.isTick → (run (heizStep selfaddr) s es).ventil = false

/-! ## The condition -/

/-- The ticks inside a cycle do not work against the care: the pulse is on, and no
report is due. -/
def Ungestoert (x : Beobachtet) : HeizEvent → Prop
  | .frame _ _ => True
  | .tick u => x.begonnen = true → pflegeNach u x.io.dev ≠ 0 → ¬ x.io.dev.timerCounter ≥ 5 →
      pwmNext x.io.dev < x.io.dev.pwmWidth ∧ meldet (sekunde u x.io.dev) = false

section

variable (selfaddr : UInt16) {s : HeizungIO}

/-! ## The care -/

theorem beobachte_tick (x : Beobachtet) (u : Umgebung) :
    (beobachte selfaddr x (.tick u)).begonnen = true ↔
      pflegeNach u x.io.dev ≠ 0 ∧ (x.begonnen = true ∨ x.io.dev.timerCounter ≥ 5) := by
  unfold beobachte
  rw [(tick_sekunde selfaddr u x.io).pflege, decide_eq_true_iff]
  simp [HeizEvent.isTick]

/-- At the end of a cycle the care has its way. -/
theorem pflegeGilt_zyklus {x : Beobachtet} {u : Umgebung} (htimer : x.io.dev.timerCounter ≥ 5)
    (hpflege : pflegeNach u x.io.dev ≠ 0) : PflegeGilt selfaddr x (.tick u) := by
  intro _
  constructor
  · intro _
    rw [tick_ventil, if_pos ⟨htimer, hpflege⟩]
  · intro f hf
    apply Bool.eq_false_iff.mpr
    intro hbedarf
    exact (tick_bericht selfaddr u x.io hf hbedarf).2.1 ⟨htimer, hpflege⟩

/-- Inside a cycle the pulse width modulation and the report have theirs. -/
theorem pflegeGilt_zaehlt {x : Beobachtet} {u : Umgebung} (htimer : ¬ x.io.dev.timerCounter ≥ 5) :
    PflegeGilt selfaddr x (.tick u) ↔
      (x.begonnen = true → pflegeNach u x.io.dev ≠ 0 →
        pwmNext x.io.dev < x.io.dev.pwmWidth ∧ meldet (sekunde u x.io.dev) = false) := by
  have hventil : (heizStep selfaddr x.io (.tick u)).ventil =
      decide (pwmNext x.io.dev < x.io.dev.pwmWidth) := by
    rw [tick_ventil, if_neg (fun h => htimer h.1), if_neg (fun h => htimer h.1)]
  have hsent : (∀ f ∈ gesendet x.io (heizStep selfaddr x.io (.tick u)), istWaermebedarf f = false) ↔
      meldet (sekunde u x.io.dev) = false := by
    constructor
    · intro h
      apply Bool.eq_false_iff.mpr
      intro hmeldet
      obtain ⟨f, hf, hbedarf⟩ := tick_meldet selfaddr u x.io htimer hmeldet
      exact absurd hbedarf (by rw [h f hf]; decide)
    · intro h f hf
      apply Bool.eq_false_iff.mpr
      intro hbedarf
      have hmeldet := (tick_bericht selfaddr u x.io hf hbedarf).2.2 htimer
      exact absurd hmeldet (by rw [h]; decide)
  unfold PflegeGilt
  rw [beobachte_tick, hventil, hsent, decide_eq_true_iff]
  constructor
  · intro h hbegonnen hpflege
    obtain ⟨hauf, hkein⟩ := h ⟨hpflege, Or.inl hbegonnen⟩
    exact ⟨hauf rfl, hkein⟩
  · rintro h ⟨hpflege, hbegonnen⟩
    obtain ⟨hauf, hkein⟩ := h (hbegonnen.resolve_right htimer) hpflege
    exact ⟨fun _ => hauf, hkein⟩

/-- **The care in one step** has its way exactly if nothing works against it. -/
theorem pflegeGilt_iff (x : Beobachtet) (e : HeizEvent) :
    PflegeGilt selfaddr x e ↔ Ungestoert x e := by
  cases e with
  | frame u f =>
      apply iff_of_true _ trivial
      intro _
      exact ⟨fun h => (nomatch h), fun g hg => (frame_sent selfaddr u x.io f).gesendet hg⟩
  | tick u =>
      show _ ↔ (x.begonnen = true → pflegeNach u x.io.dev ≠ 0 → ¬ x.io.dev.timerCounter ≥ 5 → _)
      by_cases htimer : x.io.dev.timerCounter ≥ 5
      · apply iff_of_true
        · by_cases hpflege : pflegeNach u x.io.dev = 0
          · intro h
            exact absurd hpflege ((beobachte_tick selfaddr x u).mp h).1
          · exact pflegeGilt_zyklus selfaddr htimer hpflege
        · intro _ _ h
          exact absurd htimer h
      · rw [pflegeGilt_zaehlt selfaddr htimer]
        constructor
        · intro h hbegonnen hpflege _
          exact h hbegonnen hpflege
        · intro h hbegonnen hpflege
          exact h hbegonnen hpflege htimer

/-! ## After the care -/

/-- A tick inside a cycle: the second, with both counters. -/
theorem tick_zaehlt_dev (u : Umgebung) (htimer : ¬ s.dev.timerCounter ≥ 5) :
    ∃ n, (heizStep selfaddr s (.tick u)).dev =
      bedarfGezaehlt (timerCounterTo (s.dev.timerCounter + 1) (sekunde u s.dev)) n := by
  obtain ⟨⟨n, hdev⟩, -, -⟩ := waermebedarfMelden_spec selfaddr
    ((jedeSekunde selfaddr u s).update (timerCounterTo (s.dev.timerCounter + 1)))
  rw [tick_zaehlt selfaddr u htimer, hdev, update_dev, jedeSekunde_dev]
  exact ⟨n, rfl⟩

/-- The end of a cycle of a heating that is off leaves no pulse. -/
theorem tick_zyklus_aus {u : Umgebung} (htimer : s.dev.timerCounter ≥ 5)
    (hpflege : pflegeNach u s.dev = 0) (hoff : (sekunde u s.dev).mode = .off) :
    (heizStep selfaddr s (.tick u)).dev.pwmWidth = 0 := by
  obtain ⟨-, ⟨rate, width, pend, bedarf, soll, hmode, -, hzero, -⟩, -⟩ :=
    modeZyklus_spec selfaddr u ((jedeSekunde selfaddr u s).update (timerCounterTo 0))
  obtain ⟨⟨n, hdev⟩, -, -⟩ := waermebedarfMelden_spec selfaddr
    (modeZyklus selfaddr u ((jedeSekunde selfaddr u s).update (timerCounterTo 0)))
  rw [update_dev, jedeSekunde_dev] at hzero
  rw [tick_zyklus selfaddr u htimer hpflege, hdev, hmode]
  exact hzero hoff

/-- The valve is closed, and there is no pulse to open it. -/
def Zu (s : HeizungIO) : Prop := s.dev.pwmWidth = 0 ∧ s.ventil = false

/-- What a tick of a heating that is off does: the end of a cycle closes it, and a closed
one stays closed. -/
theorem tick_aus {u : Umgebung} (hoff : Aus (heizStep selfaddr s (.tick u))) :
    Zu s ∨ s.dev.timerCounter ≥ 5 → Zu (heizStep selfaddr s (.tick u)) := by
  have htick := tick_sekunde selfaddr u s
  have hmode := htick.mode.symm.trans hoff.1
  have hpflege := htick.pflege.symm.trans hoff.2
  intro h
  by_cases htimer : s.dev.timerCounter ≥ 5
  · refine ⟨tick_zyklus_aus selfaddr htimer hpflege hmode, ?_⟩
    rw [tick_ventil, if_neg (fun h => h.2 hpflege), if_pos ⟨htimer, hmode⟩]
  · -- inside a cycle only the heat stop touches the width
    obtain ⟨hwidth, -⟩ := h.resolve_right htimer
    obtain ⟨n, hdev⟩ := tick_zaehlt_dev selfaddr u htimer
    constructor
    · rw [hdev]
      show (if s.dev.reedHeizStopCounter = 0 then s.dev.pwmWidth else 0) = 0
      rw [hwidth]
      exact ite_self 0
    · rw [tick_ventil, if_neg (fun h => htimer h.1), if_neg (fun h => htimer h.1), hwidth]
      exact decide_eq_false (UInt16.not_lt_zero)

/-- The valve of a heating that is off is closed when a cycle has ended. -/
theorem run_aus (es : List HeizEvent) :
    ∀ s : HeizungIO, (∀ pre, pre <+: es → Aus (run (heizStep selfaddr) s pre)) →
      (Zu s ∨ 6 ≤ min s.dev.timerCounter.toNat 5 + es.countP HeizEvent.isTick) →
        Zu (run (heizStep selfaddr) s es) := by
  induction es with
  | nil =>
      intro s _ h
      rcases h with h | h
      · exact h
      · rw [List.countP_nil] at h
        omega
  | cons e es ih =>
      intro s hoff h
      rw [run_cons]
      have hnext : Aus (heizStep selfaddr s e) := hoff [e] (List.prefix_append [e] es)
      apply ih (heizStep selfaddr s e)
      · intro pre hpre
        exact hoff (e :: pre) (List.cons_prefix_cons.mpr ⟨rfl, hpre⟩)
      · cases e with
        | frame u f =>
            -- neither the valve nor the cycle
            have hframe := frame_laesst selfaddr u s f
            rw [List.countP_cons_of_neg (by exact Bool.false_ne_true)] at h
            rw [hframe.timerCounter]
            unfold Zu at h ⊢
            rw [hframe.pwmWidth, hframe.ventil]
            exact h
        | tick u =>
            rw [List.countP_cons_of_pos rfl] at h
            by_cases htimer : s.dev.timerCounter ≥ 5
            · exact Or.inl (tick_aus selfaddr hnext (Or.inr htimer))
            · rcases h with h | h
              · exact Or.inl (tick_aus selfaddr hnext (Or.inl h))
              · -- the cycle is one second further
                apply Or.inr
                obtain ⟨n, hdev⟩ := tick_zaehlt_dev selfaddr u htimer
                have hlt : s.dev.timerCounter.toNat < 5 := Nat.lt_of_not_le htimer
                have hcounter : (heizStep selfaddr s (.tick u)).dev.timerCounter.toNat =
                    s.dev.timerCounter.toNat + 1 := by
                  rw [hdev]
                  show (s.dev.timerCounter + 1).toNat = _
                  rw [UInt8.toNat_add]
                  exact Nat.mod_eq_of_lt (by rw [UInt8.toNat_one]; omega)
                rw [hcounter]
                omega

/-- **A heating that is off** closes its valve within six ticks after the care. -/
theorem schliesstDanach (s : HeizungIO) : SchliesstDanach selfaddr s := by
  intro es hoff hticks
  exact (run_aus selfaddr es s hoff (Or.inr (by omega))).2

/-- **The care of the valve** has its way in a run exactly if nothing works against it. -/
theorem pflege_iff (it : UInt16) (p : DeviceDataHeizung) (es : List HeizEvent) :
    Guarded (beobachte selfaddr) (PflegeGilt selfaddr) ⟨heizStart it p, false⟩ es ∧
        SchliesstDanach selfaddr (run (heizStep selfaddr) (heizStart it p) es) ↔
      Guarded (beobachte selfaddr) Ungestoert ⟨heizStart it p, false⟩ es := by
  rw [guarded_congr (pflegeGilt_iff selfaddr)]
  exact and_iff_left (schliesstDanach selfaddr _)

end

/-! ## A heating that is off -/

/-- Six minutes past eleven on a sunday, when the valve of the heating 2 is exercised. -/
private def sonntagElfUhrSechs : Umgebung := ⟨11, 6, 7, fun _ => false, fun _ => 0⟩

/-- The heating 2 at the end of a cycle, with an output 6 and a period of 20 seconds. -/
private def diele : DeviceDataHeizung where
  config := ⟨2, 6, 20, 9, Vector.replicate 8 ⟨255, 0⟩, 0, 4, Vector.replicate 8 255⟩
  it := 0
  mode := .automatik
  manualRate := 0
  timerCounter := 5
  pwmCounter := 0
  pwmWidth := 0
  pwmEnd := 0
  waermebedarfCounter := 0
  receivedIntervalCounter := 0
  measureValue := 0
  durationCounter := 0
  thermostatTemp := 0
  lastSollTemp := 0
  reedHeizStopCounter := 0
  ventilpflegeCounter := 0

/-- The second tick of the care closes the valve again. -/
theorem pflege_nicht :
    ¬ ∀ (selfaddr : UInt16) (it : UInt16) (p : DeviceDataHeizung) (es : List HeizEvent),
      Guarded (beobachte selfaddr) (PflegeGilt selfaddr) ⟨heizStart it p, false⟩ es ∧
        SchliesstDanach selfaddr (run (heizStep selfaddr) (heizStart it p) es) := by
  intro h
  obtain ⟨⟨-, -, hzweite, -⟩, -⟩ := h 5 0 diele
    [.frame sonntagElfUhrSechs (hesFrame 900 hcanMulticastInfo [hcanHesHeizungSetModeOff, 2]),
      .tick sonntagElfUhrSechs, .tick sonntagElfUhrSechs]
  obtain ⟨hauf, -⟩ := hzweite (by decide)
  exact absurd (hauf rfl) (by decide)

end OpenHcan.Heizung
