import OpenHcan.Devices.HeizungRuns

/-!
# HeizungMode — how long a mode lasts

One counter holds the duration of every mode. The frames that set a mode with
a duration set it; the frame that switches the heating off does not.
-/

namespace OpenHcan.Heizung

open Lib

set_option maxRecDepth 100000

/-! ## The property -/

/-- `HEIZUNG_SET_MODE_OFF` for the heating `id`. -/
def SetOff (id : UInt8) (f : CanixFrame) : Prop :=
  f.byte 1 = hcanHesHeizungSetModeOff ∧ f.byte 2 = id

/-- The frames that set another mode of the heating `id`. -/
def SetMode (id : UInt8) (f : CanixFrame) : Prop :=
  (f.byte 1 = hcanHesHeizungSetModeManual ∨
    f.byte 1 = hcanHesHeizungSetModeThermostatDetails ∨
    f.byte 1 = hcanHesHeizungSetModeAutomatik) ∧ f.byte 2 = id

/-- The frame sets a mode with the duration 0. -/
def OhneDauer (f : CanixFrame) : Prop :=
  f.byte 1 = hcanHesHeizungSetModeManual ∧ word (f.byte 4) (f.byte 5) = 0 ∨
    f.byte 1 = hcanHesHeizungSetModeThermostatDetails ∧ word (f.byte 5) (f.byte 6) = 0

/-- The heating stays off until a frame sets another mode. -/
def BleibtAus (selfaddr : UInt16) (s : HeizungIO) : Prop :=
  ∀ es : List HeizEvent, (∀ u f, HeizEvent.frame u f ∈ es → ¬ SetMode s.dev.config.id f) →
    (run (heizStep selfaddr) s es).dev.mode = .off

/-- The mode stays until a frame sets another one. -/
def BleibtImMode (selfaddr : UInt16) (s : HeizungIO) : Prop :=
  ∀ es : List HeizEvent,
    (∀ u f, HeizEvent.frame u f ∈ es →
      ¬ SetMode s.dev.config.id f ∧ ¬ SetOff s.dev.config.id f) →
    (run (heizStep selfaddr) s es).dev.mode = s.dev.mode

/-- A frame that switches the heating off, and one that sets a mode without a
duration, last. -/
def ModeHaelt (selfaddr : UInt16) (s : HeizungIO) (u : Umgebung) (f : CanixFrame) : Prop :=
  (SetOff s.dev.config.id f → BleibtAus selfaddr (heizStep selfaddr s (.frame u f))) ∧
    (SetMode s.dev.config.id f ∧ OhneDauer f →
      BleibtImMode selfaddr (heizStep selfaddr s (.frame u f)))

/-! ## The frames that set a mode -/

section

variable (selfaddr : UInt16) {s : HeizungIO} {id : UInt8} {f : CanixFrame}

theorem setztMode_iff : setztMode f = true ∧ id = f.byte 2 ↔ SetOff id f ∨ SetMode id f := by
  unfold setztMode SetOff SetMode
  simp only [List.any_cons, List.any_nil, Bool.or_false, Bool.or_eq_true, beq_iff_eq]
  constructor
  · rintro ⟨h | h | h | h, rfl⟩
    · exact Or.inl ⟨h.symm, rfl⟩
    · exact Or.inr ⟨Or.inl h.symm, rfl⟩
    · exact Or.inr ⟨Or.inr (Or.inl h.symm), rfl⟩
    · exact Or.inr ⟨Or.inr (Or.inr h.symm), rfl⟩
  · rintro (⟨h, rfl⟩ | ⟨h | h | h, rfl⟩)
    · exact ⟨Or.inl h.symm, rfl⟩
    · exact ⟨Or.inr (Or.inl h.symm), rfl⟩
    · exact ⟨Or.inr (Or.inr (Or.inl h.symm)), rfl⟩
    · exact ⟨Or.inr (Or.inr (Or.inr h.symm)), rfl⟩

theorem step_config_id (e : HeizEvent) :
    (heizStep selfaddr s e).dev.config.id = s.dev.config.id := by
  cases e with
  | frame u f => exact (frame_laesst selfaddr u s f).config.id
  | tick u => exact congrArg EdsHeizungBlock.id (tick_sekunde selfaddr u s).config

theorem run_config_id (es : List HeizEvent) (s : HeizungIO) :
    (run (heizStep selfaddr) s es).dev.config.id = s.dev.config.id := by
  induction es generalizing s with
  | nil => rfl
  | cons e es ih => exact (ih (heizStep selfaddr s e)).trans (step_config_id selfaddr e)

/-- Switching off leaves the duration of the mode before. -/
theorem setOff_dev (u : Umgebung) (hf : SetOff s.dev.config.id f) :
    (heizStep selfaddr s (.frame u f)).dev.mode = .off ∧
      (heizStep selfaddr s (.frame u f)).dev.durationCounter = s.dev.durationCounter := by
  obtain ⟨hset, hid⟩ := setztMode_iff.mpr (Or.inl hf)
  rw [frame_setMode selfaddr u s hset hid]
  unfold setMode
  dsimp only
  rw [if_pos hf.1]
  exact ⟨rfl, rfl⟩

/-- A mode without a duration. -/
theorem setMode_ohneDauer (u : Umgebung) (hf : SetMode s.dev.config.id f) (hdauer : OhneDauer f) :
    (heizStep selfaddr s (.frame u f)).dev.durationCounter = 0 := by
  obtain ⟨hset, hid⟩ := setztMode_iff.mpr (Or.inr hf)
  rw [frame_setMode selfaddr u s hset hid]
  unfold setMode
  dsimp only
  rcases hdauer with ⟨hcmd, hzero⟩ | ⟨hcmd, hzero⟩
  · rw [hcmd, if_neg (by decide), if_pos rfl, hzero]
    rfl
  · rw [hcmd, if_neg (by decide), if_neg (by decide), if_pos rfl, hzero]
    rfl

/-! ## A mode without a duration lasts -/

/-- A step that sets no mode. -/
theorem step_mode_bleibt (h : s.dev.durationCounter = 0) {e : HeizEvent}
    (he : ∀ u f, e = .frame u f → ¬ SetMode s.dev.config.id f ∧ ¬ SetOff s.dev.config.id f) :
    (heizStep selfaddr s e).dev.mode = s.dev.mode ∧
      (heizStep selfaddr s e).dev.durationCounter = 0 := by
  cases e with
  | frame u f =>
      obtain ⟨hmode, hoff⟩ := he u f rfl
      have hframe := frame_mode selfaddr u s (f := f) fun hset hid =>
        (setztMode_iff.mp ⟨hset, hid⟩).elim hoff hmode
      exact ⟨hframe.1, hframe.2.1.trans h⟩
  | tick u =>
      have htick := tick_sekunde selfaddr u s
      rw [htick.mode, htick.duration]
      unfold sekunde
      dsimp only
      rw [h]
      exact ⟨if_neg (by decide), if_pos rfl⟩

/-- **A mode without a duration** lasts until a frame sets another one. -/
theorem bleibtImMode_of_dauer (h : s.dev.durationCounter = 0) : BleibtImMode selfaddr s := by
  intro es hes
  induction es generalizing s with
  | nil => rfl
  | cons e es ih =>
      obtain ⟨hmode, hduration⟩ := step_mode_bleibt selfaddr h fun u f he =>
        hes u f (he ▸ List.mem_cons_self)
      rw [run_cons, ← hmode]
      apply ih hduration
      intro u f hf
      rw [step_config_id]
      exact hes u f (List.mem_cons_of_mem e hf)

/-- A heating that is off without a duration stays off, even if it is switched off
again. -/
theorem bleibtAus_of_dauer (hoff : s.dev.mode = .off) (h : s.dev.durationCounter = 0) :
    BleibtAus selfaddr s := by
  intro es hes
  induction es generalizing s with
  | nil => exact hoff
  | cons e es ih =>
      have hnext : (heizStep selfaddr s e).dev.mode = .off ∧
          (heizStep selfaddr s e).dev.durationCounter = 0 := by
        -- switched off once more, or nothing that sets a mode
        by_cases hset : ∃ u f, e = .frame u f ∧ SetOff s.dev.config.id f
        · obtain ⟨u, f, rfl, hf⟩ := hset
          have hdev := setOff_dev selfaddr u hf
          exact ⟨hdev.1, hdev.2.trans h⟩
        · have hstep := step_mode_bleibt selfaddr h fun u f he =>
            ⟨hes u f (he ▸ List.mem_cons_self), fun hf => hset ⟨u, f, he, hf⟩⟩
          exact ⟨hstep.1.trans hoff, hstep.2⟩
      apply ih hnext.1 hnext.2
      intro u f hf
      rw [step_config_id]
      exact hes u f (List.mem_cons_of_mem e hf)

/-! ## A duration that is left -/

/-- A duration that runs down ends in the automatic mode, whatever the mode was. -/
theorem run_ticks_automatik (u : Umgebung) (n : Nat) :
    ∀ s : HeizungIO, s.dev.durationCounter.toNat = n + 1 →
      (run (heizStep selfaddr) s (List.replicate (n + 1) (.tick u))).dev.mode = .automatik := by
  induction n with
  | zero =>
      intro s hs
      have hone : s.dev.durationCounter = 1 := UInt16.toNat_inj.mp hs
      rw [List.replicate_succ, List.replicate_zero, run_cons, run_nil,
        (tick_sekunde selfaddr u s).mode]
      exact if_pos hone
  | succ n ih =>
      intro s hs
      have hne : s.dev.durationCounter ≠ 0 := by
        intro h
        rw [h] at hs
        exact nomatch hs
      rw [List.replicate_succ, run_cons]
      apply ih
      have hduration : (heizStep selfaddr s (.tick u)).dev.durationCounter =
          s.dev.durationCounter - 1 := by
        rw [(tick_sekunde selfaddr u s).duration]
        exact if_neg hne
      rw [hduration, toNat_sub_one hne, hs]
      rfl

/-- **A heating that is switched off** stays off exactly if no duration is left, and a
mode without a duration lasts, in every state a heating can reach. -/
theorem modeHaelt_iff (it : UInt16) (p : DeviceDataHeizung) (es : List HeizEvent) (u : Umgebung)
    (f : CanixFrame) :
    ModeHaelt selfaddr (run (heizStep selfaddr) (heizStart it p) es) u f ↔
      (SetOff p.config.id f →
        (run (heizStep selfaddr) (heizStart it p) es).dev.durationCounter = 0) := by
  have hid : (run (heizStep selfaddr) (heizStart it p) es).dev.config.id = p.config.id :=
    run_config_id selfaddr es (heizStart it p)
  generalize run (heizStep selfaddr) (heizStart it p) es = s at hid
  rw [← hid]
  constructor
  · rintro ⟨haus, -⟩ hf
    obtain ⟨-, hduration⟩ := setOff_dev selfaddr u hf
    -- the duration that is left would run down to the automatic mode
    by_contra hne
    have hnat := toNat_ne_zero hne
    obtain ⟨n, hn⟩ := Nat.exists_eq_succ_of_ne_zero hnat
    have hauto := run_ticks_automatik selfaddr u n (heizStep selfaddr s (.frame u f))
      (by rw [hduration]; exact hn)
    have hoff := haus hf (List.replicate (n + 1) (.tick u)) fun u' f' hf' =>
      nomatch List.eq_of_mem_replicate hf'
    rw [hoff] at hauto
    exact nomatch hauto
  · intro h
    refine ⟨fun hf => ?_, fun hf => ?_⟩
    · obtain ⟨hoff, hduration⟩ := setOff_dev selfaddr u hf
      exact bleibtAus_of_dauer selfaddr hoff (hduration.trans (h hf))
    · exact bleibtImMode_of_dauer selfaddr (setMode_ohneDauer selfaddr u hf.1 hf.2)

end

/-! ## Switched off with a duration left -/

/-- Sunday at noon; no `zeitzone` matches. -/
private def sonntagMittag : Umgebung := ⟨12, 0, 7, fun _ => false, fun _ => 0⟩

/-- The heating 2 with an output 6 and a period of 20 seconds. -/
private def bad : DeviceDataHeizung where
  config := ⟨2, 6, 20, 9, Vector.replicate 8 ⟨255, 0⟩, 0, 4, Vector.replicate 8 255⟩
  it := 0
  mode := .automatik
  manualRate := 0
  timerCounter := 0
  pwmCounter := 0
  pwmWidth := 0
  pwmEnd := 0
  waermebedarfCounter := 0
  receivedIntervalCounter := 0
  measureValue := 0
  durationCounter := 0
  thermostatTemp := 0
  lastSollTemp := 0
  reedHeizStopCounter := 0
  ventilpflegeCounter := 0

private def modeFrame (bytes : List UInt8) : CanixFrame :=
  hesFrame 900 hcanMulticastInfo bytes

/-- Two seconds of the manual mode, and switched off. -/
theorem modeHaelt_nicht :
    ¬ ∀ (selfaddr : UInt16) (it : UInt16) (p : DeviceDataHeizung) (es : List HeizEvent)
      (u : Umgebung) (f : CanixFrame),
      ModeHaelt selfaddr (run (heizStep selfaddr) (heizStart it p) es) u f := by
  intro h
  have haus := (h 5 0 bad
    [.frame sonntagMittag (modeFrame [hcanHesHeizungSetModeManual, 2, 50, 0, 2])] sonntagMittag
    (modeFrame [hcanHesHeizungSetModeOff, 2])).1 ⟨by decide, by decide⟩
  have hoff := haus [.tick sonntagMittag, .tick sonntagMittag] (by simp)
  exact absurd hoff (by decide)

end OpenHcan.Heizung
