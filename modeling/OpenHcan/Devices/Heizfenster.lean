import OpenHcan.Devices.HeizungPwm
import OpenHcan.Devices.Reedkontakt
import OpenHcan.Lib.Heartbeat

/-!
# Heizfenster — a window and the radiator below it

An open window stops the heating for a minute, and its contact says every fifth
second that it is open. The boards run their seconds in any order; all other
boards, other contacts among them, send what they like.
-/

namespace OpenHcan.Heizfenster

open Lib Reedkontakt Heizung

set_option maxRecDepth 100000

/-- A contact and a heating. -/
structure Heizkreis where
  kontakt : DeviceDataReedkontakt
  heizung : HeizungIO

/-- A second of the contact, a second of the heating, or a frame of another board. What the
heating reads from its own board is part of an event. -/
inductive KreisEvent
  | kontakt (a : Ablesungen) (u : Umgebung)
  | heizung (u : Umgebung)
  | frame (u : Umgebung) (f : CanixFrame)

section

variable (reedaddr heizaddr : UInt16)

def kreisStep (s : Heizkreis) : KreisEvent → Heizkreis
  | .kontakt a u =>
      let r := reedkontaktTimerHandler reedaddr a ⟨s.kontakt, []⟩ 1
      ⟨r.dev, run (heizStep heizaddr) s.heizung (r.sent.map (.frame u))⟩
  | .heizung u => { s with heizung := heizStep heizaddr s.heizung (.tick u) }
  | .frame u f => { s with heizung := heizStep heizaddr s.heizung (.frame u f) }

@[simp] theorem kreisStep_heizung (s : Heizkreis) (u : Umgebung) :
    kreisStep reedaddr heizaddr s (.heizung u) =
      ⟨s.kontakt, heizStep heizaddr s.heizung (.tick u)⟩ := rfl

@[simp] theorem kreisStep_frame (s : Heizkreis) (u : Umgebung) (f : CanixFrame) :
    kreisStep reedaddr heizaddr s (.frame u f) =
      ⟨s.kontakt, heizStep heizaddr s.heizung (.frame u f)⟩ := rfl

/-- Both boards have been started. -/
def kreisStart (inputportRead : Bool → UInt8 → UInt8) (c : EdsReedkontaktBlock) (it : UInt16)
    (p : DeviceDataHeizung) : Heizkreis :=
  ⟨reedkontaktInit inputportRead ⟨c, 0, false⟩, heizStart it p⟩

/-- The seconds of the contact. -/
def von : KreisEvent → Option Ablesungen
  | .kontakt a _ => some a
  | _ => none

/-- The seconds of the heating. -/
def istHeizung : KreisEvent → Bool
  | .heizung _ => true
  | _ => false

/-! ## The heat stop -/

section

variable {s : HeizungIO} {u : Umgebung} {f : CanixFrame}

/-- The frame is the message of a contact of the heating. -/
def stopptHeizung (c : EdsHeizungBlock) (f : CanixFrame) : Bool :=
  f.byte 1 = hcanHesReedkontaktOffen ∧ c.reed.toList.any (· == f.byte 2) = true

/-- **What a frame does to the heat stop**: it starts again, or it is left alone. -/
theorem frame_heizstop (s : HeizungIO) (u : Umgebung) (f : CanixFrame) :
    (heizStep heizaddr s (.frame u f)).dev.config.reed = s.dev.config.reed ∧
      (heizStep heizaddr s (.frame u f)).dev.reedHeizStopCounter =
        if stopptHeizung s.dev.config f then 60 else s.dev.reedHeizStopCounter := by
  show (heizungCanCallback heizaddr u f s).dev.config.reed = _ ∧
    (heizungCanCallback heizaddr u f s).dev.reedHeizStopCounter = _
  unfold heizungCanCallback stopptHeizung
  dsimp only
  by_cases hoffen : f.byte 1 = hcanHesReedkontaktOffen
  · have hmode : setztMode f = false := by rw [setztMode, hoffen]; decide
    rw [hoffen, if_neg (by decide), hmode, if_neg Bool.false_ne_true, if_neg (by decide),
      if_pos rfl, update_dev]
    unfold caseReedkontaktOffen
    simp only [true_and, decide_eq_true_eq]
    split
    · exact ⟨rfl, rfl⟩
    · exact ⟨rfl, rfl⟩
  · simp only [hoffen, false_and, decide_false, if_false, Bool.false_eq_true]
    split
    · split
      · exact ⟨rfl, rfl⟩
      · exact ⟨rfl, rfl⟩
    · split
      · split
        · show (setMode f s.dev).config.reed = _ ∧ (setMode f s.dev).reedHeizStopCounter = _
          unfold setMode
          dsimp only
          split
          · exact ⟨rfl, rfl⟩
          · split
            · exact ⟨rfl, rfl⟩
            · split
              · exact ⟨rfl, rfl⟩
              · split
                · exact ⟨rfl, rfl⟩
                · exact ⟨rfl, rfl⟩
        · exact ⟨rfl, rfl⟩
      · split
        · split
          · exact ⟨rfl, rfl⟩
          · exact ⟨rfl, rfl⟩
        · split
          · exact ⟨rfl, rfl⟩
          · exact ⟨rfl, rfl⟩

/-- Frames leave the heat stop as it is, or set it to a minute. -/
theorem frames_heizstop (u : Umgebung) (frames : List CanixFrame) :
    ∀ s : HeizungIO,
      (run (heizStep heizaddr) s (frames.map (.frame u))).dev.config.reed = s.dev.config.reed ∧
      ((run (heizStep heizaddr) s (frames.map (.frame u))).dev.reedHeizStopCounter =
          s.dev.reedHeizStopCounter ∨
        (run (heizStep heizaddr) s (frames.map (.frame u))).dev.reedHeizStopCounter = 60) := by
  induction frames with
  | nil => intro s; exact ⟨rfl, .inl rfl⟩
  | cons f frames ih =>
      intro s
      obtain ⟨hreed, hstop⟩ := frame_heizstop heizaddr s u f
      obtain ⟨hreed', hstop'⟩ := ih (heizStep heizaddr s (.frame u f))
      refine ⟨hreed'.trans hreed, ?_⟩
      rw [List.map_cons, run_cons]
      rcases hstop' with hsame | hsixty
      · rw [hsame, hstop]
        split
        · exact .inr rfl
        · exact .inl rfl
      · exact .inr hsixty

/-- A second counts the heat stop down. -/
theorem tick_heizstop (s : HeizungIO) (u : Umgebung) :
    (heizStep heizaddr s (.tick u)).dev.config = s.dev.config ∧
      s.dev.reedHeizStopCounter.toNat ≤
        (heizStep heizaddr s (.tick u)).dev.reedHeizStopCounter.toNat + 1 := by
  have htick := tick_sekunde heizaddr u s
  refine ⟨htick.config, ?_⟩
  rw [htick.heizstop]
  show _ ≤ (if s.dev.reedHeizStopCounter = 0 then 0 else s.dev.reedHeizStopCounter - 1).toNat + 1
  split
  · rename_i hzero
    rw [hzero]
    exact Nat.zero_le _
  · rename_i hne
    rw [byte_sub_one_add_one hne]

end

/-! ## The window -/

section

variable {c : EdsReedkontaktBlock} {reed : Vector UInt8 8} {s : Heizkreis}
  {past : List KreisEvent} {e : KreisEvent}

/-- What every run keeps: once the window has been reported, the heating is stopped, with the
next report in time. -/
structure KreisInv (c : EdsReedkontaktBlock) (reed : Vector UInt8 8) (s : Heizkreis)
    (past : List KreisEvent) : Prop where
  phase : Phase von c past s.kontakt
  reed : s.heizung.dev.config.reed = reed
  stopp : Gemeldet von c past → Beating (istSekunde von) istHeizung 5 60 past
    s.kontakt.timerCounter.toNat s.heizung.dev.reedHeizStopCounter.toNat

/-- The message of the contact stops the heating. -/
theorem offenMeldung_heizstop (hreed : reed.toList.any (· == c.gruppe) = true) (t : HeizungIO)
    (ht : t.dev.config.reed = reed) (u : Umgebung) :
    (heizStep heizaddr t (.frame u (offenMeldung reedaddr c.gruppe))).dev.reedHeizStopCounter =
      60 := by
  rw [(frame_heizstop heizaddr t u _).2, if_pos]
  unfold stopptHeizung
  rw [ht]
  exact decide_eq_true ⟨rfl, hreed⟩

/-- A second of the contact. -/
theorem KreisInv.kontakt (hinv : KreisInv c reed s past)
    (hreed : reed.toList.any (· == c.gruppe) = true) (a : Ablesungen) (u : Umgebung) :
    KreisInv c reed (kreisStep reedaddr heizaddr s (.kontakt a u)) (.kontakt a u :: past) := by
  have hvon : von (.kontakt a u) = some a := rfl
  have hstep : kreisStep reedaddr heizaddr s (.kontakt a u) =
      ⟨Reedkontakt.sekunde a s.kontakt, run (heizStep heizaddr) s.heizung
        ((aenderung reedaddr a s.kontakt ++ wiederholung reedaddr a s.kontakt).map
          (.frame u))⟩ := by
    show (⟨_, _⟩ : Heizkreis) = _
    rw [timerHandler_eq]
    rfl
  obtain ⟨hreed', hstop⟩ := frames_heizstop heizaddr u
    (aenderung reedaddr a s.kontakt ++ wiederholung reedaddr a s.kontakt) s.heizung
  rw [hstep]
  refine ⟨hinv.phase.sekunde hvon, hreed'.trans hinv.reed, fun hg => ?_⟩
  dsimp only
  rcases hinv.phase.meldet hvon hg reedaddr with ⟨hsent, hfour⟩ | ⟨hsent, hminus, hbefore⟩
  · have hbefore := (frames_heizstop heizaddr u (aenderung reedaddr a s.kontakt) s.heizung).1
    rw [hsent, hfour, List.map_append, run_append, List.map_cons, List.map_nil, run_cons, run_nil,
      offenMeldung_heizstop reedaddr heizaddr hreed _ (hbefore.trans hinv.reed)]
    exact .start (by decide) (Nat.le_refl _)
  · have hnext := (hinv.stopp hbefore).sent (e := .kontakt a u) rfl (Nat.le_of_eq hminus)
    rcases hstop with hsame | hsixty
    · rw [hsame]
      exact hnext
    · rw [hsixty]
      exact hnext.renew (Nat.le_refl _)

/-- **The step.** -/
theorem KreisInv.step (hinv : KreisInv c reed s past)
    (hreed : reed.toList.any (· == c.gruppe) = true) (e : KreisEvent) :
    KreisInv c reed (kreisStep reedaddr heizaddr s e) (e :: past) := by
  cases e with
  | kontakt a u => exact hinv.kontakt reedaddr heizaddr hreed a u
  | heizung u =>
      obtain ⟨hconfig, hcount⟩ := tick_heizstop heizaddr s.heizung u
      rw [kreisStep_heizung]
      refine ⟨hinv.phase.andere rfl, by rw [hconfig, hinv.reed], fun hg => ?_⟩
      rw [gemeldet_andere rfl] at hg
      dsimp only
      exact (hinv.stopp hg).aged rfl rfl hcount
  | frame u f =>
      obtain ⟨hreed', hstop⟩ := frame_heizstop heizaddr s.heizung u f
      rw [kreisStep_frame]
      refine ⟨hinv.phase.andere rfl, hreed'.trans hinv.reed, fun hg => ?_⟩
      rw [gemeldet_andere rfl] at hg
      have hnext := (hinv.stopp hg).other (e := .frame u f) rfl
      dsimp only
      rw [hstop]
      split
      · exact hnext.renew (Nat.le_refl _)
      · exact hnext

theorem run_kreis (hreed : reed.toList.any (· == c.gruppe) = true) (es : List KreisEvent) :
    ∀ (s : Heizkreis) (past : List KreisEvent), KreisInv c reed s past →
      KreisInv c reed (run (kreisStep reedaddr heizaddr) s es) (es.reverse ++ past) := by
  induction es with
  | nil => intro s past hinv; exact hinv
  | cons e es ih =>
      intro s past hinv
      rw [List.reverse_cons, List.append_assoc]
      exact ih _ _ (hinv.step reedaddr heizaddr hreed e)

theorem kreisStart_inv (inputportRead : Bool → UInt8 → UInt8) (c : EdsReedkontaktBlock)
    (it : UInt16) (p : DeviceDataHeizung) :
    KreisInv c p.config.reed (kreisStart inputportRead c it p) [] := by
  refine ⟨phase_init inputportRead ⟨c, 0, false⟩, rfl, ?_⟩
  rintro ⟨hoffen, -⟩
  exact nomatch hoffen

/-- Between two of its seconds the heating receives frames. -/
theorem run_ohne_heizung {es : List KreisEvent} (hes : ∀ e ∈ es, istHeizung e = false) :
    ∀ s : Heizkreis, ∃ fs : List HeizEvent, (∀ e ∈ fs, e.isTick = false) ∧
      (run (kreisStep reedaddr heizaddr) s es).heizung = run (heizStep heizaddr) s.heizung fs := by
  induction es with
  | nil => intro s; exact ⟨[], nofun, rfl⟩
  | cons e es ih =>
      intro s
      obtain ⟨fs, hframes, hrun⟩ := ih (fun e' he' => hes e' (List.mem_cons_of_mem e he'))
        (kreisStep reedaddr heizaddr s e)
      rw [run_cons, hrun]
      cases e with
      | kontakt a u =>
          refine ⟨(reedkontaktTimerHandler reedaddr a ⟨s.kontakt, []⟩ 1).sent.map (.frame u) ++ fs,
            fun e' he' => ?_, (run_append _ _ _).symm⟩
          rcases List.mem_append.mp he' with hin | hin
          · obtain ⟨f, -, rfl⟩ := List.mem_map.mp hin
            rfl
          · exact hframes e' hin
      | heizung u => exact nomatch hes _ List.mem_cons_self
      | frame u f =>
          refine ⟨.frame u f :: fs, fun e' he' => ?_, rfl⟩
          rcases List.mem_cons.mp he' with rfl | hin
          · rfl
          · exact hframes e' hin

/-- Two seconds of the heating, the first of them after the window has been reported. -/
theorem KreisInv.zwei_sekunden (hinv : KreisInv c reed s past)
    (hreed : reed.toList.any (· == c.gruppe) = true) {mid : List KreisEvent}
    (hmid : ∀ e ∈ mid, istHeizung e = false) (u u' : Umgebung)
    (hpaced : Paced (istSekunde von) istHeizung 5 60 (.heizung u :: past))
    (hoffen : Gemeldet von c past) :
    let t := run (kreisStep reedaddr heizaddr) s (.heizung u :: mid ++ [.heizung u'])
    t.heizung.dev.ventilpflegeCounter = 0 → t.heizung.ventil = false := by
  obtain ⟨fs, hframes, hrun⟩ := run_ohne_heizung reedaddr heizaddr hmid
    (kreisStep reedaddr heizaddr s (.heizung u))
  have hheizung : (run (kreisStep reedaddr heizaddr) s
      (.heizung u :: mid ++ [.heizung u'])).heizung =
      run (heizStep heizaddr) s.heizung (.tick u :: fs ++ [.tick u']) := by
    rw [List.cons_append, List.cons_append, run_cons, run_append, run_cons, run_nil,
      kreisStep_heizung _ _ (run _ _ _)]
    dsimp only
    rw [hrun, kreisStep_heizung, run_cons, run_append, run_cons, run_nil]
  -- the first second finds the heating stopped, and leaves it stopped
  have hnoch : (heizStep heizaddr s.heizung (.tick u)).dev.reedHeizStopCounter > 0 := by
    have hstep := hinv.step reedaddr heizaddr hreed (.heizung u)
    rw [kreisStep_heizung] at hstep
    have hafter := hstep.stopp ((gemeldet_andere rfl).mpr hoffen)
    dsimp only at hafter
    rw [gt_iff_lt, UInt8.lt_iff_toNat_lt]
    exact hafter.left_pos hpaced
  intro t hpflege
  rw [hheizung] at hpflege ⊢
  have hzu := heizstopSchliesst heizaddr s.heizung u u' fs [] (by rwa [List.append_nil]) hnoch
  exact hzu hpflege

end

end

/-- **An open window keeps the valve closed**: when a window has been reported before a second of
the heating, the valve is closed from the next one on, whatever the mode and the other boards say,
unless it is being exercised. The heating never runs a minute while the contact runs less than
five seconds. -/
theorem ventil_zu_bei_offenem_fenster (reedaddr heizaddr : UInt16)
    (inputportRead : Bool → UInt8 → UInt8) (c : EdsReedkontaktBlock) (it : UInt16)
    (p : DeviceDataHeizung) (hreed : p.config.reed.toList.any (· == c.gruppe) = true)
    (pre mid : List KreisEvent) (u u' : Umgebung) (hmid : ∀ e ∈ mid, istHeizung e = false)
    (hpaced : Paced (istSekunde von) istHeizung 5 60 (pre ++ [.heizung u]))
    (hoffen : Gemeldet von c pre.reverse) :
    let s := run (kreisStep reedaddr heizaddr) (kreisStart inputportRead c it p)
      (pre ++ .heizung u :: mid ++ [.heizung u'])
    s.heizung.dev.ventilpflegeCounter = 0 → s.heizung.ventil = false := by
  have hinv := run_kreis reedaddr heizaddr hreed pre _ []
    (kreisStart_inv inputportRead c it p)
  have hpaced' : Paced (istSekunde von) istHeizung 5 60 (.heizung u :: pre.reverse) := by
    have hback := hpaced.reverse
    rwa [List.reverse_append] at hback
  rw [List.append_nil] at hinv
  rw [List.append_assoc, run_append]
  exact hinv.zwei_sekunden reedaddr heizaddr hreed hmid u u' hpaced' hoffen

/-- The heating 3 with the contact 8, a manual rate of 100 percent and a period of 20 seconds. -/
private def badezimmer : DeviceDataHeizung where
  config := ⟨3, 1, 20, 9, Vector.replicate 8 ⟨255, 0⟩, 0, 4, Vector.replicate 8 8⟩
  it := 0
  mode := .off
  manualRate := 0
  timerCounter := 0
  pwmCounter := 0
  pwmWidth := 0
  pwmEnd := 20
  waermebedarfCounter := 0
  receivedIntervalCounter := 0
  measureValue := 0
  durationCounter := 0
  thermostatTemp := 0
  lastSollTemp := 0
  reedHeizStopCounter := 0
  ventilpflegeCounter := 0

/-- Tuesday noon; no `zeitzone` matches. -/
private def dienstagMittag : Umgebung := ⟨12, 0, 2, fun _ => false, fun _ => 0⟩

private def offenLesen : Ablesungen :=
  ⟨fun _ _ => 16, fun _ _ => 16, fun _ _ => 16, fun _ _ => 16⟩

/-- Two seconds of both boards; in between the heating is set to 100 percent by hand. -/
private def zweiSekunden : List (List KreisEvent) :=
  [[.kontakt offenLesen dienstagMittag, .heizung dienstagMittag,
      .frame dienstagMittag (hesFrame 900 hcanMulticastControl
        [hcanHesHeizungSetModeManual, 3, 100, 0, 0])],
    [.kontakt offenLesen dienstagMittag, .heizung dienstagMittag]]

theorem badezimmer_zu_bei_offenem_fenster :
    (run (kreisStep 7 5) (kreisStart (fun _ _ => 0) ⟨4, 8, 1⟩ 0 badezimmer)
      (zweiSekunden.flatten ++ [.heizung dienstagMittag])).heizung.ventil = false :=
  ventil_zu_bei_offenem_fenster 7 5 (fun _ _ => 0) ⟨4, 8, 1⟩ 0 badezimmer (by decide)
    (zweiSekunden.flatten.take 4) [] dienstagMittag dienstagMittag nofun
    (by
      have hnear : Near (istSekunde von) istHeizung 1 zweiSekunden.flatten :=
        near_of_rounds (by decide)
      have hpaced : Paced (istSekunde von) istHeizung 5 7 zweiSekunden.flatten := hnear.paced 5
      exact hpaced.longer (by decide))
    (by decide) (by decide)

end OpenHcan.Heizfenster
