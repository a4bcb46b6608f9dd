import OpenHcan.Devices.LichtzoneRuns

/-!
# LichtzoneKlick — three clicks

The zone counts the clicks of a window of seconds. The bookkeeping of this
module keeps the events of the window that is open; `extonTasterDownCounter`
counts the buttons among them, of every group in the house.
-/

namespace OpenHcan.Lichtzone

open Lib Powerport

set_option maxRecDepth 100000

/-! ## The property and its condition -/

/-- A zone with what has happened since the click window was opened. -/
structure Klickzone where
  zone : LichtzoneIO
  fenster : List LichtEvent

/-- The window is open as long as `extonSecCounter` is not 0. -/
def klickStep (selfaddr : UInt16) (z : Klickzone) (e : LichtEvent) : Klickzone where
  zone := lichtStep selfaddr z.zone e
  fenster :=
    if (lichtStep selfaddr z.zone e).dev.extonSecCounter = 0 then [] else z.fenster ++ [e]

def klickStart (c : EdsLichtzoneBlock) : Klickzone := ⟨lichtStart c, []⟩

/-- Any button in the house. -/
def LichtEvent.taster : LichtEvent → Bool
  | .frame f => f.byte 1 = hcanHesTasterDown
  | .tick => false

/-- A button of the toggle groups of the zone. -/
def LichtEvent.eigen (c : EdsLichtzoneBlock) : LichtEvent → Bool
  | .frame f => EigenerTaster c f
  | .tick => false

/-- The last three clicks of the zone have come within
`LICHTZONE_EXT_SEC_COUNTER_MAX` ticks. -/
def DreiEigene (c : EdsLichtzoneBlock) (es : List LichtEvent) : Prop :=
  ∃ letzte, letzte <:+ es ∧ letzte.count .tick ≤ lichtzoneExtSecCounterMax.toNat ∧
    3 ≤ letzte.countP (LichtEvent.eigen c)

/-- The zone goes to the extended mode only with three clicks of its own. -/
def NurDreifach (selfaddr : UInt16) (c : EdsLichtzoneBlock) (es : List LichtEvent) : Prop :=
  ∀ pre e post, es = pre ++ e :: post →
    (run (lichtStep selfaddr) (lichtStart c) pre).dev.state ≠ .onExt →
      (run (lichtStep selfaddr) (lichtStart c) (pre ++ [e])).dev.state = .onExt →
        DreiEigene c (pre ++ [e])

/-- A click of the zone that makes it three finds no other button counted. -/
def NurEigene (z : Klickzone) : LichtEvent → Prop
  | .frame f =>
      EigenerTaster z.zone.dev.config f → z.zone.dev.state ≠ .onExt →
        3 ≤ z.zone.dev.extonTasterDownCounter + 1 →
          ∀ e ∈ z.fenster, e.taster = true → e.eigen z.zone.dev.config = true
  | .tick => True

instance (z : Klickzone) : DecidablePred (NurEigene z)
  | .frame f => inferInstanceAs (Decidable (EigenerTaster z.zone.dev.config f → _))
  | .tick => inferInstanceAs (Decidable True)

/-! ## What a step does to the clicks -/

section

variable (selfaddr : UInt16) {s : LichtzoneIO}

/-- The clicks are forgotten, or a button is counted, or nothing happens to them. -/
theorem frame_klicks (f : CanixFrame) (s : LichtzoneIO) :
    let q := (lichtzoneCanCallback selfaddr f s).dev
    let p := if f.byte 1 = hcanHesTasterDown then tasterZaehlen s.dev else s.dev
    q.config = s.dev.config ∧ (q.extonSecCounter = p.extonSecCounter ∧
        q.extonTasterDownCounter = p.extonTasterDownCounter ∨
      q.extonSecCounter = 0 ∧ q.extonTasterDownCounter = 0) := by
  dsimp only
  split
  · rename_i hdown
    rw [canCallback_taster selfaddr f hdown]
    rcases tasterDown_spec selfaddr f s with hnormal | ⟨u, hnormal, -, -, hbleibt⟩
    · exact ⟨hnormal.config, hnormal.clicks⟩
    · exact ⟨hbleibt.config.trans hnormal.config, Or.inr ⟨hbleibt.sec, hbleibt.clicks⟩⟩
  · rename_i hdown
    by_cases hset : f.byte 1 = hcanHesPowerGroupSetTimer
    · obtain ⟨hconfig, -, hsec, hclicks⟩ := canCallback_setTimer selfaddr f hset s
      exact ⟨hconfig, Or.inl ⟨hsec, hclicks⟩⟩
    · have hnormal := canCallback_other selfaddr f hdown hset s
      exact ⟨hnormal.config, hnormal.clicks⟩

/-- **Only three clicks** begin the extended mode. -/
theorem lichtStep_onExt {e : LichtEvent} (hs : s.dev.state ≠ .onExt)
    (h : (lichtStep selfaddr s e).dev.state = .onExt) :
    ∃ f, e = .frame f ∧ EigenerTaster s.dev.config f ∧
      dreifachClick (tasterZaehlen s.dev) = true := by
  cases e with
  | tick =>
      have h : (clickTick (timerTick selfaddr s).dev).state = .onExt := h
      rw [(clickTick_frame _).2.1] at h
      exact absurd ((timerTick_normal selfaddr s).onExt h) hs
  | frame f =>
      have h : (lichtzoneCanCallback selfaddr f s).dev.state = .onExt := h
      by_cases hdown : f.byte 1 = hcanHesTasterDown
      · rw [canCallback_taster selfaddr f hdown] at h
        rcases tasterDown_spec selfaddr f s with hnormal | ⟨u, hnormal, hdrei, hmem, -⟩
        · exact absurd (hnormal.onExt h) hs
        · exact ⟨f, rfl, ⟨hdown, hmem⟩, hnormal.dreifachClick hdrei⟩
      · by_cases hset : f.byte 1 = hcanHesPowerGroupSetTimer
        · rw [(canCallback_setTimer selfaddr f hset s).2.1] at h
          exact absurd h hs
        · exact absurd ((canCallback_other selfaddr f hdown hset s).onExt h) hs

/-- A second closes the window or makes it a second older. -/
theorem clickTick_clicks (p : DeviceDataLichtzone) :
    ((clickTick p).extonSecCounter = 0 ∧
      ((clickTick p).extonTasterDownCounter = 0 ∨
        (clickTick p).extonTasterDownCounter = p.extonTasterDownCounter ∧ p.extonSecCounter = 0)) ∨
    p.extonSecCounter ≠ 0 ∧ (clickTick p).extonSecCounter = p.extonSecCounter + 1 ∧
      (clickTick p).extonSecCounter < lichtzoneExtSecCounterMax ∧
      (clickTick p).extonTasterDownCounter = p.extonTasterDownCounter := by
  unfold clickTick
  dsimp only
  by_cases hsec : p.extonSecCounter = 0
  · rw [hsec, if_neg (by decide), if_neg (by decide)]
    exact Or.inl ⟨rfl, Or.inr ⟨rfl, rfl⟩⟩
  · have hone : p.extonSecCounter ≥ 1 := by
      have hne : p.extonSecCounter.toNat ≠ 0 := fun h => hsec (UInt8.toNat_inj.mp h)
      exact UInt8.le_iff_toNat_le.mpr (Nat.one_le_iff_ne_zero.mpr hne)
    rw [if_pos hone]
    split
    · exact Or.inl ⟨rfl, Or.inl rfl⟩
    · rename_i hmax
      exact Or.inr ⟨hsec, rfl, UInt8.not_le.mp hmax, rfl⟩

/-! ## The books are true -/

/-- What is counted has come since the window was opened. -/
structure Gezaehlt (c : EdsLichtzoneBlock) (z : Klickzone) : Prop where
  config : z.zone.dev.config = c
  zu : z.zone.dev.extonSecCounter = 0 → z.zone.dev.extonTasterDownCounter = 0 ∧ z.fenster = []
  offen : z.zone.dev.extonSecCounter ≠ 0 →
    z.fenster.count .tick + 1 ≤ z.zone.dev.extonSecCounter.toNat ∧
      z.zone.dev.extonSecCounter.toNat < lichtzoneExtSecCounterMax.toNat
  klicks : z.zone.dev.extonTasterDownCounter.toNat ≤ z.fenster.countP LichtEvent.taster

theorem gezaehlt_start (c : EdsLichtzoneBlock) : Gezaehlt c (klickStart c) where
  config := rfl
  zu _ := ⟨rfl, rfl⟩
  offen h := absurd rfl h
  klicks := Nat.le_refl 0

/-- The window is closed, and the clicks are forgotten. -/
theorem Gezaehlt.geschlossen {c : EdsLichtzoneBlock} {z : Klickzone} {e : LichtEvent}
    (hconfig : (lichtStep selfaddr z.zone e).dev.config = c)
    (hsec : (lichtStep selfaddr z.zone e).dev.extonSecCounter = 0)
    (hclicks : (lichtStep selfaddr z.zone e).dev.extonTasterDownCounter = 0) :
    Gezaehlt c (klickStep selfaddr z e) := by
  refine ⟨hconfig, fun _ => ⟨hclicks, if_pos hsec⟩, fun h => absurd hsec h, ?_⟩
  show (lichtStep selfaddr z.zone e).dev.extonTasterDownCounter.toNat ≤ _
  rw [hclicks]
  exact Nat.zero_le _

/-- The window is open, and the event belongs to it. -/
theorem Gezaehlt.geoeffnet {c : EdsLichtzoneBlock} {z : Klickzone} {e : LichtEvent}
    (hconfig : (lichtStep selfaddr z.zone e).dev.config = c)
    (hticks : (z.fenster ++ [e]).count .tick + 1 ≤
      (lichtStep selfaddr z.zone e).dev.extonSecCounter.toNat)
    (hmax : (lichtStep selfaddr z.zone e).dev.extonSecCounter.toNat <
      lichtzoneExtSecCounterMax.toNat)
    (hclicks : (lichtStep selfaddr z.zone e).dev.extonTasterDownCounter.toNat ≤
      (z.fenster ++ [e]).countP LichtEvent.taster) : Gezaehlt c (klickStep selfaddr z e) := by
  have hsec : (lichtStep selfaddr z.zone e).dev.extonSecCounter ≠ 0 := by
    intro h
    rw [h] at hticks
    exact absurd hticks (Nat.not_succ_le_zero _)
  have hfenster : (klickStep selfaddr z e).fenster = z.fenster ++ [e] := if_neg hsec
  refine ⟨hconfig, fun h => absurd h hsec, fun _ => ⟨?_, hmax⟩, ?_⟩
  · rw [hfenster]
    exact hticks
  · rw [hfenster]
    exact hclicks

/-- A button is counted; the first one opens the window. -/
theorem Gezaehlt.taster {c : EdsLichtzoneBlock} {z : Klickzone} (hz : Gezaehlt c z)
    {f : CanixFrame} (hdown : f.byte 1 = hcanHesTasterDown)
    (hconfig : (lichtStep selfaddr z.zone (.frame f)).dev.config = c)
    (hsec : (lichtStep selfaddr z.zone (.frame f)).dev.extonSecCounter =
      if z.zone.dev.extonSecCounter = 0 then 1 else z.zone.dev.extonSecCounter)
    (hclicks : (lichtStep selfaddr z.zone (.frame f)).dev.extonTasterDownCounter =
      z.zone.dev.extonTasterDownCounter + 1) : Gezaehlt c (klickStep selfaddr z (.frame f)) := by
  have htaster : (z.fenster ++ [LichtEvent.frame f]).countP LichtEvent.taster =
      z.fenster.countP LichtEvent.taster + 1 := by
    rw [List.countP_append, List.countP_singleton]
    simp [LichtEvent.taster, hdown]
  have hcount : (z.fenster ++ [LichtEvent.frame f]).count LichtEvent.tick =
      z.fenster.count LichtEvent.tick := by
    rw [List.count_append]
    simp
  have hwrap : (z.zone.dev.extonTasterDownCounter + 1).toNat ≤
      z.zone.dev.extonTasterDownCounter.toNat + 1 := by
    rw [UInt8.toNat_add]
    exact Nat.mod_le _ _
  have hklicks : (lichtStep selfaddr z.zone (.frame f)).dev.extonTasterDownCounter.toNat ≤
      (z.fenster ++ [LichtEvent.frame f]).countP LichtEvent.taster := by
    rw [hclicks, htaster]
    exact Nat.le_trans hwrap (Nat.add_le_add_right hz.klicks 1)
  by_cases hzero : z.zone.dev.extonSecCounter = 0
  · have hone : (lichtStep selfaddr z.zone (.frame f)).dev.extonSecCounter = 1 :=
      hsec.trans (if_pos hzero)
    apply Gezaehlt.geoeffnet selfaddr hconfig _ _ hklicks
    · have hempty : z.fenster.count LichtEvent.tick = 0 := by simp [(hz.zu hzero).2]
      rw [hcount, hempty, hone]
      decide
    · rw [hone]
      decide
  · have hsame : (lichtStep selfaddr z.zone (.frame f)).dev.extonSecCounter =
        z.zone.dev.extonSecCounter := hsec.trans (if_neg hzero)
    apply Gezaehlt.geoeffnet selfaddr hconfig _ _ hklicks
    · rw [hcount, hsame]
      exact (hz.offen hzero).1
    · rw [hsame]
      exact (hz.offen hzero).2

/-- Any other frame leaves the window and the clicks alone. -/
theorem Gezaehlt.andere {c : EdsLichtzoneBlock} {z : Klickzone} (hz : Gezaehlt c z)
    {f : CanixFrame} (hconfig : (lichtStep selfaddr z.zone (.frame f)).dev.config = c)
    (hsec : (lichtStep selfaddr z.zone (.frame f)).dev.extonSecCounter =
      z.zone.dev.extonSecCounter)
    (hclicks : (lichtStep selfaddr z.zone (.frame f)).dev.extonTasterDownCounter =
      z.zone.dev.extonTasterDownCounter) : Gezaehlt c (klickStep selfaddr z (.frame f)) := by
  by_cases hzero : z.zone.dev.extonSecCounter = 0
  · exact .geschlossen selfaddr hconfig (hsec.trans hzero) (hclicks.trans (hz.zu hzero).1)
  · apply Gezaehlt.geoeffnet selfaddr hconfig
    · rw [List.count_append, hsec]
      simpa using (hz.offen hzero).1
    · rw [hsec]
      exact (hz.offen hzero).2
    · rw [hclicks, List.countP_append]
      exact Nat.le_trans hz.klicks (Nat.le_add_right _ _)

theorem Gezaehlt.frame {c : EdsLichtzoneBlock} {z : Klickzone} (hz : Gezaehlt c z)
    (f : CanixFrame) : Gezaehlt c (klickStep selfaddr z (.frame f)) := by
  obtain ⟨hconfig, hklicks⟩ := frame_klicks selfaddr f z.zone
  have hconfig : (lichtStep selfaddr z.zone (.frame f)).dev.config = c := hconfig.trans hz.config
  rcases hklicks with ⟨hsec, hclicks⟩ | ⟨hsec, hclicks⟩
  · by_cases hdown : f.byte 1 = hcanHesTasterDown
    · rw [if_pos hdown] at hsec hclicks
      exact hz.taster selfaddr hdown hconfig hsec hclicks
    · rw [if_neg hdown] at hsec hclicks
      exact hz.andere selfaddr hconfig hsec hclicks
  · exact .geschlossen selfaddr hconfig hsec hclicks

theorem Gezaehlt.tick {c : EdsLichtzoneBlock} {z : Klickzone} (hz : Gezaehlt c z) :
    Gezaehlt c (klickStep selfaddr z .tick) := by
  have hnormal := timerTick_normal selfaddr z.zone
  have hstep : (lichtStep selfaddr z.zone .tick).dev = clickTick (timerTick selfaddr z.zone).dev :=
    rfl
  have hconfig : (lichtStep selfaddr z.zone .tick).dev.config = c := by
    rw [hstep, (clickTick_frame _).1, hnormal.config, hz.config]
  have hcounter : (timerTick selfaddr z.zone).dev.extonSecCounter = 0 →
      (timerTick selfaddr z.zone).dev.extonTasterDownCounter = 0 := by
    intro hsec
    rcases hnormal.clicks with ⟨hsame, hclicks⟩ | ⟨-, hclicks⟩
    · rw [hclicks]
      exact (hz.zu (hsame ▸ hsec)).1
    · exact hclicks
  rcases clickTick_clicks (timerTick selfaddr z.zone).dev with
    ⟨hsec, hclicks⟩ | ⟨hsec, hnext, hmax, hclicks⟩
  · apply Gezaehlt.geschlossen selfaddr hconfig hsec
    rcases hclicks with hclicks | ⟨hclicks, hzero⟩
    · exact hclicks
    · exact hclicks.trans (hcounter hzero)
  · rcases hnormal.clicks with ⟨hsame, hsameClicks⟩ | ⟨hzero, -⟩
    · have hopen := hz.offen (hsame ▸ hsec)
      have hmax := UInt8.lt_iff_toNat_lt.mp hmax
      have hplus : (z.zone.dev.extonSecCounter + 1).toNat =
          z.zone.dev.extonSecCounter.toNat + 1 := by
        have h3 : lichtzoneExtSecCounterMax.toNat = 3 := rfl
        rw [UInt8.toNat_add]
        have hone : (1 : UInt8).toNat = 1 := rfl
        omega
      rw [hsame] at hnext
      apply Gezaehlt.geoeffnet selfaddr hconfig
      · rw [hstep, hnext, hplus, List.count_append]
        have htick : List.count LichtEvent.tick [LichtEvent.tick] = 1 := rfl
        omega
      · rw [hstep]
        exact hmax
      · rw [hstep, hclicks, hsameClicks, List.countP_append]
        exact Nat.le_trans hz.klicks (Nat.le_add_right _ _)
    · exact absurd hzero hsec

theorem Gezaehlt.step {c : EdsLichtzoneBlock} {z : Klickzone} (hz : Gezaehlt c z)
    (e : LichtEvent) : Gezaehlt c (klickStep selfaddr z e) := by
  cases e with
  | frame f => exact hz.frame selfaddr f
  | tick => exact hz.tick selfaddr

/-! ## All runs -/

theorem run_klick_zone (es : List LichtEvent) (z : Klickzone) :
    (run (klickStep selfaddr) z es).zone = run (lichtStep selfaddr) z.zone es := by
  induction es generalizing z with
  | nil => rfl
  | cons e es ih => exact ih (klickStep selfaddr z e)

/-- The window is the end of what has happened. -/
theorem run_klick_fenster (es : List LichtEvent) (z : Klickzone) :
    (run (klickStep selfaddr) z es).fenster <:+ z.fenster ++ es := by
  induction es generalizing z with
  | nil =>
      rw [List.append_nil]
      exact List.suffix_refl _
  | cons e es ih =>
      have htail := ih (klickStep selfaddr z e)
      rw [List.append_cons]
      by_cases hsec : (lichtStep selfaddr z.zone e).dev.extonSecCounter = 0
      · have hzu : (klickStep selfaddr z e).fenster = [] := if_pos hsec
        rw [hzu, List.nil_append] at htail
        exact htail.trans (List.suffix_append _ es)
      · have hauf : (klickStep selfaddr z e).fenster = z.fenster ++ [e] := if_neg hsec
        rw [hauf] at htail
        exact htail

/-- A click that begins the extended mode, with no other button counted. -/
theorem dreiEigene_of_klick {c : EdsLichtzoneBlock} {z : Klickzone} (hz : Gezaehlt c z)
    {f : CanixFrame} (hf : EigenerTaster c f)
    (hdrei : dreifachClick (tasterZaehlen z.zone.dev) = true)
    (heigen : ∀ e ∈ z.fenster, e.taster = true → e.eigen c = true) :
    (z.fenster ++ [LichtEvent.frame f]).count LichtEvent.tick ≤ lichtzoneExtSecCounterMax.toNat ∧
      3 ≤ (z.fenster ++ [LichtEvent.frame f]).countP (LichtEvent.eigen c) := by
  have hclicks : 3 ≤ z.zone.dev.extonTasterDownCounter + 1 := by
    unfold dreifachClick at hdrei
    exact (of_decide_eq_true hdrei).1
  constructor
  · rw [List.count_append]
    have hnone : List.count LichtEvent.tick [LichtEvent.frame f] = 0 := by simp
    by_cases hzero : z.zone.dev.extonSecCounter = 0
    · rw [(hz.zu hzero).2, hnone]
      decide
    · have hopen := hz.offen hzero
      omega
  · have hone : [LichtEvent.frame f].countP (LichtEvent.eigen c) = 1 := by
      rw [List.countP_singleton]
      simp [LichtEvent.eigen, hf]
    have hmono : z.fenster.countP LichtEvent.taster ≤ z.fenster.countP (LichtEvent.eigen c) :=
      List.countP_mono_left heigen
    have hthree := UInt8.le_iff_toNat_le.mp hclicks
    rw [UInt8.toNat_add] at hthree
    have h3 : (3 : UInt8).toNat = 3 := rfl
    have h1 : (1 : UInt8).toNat = 1 := rfl
    have hklicks := hz.klicks
    have hwrap := Nat.mod_le (z.zone.dev.extonTasterDownCounter.toNat + (1 : UInt8).toNat) (2 ^ 8)
    rw [List.countP_append, hone]
    omega

/-- **Three clicks**: as long as a click that makes three finds no other button
counted, only three clicks of its own bring the zone to the extended mode. -/
theorem dreifachClick_nur_eigene (c : EdsLichtzoneBlock) (es : List LichtEvent)
    (hg : Guarded (klickStep selfaddr) NurEigene (klickStart c) es) :
    NurDreifach selfaddr c es := by
  intro pre e post hsplit hbefore hafter
  have hguard := (guarded_iff_split es (klickStart c)).mp hg pre e post hsplit
  have hz : Gezaehlt c (run (klickStep selfaddr) (klickStart c) pre) :=
    run_invariant (fun z e hz => hz.step selfaddr e) pre _ (gezaehlt_start c)
  have hzone := run_klick_zone selfaddr pre (klickStart c)
  have hfenster := run_klick_fenster selfaddr pre (klickStart c)
  generalize run (klickStep selfaddr) (klickStart c) pre = z at hguard hz hzone hfenster
  have hzone : z.zone = run (lichtStep selfaddr) (lichtStart c) pre := hzone
  rw [run_append, ← hzone] at hafter
  rw [← hzone] at hbefore
  obtain ⟨f, rfl, hf, hdrei⟩ := lichtStep_onExt selfaddr hbefore hafter
  have hclicks : 3 ≤ z.zone.dev.extonTasterDownCounter + 1 := by
    unfold dreifachClick at hdrei
    exact (of_decide_eq_true hdrei).1
  have heigen := hguard hf hbefore hclicks
  rw [hz.config] at hf heigen
  refine ⟨z.fenster ++ [.frame f], ?_, dreiEigene_of_klick hz hf hdrei heigen⟩
  obtain ⟨vorher, hvorher⟩ := hfenster
  refine ⟨vorher, ?_⟩
  have hpre : vorher ++ z.fenster = pre := hvorher
  rw [← hpre, List.append_assoc]

end

/-! ## Buttons of the neighbours -/

/-- A zone with a button group 1 and a timer of five minutes. -/
private def treppe : EdsLichtzoneBlock := ⟨1, 255, 255, 255, 255, 255, 255, 255, 5, 20, 255⟩

private def taster (gruppe : UInt8) : LichtEvent :=
  .frame
    { src := 900
      dst := hcanMulticastInfo
      proto := hcanProtoSfp
      size := 3
      data := payload [hcanSrvHes, hcanHesTasterDown, gruppe] }

theorem dreifachClick_nur_eigene_drei :
    NurDreifach 5 treppe [taster 1, taster 1, .tick, taster 1] ∧
      (run (lichtStep 5) (lichtStart treppe) [taster 1, taster 1, .tick, taster 1]).dev.state =
        .onExt :=
  ⟨dreifachClick_nur_eigene 5 treppe [taster 1, taster 1, .tick, taster 1]
    ⟨by decide, by decide, by decide, by decide, trivial⟩, by decide⟩

/-- Two buttons of the group 99 and one of the group 1 begin the extended mode. -/
theorem dreifachClick_fremde :
    ¬ ∀ (selfaddr : UInt16) (c : EdsLichtzoneBlock) (es : List LichtEvent),
      NurDreifach selfaddr c es := by
  intro h
  obtain ⟨letzte, hsuffix, -, hdrei⟩ := h 5 treppe [taster 99, taster 99, taster 1]
    [taster 99, taster 99] (taster 1) [] rfl (by decide) (by decide)
  have hle : letzte.countP (LichtEvent.eigen treppe) ≤
      [taster 99, taster 99, taster 1].countP (LichtEvent.eigen treppe) :=
    hsuffix.sublist.countP_le
  have hone : [taster 99, taster 99, taster 1].countP (LichtEvent.eigen treppe) = 1 := by decide
  omega

end OpenHcan.Lichtzone
