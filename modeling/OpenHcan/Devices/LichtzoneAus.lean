import OpenHcan.Devices.LichtzoneRuns
import OpenHcan.Lib.Countdown

/-!
# LichtzoneAus — lights that go off by themselves

A light that is on has a timer (`Brennt`), and the timer, once it has run down,
switches off and informs the action groups. But `lichtzone_timer_handler` only
counts in a zone with a configured delay, and the extended mode does not ask
for one.
-/

namespace OpenHcan.Lichtzone

open Lib Powerport

set_option maxRecDepth 100000

/-- `s` has become `t`, and the action groups have been sent `POWER_GROUP_OFF`. -/
def AusGesendet (selfaddr : UInt16) (s t : LichtzoneIO) : Prop :=
  t.dev.state = .off ∧ ∃ new, t.sent = s.sent ++ new ∧
    ∀ g ∈ s.dev.config.actionGruppen, g ≠ 255 → informFrame selfaddr .off g ∈ new

/-- A light that is on in the extended mode, or with a timer of its own, has a
timer that runs, and it is off when the timer has run down and no frame has
come. -/
def GehtAus (selfaddr : UInt16) (s : LichtzoneIO) : Prop :=
  s.dev.state = .onExt ∨ s.dev.state = .on ∧ 0 < s.dev.config.ladewert →
    0 < s.dev.timerCounter ∧ ∀ n, s.dev.timerCounter.toNat ≤ n →
      AusGesendet selfaddr s (run (lichtStep selfaddr) s (List.replicate n .tick))

section

variable (selfaddr : UInt16) {s : LichtzoneIO}

/-! ## A light that is on has a timer -/

theorem frame_brennt (f : CanixFrame) (hset : f.byte 1 ≠ hcanHesPowerGroupSetTimer)
    (hs : Brennt s.dev) :
    (lichtzoneCanCallback selfaddr f s).dev.config = s.dev.config ∧
      Brennt (lichtzoneCanCallback selfaddr f s).dev := by
  by_cases hdown : f.byte 1 = hcanHesTasterDown
  · rw [canCallback_taster selfaddr f hdown]
    rcases tasterDown_spec selfaddr f s with hnormal | ⟨u, hnormal, -, -, hbleibt⟩
    · exact ⟨hnormal.config, hnormal.brennt hs⟩
    · refine ⟨hbleibt.config.trans hnormal.config, hbleibt.brennt ⟨fun _ => ?_, fun hon => ?_⟩⟩
      · show 0 < lichtzoneExtTimerinit
        decide
      · exact nomatch hon
  · have hnormal := canCallback_other selfaddr f hdown hset s
    exact ⟨hnormal.config, hnormal.brennt hs⟩

theorem tick_brennt (hs : Brennt s.dev) :
    (lichtStep selfaddr s .tick).dev.config = s.dev.config ∧
      Brennt (lichtStep selfaddr s .tick).dev := by
  have hnormal := timerTick_normal selfaddr s
  obtain ⟨hconfig, hstate, htimer⟩ := clickTick_frame (timerTick selfaddr s).dev
  show (clickTick (timerTick selfaddr s).dev).config = _ ∧
    Brennt (clickTick (timerTick selfaddr s).dev)
  refine ⟨hconfig.trans hnormal.config, ?_⟩
  unfold Brennt
  rw [hconfig, hstate, htimer]
  exact hnormal.brennt hs

/-! ## Seconds without frames -/

/-- What a tick does to the lights. -/
theorem tick_licht (s : LichtzoneIO) :
    (lichtStep selfaddr s .tick).dev.config = s.dev.config ∧
      (lichtStep selfaddr s .tick).dev.state = (timerTick selfaddr s).dev.state ∧
      (lichtStep selfaddr s .tick).dev.timerCounter = (timerTick selfaddr s).dev.timerCounter ∧
      (lichtStep selfaddr s .tick).sent = (timerTick selfaddr s).sent := by
  obtain ⟨hconfig, hstate, htimer⟩ := clickTick_frame (timerTick selfaddr s).dev
  exact ⟨hconfig.trans (timerTick_normal selfaddr s).config, hstate, htimer, rfl⟩

/-- Without a delay, or with a timer that is off, nothing is counted. -/
theorem timerTick_steht (h : s.dev.config.timerDelay = 0 ∨ s.dev.timerCounter = 0) :
    timerTick selfaddr s = s := by
  unfold timerTick
  rw [if_neg]
  rintro ⟨hdelay, hpos⟩
  rcases h with h | h
  · exact hdelay h
  · rw [h] at hpos
    exact absurd hpos (by decide)

theorem timerTick_laeuft (hdelay : s.dev.config.timerDelay ≠ 0) (h0 : s.dev.timerCounter ≠ 0)
    (h1 : s.dev.timerCounter ≠ 1) :
    timerTick selfaddr s = s.update fun p => { p with timerCounter := p.timerCounter - 1 } := by
  have hrest : s.dev.timerCounter - 1 ≠ 0 := sub_one_ne_zero h0 h1
  unfold timerTick
  rw [if_pos ⟨hdelay, UInt16.pos_iff_ne_zero.mpr h0⟩]
  exact if_neg hrest

/-- The timer has run down. -/
theorem timerTick_ablauf (hdelay : s.dev.config.timerDelay ≠ 0) (h1 : s.dev.timerCounter = 1) :
    (timerTick selfaddr s).dev.timerCounter = 0 ∧
      AusGesendet selfaddr s (timerTick selfaddr s) := by
  have hzero : s.dev.timerCounter - 1 = 0 := by rw [h1]; rfl
  have htick : timerTick selfaddr s = informActionGroups selfaddr
      ((s.update fun p => { p with timerCounter := p.timerCounter - 1 }).update (stateTo .off)) := by
    unfold timerTick
    rw [if_pos ⟨hdelay, by rw [h1]; decide⟩]
    exact if_pos hzero
  obtain ⟨hbleibt, hsent⟩ := informActionGroups_spec selfaddr
    ((s.update fun p => { p with timerCounter := p.timerCounter - 1 }).update (stateTo .off))
  rw [htick]
  refine ⟨?_, hbleibt.state, hsent⟩
  rcases hbleibt.timer with heq | ⟨-, heq⟩ | ⟨hon, -⟩
  · exact heq.trans hzero
  · exact heq
  · exact nomatch hon

/-- A zone whose timer is off stays as it is. -/
theorem run_ticks_steht (n : Nat) :
    ∀ s : LichtzoneIO, s.dev.config.timerDelay = 0 ∨ s.dev.timerCounter = 0 →
      (run (lichtStep selfaddr) s (List.replicate n .tick)).dev.state = s.dev.state ∧
        (run (lichtStep selfaddr) s (List.replicate n .tick)).sent = s.sent := by
  induction n with
  | zero => intro s _; exact ⟨rfl, rfl⟩
  | succ n ih =>
      intro s hs
      obtain ⟨hconfig, hstate, htimer, hsent⟩ := tick_licht selfaddr s
      rw [timerTick_steht selfaddr hs] at hstate htimer hsent
      rw [List.replicate_succ, run_cons]
      have htail := ih (lichtStep selfaddr s .tick) (by rw [hconfig, htimer]; exact hs)
      rw [hstate, hsent] at htail
      exact htail

/-- **The timer switches off** and the action groups are informed. -/
theorem run_ticks_aus (n : Nat) :
    ∀ s : LichtzoneIO, s.dev.config.timerDelay ≠ 0 → s.dev.timerCounter ≠ 0 →
      s.dev.timerCounter.toNat ≤ n →
        AusGesendet selfaddr s (run (lichtStep selfaddr) s (List.replicate n .tick)) := by
  induction n with
  | zero =>
      intro s _ h0 hn
      exact absurd (UInt16.toNat_inj.mp (Nat.le_zero.mp hn)) h0
  | succ n ih =>
      intro s hdelay h0 hn
      obtain ⟨hconfig, hstate, htimer, hsent⟩ := tick_licht selfaddr s
      rw [List.replicate_succ, run_cons]
      by_cases h1 : s.dev.timerCounter = 1
      · -- the last second; the ticks behind it find the timer at 0
        obtain ⟨hzero, hoff, new, hnew, hmem⟩ := timerTick_ablauf selfaddr hdelay h1
        obtain ⟨hstate', hsent'⟩ := run_ticks_steht selfaddr n (lichtStep selfaddr s .tick)
          (Or.inr (htimer.trans hzero))
        refine ⟨hstate'.trans (hstate.trans hoff), new, ?_, hmem⟩
        rw [hsent', hsent, hnew]
      · rw [timerTick_laeuft selfaddr hdelay h0 h1] at htimer hsent
        have hminus : (lichtStep selfaddr s .tick).dev.timerCounter = s.dev.timerCounter - 1 :=
          htimer
        have hsame : (lichtStep selfaddr s .tick).sent = s.sent := hsent
        have hnext := ih (lichtStep selfaddr s .tick) (by rw [hconfig]; exact hdelay)
          (by rw [hminus]; exact sub_one_ne_zero h0 h1)
          (by rw [hminus, toNat_sub_one h0]; exact Nat.sub_le_of_le_add hn)
        unfold AusGesendet at hnext
        rw [hconfig, hsame] at hnext
        exact hnext

/-! ## All runs -/

/-- A light with a timer that counts goes off. -/
theorem Brennt.gehtAus (hs : Brennt s.dev)
    (h : s.dev.config.timerDelay ≠ 0 ∨ s.dev.state ≠ .onExt) : GehtAus selfaddr s := by
  intro hein
  have hpos : 0 < s.dev.timerCounter := by
    rcases hein with hext | ⟨hon, hlade⟩
    · exact hs.1 hext
    · exact hs.2 hon hlade
  have hdelay : s.dev.config.timerDelay ≠ 0 := by
    rcases h with hdelay | hext
    · exact hdelay
    · intro hzero
      obtain ⟨-, hlade⟩ := hein.resolve_left hext
      rw [ladewert_of_delay hzero] at hlade
      exact absurd hlade (by decide)
  exact ⟨hpos, fun n hn => run_ticks_aus selfaddr n s hdelay (UInt16.pos_iff_ne_zero.mp hpos) hn⟩

/-- **Lights go off by themselves**, in every state a zone can reach, exactly if
it has a delay or is not in the extended mode. -/
theorem gehtAus_iff (c : EdsLichtzoneBlock) (es : List LichtEvent)
    (hes : ∀ f, LichtEvent.frame f ∈ es → f.byte 1 ≠ hcanHesPowerGroupSetTimer) :
    GehtAus selfaddr (run (lichtStep selfaddr) (lichtStart c) es) ↔
      c.timerDelay ≠ 0 ∨ (run (lichtStep selfaddr) (lichtStart c) es).dev.state ≠ .onExt := by
  have hinv : (run (lichtStep selfaddr) (lichtStart c) es).dev.config = c ∧
      Brennt (run (lichtStep selfaddr) (lichtStart c) es).dev := by
    have hguard : Guarded (lichtStep selfaddr)
        (fun _ e => ∀ f, e = .frame f → f.byte 1 ≠ hcanHesPowerGroupSetTimer) (lichtStart c) es :=
      guarded_of_forall es (lichtStart c) fun e he f hf => hes f (hf ▸ he)
    refine run_guarded (I := fun s => s.dev.config = c ∧ Brennt s.dev) (fun s e hg hs => ?_) es
      (lichtStart c) hguard ⟨rfl, off_brennt rfl⟩
    cases e with
    | frame f =>
        obtain ⟨hconfig, hbrennt⟩ := frame_brennt selfaddr f (hg f rfl) hs.2
        exact ⟨hconfig.trans hs.1, hbrennt⟩
    | tick =>
        obtain ⟨hconfig, hbrennt⟩ := tick_brennt selfaddr hs.2
        exact ⟨hconfig.trans hs.1, hbrennt⟩
  generalize run (lichtStep selfaddr) (lichtStart c) es = s at hinv
  obtain ⟨hconfig, hbrennt⟩ := hinv
  constructor
  · intro h
    -- without a delay no tick changes the zone, so it would have to be off already
    by_contra hno
    obtain ⟨hdelay, hext⟩ := not_or.mp hno
    have hdelay : s.dev.config.timerDelay = 0 := by rw [hconfig]; exact not_not.mp hdelay
    have hext : s.dev.state = .onExt := not_not.mp hext
    obtain ⟨-, haus⟩ := h (Or.inl hext)
    have hoff := (haus s.dev.timerCounter.toNat (Nat.le_refl _)).1
    rw [(run_ticks_steht selfaddr _ s (Or.inl hdelay)).1, hext] at hoff
    exact nomatch hoff
  · intro h
    exact hbrennt.gehtAus selfaddr (by rw [hconfig]; exact h)

end

/-! ## The extended mode without a delay -/

/-- A zone with a button group 1 and an action group 20. -/
private def flur (timerDelay : UInt8) : EdsLichtzoneBlock :=
  ⟨1, 255, 255, 255, 255, 255, 255, 255, timerDelay, 20, 255⟩

private def flurTaster : LichtEvent :=
  .frame
    { src := 900
      dst := hcanMulticastInfo
      proto := hcanProtoSfp
      size := 3
      data := payload [hcanSrvHes, hcanHesTasterDown, 1] }

private theorem flurTaster_only {es : List LichtEvent} (hes : ∀ e ∈ es, e = flurTaster)
    (f : CanixFrame) (hf : LichtEvent.frame f ∈ es) : f.byte 1 ≠ hcanHesPowerGroupSetTimer := by
  have heq : LichtEvent.frame f = flurTaster := hes _ hf
  obtain rfl := LichtEvent.frame.inj heq
  decide

/-- With a delay of five minutes a triple click is over after four hours. -/
theorem gehtAus_iff_fuenf :
    GehtAus 5 (run (lichtStep 5) (lichtStart (flur 5)) [flurTaster, flurTaster, flurTaster]) :=
  (gehtAus_iff 5 (flur 5) [flurTaster, flurTaster, flurTaster]
    (flurTaster_only (by decide))).mpr (Or.inl (by decide))

/-- Without a delay it is never over. -/
theorem gehtAus_nie :
    ¬ ∀ (selfaddr : UInt16) (c : EdsLichtzoneBlock) (es : List LichtEvent),
      (∀ f, LichtEvent.frame f ∈ es → f.byte 1 ≠ hcanHesPowerGroupSetTimer) →
        GehtAus selfaddr (run (lichtStep selfaddr) (lichtStart c) es) := by
  intro h
  have haus := h 5 (flur 0) [flurTaster, flurTaster, flurTaster] (flurTaster_only (by decide))
  have hext : (run (lichtStep 5) (lichtStart (flur 0))
      [flurTaster, flurTaster, flurTaster]).dev.state = .onExt := by decide
  obtain ⟨hoff, -⟩ := (haus (Or.inl hext)).2 _ (Nat.le_refl _)
  rw [(run_ticks_steht 5 _ _ (Or.inl (by decide))).1, hext] at hoff
  exact nomatch hoff

end OpenHcan.Lichtzone
