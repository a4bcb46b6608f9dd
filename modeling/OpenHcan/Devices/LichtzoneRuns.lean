import OpenHcan.Devices.Lichtzone

/-!
# LichtzoneRuns — stairway lights over frames and seconds

Informing the action groups leaves a zone as it is but for its timer
(`inform_bleibt`), although its own frames come back to it. From that every
branch of the frame handler says what it does to the state, the timer and the
clicks.
-/

namespace OpenHcan.Lichtzone

open Lib Powerport

set_option maxRecDepth 100000

/-! ## The machine -/

/-- A HES frame, or a call of the one-second timer handler. -/
inductive LichtEvent
  | frame (f : CanixFrame)
  | tick
deriving DecidableEq, Repr

def lichtStep (selfaddr : UInt16) (s : LichtzoneIO) : LichtEvent → LichtzoneIO
  | .frame f => lichtzoneCanCallback selfaddr f s
  | .tick => lichtzoneTimerHandler selfaddr s 1

/-- A zone after a start of the board: `devices_init` has cleared the memory. -/
def lichtStart (c : EdsLichtzoneBlock) : LichtzoneIO where
  dev := ⟨c, .off, 0, 0, 0⟩
  sent := []

/-- A button of one of the toggle groups of the zone. -/
def EigenerTaster (c : EdsLichtzoneBlock) (f : CanixFrame) : Prop :=
  f.byte 1 = hcanHesTasterDown ∧ f.byte 2 ∈ c.toggleGruppen

instance (c : EdsLichtzoneBlock) (f : CanixFrame) : Decidable (EigenerTaster c f) := by
  unfold EigenerTaster
  infer_instance

/-! ## The action groups are informed -/

/-- The zone stays as it is, but for its timer. -/
structure Bleibt (p q : DeviceDataLichtzone) : Prop where
  config : q.config = p.config
  state : q.state = p.state
  sec : q.extonSecCounter = p.extonSecCounter
  clicks : q.extonTasterDownCounter = p.extonTasterDownCounter
  timer : q.timerCounter = p.timerCounter ∨ p.state = .off ∧ q.timerCounter = 0 ∨
    p.state = .on ∧ q.timerCounter = p.config.ladewert

theorem Bleibt.refl (p : DeviceDataLichtzone) : Bleibt p p := ⟨rfl, rfl, rfl, rfl, Or.inl rfl⟩

theorem Bleibt.trans {p q r : DeviceDataLichtzone} (h : Bleibt p q) (h' : Bleibt q r) :
    Bleibt p r where
  config := h'.config.trans h.config
  state := h'.state.trans h.state
  sec := h'.sec.trans h.sec
  clicks := h'.clicks.trans h.clicks
  timer := by
    rcases h'.timer with heq | ⟨hoff, hzero⟩ | ⟨hon, hlade⟩
    · rw [heq]
      exact h.timer
    · exact Or.inr (Or.inl ⟨h.state ▸ hoff, hzero⟩)
    · exact Or.inr (Or.inr ⟨h.state ▸ hon, h.config ▸ hlade⟩)

/-- A frame that says what the zone knows changes at most its timer. -/
theorem powerGroupOn_bleibt (frame : CanixFrame) (p : DeviceDataLichtzone) (h : p.state ≠ .off) :
    Bleibt p (powerGroupOn frame p) := by
  have hgruppe (q : DeviceDataLichtzone) (hq : q.state ≠ .off) (g : UInt8) :
      Bleibt q (actionGruppeOn frame q g) := by
    unfold actionGruppeOn
    split
    · split
      · exact Bleibt.refl q
      · rename_i hext
        have hon : q.state = .on := by
          cases hs : q.state with
          | off => exact absurd hs hq
          | on => rfl
          | onExt => exact absurd hs hext
        unfold setupTimerIfDelay
        split
        · exact ⟨rfl, hon.symm, rfl, rfl, Or.inr (Or.inr ⟨hon, rfl⟩)⟩
        · exact ⟨rfl, hon.symm, rfl, rfl, Or.inl rfl⟩
    · exact Bleibt.refl q
  show Bleibt p (actionGruppeOn frame (actionGruppeOn frame p _) _)
  have hone := hgruppe p h p.config.actionGruppe0
  exact hone.trans (hgruppe _ (hone.state ▸ h) p.config.actionGruppe1)

theorem powerGroupOff_bleibt (frame : CanixFrame) (p : DeviceDataLichtzone) (h : p.state = .off) :
    Bleibt p (powerGroupOff frame p) := by
  unfold powerGroupOff
  split
  · exact ⟨rfl, h.symm, rfl, rfl, Or.inr (Or.inl ⟨h, rfl⟩)⟩
  · exact Bleibt.refl p

section

variable (selfaddr : UInt16) {s : LichtzoneIO}

theorem informFrame_byte_one (st : LichtzoneState) (g : UInt8) :
    (informFrame selfaddr st g).byte 1 =
      if st ≠ .off then hcanHesPowerGroupOn else hcanHesPowerGroupOff := by
  cases st with
  | off => rfl
  | on => rfl
  | onExt => rfl

theorem deliverOwn_bleibt (p : DeviceDataLichtzone) (g : UInt8) :
    Bleibt p (deliverOwn (informFrame selfaddr p.state g) p) := by
  unfold deliverOwn
  rw [informFrame_byte_one]
  by_cases hoff : p.state = .off
  · rw [if_neg (not_not_intro hoff), if_neg (by decide), if_pos rfl]
    exact powerGroupOff_bleibt _ p hoff
  · rw [if_pos hoff, if_pos rfl]
    exact powerGroupOn_bleibt _ p hoff

/-- The zone stays, and the groups `gs` have been sent its state. -/
structure Informiert (gs : List UInt8) (s t : LichtzoneIO) : Prop where
  bleibt : Bleibt s.dev t.dev
  sent : ∃ new, t.sent = s.sent ++ new ∧
    ∀ g ∈ gs, g ≠ 255 → informFrame selfaddr s.dev.state g ∈ new

theorem informActionGroup_spec (s : LichtzoneIO) (g : UInt8) :
    Informiert selfaddr [g] s (informActionGroup selfaddr s g) := by
  unfold informActionGroup
  split
  · refine ⟨deliverOwn_bleibt selfaddr s.dev g, [informFrame selfaddr s.dev.state g], rfl, ?_⟩
    intro g' hg' _
    rw [List.mem_singleton.mp hg']
    exact List.mem_singleton_self _
  · rename_i h255
    refine ⟨Bleibt.refl s.dev, [], (List.append_nil s.sent).symm, fun g' hg' hne => ?_⟩
    rw [List.mem_singleton.mp hg'] at hne
    exact absurd hne h255

/-- **Informing the action groups**: the zone stays as it is, but for its timer,
and every group has been sent the state. -/
theorem informActionGroups_spec (s : LichtzoneIO) :
    Informiert selfaddr s.dev.config.actionGruppen s (informActionGroups selfaddr s) := by
  unfold informActionGroups
  generalize s.dev.config.actionGruppen = gs
  induction gs generalizing s with
  | nil =>
      exact ⟨Bleibt.refl s.dev, [], (List.append_nil s.sent).symm, fun g hg => by simp at hg⟩
  | cons g gs ih =>
      obtain ⟨hbleibt, new, hsent, hnew⟩ := informActionGroup_spec selfaddr s g
      obtain ⟨hbleibt', new', hsent', hnew'⟩ := ih (informActionGroup selfaddr s g)
      refine ⟨hbleibt.trans hbleibt', new ++ new', ?_, fun g' hg' hne => ?_⟩
      · rw [← List.append_assoc, ← hsent]
        exact hsent'
      · rcases List.mem_cons.mp hg' with rfl | hg'
        · exact List.mem_append_left new' (hnew g' List.mem_cons_self hne)
        · apply List.mem_append_right new
          rw [← hbleibt.state]
          exact hnew' g' hg' hne

end

/-! ## The branches of the frame handler -/

/-- A light that is on, and is to go off, has a timer. -/
def Brennt (p : DeviceDataLichtzone) : Prop :=
  (p.state = .onExt → 0 < p.timerCounter) ∧
    (p.state = .on → 0 < p.config.ladewert → 0 < p.timerCounter)

/-- A change that does not begin the extended mode: it leaves the clicks alone or
forgets them, and the timer fits the state. -/
structure NormalSchritt (p q : DeviceDataLichtzone) : Prop where
  config : q.config = p.config
  clicks : q.extonSecCounter = p.extonSecCounter ∧
      q.extonTasterDownCounter = p.extonTasterDownCounter ∨
    q.extonSecCounter = 0 ∧ q.extonTasterDownCounter = 0
  onExt : q.state = .onExt → p.state = .onExt
  brennt : Brennt p → Brennt q

theorem NormalSchritt.refl (p : DeviceDataLichtzone) : NormalSchritt p p :=
  ⟨rfl, Or.inl ⟨rfl, rfl⟩, id, id⟩

theorem NormalSchritt.trans {p q r : DeviceDataLichtzone} (h : NormalSchritt p q)
    (h' : NormalSchritt q r) : NormalSchritt p r where
  config := h'.config.trans h.config
  clicks := by
    rcases h'.clicks with ⟨hsec, hclicks⟩ | hzero
    · rw [hsec, hclicks]
      exact h.clicks
    · exact Or.inr hzero
  onExt hr := h.onExt (h'.onExt hr)
  brennt hp := h'.brennt (h.brennt hp)

theorem Bleibt.brennt {p q : DeviceDataLichtzone} (h : Bleibt p q) (hp : Brennt p) : Brennt q := by
  constructor
  · intro hext
    rw [h.state] at hext
    rcases h.timer with heq | ⟨hoff, -⟩ | ⟨hon, -⟩
    · rw [heq]
      exact hp.1 hext
    · exact nomatch hext.symm.trans hoff
    · exact nomatch hext.symm.trans hon
  · intro hon hlade
    rw [h.state] at hon
    rw [h.config] at hlade
    rcases h.timer with heq | ⟨hoff, -⟩ | ⟨-, heq⟩
    · rw [heq]
      exact hp.2 hon hlade
    · exact nomatch hon.symm.trans hoff
    · rw [heq]
      exact hlade

theorem Bleibt.normal {p q : DeviceDataLichtzone} (h : Bleibt p q) : NormalSchritt p q :=
  ⟨h.config, Or.inl ⟨h.sec, h.clicks⟩, fun hext => h.state ▸ hext, h.brennt⟩

/-- A zone without a delay loads nothing. -/
theorem ladewert_of_delay {c : EdsLichtzoneBlock} (h : c.timerDelay = 0) : c.ladewert = 0 := by
  unfold EdsLichtzoneBlock.ladewert
  rw [h]
  rfl

theorem off_brennt {p : DeviceDataLichtzone} (h : p.state = .off) : Brennt p :=
  ⟨fun hext => (nomatch h.symm.trans hext), fun hon => (nomatch h.symm.trans hon)⟩

/-- The lights go on, with the timer of the zone. -/
theorem on_normal {p q : DeviceDataLichtzone} (hconfig : q.config = p.config)
    (hsec : q.extonSecCounter = p.extonSecCounter)
    (hclicks : q.extonTasterDownCounter = p.extonTasterDownCounter) (hstate : q.state = .on)
    (htimer : q.config.timerDelay = 0 ∨ q.timerCounter = q.config.ladewert) :
    NormalSchritt p q := by
  refine ⟨hconfig, Or.inl ⟨hsec, hclicks⟩, fun h => (nomatch hstate.symm.trans h), fun _ => ?_⟩
  refine ⟨fun h => (nomatch hstate.symm.trans h), fun _ hlade => ?_⟩
  rcases htimer with hdelay | htimer
  · rw [ladewert_of_delay hdelay] at hlade
    exact absurd hlade (by decide)
  · rw [htimer]
    exact hlade

/-- The lights go off. -/
theorem off_normal {p q : DeviceDataLichtzone} (hconfig : q.config = p.config)
    (hclicks : q.extonSecCounter = p.extonSecCounter ∧
        q.extonTasterDownCounter = p.extonTasterDownCounter ∨
      q.extonSecCounter = 0 ∧ q.extonTasterDownCounter = 0)
    (hstate : q.state = .off) : NormalSchritt p q :=
  ⟨hconfig, hclicks, fun h => (nomatch hstate.symm.trans h), fun _ => off_brennt hstate⟩

theorem stateOnMitTimer_normal (p : DeviceDataLichtzone) :
    NormalSchritt p (setupTimerIfDelay (stateTo .on p)) := by
  unfold setupTimerIfDelay
  split
  · exact on_normal rfl rfl rfl rfl (Or.inr rfl)
  · rename_i hdelay
    exact on_normal rfl rfl rfl rfl (Or.inl (not_not.mp hdelay))

theorem powerGroupOn_normal (frame : CanixFrame) (p : DeviceDataLichtzone) :
    NormalSchritt p (powerGroupOn frame p) := by
  have hgruppe (q : DeviceDataLichtzone) (g : UInt8) :
      NormalSchritt q (actionGruppeOn frame q g) := by
    unfold actionGruppeOn
    split
    · split
      · exact NormalSchritt.refl q
      · exact stateOnMitTimer_normal q
    · exact NormalSchritt.refl q
  exact (hgruppe p p.config.actionGruppe0).trans (hgruppe _ p.config.actionGruppe1)

theorem powerGroupOff_normal (frame : CanixFrame) (p : DeviceDataLichtzone) :
    NormalSchritt p (powerGroupOff frame p) := by
  unfold powerGroupOff
  split
  · exact off_normal rfl (Or.inl ⟨rfl, rfl⟩) rfl
  · exact NormalSchritt.refl p

section

variable (selfaddr : UInt16) (frame : CanixFrame) {s : LichtzoneIO}

/-- A change, and then the action groups are informed. -/
theorem inform_normal {p : DeviceDataLichtzone} (h : NormalSchritt p s.dev) :
    NormalSchritt p (informActionGroups selfaddr s).dev :=
  h.trans (informActionGroups_spec selfaddr s).bleibt.normal

theorem toggleNormal_normal (s : LichtzoneIO) :
    NormalSchritt s.dev (toggleNormal selfaddr s).dev := by
  unfold toggleNormal
  split
  · split
    · apply inform_normal
      exact on_normal rfl rfl rfl rfl (Or.inr rfl)
    · rename_i hon
      exact on_normal rfl rfl rfl hon (Or.inr rfl)
    · apply inform_normal
      exact off_normal rfl (Or.inr ⟨rfl, rfl⟩) rfl
  · rename_i hdelay
    split
    · apply inform_normal
      exact on_normal rfl rfl rfl rfl (Or.inl (not_not.mp hdelay))
    · apply inform_normal
      exact off_normal rfl (Or.inl ⟨rfl, rfl⟩) rfl
    · apply inform_normal
      exact off_normal rfl (Or.inl ⟨rfl, rfl⟩) rfl

/-- A loop whose every pass is a normal change. -/
theorem foldl_normal {f : LichtzoneIO → UInt8 → LichtzoneIO}
    (hf : ∀ s g, NormalSchritt s.dev (f s g).dev) (gs : List UInt8) :
    ∀ s : LichtzoneIO, NormalSchritt s.dev (gs.foldl f s).dev := by
  induction gs with
  | nil => intro s; exact NormalSchritt.refl s.dev
  | cons g gs ih => intro s; exact (hf s g).trans (ih (f s g))

theorem offUndOnGruppen_normal (s : LichtzoneIO) :
    NormalSchritt s.dev (offUndOnGruppen selfaddr frame s).dev := by
  have hoff (s : LichtzoneIO) (g : UInt8) :
      NormalSchritt s.dev (offGruppe selfaddr frame s g).dev := by
    unfold offGruppe
    split
    · apply inform_normal
      exact off_normal rfl (Or.inl ⟨rfl, rfl⟩) rfl
    · exact NormalSchritt.refl s.dev
  have hon (s : LichtzoneIO) (g : UInt8) :
      NormalSchritt s.dev (onGruppe selfaddr frame s g).dev := by
    unfold onGruppe
    split
    · apply inform_normal
      exact stateOnMitTimer_normal s.dev
    · exact NormalSchritt.refl s.dev
  exact (foldl_normal hoff _ s).trans (foldl_normal hon _ _)

/-- Three clicks that are still counted after a normal change were counted
before it. -/
theorem NormalSchritt.dreifachClick {p q : DeviceDataLichtzone} (h : NormalSchritt p q)
    (hq : dreifachClick q = true) : dreifachClick p = true := by
  unfold Lichtzone.dreifachClick at hq ⊢
  rcases h.clicks with ⟨hsec, hclicks⟩ | ⟨hsec, -⟩
  · rw [← hsec, ← hclicks]
    exact hq
  · rw [hsec] at hq
    simp at hq

/-- **The toggle groups**: the extended mode begins, with three clicks and a
matching group, or all of them make normal changes. -/
theorem toggleGruppen_spec (gs : List UInt8) :
    ∀ s : LichtzoneIO,
      (∃ t, gs.foldlM (toggleGruppe selfaddr frame) s = .ok t ∧ NormalSchritt s.dev t.dev) ∨
      ∃ u t, gs.foldlM (toggleGruppe selfaddr frame) s = .error t ∧ NormalSchritt s.dev u ∧
        dreifachClick u = true ∧ frame.byte 2 ∈ gs ∧ Bleibt (extOn u) t.dev := by
  induction gs with
  | nil =>
      intro s
      exact Or.inl ⟨s, rfl, NormalSchritt.refl s.dev⟩
  | cons g gs ih =>
      intro s
      rw [List.foldlM_cons]
      unfold toggleGruppe
      split
      · rename_i hg
        split
        · rename_i hdreifach
          refine Or.inr ⟨s.dev, _, rfl, NormalSchritt.refl s.dev, hdreifach, ?_, ?_⟩
          · rw [hg]
            exact List.mem_cons_self
          · exact (informActionGroups_spec selfaddr (s.update extOn)).bleibt
        · have hone := toggleNormal_normal selfaddr s
          rcases ih (toggleNormal selfaddr s) with ⟨t, ht, hnormal⟩ | ⟨u, t, ht, hnormal, hrest⟩
          · exact Or.inl ⟨t, ht, hone.trans hnormal⟩
          · refine Or.inr ⟨u, t, ht, hone.trans hnormal, hrest.1, ?_, hrest.2.2⟩
            exact List.mem_cons_of_mem g hrest.2.1
      · rcases ih s with ⟨t, ht, hnormal⟩ | ⟨u, t, ht, hnormal, hrest⟩
        · exact Or.inl ⟨t, ht, hnormal⟩
        · exact Or.inr ⟨u, t, ht, hnormal, hrest.1, List.mem_cons_of_mem g hrest.2.1, hrest.2.2⟩

/-- **A button**: it counts, and then either the extended mode begins or all that
happens are normal changes. -/
theorem tasterDown_spec (s : LichtzoneIO) :
    NormalSchritt (tasterZaehlen s.dev) (tasterDown selfaddr frame s).dev ∨
      ∃ u, NormalSchritt (tasterZaehlen s.dev) u ∧ dreifachClick u = true ∧
        frame.byte 2 ∈ s.dev.config.toggleGruppen ∧
        Bleibt (extOn u) (tasterDown selfaddr frame s).dev := by
  unfold tasterDown
  dsimp only
  have hspec := toggleGruppen_spec selfaddr frame s.dev.config.toggleGruppen
    (s.update tasterZaehlen)
  rcases hspec with ⟨t, ht, hnormal⟩ | ⟨u, t, ht, hnormal, hdreifach, hmem, hbleibt⟩
  · left
    have ht' : (s.update tasterZaehlen).dev.config.toggleGruppen.foldlM
      (toggleGruppe selfaddr frame) (s.update tasterZaehlen) = .ok t := ht
    rw [ht']
    exact hnormal.trans (offUndOnGruppen_normal selfaddr frame t)
  · right
    have ht' : (s.update tasterZaehlen).dev.config.toggleGruppen.foldlM
      (toggleGruppe selfaddr frame) (s.update tasterZaehlen) = .error t := ht
    rw [ht']
    exact ⟨u, hnormal, hdreifach, hmem, hbleibt⟩

/-- The timer of a zone is counted down, and the lights go off at its end. -/
theorem timerTick_normal (s : LichtzoneIO) : NormalSchritt s.dev (timerTick selfaddr s).dev := by
  unfold timerTick
  split
  · rename_i hlaeuft
    dsimp only
    split
    · apply inform_normal
      exact off_normal rfl (Or.inl ⟨rfl, rfl⟩) rfl
    · rename_i hrest
      have hrest : s.dev.timerCounter - 1 ≠ 0 := hrest
      have hpos : 0 < s.dev.timerCounter - 1 := UInt16.pos_iff_ne_zero.mpr hrest
      exact ⟨rfl, Or.inl ⟨rfl, rfl⟩, id, fun _ => ⟨fun _ => hpos, fun _ _ => hpos⟩⟩
  · exact NormalSchritt.refl s.dev

/-- Counting the seconds of a window leaves the lights alone. -/
theorem clickTick_frame (p : DeviceDataLichtzone) : (clickTick p).config = p.config ∧
    (clickTick p).state = p.state ∧ (clickTick p).timerCounter = p.timerCounter := by
  unfold clickTick
  generalize (if p.extonSecCounter ≥ 1 then p.extonSecCounter + 1 else p.extonSecCounter) = sec
  dsimp only
  split
  · exact ⟨rfl, rfl, rfl⟩
  · exact ⟨rfl, rfl, rfl⟩

/-- The frames that are no buttons. -/
theorem canCallback_other (hdown : frame.byte 1 ≠ hcanHesTasterDown)
    (hset : frame.byte 1 ≠ hcanHesPowerGroupSetTimer) (s : LichtzoneIO) :
    NormalSchritt s.dev (lichtzoneCanCallback selfaddr frame s).dev := by
  unfold lichtzoneCanCallback
  dsimp only
  rw [if_neg hdown]
  split
  · exact powerGroupOn_normal frame s.dev
  · split
    · exact powerGroupOff_normal frame s.dev
    · split
      · split
        · exact NormalSchritt.refl s.dev
        · exact NormalSchritt.refl s.dev
      · exact NormalSchritt.refl s.dev

theorem canCallback_taster (hdown : frame.byte 1 = hcanHesTasterDown) (s : LichtzoneIO) :
    lichtzoneCanCallback selfaddr frame s = tasterDown selfaddr frame s := by
  unfold lichtzoneCanCallback
  dsimp only
  rw [if_pos hdown]

/-- A timer that is set leaves state and clicks alone. -/
theorem canCallback_setTimer (hset : frame.byte 1 = hcanHesPowerGroupSetTimer) (s : LichtzoneIO) :
    (lichtzoneCanCallback selfaddr frame s).dev.config = s.dev.config ∧
      (lichtzoneCanCallback selfaddr frame s).dev.state = s.dev.state ∧
      (lichtzoneCanCallback selfaddr frame s).dev.extonSecCounter = s.dev.extonSecCounter ∧
      (lichtzoneCanCallback selfaddr frame s).dev.extonTasterDownCounter =
        s.dev.extonTasterDownCounter := by
  unfold lichtzoneCanCallback
  dsimp only
  rw [hset, if_neg (by decide), if_neg (by decide), if_neg (by decide), if_neg (by decide),
    if_pos rfl]
  split
  · exact ⟨rfl, rfl, rfl, rfl⟩
  · exact ⟨rfl, rfl, rfl, rfl⟩

end

end OpenHcan.Lichtzone
