import OpenHcan.Userpanel.Monitore

/-!
# MonitoreRuns — what the panel counts

A run of the panel beside its past. The latest report of a group since the last
`BOARD_ACTIVE` is read off the past, and each count is compared with the configured
entries whose latest report is on.
-/

namespace OpenHcan.Userpanel

open Lib Schalter

set_option maxRecDepth 100000

/-! ## The statement -/

section

variable (selfaddr : UInt16) (listen : Listen)

/-- The latest report of the group `g` to the monitor `m` since the last
`BOARD_ACTIVE`, from the past, the newest event first. -/
def letzteMeldung (m : Monitor) (g : UInt8) : List PanelEvent → Option UInt8
  | [] => none
  | .frame f :: past =>
      if ¬ FuerPanel selfaddr f then letzteMeldung m g past
      else if f.byte 1 = hcanHesBoardActive then none
      else
        match m.meldung f with
        | some (gruppe, state) => if gruppe = g then some state else letzteMeldung m g past
        | none => letzteMeldung m g past
  | .wake :: past => letzteMeldung m g past
  | .pause :: past => letzteMeldung m g past

/-- The group of a slot that is in use. -/
def eintrag (m : Monitor) (i : Fin 24) : Option UInt8 :=
  (listen m).bind fun c => if c i = 255 then none else some (c i)

/-- The slot is in use and the latest report of its group is on. -/
def gemeldet (past : List PanelEvent) (m : Monitor) (i : Fin 24) : Bool :=
  (eintrag listen m i).any fun g => (letzteMeldung selfaddr m g past).any fun s => decide (Ein s)

/-- The number of configured entries whose latest report is on. -/
def anzahl (past : List PanelEvent) (m : Monitor) : Nat :=
  (List.finRange 24).countP (gemeldet selfaddr listen past m)

/-- The four counts are right. -/
structure Zaehlt (getIgnore : UInt8 → UInt8)
    (c : Paused Monitore PanelPlace × List PanelEvent) : Prop where
  lampen : (getCountLampenStates c.1.state).toNat = anzahl selfaddr listen c.2 .lampen
  sonstige : (getCountSonstigeStates getIgnore 0 c.1.state).toNat =
    anzahl selfaddr listen c.2 .sonstige
  reedkontakt : (getCountReedkontaktStates c.1.state).toNat =
    anzahl selfaddr listen c.2 .reedkontakt
  mute : (getCountMuteStates c.1.state).toNat = anzahl selfaddr listen c.2 .mute

/-- Of the callbacks `ms`, those that clear their array before one of them sleeps. -/
def geloescht (running : Bool) : List Monitor → List Monitor
  | [] => []
  | m :: ms =>
      match m.frage, listen m with
      | none, _ => m :: geloescht running ms
      | some _, none => geloescht running ms
      | some _, some c =>
          if running = false ∧ ∃ i, c i ≠ 255 then [m] else m :: geloescht running ms

/-- No slot of the monitor is on. -/
def AllesAus (z : Monitore) (m : Monitor) : Prop := ∀ i, ¬ Ein ((z.monitor m).state i)

/-- No state gets lost or into a slot without a group: a report of group 255 that is
on finds no unused slot, and a monitor has nothing to forget when it is cleared
later than the `BOARD_ACTIVE` arrives. -/
def Unverfaelscht (c : Paused Monitore PanelPlace × List PanelEvent) : PanelEvent → Prop
  | .frame f =>
      FuerPanel selfaddr f →
        if f.byte 1 = hcanHesBoardActive then
          ∀ m, m ≠ .heiz → m ∉ geloescht listen c.1.place.isSome alleMonitore →
            AllesAus c.1.state m
        else
          ∀ m s, m ≠ .heiz → m.meldung f = some (255, s) → Ein s →
            ∀ l, listen m = some l → ∀ i, l i ≠ 255
  | .wake =>
      ∀ typ gs ms f, c.1.place = some (.fragt typ gs ms f) → (∀ g ∈ gs, g = 255) →
        ∀ m, m ≠ .heiz → m ∈ geloescht listen false ms → AllesAus c.1.state m
  | .pause => True

end

/-! ## Counting -/

/-- The loop counts, and its byte does not overflow. -/
theorem toNat_zaehlen (p : Fin 24 → Bool) (l : List (Fin 24)) (n : UInt8)
    (h : n.toNat + l.length < 256) :
    (l.foldl (fun n i => if p i then n + 1 else n) n).toNat = n.toNat + l.countP p := by
  induction l generalizing n with
  | nil => rfl
  | cons i l ih =>
      rw [List.length_cons] at h
      have hone : (1 : UInt8).toNat = 1 := rfl
      rw [List.foldl_cons]
      cases hp : p i with
      | false =>
          rw [List.countP_cons_of_neg (by simp [hp]), if_neg (by simp)]
          exact ih n (by omega)
      | true =>
          have hadd : (n + 1).toNat = n.toNat + 1 := by
            rw [UInt8.toNat_add, hone]
            omega
          rw [List.countP_cons_of_pos (by simp [hp]), if_pos rfl, ih (n + 1) (by omega), hadd]
          omega

theorem toNat_getCountStates (zaehlt : Fin 24 → Bool) (state : Feld) :
    (getCountStates zaehlt state).toNat =
      (List.finRange 24).countP fun i => decide (Ein (state i)) && zaehlt i := by
  have hcount := toNat_zaehlen (fun i => decide (Ein (state i)) && zaehlt i) (List.finRange 24) 0
    (by simp)
  simp only [Bool.and_eq_true, decide_eq_true_eq] at hcount
  rw [getCountStates, hcount]
  exact Nat.zero_add _

/-- A count that is not smaller misses nothing. -/
theorem imp_of_countP_eq {α : Type*} {p q : α → Bool} {l : List α} (hsub : ∀ i ∈ l, q i → p i)
    (hcount : l.countP p = l.countP q) : ∀ i ∈ l, p i → q i := by
  induction l with
  | nil => intro i hi; simp at hi
  | cons a l ih =>
      have htail : ∀ i ∈ l, q i → p i := fun i hi => hsub i (List.mem_cons_of_mem a hi)
      have hle : l.countP q ≤ l.countP p := List.countP_mono_left htail
      have hhead := hsub a List.mem_cons_self
      rw [List.countP_cons, List.countP_cons] at hcount
      by_cases hqa : q a
      · rw [if_pos hqa, if_pos (hhead hqa)] at hcount
        intro i hi hpi
        rcases List.mem_cons.mp hi with rfl | hi
        · exact hqa
        · exact ih htail (by omega) i hi hpi
      · rw [if_neg hqa] at hcount
        by_cases hpa : p a
        · rw [if_pos hpa] at hcount
          omega
        · rw [if_neg hpa] at hcount
          intro i hi hpi
          rcases List.mem_cons.mp hi with rfl | hi
          · exact absurd hpi hpa
          · exact ih htail (by omega) i hi hpi

/-- The counts are right if for each monitor the slots that are on are as many as its
entries whose latest report is on. -/
theorem zaehlt_iff (selfaddr : UInt16) (listen : Listen) (getIgnore : UInt8 → UInt8)
    (c : Paused Monitore PanelPlace × List PanelEvent) :
    Zaehlt selfaddr listen getIgnore c ↔
      ∀ m, m ≠ .heiz →
        ((List.finRange 24).countP fun i => decide (Ein ((c.1.state.monitor m).state i))) =
          anzahl selfaddr listen c.2 m := by
  have hsonstige : getCountSonstigeStates getIgnore 0 c.1.state =
      getCountStates (fun _ => true) (c.1.state.monitor .sonstige).state := by
    simp [getCountSonstigeStates]
  constructor
  · rintro ⟨hlampen, hsonst, hreed, hmute⟩ m hm
    rw [hsonstige, toNat_getCountStates] at hsonst
    rw [getCountLampenStates, toNat_getCountStates] at hlampen
    rw [getCountReedkontaktStates, toNat_getCountStates] at hreed
    rw [getCountMuteStates, toNat_getCountStates] at hmute
    simp only [Bool.and_true] at hlampen hsonst hreed hmute
    cases m with
    | heiz => exact absurd rfl hm
    | reedkontakt => exact hreed
    | lampen => exact hlampen
    | sonstige => exact hsonst
    | mute => exact hmute
  · intro h
    constructor
    · rw [getCountLampenStates, toNat_getCountStates]
      simpa using h .lampen (by decide)
    · rw [hsonstige, toNat_getCountStates]
      simpa using h .sonstige (by decide)
    · rw [getCountReedkontaktStates, toNat_getCountStates]
      simpa using h .reedkontakt (by decide)
    · rw [getCountMuteStates, toNat_getCountStates]
      simpa using h .mute (by decide)

/-! ## The callbacks -/

section

variable (selfaddr : UInt16) (running : Bool) {listen : Listen} {f : CanixFrame} {m m' : Monitor}
  {z : Monitore}

@[simp] theorem setState_self (z : Monitore) (m : Monitor) (s : Feld) :
    (z.setState m s).monitor m = ⟨(z.monitor m).configured, s⟩ := by
  simp [Monitore.setState]

@[simp] theorem setConfigured_self (z : Monitore) (m : Monitor) (b : Bool) :
    (z.setConfigured m b).monitor m = ⟨b, (z.monitor m).state⟩ := by
  simp [Monitore.setConfigured]

theorem setState_of_ne (h : m' ≠ m) (s : Feld) : (z.setState m s).monitor m' = z.monitor m' := by
  simp [Monitore.setState, h]

theorem setConfigured_of_ne (h : m' ≠ m) (b : Bool) :
    (z.setConfigured m b).monitor m' = z.monitor m' := by
  simp [Monitore.setConfigured, h]

/-- Asking changes no array. -/
theorem fragen_monitor (typ : UInt8) (gs : List UInt8) (z : Monitore) :
    (fragen selfaddr typ running gs z).1.monitor = z.monitor := by
  induction gs generalizing z with
  | nil => rfl
  | cons g gs ih =>
      rw [fragen]
      split_ifs
      · exact ih _
      · rfl
      · exact ih z

/-- The loop sleeps as soon as a group is left, unless another handler sleeps. -/
theorem fragen_schlaeft (typ : UInt8) (gs : List UInt8) (z : Monitore) :
    (fragen selfaddr typ running gs z).2 = none ↔ running = true ∨ ∀ g ∈ gs, g = 255 := by
  induction gs generalizing z with
  | nil => simp [fragen]
  | cons g gs ih =>
      rw [fragen]
      by_cases hg : g = 255
      · simp [hg, ih]
      · cases running with
        | true => simp [hg, ih]
        | false => simp [hg]

/-- The flags: a module that has its block, or needs none, is active. -/
def Konf (listen : Listen) (z : Monitore) : Prop :=
  ∀ m, m.frage = none ∨ listen m ≠ none → (z.monitor m).configured = true

/-- The array of a monitor after a frame that is not `BOARD_ACTIVE`. -/
def nachMeldung (listen : Listen) (m : Monitor) (f : CanixFrame) (st : MonitorState) : Feld :=
  if st.configured = false then st.state
  else
    match m.meldung f, listen m with
    | some (gruppe, state), some c => fun i => if gruppe = c i then state else st.state i
    | _, _ => st.state

theorem callback_meldung (listen : Listen) (hf : f.byte 1 ≠ hcanHesBoardActive) (m : Monitor)
    (z : Monitore) :
    (monitorCanCallback selfaddr listen running f m z).2 = none ∧
      (monitorCanCallback selfaddr listen running f m z).1.monitor =
        Function.update z.monitor m
          ⟨(z.monitor m).configured, nachMeldung listen m f (z.monitor m)⟩ := by
  have hsame : Function.update z.monitor m ⟨(z.monitor m).configured, (z.monitor m).state⟩ =
      z.monitor := Function.update_eq_self m z.monitor
  rw [monitorCanCallback, nachMeldung]
  by_cases hconf : (z.monitor m).configured = false
  · simp only [if_pos hconf]
    exact ⟨trivial, hsame.symm⟩
  · simp only [if_neg hconf, if_neg hf]
    cases hmeldung : m.meldung f with
    | none => exact ⟨rfl, hsame.symm⟩
    | some gs =>
        obtain ⟨gruppe, state⟩ := gs
        simp only [monitorInsertState]
        cases hlist : listen m with
        | none => exact ⟨trivial, hsame.symm⟩
        | some c => exact ⟨trivial, rfl⟩

/-- A frame that is not `BOARD_ACTIVE` puts nobody to sleep, and each monitor looks at
its own array. -/
theorem callbacks_meldung (listen : Listen) (hf : f.byte 1 ≠ hcanHesBoardActive)
    (ms : List Monitor) (hnodup : ms.Nodup) (z : Monitore) :
    (callbacks selfaddr listen running f ms z).2 = none ∧
      ∀ m, (callbacks selfaddr listen running f ms z).1.monitor m =
        if m ∈ ms then ⟨(z.monitor m).configured, nachMeldung listen m f (z.monitor m)⟩
        else z.monitor m := by
  induction ms generalizing z with
  | nil => exact ⟨rfl, fun m => rfl⟩
  | cons a ms ih =>
      obtain ⟨hnot, htail⟩ := List.nodup_cons.mp hnodup
      obtain ⟨hplace, hmonitor⟩ := callback_meldung selfaddr running listen hf a z
      rw [callbacks]
      generalize monitorCanCallback selfaddr listen running f a z = r at hplace hmonitor
      obtain ⟨z', place⟩ := r
      subst hplace
      obtain ⟨hnone, hrest⟩ := ih htail z'
      refine ⟨hnone, fun m => ?_⟩
      rw [show z'.monitor = _ from hmonitor] at hrest
      rw [hrest m]
      by_cases hm : m = a
      · subst hm
        rw [if_neg hnot, if_pos List.mem_cons_self, Function.update_self]
      · simp [hm]

theorem Konf.setState (h : Konf listen z) (m : Monitor) (s : Feld) :
    Konf listen (z.setState m s) := by
  intro m' hm'
  by_cases heq : m' = m
  · subst heq
    rw [setState_self]
    exact h m' hm'
  · rw [setState_of_ne heq]
    exact h m' hm'

theorem Konf.congr {z' : Monitore} (h : Konf listen z) (heq : z'.monitor = z.monitor) :
    Konf listen z' := by
  intro m hm
  rw [heq]
  exact h m hm

/-- A flag is only taken from a module whose block is missing. -/
theorem Konf.setConfigured (h : Konf listen z) {typ : UInt8} (hfrage : m.frage = some typ)
    (hnone : listen m = none) : Konf listen (z.setConfigured m false) := by
  intro m' hm'
  by_cases heq : m' = m
  · subst heq
    simp [hfrage, hnone] at hm'
  · rw [setConfigured_of_ne heq]
    exact h m' hm'

/-! `BOARD_ACTIVE` for one monitor: one that does not ask, one whose block is missing,
and one that asks. -/

theorem callback_stumm (hf : f.byte 1 = hcanHesBoardActive) (hkonf : Konf listen z)
    (hfrage : m.frage = none) :
    monitorCanCallback selfaddr listen running f m z = (z.setState m fun _ => 255, none) := by
  have hconf := hkonf m (.inl hfrage)
  rw [monitorCanCallback, if_neg (by simp [hconf]), if_pos hf, hfrage]

theorem callback_fehlt (hf : f.byte 1 = hcanHesBoardActive) (hkonf : Konf listen z)
    {typ : UInt8} (hfrage : m.frage = some typ) (hnone : listen m = none) :
    ∃ z', monitorCanCallback selfaddr listen running f m z = (z', none) ∧ Konf listen z' ∧
      ∀ m', (z'.monitor m').state = (z.monitor m').state := by
  rw [monitorCanCallback]
  split_ifs with hconf
  · exact ⟨z, rfl, hkonf, fun m' => rfl⟩
  · refine ⟨z.setConfigured m false, ?_, hkonf.setConfigured hfrage hnone, fun m' => ?_⟩
    · simp only [hfrage, initMonitorRequestStates, hnone]
    · by_cases heq : m' = m
      · rw [heq, setConfigured_self]
      · rw [setConfigured_of_ne heq]

theorem callback_fragt (hf : f.byte 1 = hcanHesBoardActive) (hkonf : Konf listen z)
    {typ : UInt8} {c : Feld} (hfrage : m.frage = some typ) (hc : listen m = some c) :
    (monitorCanCallback selfaddr listen running f m z).1.monitor =
        (z.setState m fun _ => 255).monitor ∧
      ((monitorCanCallback selfaddr listen running f m z).2 = none ↔
        ¬ (running = false ∧ ∃ i, c i ≠ 255)) := by
  have hconf := hkonf m (.inr (by simp [hc]))
  have heq : monitorCanCallback selfaddr listen running f m z =
      fragen selfaddr typ running (List.ofFn c) (z.setState m fun _ => 255) := by
    rw [monitorCanCallback, if_neg (by simp [hconf]), if_pos hf, hfrage]
    simp only [initMonitorRequestStates, hc]
  have hall : (∀ g ∈ List.ofFn c, g = 255) ↔ ¬ ∃ i, c i ≠ 255 := by
    simp only [List.mem_ofFn, forall_exists_index, forall_apply_eq_imp_iff, not_exists, not_not]
  rw [heq, fragen_monitor, fragen_schlaeft, hall]
  refine ⟨rfl, ?_⟩
  cases running <;> simp

/-- One array is cleared, then those of `rest`. -/
theorem geleert_cons {z' : Monitore} (h : z'.monitor = (z.setState m fun _ => 255).monitor)
    (rest : List Monitor) (m' : Monitor) :
    (if m' ∈ rest then fun _ => 255 else (z'.monitor m').state) =
      if m' ∈ m :: rest then fun _ => 255 else (z.monitor m').state := by
  rw [h]
  by_cases heq : m' = m
  · subst heq
    rw [setState_self, if_pos List.mem_cons_self, ite_self]
  · rw [setState_of_ne heq]
    simp [heq]

/-- **`BOARD_ACTIVE`**: the monitors up to the first sleep are cleared, the others keep
their array. -/
theorem callbacks_boardActive (hf : f.byte 1 = hcanHesBoardActive) (ms : List Monitor)
    (hkonf : Konf listen z) :
    Konf listen (callbacks selfaddr listen running f ms z).1 ∧
      ∀ m, ((callbacks selfaddr listen running f ms z).1.monitor m).state =
        if m ∈ geloescht listen running ms then fun _ => 255 else (z.monitor m).state := by
  induction ms generalizing z with
  | nil => exact ⟨hkonf, fun m => rfl⟩
  | cons a ms ih =>
      rw [callbacks, geloescht]
      cases hfrage : a.frage with
      | none =>
          rw [callback_stumm selfaddr running hf hkonf hfrage]
          obtain ⟨hkonf', hstate⟩ := ih (hkonf.setState a _)
          exact ⟨hkonf', fun m => (hstate m).trans (geleert_cons rfl _ m)⟩
      | some typ =>
          cases hlist : listen a with
          | none =>
              obtain ⟨z', hz', hkonf', hsame⟩ := callback_fehlt selfaddr running hf hkonf
                hfrage hlist
              rw [hz']
              obtain ⟨hkonf'', hstate⟩ := ih hkonf'
              refine ⟨hkonf'', fun m => ?_⟩
              simp only [hstate, hsame]
          | some c =>
              obtain ⟨hmonitor, hplace⟩ := callback_fragt selfaddr running hf hkonf hfrage hlist
              generalize monitorCanCallback selfaddr listen running f a z = r at hmonitor hplace
              obtain ⟨z', place⟩ := r
              have hkonf' : Konf listen z' := (hkonf.setState a _).congr hmonitor
              cases place with
              | none =>
                  obtain ⟨hkonf'', hstate⟩ := ih hkonf'
                  simp only [if_neg (hplace.mp rfl)]
                  exact ⟨hkonf'', fun m => (hstate m).trans (geleert_cons hmonitor _ m)⟩
              | some gs =>
                  have hsleep : running = false ∧ ∃ i, c i ≠ 255 := by
                    by_contra hnot
                    exact absurd (hplace.mpr hnot) (by simp)
                  simp only [if_pos hsleep]
                  exact ⟨hkonf', fun m => by simpa using geleert_cons hmonitor [] m⟩

/-- The place keeps the frame the callbacks are called with. -/
theorem callbacks_place {selfaddr : UInt16} {running : Bool} {ms ms' : List Monitor}
    {typ : UInt8} {gs : List UInt8} {f' : CanixFrame}
    (h : (callbacks selfaddr listen running f ms z).2 = some (.fragt typ gs ms' f')) : f' = f := by
  induction ms generalizing z with
  | nil => simp [callbacks] at h
  | cons a ms ih =>
      rw [callbacks] at h
      generalize monitorCanCallback selfaddr listen running f a z = r at h
      obtain ⟨z', _ | gs'⟩ := r
      · exact ih h
      · cases h
        rfl

end

/-! ## One step -/

section

variable {selfaddr : UInt16} {listen : Listen} {c : Paused Monitore PanelPlace}
  {past : List PanelEvent} {f : CanixFrame} {m : Monitor} {i : Fin 24}

/-- The arrays against the past. -/
structure Stimmt (selfaddr : UInt16) (listen : Listen)
    (c : Paused Monitore PanelPlace × List PanelEvent) : Prop where
  slot : ∀ m, m ≠ .heiz → ∀ i,
    Ein ((c.1.state.monitor m).state i) ↔ gemeldet selfaddr listen c.2 m i = true
  konf : Konf listen c.1.state
  place : ∀ typ gs ms f, c.1.place = some (.fragt typ gs ms f) → f.byte 1 = hcanHesBoardActive

theorem Stimmt.zaehlt (h : Stimmt selfaddr listen (c, past)) (getIgnore : UInt8 → UInt8) :
    Zaehlt selfaddr listen getIgnore (c, past) := by
  rw [zaehlt_iff]
  intro m hm
  rw [anzahl]
  congr 1
  funext i
  rw [Bool.eq_iff_iff, decide_eq_true_iff]
  exact h.slot m hm i

theorem stimmt_start (selfaddr : UInt16) (listen : Listen) :
    Stimmt selfaddr listen (panelStart, []) where
  slot m _ i := by
    have haus : ¬ Ein ((panelStart.state.monitor m).state i) := fun h => h.1 rfl
    refine iff_of_false haus ?_
    simp [gemeldet, letzteMeldung]
  konf _ _ := rfl
  place _ _ _ _ h := by simp [panelStart] at h

/-- After `BOARD_ACTIVE` there is no report. -/
theorem gemeldet_boardActive (hp : FuerPanel selfaddr f) (hf : f.byte 1 = hcanHesBoardActive)
    (past : List PanelEvent) (m : Monitor) (i : Fin 24) :
    gemeldet selfaddr listen (.frame f :: past) m i = false := by
  simp [gemeldet, letzteMeldung, hp, hf]

/-- What the panel does not listen to is no report. -/
theorem gemeldet_fremd (hp : ¬ FuerPanel selfaddr f) (past : List PanelEvent) (m : Monitor)
    (i : Fin 24) :
    gemeldet selfaddr listen (.frame f :: past) m i = gemeldet selfaddr listen past m i := by
  simp [gemeldet, letzteMeldung, hp]

theorem gemeldet_of_unused {l : Feld} (hl : listen m = some l) (hi : l i = 255) :
    gemeldet selfaddr listen past m i = false := by
  simp [gemeldet, eintrag, hl, hi]

/-- A slot in use follows the reports of its group. -/
theorem meldung_slot (hp : FuerPanel selfaddr f) (hf : f.byte 1 ≠ hcanHesBoardActive)
    (h : Stimmt selfaddr listen (c, past)) (hm : m ≠ .heiz) {l : Feld} (hl : listen m = some l)
    (hi : l i ≠ 255) :
    Ein (nachMeldung listen m f (c.state.monitor m) i) ↔
      gemeldet selfaddr listen (.frame f :: past) m i = true := by
  have hconf : (c.state.monitor m).configured = true := h.konf m (.inr (by simp [hl]))
  have hslot := h.slot m hm i
  simp only [gemeldet, eintrag, hl, Option.bind_some, if_neg hi, Option.any_some] at hslot ⊢
  rw [nachMeldung, if_neg (by simp [hconf]), letzteMeldung, if_neg (not_not_intro hp), if_neg hf]
  cases hmeldung : m.meldung f with
  | none => exact hslot
  | some gs =>
      obtain ⟨gruppe, s⟩ := gs
      simp only [hl]
      by_cases hg : gruppe = l i
      · simp [hg]
      · simp only [if_neg hg]
        exact hslot

/-- A report of a group other than 255, or one that is not on, stays out of the unused
slots. -/
theorem meldung_unused (hf : ∀ s, m.meldung f = some (255, s) → ¬ Ein s)
    (h : Stimmt selfaddr listen (c, past)) (hm : m ≠ .heiz) {l : Feld} (hl : listen m = some l)
    (hi : l i = 255) : ¬ Ein (nachMeldung listen m f (c.state.monitor m) i) := by
  have hconf : (c.state.monitor m).configured = true := h.konf m (.inr (by simp [hl]))
  have hslot : ¬ Ein ((c.state.monitor m).state i) := by
    rw [h.slot m hm i, gemeldet_of_unused hl hi]
    exact Bool.false_ne_true
  rw [nachMeldung, if_neg (by simp [hconf])]
  cases hmeldung : m.meldung f with
  | none => exact hslot
  | some gs =>
      obtain ⟨gruppe, s⟩ := gs
      simp only [hl, hi]
      split_ifs with hg
      · subst hg
        exact hf s hmeldung
      · exact hslot

theorem mem_alleMonitore (m : Monitor) : m ∈ alleMonitore := by cases m <;> decide

/-- The state after a frame. -/
theorem frame_fremd (hp : ¬ FuerPanel selfaddr f) (c : Paused Monitore PanelPlace) :
    (panelStep selfaddr listen c (.frame f)) = c := by
  obtain ⟨z, _ | p⟩ := c
  · simp [panelStep, hauselektrikCallback, hp]
  · simp [panelStep, hauselektrikCallback, hp]

theorem frame_state (hp : FuerPanel selfaddr f) (c : Paused Monitore PanelPlace) :
    (panelStep selfaddr listen c (.frame f)).state =
      (callbacks selfaddr listen c.place.isSome f alleMonitore c.state).1 := by
  simp [panelStep, hauselektrikCallback, hp]

theorem frame_place (h : Stimmt selfaddr listen (c, past)) {typ : UInt8} {gs : List UInt8}
    {ms : List Monitor} {f' : CanixFrame}
    (hplace : (panelStep selfaddr listen c (.frame f)).place = some (.fragt typ gs ms f')) :
    f'.byte 1 = hcanHesBoardActive := by
  by_cases hp : FuerPanel selfaddr f
  · rcases Paused.handle_place hplace with hold | ⟨-, hnew⟩
    · exact h.place typ gs ms f' hold
    · simp only [hauselektrikCallback, if_pos hp] at hnew
      rw [callbacks_place hnew]
      by_contra hf
      rw [(callbacks_meldung selfaddr false listen hf alleMonitore (by decide) c.state).1] at hnew
      cases hnew
  · rw [frame_fremd hp] at hplace
    exact h.place typ gs ms f' hplace

theorem stimmt_frame (h : Stimmt selfaddr listen (c, past))
    (hg : Unverfaelscht selfaddr listen (c, past) (.frame f)) :
    Stimmt selfaddr listen (panelStep selfaddr listen c (.frame f), .frame f :: past) := by
  by_cases hp : FuerPanel selfaddr f
  · have hguard := hg hp
    by_cases hf : f.byte 1 = hcanHesBoardActive
    · rw [if_pos hf] at hguard
      obtain ⟨hkonf, hstate⟩ := callbacks_boardActive selfaddr c.place.isSome hf
        alleMonitore h.konf
      refine ⟨fun m hm i => ?_, ?_, fun typ gs ms f' hplace => frame_place h hplace⟩
      · rw [gemeldet_boardActive hp hf, frame_state hp, hstate m]
        refine iff_of_false ?_ Bool.false_ne_true
        split_ifs with hmem
        · exact fun hein => hein.2 rfl
        · exact hguard m hm hmem i
      · rw [frame_state hp]
        exact hkonf
    · rw [if_neg hf] at hguard
      obtain ⟨-, hmonitor⟩ := callbacks_meldung selfaddr c.place.isSome listen hf
        alleMonitore (by decide) c.state
      refine ⟨fun m hm i => ?_, fun m hm => ?_, fun typ gs ms f' hplace => frame_place h hplace⟩
      · rw [frame_state hp, hmonitor m, if_pos (mem_alleMonitore m)]
        cases hl : listen m with
        | none =>
            have hslot := h.slot m hm i
            have hsame : nachMeldung listen m f (c.state.monitor m) =
                (c.state.monitor m).state := by
              rw [nachMeldung, hl]
              split_ifs
              · rfl
              · cases m.meldung f <;> rfl
            rw [hsame, hslot]
            simp [gemeldet, eintrag, hl]
        | some l =>
            by_cases hi : l i = 255
            · rw [gemeldet_of_unused hl hi]
              refine iff_of_false (meldung_unused ?_ h hm hl hi) Bool.false_ne_true
              exact fun s hmeldung hein => hguard m s hm hmeldung hein l hl i hi
            · exact meldung_slot hp hf h hm hl hi
      · rw [frame_state hp, hmonitor m, if_pos (mem_alleMonitore m)]
        exact h.konf m hm
  · rw [frame_fremd hp]
    refine ⟨fun m hm i => ?_, h.konf, h.place⟩
    rw [gemeldet_fremd hp]
    exact h.slot m hm i

theorem gemeldet_wake (past : List PanelEvent) (m : Monitor) (i : Fin 24) :
    gemeldet selfaddr listen (.wake :: past) m i = gemeldet selfaddr listen past m i := rfl

/-- The end of a sleep: the loop goes on to its next question, or the callbacks that
are left are called. -/
theorem wake_cases (h : Stimmt selfaddr listen (c, past)) :
    ((panelStep selfaddr listen c .wake).state.monitor = c.state.monitor ∧
        (∀ typ gs ms f, (panelStep selfaddr listen c .wake).place = some (.fragt typ gs ms f) →
          f.byte 1 = hcanHesBoardActive) ∧
        ∀ typ gs ms f, c.place = some (.fragt typ gs ms f) → ¬ ∀ g ∈ gs, g = 255) ∨
      ∃ typ gs ms f z, c.place = some (.fragt typ gs ms f) ∧ (∀ g ∈ gs, g = 255) ∧
        f.byte 1 = hcanHesBoardActive ∧ z.monitor = c.state.monitor ∧
        panelStep selfaddr listen c .wake =
          ⟨(callbacks selfaddr listen false f ms z).1,
            (callbacks selfaddr listen false f ms z).2⟩ := by
  obtain ⟨z, place⟩ := c
  cases place with
  | none => exact .inl ⟨rfl, nofun, nofun⟩
  | some p =>
      cases p with
      | andere => exact .inl ⟨rfl, nofun, nofun⟩
      | fragt typ gs ms f =>
          have hf := h.place typ gs ms f rfl
          have hmonitor := fragen_monitor selfaddr false typ gs z
          have hsleep := fragen_schlaeft selfaddr false typ gs z
          simp only [Bool.false_eq_true, false_or] at hsleep
          simp only [panelStep, Paused.wake_asleep, weiter]
          generalize fragen selfaddr typ false gs z = r at hmonitor hsleep
          obtain ⟨z', _ | gs'⟩ := r
          · exact .inr ⟨typ, gs, ms, f, z', rfl, hsleep.mp rfl, hf, hmonitor, rfl⟩
          · refine .inl ⟨hmonitor, fun _ _ _ _ hplace => ?_, fun _ _ _ _ hplace hall => ?_⟩
            · cases hplace
              exact hf
            · cases hplace
              exact absurd (hsleep.mpr hall) (by simp)

theorem stimmt_wake (h : Stimmt selfaddr listen (c, past))
    (hg : Unverfaelscht selfaddr listen (c, past) .wake) :
    Stimmt selfaddr listen (panelStep selfaddr listen c .wake, .wake :: past) := by
  rcases wake_cases h with ⟨hsame, hplace, -⟩ | ⟨typ, gs, ms, f, z, hplace, hall, hf, hz, heq⟩
  · refine ⟨fun m hm i => ?_, h.konf.congr hsame, hplace⟩
    rw [hsame]
    exact h.slot m hm i
  · obtain ⟨hkonf, hstate⟩ := callbacks_boardActive selfaddr false hf ms (h.konf.congr hz)
    rw [heq]
    refine ⟨fun m hm i => ?_, hkonf, fun typ' gs' ms' f' hnew => ?_⟩
    · rw [gemeldet_wake, ← h.slot m hm i, hstate m, hz]
      split_ifs with hmem
      · -- a monitor that is cleared had nothing on
        exact iff_of_false (fun hein => hein.2 rfl) (hg typ gs ms f hplace hall m hm hmem i)
      · rfl
    · rw [callbacks_place hnew]
      exact hf

theorem stimmt_pause (h : Stimmt selfaddr listen (c, past)) :
    Stimmt selfaddr listen (panelStep selfaddr listen c .pause, .pause :: past) := by
  obtain ⟨z, place⟩ := c
  cases place with
  | none => exact ⟨h.slot, h.konf, fun _ _ _ _ hplace => by cases hplace⟩
  | some p => exact ⟨h.slot, h.konf, h.place⟩

/-- **One step** that meets the condition. -/
theorem stimmt_step (h : Stimmt selfaddr listen (c, past)) (e : PanelEvent)
    (hg : Unverfaelscht selfaddr listen (c, past) e) :
    Stimmt selfaddr listen (panelStep selfaddr listen c e, e :: past) := by
  cases e with
  | frame f => exact stimmt_frame h hg
  | wake => exact stimmt_wake h hg
  | pause => exact stimmt_pause h

/-! ## A step after which the counts are right -/

/-- If no entry has a report that is on and the count is right, no slot is on. -/
theorem allesAus_of_zaehlt {z : Monitore}
    (hcount : ((List.finRange 24).countP fun i => decide (Ein ((z.monitor m).state i))) =
      anzahl selfaddr listen past m)
    (hnone : ∀ i, gemeldet selfaddr listen past m i = false) : AllesAus z m := by
  intro i hein
  have hzero : anzahl selfaddr listen past m = 0 :=
    List.countP_eq_zero.mpr fun i _ => by rw [hnone i]; exact Bool.false_ne_true
  rw [hzero, List.countP_eq_zero] at hcount
  exact hcount i (List.mem_finRange i) (decide_eq_true hein)

/-- The counts are right after a sleep: no monitor was cleared late that had something
to forget. -/
theorem unverfaelscht_wake (h : Stimmt selfaddr listen (c, past)) {getIgnore : UInt8 → UInt8}
    (hz : Zaehlt selfaddr listen getIgnore (panelStep selfaddr listen c .wake, .wake :: past)) :
    Unverfaelscht selfaddr listen (c, past) .wake := by
  have hcount := (zaehlt_iff selfaddr listen getIgnore _).mp hz
  intro typ gs ms f hplace hall m hm hmem
  rcases wake_cases h with ⟨-, -, hno⟩ | ⟨typ', gs', ms', f', z, hplace', -, hf, hz, heq⟩
  · exact absurd hall (hno typ gs ms f hplace)
  · rw [hplace] at hplace'
    cases hplace'
    obtain ⟨-, hstate⟩ := callbacks_boardActive selfaddr false hf ms (h.konf.congr hz)
    have hzero := hcount m hm
    -- the array has been cleared, so no report was on
    simp only [heq, hstate m, if_pos hmem] at hzero
    rw [List.countP_eq_zero.mpr (by simp [Ein])] at hzero
    intro i hein
    rw [h.slot m hm i] at hein
    have hnone := List.countP_eq_zero.mp hzero.symm i (List.mem_finRange i)
    exact hnone hein

/-- The counts are right after a frame: no report that was on found an unused slot. -/
theorem unverfaelscht_frame (h : Stimmt selfaddr listen (c, past)) {getIgnore : UInt8 → UInt8}
    (hz : Zaehlt selfaddr listen getIgnore
      (panelStep selfaddr listen c (.frame f), .frame f :: past)) :
    Unverfaelscht selfaddr listen (c, past) (.frame f) := by
  have hcount := (zaehlt_iff selfaddr listen getIgnore _).mp hz
  intro hp
  by_cases hf : f.byte 1 = hcanHesBoardActive
  · rw [if_pos hf]
    intro m hm hmem
    obtain ⟨-, hstate⟩ := callbacks_boardActive selfaddr c.place.isSome hf
      alleMonitore h.konf
    have haus := allesAus_of_zaehlt (hcount m hm) fun i => gemeldet_boardActive hp hf past m i
    rw [AllesAus, frame_state hp, hstate m, if_neg hmem] at haus
    exact haus
  · rw [if_neg hf]
    intro m s hm hmeldung hein l hl i hi
    obtain ⟨-, hmonitor⟩ := callbacks_meldung selfaddr c.place.isSome listen hf
      alleMonitore (by decide) c.state
    have hafter := hcount m hm
    simp only [frame_state hp, hmonitor m, if_pos (mem_alleMonitore m)] at hafter
    have hsub : ∀ j ∈ List.finRange 24,
        gemeldet selfaddr listen (.frame f :: past) m j = true →
          decide (Ein (nachMeldung listen m f (c.state.monitor m) j)) = true := by
      intro j _ hj
      by_cases hlj : l j = 255
      · rw [gemeldet_of_unused hl hlj] at hj
        exact absurd hj Bool.false_ne_true
      · exact decide_eq_true ((meldung_slot hp hf h hm hl hlj).mpr hj)
    have hconf : (c.state.monitor m).configured = true := h.konf m (.inr (by simp [hl]))
    have hslot : decide (Ein (nachMeldung listen m f (c.state.monitor m) i)) = true := by
      rw [nachMeldung, if_neg (by simp [hconf]), hmeldung, hl]
      simpa [hi] using hein
    -- as many slots as reports are on, and every report has its slot
    have hnot := imp_of_countP_eq hsub hafter i (List.mem_finRange i) hslot
    rw [gemeldet_of_unused hl hi] at hnot
    exact Bool.false_ne_true hnot

theorem unverfaelscht_of_zaehlt (h : Stimmt selfaddr listen (c, past)) (e : PanelEvent)
    {getIgnore : UInt8 → UInt8}
    (hz : Zaehlt selfaddr listen getIgnore (panelStep selfaddr listen c e, e :: past)) :
    Unverfaelscht selfaddr listen (c, past) e := by
  cases e with
  | frame f => exact unverfaelscht_frame h hz
  | wake => exact unverfaelscht_wake h hz
  | pause => trivial

end

/-- **The monitors**: after every event the four counts are right, exactly if no
report of group 255 that is on finds an unused slot, and no monitor is cleared late
with something to forget. -/
theorem monitore_iff (selfaddr : UInt16) (listen : Listen) (getIgnore : UInt8 → UInt8)
    (es : List PanelEvent) :
    (∀ pre, pre <+: es →
        Zaehlt selfaddr listen getIgnore
          (run (recorded (panelStep selfaddr listen)) (panelStart, []) pre)) ↔
      Guarded (recorded (panelStep selfaddr listen)) (Unverfaelscht selfaddr listen)
        (panelStart, []) es :=
  always_iff_guarded (I := Stimmt selfaddr listen) (fun _ h => h.zaehlt getIgnore)
    (fun _ e h hg => stimmt_step h e hg) (fun _ e h hz => unverfaelscht_of_zaehlt h e hz) es _
    (stimmt_start selfaddr listen)

/-- Lamp group 10 in the first slot of every list. -/
private def einGruppe : Listen := fun _ => some fun i => if i = 0 then 10 else 255

/-- A powerport without a group reports that it is on: the panel counts 23 lamps. -/
theorem monitore_gruppe255 :
    ¬ ∀ pre, pre <+: [PanelEvent.frame
          (sfpFrame 7 hcanMulticastInfo
            [hcanSrvHes, Powerport.hcanHesPowerGroupStateInfo, 255, 1])] →
        Zaehlt 1 einGruppe (fun _ => 0)
          (run (recorded (panelStep 1 einGruppe)) (panelStart, []) pre) := by
  intro h
  have hlampen := (h _ List.prefix_rfl).lampen
  revert hlampen
  decide

end OpenHcan.Userpanel
