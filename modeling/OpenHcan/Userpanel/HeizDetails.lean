import OpenHcan.Devices.Heizung
import OpenHcan.Lib.Machine

/-!
# HeizDetails — the panel asks a heating (`userpanel-v01/heiz_page.c`)

`get_heiz_details` sends two requests and waits after each of them. One mask
keeps both outstanding answers; it is set anew for the second request, which
forgets whether the first one has been answered, and once it is 0 no further
details are taken (`heizDetails_iff`).
-/

namespace OpenHcan.Userpanel

open Lib Heizung

set_option maxRecDepth 100000

/-- What the details of a heating say: `heiz_details_mode`, `…_rate`, `…_Tsoll` and
`…_dauer`. -/
structure HeizWerte where
  mode : UInt8
  rate : UInt8
  tsoll : Int16
  dauer : UInt16
deriving DecidableEq, Repr

/-- The variables of the query. -/
structure HeizDetails where
  expected : UInt8
  heizId : UInt8
  werte : HeizWerte
  tist : Int16
deriving DecidableEq, Repr

def heizungModeOff : UInt8 := 0
def heizungModeManual : UInt8 := 1
def heizungModeThermostat : UInt8 := 2
def heizungModeAutomatik : UInt8 := 3

/-- `(frame->data[i] << 8) | frame->data[i + 1]` -/
def wordAt (f : CanixFrame) (i : Nat) : UInt16 := UInt16.ofNat (word (f.byte i) (f.byte (i + 1)))

/-- A frame that carries the details of a heating. -/
def IstDetails (f : CanixFrame) : Prop :=
  f.byte 1 = hcanHesHeizungModeOffDetails ∨ f.byte 1 = hcanHesHeizungModeManualDetails ∨
    f.byte 1 = hcanHesHeizungModeThermostatDetails ∨
    f.byte 1 = hcanHesHeizungModeAutomatikDetails

instance (f : CanixFrame) : Decidable (IstDetails f) :=
  inferInstanceAs (Decidable (_ ∨ _ ∨ _ ∨ _))

/-- The inner `switch`: a frame does not carry all the values. -/
def detailsEinlesen (w : HeizWerte) (f : CanixFrame) : HeizWerte :=
  if f.byte 1 = hcanHesHeizungModeOffDetails then
    { w with mode := heizungModeOff, tsoll := 0, dauer := 0 }
  else if f.byte 1 = hcanHesHeizungModeManualDetails then
    { w with mode := heizungModeManual, rate := f.byte 3, dauer := wordAt f 4 }
  else if f.byte 1 = hcanHesHeizungModeThermostatDetails then
    { w with mode := heizungModeThermostat, tsoll := (wordAt f 3).toInt16, dauer := wordAt f 5 }
  else if f.byte 1 = hcanHesHeizungModeAutomatikDetails then
    { w with mode := heizungModeAutomatik, tsoll := (wordAt f 3).toInt16, dauer := 0 }
  else w

/-- `heiz_page_can_callback` -/
def heizPageCanCallback (g : HeizDetails) (f : CanixFrame) : HeizDetails :=
  if IstDetails f then
    if g.expected ≠ 0 ∧ f.byte 2 = g.heizId then
      { g with
        expected := g.expected &&& ~~~ 0x01
        werte := detailsEinlesen g.werte f }
    else g
  else if f.byte 1 = hcanHesHeizungTistReplay then
    if f.byte 2 = g.heizId then
      { g with
        expected := g.expected &&& ~~~ 0x02
        tist := (wordAt f 3).toInt16 }
    else g
  else g

/-- What `get_heiz_details` returns in its pointers. -/
structure HeizAntwort where
  werte : HeizWerte
  tist : Int16
deriving DecidableEq, Repr

/-- `get_heiz_details` with the frames that are delivered in its two waits. `none` is
the return value 1. -/
def getHeizDetails (heizId : UInt8) (fs fs' : List CanixFrame) (g : HeizDetails) :
    HeizDetails × Option HeizAntwort :=
  let g : HeizDetails := { g with heizId := heizId, werte := { g.werte with tsoll := 0 } }
  let g := run heizPageCanCallback { g with expected := 1 } fs
  let g := run heizPageCanCallback { g with expected := 2 } fs'
  if g.expected = 0 then ({ g with heizId := 0 }, some ⟨g.werte, g.tist⟩) else (g, none)

/-- The requests it sends before the waits. -/
def heizDetailsRequest (selfaddr : UInt16) (heizId : UInt8) : CanixFrame :=
  sfpFrame selfaddr hcanMulticastControl [hcanSrvHes, hcanHesHeizungDetailsRequest, heizId]

def heizTistRequest (selfaddr : UInt16) (heizId : UInt8) : CanixFrame :=
  sfpFrame selfaddr hcanMulticastControl [hcanSrvHes, hcanHesHeizungTistRequest, heizId]

/-! ## The statement -/

/-- Details of the heating. -/
def DetailsVon (heizId : UInt8) (f : CanixFrame) : Prop := IstDetails f ∧ f.byte 2 = heizId

/-- The temperature of the heating. -/
def TistVon (heizId : UInt8) (f : CanixFrame) : Prop :=
  f.byte 1 = hcanHesHeizungTistReplay ∧ f.byte 2 = heizId

instance (heizId : UInt8) : DecidablePred (DetailsVon heizId) :=
  fun _ => inferInstanceAs (Decidable (_ ∧ _))

instance (heizId : UInt8) : DecidablePred (TistVon heizId) :=
  fun _ => inferInstanceAs (Decidable (_ ∧ _))

/-- The latest of the frames with the property. -/
def letzter (P : CanixFrame → Prop) [DecidablePred P] (fs : List CanixFrame) :
    Option CanixFrame :=
  (fs.filter P).getLast?

/-- The values are those the frame carries. -/
def Zeigt (f : CanixFrame) (w : HeizWerte) : Prop :=
  if f.byte 1 = hcanHesHeizungModeOffDetails then w.mode = heizungModeOff
  else if f.byte 1 = hcanHesHeizungModeManualDetails then
    w.mode = heizungModeManual ∧ w.rate = f.byte 3 ∧ w.dauer = wordAt f 4
  else if f.byte 1 = hcanHesHeizungModeThermostatDetails then
    w.mode = heizungModeThermostat ∧ w.tsoll = (wordAt f 3).toInt16 ∧ w.dauer = wordAt f 5
  else w.mode = heizungModeAutomatik ∧ w.tsoll = (wordAt f 3).toInt16

/-- An answer consists of the values of the latest frames of the heating since the
call. -/
def AntwortAktuell (heizId : UInt8) (fs fs' : List CanixFrame) (g : HeizDetails) : Prop :=
  ∀ a, (getHeizDetails heizId fs fs' g).2 = some a →
    ∃ d t, letzter (DetailsVon heizId) (fs ++ fs') = some d ∧
      letzter (TistVon heizId) (fs ++ fs') = some t ∧
      Zeigt d a.werte ∧ a.tist = (wordAt t 3).toInt16

/-- The details that are taken: the first of the first wait, and those of the second
wait that come before the temperature. -/
def angenommen (heizId : UInt8) (fs fs' : List CanixFrame) : List CanixFrame :=
  (fs.filter (DetailsVon heizId)).take 1 ++
    (fs'.takeWhile fun f => ¬ TistVon heizId f).filter (DetailsVon heizId)

/-- What a frame of details carries. -/
def frameWerte (f : CanixFrame) : HeizWerte := detailsEinlesen ⟨0, 0, 0, 0⟩ f

/-! ## One frame -/

section

variable {e heizId : UInt8} {w : HeizWerte} {tist : Int16} {f : CanixFrame} {fs : List CanixFrame}

theorem not_istDetails_tist (h : f.byte 1 = hcanHesHeizungTistReplay) : ¬ IstDetails f := by
  rw [IstDetails, h]
  decide

theorem callback_details (h : DetailsVon heizId f) (he : e ≠ 0) :
    heizPageCanCallback ⟨e, heizId, w, tist⟩ f =
      ⟨e &&& ~~~ 0x01, heizId, detailsEinlesen w f, tist⟩ := by
  rw [heizPageCanCallback, if_pos h.1, if_pos ⟨he, h.2⟩]

theorem callback_details_spaet (h : DetailsVon heizId f) :
    heizPageCanCallback ⟨0, heizId, w, tist⟩ f = ⟨0, heizId, w, tist⟩ := by
  rw [heizPageCanCallback, if_pos h.1, if_neg fun hexpected => hexpected.1 rfl]

theorem callback_tist (h : TistVon heizId f) :
    heizPageCanCallback ⟨e, heizId, w, tist⟩ f =
      ⟨e &&& ~~~ 0x02, heizId, w, (wordAt f 3).toInt16⟩ := by
  rw [heizPageCanCallback, if_neg (not_istDetails_tist h.1), if_pos h.1, if_pos h.2]

theorem callback_fremd (hd : ¬ DetailsVon heizId f) (ht : ¬ TistVon heizId f) :
    heizPageCanCallback ⟨e, heizId, w, tist⟩ f = ⟨e, heizId, w, tist⟩ := by
  rw [heizPageCanCallback]
  split_ifs with hdetails hid htist hid
  · exact absurd ⟨hdetails, hid.2⟩ hd
  · rfl
  · exact absurd ⟨htist, hid⟩ ht
  · rfl
  · rfl

theorem DetailsVon.not_tist (h : DetailsVon heizId f) : ¬ TistVon heizId f :=
  fun ht => not_istDetails_tist ht.1 h.1

/-! ## The waits -/

/-- The temperature after the frames `fs`. -/
def tistNach (heizId : UInt8) (tist : Int16) (fs : List CanixFrame) : Int16 :=
  fs.foldl (fun t f => if TistVon heizId f then (wordAt f 3).toInt16 else t) tist

/-- Nothing is expected: only the temperature is taken. -/
theorem run_nichts (w : HeizWerte) (tist : Int16) (fs : List CanixFrame) :
    run heizPageCanCallback ⟨0, heizId, w, tist⟩ fs = ⟨0, heizId, w, tistNach heizId tist fs⟩ := by
  induction fs generalizing tist with
  | nil => rfl
  | cons f fs ih =>
      rw [run_cons, tistNach, List.foldl_cons]
      by_cases hd : DetailsVon heizId f
      · rw [callback_details_spaet hd, if_neg hd.not_tist, ih]
        rfl
      · by_cases ht : TistVon heizId f
        · rw [callback_tist ht, if_pos ht, show (0 : UInt8) &&& ~~~ 0x02 = 0 by decide, ih]
          rfl
        · rw [callback_fremd hd ht, if_neg ht, ih]
          rfl

/-- The first wait: the details are taken once. -/
theorem run_erste (heizId : UInt8) (w : HeizWerte) (tist : Int16) (fs : List CanixFrame) :
    ∃ e, run heizPageCanCallback ⟨1, heizId, w, tist⟩ fs =
      ⟨e, heizId, ((fs.filter (DetailsVon heizId)).take 1).foldl detailsEinlesen w,
        tistNach heizId tist fs⟩ := by
  induction fs generalizing tist with
  | nil => exact ⟨1, rfl⟩
  | cons f fs ih =>
      rw [run_cons, tistNach, List.foldl_cons]
      by_cases hd : DetailsVon heizId f
      · rw [callback_details hd (by decide), if_neg hd.not_tist,
          show (1 : UInt8) &&& ~~~ 0x01 = 0 by decide, run_nichts,
          List.filter_cons_of_pos (by simp [hd])]
        exact ⟨0, rfl⟩
      · rw [List.filter_cons_of_neg (by simp [hd])]
        by_cases ht : TistVon heizId f
        · rw [callback_tist ht, if_pos ht, show (1 : UInt8) &&& ~~~ 0x02 = 1 by decide]
          exact ih _
        · rw [callback_fremd hd ht, if_neg ht]
          exact ih _

/-- The second wait: details are taken until the temperature comes. -/
theorem run_zweite (w : HeizWerte) (tist : Int16) (fs : List CanixFrame) :
    run heizPageCanCallback ⟨2, heizId, w, tist⟩ fs =
      ⟨if ∃ t ∈ fs, TistVon heizId t then 0 else 2, heizId,
        ((fs.takeWhile fun f => ¬ TistVon heizId f).filter (DetailsVon heizId)).foldl
          detailsEinlesen w,
        tistNach heizId tist fs⟩ := by
  induction fs generalizing w tist with
  | nil => rfl
  | cons f fs ih =>
      rw [run_cons, tistNach, List.foldl_cons]
      by_cases ht : TistVon heizId f
      · rw [callback_tist ht, if_pos ht, show (2 : UInt8) &&& ~~~ 0x02 = 0 by decide, run_nichts,
          if_pos ⟨f, by simp, ht⟩, List.takeWhile_cons_of_neg (by simp [ht])]
        rfl
      · have hex : (∃ t ∈ f :: fs, TistVon heizId t) ↔ ∃ t ∈ fs, TistVon heizId t := by simp [ht]
        rw [if_neg ht, List.takeWhile_cons_of_pos (by simp [ht])]
        simp only [hex]
        by_cases hd : DetailsVon heizId f
        · rw [callback_details hd (by decide), show (2 : UInt8) &&& ~~~ 0x01 = 2 by decide, ih,
            List.filter_cons_of_pos (by simp [hd])]
          rfl
        · rw [callback_fremd hd ht, ih, List.filter_cons_of_neg (by simp [hd])]
          rfl

theorem tistNach_append (tist : Int16) (fs fs' : List CanixFrame) :
    tistNach heizId (tistNach heizId tist fs) fs' = tistNach heizId tist (fs ++ fs') := by
  simp [tistNach]

/-- The temperature is the one of the latest frame that carries it. -/
theorem tistNach_eq (tist : Int16) (fs : List CanixFrame) :
    tistNach heizId tist fs =
      ((letzter (TistVon heizId) fs).map fun t => (wordAt t 3).toInt16).getD tist := by
  rw [letzter]
  induction fs generalizing tist with
  | nil => rfl
  | cons f fs ih =>
      rw [tistNach, List.foldl_cons]
      by_cases ht : TistVon heizId f
      · rw [if_pos ht, List.filter_cons_of_pos (by simp [ht]), List.getLast?_cons]
        rw [show List.foldl _ _ fs = tistNach heizId (wordAt f 3).toInt16 fs from rfl, ih]
        cases (fs.filter (TistVon heizId)).getLast? <;> rfl
      · rw [if_neg ht, List.filter_cons_of_neg (by simp [ht])]
        exact ih tist

end

/-! ## The answer -/

section

variable {heizId : UInt8} {d a : CanixFrame} {fs fs' : List CanixFrame}

/-- Of the details that were taken before, the latest ones leave nothing that details
of the same mode show. -/
theorem zeigt_einlesen (ha : IstDetails a) (hd : IstDetails d) (w : HeizWerte) :
    Zeigt d (detailsEinlesen w a) ↔ Zeigt d (frameWerte a) := by
  rw [frameWerte, Zeigt, Zeigt]
  rcases hd with hd | hd | hd | hd <;> rcases ha with ha | ha | ha | ha <;>
    simp [detailsEinlesen, ha, hd, hcanHesHeizungModeOffDetails, hcanHesHeizungModeManualDetails,
      hcanHesHeizungModeThermostatDetails, hcanHesHeizungModeAutomatikDetails, heizungModeOff,
      heizungModeManual, heizungModeThermostat, heizungModeAutomatik]

theorem detailsVon_of_angenommen (h : a ∈ angenommen heizId fs fs') : DetailsVon heizId a := by
  rw [angenommen, List.mem_append] at h
  rcases h with h | h
  · simpa using (List.mem_filter.mp (List.mem_of_mem_take h)).2
  · simpa using (List.mem_filter.mp h).2

theorem detailsVon_of_letzter (h : letzter (DetailsVon heizId) fs = some d) :
    DetailsVon heizId d := by
  simpa using (List.mem_filter.mp (List.mem_of_getLast? h)).2

/-- What the query returns. -/
theorem getHeizDetails_eq (heizId : UInt8) (fs fs' : List CanixFrame) (g : HeizDetails) :
    (getHeizDetails heizId fs fs' g).2 =
      if ∃ t ∈ fs', TistVon heizId t then
        some ⟨(angenommen heizId fs fs').foldl detailsEinlesen
            ⟨g.werte.mode, g.werte.rate, 0, g.werte.dauer⟩,
          tistNach heizId g.tist (fs ++ fs')⟩
      else none := by
  obtain ⟨e, herste⟩ := run_erste heizId
    ⟨g.werte.mode, g.werte.rate, 0, g.werte.dauer⟩ g.tist fs
  rw [getHeizDetails]
  simp only [herste, run_zweite, tistNach_append, angenommen, List.foldl_append]
  by_cases htist : ∃ t ∈ fs', TistVon heizId t
  · rw [if_pos htist, if_pos htist, if_pos rfl]
  · rw [if_neg htist, if_neg htist, if_neg (by decide)]

/-- The values shown are those of the latest details exactly if the latest details that
were taken carry the same. -/
theorem zeigt_angenommen_iff (hd : IstDetails d) (w : HeizWerte) :
    Zeigt d ((angenommen heizId fs fs').foldl detailsEinlesen w) ↔
      match (angenommen heizId fs fs').getLast? with
      | some a => Zeigt d (frameWerte a)
      | none => Zeigt d w := by
  cases hlast : (angenommen heizId fs fs').getLast? with
  | none =>
      rw [List.getLast?_eq_none_iff.mp hlast]
      rfl
  | some a =>
      have ha := (detailsVon_of_angenommen (List.mem_of_getLast? hlast)).1
      obtain ⟨before, hbefore⟩ := List.getLast?_eq_some_iff.mp hlast
      rw [hbefore, List.foldl_append]
      exact zeigt_einlesen ha hd _

end

/-- **The query**: it is right exactly if no temperature comes in the second wait (then
it returns 1), or if the heating has sent details and the latest ones that were taken
carry the same as the latest ones that came; with none taken, what is known from
before has to be the same. -/
theorem heizDetails_iff (heizId : UInt8) (fs fs' : List CanixFrame) (g : HeizDetails) :
    AntwortAktuell heizId fs fs' g ↔
      (¬ ∃ t ∈ fs', TistVon heizId t) ∨
        ∃ d, letzter (DetailsVon heizId) (fs ++ fs') = some d ∧
          match (angenommen heizId fs fs').getLast? with
          | some a => Zeigt d (frameWerte a)
          | none => Zeigt d ⟨g.werte.mode, g.werte.rate, 0, g.werte.dauer⟩ := by
  rw [AntwortAktuell, getHeizDetails_eq]
  split_ifs with htist
  · rw [or_iff_right (not_not_intro htist)]
    simp only [Option.some.injEq, forall_eq']
    obtain ⟨t, ht⟩ : ∃ t, letzter (TistVon heizId) (fs ++ fs') = some t := by
      obtain ⟨t, hmem, ht⟩ := htist
      have hne : (fs ++ fs').filter (TistVon heizId) ≠ [] :=
        List.ne_nil_of_mem (List.mem_filter.mpr ⟨List.mem_append_right fs hmem, by simp [ht]⟩)
      exact ⟨_, List.getLast?_eq_some_getLast hne⟩
    rw [tistNach_eq, ht]
    constructor
    · rintro ⟨d, _, hd, -, hzeigt, -⟩
      exact ⟨d, hd, (zeigt_angenommen_iff (detailsVon_of_letzter hd).1 _).mp hzeigt⟩
    · rintro ⟨d, hd, hzeigt⟩
      exact ⟨d, t, hd, rfl, (zeigt_angenommen_iff (detailsVon_of_letzter hd).1 _).mpr hzeigt, rfl⟩
  · exact iff_of_true (fun _ h => by cases h) (Or.inl htist)

/-- A temperature of heating 5. -/
private def nurTist : CanixFrame :=
  sfpFrame 2 hcanMulticastInfo [hcanSrvHes, hcanHesHeizungTistReplay, 5, 1, 64]

/-- Heating 5 answers with its temperature only, and the query returns 0. -/
theorem heizDetails_ohneDetails : ¬ AntwortAktuell 5 [] [nurTist] ⟨0, 0, ⟨0, 0, 0, 0⟩, 0⟩ := by
  intro h
  have hzero : (getHeizDetails 5 [] [nurTist] ⟨0, 0, ⟨0, 0, 0, 0⟩, 0⟩).2 =
      some ⟨⟨0, 0, 0, 0⟩, 320⟩ := by decide
  obtain ⟨d, _, hd, -⟩ := h _ hzero
  have hnone : letzter (DetailsVon 5) ([] ++ [nurTist]) = none := by decide
  rw [hnone] at hd
  cases hd

end OpenHcan.Userpanel
