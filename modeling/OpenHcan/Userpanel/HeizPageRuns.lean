import OpenHcan.Userpanel.HeizPage

/-!
# HeizPageRuns — what the editor sends

A frame that confirms an edit against what the page shows. The editor leaves its range
where a step does not fit the value (rates above 90 or below 10 that are no multiple of
ten, durations between 901 and 1799 seconds), on subpages without a value of the mode,
and where something else is drawn over it.
-/

namespace OpenHcan.Userpanel

open Lib Heizung

set_option maxRecDepth 100000

/-! ## The statement -/

/-- The bytes of a SET_MODE frame with the values `w`. -/
def setModeBytes (heizId : UInt8) (w : HeizWerte) : List UInt8 :=
  if w.mode = heizungModeOff then [hcanSrvHes, hcanHesHeizungSetModeOff, heizId]
  else if w.mode = heizungModeManual then
    [hcanSrvHes, hcanHesHeizungSetModeManual, heizId, w.rate, hiByte w.dauer.toNat,
      loByte w.dauer.toNat]
  else if w.mode = heizungModeThermostat then
    [hcanSrvHes, hcanHesHeizungSetModeThermostatDetails, heizId,
      hiByte w.tsoll.toUInt16.toNat, loByte w.tsoll.toUInt16.toNat, hiByte w.dauer.toNat,
      loByte w.dauer.toNat]
  else [hcanSrvHes, hcanHesHeizungSetModeAutomatik, heizId]

/-- The modes with a value that can be edited. -/
def Einstellbar (w : HeizWerte) : Prop :=
  w.mode = heizungModeManual ∨ w.mode = heizungModeThermostat

instance : DecidablePred Einstellbar := fun _ => inferInstanceAs (Decidable (_ ∨ _))

/-- The frame sets the heating to values `w`: those that are shown, and on the subpages
of the values all that are being edited. -/
def Bestaetigt (selfaddr : UInt16) (z : HeizEditor) (f : CanixFrame) : Prop :=
  ∃ w : HeizWerte,
    (f.src = selfaddr ∧ f.dst = hcanMulticastControl ∧ f.proto = hcanProtoSfp ∧
      f.bytes = setModeBytes z.page.heizId w) ∧
    (w.mode = z.edit.mode ∧ w.mode ≤ heizungModeAutomatik ∧ zeileVon z.subpage w = z.zeile ∧
      (z.subpage ≠ 0 → w = z.edit)) ∧
    (w.mode = heizungModeManual → w.rate ≤ 100) ∧
    (Einstellbar w → z.gesenkt = true → w.dauer ≠ 0)

/-- A question of the page. -/
def IstAnfrage (f : CanixFrame) : Prop :=
  f.byte 1 = hcanHesHeizungDetailsRequest ∨ f.byte 1 = hcanHesHeizungTistRequest

section

variable (selfaddr : UInt16) (seiten : UInt8 → HeizActive)

/-- OK in the state EDIT sends one frame that sets the heating to what is shown, and the
questions of the page that is drawn anew. -/
def HeizOkRichtig (c : Paused HeizEditor HeizPlace) (e : HeizEvent) : Prop :=
  ∀ muell, e = .key keyOk muell → c.state.page.istHeiz = true → c.state.modus = .edit →
    ∃ f anfragen,
      (heizStep selfaddr seiten c e).state.gesendet = c.state.gesendet ++ f :: anfragen ∧
        Bestaetigt selfaddr c.state f ∧ ∀ a ∈ anfragen, IstAnfrage a

/-- The key does not step a rate beyond 0 or 100. -/
def RateImSchritt (z : HeizEditor) (k : UInt8) : Prop :=
  z.subpage = 1 → z.edit.mode = heizungModeManual →
    (k = keyUp → ¬ (90 < z.edit.rate ∧ z.edit.rate < 100)) ∧
      (k = keyDown → ¬ (0 < z.edit.rate ∧ z.edit.rate < 10))

/-- The key does not step a duration down to 0. -/
def DauerImSchritt (z : HeizEditor) (k : UInt8) : Prop :=
  k = keyDown → z.subpage = 2 → Einstellbar z.edit →
    ¬ (900 < z.edit.dauer ∧ z.edit.dauer < 1800)

instance (z : HeizEditor) (k : UInt8) : Decidable (RateImSchritt z k) :=
  inferInstanceAs (Decidable (_ → _))

instance (z : HeizEditor) (k : UInt8) : Decidable (DauerImSchritt z k) :=
  inferInstanceAs (Decidable (_ → _))

/-- A key that keeps the editor in its range; OK confirms a subpage with a value. -/
def BedachteTaste (z : HeizEditor) (k : UInt8) : Prop :=
  (k = keyOk → z.subpage = 0 ∨ Einstellbar z.edit) ∧ RateImSchritt z k ∧ DauerImSchritt z k

instance (z : HeizEditor) (k : UInt8) : Decidable (BedachteTaste z k) :=
  inferInstanceAs (Decidable (_ ∧ _))

/-- The heating reports no rate above 100 %, the keys keep the editor in its range, and
nothing else comes onto the display while the page is edited: no other handler draws,
and no question of the page stays without an answer. -/
def Bedacht (c : Paused HeizEditor HeizPlace) : HeizEvent → Prop
  | .frame f =>
      FuerPanel selfaddr f ∧ c.state.page.istHeiz = true →
        f.byte 1 = hcanHesHeizungModeManualDetails → c.state.details.expected ≠ 0 →
          f.byte 2 = c.state.details.heizId → f.byte 3 ≤ 100
  | .key k _ =>
      c.state.page.istHeiz = true → c.state.modus = .edit → BedachteTaste c.state k
  | .zeigen _ => True
  | .fehlerSeite => True
  | .zeichnen => c.state.page.istHeiz = true → c.state.modus = .view
  | .wake =>
      c.place = some .printZweite → c.state.page.istHeiz = true → c.state.modus = .edit →
        c.state.details.expected = 0
  | .pause => True

instance decidableBedacht (c : Paused HeizEditor HeizPlace) : ∀ e, Decidable (Bedacht selfaddr c e)
  | .frame _ => inferInstanceAs (Decidable (_ → _))
  | .key _ _ => inferInstanceAs (Decidable (_ → _))
  | .zeigen _ => inferInstanceAs (Decidable True)
  | .fehlerSeite => inferInstanceAs (Decidable True)
  | .zeichnen => inferInstanceAs (Decidable (_ → _))
  | .wake => inferInstanceAs (Decidable (_ → _))
  | .pause => inferInstanceAs (Decidable True)

end

/-! ## The frame -/

section

variable {selfaddr : UInt16} {muell : CanixFrame} {bytes : List UInt8}

/-- The bytes that are sent are the ones that were set. -/
theorem nachricht_bytes (h : bytes.length ≤ 8) :
    (nachricht selfaddr muell bytes).bytes = bytes := by
  have hsize : (UInt8.ofNat bytes.length).toNat = bytes.length := by
    rw [UInt8.toNat_ofNat']
    omega
  rw [nachricht, CanixFrame.bytes, hsize]
  apply List.ext_getElem
  · simp [h]
  · intro i hi hi'
    simp [hi']

/-- The four modes. -/
theorem mode_cases {m : UInt8} (h : m ≤ heizungModeAutomatik) :
    m = heizungModeOff ∨ m = heizungModeManual ∨ m = heizungModeThermostat ∨
      m = heizungModeAutomatik := by
  have hle : m.toNat ≤ 3 := UInt8.le_iff_toNat_le.mp h
  simp only [← UInt8.toNat_inj]
  show m.toNat = 0 ∨ m.toNat = 1 ∨ m.toNat = 2 ∨ m.toNat = 3
  omega

/-- On the subpage of the mode the frame carries the mode and defaults. -/
theorem bestaetigt_modus {z : HeizEditor} (h0 : z.subpage = 0)
    (hmode : z.edit.mode ≤ heizungModeAutomatik) (hzeile : z.zeile = zeileVon z.subpage z.edit)
    (muell : CanixFrame) :
    Bestaetigt selfaddr z
      (setHeizEditedDetails selfaddr z.page.heizId z.subpage z.edit muell) := by
  have hrate : (0 : UInt8) ≤ 100 := by decide
  have hdauer : (21600 : UInt16) ≠ 0 := by decide
  -- the defaults: rate 0, 20 °C, six hours
  refine ⟨⟨z.edit.mode, 0, 320, 21600⟩, ?_, ⟨rfl, hmode, ?_, fun hne => absurd h0 hne⟩,
    fun _ => hrate, fun _ _ => hdauer⟩
  · rw [setHeizEditedDetails, if_pos h0, setModeBytes]
    rcases mode_cases hmode with hm | hm | hm | hm
    · simp only [hm]
      exact ⟨rfl, rfl, rfl, nachricht_bytes (by simp)⟩
    · simp only [hm]
      exact ⟨rfl, rfl, rfl, nachricht_bytes (by simp)⟩
    · simp only [hm]
      exact ⟨rfl, rfl, rfl, nachricht_bytes (by simp)⟩
    · simp only [hm]
      exact ⟨rfl, rfl, rfl, nachricht_bytes (by simp)⟩
  · rw [hzeile, zeileVon, zeileVon, if_pos h0, if_pos h0]

/-- On the subpages of the values it carries what is edited. -/
theorem bestaetigt_wert {z : HeizEditor} (h12 : z.subpage = 1 ∨ z.subpage = 2)
    (hein : Einstellbar z.edit) (hzeile : z.zeile = zeileVon z.subpage z.edit)
    (hrate : z.edit.rate ≤ 100) (hgesenkt : z.gesenkt = true → z.edit.dauer ≠ 0)
    (muell : CanixFrame) :
    Bestaetigt selfaddr z
      (setHeizEditedDetails selfaddr z.page.heizId z.subpage z.edit muell) := by
  have h0 : z.subpage ≠ 0 := by rcases h12 with h | h <;> rw [h] <;> decide
  have hmode : z.edit.mode ≤ heizungModeAutomatik := by
    rcases hein with h | h <;> rw [h] <;> decide
  refine ⟨z.edit, ?_, ⟨rfl, hmode, hzeile.symm, fun _ => rfl⟩, fun _ => hrate,
    fun _ h => hgesenkt h⟩
  rw [setHeizEditedDetails, if_neg h0, if_pos h12, setModeBytes]
  rcases hein with hm | hm
  · simp only [hm]
    exact ⟨rfl, rfl, rfl, nachricht_bytes (by simp)⟩
  · simp only [hm]
    exact ⟨rfl, rfl, rfl, nachricht_bytes (by simp)⟩

end

/-! ## What holds of the editor -/

/-- The values are in range. -/
structure WerteOk (z : HeizEditor) : Prop where
  rate : z.edit.rate ≤ 100
  mode : z.edit.mode ≤ heizungModeAutomatik
  detailsRate : z.details.werte.rate ≤ 100
  detailsMode : z.details.werte.mode ≤ heizungModeAutomatik
  subpage : z.subpage ≤ 2
  gesenkt : z.gesenkt = true → z.edit.dauer ≠ 0

/-- While the page is edited and OK sends a value, the page shows it. -/
def ZeileStimmt (z : HeizEditor) : Prop :=
  z.modus = .edit → z.page.istHeiz = true → z.subpage = 0 ∨ Einstellbar z.edit →
    z.zeile = zeileVon z.subpage z.edit

section

variable {selfaddr : UInt16} {seiten : UInt8 → HeizActive} {z z' : HeizEditor} {running : Bool}
  {w : HeizWerte}

/-- Only these variables matter for the range. -/
theorem WerteOk.congr (h : WerteOk z) (hedit : z'.edit = z.edit)
    (hrate : z'.details.werte.rate = z.details.werte.rate)
    (hmode : z'.details.werte.mode = z.details.werte.mode) (hsubpage : z'.subpage = z.subpage)
    (hgesenkt : z'.gesenkt = z.gesenkt) : WerteOk z' where
  rate := by rw [hedit]; exact h.rate
  mode := by rw [hedit]; exact h.mode
  detailsRate := by rw [hrate]; exact h.detailsRate
  detailsMode := by rw [hmode]; exact h.detailsMode
  subpage := by rw [hsubpage]; exact h.subpage
  gesenkt := by rw [hedit, hgesenkt]; exact h.gesenkt

/-- In the state VIEW nothing is asked of the display. -/
theorem zeileStimmt_view (h : z.modus = .view) : ZeileStimmt z := by
  intro hedit
  rw [h] at hedit
  cases hedit

theorem antwort_werte (g : HeizDetails) : (antwort g).1.werte = g.werte := by
  rw [antwort]
  split_ifs
  · rfl
  · rfl

theorem antwort_some {g : HeizDetails} (h : (antwort g).2 = some w) : w = g.werte := by
  rw [antwort] at h
  split_ifs at h
  exact (Option.some.inj h).symm

theorem antwort_isSome {g : HeizDetails} (h : g.expected = 0) : (antwort g).2 = some g.werte := by
  rw [antwort, if_pos h]

/-- The end of drawing in the state VIEW changes the query and the display. -/
theorem printEnde_eq (z : HeizEditor) :
    ∃ zeile, printEnde z = ⟨(antwort z.details).1, z.edit, z.gesenkt, z.subpage, z.modus, z.page,
        zeile, z.gesendet⟩ ∧
      (z.page.istHeiz = true → z.modus = .edit → z.details.expected = 0 →
        zeile = zeileVon z.subpage z.edit) := by
  simp only [printEnde]
  by_cases hp : z.page.istHeiz = false
  · rw [if_pos hp]
    exact ⟨z.zeile, rfl, fun hpage => by rw [hp] at hpage; cases hpage⟩
  · rw [if_neg hp]
    cases hantwort : (antwort z.details).2 with
    | none =>
        refine ⟨.fehler, rfl, fun _ _ h0 => ?_⟩
        rw [antwort_isSome h0] at hantwort
        cases hantwort
    | some w => exact ⟨_, rfl, fun _ hedit _ => by rw [hedit]⟩

theorem printEnde_werteOk (h : WerteOk z) : WerteOk (printEnde z) := by
  have hwerte := antwort_werte z.details
  obtain ⟨zeile, heq, -⟩ := printEnde_eq z
  rw [heq]
  exact h.congr rfl (by rw [hwerte]) (by rw [hwerte]) rfl rfl

theorem printEnde_modus (z : HeizEditor) : (printEnde z).modus = z.modus := by
  obtain ⟨zeile, heq, -⟩ := printEnde_eq z
  rw [heq]

theorem printEnde_gesendet (z : HeizEditor) : (printEnde z).gesendet = z.gesendet := by
  obtain ⟨zeile, heq, -⟩ := printEnde_eq z
  rw [heq]

/-- If the page has come to be edited while it was drawn, it shows what is edited unless
the query has failed. -/
theorem printEnde_zeile (h : z.page.istHeiz = true → z.modus = .edit → z.details.expected = 0) :
    ZeileStimmt (printEnde z) := by
  obtain ⟨zeile, heq, hzeile⟩ := printEnde_eq z
  rw [heq]
  exact fun hedit hp _ => hzeile hp hedit (h hp hedit)

/-- Drawing. -/
theorem print_werteOk (h : WerteOk z) : WerteOk (heizPagePrintPage selfaddr running z).1 := by
  have hfragen : WerteOk (detailsFragen selfaddr z.page.heizId { z with zeile := .leer }) :=
    h.congr rfl rfl rfl rfl rfl
  rw [heizPagePrintPage]
  split
  · cases running with
    | false => exact hfragen
    | true => exact printEnde_werteOk (hfragen.congr rfl rfl rfl rfl rfl)
  · exact h.congr rfl rfl rfl rfl rfl

theorem print_zeile (z : HeizEditor) : ZeileStimmt (heizPagePrintPage selfaddr running z).1 := by
  rw [heizPagePrintPage]
  split
  · rename_i hmodus
    cases running with
    | false => exact zeileStimmt_view hmodus
    | true => exact zeileStimmt_view ((printEnde_modus _).trans hmodus)
  · exact fun _ _ _ => rfl

/-- Drawing asks questions and sends nothing else. -/
theorem print_gesendet (selfaddr : UInt16) (running : Bool) (z : HeizEditor) :
    ∃ anfragen, (heizPagePrintPage selfaddr running z).1.gesendet = z.gesendet ++ anfragen ∧
      ∀ a ∈ anfragen, IstAnfrage a := by
  have hdetails : ∀ id, IstAnfrage (heizDetailsRequest selfaddr id) := by
    intro id
    simp [IstAnfrage, heizDetailsRequest]
  have htist : ∀ id, IstAnfrage (heizTistRequest selfaddr id) := by
    intro id
    simp [IstAnfrage, heizTistRequest]
  rw [heizPagePrintPage]
  split
  · cases running with
    | false => exact ⟨[heizDetailsRequest selfaddr z.page.heizId], rfl, by simp [hdetails]⟩
    | true =>
        refine ⟨[heizDetailsRequest selfaddr z.page.heizId, heizTistRequest selfaddr z.page.heizId],
          ?_, by simp [hdetails, htist]⟩
        simp [printEnde_gesendet, tistFragen, detailsFragen]
  · exact ⟨[], by simp, by simp⟩

/-- The end of the query of OK: the values of the heating are loaded, if it answers. -/
theorem editEnde_ok (h : WerteOk z) :
    WerteOk (editEnde selfaddr running z).1 ∧ ZeileStimmt (editEnde selfaddr running z).1 := by
  have hwerte := antwort_werte z.details
  have hload : ∀ z' : HeizEditor, WerteOk z' →
      WerteOk (if z'.subpage = 1 ∧ z'.edit.mode = heizungModeAutomatik then (z', none)
        else heizPagePrintPage selfaddr running { z' with modus := .edit }).1 ∧
      ZeileStimmt (if z'.subpage = 1 ∧ z'.edit.mode = heizungModeAutomatik then (z', none)
        else heizPagePrintPage selfaddr running { z' with modus := .edit }).1 := by
    intro z' hz'
    split_ifs with hauto
    · refine ⟨hz', fun _ _ hwert => ?_⟩
      -- on this subpage the automatic mode has no value
      rcases hwert with h0 | hm | hm
      · rw [hauto.1] at h0
        exact absurd h0 (by decide)
      · rw [hauto.2] at hm
        exact absurd hm (by decide)
      · rw [hauto.2] at hm
        exact absurd hm (by decide)
    · exact ⟨print_werteOk (hz'.congr rfl rfl rfl rfl rfl), print_zeile _⟩
  simp only [editEnde]
  cases hantwort : (antwort z.details).2 with
  | none => exact hload _ (h.congr rfl (by rw [hwerte]) (by rw [hwerte]) rfl rfl)
  | some w =>
      have hw := antwort_some hantwort
      subst hw
      refine hload _ ⟨h.detailsRate, h.detailsMode, ?_, ?_, h.subpage, fun hg => by cases hg⟩
      · rw [hwerte]
        exact h.detailsRate
      · rw [hwerte]
        exact h.detailsMode

theorem editBeginnen_ok (h : WerteOk z) (hmodus : z.modus = .view) :
    WerteOk (editBeginnen selfaddr running z).1 ∧
      ZeileStimmt (editBeginnen selfaddr running z).1 := by
  rw [editBeginnen]
  cases running with
  | false => exact ⟨h.congr rfl rfl rfl rfl rfl, zeileStimmt_view hmodus⟩
  | true =>
      rw [if_pos rfl]
      exact editEnde_ok (h.congr rfl rfl rfl rfl rfl)

theorem heizOderAndere_ok (h : WerteOk z) :
    WerteOk (heizOderAndere selfaddr running z).1 ∧
      ZeileStimmt (heizOderAndere selfaddr running z).1 := by
  rw [heizOderAndere]
  split_ifs with hp
  · exact ⟨print_werteOk h, print_zeile z⟩
  · exact ⟨h.congr rfl rfl rfl rfl rfl, fun _ hpage => absurd hpage hp⟩

/-! ## The keys -/

/-- A value that is raised and stays below its bound does not wrap. -/
theorem add_le_bound {x k n : UInt8} (h : x.toNat + k.toNat ≤ n.toNat) : x + k ≤ n := by
  have hlt := n.toNat_lt
  rw [UInt8.le_iff_toNat_le, UInt8.toNat_add, Nat.mod_eq_of_lt (by omega)]
  exact h

theorem sub_le_bound {x k n : UInt8} (hk : k ≤ x) (h : x ≤ n) : x - k ≤ n :=
  UInt8.le_trans (UInt8.sub_le hk) h

/-- KEY_UP keeps the range. -/
theorem hoch_ok (subpage : UInt8) (hrate : w.rate ≤ 100) (hmode : w.mode ≤ heizungModeAutomatik)
    (hschritt : subpage = 1 → w.mode = heizungModeManual → ¬ (90 < w.rate ∧ w.rate < 100)) :
    (hoch subpage w).rate ≤ 100 ∧ (hoch subpage w).mode ≤ heizungModeAutomatik ∧
      (w.dauer ≠ 0 → (hoch subpage w).dauer ≠ 0) := by
  rw [hoch]
  split_ifs with h0 hlt h1 hm hr ht hts h2 he hd
  · refine ⟨hrate, ?_, id⟩
    have hlt' : w.mode.toNat < 3 := UInt8.lt_iff_toNat_lt.mp hlt
    exact add_le_bound hlt'
  · exact ⟨hrate, hmode, id⟩
  · refine ⟨?_, hmode, id⟩
    have hno := hschritt h1 hm
    have hr' : w.rate.toNat < 100 := UInt8.lt_iff_toNat_lt.mp hr
    have hlow : ¬ 90 < w.rate.toNat := fun h90 => hno ⟨UInt8.lt_iff_toNat_lt.mpr h90, hr⟩
    apply add_le_bound
    show w.rate.toNat + 10 ≤ 100
    omega
  · exact ⟨hrate, hmode, id⟩
  · exact ⟨hrate, hmode, id⟩
  · exact ⟨hrate, hmode, id⟩
  · exact ⟨hrate, hmode, id⟩
  · refine ⟨hrate, hmode, fun _ hzero => ?_⟩
    have hd' : w.dauer.toNat < 43200 := UInt16.lt_iff_toNat_lt.mp hd
    have hval := congrArg UInt16.toNat hzero
    rw [UInt16.toNat_add, UInt16.toNat_mul, UInt16.toNat_div] at hval
    have hval' : (w.dauer.toNat / 900 * 900 % 65536 + 900) % 65536 = 0 := hval
    omega
  · exact ⟨hrate, hmode, id⟩
  · exact ⟨hrate, hmode, id⟩
  · exact ⟨hrate, hmode, id⟩

/-- KEY_DOWN keeps the range, and does not lower the duration to 0. -/
theorem runter_ok (subpage : UInt8) (hrate : w.rate ≤ 100) (hmode : w.mode ≤ heizungModeAutomatik)
    (hschritt : subpage = 1 → w.mode = heizungModeManual → ¬ (0 < w.rate ∧ w.rate < 10))
    (hdauer : subpage = 2 → Einstellbar w → ¬ (900 < w.dauer ∧ w.dauer < 1800)) :
    (runter subpage w).rate ≤ 100 ∧ (runter subpage w).mode ≤ heizungModeAutomatik ∧
      ((runter subpage w).dauer ≠ w.dauer → (runter subpage w).dauer ≠ 0) := by
  rw [runter]
  split_ifs with h0 hgt h1 hm hr ht hts h2 he hd
  · refine ⟨hrate, ?_, fun h => absurd rfl h⟩
    have hgt' : 0 < w.mode.toNat := UInt8.lt_iff_toNat_lt.mp hgt
    exact sub_le_bound (UInt8.le_iff_toNat_le.mpr hgt') hmode
  · exact ⟨hrate, hmode, fun h => absurd rfl h⟩
  · refine ⟨?_, hmode, fun h => absurd rfl h⟩
    have hno := hschritt h1 hm
    have hlow : ¬ w.rate.toNat < 10 := fun h10 => hno ⟨hr, UInt8.lt_iff_toNat_lt.mpr h10⟩
    exact sub_le_bound (UInt8.le_iff_toNat_le.mpr (Nat.le_of_not_lt hlow)) hrate
  · exact ⟨hrate, hmode, fun h => absurd rfl h⟩
  · exact ⟨hrate, hmode, fun h => absurd rfl h⟩
  · exact ⟨hrate, hmode, fun h => absurd rfl h⟩
  · exact ⟨hrate, hmode, fun h => absurd rfl h⟩
  · refine ⟨hrate, hmode, fun _ hzero => ?_⟩
    have hno := hdauer h2 he
    have hd' : 900 < w.dauer.toNat := UInt16.lt_iff_toNat_lt.mp hd
    have hlow : ¬ w.dauer.toNat < 1800 := fun h => hno ⟨hd, UInt16.lt_iff_toNat_lt.mpr h⟩
    have hlt := w.dauer.toNat_lt
    have hval := congrArg UInt16.toNat hzero
    rw [UInt16.toNat_sub, UInt16.toNat_mul, UInt16.toNat_div] at hval
    have hval' : (65536 - 900 + w.dauer.toNat / 900 * 900 % 65536) % 65536 = 0 := hval
    omega
  · exact ⟨hrate, hmode, fun h => absurd rfl h⟩
  · exact ⟨hrate, hmode, fun h => absurd rfl h⟩
  · exact ⟨hrate, hmode, fun h => absurd rfl h⟩

theorem WerteOk.subpage_to (h : WerteOk z) {s : UInt8} (hs : s ≤ 2) :
    WerteOk ⟨z.details, z.edit, z.gesenkt, s, z.modus, z.page, z.zeile, z.gesendet⟩ :=
  ⟨h.rate, h.mode, h.detailsRate, h.detailsMode, hs, h.gesenkt⟩

theorem WerteOk.edit_to (h : WerteOk z) {b : Bool} (hrate : w.rate ≤ 100)
    (hmode : w.mode ≤ heizungModeAutomatik) (hb : b = true → w.dauer ≠ 0) :
    WerteOk ⟨z.details, w, b, z.subpage, z.modus, z.page, z.zeile, z.gesendet⟩ :=
  ⟨hrate, hmode, h.detailsRate, h.detailsMode, h.subpage, hb⟩

/-- The subpage stays in 0..2. -/
theorem subpage_hoch {s : UInt8} (h : s ≤ 2) : (if s > 0 then s - 1 else s) ≤ 2 := by
  split_ifs with hpos
  · have hpos' : 0 < s.toNat := UInt8.lt_iff_toNat_lt.mp hpos
    exact sub_le_bound (UInt8.le_iff_toNat_le.mpr hpos') h
  · exact h

theorem subpage_runter {s : UInt8} (h : s ≤ 2) (w : HeizWerte) :
    (if s < obereGrenze w then s + 1 else s) ≤ 2 := by
  have hgrenze : (obereGrenze w).toNat ≤ 2 := by
    rw [obereGrenze]
    split_ifs
    · exact Nat.zero_le 2
    · exact Nat.le_refl 2
  split_ifs with hlt
  · have hlt' := UInt8.lt_iff_toNat_lt.mp hlt
    exact add_le_bound (Nat.le_trans hlt' hgrenze)
  · exact h

/-- **One key** on the page. -/
theorem key_ok {k : UInt8} (h : WerteOk z) (hz : ZeileStimmt z)
    (hk : z.modus = .edit → BedachteTaste z k) (muell : CanixFrame) :
    WerteOk (heizPageHandleKeyDownEvent selfaddr seiten k muell running z).1 ∧
      ZeileStimmt (heizPageHandleKeyDownEvent selfaddr seiten k muell running z).1 := by
  rw [heizPageHandleKeyDownEvent]
  by_cases hok : k = keyOk
  · rw [if_pos hok]
    split
    · rename_i hmodus
      exact editBeginnen_ok h hmodus
    · exact ⟨print_werteOk (h.congr rfl rfl rfl rfl rfl), print_zeile _⟩
  rw [if_neg hok]
  by_cases hesc : k = keyEsc
  · rw [if_pos hesc]
    split
    · rename_i hmodus
      have h0 := h.subpage_to (show (0 : UInt8) ≤ 2 by decide)
      simp only
      split_ifs
      · exact heizOderAndere_ok (h0.congr rfl rfl rfl rfl rfl)
      · exact ⟨h0, zeileStimmt_view hmodus⟩
    · exact ⟨print_werteOk (h.congr rfl rfl rfl rfl rfl), print_zeile _⟩
  rw [if_neg hesc]
  by_cases hup : k = keyUp
  · rw [if_pos hup]
    split
    · exact ⟨print_werteOk (h.subpage_to (subpage_hoch h.subpage)), print_zeile _⟩
    · rename_i hmodus
      obtain ⟨hrate, hmode, hdauer⟩ := hoch_ok z.subpage h.rate h.mode
        fun h1 hm => ((hk hmodus).2.1 h1 hm).1 hup
      exact ⟨print_werteOk (h.edit_to hrate hmode fun hg => hdauer (h.gesenkt hg)), print_zeile _⟩
  rw [if_neg hup]
  by_cases hdown : k = keyDown
  · rw [if_pos hdown]
    split
    · exact ⟨print_werteOk (h.subpage_to (subpage_runter h.subpage z.edit)), print_zeile _⟩
    · rename_i hmodus
      obtain ⟨hrate, hmode, hdauer⟩ := runter_ok z.subpage h.rate h.mode
        (fun h1 hm => ((hk hmodus).2.1 h1 hm).2 hdown) ((hk hmodus).2.2 hdown)
      refine ⟨print_werteOk (h.edit_to hrate hmode fun hg => ?_), print_zeile _⟩
      rcases Bool.or_eq_true_iff.mp hg with hold | hnew
      · by_cases hsame : (runter z.subpage z.edit).dauer = z.edit.dauer
        · rw [hsame]
          exact h.gesenkt hold
        · exact hdauer hsame
      · exact hdauer (of_decide_eq_true hnew)
  · rw [if_neg hdown]
    exact ⟨h, hz⟩

end

/-! ## Runs -/

section

variable {selfaddr : UInt16} {seiten : UInt8 → HeizActive} {c : Paused HeizEditor HeizPlace}

/-- The editor between two events. -/
structure EditorOk (c : Paused HeizEditor HeizPlace) : Prop where
  werte : WerteOk c.state
  zeile : ZeileStimmt c.state

theorem editorOk_start (page : HeizActive) : EditorOk (heizStart page) where
  werte := ⟨show (0 : UInt8) ≤ 100 by decide, show (0 : UInt8) ≤ heizungModeAutomatik by decide,
    show (0 : UInt8) ≤ 100 by decide, show (0 : UInt8) ≤ heizungModeAutomatik by decide,
    show (0 : UInt8) ≤ 2 by decide, nofun⟩
  zeile := zeileStimmt_view rfl

/-- A frame of details keeps the values in range. -/
theorem callback_werte {g : HeizDetails} {f : CanixFrame} (hrate : g.werte.rate ≤ 100)
    (hmode : g.werte.mode ≤ heizungModeAutomatik)
    (hf : f.byte 1 = hcanHesHeizungModeManualDetails → g.expected ≠ 0 → f.byte 2 = g.heizId →
      f.byte 3 ≤ 100) :
    (heizPageCanCallback g f).werte.rate ≤ 100 ∧
      (heizPageCanCallback g f).werte.mode ≤ heizungModeAutomatik := by
  rw [heizPageCanCallback]
  split_ifs with hd he ht
  · simp only [detailsEinlesen]
    split_ifs with h1 h2 h3 h4
    · exact ⟨hrate, show heizungModeOff ≤ heizungModeAutomatik by decide⟩
    · exact ⟨hf h2 he.1 he.2, show heizungModeManual ≤ heizungModeAutomatik by decide⟩
    · exact ⟨hrate, show heizungModeThermostat ≤ heizungModeAutomatik by decide⟩
    · exact ⟨hrate, show heizungModeAutomatik ≤ heizungModeAutomatik by decide⟩
    · exact ⟨hrate, hmode⟩
  · exact ⟨hrate, hmode⟩
  · exact ⟨hrate, hmode⟩
  · exact ⟨hrate, hmode⟩
  · exact ⟨hrate, hmode⟩

/-- The rest of a handler. -/
theorem weiter_ok (h : EditorOk c) (p : HeizPlace) (hp : p = .printZweite →
      c.state.page.istHeiz = true → c.state.modus = .edit → c.state.details.expected = 0) :
    WerteOk (heizWeiter selfaddr p c.state).1 ∧ ZeileStimmt (heizWeiter selfaddr p c.state).1 := by
  cases p with
  | okErste id => exact ⟨h.werte.congr rfl rfl rfl rfl rfl, h.zeile⟩
  | okZweite => exact editEnde_ok h.werte
  | printErste id => exact ⟨h.werte.congr rfl rfl rfl rfl rfl, h.zeile⟩
  | printZweite => exact ⟨printEnde_werteOk h.werte, printEnde_zeile (hp rfl)⟩
  | andere => exact ⟨h.werte, h.zeile⟩

/-- **One step** that meets the condition. -/
theorem editorOk_step (h : EditorOk c) (e : HeizEvent) (hg : Bedacht selfaddr c e) :
    EditorOk (heizStep selfaddr seiten c e) := by
  suffices hstate : WerteOk (heizStep selfaddr seiten c e).state ∧
      ZeileStimmt (heizStep selfaddr seiten c e).state from ⟨hstate.1, hstate.2⟩
  cases e with
  | frame f =>
      rw [heizStep, Paused.handle_state]
      split_ifs with hf
      · obtain ⟨hrate, hmode⟩ := callback_werte h.werte.detailsRate h.werte.detailsMode (hg hf)
        exact ⟨⟨h.werte.rate, h.werte.mode, hrate, hmode, h.werte.subpage, h.werte.gesenkt⟩,
          h.zeile⟩
      · exact ⟨h.werte, h.zeile⟩
  | key k muell =>
      rw [heizStep, Paused.handle_state]
      split_ifs with hp
      · exact key_ok h.werte h.zeile (hg hp) muell
      · exact ⟨h.werte, h.zeile⟩
  | zeigen page =>
      rw [heizStep, Paused.handle_state]
      exact heizOderAndere_ok (h.werte.congr rfl rfl rfl rfl rfl)
  | fehlerSeite =>
      rw [heizStep, Paused.handle_state]
      exact ⟨h.werte.congr rfl rfl rfl rfl rfl, fun _ hp => absurd hp Bool.false_ne_true⟩
  | zeichnen =>
      rw [heizStep, Paused.handle_state]
      refine ⟨h.werte.congr rfl rfl rfl rfl rfl, fun hedit hp => ?_⟩
      rw [hg hp] at hedit
      cases hedit
  | wake =>
      obtain ⟨z, _ | p⟩ := c
      · exact ⟨h.werte, h.zeile⟩
      · exact weiter_ok h p fun hplace => hg (congrArg some hplace)
  | pause =>
      rw [heizStep, Paused.handle_state]
      exact ⟨h.werte, h.zeile⟩

/-- OK after such steps. -/
theorem okRichtig_of_editorOk (h : EditorOk c) (e : HeizEvent) (hg : Bedacht selfaddr c e) :
    HeizOkRichtig selfaddr seiten c e := by
  rintro muell rfl hp hedit
  obtain ⟨hok, -, -⟩ := hg hp hedit
  have hzeile := h.zeile hedit hp (hok rfl)
  rw [heizStep, Paused.handle_state, if_pos hp, heizPageHandleKeyDownEvent, if_pos rfl]
  split
  · rename_i hview
    rw [hview] at hedit
    cases hedit
  · obtain ⟨anfragen, hgesendet, hfragen⟩ := print_gesendet selfaddr c.place.isSome
      ⟨c.state.details, c.state.edit, c.state.gesenkt, c.state.subpage, .view, c.state.page,
        c.state.zeile,
        c.state.gesendet ++ [setHeizEditedDetails selfaddr c.state.page.heizId c.state.subpage
          c.state.edit muell]⟩
    refine ⟨setHeizEditedDetails selfaddr c.state.page.heizId c.state.subpage c.state.edit muell,
      anfragen, ?_, ?_, hfragen⟩
    · rw [hgesendet, List.append_assoc]
      rfl
    · by_cases h0 : c.state.subpage = 0
      · exact bestaetigt_modus h0 h.werte.mode hzeile muell
      · have hle : c.state.subpage.toNat ≤ 2 := UInt8.le_iff_toNat_le.mp h.werte.subpage
        have h12 : c.state.subpage = 1 ∨ c.state.subpage = 2 := by
          simp only [← UInt8.toNat_inj] at h0 ⊢
          show c.state.subpage.toNat = 1 ∨ c.state.subpage.toNat = 2
          have h0' : c.state.subpage.toNat ≠ 0 := h0
          omega
        have hein := (or_iff_right h0).mp (hok rfl)
        exact bestaetigt_wert h12 hein hzeile h.werte.rate h.werte.gesenkt muell

end

/-- **The editor**: in every run whose steps meet the condition, each OK that confirms an
edit sends a complete SET_MODE frame with what is shown. -/
theorem heizPage_guarded (selfaddr : UInt16) (seiten : UInt8 → HeizActive) (page : HeizActive)
    (es : List HeizEvent)
    (h : Guarded (heizStep selfaddr seiten) (Bedacht selfaddr) (heizStart page) es) :
    Guarded (heizStep selfaddr seiten) (HeizOkRichtig selfaddr seiten) (heizStart page) es :=
  guarded_of_guarded (fun _ e hg h => editorOk_step h e hg)
    (fun _ e hg h => okRichtig_of_editorOk h e hg) es _ (editorOk_start page) h

/-- The page of heating 7. -/
private def heizSeite : HeizActive := ⟨true, 0, 7⟩

private def keinMuell : CanixFrame := ⟨0, 0, 0, 0, payload []⟩

/-- Heating 7 reports 50 % for `dauer` seconds, then its temperature. -/
private def geladen (dauer : Nat) : List HeizEvent :=
  [.key keyOk keinMuell,
    .frame (sfpFrame 3 hcanMulticastInfo
      [hcanSrvHes, hcanHesHeizungModeManualDetails, 7, 50, hiByte dauer, loByte dauer]),
    .wake,
    .frame (sfpFrame 3 hcanMulticastInfo [hcanSrvHes, hcanHesHeizungTistReplay, 7, 1, 64]),
    .wake]

/-- The mode is changed to the thermostat and confirmed. -/
theorem heizPage_guarded_modus :
    Guarded (heizStep 1 fun _ => heizSeite) (HeizOkRichtig 1 fun _ => heizSeite)
      (heizStart heizSeite) (geladen 3600 ++ [.key keyUp keinMuell, .key keyOk keinMuell]) :=
  heizPage_guarded 1 (fun _ => heizSeite) heizSeite _ (by decide)

/-- A duration of 1000 seconds is stepped down once: 0 is sent, without limit. -/
theorem heizPage_unbegrenzt :
    ¬ Guarded (heizStep 1 fun _ => heizSeite) (HeizOkRichtig 1 fun _ => heizSeite)
      (heizStart heizSeite)
      (geladen 1000 ++ [.key keyEsc keinMuell, .key keyDown keinMuell, .key keyDown keinMuell,
        .key keyOk keinMuell, .key keyDown keinMuell, .key keyOk keinMuell]) := by
  intro h
  obtain ⟨-, -, -, -, -, -, -, -, -, -, hok, -⟩ := h
  obtain ⟨f, anfragen, -, ⟨w, -, ⟨-, -, -, hedit⟩, -, hdauer⟩, -⟩ := hok keinMuell rfl (by decide)
    (by decide)
  have hw := hedit (by decide)
  subst hw
  exact hdauer (by decide) (by decide) (by decide)

end OpenHcan.Userpanel
