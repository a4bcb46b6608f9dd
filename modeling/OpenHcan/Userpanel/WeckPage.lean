import OpenHcan.Devices.Powerport
import OpenHcan.Lib.Machine

/-!
# WeckPage — the wake-up timer of the user panel (`userpanel-v01/weck_page.c`)

The page asks a powerport for its timer and waits for the answer; a flag says
that it is still waiting. Any frame with the id in its third byte clears the
flag, so the answer need not have come. In edit mode KEY_UP rounds up and then
steps, which are two steps, while KEY_DOWN rounds down (`weckPage_iff`).
-/

namespace OpenHcan.Userpanel

open Lib Powerport

set_option maxRecDepth 100000

/-! ## Keys -/

def keyOk : UInt8 := 3
def keyEsc : UInt8 := 2
def keyUp : UInt8 := 7
def keyDown : UInt8 := 6

/-- `STATE_VIEW` and `STATE_EDIT`. -/
inductive PageState
  | view
  | edit
deriving DecidableEq, Repr

/-! ## The query -/

/-- `weck_details_expected`, `weck_details_weck_id` and `weck_details_dauer`. -/
structure WeckDetails where
  expected : UInt8
  weckId : UInt8
  dauer : UInt16
deriving DecidableEq, Repr

/-- The duration in a `WECKER_DETAILS` frame. -/
def weckerDauer (f : CanixFrame) : UInt16 := UInt16.ofNat (word (f.byte 3) (f.byte 4))

/-- `weck_page_can_callback` -/
def weckPageCanCallback (g : WeckDetails) (f : CanixFrame) : WeckDetails :=
  if g.expected ≠ 0 ∧ f.byte 2 = g.weckId then
    let g : WeckDetails := { g with expected := g.expected &&& ~~~ 0x01 }
    if f.byte 1 = hcanHesWeckerDetails then { g with dauer := weckerDauer f } else g
  else g

/-- The frame `get_weck_details` sends. -/
def weckerDetailsRequest (selfaddr : UInt16) (weckId : UInt8) : CanixFrame :=
  sfpFrame selfaddr hcanMulticastControl [hcanSrvHes, hcanHesWeckerDetailsRequest, weckId]

/-- `get_weck_details` with the frames that are delivered while it waits. `none` is
the return value 1. -/
def getWeckDetails (weckId : UInt8) (frames : List CanixFrame) (g : WeckDetails) :
    WeckDetails × Option UInt16 :=
  let g : WeckDetails := { g with expected := 1, weckId := weckId }
  let g := run weckPageCanCallback g frames
  if g.expected = 0 then ({ g with weckId := 0 }, some g.dauer) else (g, none)

/-! ## The keys -/

/-- `eds_weck_page_block_t`, the fields of the handlers. -/
structure EdsWeckPageBlock where
  feature : UInt8
  weckId : UInt8
deriving DecidableEq, Repr

/-- `weck_details_dauer_edit` and `weck_page_state`. -/
structure WeckEditor where
  dauerEdit : UInt16
  state : PageState
deriving DecidableEq, Repr

/-- What the key handler does besides. -/
inductive PageAktion
  | cursorBlink
  | cursorOff
  | printPage
  | gotoPageUp
  | send (f : CanixFrame)
deriving DecidableEq, Repr

/-- The number of a feature, `POWERPORT_FEATURE_WECK_…`. -/
def weckVerzoegertEinBit : UInt8 := 4
def weckAutoAusBit : UInt8 := 5

/-- The frame `set_weck_edited_details` sends. -/
def weckerSetFrame (selfaddr : UInt16) (p : EdsWeckPageBlock) (dauer : UInt16) : CanixFrame :=
  let art :=
    if p.feature &&& (1 <<< weckVerzoegertEinBit) ≠ 0 then weckVerzoegertEinBit
    else if p.feature &&& (1 <<< weckAutoAusBit) ≠ 0 then weckAutoAusBit
    else weckVerzoegertEinBit
  sfpFrame selfaddr hcanMulticastControl
    [hcanSrvHes, hcanHesWeckerSet, p.weckId, art, hiByte dauer.toNat, loByte dauer.toNat]

/-- KEY_UP in edit mode. -/
def dauerUp (dauer : UInt16) : UInt16 :=
  if dauer < 43200 then (dauer / 300 + 1) * 300 + 300 else dauer

/-- KEY_DOWN in edit mode. -/
def dauerDown (dauer : UInt16) : UInt16 :=
  if dauer > 300 then dauer / 300 * 300 - 300 else dauer

/-- `weck_page_handle_key_down_event` -/
def weckPageHandleKeyDownEvent (selfaddr : UInt16) (p : EdsWeckPageBlock) (e : WeckEditor)
    (key : UInt8) : WeckEditor × List PageAktion :=
  if key = keyOk then
    match e.state with
    | .view => (⟨1200, .edit⟩, [.cursorBlink, .printPage])
    | .edit =>
        (⟨e.dauerEdit, .view⟩,
          [.cursorOff, .send (weckerSetFrame selfaddr p e.dauerEdit), .printPage])
  else if key = keyEsc then
    match e.state with
    | .view => (e, [.gotoPageUp])
    | .edit => (⟨e.dauerEdit, .view⟩, [.cursorOff, .printPage])
  else if key = keyUp then
    match e.state with
    | .view => (e, [])
    | .edit => (⟨dauerUp e.dauerEdit, .edit⟩, [.printPage])
  else if key = keyDown then
    match e.state with
    | .view => (e, [])
    | .edit => (⟨dauerDown e.dauerEdit, .edit⟩, [.printPage])
  else (e, [])

/-! ## The statements -/

/-- A `WECKER_DETAILS` frame of the timer. -/
def IstWeckerDetails (weckId : UInt8) (f : CanixFrame) : Prop :=
  f.byte 1 = hcanHesWeckerDetails ∧ f.byte 2 = weckId

instance (weckId : UInt8) (f : CanixFrame) : Decidable (IstWeckerDetails weckId f) :=
  inferInstanceAs (Decidable (_ ∧ _))

/-- A value that the query returns is the one of a `WECKER_DETAILS` frame that came
during the wait. -/
def AntwortGekommen (weckId : UInt8) (frames : List CanixFrame) (g : WeckDetails) : Prop :=
  ∀ dauer, (getWeckDetails weckId frames g).2 = some dauer →
    ∃ f ∈ frames, IstWeckerDetails weckId f ∧ dauer = weckerDauer f

/-- The two keys that change the duration. -/
inductive EditKey
  | up
  | down
deriving DecidableEq, Repr

/-- The code of the key. -/
def EditKey.code : EditKey → UInt8
  | .up => keyUp
  | .down => keyDown

/-- The editor after a key. -/
def editorStep (selfaddr : UInt16) (p : EdsWeckPageBlock) (e : WeckEditor) (k : EditKey) :
    WeckEditor :=
  (weckPageHandleKeyDownEvent selfaddr p e k.code).1

/-- A multiple of five minutes between five minutes and twelve hours. -/
def ImBereich (dauer : UInt16) : Prop :=
  dauer.toNat % 300 = 0 ∧ 300 ≤ dauer.toNat ∧ dauer.toNat ≤ 43200

/-- The key moves the duration by one step of five minutes, unless it is at the
bound, and KEY_DOWN takes a KEY_UP back. -/
def SchrittRichtig (selfaddr : UInt16) (p : EdsWeckPageBlock) (e : WeckEditor) (k : EditKey) :
    Prop :=
  let e' := editorStep selfaddr p e k
  ImBereich e'.dauerEdit ∧
    match k with
    | .up =>
        if e.dauerEdit < 43200 then
          e'.dauerEdit = e.dauerEdit + 300 ∧
            (editorStep selfaddr p e' .down).dauerEdit = e.dauerEdit
        else e'.dauerEdit = e.dauerEdit
    | .down =>
        if e.dauerEdit > 300 then e'.dauerEdit = e.dauerEdit - 300
        else e'.dauerEdit = e.dauerEdit

/-- The editor after KEY_OK on the page. -/
def editorStart (selfaddr : UInt16) (p : EdsWeckPageBlock) (e : WeckEditor) : WeckEditor :=
  (weckPageHandleKeyDownEvent selfaddr p ⟨e.dauerEdit, .view⟩ keyOk).1

/-! ## The wait -/

section

variable {weckId : UInt8} {dauer : UInt16} {frames : List CanixFrame}

theorem run_nichtErwartet (weckId : UInt8) (dauer : UInt16) (frames : List CanixFrame) :
    run weckPageCanCallback ⟨0, weckId, dauer⟩ frames = ⟨0, weckId, dauer⟩ := by
  induction frames with
  | nil => rfl
  | cons f frames ih => rw [run_cons, weckPageCanCallback, if_neg fun h => h.1 rfl, ih]

theorem callback_erwartet (weckId : UInt8) (dauer : UInt16) (f : CanixFrame) :
    weckPageCanCallback ⟨1, weckId, dauer⟩ f =
      if f.byte 2 = weckId then
        ⟨0, weckId, if f.byte 1 = hcanHesWeckerDetails then weckerDauer f else dauer⟩
      else ⟨1, weckId, dauer⟩ := by
  have hone : (1 : UInt8) ≠ 0 := by decide
  have hclear : (1 : UInt8) &&& ~~~ 0x01 = 0 := by decide
  rw [weckPageCanCallback]
  by_cases hid : f.byte 2 = weckId
  · rw [if_pos ⟨hone, hid⟩, if_pos hid]
    simp only [hclear]
    split_ifs <;> rfl
  · rw [if_neg fun h => hid h.2, if_neg hid]

/-- The wait ends with the first frame that has the id in its third byte. -/
theorem run_erwartet (weckId : UInt8) (dauer : UInt16) (frames : List CanixFrame) :
    run weckPageCanCallback ⟨1, weckId, dauer⟩ frames =
      match frames.find? (fun f => f.byte 2 = weckId) with
      | none => ⟨1, weckId, dauer⟩
      | some f =>
          ⟨0, weckId, if f.byte 1 = hcanHesWeckerDetails then weckerDauer f else dauer⟩ := by
  induction frames with
  | nil => rfl
  | cons f frames ih =>
      rw [run_cons, callback_erwartet]
      by_cases hid : f.byte 2 = weckId
      · rw [if_pos hid, List.find?_cons_of_pos (by simp [hid])]
        exact run_nichtErwartet weckId _ frames
      · rw [if_neg hid, List.find?_cons_of_neg (by simp [hid]), ih]

/-- The first frame with the id is the answer, or what is known is what an answer says. -/
def ErsterPasst (weckId : UInt8) (frames : List CanixFrame) (g : WeckDetails) : Prop :=
  ∀ f, frames.find? (fun f => f.byte 2 = weckId) = some f →
    f.byte 1 = hcanHesWeckerDetails ∨
      ∃ f' ∈ frames, IstWeckerDetails weckId f' ∧ g.dauer = weckerDauer f'

theorem antwortGekommen_iff (weckId : UInt8) (frames : List CanixFrame) (g : WeckDetails) :
    AntwortGekommen weckId frames g ↔ ErsterPasst weckId frames g := by
  rw [AntwortGekommen, ErsterPasst, getWeckDetails]
  simp only [run_erwartet]
  cases hfirst : frames.find? fun f => f.byte 2 = weckId with
  | none => simp
  | some f =>
      have hmem := List.mem_of_find?_eq_some hfirst
      have hid : f.byte 2 = weckId := by simpa using List.find?_some hfirst
      simp only [if_true, Option.some.injEq, forall_eq']
      by_cases hdetails : f.byte 1 = hcanHesWeckerDetails
      · simp only [hdetails, if_true, true_or, iff_true]
        exact ⟨f, hmem, ⟨hdetails, hid⟩, rfl⟩
      · simp only [hdetails, if_false, false_or]

end

/-! ## The editor -/

section

variable {selfaddr : UInt16} {p : EdsWeckPageBlock} {e : WeckEditor}

theorem editorStep_up (h : e.state = .edit) :
    editorStep selfaddr p e .up = ⟨dauerUp e.dauerEdit, .edit⟩ := by
  simp only [editorStep, EditKey.code, weckPageHandleKeyDownEvent, h]
  rfl

theorem editorStep_down (h : e.state = .edit) :
    editorStep selfaddr p e .down = ⟨dauerDown e.dauerEdit, .edit⟩ := by
  simp only [editorStep, EditKey.code, weckPageHandleKeyDownEvent, h]
  rfl

/-- From a multiple of five minutes KEY_UP goes two steps. -/
theorem toNat_dauerUp {dauer : UInt16} (h : ImBereich dauer) (hlt : dauer.toNat < 43200) :
    (dauerUp dauer).toNat = dauer.toNat + 600 := by
  have hcmp : dauer < 43200 := UInt16.lt_iff_toNat_lt.mpr hlt
  obtain ⟨hmul, hlow, -⟩ := h
  rw [dauerUp, if_pos hcmp]
  simp only [UInt16.toNat_add, UInt16.toNat_mul, UInt16.toNat_div]
  show (((dauer.toNat / 300 + 1) % 2 ^ 16 * 300) % 2 ^ 16 + 300) % 2 ^ 16 = _
  omega

theorem toNat_dauerDown {dauer : UInt16} (h : ImBereich dauer) (hlt : 300 < dauer.toNat) :
    (dauerDown dauer).toNat = dauer.toNat - 300 := by
  have hcmp : dauer > 300 := UInt16.lt_iff_toNat_lt.mpr hlt
  obtain ⟨hmul, hlow, hhigh⟩ := h
  rw [dauerDown, if_pos hcmp]
  simp only [UInt16.toNat_sub, UInt16.toNat_mul, UInt16.toNat_div]
  show (2 ^ 16 - 300 + dauer.toNat / 300 * 300 % 2 ^ 16) % 2 ^ 16 = _
  omega

/-- An editor that has only been stepped down. -/
structure Abwaerts (e : WeckEditor) : Prop where
  state : e.state = .edit
  bereich : ImBereich e.dauerEdit
  klein : e.dauerEdit.toNat < 43200

theorem abwaerts_start (selfaddr : UInt16) (p : EdsWeckPageBlock) (e : WeckEditor) :
    Abwaerts (editorStart selfaddr p e) :=
  ⟨rfl, show ImBereich 1200 by unfold ImBereich; decide,
    show (1200 : UInt16).toNat < 43200 by decide⟩

/-- **KEY_UP** never makes one step. -/
theorem Abwaerts.up (h : Abwaerts e) : ¬ SchrittRichtig selfaddr p e .up := by
  rintro ⟨-, hstep⟩
  have hcmp : e.dauerEdit < 43200 := UInt16.lt_iff_toNat_lt.mpr h.klein
  simp only [if_pos hcmp, editorStep_up h.state] at hstep
  have htwo := toNat_dauerUp h.bereich h.klein
  have hklein := h.klein
  rw [hstep.1, UInt16.toNat_add, show (300 : UInt16).toNat = 300 from rfl] at htwo
  omega

/-- **KEY_DOWN** makes one step. -/
theorem Abwaerts.down (h : Abwaerts e) (selfaddr : UInt16) (p : EdsWeckPageBlock) :
    SchrittRichtig selfaddr p e .down ∧ Abwaerts (editorStep selfaddr p e .down) := by
  rw [SchrittRichtig, editorStep_down h.state]
  by_cases hlow : 300 < e.dauerEdit.toNat
  · have hcmp : e.dauerEdit > 300 := UInt16.lt_iff_toNat_lt.mpr hlow
    have hdown := toNat_dauerDown h.bereich hlow
    obtain ⟨hmul, -, hhigh⟩ := h.bereich
    have hbereich : ImBereich (dauerDown e.dauerEdit) := by
      rw [ImBereich, hdown]
      omega
    refine ⟨⟨hbereich, ?_⟩, rfl, hbereich, by rw [hdown]; omega⟩
    simp only [if_pos hcmp]
    apply UInt16.toNat_inj.mp
    rw [hdown, UInt16.toNat_sub, show (300 : UInt16).toNat = 300 from rfl]
    omega
  · have hcmp : ¬ e.dauerEdit > 300 := fun hgt => hlow (UInt16.lt_iff_toNat_lt.mp hgt)
    have hsame : dauerDown e.dauerEdit = e.dauerEdit := by rw [dauerDown, if_neg hcmp]
    rw [hsame]
    refine ⟨⟨h.bereich, ?_⟩, rfl, h.bereich, h.klein⟩
    simp only [if_neg hcmp]

/-- The keys make single steps exactly as long as KEY_UP is not among them. -/
theorem guarded_schritte_iff (keys : List EditKey) (h : Abwaerts e) :
    Guarded (editorStep selfaddr p) (SchrittRichtig selfaddr p) e keys ↔ .up ∉ keys := by
  induction keys generalizing e with
  | nil => exact iff_of_true trivial (by simp)
  | cons k keys ih =>
      show SchrittRichtig selfaddr p e k ∧ Guarded _ _ (editorStep selfaddr p e k) keys ↔ _
      cases k with
      | up => exact iff_of_false (fun hg => h.up hg.1) (by simp)
      | down =>
          obtain ⟨hstep, hnext⟩ := h.down selfaddr p
          rw [ih hnext, and_iff_right hstep]
          simp

end

/-- **The wake-up page**: the query is right exactly if the first frame with the id is
the answer (or what is known happens to be what an answer says), and the editor is
right exactly as long as KEY_UP is not pressed. -/
theorem weckPage_iff (selfaddr : UInt16) (p : EdsWeckPageBlock) (e : WeckEditor) (g : WeckDetails)
    (weckId : UInt8) (frames : List CanixFrame) (keys : List EditKey) :
    AntwortGekommen weckId frames g ∧
        Guarded (editorStep selfaddr p) (SchrittRichtig selfaddr p) (editorStart selfaddr p e)
          keys ↔
      (∀ f, frames.find? (fun f => f.byte 2 = weckId) = some f →
          f.byte 1 = hcanHesWeckerDetails ∨
            ∃ f' ∈ frames, IstWeckerDetails weckId f' ∧ g.dauer = weckerDauer f') ∧
        EditKey.up ∉ keys :=
  and_congr (antwortGekommen_iff weckId frames g)
    (guarded_schritte_iff keys (abwaerts_start selfaddr p e))

/-- KEY_UP takes the twenty minutes of a new editor to thirty. -/
theorem weckPage_zweiSchritte :
    ¬ Guarded (editorStep 1 ⟨16, 7⟩) (SchrittRichtig 1 ⟨16, 7⟩)
      (editorStart 1 ⟨16, 7⟩ ⟨0, .view⟩) [.up] :=
  fun h => (abwaerts_start 1 ⟨16, 7⟩ ⟨0, .view⟩).up h.1

end OpenHcan.Userpanel
