import OpenHcan.Userpanel.HeizDetails
import OpenHcan.Userpanel.Monitore
import OpenHcan.Userpanel.WeckPage

/-!
# HeizPage — the editor of a heating (`userpanel-v01/heiz_page.c`)

Three subpages show the mode, the rate or temperature, and the duration of a heating.
OK loads them from the heating and starts to edit, OK again sends them. The edit
variables, the subpage and the state are globals, so they survive other pages and
questions without an answer, and keys arrive while the page waits for one.
-/

namespace OpenHcan.Userpanel

open Lib Heizung

set_option maxRecDepth 100000

/-- `lcdstate.active_page`, as far as the page reads it. `heizId` is the byte at the
place of the id, whatever page is loaded. -/
structure HeizActive where
  istHeiz : Bool
  parentId : UInt8
  heizId : UInt8
deriving DecidableEq, Repr

/-- What the second line of the display shows. -/
inductive Zeile
  | leer
  | anderes
  | fehler
  | strich
  | modus (mode : UInt8)
  | rate (rate : UInt8)
  | tsoll (t1 t2 : UInt8)
  | dauer (d1 d2 : UInt8)
deriving DecidableEq, Repr

/-- The second line of the page for the values `w`. -/
def zeileVon (subpage : UInt8) (w : HeizWerte) : Zeile :=
  let t1 := (w.tsoll >>> 4).toUInt16.toUInt8
  let t2 := (((w.tsoll &&& 0x0f) * 10) >>> 4).toUInt16.toUInt8
  let d1 := (w.dauer / 3600).toUInt8
  let d2 := ((w.dauer / 60) % 60).toUInt8
  if subpage = 0 then .modus w.mode
  else if subpage = 1 then
    if w.mode = heizungModeOff then .strich
    else if w.mode = heizungModeManual then .rate w.rate
    else if w.mode = heizungModeThermostat ∨ w.mode = heizungModeAutomatik then .tsoll t1 t2
    else .anderes
  else if subpage = 2 then
    if w.mode = heizungModeManual ∨ w.mode = heizungModeThermostat then .dauer d1 d2
    else if w.mode = heizungModeOff ∨ w.mode = heizungModeAutomatik then .strich
    else .anderes
  else .anderes

/-- The query, `heiz_details_…_edit`, `heiz_page_subpage`, `heiz_page_state`, the page,
the second line of the display and the frames sent. `gesenkt` says that KEY_DOWN has
lowered the duration since the values were loaded; the source has no such variable. -/
structure HeizEditor where
  details : HeizDetails
  edit : HeizWerte
  gesenkt : Bool
  subpage : UInt8
  modus : PageState
  page : HeizActive
  zeile : Zeile
  gesendet : List CanixFrame
deriving DecidableEq, Repr

/-- Where a handler of the panel goes on after its sleep: after the first or the second
question of OK or of drawing, or in a handler of something else. -/
inductive HeizPlace
  | okErste (heizId : UInt8)
  | okZweite
  | printErste (heizId : UInt8)
  | printZweite
  | andere
deriving DecidableEq, Repr

/-- `message` on the stack with its first bytes set; the rest is what was there. -/
def nachricht (selfaddr : UInt16) (muell : CanixFrame) (bytes : List UInt8) : CanixFrame where
  src := selfaddr
  dst := hcanMulticastControl
  proto := hcanProtoSfp
  size := UInt8.ofNat bytes.length
  data := Vector.ofFn fun i => bytes.getD i (muell.byte i)

/-- `message` when no branch of the `switch` has filled it. -/
def leereNachricht (selfaddr : UInt16) (muell : CanixFrame) : CanixFrame where
  src := selfaddr
  dst := hcanMulticastControl
  proto := hcanProtoSfp
  size := muell.size
  data := Vector.ofFn fun i => [hcanSrvHes].getD i (muell.byte i)

section

variable (selfaddr : UInt16) (seiten : UInt8 → HeizActive)

/-- The frame of `set_heiz_edited_details`. `muell` is what lies on the stack. -/
def setHeizEditedDetails (heizId subpage : UInt8) (w : HeizWerte) (muell : CanixFrame) :
    CanixFrame :=
  if subpage = 0 then
    if w.mode = heizungModeOff then
      nachricht selfaddr muell [hcanSrvHes, hcanHesHeizungSetModeOff, heizId]
    else if w.mode = heizungModeManual then
      nachricht selfaddr muell [hcanSrvHes, hcanHesHeizungSetModeManual, heizId, 0, 84, 96]
    else if w.mode = heizungModeThermostat then
      nachricht selfaddr muell
        [hcanSrvHes, hcanHesHeizungSetModeThermostatDetails, heizId, 1, 64, 84, 96]
    else if w.mode = heizungModeAutomatik then
      nachricht selfaddr muell [hcanSrvHes, hcanHesHeizungSetModeAutomatik, heizId]
    else leereNachricht selfaddr muell
  else if subpage = 1 ∨ subpage = 2 then
    if w.mode = heizungModeManual then
      nachricht selfaddr muell
        [hcanSrvHes, hcanHesHeizungSetModeManual, heizId, w.rate, hiByte w.dauer.toNat,
          loByte w.dauer.toNat]
    else if w.mode = heizungModeThermostat then
      nachricht selfaddr muell
        [hcanSrvHes, hcanHesHeizungSetModeThermostatDetails, heizId,
          hiByte w.tsoll.toUInt16.toNat, loByte w.tsoll.toUInt16.toNat, hiByte w.dauer.toNat,
          loByte w.dauer.toNat]
    else leereNachricht selfaddr muell
  else leereNachricht selfaddr muell

/-- `get_heiz_details` up to its first sleep. -/
def detailsFragen (heizId : UInt8) (z : HeizEditor) : HeizEditor :=
  { z with
    details := ⟨1, heizId, { z.details.werte with tsoll := 0 }, z.details.tist⟩
    gesendet := z.gesendet ++ [heizDetailsRequest selfaddr heizId] }

/-- `get_heiz_details` between its sleeps. -/
def tistFragen (heizId : UInt8) (z : HeizEditor) : HeizEditor :=
  { z with
    details := ⟨2, z.details.heizId, z.details.werte, z.details.tist⟩
    gesendet := z.gesendet ++ [heizTistRequest selfaddr heizId] }

/-- `get_heiz_details` after its second sleep. `none` is the return value 1. -/
def antwort (g : HeizDetails) : HeizDetails × Option HeizWerte :=
  if g.expected = 0 then (⟨g.expected, 0, g.werte, g.tist⟩, some g.werte) else (g, none)

/-- `heiz_page_print_page` after the query in the state VIEW. -/
def printEnde (z : HeizEditor) : HeizEditor :=
  let (g, werte) := antwort z.details
  let z := { z with details := g }
  if z.page.istHeiz = false then z
  else
    match werte with
    | none => { z with zeile := .fehler }
    | some w =>
        { z with
          zeile := zeileVon z.subpage (match z.modus with | .view => w | .edit => z.edit) }

/-- `heiz_page_print_page` -/
def heizPagePrintPage (running : Bool) (z : HeizEditor) : HeizEditor × Option HeizPlace :=
  match z.modus with
  | .view =>
      let heizId := z.page.heizId
      let z := detailsFragen selfaddr heizId { z with zeile := .leer }
      if running then (printEnde (tistFragen selfaddr heizId z), none)
      else (z, some (.printErste heizId))
  | .edit => ({ z with zeile := zeileVon z.subpage z.edit }, none)

/-- KEY_OK in the state VIEW, after the query. -/
def editEnde (running : Bool) (z : HeizEditor) : HeizEditor × Option HeizPlace :=
  let (g, werte) := antwort z.details
  let z := { z with details := g }
  let z :=
    match werte with
    | none => z
    | some w => { z with edit := w, gesenkt := false }
  if z.subpage = 1 ∧ z.edit.mode = heizungModeAutomatik then (z, none)
  else heizPagePrintPage selfaddr running { z with modus := .edit }

/-- KEY_OK in the state VIEW. -/
def editBeginnen (running : Bool) (z : HeizEditor) : HeizEditor × Option HeizPlace :=
  let heizId := z.page.heizId
  let z := detailsFragen selfaddr heizId z
  if running then editEnde selfaddr running (tistFragen selfaddr heizId z)
  else (z, some (.okErste heizId))

/-- `print_page`. The other pages only touch the display. -/
def heizOderAndere (running : Bool) (z : HeizEditor) : HeizEditor × Option HeizPlace :=
  if z.page.istHeiz then heizPagePrintPage selfaddr running z
  else ({ z with zeile := .anderes }, none)

/-- The values after KEY_UP in the state EDIT. -/
def hoch (subpage : UInt8) (w : HeizWerte) : HeizWerte :=
  if subpage = 0 then
    if w.mode < heizungModeAutomatik then { w with mode := w.mode + 1 } else w
  else if subpage = 1 then
    if w.mode = heizungModeManual then
      if w.rate < 100 then { w with rate := w.rate + 10 } else w
    else if w.mode = heizungModeThermostat then
      if w.tsoll < 480 then { w with tsoll := w.tsoll + 2 } else w
    else w
  else if subpage = 2 then
    if w.mode = heizungModeManual ∨ w.mode = heizungModeThermostat then
      if w.dauer < 43200 then { w with dauer := w.dauer / 900 * 900 + 900 } else w
    else w
  else w

/-- The values after KEY_DOWN in the state EDIT. -/
def runter (subpage : UInt8) (w : HeizWerte) : HeizWerte :=
  if subpage = 0 then
    if w.mode > heizungModeOff then { w with mode := w.mode - 1 } else w
  else if subpage = 1 then
    if w.mode = heizungModeManual then
      if w.rate > 0 then { w with rate := w.rate - 10 } else w
    else if w.mode = heizungModeThermostat then
      if w.tsoll > 0 then { w with tsoll := w.tsoll - 2 } else w
    else w
  else if subpage = 2 then
    if w.mode = heizungModeManual ∨ w.mode = heizungModeThermostat then
      if w.dauer > 900 then { w with dauer := w.dauer / 900 * 900 - 900 } else w
    else w
  else w

/-- `OBERE_GRENZE` -/
def obereGrenze (w : HeizWerte) : UInt8 :=
  if w.mode = heizungModeOff ∨ w.mode = heizungModeAutomatik then 0 else 2

/-- `heiz_page_handle_key_down_event`. `seiten` is what `load_page` leaves for an id. -/
def heizPageHandleKeyDownEvent (key : UInt8) (muell : CanixFrame) (running : Bool)
    (z : HeizEditor) : HeizEditor × Option HeizPlace :=
  if key = keyOk then
    match z.modus with
    | .view => editBeginnen selfaddr running z
    | .edit =>
        let f := setHeizEditedDetails selfaddr z.page.heizId z.subpage z.edit muell
        heizPagePrintPage selfaddr running
          { z with modus := .view, gesendet := z.gesendet ++ [f] }
  else if key = keyEsc then
    match z.modus with
    | .view =>
        let z := { z with subpage := 0 }
        if z.page.parentId ≠ 0 then
          heizOderAndere selfaddr running { z with page := seiten z.page.parentId }
        else (z, none)
    | .edit => heizPagePrintPage selfaddr running { z with modus := .view }
  else if key = keyUp then
    match z.modus with
    | .view =>
        heizPagePrintPage selfaddr running
          { z with subpage := if z.subpage > 0 then z.subpage - 1 else z.subpage }
    | .edit => heizPagePrintPage selfaddr running { z with edit := hoch z.subpage z.edit }
  else if key = keyDown then
    match z.modus with
    | .view =>
        heizPagePrintPage selfaddr running
          { z with subpage := if z.subpage < obereGrenze z.edit then z.subpage + 1 else z.subpage }
    | .edit =>
        heizPagePrintPage selfaddr running
          { z with
            edit := runter z.subpage z.edit
            gesenkt := z.gesenkt || decide ((runter z.subpage z.edit).dauer ≠ z.edit.dauer) }
  else (z, none)

/-- What is left of a handler after its sleep. -/
def heizWeiter : HeizPlace → HeizEditor → HeizEditor × Option HeizPlace
  | .okErste heizId, z => (tistFragen selfaddr heizId z, some .okZweite)
  | .okZweite, z => editEnde selfaddr false z
  | .printErste heizId, z => (tistFragen selfaddr heizId z, some .printZweite)
  | .printZweite, z => (printEnde z, none)
  | .andere, z => (z, none)

/-- What happens to the panel: a frame; a key, with what lies on the stack then; another
page is loaded and drawn, or the same one again; an error page is loaded; another
handler draws; the sleep is over; another handler goes to sleep. -/
inductive HeizEvent
  | frame (f : CanixFrame)
  | key (k : UInt8) (muell : CanixFrame)
  | zeigen (page : HeizActive)
  | fehlerSeite
  | zeichnen
  | wake
  | pause
deriving DecidableEq, Repr

/-- One event. The keys of other pages are other handlers. -/
def heizStep (c : Paused HeizEditor HeizPlace) : HeizEvent → Paused HeizEditor HeizPlace
  | .frame f => c.handle fun _ z =>
      (if FuerPanel selfaddr f ∧ z.page.istHeiz = true then
        { z with details := heizPageCanCallback z.details f }
      else z, none)
  | .key k muell => c.handle fun running z =>
      if z.page.istHeiz then heizPageHandleKeyDownEvent selfaddr seiten k muell running z
      else (z, none)
  | .zeigen page =>
      c.handle fun running z => heizOderAndere selfaddr running { z with page := page }
  | .fehlerSeite => c.handle fun _ z => ({ z with page := ⟨false, 0, z.page.heizId⟩ }, none)
  | .zeichnen => c.handle fun _ z => ({ z with zeile := .anderes }, none)
  | .wake => c.wake (heizWeiter selfaddr)
  | .pause => c.handle fun _ z => (z, some .andere)

end

/-- The variables after a reset, with some page loaded. -/
def heizStart (page : HeizActive) : Paused HeizEditor HeizPlace :=
  ⟨⟨⟨0, 0, ⟨0, 0, 0, 0⟩, 0⟩, ⟨0, 0, 0, 0⟩, false, 0, .view, page, .leer, []⟩, none⟩

/-- The query of the page is `get_heiz_details`, cut at its sleeps. -/
theorem getHeizDetails_eq_antwort (selfaddr : UInt16) (heizId : UInt8) (fs fs' : List CanixFrame)
    (z : HeizEditor) :
    let wartet := run heizPageCanCallback (detailsFragen selfaddr heizId z).details fs
    let gefragt := run heizPageCanCallback ⟨2, wartet.heizId, wartet.werte, wartet.tist⟩ fs'
    (getHeizDetails heizId fs fs' z.details).2.map HeizAntwort.werte = (antwort gefragt).2 := by
  intro wartet gefragt
  show ((if gefragt.expected = 0 then
      ((⟨gefragt.expected, 0, gefragt.werte, gefragt.tist⟩ : HeizDetails),
        some (⟨gefragt.werte, gefragt.tist⟩ : HeizAntwort))
    else (gefragt, none)).2).map HeizAntwort.werte = (antwort gefragt).2
  rw [antwort]
  split_ifs
  · rfl
  · rfl

end OpenHcan.Userpanel
