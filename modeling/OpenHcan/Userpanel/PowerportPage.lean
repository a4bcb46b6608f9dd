import OpenHcan.Devices.Lichtzone
import OpenHcan.Userpanel.Monitore
import OpenHcan.Userpanel.WeckPage

/-!
# PowerportPage — one switch on the panel (`userpanel-v01/powerport_page.c`)

The page asks for the state and the timer of its group whenever it is drawn, and OK
acts on what has been answered since. The minutes of the timer are computed with 16
bits and kept in 8, both signed, so a long timer may look like none
(`powerportPage_iff`).
-/

namespace OpenHcan.Userpanel

open Lib Powerport Lichtzone

set_option maxRecDepth 100000

/-- `lcdstate.active_page`, as far as the page and the navigation read it. `gruppe` is
the byte at the place of the group, whatever page is loaded. -/
structure ActivePage where
  istPowerport : Bool
  parentId : UInt8
  nextId : UInt8
  prevId : UInt8
  gruppe : UInt8
deriving DecidableEq, Repr

/-- `load_error_page` -/
def loadErrorPage (a : ActivePage) : ActivePage := ⟨false, 0, 0, 0, a.gruppe⟩

/-- What has happened on the page: a frame went out, the page was drawn, or a frame
came in. -/
inductive PageEreignis
  | gesendet (f : CanixFrame)
  | gezeichnet
  | gehoert (f : CanixFrame)
deriving DecidableEq, Repr

/-- The page loaded, `powerport_page_state`, `powerport_page_timer`, and what has
happened so far, the newest first. -/
structure PowerportSeite where
  page : ActivePage
  state : Int8
  timer : Int8
  log : List PageEreignis
deriving DecidableEq, Repr

namespace PowerportSeite

def send (z : PowerportSeite) (f : CanixFrame) : PowerportSeite :=
  ⟨z.page, z.state, z.timer, .gesendet f :: z.log⟩

def load (z : PowerportSeite) (page : ActivePage) : PowerportSeite :=
  ⟨page, z.state, z.timer, z.log⟩

end PowerportSeite

/-- Where a handler of the panel goes on after its sleep: in `lcdctrl_blink` or the sleep
after it with `rest` more of them to come, between the two questions of the page, or in
a handler of something else. -/
inductive PagePlace
  | blinken (rest : Nat)
  | nachStateQuery
  | andere
deriving DecidableEq, Repr

/-- The rounded minutes of a timer of `t` seconds, as 16-bit integers compute them. -/
def minuten (t : Nat) : Int8 := (((UInt16.ofNat t).toInt16 + 30) / 60).toInt8

/-- The frames of the page. -/
def stateQueryFrame (selfaddr : UInt16) (gruppe : UInt8) : CanixFrame :=
  sfpFrame selfaddr hcanMulticastControl [hcanSrvHes, hcanHesPowerGroupStateQuery, gruppe]

def timerQueryFrame (selfaddr : UInt16) (gruppe : UInt8) : CanixFrame :=
  sfpFrame selfaddr hcanMulticastControl [hcanSrvHes, hcanHesPowerGroupTimerQuery, gruppe]

def setTimerFrame (selfaddr : UInt16) (gruppe : UInt8) : CanixFrame :=
  sfpFrame selfaddr hcanMulticastControl [hcanSrvHes, hcanHesPowerGroupSetTimer, gruppe, 0, 0]

def onFrame (selfaddr : UInt16) (gruppe : UInt8) : CanixFrame :=
  sfpFrame selfaddr hcanMulticastControl [hcanSrvHes, hcanHesPowerGroupOn, gruppe]

def offFrame (selfaddr : UInt16) (gruppe : UInt8) : CanixFrame :=
  sfpFrame selfaddr hcanMulticastControl [hcanSrvHes, hcanHesPowerGroupOff, gruppe]

section

variable (selfaddr : UInt16) (seiten : UInt8 → ActivePage)

/-- `powerport_page_print_page` -/
def powerportPagePrintPage (running : Bool) (z : PowerportSeite) :
    PowerportSeite × Option PagePlace :=
  let z : PowerportSeite := ⟨z.page, -1, -1, .gezeichnet :: z.log⟩
  let z := z.send (stateQueryFrame selfaddr z.page.gruppe)
  if running then (z.send (timerQueryFrame selfaddr z.page.gruppe), none)
  else (z, some .nachStateQuery)

/-- `print_page`. The other pages do not touch these variables. -/
def printPage (running : Bool) (z : PowerportSeite) : PowerportSeite × Option PagePlace :=
  if z.page.istPowerport then powerportPagePrintPage selfaddr running z else (z, none)

/-- `goto_page_up`, `goto_next_page` and `goto_prev_page` with the id they go to, which
is 0 if there is none. `seiten` is what `load_page` leaves for an id. -/
def gotoNachbar (id : UInt8) (running : Bool) (z : PowerportSeite) :
    PowerportSeite × Option PagePlace :=
  if id ≠ 0 then printPage selfaddr running (z.load (seiten id)) else (z, none)

/-- `lcdctrl_blink` with its thirty sleeps, one more sleep, and the page is drawn. -/
def blinkenUndZeichnen (running : Bool) (z : PowerportSeite) : PowerportSeite × Option PagePlace :=
  if running then powerportPagePrintPage selfaddr true z else (z, some (.blinken 30))

/-- `powerport_page_handle_key_down_event` -/
def powerportPageHandleKeyDownEvent (key : UInt8) (running : Bool) (z : PowerportSeite) :
    PowerportSeite × Option PagePlace :=
  if key = keyOk ∧ z.state = 1 ∧ 0 < z.timer then
    blinkenUndZeichnen selfaddr running (z.send (setTimerFrame selfaddr z.page.gruppe))
  else if key = keyOk ∧ z.state ≠ -1 then
    blinkenUndZeichnen selfaddr running
      (z.send
        (if z.state ≠ 0 then offFrame selfaddr z.page.gruppe
        else onFrame selfaddr z.page.gruppe))
  else if key = keyEsc then gotoNachbar selfaddr seiten z.page.parentId running z
  else if key = keyUp then gotoNachbar selfaddr seiten z.page.prevId running z
  else if key = keyDown then gotoNachbar selfaddr seiten z.page.nextId running z
  else (z, none)

/-- `powerport_page_can_callback` -/
def powerportPageCanCallback (f : CanixFrame) (z : PowerportSeite) : PowerportSeite :=
  if f.proto = hcanProtoSfp ∧ f.byte 0 = hcanSrvHes ∧ f.byte 2 = z.page.gruppe then
    if f.byte 1 = hcanHesPowerGroupStateReplay then
      ⟨z.page, if f.byte 3 ≠ 0 then 1 else 0, z.timer, z.log⟩
    else if f.byte 1 = hcanHesPowerGroupTimerReplay then
      ⟨z.page, z.state,
        if f.byte 3 = 0 ∧ f.byte 4 = 0 then 0 else minuten (word (f.byte 3) (f.byte 4)), z.log⟩
    else z
  else z

/-- The frames that reach the panel's callback. -/
def Empfangen (f : CanixFrame) : Prop := FuerPanel selfaddr f ∧ f.proto = hcanProtoSfp

instance (f : CanixFrame) : Decidable (Empfangen selfaddr f) :=
  inferInstanceAs (Decidable (_ ∧ _))

/-- A frame comes in. -/
def seiteFrame (f : CanixFrame) (z : PowerportSeite) : PowerportSeite :=
  if Empfangen selfaddr f then
    let z : PowerportSeite := ⟨z.page, z.state, z.timer, .gehoert f :: z.log⟩
    if z.page.istPowerport then powerportPageCanCallback f z else z
  else z

/-- What is left of a handler after its sleep. -/
def seiteWeiter : PagePlace → PowerportSeite → PowerportSeite × Option PagePlace
  | .blinken (rest + 1), z => (z, some (.blinken rest))
  | .blinken 0, z => powerportPagePrintPage selfaddr false z
  | .nachStateQuery, z => (z.send (timerQueryFrame selfaddr z.page.gruppe), none)
  | .andere, z => (z, none)

/-- What happens to the panel: a frame, a key, another page is loaded and drawn (or the
same one again), an error page is loaded, the sleep is over, or another handler goes to
sleep. -/
inductive SeitenEvent
  | frame (f : CanixFrame)
  | key (k : UInt8)
  | zeigen (page : ActivePage)
  | fehler
  | wake
  | pause
deriving DecidableEq, Repr

/-- One event. The keys of other pages are other handlers. -/
def seiteStep (c : Paused PowerportSeite PagePlace) : SeitenEvent → Paused PowerportSeite PagePlace
  | .frame f => c.handle fun _ z => (seiteFrame selfaddr f z, none)
  | .key k => c.handle fun running z =>
      if z.page.istPowerport then powerportPageHandleKeyDownEvent selfaddr seiten k running z
      else (z, none)
  | .zeigen page => c.handle fun running z => printPage selfaddr running (z.load page)
  | .fehler => c.handle fun _ z => (z.load (loadErrorPage z.page), none)
  | .wake => c.wake (seiteWeiter selfaddr)
  | .pause => c.handle fun _ z => (z, some .andere)

/-- Nothing has been drawn yet. -/
def seiteStart (page : ActivePage) : Paused PowerportSeite PagePlace :=
  ⟨⟨page, -1, -1, []⟩, none⟩

end

/-! ## The statement -/

/-- The latest answer of the kind `typ` for the group since the page was drawn. -/
def letzteAntwort (typ gruppe : UInt8) : List PageEreignis → Option CanixFrame
  | [] => none
  | .gezeichnet :: _ => none
  | .gesendet _ :: log => letzteAntwort typ gruppe log
  | .gehoert f :: log =>
      if f.byte 1 = typ ∧ f.byte 2 = gruppe then some f else letzteAntwort typ gruppe log

/-- On or off, as the latest answer says. -/
def letzterState (z : PowerportSeite) : Option Bool :=
  (letzteAntwort hcanHesPowerGroupStateReplay z.page.gruppe z.log).map fun f =>
    decide (f.byte 3 ≠ 0)

/-- The seconds of the latest answer. -/
def letzterTimer (z : PowerportSeite) : Option Nat :=
  (letzteAntwort hcanHesPowerGroupTimerReplay z.page.gruppe z.log).map fun f =>
    word (f.byte 3) (f.byte 4)

/-- The frames sent that switch something, the newest first. -/
def schaltbefehle (log : List PageEreignis) : List CanixFrame :=
  log.filterMap fun e =>
    match e with
    | .gesendet f =>
        if f.byte 1 = hcanHesPowerGroupOn ∨ f.byte 1 = hcanHesPowerGroupOff ∨
            f.byte 1 = hcanHesPowerGroupSetTimer then
          some f
        else none
    | _ => none

section

variable (selfaddr : UInt16) (seiten : UInt8 → ActivePage)

/-- OK does what the latest answers ask for: it sends one frame that switches, or
nothing at all. -/
def OkRichtig (c : Paused PowerportSeite PagePlace) (e : SeitenEvent) : Prop :=
  e = .key keyOk → c.state.page.istPowerport = true →
    let nachher := (seiteStep selfaddr seiten c e).state
    let gruppe := c.state.page.gruppe
    match letzterState c.state with
    | none => nachher = c.state
    | some false =>
        schaltbefehle nachher.log = onFrame selfaddr gruppe :: schaltbefehle c.state.log
    | some true =>
        ((letzterTimer c.state).getD 0 = 0 →
          schaltbefehle nachher.log = offFrame selfaddr gruppe :: schaltbefehle c.state.log) ∧
        (30 ≤ (letzterTimer c.state).getD 0 →
          schaltbefehle nachher.log = setTimerFrame selfaddr gruppe :: schaltbefehle c.state.log)

/-- The seconds whose minutes come out positive. -/
def Darstellbar (t : Nat) : Prop :=
  30 ≤ t ∧ t ≤ 7649 ∨ 15390 ≤ t ∧ t ≤ 23009 ∨ 30750 ≤ t ∧ t ≤ 32737 ∨
    34787 ≤ t ∧ t ≤ 42406 ∨ 50147 ≤ t ∧ t ≤ 57766

instance : DecidablePred Darstellbar := fun _ => inferInstanceAs (Decidable (_ ∨ _))

/-- OK is not pressed on a group that is on with a timer of 30 seconds or more whose
minutes do not come out positive. -/
def TimerDarstellbar (c : Paused PowerportSeite PagePlace) (e : SeitenEvent) : Prop :=
  e = .key keyOk → c.state.page.istPowerport = true → letzterState c.state = some true →
    ∀ t, letzterTimer c.state = some t → 30 ≤ t → Darstellbar t

end

/-! ## The minutes -/

theorem toInt_minuten (t : Nat) :
    (minuten t).toInt =
      (((((t : Int).bmod 65536 + 30).bmod 65536).tdiv 60).bmod 65536).bmod 256 := by
  rw [minuten, Int16.toInt_toInt8, Int16.toInt_div, Int16.toInt_add, UInt16.toInt16_ofNat',
    Int16.toInt_ofNat']
  rfl

/-- Division towards zero. -/
theorem tdiv_sixty (x : Int) : x.tdiv 60 = if 0 ≤ x then x / 60 else -(-x / 60) := by
  split_ifs with h
  · exact Int.tdiv_eq_ediv_of_nonneg h
  · have hneg : x = -(-x) := (Int.neg_neg x).symm
    rw [hneg, Int.neg_tdiv, Int.tdiv_eq_ediv_of_nonneg (by omega), Int.neg_neg]

theorem minuten_pos {t : Nat} (ht : t < 65536) : 0 < minuten t ↔ Darstellbar t := by
  rw [Int8.lt_iff_toInt_lt, toInt_minuten]
  show 0 < _ ↔ _
  have hword : (t : Int).bmod 65536 = if t < 32768 then (t : Int) else (t : Int) - 65536 := by
    simp only [Int.bmod]
    omega
  -- from 32738 on the sum is negative
  have hsum : ((t : Int).bmod 65536 + 30).bmod 65536 =
      if t < 32738 then (t : Int) + 30 else (t : Int) - 65506 := by
    rw [hword]
    simp only [Int.bmod]
    split <;> split <;> omega
  rw [hsum, tdiv_sixty, Darstellbar]
  split_ifs
  · simp only [Int.bmod]
    omega
  · omega
  · simp only [Int.bmod]
    omega
  · simp only [Int.bmod]
    omega

/-! ## What the page remembers -/

section

variable {selfaddr : UInt16} {seiten : UInt8 → ActivePage} {z : PowerportSeite} {running : Bool}
  {c : Paused PowerportSeite PagePlace}

/-- What `powerport_page_state` stands for. -/
def stateWert : Option Bool → Int8
  | none => -1
  | some false => 0
  | some true => 1

/-- What `powerport_page_timer` stands for. -/
def timerWert : Option Nat → Int8
  | none => -1
  | some t => if t = 0 then 0 else minuten t

/-- The variables against the answers, as long as the page is shown. -/
def SeiteStimmt (z : PowerportSeite) : Prop :=
  z.page.istPowerport = true → z.state = stateWert (letzterState z) ∧
    z.timer = timerWert (letzterTimer z)

theorem SeiteStimmt.send (h : SeiteStimmt z) (f : CanixFrame) : SeiteStimmt (z.send f) := h

/-- After drawing there is no answer. -/
theorem seiteStimmt_print (running : Bool) (z : PowerportSeite) :
    SeiteStimmt (powerportPagePrintPage selfaddr running z).1 := by
  intro _
  cases running with
  | false => exact ⟨rfl, rfl⟩
  | true => exact ⟨rfl, rfl⟩

theorem seiteStimmt_printPage (running : Bool) (z : PowerportSeite) :
    SeiteStimmt (printPage selfaddr running z).1 := by
  rw [printPage]
  split_ifs with h
  · exact seiteStimmt_print running z
  · exact fun hp => absurd hp h

theorem seiteStimmt_nachbar (h : SeiteStimmt z) (id : UInt8) (running : Bool) :
    SeiteStimmt (gotoNachbar selfaddr seiten id running z).1 := by
  rw [gotoNachbar]
  split_ifs
  · exact seiteStimmt_printPage running _
  · exact h

theorem seiteStimmt_blinken (h : SeiteStimmt z) (running : Bool) :
    SeiteStimmt (blinkenUndZeichnen selfaddr running z).1 := by
  rw [blinkenUndZeichnen]
  split_ifs
  · exact seiteStimmt_print true z
  · exact h

theorem seiteStimmt_key (h : SeiteStimmt z) (key : UInt8) (running : Bool) :
    SeiteStimmt (powerportPageHandleKeyDownEvent selfaddr seiten key running z).1 := by
  rw [powerportPageHandleKeyDownEvent]
  split_ifs
  · exact seiteStimmt_blinken (h.send _) running
  · exact seiteStimmt_blinken (h.send _) running
  · exact seiteStimmt_blinken (h.send _) running
  · exact seiteStimmt_nachbar h _ running
  · exact seiteStimmt_nachbar h _ running
  · exact seiteStimmt_nachbar h _ running
  · exact h

/-- A frame sets the variable it answers for. -/
theorem canCallback_eq {f : CanixFrame} (hf : Empfangen selfaddr f) (z : PowerportSeite) :
    powerportPageCanCallback f z =
      ⟨z.page,
        if f.byte 1 = hcanHesPowerGroupStateReplay ∧ f.byte 2 = z.page.gruppe then
          if f.byte 3 ≠ 0 then 1 else 0
        else z.state,
        if f.byte 1 = hcanHesPowerGroupTimerReplay ∧ f.byte 2 = z.page.gruppe then
          if f.byte 3 = 0 ∧ f.byte 4 = 0 then 0 else minuten (word (f.byte 3) (f.byte 4))
        else z.timer,
        z.log⟩ := by
  have hkinds : hcanHesPowerGroupStateReplay ≠ hcanHesPowerGroupTimerReplay := by decide
  rw [powerportPageCanCallback]
  by_cases hg : f.byte 2 = z.page.gruppe
  · rw [if_pos ⟨hf.2, hf.1.1, hg⟩]
    by_cases hs : f.byte 1 = hcanHesPowerGroupStateReplay
    · simp [hs, hg, hkinds]
    · by_cases ht : f.byte 1 = hcanHesPowerGroupTimerReplay
      · simp [ht, hg, hkinds.symm]
      · simp [hs, ht]
  · rw [if_neg fun h => hg h.2.2]
    simp [hg]

theorem word_eq_zero (hi lo : UInt8) : word hi lo = 0 ↔ hi = 0 ∧ lo = 0 := by
  rw [word, ← UInt8.toNat_inj, ← UInt8.toNat_inj]
  show _ ↔ hi.toNat = 0 ∧ lo.toNat = 0
  omega

theorem stateWert_antwort (f : CanixFrame) :
    stateWert (some (decide (f.byte 3 ≠ 0))) = if f.byte 3 ≠ 0 then 1 else 0 := by
  by_cases h : f.byte 3 = 0
  · simp [h, stateWert]
  · simp [h, stateWert]

theorem timerWert_antwort (f : CanixFrame) :
    timerWert (some (word (f.byte 3) (f.byte 4))) =
      if f.byte 3 = 0 ∧ f.byte 4 = 0 then 0 else minuten (word (f.byte 3) (f.byte 4)) := by
  simp only [timerWert, word_eq_zero]

/-- A frame that comes in. -/
theorem seiteStimmt_frame (h : SeiteStimmt z) (f : CanixFrame) :
    SeiteStimmt (seiteFrame selfaddr f z) := by
  rw [seiteFrame]
  by_cases hf : Empfangen selfaddr f
  · rw [if_pos hf]
    by_cases hp : z.page.istPowerport = true
    · obtain ⟨hstate, htimer⟩ := h hp
      simp only [if_pos hp, canCallback_eq hf]
      intro _
      constructor
      · simp only [letzterState, letzteAntwort]
        by_cases hs : f.byte 1 = hcanHesPowerGroupStateReplay ∧ f.byte 2 = z.page.gruppe
        · rw [if_pos hs, if_pos hs]
          exact (stateWert_antwort f).symm
        · rw [if_neg hs, if_neg hs]
          exact hstate
      · simp only [letzterTimer, letzteAntwort]
        by_cases ht : f.byte 1 = hcanHesPowerGroupTimerReplay ∧ f.byte 2 = z.page.gruppe
        · rw [if_pos ht, if_pos ht]
          exact (timerWert_antwort f).symm
        · rw [if_neg ht, if_neg ht]
          exact htimer
    · simp only [if_neg hp]
      exact fun hpage => absurd hpage hp
  · rw [if_neg hf]
    exact h

theorem seiteStimmt_weiter (h : SeiteStimmt z) (p : PagePlace) :
    SeiteStimmt (seiteWeiter selfaddr p z).1 := by
  cases p with
  | blinken rest =>
      cases rest with
      | zero => exact seiteStimmt_print false z
      | succ rest => exact h
  | nachStateQuery => exact h.send _
  | andere => exact h

/-- **One event** keeps the variables true to the answers. -/
theorem seiteStimmt_seiteStep (h : SeiteStimmt c.state) (e : SeitenEvent) :
    SeiteStimmt (seiteStep selfaddr seiten c e).state := by
  cases e with
  | frame f =>
      rw [seiteStep, Paused.handle_state]
      exact seiteStimmt_frame h f
  | key k =>
      rw [seiteStep, Paused.handle_state]
      split_ifs
      · exact seiteStimmt_key h k _
      · exact h
  | zeigen page =>
      rw [seiteStep, Paused.handle_state]
      exact seiteStimmt_printPage _ _
  | fehler =>
      rw [seiteStep, Paused.handle_state]
      exact fun hp => absurd hp Bool.false_ne_true
  | wake =>
      obtain ⟨z, _ | p⟩ := c
      · exact h
      · exact seiteStimmt_weiter h p
  | pause =>
      rw [seiteStep, Paused.handle_state]
      exact h

/-! ## OK -/

/-- Drawing switches nothing. -/
theorem schaltbefehle_blinken (running : Bool) (z : PowerportSeite) :
    schaltbefehle (blinkenUndZeichnen selfaddr running z).1.log = schaltbefehle z.log := by
  have hstate : ∀ g, (stateQueryFrame selfaddr g).byte 1 = hcanHesPowerGroupStateQuery := by
    intro g
    simp [stateQueryFrame]
  have htimer : ∀ g, (timerQueryFrame selfaddr g).byte 1 = hcanHesPowerGroupTimerQuery := by
    intro g
    simp [timerQueryFrame]
  cases running with
  | false => rfl
  | true =>
      simp [blinkenUndZeichnen, powerportPagePrintPage, PowerportSeite.send, schaltbefehle, hstate,
        htimer, hcanHesPowerGroupStateQuery, hcanHesPowerGroupTimerQuery, hcanHesPowerGroupOn,
        hcanHesPowerGroupOff, hcanHesPowerGroupSetTimer]

theorem schaltbefehle_send {f : CanixFrame}
    (h : f.byte 1 = hcanHesPowerGroupOn ∨ f.byte 1 = hcanHesPowerGroupOff ∨
      f.byte 1 = hcanHesPowerGroupSetTimer) (z : PowerportSeite) :
    schaltbefehle (z.send f).log = f :: schaltbefehle z.log := by
  simp only [schaltbefehle, PowerportSeite.send]
  rw [List.filterMap_cons]
  simp only [if_pos h]

/-- The state after OK on the page. -/
theorem ok_state (hp : c.state.page.istPowerport = true) :
    (seiteStep selfaddr seiten c (.key keyOk)).state =
      (powerportPageHandleKeyDownEvent selfaddr seiten keyOk c.place.isSome c.state).1 := by
  rw [seiteStep, Paused.handle_state, if_pos hp]

/-- What OK sends, by the variables. -/
theorem ok_setTimer (hp : c.state.page.istPowerport = true) (hs : c.state.state = 1)
    (ht : 0 < c.state.timer) :
    schaltbefehle (seiteStep selfaddr seiten c (.key keyOk)).state.log =
      setTimerFrame selfaddr c.state.page.gruppe :: schaltbefehle c.state.log := by
  rw [ok_state hp, powerportPageHandleKeyDownEvent, if_pos ⟨rfl, hs, ht⟩, schaltbefehle_blinken,
    schaltbefehle_send (by simp [setTimerFrame])]

theorem ok_off (hp : c.state.page.istPowerport = true) (hs : c.state.state = 1)
    (ht : ¬ 0 < c.state.timer) :
    schaltbefehle (seiteStep selfaddr seiten c (.key keyOk)).state.log =
      offFrame selfaddr c.state.page.gruppe :: schaltbefehle c.state.log := by
  have hbekannt : c.state.state ≠ -1 := by rw [hs]; decide
  have hein : c.state.state ≠ 0 := by rw [hs]; decide
  rw [ok_state hp, powerportPageHandleKeyDownEvent, if_neg fun h => ht h.2.2,
    if_pos ⟨rfl, hbekannt⟩, if_pos hein, schaltbefehle_blinken,
    schaltbefehle_send (by simp [offFrame])]

theorem ok_on (hp : c.state.page.istPowerport = true) (hs : c.state.state = 0) :
    schaltbefehle (seiteStep selfaddr seiten c (.key keyOk)).state.log =
      onFrame selfaddr c.state.page.gruppe :: schaltbefehle c.state.log := by
  have hbekannt : c.state.state ≠ -1 := by rw [hs]; decide
  have haus : c.state.state ≠ 1 := by rw [hs]; decide
  rw [ok_state hp, powerportPageHandleKeyDownEvent, if_neg fun h => haus h.2.1,
    if_pos ⟨rfl, hbekannt⟩, if_neg (not_not_intro hs), schaltbefehle_blinken,
    schaltbefehle_send (by simp [onFrame])]

theorem ok_nichts (hp : c.state.page.istPowerport = true) (hs : c.state.state = -1) :
    (seiteStep selfaddr seiten c (.key keyOk)).state = c.state := by
  have hnot : c.state.state ≠ 1 := by rw [hs]; decide
  rw [ok_state hp, powerportPageHandleKeyDownEvent, if_neg fun h => hnot h.2.1,
    if_neg fun h => h.2 hs, if_neg (by decide), if_neg (by decide), if_neg (by decide)]

theorem letzterTimer_lt {t : Nat} (h : letzterTimer z = some t) : t < 65536 := by
  obtain ⟨f, -, rfl⟩ := Option.map_eq_some_iff.mp h
  exact word_lt _ _

theorem offFrame_ne_setTimerFrame (selfaddr : UInt16) (g : UInt8) :
    offFrame selfaddr g ≠ setTimerFrame selfaddr g := by
  intro h
  have hbyte := congrArg (CanixFrame.byte · 1) h
  simp [offFrame, setTimerFrame, hcanHesPowerGroupOff, hcanHesPowerGroupSetTimer] at hbyte

/-- **One press of OK** is right exactly if the minutes of the timer come out positive. -/
theorem okRichtig_iff (h : SeiteStimmt c.state) (e : SeitenEvent) :
    OkRichtig selfaddr seiten c e ↔ TimerDarstellbar c e := by
  rw [OkRichtig, TimerDarstellbar]
  refine imp_congr_right fun he => imp_congr_right fun hp => ?_
  subst he
  obtain ⟨hstate, htimer⟩ := h hp
  cases hlast : letzterState c.state with
  | none =>
      rw [hlast] at hstate
      exact iff_of_true (ok_nichts hp hstate) nofun
  | some ein =>
      rw [hlast] at hstate
      cases ein with
      | false => exact iff_of_true (ok_on hp hstate) nofun
      | true =>
          have hoff : ¬ 0 < c.state.timer →
              schaltbefehle (seiteStep selfaddr seiten c (.key keyOk)).state.log =
                offFrame selfaddr c.state.page.gruppe :: schaltbefehle c.state.log :=
            ok_off hp hstate
          cases htime : letzterTimer c.state with
          | none =>
              rw [htime] at htimer
              have hlow : ¬ 0 < c.state.timer := by rw [htimer]; decide
              exact iff_of_true ⟨fun _ => hoff hlow, fun h30 => absurd h30 (by decide)⟩ nofun
          | some t =>
              rw [htime, timerWert] at htimer
              simp only [Option.getD_some, Option.some.injEq, forall_eq', forall_const]
              by_cases hzero : t = 0
              · have hlow : ¬ 0 < c.state.timer := by rw [htimer, if_pos hzero]; decide
                exact iff_of_true ⟨fun _ => hoff hlow, fun h30 => by omega⟩ fun h30 => by omega
              · rw [if_neg hzero] at htimer
                have hpos : 0 < c.state.timer ↔ Darstellbar t := by
                  rw [htimer, minuten_pos (letzterTimer_lt htime)]
                constructor
                · rintro ⟨-, hset⟩ h30
                  by_contra hnot
                  have hboth := (hoff (mt hpos.mp hnot)).symm.trans (hset h30)
                  exact offFrame_ne_setTimerFrame selfaddr _ (List.cons.inj hboth).1
                · intro hd
                  refine ⟨fun h0 => absurd h0 hzero, fun h30 => ?_⟩
                  exact ok_setTimer hp hstate (hpos.mpr (hd h30))

end

/-- **The powerport page**: every OK is right exactly if none is pressed on a group that
is on with a timer of 30 seconds or more whose minutes do not come out positive. -/
theorem powerportPage_iff (selfaddr : UInt16) (seiten : UInt8 → ActivePage) (page : ActivePage)
    (es : List SeitenEvent) :
    Guarded (seiteStep selfaddr seiten) (OkRichtig selfaddr seiten) (seiteStart page) es ↔
      Guarded (seiteStep selfaddr seiten) TimerDarstellbar (seiteStart page) es :=
  guarded_congr_of_invariant (I := fun c => SeiteStimmt c.state)
    (fun _ e _ h => seiteStimmt_seiteStep h e) (fun _ e h => okRichtig_iff h e) es _
    fun _ => ⟨rfl, rfl⟩

/-- A zone with four hours on its timer: OK switches it off. -/
theorem powerportPage_vierStunden :
    ¬ Guarded (seiteStep 1 fun _ => ⟨true, 0, 0, 0, 9⟩)
      (OkRichtig 1 fun _ => ⟨true, 0, 0, 0, 9⟩) (seiteStart ⟨true, 0, 0, 0, 9⟩)
      [.zeigen ⟨true, 0, 0, 0, 9⟩, .wake,
        .frame (sfpFrame 7 1 [hcanSrvHes, hcanHesPowerGroupStateReplay, 9, 1, 0]),
        .frame (sfpFrame 7 1
          [hcanSrvHes, hcanHesPowerGroupTimerReplay, 9, hiByte 14400, loByte 14400]),
        .key keyOk] := by
  rw [guarded_congr_of_invariant (I := fun c => SeiteStimmt c.state)
    (fun _ e _ h => seiteStimmt_seiteStep h e) (fun _ e h => okRichtig_iff h e) _ _
    fun _ => ⟨rfl, rfl⟩]
  intro h
  obtain ⟨-, -, -, -, hok, -⟩ := h
  have hlast := hok rfl rfl (by decide) 14400 (by decide) (by decide)
  revert hlast
  decide

end OpenHcan.Userpanel
