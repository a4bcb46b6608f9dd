import OpenHcan.Canix.Frame
import OpenHcan.Lib.History

/-!
# RolladenSchlitzpos — a gap for fresh air (`devices/rolladenSchlitzpos.c`)

A shutter is opened by a gap when its window is opened, and closed again when
the window is. With two windows the answers are taken in pairs, as they come:
the first one is kept in a cell, the second one decides. Which of the contacts
has answered is not looked at.
-/

namespace OpenHcan.RolladenSchlitzpos

open Lib

set_option maxRecDepth 100000

def hcanHesReedkontaktStateQuery : UInt8 := 41
def hcanHesReedkontaktStateReplay : UInt8 := 42
def hcanHesReedkontaktStateChange : UInt8 := 43

def schlitzPos : UInt8 := 17
def schlitzJobAbgemeldet : UInt8 := 255
def schlitzJobTimerLoad : UInt8 := 20

/-- `eds_rolladenSchlitzpos_block_t`. Without a second contact `reed1` is 255. -/
structure EdsRolladenSchlitzposBlock where
  reed0 : UInt8
  reed1 : UInt8
  rolladen : UInt8
deriving DecidableEq, Repr

/-- `device_data_rolladenSchlitzpos` -/
structure DeviceDataRolladenSchlitzpos where
  config : EdsRolladenSchlitzposBlock
  rolladenSchlitzJob : UInt8
  rolladenIstposition : UInt8
  state1stReedkontakt : UInt8
deriving DecidableEq, Repr

/-- What the functions of a device read and write: its data and the frames the board
has sent. -/
structure SchlitzIO where
  dev : DeviceDataRolladenSchlitzpos
  sent : List CanixFrame
deriving DecidableEq, Repr

/-- `rolladenSchlitzpos_init` -/
def rolladenSchlitzposInit (p : DeviceDataRolladenSchlitzpos) : DeviceDataRolladenSchlitzpos :=
  { p with rolladenSchlitzJob := schlitzJobAbgemeldet, state1stReedkontakt := 255 }

/-- The message of `send_rolladen_position_set`. -/
def positionSet (selfaddr : UInt16) (rolladen sollPosition : UInt8) : CanixFrame :=
  sfpFrame selfaddr hcanMulticastControl
    [hcanSrvHes, hcanHesRolladenPositionSet, rolladen, sollPosition]

/-- `send_rolladen_position_set` -/
def sendRolladenPositionSet (selfaddr : UInt16) (s : SchlitzIO) (sollPosition : UInt8) :
    SchlitzIO :=
  { s with sent := s.sent ++ [positionSet selfaddr s.dev.config.rolladen sollPosition] }

/-- The questions of the timer handler: to the shutter and to the contacts. -/
def abfragen (selfaddr : UInt16) (c : EdsRolladenSchlitzposBlock) : List CanixFrame :=
  let frage (cmd gruppe : UInt8) := sfpFrame selfaddr hcanMulticastControl [hcanSrvHes, cmd, gruppe]
  [frage hcanHesRolladenPositionRequest c.rolladen, frage hcanHesReedkontaktStateQuery c.reed0] ++
    if c.reed1 ≠ 255 then [frage hcanHesReedkontaktStateQuery c.reed1] else []

/-- `rolladenSchlitzpos_timer_handler` -/
def rolladenSchlitzposTimerHandler (selfaddr : UInt16) (s : SchlitzIO) (zyklus : UInt8) :
    SchlitzIO :=
  if zyklus ≠ 10 then s
  else if s.dev.rolladenSchlitzJob < schlitzJobAbgemeldet then
    let job := s.dev.rolladenSchlitzJob - 1
    if job = 0 then
      ⟨{ s.dev with rolladenSchlitzJob := schlitzJobAbgemeldet },
        s.sent ++ abfragen selfaddr s.dev.config⟩
    else { s with dev := { s.dev with rolladenSchlitzJob := job } }
  else s

/-- A window is open: the shutter is opened by a gap. -/
def schlitzOeffnen (selfaddr : UInt16) (s : SchlitzIO) : SchlitzIO :=
  if s.dev.rolladenIstposition < schlitzPos - 5 then sendRolladenPositionSet selfaddr s schlitzPos
  else s

/-- All windows are closed: the shutter leaves the gap. -/
def schlitzSchliessen (selfaddr : UInt16) (s : SchlitzIO) : SchlitzIO :=
  if s.dev.rolladenIstposition ≥ schlitzPos - 2 ∧ s.dev.rolladenIstposition ≤ schlitzPos + 2 then
    sendRolladenPositionSet selfaddr s 0
  else s

/-- `case HCAN_HES_REEDKONTAKT_STATE_REPLAY`, for an answer of one of the contacts -/
def stateReplay (selfaddr : UInt16) (s : SchlitzIO) (status : UInt8) : SchlitzIO :=
  if s.dev.config.reed1 = 255 then
    if status ≠ 0 then schlitzOeffnen selfaddr s else schlitzSchliessen selfaddr s
  else if s.dev.state1stReedkontakt = 255 then
    { s with dev := { s.dev with state1stReedkontakt := status } }
  else
    let s :=
      if status ≠ 0 ∨ s.dev.state1stReedkontakt ≠ 0 then schlitzOeffnen selfaddr s
      else schlitzSchliessen selfaddr s
    { s with dev := { s.dev with state1stReedkontakt := 255 } }

/-- `rolladenSchlitzpos_can_callback` -/
def rolladenSchlitzposCanCallback (selfaddr : UInt16) (s : SchlitzIO) (frame : CanixFrame) :
    SchlitzIO :=
  let c := s.dev.config
  if frame.byte 1 = hcanHesReedkontaktStateChange then
    if c.reed0 = frame.byte 2 ∨ c.reed1 = frame.byte 2 then
      { s with dev := { s.dev with rolladenSchlitzJob := schlitzJobTimerLoad } }
    else s
  else if frame.byte 1 = hcanHesRolladenPositionReplay then
    if c.rolladen = frame.byte 2 then
      { s with dev := { s.dev with rolladenIstposition := frame.byte 3 } }
    else s
  else if frame.byte 1 = hcanHesReedkontaktStateReplay then
    if c.reed0 = frame.byte 2 ∨ c.reed1 = frame.byte 2 then
      stateReplay selfaddr s (frame.byte 3)
    else s
  else s

/-! ## The machine -/

/-- A HES frame, or a call of the timer handler every 100 ms. -/
inductive SchlitzEvent
  | frame (f : CanixFrame)
  | tick
deriving DecidableEq, Repr

def schlitzStep (selfaddr : UInt16) (s : SchlitzIO) : SchlitzEvent → SchlitzIO
  | .frame f => rolladenSchlitzposCanCallback selfaddr s f
  | .tick => rolladenSchlitzposTimerHandler selfaddr s 10

/-- A device after a start of the board, the shutter at some position. -/
def schlitzStart (c : EdsRolladenSchlitzposBlock) (istposition : UInt8) : SchlitzIO :=
  ⟨rolladenSchlitzposInit ⟨c, 0, istposition, 0⟩, []⟩

/-! ## The answers -/

section

variable (c : EdsRolladenSchlitzposBlock)

/-- The answer of a contact of the device: who it is, and its state. -/
def antwort : SchlitzEvent → Option (UInt8 × UInt8)
  | .tick => none
  | .frame f =>
      if f.byte 1 = hcanHesReedkontaktStateReplay ∧ (c.reed0 = f.byte 2 ∨ c.reed1 = f.byte 2) then
        some (f.byte 2, f.byte 3)
      else none

/-- The last answer of any of the contacts. The past is newest first. -/
def letzteAntwort (past : List SchlitzEvent) : Option (UInt8 × UInt8) := past.findSome? (antwort c)

/-- The last answer of the contact `reed`. -/
def letzterStand (reed : UInt8) (past : List SchlitzEvent) : Option UInt8 :=
  past.findSome? fun e => ((antwort c e).filter fun a => a.1 = reed).map Prod.snd

/-- The event makes the device send the order to close. -/
def Schliesst (selfaddr : UInt16) (s : SchlitzIO) (e : SchlitzEvent) : Prop :=
  positionSet selfaddr c.rolladen 0 ∈ (schlitzStep selfaddr s e).sent.drop s.sent.length

instance (selfaddr : UInt16) (s : SchlitzIO) (e : SchlitzEvent) :
    Decidable (Schliesst c selfaddr s e) := by
  unfold Schliesst
  infer_instance

/-- The order to close is sent only if the last answers of both contacts have been "closed". -/
def NurBeideZu (selfaddr : UInt16) (k : SchlitzIO × List SchlitzEvent) (e : SchlitzEvent) : Prop :=
  Schliesst c selfaddr k.1 e →
    letzterStand c c.reed0 (e :: k.2) = some 0 ∧ letzterStand c c.reed1 (e :: k.2) = some 0

instance (selfaddr : UInt16) (k : SchlitzIO × List SchlitzEvent) (e : SchlitzEvent) :
    Decidable (NurBeideZu c selfaddr k e) := by
  unfold NurBeideZu
  infer_instance

/-- The other contact. -/
def anderer (reed : UInt8) : UInt8 := if reed = c.reed0 then c.reed1 else c.reed0

/-- The shutter stands at the gap. -/
def ImSchlitz (s : SchlitzIO) : Prop :=
  s.dev.rolladenIstposition ≥ schlitzPos - 2 ∧ s.dev.rolladenIstposition ≤ schlitzPos + 2

instance (s : SchlitzIO) : Decidable (ImSchlitz s) := by
  unfold ImSchlitz
  infer_instance

/-- "Closed" meets "closed" in the cell while the shutter stands at the gap: the answers are
of two contacts, or the last answer of the other contact has been "closed", too. -/
def NichtZweimalDerselbe (k : SchlitzIO × List SchlitzEvent) (e : SchlitzEvent) : Prop :=
  ∀ a ∈ antwort c e, a.2 = 0 → k.1.dev.state1stReedkontakt = 0 → ImSchlitz k.1 →
    (letzteAntwort c k.2).map Prod.fst ≠ some a.1 ∨ letzterStand c (anderer c a.1) k.2 = some 0

instance (k : SchlitzIO × List SchlitzEvent) (e : SchlitzEvent) :
    Decidable (NichtZweimalDerselbe c k e) := by
  unfold NichtZweimalDerselbe
  exact Option.decidableForallMem _

end

section

variable {selfaddr : UInt16} {c : EdsRolladenSchlitzposBlock} {s : SchlitzIO}
  {past : List SchlitzEvent} {e : SchlitzEvent} {reed status : UInt8}

/-! ## The answers of the past -/

/-- An answer is one of the two contacts'. -/
theorem reed_of_antwort (h : antwort c e = some (reed, status)) :
    reed = c.reed0 ∨ reed = c.reed1 := by
  cases e with
  | tick => exact nomatch h
  | frame f =>
      simp only [antwort, Option.ite_none_right_eq_some, Option.some.injEq, Prod.mk.injEq] at h
      obtain ⟨⟨-, hreed⟩, rfl, -⟩ := h
      exact hreed.imp Eq.symm Eq.symm

theorem letzterStand_cons_of_antwort (h : antwort c e = some (reed, status)) (r : UInt8) :
    letzterStand c r (e :: past) = if reed = r then some status else letzterStand c r past := by
  unfold letzterStand
  rw [List.findSome?_cons, h]
  by_cases hr : reed = r
  · simp [hr, Option.filter]
  · simp [hr, Option.filter]

theorem letzterStand_cons_of_none (h : antwort c e = none) (r : UInt8) :
    letzterStand c r (e :: past) = letzterStand c r past := by
  unfold letzterStand
  rw [List.findSome?_cons, h]
  rfl

theorem letzteAntwort_cons_of_antwort (h : antwort c e = some (reed, status)) :
    letzteAntwort c (e :: past) = some (reed, status) := by
  unfold letzteAntwort
  rw [List.findSome?_cons, h]

theorem letzteAntwort_cons_of_none (h : antwort c e = none) :
    letzteAntwort c (e :: past) = letzteAntwort c past := by
  unfold letzteAntwort
  rw [List.findSome?_cons, h]

/-- The last answer of all is the last one of its contact. -/
theorem letzterStand_of_letzteAntwort (h : letzteAntwort c past = some (reed, status)) :
    letzterStand c reed past = some status := by
  induction past with
  | nil => exact nomatch h
  | cons e past ih =>
      cases he : antwort c e with
      | none =>
          rw [letzterStand_cons_of_none he]
          exact ih (letzteAntwort_cons_of_none he ▸ h)
      | some a =>
          rw [letzteAntwort_cons_of_antwort he] at h
          cases h
          rw [letzterStand_cons_of_antwort he, if_pos rfl]

/-- The last answer of all is one of the two contacts'. -/
theorem reed_of_letzteAntwort (h : letzteAntwort c past = some (reed, status)) :
    reed = c.reed0 ∨ reed = c.reed1 := by
  obtain ⟨e, -, he⟩ := List.exists_of_findSome?_eq_some h
  exact reed_of_antwort he

/-! ## One event -/

/-- What an event does to the cell and the frames of a device with two contacts. -/
inductive SchlitzEffect (selfaddr : UInt16) (c : EdsRolladenSchlitzposBlock) (s s' : SchlitzIO)
    (e : SchlitzEvent) : Prop
  | keine (new : List CanixFrame) : antwort c e = none → s'.sent = s.sent ++ new →
      positionSet selfaddr c.rolladen 0 ∉ new →
      s'.dev.state1stReedkontakt = s.dev.state1stReedkontakt → SchlitzEffect selfaddr c s s' e
  | erste (reed status : UInt8) : antwort c e = some (reed, status) →
      s.dev.state1stReedkontakt = 255 → s'.sent = s.sent →
      s'.dev.state1stReedkontakt = status → SchlitzEffect selfaddr c s s' e
  | zweite (reed status : UInt8) (new : List CanixFrame) : antwort c e = some (reed, status) →
      s.dev.state1stReedkontakt ≠ 255 → s'.sent = s.sent ++ new →
      (positionSet selfaddr c.rolladen 0 ∈ new ↔
        status = 0 ∧ s.dev.state1stReedkontakt = 0 ∧ ImSchlitz s) →
      s'.dev.state1stReedkontakt = 255 → SchlitzEffect selfaddr c s s' e

/-- The order to open is not the order to close. -/
theorem positionSet_zu_ne (selfaddr : UInt16) (rolladen : UInt8) :
    positionSet selfaddr rolladen 0 ≠ positionSet selfaddr rolladen schlitzPos := by
  intro h
  have hbyte := congrArg (fun f => f.byte 3) h
  simp only [positionSet, sfpFrame_byte _ _ _ (by decide : (3 : Nat) < 8)] at hbyte
  exact absurd hbyte (show (0 : UInt8) ≠ schlitzPos by decide)

/-- The questions of the timer handler are no orders. -/
theorem positionSet_not_mem_abfragen (selfaddr : UInt16) (c : EdsRolladenSchlitzposBlock)
    (rolladen : UInt8) : positionSet selfaddr rolladen 0 ∉ abfragen selfaddr c := by
  have hne (cmd gruppe : UInt8) (hcmd : hcanHesRolladenPositionSet ≠ cmd) :
      positionSet selfaddr rolladen 0 ≠
        sfpFrame selfaddr hcanMulticastControl [hcanSrvHes, cmd, gruppe] := by
    intro h
    have hbyte := congrArg (fun f => f.byte 1) h
    simp only [positionSet, sfpFrame_byte _ _ _ (by decide : (1 : Nat) < 8)] at hbyte
    exact hcmd hbyte
  intro hmem
  unfold abfragen at hmem
  rcases List.mem_append.mp hmem with hfirst | hsecond
  · simp only [List.mem_cons, List.not_mem_nil, or_false] at hfirst
    exact hfirst.elim (hne _ _ (by decide)) (hne _ _ (by decide))
  · split at hsecond
    · exact hne _ _ (by decide) (List.mem_singleton.mp hsecond)
    · exact nomatch hsecond

theorem schlitzOeffnen_spec (selfaddr : UInt16) (s : SchlitzIO) :
    ∃ new, schlitzOeffnen selfaddr s = ⟨s.dev, s.sent ++ new⟩ ∧
      positionSet selfaddr s.dev.config.rolladen 0 ∉ new := by
  unfold schlitzOeffnen
  split
  · refine ⟨[positionSet selfaddr s.dev.config.rolladen schlitzPos], rfl, fun hmem => ?_⟩
    exact positionSet_zu_ne _ _ (List.mem_singleton.mp hmem)
  · exact ⟨[], by rw [List.append_nil], nofun⟩

theorem schlitzSchliessen_spec (selfaddr : UInt16) (s : SchlitzIO) :
    ∃ new, schlitzSchliessen selfaddr s = ⟨s.dev, s.sent ++ new⟩ ∧
      (positionSet selfaddr s.dev.config.rolladen 0 ∈ new ↔ ImSchlitz s) := by
  unfold schlitzSchliessen
  split
  · rename_i hpos
    exact ⟨_, rfl, iff_of_true List.mem_cons_self hpos⟩
  · rename_i hpos
    exact ⟨[], by rw [List.append_nil], iff_of_false nofun hpos⟩

/-- A call of the timer handler asks or does nothing. -/
theorem timerHandler_effect (selfaddr : UInt16) (s : SchlitzIO) :
    (rolladenSchlitzposTimerHandler selfaddr s 10).dev.config = s.dev.config ∧
      SchlitzEffect selfaddr s.dev.config s (rolladenSchlitzposTimerHandler selfaddr s 10) .tick := by
  unfold rolladenSchlitzposTimerHandler
  rw [if_neg (by decide)]
  split
  · by_cases hjob : s.dev.rolladenSchlitzJob - 1 = 0
    · rw [if_pos hjob]
      exact ⟨rfl, .keine _ rfl rfl (positionSet_not_mem_abfragen _ _ _) rfl⟩
    · rw [if_neg hjob]
      exact ⟨rfl, .keine [] rfl (List.append_nil _).symm nofun rfl⟩
  · exact ⟨rfl, .keine [] rfl (List.append_nil _).symm nofun rfl⟩

/-- An answer of one of two contacts. -/
theorem stateReplay_effect (hzwei : s.dev.config.reed1 ≠ 255)
    (he : antwort s.dev.config e = some (reed, status)) :
    (stateReplay selfaddr s status).dev.config = s.dev.config ∧
      SchlitzEffect selfaddr s.dev.config s (stateReplay selfaddr s status) e := by
  unfold stateReplay
  rw [if_neg hzwei]
  by_cases hcell : s.dev.state1stReedkontakt = 255
  · rw [if_pos hcell]
    exact ⟨rfl, .erste reed status he hcell rfl rfl⟩
  · rw [if_neg hcell]
    by_cases hauf : status ≠ 0 ∨ s.dev.state1stReedkontakt ≠ 0
    · obtain ⟨new, hnew, horder⟩ := schlitzOeffnen_spec selfaddr s
      have hnicht : ¬ (status = 0 ∧ s.dev.state1stReedkontakt = 0 ∧ ImSchlitz s) := fun h =>
        hauf.elim (fun hne => hne h.1) fun hne => hne h.2.1
      rw [if_pos hauf, hnew]
      exact ⟨rfl, .zweite reed status new he hcell rfl (iff_of_false horder hnicht) rfl⟩
    · obtain ⟨new, hnew, horder⟩ := schlitzSchliessen_spec selfaddr s
      have hzu : status = 0 ∧ s.dev.state1stReedkontakt = 0 := by
        simpa only [not_or, not_not] using hauf
      rw [if_neg hauf, hnew]
      exact ⟨rfl, .zweite reed status new he hcell rfl
        (horder.trans ⟨fun h => ⟨hzu.1, hzu.2, h⟩, fun h => h.2.2⟩) rfl⟩

/-- **One event** of a device with two contacts. -/
theorem schlitz_effect (selfaddr : UInt16) (hzwei : s.dev.config.reed1 ≠ 255) (e : SchlitzEvent) :
    (schlitzStep selfaddr s e).dev.config = s.dev.config ∧
      SchlitzEffect selfaddr s.dev.config s (schlitzStep selfaddr s e) e := by
  cases e with
  | tick => exact timerHandler_effect selfaddr s
  | frame f =>
      have hkeine (h : f.byte 1 ≠ hcanHesReedkontaktStateReplay) :
          antwort s.dev.config (.frame f) = none := if_neg fun hf => h hf.1
      show (rolladenSchlitzposCanCallback selfaddr s f).dev.config = _ ∧
        SchlitzEffect selfaddr _ s (rolladenSchlitzposCanCallback selfaddr s f) _
      unfold rolladenSchlitzposCanCallback
      by_cases hchange : f.byte 1 = hcanHesReedkontaktStateChange
      · have hnone := hkeine (by rw [hchange]; decide)
        rw [if_pos hchange]
        split
        all_goals exact ⟨rfl, .keine [] hnone (List.append_nil _).symm nofun rfl⟩
      · rw [if_neg hchange]
        by_cases hposition : f.byte 1 = hcanHesRolladenPositionReplay
        · have hnone := hkeine (by rw [hposition]; decide)
          rw [if_pos hposition]
          split
          all_goals exact ⟨rfl, .keine [] hnone (List.append_nil _).symm nofun rfl⟩
        · rw [if_neg hposition]
          by_cases hreplay : f.byte 1 = hcanHesReedkontaktStateReplay
          · rw [if_pos hreplay]
            split
            · rename_i hreed
              exact stateReplay_effect hzwei (if_pos ⟨hreplay, hreed⟩)
            · rename_i hreed
              exact ⟨rfl, .keine [] (if_neg fun hf => hreed hf.2) (List.append_nil _).symm nofun
                rfl⟩
          · rw [if_neg hreplay]
            exact ⟨rfl, .keine [] (hkeine hreplay) (List.append_nil _).symm nofun rfl⟩

/-! ## Whole runs -/

variable {k : SchlitzIO × List SchlitzEvent}

/-- What every run keeps: an answer in the cell is the last one. -/
structure SchlitzInv (c : EdsRolladenSchlitzposBlock) (k : SchlitzIO × List SchlitzEvent) :
    Prop where
  config : k.1.dev.config = c
  cell : k.1.dev.state1stReedkontakt ≠ 255 →
    ∃ reed, letzteAntwort c k.2 = some (reed, k.1.dev.state1stReedkontakt)

theorem SchlitzInv.step (h : SchlitzInv c k) (hzwei : c.reed1 ≠ 255) (e : SchlitzEvent) :
    SchlitzInv c (recorded (schlitzStep selfaddr) k e) := by
  obtain ⟨rfl, hcell⟩ := h
  obtain ⟨hconfig, heffect⟩ := schlitz_effect selfaddr hzwei e
  refine ⟨hconfig, ?_⟩
  show (schlitzStep selfaddr k.1 e).dev.state1stReedkontakt ≠ 255 → _
  cases heffect with
  | keine new hnone _ _ hsame =>
      rw [hsame]
      intro hne
      obtain ⟨reed, hlast⟩ := hcell hne
      exact ⟨reed, (letzteAntwort_cons_of_none hnone).trans (hsame ▸ hlast)⟩
  | erste reed status he _ _ hstatus =>
      exact fun _ => ⟨reed, hstatus ▸ letzteAntwort_cons_of_antwort he⟩
  | zweite _ _ _ _ _ _ _ hempty => exact fun hne => absurd hempty hne

theorem SchlitzEffect.schliesst_iff {s' : SchlitzIO} (h : SchlitzEffect selfaddr c s s' e)
    (hs' : s' = schlitzStep selfaddr s e) :
    Schliesst c selfaddr s e ↔
      ∃ reed, antwort c e = some (reed, 0) ∧ s.dev.state1stReedkontakt = 0 ∧ ImSchlitz s := by
  unfold Schliesst
  rw [← hs']
  cases h with
  | keine new hnone hsent hnot =>
      rw [hsent, List.drop_left, hnone]
      exact iff_of_false hnot nofun
  | erste reed status he hempty hsent =>
      rw [hsent, List.drop_length]
      refine iff_of_false nofun ?_
      rintro ⟨-, -, hzero, -⟩
      rw [hempty] at hzero
      exact absurd hzero (by decide)
  | zweite reed status new he _ hsent horder =>
      rw [hsent, List.drop_left, horder, he]
      constructor
      · rintro ⟨rfl, hcell, hpos⟩
        exact ⟨reed, rfl, hcell, hpos⟩
      · rintro ⟨reed', heq, hcell, hpos⟩
        exact ⟨congrArg Prod.snd (Option.some.inj heq), hcell, hpos⟩

/-- A contact is the one or the other. -/
theorem eq_or_eq_anderer {r : UInt8} (hreed : reed = c.reed0 ∨ reed = c.reed1)
    (hr : r = c.reed0 ∨ r = c.reed1) : r = reed ∨ r = anderer c reed := by
  unfold anderer
  by_cases h0 : reed = c.reed0
  · rw [if_pos h0, h0]
    exact hr
  · rw [if_neg h0, hreed.resolve_left h0]
    exact hr.symm

/-- After "closed" of one contact it depends on the other one. -/
theorem beide_zu_iff (he : antwort c e = some (reed, 0)) :
    letzterStand c c.reed0 (e :: past) = some 0 ∧ letzterStand c c.reed1 (e :: past) = some 0 ↔
      letzterStand c (anderer c reed) (e :: past) = some 0 := by
  have hself : letzterStand c reed (e :: past) = some 0 := by
    rw [letzterStand_cons_of_antwort he, if_pos rfl]
  unfold anderer
  by_cases h0 : reed = c.reed0
  · rw [if_pos h0, ← h0]
    exact and_iff_right hself
  · rw [if_neg h0, ← (reed_of_antwort he).resolve_left h0]
    exact and_iff_left hself

/-- **The step**: the order to close is right unless the same contact has answered twice. -/
theorem SchlitzInv.nurBeideZu_iff (h : SchlitzInv c k) (hzwei : c.reed1 ≠ 255) (e : SchlitzEvent) :
    NurBeideZu c selfaddr k e ↔ NichtZweimalDerselbe c k e := by
  obtain ⟨rfl, hcell⟩ := h
  have hschliesst := (schlitz_effect selfaddr hzwei e).2.schliesst_iff rfl
  constructor
  · rintro hnur ⟨reed, status⟩ he rfl hzu hpos
    have hstand := (beide_zu_iff he).mp (hnur (hschliesst.mpr ⟨reed, he, hzu, hpos⟩))
    obtain ⟨first, hlast⟩ := hcell (by rw [hzu]; decide)
    rw [hzu] at hlast
    rw [letzterStand_cons_of_antwort he] at hstand
    by_cases hself : reed = anderer k.1.dev.config reed
    · -- both contacts have one group
      by_cases hfirst : first = reed
      · rw [← hself, ← hfirst]
        exact Or.inr (letzterStand_of_letzteAntwort hlast)
      · rw [hlast]
        exact Or.inl fun heq => hfirst (Option.some.inj heq)
    · rw [if_neg hself] at hstand
      exact Or.inr hstand
  · intro hnicht hsent
    obtain ⟨reed, he, hzu, hpos⟩ := hschliesst.mp hsent
    obtain ⟨first, hlast⟩ := hcell (by rw [hzu]; decide)
    rw [hzu] at hlast
    rw [beide_zu_iff he, letzterStand_cons_of_antwort he]
    split
    · rfl
    · rcases hnicht (reed, 0) he rfl hzu hpos with hother | hstand
      · rw [hlast] at hother
        have hne : first ≠ reed := fun heq => hother (congrArg some heq)
        have hreed := eq_or_eq_anderer (reed_of_antwort he) (reed_of_letzteAntwort hlast)
        rw [← hreed.resolve_left hne]
        exact letzterStand_of_letzteAntwort hlast
      · exact hstand

end

/-- **The gap with two windows**: in a run every order to close comes after "closed" of both
contacts exactly if no two answers of one contact have been taken for a pair, unless the other
one was closed anyway. -/
theorem schlitz_nurBeideZu_iff (selfaddr : UInt16) (c : EdsRolladenSchlitzposBlock)
    (hzwei : c.reed1 ≠ 255) (istposition : UInt8) (es : List SchlitzEvent) :
    Guarded (recorded (schlitzStep selfaddr)) (NurBeideZu c selfaddr)
        (schlitzStart c istposition, []) es ↔
      Guarded (recorded (schlitzStep selfaddr)) (NichtZweimalDerselbe c)
        (schlitzStart c istposition, []) es :=
  guarded_congr_of_invariant (fun _ e _ h => SchlitzInv.step h hzwei e)
    (fun _ e h => SchlitzInv.nurBeideZu_iff h hzwei e) es _ ⟨rfl, fun h => absurd rfl h⟩

/-- A window of two wings with the contacts 1 and 2, and the shutter 20. -/
private def zweifluegelig : EdsRolladenSchlitzposBlock := ⟨1, 2, 20⟩

private def meldung (cmd gruppe wert : UInt8) : SchlitzEvent :=
  .frame (sfpFrame 9 hcanMulticastControl [hcanSrvHes, cmd, gruppe, wert])

/-- Each contact answers once: both are closed. -/
theorem schlitz_nurBeideZu_iff_einmal :
    Guarded (recorded (schlitzStep 7)) (NurBeideZu zweifluegelig 7)
      (schlitzStart zweifluegelig 0, [])
      [meldung hcanHesRolladenPositionReplay 20 17, meldung hcanHesReedkontaktStateReplay 1 0,
        meldung hcanHesReedkontaktStateReplay 2 0] :=
  (schlitz_nurBeideZu_iff 7 zweifluegelig (by decide) 0 _).mpr (by decide)

/-- Contact 1 answers twice, the second time to someone else's question; contact 2 is open. -/
theorem zweifluegelig_not_nurBeideZu :
    ¬ Guarded (recorded (schlitzStep 7)) (NurBeideZu zweifluegelig 7)
      (schlitzStart zweifluegelig 0, [])
      [meldung hcanHesRolladenPositionReplay 20 17, meldung hcanHesReedkontaktStateReplay 1 0,
        meldung hcanHesReedkontaktStateReplay 2 1, meldung hcanHesReedkontaktStateReplay 1 0,
        meldung hcanHesReedkontaktStateReplay 1 0] := by
  decide

end OpenHcan.RolladenSchlitzpos
