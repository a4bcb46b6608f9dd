import OpenHcan.Devices.Powerport
import OpenHcan.Devices.Reedkontakt
import OpenHcan.Lib.Countdown
import OpenHcan.Lib.Lease

/-!
# Dunstabzugport — a hood beside an open fireplace (`devices/dunstabzugport.c`)

The hood has power while one of two windows is open, and for some minutes after
a button. The port does not ask the windows: it is on for seven seconds after
every message that one is open, and it is off at once when one is closed,
unless the other one has ever reported to be open.

The output is a lease: `wirkung` says what a message means for it after what
has come before, and `haube_an_iff` reads the output off the messages and the seconds
alone, whatever is lost, repeated or out of order.
-/

namespace OpenHcan.Dunstabzugport

open Lib
open Heizung (hcanHesReedkontaktOffen)
open RolladenSchlitzpos (hcanHesReedkontaktStateChange)

set_option maxRecDepth 100000

/-- `eds_dunstabzugport_block_t` -/
structure EdsDunstabzugportBlock where
  port : UInt8
  reedGruppe0 : UInt8
  freischaltTaster : UInt8
  freischaltZeit : UInt8
  reedGruppe1 : UInt8
deriving DecidableEq, Repr

/-- `device_data_dunstabzugport` -/
structure DeviceDataDunstabzugport where
  config : EdsDunstabzugportBlock
  counter : UInt16
  stateReed0 : Bool
  stateReed1 : Bool
  stateDunst : Bool
deriving DecidableEq, Repr

/-- What the functions of the port read and write: its data and the outputs of the board. -/
structure DunstIO where
  dev : DeviceDataDunstabzugport
  outputs : Outputs

def DunstIO.update (s : DunstIO) (f : DeviceDataDunstabzugport → DeviceDataDunstabzugport) :
    DunstIO :=
  { s with dev := f s.dev }

/-- `state_dunst` and the output are set together. -/
def DunstIO.setDunst (s : DunstIO) (state : Bool) : DunstIO where
  dev := { s.dev with stateDunst := state }
  outputs := darlingtonoutputSetpin s.outputs s.dev.config.port state

/-- The hood has power. -/
def DunstIO.an (s : DunstIO) : Bool := darlingtonoutputGetpin s.outputs s.dev.config.port

/-- `dunstabzugport_init` -/
def dunstabzugportInit (s : DunstIO) : DunstIO :=
  (s.update fun p => { p with counter := 0, stateReed0 := false, stateReed1 := false }).setDunst
    false

/-- The hood is on for `n` seconds. -/
def anFuer (n : UInt16) (s : DunstIO) : DunstIO :=
  (s.update fun p => { p with counter := n }).setDunst true

/-- The hood is off, and nothing is counted. -/
def sofortAus (s : DunstIO) : DunstIO := (s.update fun p => { p with counter := 0 }).setDunst false

/-- `case HCAN_HES_REEDKONTAKT_OFFEN`: one group for both contacts counts for the first. -/
def caseOffen (frame : CanixFrame) (s : DunstIO) : DunstIO :=
  if s.dev.config.reedGruppe0 = frame.byte 2 then
    anFuer 7 (s.update fun p => { p with stateReed0 := true })
  else if s.dev.config.reedGruppe1 = frame.byte 2 then
    anFuer 7 (s.update fun p => { p with stateReed1 := true })
  else s

/-- A contact has changed, and the other one has been reported open or not. -/
def kontaktGeaendert (frame : CanixFrame) (anderer : Bool) (s : DunstIO) : DunstIO :=
  if frame.byte 3 ≠ 0 then anFuer 7 s
  else if !anderer then sofortAus s
  else s

/-- `case HCAN_HES_REEDKONTAKT_STATE_CHANGE`: the second contact is looked at after the first. -/
def caseStateChange (frame : CanixFrame) (s : DunstIO) : DunstIO :=
  let s :=
    if s.dev.config.reedGruppe0 = frame.byte 2 then kontaktGeaendert frame s.dev.stateReed1 s else s
  if s.dev.config.reedGruppe1 = frame.byte 2 then kontaktGeaendert frame s.dev.stateReed0 s else s

/-- `case HCAN_HES_TASTER_DOWN` -/
def caseTasterDown (frame : CanixFrame) (s : DunstIO) : DunstIO :=
  if s.dev.config.freischaltTaster = frame.byte 2 then
    anFuer (s.dev.config.freischaltZeit.toUInt16 * 60) s
  else s

/-- `dunstabzugport_can_callback` -/
def dunstabzugportCanCallback (frame : CanixFrame) (s : DunstIO) : DunstIO :=
  let cmd := frame.byte 1
  if cmd = hcanHesReedkontaktOffen then caseOffen frame s
  else if cmd = hcanHesReedkontaktStateChange then caseStateChange frame s
  else if cmd = hcanHesTasterDown then caseTasterDown frame s
  else s

/-- `dunstabzugport_timer_handler` -/
def dunstabzugportTimerHandler (s : DunstIO) (zyklus : UInt8) : DunstIO :=
  if zyklus ≠ 1 then s
  else if s.dev.counter > 0 then
    let s := s.update fun p => { p with counter := p.counter - 1 }
    if s.dev.counter = 0 then s.setDunst false else s
  else s

/-! ## The machine -/

/-- A HES frame, or a call of the timer handler every second. -/
inductive DunstEvent
  | frame (f : CanixFrame)
  | tick
deriving DecidableEq, Repr

def dunstStep (s : DunstIO) : DunstEvent → DunstIO
  | .frame f => dunstabzugportCanCallback f s
  | .tick => dunstabzugportTimerHandler s 1

/-- A port after a start of the board. -/
def dunstStart (c : EdsDunstabzugportBlock) (outputs : Outputs) : DunstIO :=
  dunstabzugportInit ⟨⟨c, 0, false, false, false⟩, outputs⟩

/-! ## What a message means -/

section

variable (c : EdsDunstabzugportBlock)

/-- The first contact reports that its window is open. -/
def istOffen0 (f : CanixFrame) : Bool :=
  f.byte 1 = hcanHesReedkontaktOffen ∧ c.reedGruppe0 = f.byte 2

/-- The second contact reports that its window is open. -/
def istOffen1 (f : CanixFrame) : Bool :=
  f.byte 1 = hcanHesReedkontaktOffen ∧ c.reedGruppe0 ≠ f.byte 2 ∧ c.reedGruppe1 = f.byte 2

/-- What a frame means for the power of the hood, where `reed0` and `reed1` say which of the
contacts have ever reported an open window. -/
def frameWirkung (reed0 reed1 : Bool) (f : CanixFrame) : LeaseEvent :=
  if f.byte 1 = hcanHesReedkontaktOffen then
    if istOffen0 c f ∨ istOffen1 c f then .grant 7 else .idle
  else if f.byte 1 = hcanHesReedkontaktStateChange then
    if c.reedGruppe0 ≠ f.byte 2 ∧ c.reedGruppe1 ≠ f.byte 2 then .idle
    else if f.byte 3 ≠ 0 then .grant 7
    else if c.reedGruppe0 = f.byte 2 ∧ !reed1 ∨ c.reedGruppe1 = f.byte 2 ∧ !reed0 then .revoke
    else .idle
  else if f.byte 1 = hcanHesTasterDown ∧ c.freischaltTaster = f.byte 2 then
    .grant (c.freischaltZeit.toNat * 60)
  else .idle

/-- One of the events so far has been such a frame. -/
def gesehen (ist : CanixFrame → Bool) (past : List DunstEvent) : Bool :=
  past.any fun
    | .frame f => ist f
    | .tick => false

/-- What an event means after the past, which is newest first. -/
def wirkung (past : List DunstEvent) : DunstEvent → LeaseEvent
  | .frame f => frameWirkung c (gesehen (istOffen0 c) past) (gesehen (istOffen1 c) past) f
  | .tick => .tick

/-- What the events of a run mean, each after those before it. -/
def verlauf (es : List DunstEvent) : List LeaseEvent :=
  meanings (fun past e => e :: past) (wirkung c) [] es

end

/-- The power of the hood as a lease. -/
def DunstIO.lease (s : DunstIO) : Lease := ⟨s.an, s.dev.counter.toNat⟩

section

variable {c : EdsDunstabzugportBlock} {s : DunstIO} {f : CanixFrame}

@[simp] theorem setDunst_an (state : Bool) : (s.setDunst state).an = state := by
  simp [ DunstIO.an, DunstIO.setDunst, darlingtonoutputGetpin, darlingtonoutputSetpin]

@[simp] theorem anFuer_lease (n : UInt16) : (anFuer n s).lease = ⟨true, n.toNat⟩ := by
  unfold DunstIO.lease anFuer
  rw [setDunst_an]
  rfl

@[simp] theorem sofortAus_lease : (sofortAus s).lease = .free := by
  unfold DunstIO.lease sofortAus
  rw [setDunst_an]
  rfl

theorem dunstStart_lease (outputs : Outputs) : (dunstStart c outputs).lease = .free := by
  unfold DunstIO.lease dunstStart dunstabzugportInit
  rw [setDunst_an]
  rfl

/-- A number of minutes in seconds fits into the counter. -/
theorem minuten_toNat (zeit : UInt8) : (zeit.toUInt16 * 60).toNat = zeit.toNat * 60 := by
  have hzeit := zeit.toNat_lt
  rw [UInt16.toNat_mul, UInt8.toNat_toUInt16, show (60 : UInt16).toNat = 60 from rfl]
  omega

/-! ## One event -/

/-- What an event does to the port: the lease takes the meaning, the contacts are noted. -/
structure Wirkt (s t : DunstIO) (w : LeaseEvent) (reed0 reed1 : Bool) : Prop where
  config : t.dev.config = s.dev.config
  lease : t.lease = s.lease.step w
  reed0 : t.dev.stateReed0 = reed0
  reed1 : t.dev.stateReed1 = reed1

theorem Wirkt.refl (s : DunstIO) : Wirkt s s .idle s.dev.stateReed0 s.dev.stateReed1 :=
  ⟨rfl, rfl, rfl, rfl⟩

theorem caseOffen_wirkt (hcmd : f.byte 1 = hcanHesReedkontaktOffen) :
    Wirkt s (caseOffen f s)
      (if istOffen0 s.dev.config f ∨ istOffen1 s.dev.config f then .grant 7 else .idle)
      (s.dev.stateReed0 || istOffen0 s.dev.config f)
      (s.dev.stateReed1 || istOffen1 s.dev.config f) := by
  unfold caseOffen istOffen0 istOffen1
  by_cases h0 : s.dev.config.reedGruppe0 = f.byte 2
  · simp only [hcmd, h0, if_true, true_and, ne_eq, not_true, false_and, decide_true, decide_false,
      Bool.or_true, Bool.or_false, true_or]
    exact ⟨rfl, anFuer_lease 7, rfl, rfl⟩
  · by_cases h1 : s.dev.config.reedGruppe1 = f.byte 2
    · simp only [hcmd, h0, h1, if_true, if_false, true_and, and_true, ne_eq, not_false_eq_true,
        decide_true, decide_false, Bool.or_true, Bool.or_false, or_true]
      exact ⟨rfl, anFuer_lease 7, rfl, rfl⟩
    · simp only [hcmd, h0, h1, if_false, and_false, decide_false, Bool.or_false, or_self,
        Bool.false_eq_true]
      exact .refl s

/-- A window has been opened. -/
theorem kontaktGeaendert_auf (h : f.byte 3 ≠ 0) (anderer : Bool) :
    kontaktGeaendert f anderer s = anFuer 7 s :=
  if_pos h

/-- A window has been closed. -/
theorem kontaktGeaendert_zu (h : f.byte 3 = 0) (anderer : Bool) :
    kontaktGeaendert f anderer s = if anderer then s else sofortAus s := by
  unfold kontaktGeaendert
  rw [if_neg (not_not_intro h)]
  cases anderer
  · rfl
  · rfl

/-- A change of a contact leaves what is noted of the contacts. -/
theorem kontaktGeaendert_bleibt (anderer : Bool) (s : DunstIO) :
    (kontaktGeaendert f anderer s).dev.config = s.dev.config ∧
      (kontaktGeaendert f anderer s).dev.stateReed0 = s.dev.stateReed0 ∧
      (kontaktGeaendert f anderer s).dev.stateReed1 = s.dev.stateReed1 := by
  unfold kontaktGeaendert
  split
  · exact ⟨rfl, rfl, rfl⟩
  · split
    · exact ⟨rfl, rfl, rfl⟩
    · exact ⟨rfl, rfl, rfl⟩

/-- What the first contact does. -/
def ersterKontakt (frame : CanixFrame) (s : DunstIO) : DunstIO :=
  if s.dev.config.reedGruppe0 = frame.byte 2 then kontaktGeaendert frame s.dev.stateReed1 s else s

theorem ersterKontakt_bleibt (s : DunstIO) :
    (ersterKontakt f s).dev.config = s.dev.config ∧
      (ersterKontakt f s).dev.stateReed0 = s.dev.stateReed0 ∧
      (ersterKontakt f s).dev.stateReed1 = s.dev.stateReed1 := by
  unfold ersterKontakt
  split
  · exact kontaktGeaendert_bleibt _ s
  · exact ⟨rfl, rfl, rfl⟩

/-- The second contact finds the port as the first one does. -/
theorem caseStateChange_eq (s : DunstIO) : caseStateChange f s =
    if s.dev.config.reedGruppe1 = f.byte 2 then
      kontaktGeaendert f s.dev.stateReed0 (ersterKontakt f s)
    else ersterKontakt f s := by
  obtain ⟨hconfig, hreed0, -⟩ := ersterKontakt_bleibt (f := f) s
  show (if (ersterKontakt f s).dev.config.reedGruppe1 = f.byte 2 then
      kontaktGeaendert f (ersterKontakt f s).dev.stateReed0 (ersterKontakt f s)
    else ersterKontakt f s) = _
  rw [hconfig, hreed0]

theorem caseStateChange_bleibt (s : DunstIO) :
    (caseStateChange f s).dev.config = s.dev.config ∧
      (caseStateChange f s).dev.stateReed0 = s.dev.stateReed0 ∧
      (caseStateChange f s).dev.stateReed1 = s.dev.stateReed1 := by
  obtain ⟨hconfig, hreed0, hreed1⟩ := ersterKontakt_bleibt (f := f) s
  rw [caseStateChange_eq]
  split
  · obtain ⟨hconfig', hreed0', hreed1'⟩ :=
      kontaktGeaendert_bleibt (f := f) s.dev.stateReed0 (ersterKontakt f s)
    exact ⟨hconfig'.trans hconfig, hreed0'.trans hreed0, hreed1'.trans hreed1⟩
  · exact ⟨hconfig, hreed0, hreed1⟩

theorem caseStateChange_auf (h : f.byte 3 ≠ 0) (s : DunstIO) :
    (caseStateChange f s).lease = s.lease.step
      (if s.dev.config.reedGruppe0 ≠ f.byte 2 ∧ s.dev.config.reedGruppe1 ≠ f.byte 2 then .idle
        else .grant 7) := by
  rw [caseStateChange_eq, kontaktGeaendert_auf h]
  by_cases h1 : s.dev.config.reedGruppe1 = f.byte 2
  · simp [h1]
  · unfold ersterKontakt
    by_cases h0 : s.dev.config.reedGruppe0 = f.byte 2
    · simp [h0, h1, kontaktGeaendert_auf h]
    · simp [h0, h1]

theorem caseStateChange_zu (h : f.byte 3 = 0) (s : DunstIO) :
    (caseStateChange f s).lease = s.lease.step
      (if s.dev.config.reedGruppe0 = f.byte 2 ∧ !s.dev.stateReed1 ∨
          s.dev.config.reedGruppe1 = f.byte 2 ∧ !s.dev.stateReed0 then .revoke else .idle) := by
  have hfirst : (ersterKontakt f s).lease = s.lease.step
      (if s.dev.config.reedGruppe0 = f.byte 2 ∧ !s.dev.stateReed1 then .revoke else .idle) := by
    unfold ersterKontakt
    rw [kontaktGeaendert_zu h]
    by_cases h0 : s.dev.config.reedGruppe0 = f.byte 2
    · cases hreed1 : s.dev.stateReed1
      · simp [h0]
      · simp [h0]
    · simp [h0]
  rw [caseStateChange_eq, kontaktGeaendert_zu h]
  by_cases h1 : s.dev.config.reedGruppe1 = f.byte 2 ∧ !s.dev.stateReed0
  · rw [if_pos h1.1, if_neg (by simpa using h1.2), sofortAus_lease, if_pos (.inr h1)]
    rfl
  · have hsecond : (if s.dev.config.reedGruppe1 = f.byte 2 then
        (if s.dev.stateReed0 then ersterKontakt f s else sofortAus (ersterKontakt f s))
        else ersterKontakt f s) = ersterKontakt f s := by
      split
      · rename_i hgruppe
        exact if_pos (by simpa [hgruppe] using h1)
      · rfl
    rw [hsecond, hfirst]
    simp only [h1, or_false]

/-- **A frame** means for the hood what `frameWirkung` says. -/
theorem frame_wirkt (f : CanixFrame) (s : DunstIO) :
    Wirkt s (dunstabzugportCanCallback f s)
      (frameWirkung s.dev.config s.dev.stateReed0 s.dev.stateReed1 f)
      (s.dev.stateReed0 || istOffen0 s.dev.config f)
      (s.dev.stateReed1 || istOffen1 s.dev.config f) := by
  unfold dunstabzugportCanCallback frameWirkung
  by_cases hoffen : f.byte 1 = hcanHesReedkontaktOffen
  · rw [if_pos hoffen, if_pos hoffen]
    exact caseOffen_wirkt hoffen
  · have h0 : istOffen0 s.dev.config f = false := by simp [istOffen0, hoffen]
    have h1 : istOffen1 s.dev.config f = false := by simp [istOffen1, hoffen]
    rw [if_neg hoffen, if_neg hoffen, h0, h1, Bool.or_false, Bool.or_false]
    by_cases hchange : f.byte 1 = hcanHesReedkontaktStateChange
    · rw [if_pos hchange, if_pos hchange]
      obtain ⟨hconfig, hreed0, hreed1⟩ := caseStateChange_bleibt (f := f) s
      refine ⟨hconfig, ?_, hreed0, hreed1⟩
      by_cases hzu : f.byte 3 = 0
      · rw [caseStateChange_zu hzu]
        by_cases hneither : s.dev.config.reedGruppe0 ≠ f.byte 2 ∧
            s.dev.config.reedGruppe1 ≠ f.byte 2
        · rw [if_pos hneither, if_neg (by simp [hneither])]
        · rw [if_neg hneither, if_neg (not_not_intro hzu)]
      · rw [caseStateChange_auf hzu, if_pos hzu]
    · rw [if_neg hchange, if_neg hchange]
      by_cases htaster : f.byte 1 = hcanHesTasterDown
      · rw [if_pos htaster]
        unfold caseTasterDown
        by_cases hgruppe : s.dev.config.freischaltTaster = f.byte 2
        · rw [if_pos hgruppe, if_pos ⟨htaster, hgruppe⟩]
          refine ⟨rfl, ?_, rfl, rfl⟩
          rw [anFuer_lease, minuten_toNat]
          rfl
        · rw [if_neg hgruppe, if_neg fun h => hgruppe h.2]
          exact .refl s
      · rw [if_neg htaster, if_neg fun h => htaster h.1]
        exact .refl s

/-- The seconds are counted down. -/
def gezaehlt (s : DunstIO) : DunstIO := s.update fun p => { p with counter := p.counter - 1 }

theorem timerHandler_eq (h : s.dev.counter ≠ 0) : dunstabzugportTimerHandler s 1 =
    if s.dev.counter - 1 = 0 then (gezaehlt s).setDunst false else gezaehlt s := by
  unfold dunstabzugportTimerHandler
  rw [if_neg (by decide), if_pos (UInt16.pos_iff_ne_zero.mpr h)]
  rfl

/-- **A second** ages the lease. -/
theorem tick_wirkt (s : DunstIO) :
    Wirkt s (dunstabzugportTimerHandler s 1) .tick s.dev.stateReed0 s.dev.stateReed1 := by
  by_cases h0 : s.dev.counter = 0
  · unfold dunstabzugportTimerHandler
    rw [if_neg (by decide), if_neg (by simp [h0])]
    refine ⟨rfl, ?_, rfl, rfl⟩
    rw [Lease.step_tick, Lease.age, if_pos (by simp [ DunstIO.lease, h0])]
  · rw [timerHandler_eq h0]
    have hleft : s.lease.left ≠ 0 := toNat_ne_zero h0
    have hminus := toNat_sub_one h0
    have hone : s.dev.counter - 1 = 0 ↔ s.lease.left = 1 := by
      show _ ↔ s.dev.counter.toNat = 1
      have hpos := Nat.pos_of_ne_zero (toNat_ne_zero h0)
      rw [← UInt16.toNat_inj, hminus, UInt16.toNat_zero]
      omega
    by_cases hlast : s.dev.counter - 1 = 0
    · rw [if_pos hlast]
      refine ⟨rfl, ?_, rfl, rfl⟩
      rw [Lease.step_tick, Lease.age, if_neg hleft, hone.mp hlast]
      ext
      · simp [ DunstIO.lease]
      · show (s.dev.counter - 1).toNat = _
        rw [hlast]
        rfl
    · rw [if_neg hlast]
      refine ⟨rfl, ?_, rfl, rfl⟩
      rw [Lease.step_tick, Lease.age, if_neg hleft]
      have hne : s.lease.left ≠ 1 := fun h => hlast (hone.mpr h)
      ext
      · rw [decide_eq_true hne, Bool.and_true]
        rfl
      · exact hminus

/-! ## Whole runs -/

/-- What every run keeps: the contacts that have been noted are those of the past. -/
structure DunstInv (c : EdsDunstabzugportBlock) (k : DunstIO × List DunstEvent) : Prop where
  config : k.1.dev.config = c
  reed0 : k.1.dev.stateReed0 = gesehen (istOffen0 c) k.2
  reed1 : k.1.dev.stateReed1 = gesehen (istOffen1 c) k.2

variable {k : DunstIO × List DunstEvent}

/-- An event does what it means after the past. -/
theorem DunstInv.wirkt (h : DunstInv c k) (e : DunstEvent) :
    Wirkt k.1 (dunstStep k.1 e) (wirkung c k.2 e) (gesehen (istOffen0 c) (e :: k.2))
      (gesehen (istOffen1 c) (e :: k.2)) := by
  obtain ⟨rfl, hreed0, hreed1⟩ := h
  cases e with
  | frame f =>
      have hw := frame_wirkt f k.1
      rw [hreed0, hreed1] at hw
      unfold gesehen
      rw [List.any_cons, List.any_cons, Bool.or_comm, Bool.or_comm (istOffen1 _ f)]
      exact hw
  | tick =>
      have hw := tick_wirkt k.1
      rw [hreed0, hreed1] at hw
      exact hw

theorem DunstInv.step (h : DunstInv c k) (e : DunstEvent) :
    DunstInv c (recorded dunstStep k e) :=
  ⟨(h.wirkt e).config.trans h.config, (h.wirkt e).reed0, (h.wirkt e).reed1⟩

theorem dunstStart_inv (c : EdsDunstabzugportBlock) (outputs : Outputs) :
    DunstInv c (dunstStart c outputs, []) :=
  ⟨rfl, rfl, rfl⟩

/-- The lease of a run. -/
theorem run_dunst_lease (c : EdsDunstabzugportBlock) (outputs : Outputs) (es : List DunstEvent) :
    (run dunstStep (dunstStart c outputs) es).lease = run Lease.step .free (verlauf c es) := by
  let nach (k : DunstIO × List DunstEvent) (e : DunstEvent) : LeaseEvent := wirkung c k.2 e
  have hlease : (run (recorded dunstStep) (dunstStart c outputs, []) es).1.lease =
      run Lease.step (dunstStart c outputs).lease
        (meanings (recorded dunstStep) nach (dunstStart c outputs, []) es) :=
    @run_lease _ _ (recorded dunstStep) nach (fun k => k.1.lease) (DunstInv c)
      (fun _ e h => h.step e) (fun _ e h => (h.wirkt e).lease) es _ (dunstStart_inv c outputs)
  have hpast : meanings (recorded dunstStep) nach (dunstStart c outputs, []) es = verlauf c es :=
    meanings_map (fun _ _ => rfl) es _
  rwa [run_recorded, dunstStart_lease, hpast] at hlease

end

/-- **The hood in the past**: after any run it is on exactly if the last message that meant
something for it has switched it on, and it is not as long ago as it was for. -/
theorem haube_an_iff (c : EdsDunstabzugportBlock) (outputs : Outputs) (es : List DunstEvent) :
    (run dunstStep (dunstStart c outputs) es).an = true ↔ ∃ n, Granted (verlauf c es) n := by
  rw [← held_iff, ← run_dunst_lease c outputs]
  rfl


end OpenHcan.Dunstabzugport
