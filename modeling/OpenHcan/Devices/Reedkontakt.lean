import OpenHcan.Devices.Heizung
import OpenHcan.Devices.RolladenSchlitzpos
import OpenHcan.Lib.Countdown

/-!
# Reedkontakt — the contact of a window (`devices/reedkontakt.c`)

A contact says when its window is opened or closed, and with its `modus` set it
repeats every fifth second that the window is open. Receivers to which that
matters go by the repeated message: they fall back by themselves when it is
missing.

The timer handler reads its port up to four times, and nothing makes the four
agree. What `inputport_read` returns each time is part of a call.
-/

namespace OpenHcan.Reedkontakt

open Lib
open Heizung (hcanHesReedkontaktOffen)
open RolladenSchlitzpos (hcanHesReedkontaktStateQuery hcanHesReedkontaktStateReplay
  hcanHesReedkontaktStateChange)

def hcanHesReedkontaktConfigRq : UInt8 := 81
def hcanHesReedkontaktConfigReplay : UInt8 := 82

/-- `eds_reedkontakt_block_t` -/
structure EdsReedkontaktBlock where
  port : UInt8
  gruppe : UInt8
  modus : UInt8
deriving DecidableEq, Repr

/-- `device_data_reedkontakt`: `lastState` is 1 for an open window. -/
structure DeviceDataReedkontakt where
  config : EdsReedkontaktBlock
  timerCounter : UInt8
  lastState : Bool
deriving DecidableEq, Repr

/-- What the functions of a contact read and write: its data and the frames the
board has sent. -/
structure ReedIO where
  dev : DeviceDataReedkontakt
  sent : List CanixFrame
deriving DecidableEq, Repr

/-- What `inputport_read` returns at the four places of the timer handler. -/
structure Ablesungen where
  vergleich : Bool → UInt8 → UInt8
  gemerkt : Bool → UInt8 → UInt8
  gemeldet : Bool → UInt8 → UInt8
  modus : Bool → UInt8 → UInt8

/-- `inputport_read(1, p->config.port) != 0`: the magnet is away. -/
def EdsReedkontaktBlock.offen (c : EdsReedkontaktBlock) (inputportRead : Bool → UInt8 → UInt8) :
    Bool :=
  inputportRead true c.port ≠ 0

/-- `reedkontakt_init`: the counter starts at a number that depends on the group. -/
def reedkontaktInit (inputportRead : Bool → UInt8 → UInt8) (p : DeviceDataReedkontakt) :
    DeviceDataReedkontakt :=
  { p with
    timerCounter := p.config.gruppe &&& 0x07
    lastState := p.config.offen inputportRead }

/-- A truth value of C. -/
def alsByte (b : Bool) : UInt8 := if b then 1 else 0

/-- The message of a change. -/
def stateChange (selfaddr : UInt16) (gruppe : UInt8) (offen : Bool) : CanixFrame :=
  sfpFrame selfaddr hcanMulticastInfo
    [hcanSrvHes, hcanHesReedkontaktStateChange, gruppe, alsByte offen]

/-- The message that is repeated. -/
def offenMeldung (selfaddr : UInt16) (gruppe : UInt8) : CanixFrame :=
  sfpFrame selfaddr hcanMulticastInfo [hcanSrvHes, hcanHesReedkontaktOffen, gruppe]

/-- The window has been opened or closed. -/
def aenderungMelden (selfaddr : UInt16) (a : Ablesungen) (s : ReedIO) : ReedIO :=
  if s.dev.config.offen a.vergleich ≠ s.dev.lastState then
    ⟨{ s.dev with lastState := s.dev.config.offen a.gemerkt },
      s.sent ++ [stateChange selfaddr s.dev.config.gruppe (s.dev.config.offen a.gemeldet)]⟩
  else s

/-- The window is open: a message, and four seconds without one. -/
def offenWiederholen (selfaddr : UInt16) (a : Ablesungen) (s : ReedIO) : ReedIO :=
  if s.dev.config.modus ≠ 0 ∧ s.dev.config.offen a.modus = true then
    let s :=
      if s.dev.timerCounter = 0 then
        (⟨{ s.dev with timerCounter := 5 },
          s.sent ++ [offenMeldung selfaddr s.dev.config.gruppe]⟩ : ReedIO)
      else s
    { s with dev := { s.dev with timerCounter := s.dev.timerCounter - 1 } }
  else { s with dev := { s.dev with timerCounter := 0 } }

/-- `reedkontakt_timer_handler` -/
def reedkontaktTimerHandler (selfaddr : UInt16) (a : Ablesungen) (s : ReedIO) (zyklus : UInt8) :
    ReedIO :=
  if zyklus ≠ 1 then s else offenWiederholen selfaddr a (aenderungMelden selfaddr a s)

/-- The answers of `reedkontakt_can_callback`. A frame whose third byte is the group by
chance is not looked at as a question to all devices. -/
def antwort (inputportRead : Bool → UInt8 → UInt8) (frame : CanixFrame)
    (c : EdsReedkontaktBlock) : Option (List UInt8) :=
  let cmd := frame.byte 1
  if c.gruppe = frame.byte 2 then
    if cmd = hcanHesReedkontaktStateQuery then
      some [hcanSrvHes, hcanHesReedkontaktStateReplay, frame.byte 2,
        alsByte (c.offen inputportRead)]
    else if cmd = hcanHesReedkontaktConfigRq then
      some [hcanSrvHes, hcanHesReedkontaktConfigReplay, frame.byte 2]
    else none
  else if cmd = hcanHesDeviceStatesRequest then
    if c.gruppe ≠ 255 then
      some [hcanSrvHes, hcanHesReedkontaktStateReplay, c.gruppe, alsByte (c.offen inputportRead)]
    else none
  else if cmd = hcanHesDevicesConfigsRequest then
    if c.gruppe ≠ 255 then some [hcanSrvHes, hcanHesReedkontaktConfigReplay, c.gruppe] else none
  else none

/-- `reedkontakt_can_callback` -/
def reedkontaktCanCallback (selfaddr : UInt16) (inputportRead : Bool → UInt8 → UInt8)
    (frame : CanixFrame) (s : ReedIO) : ReedIO :=
  match antwort inputportRead frame s.dev.config with
  | some bytes => { s with sent := s.sent ++ [sfpFrame selfaddr frame.src bytes] }
  | none => s

/-! ## One second -/

/-- The contact repeats that the window is open. -/
def EdsReedkontaktBlock.wiederholt (c : EdsReedkontaktBlock) (a : Ablesungen) : Bool :=
  c.modus ≠ 0 ∧ c.offen a.modus = true

section

variable (selfaddr : UInt16) (a : Ablesungen) (s : ReedIO) (p : DeviceDataReedkontakt)

/-- What a second does to the data. -/
def sekunde : DeviceDataReedkontakt :=
  { p with
    timerCounter :=
      if p.config.wiederholt a then (if p.timerCounter = 0 then 4 else p.timerCounter - 1) else 0
    lastState :=
      if p.config.offen a.vergleich ≠ p.lastState then p.config.offen a.gemerkt else p.lastState }

/-- What a second sends about a change. -/
def aenderung : List CanixFrame :=
  if p.config.offen a.vergleich ≠ p.lastState then
    [stateChange selfaddr p.config.gruppe (p.config.offen a.gemeldet)]
  else []

/-- What a second sends about an open window. -/
def wiederholung : List CanixFrame :=
  if p.config.wiederholt a ∧ p.timerCounter = 0 then [offenMeldung selfaddr p.config.gruppe] else []

theorem aenderungMelden_eq : aenderungMelden selfaddr a s =
    ⟨{ s.dev with lastState := (sekunde a s.dev).lastState },
      s.sent ++ aenderung selfaddr a s.dev⟩ := by
  unfold aenderungMelden aenderung sekunde
  by_cases hchange : s.dev.config.offen a.vergleich ≠ s.dev.lastState
  · simp [hchange]
  · simp [hchange]

theorem offenWiederholen_eq : offenWiederholen selfaddr a s =
    ⟨{ s.dev with timerCounter := (sekunde a s.dev).timerCounter },
      s.sent ++ wiederholung selfaddr a s.dev⟩ := by
  unfold offenWiederholen wiederholung sekunde EdsReedkontaktBlock.wiederholt
  by_cases hopen : s.dev.config.modus ≠ 0 ∧ s.dev.config.offen a.modus = true
  · by_cases hzero : s.dev.timerCounter = 0
    · simp [hopen, hzero]
    · simp [hopen, hzero]
  · simp [hopen]

/-- **A second of a contact**: the message of a change comes before the repeated one. -/
theorem timerHandler_eq : reedkontaktTimerHandler selfaddr a s 1 =
    ⟨sekunde a s.dev, s.sent ++ aenderung selfaddr a s.dev ++ wiederholung selfaddr a s.dev⟩ := by
  unfold reedkontaktTimerHandler
  rw [if_neg (by decide), offenWiederholen_eq, aenderungMelden_eq]
  rfl

@[simp] theorem sekunde_config : (sekunde a p).config = p.config := rfl

end

/-! ## When a contact has reported

`von` picks the seconds of a contact out of the events of a larger machine. The
past is newest first.
-/

section

variable {ε : Type*} (von : ε → Option Ablesungen) (c : EdsReedkontaktBlock) (past : List ε)

/-- The window was open in the last second. -/
def zuletztOffen : Bool := (past.findSome? von).any c.wiederholt

/-- The window was closed in the last second. -/
def zuletztZu : Bool := (past.findSome? von).any fun a => !c.wiederholt a

/-- The window has been closed since the start. -/
def schonZu : Bool := past.any fun e => (von e).any fun a => !c.wiederholt a

/-- The event is a second of the contact. -/
def istSekunde (e : ε) : Bool := (von e).isSome

/-- The seconds since the start. -/
def sekunden : Nat := past.countP (istSekunde von)

/-- The number the counter starts at. -/
def anlaufzeit : Nat := (c.gruppe &&& 0x07).toNat

/-- The window is open, and the contact has said so: a window that was open at the start is
reported when the counter has run down. -/
def Gemeldet : Prop :=
  zuletztOffen von c past = true ∧ (schonZu von c past = true ∨ anlaufzeit c < sekunden von past)

instance : Decidable (Gemeldet von c past) := by
  unfold Gemeldet
  infer_instance

/-- What the counter is after the past, until the contact has reported. -/
structure Phase (p : DeviceDataReedkontakt) : Prop where
  config : p.config = c
  anlauf : schonZu von c past = false → sekunden von past ≤ anlaufzeit c →
    p.timerCounter.toNat + sekunden von past = anlaufzeit c
  zu : zuletztZu von c past = true → p.timerCounter = 0

end

section

variable {ε : Type*} {von : ε → Option Ablesungen} {c : EdsReedkontaktBlock} {past : List ε}
  {p : DeviceDataReedkontakt} {e : ε} {a : Ablesungen}

theorem sekunden_cons_some (h : von e = some a) :
    sekunden von (e :: past) = sekunden von past + 1 := by
  unfold sekunden istSekunde
  rw [List.countP_cons, h]
  rfl

theorem sekunden_cons_none (h : von e = none) : sekunden von (e :: past) = sekunden von past := by
  unfold sekunden istSekunde
  rw [List.countP_cons, h]
  rfl

theorem schonZu_cons_some (h : von e = some a) :
    schonZu von c (e :: past) = (!c.wiederholt a || schonZu von c past) := by
  unfold schonZu
  rw [List.any_cons, h]
  rfl

theorem schonZu_cons_none (h : von e = none) : schonZu von c (e :: past) = schonZu von c past := by
  unfold schonZu
  rw [List.any_cons, h]
  rfl

theorem zuletztOffen_cons_some (h : von e = some a) :
    zuletztOffen von c (e :: past) = c.wiederholt a := by
  unfold zuletztOffen
  rw [List.findSome?_cons, h]
  rfl

theorem zuletztOffen_cons_none (h : von e = none) :
    zuletztOffen von c (e :: past) = zuletztOffen von c past := by
  unfold zuletztOffen
  rw [List.findSome?_cons, h]

theorem zuletztZu_cons_some (h : von e = some a) :
    zuletztZu von c (e :: past) = !c.wiederholt a := by
  unfold zuletztZu
  rw [List.findSome?_cons, h]
  rfl

theorem zuletztZu_cons_none (h : von e = none) :
    zuletztZu von c (e :: past) = zuletztZu von c past := by
  unfold zuletztZu
  rw [List.findSome?_cons, h]

/-- Before its first second a contact has seen nothing. -/
theorem offen_or_zu_or_start (von : ε → Option Ablesungen) (c : EdsReedkontaktBlock)
    (past : List ε) :
    zuletztOffen von c past = true ∨ zuletztZu von c past = true ∨
      schonZu von c past = false ∧ sekunden von past = 0 := by
  cases h : past.findSome? von with
  | some a =>
      cases hopen : c.wiederholt a with
      | false => exact .inr (.inl (by simp [zuletztZu, h, hopen]))
      | true => exact .inl (by simp [zuletztOffen, h, hopen])
  | none =>
      rw [List.findSome?_eq_none_iff] at h
      refine .inr (.inr ⟨?_, ?_⟩)
      · rw [schonZu, List.any_eq_false]
        intro e he
        simp [h e he]
      · rw [sekunden, List.countP_eq_zero]
        intro e he
        simp [istSekunde, h e he]

/-- An event of somebody else. -/
theorem Phase.andere (h : Phase von c past p) (he : von e = none) : Phase von c (e :: past) p := by
  refine ⟨h.config, ?_, ?_⟩
  · rw [schonZu_cons_none he, sekunden_cons_none he]
    exact h.anlauf
  · rw [zuletztZu_cons_none he]
    exact h.zu

/-- A second of the contact. -/
theorem Phase.sekunde (h : Phase von c past p) (he : von e = some a) :
    Phase von c (e :: past) (sekunde a p) := by
  obtain ⟨rfl, hanlauf, hzu⟩ := h
  refine ⟨rfl, ?_, ?_⟩
  · rw [schonZu_cons_some he, sekunden_cons_some he]
    intro hnie hwenige
    obtain ⟨hopen, hnie'⟩ := Bool.or_eq_false_iff.mp hnie
    have hopen' : p.config.wiederholt a = true := by simpa using hopen
    have hcount := hanlauf hnie' (by omega)
    have hne : p.timerCounter ≠ 0 := by
      intro hzero
      rw [hzero, UInt8.toNat_zero] at hcount
      omega
    have hminus := byte_sub_one_add_one hne
    simp only [Reedkontakt.sekunde, hopen', if_true, hne, if_false]
    omega
  · rw [zuletztZu_cons_some he]
    intro hclosed
    simp only [Reedkontakt.sekunde]
    rw [if_neg (by simpa using hclosed)]

/-- **The contact reports in time**: when it has to have reported after a second, it reports
in it, or it had reported before. -/
theorem Phase.gemeldet_sekunde (h : Phase von c past p) (he : von e = some a)
    (hg : Gemeldet von c (e :: past)) :
    c.wiederholt a = true ∧ (p.timerCounter = 0 ∨ Gemeldet von c past) := by
  obtain ⟨hopen, hzeit⟩ := hg
  rw [zuletztOffen_cons_some he] at hopen
  rw [schonZu_cons_some he, sekunden_cons_some he, hopen, Bool.not_true, Bool.false_or] at hzeit
  refine ⟨hopen, ?_⟩
  rcases offen_or_zu_or_start von c past with hoffen | hzu | ⟨hnie, hnull⟩
  · by_cases hschon : schonZu von c past = true
    · exact .inr ⟨hoffen, .inl hschon⟩
    · rw [Bool.not_eq_true] at hschon
      rw [hschon] at hzeit
      by_cases hlang : anlaufzeit c < sekunden von past
      · exact .inr ⟨hoffen, .inr hlang⟩
      · have hcount := h.anlauf hschon (by omega)
        left
        apply UInt8.toNat_inj.mp
        rw [UInt8.toNat_zero]
        rcases hzeit with hfalse | hlt
        · exact nomatch hfalse
        · omega
  · exact .inl (h.zu hzu)
  · have hcount := h.anlauf hnie (by omega)
    rw [hnie] at hzeit
    left
    apply UInt8.toNat_inj.mp
    rw [UInt8.toNat_zero]
    rcases hzeit with hfalse | hlt
    · exact nomatch hfalse
    · omega

/-- What such a second sends and leaves: the message, and four seconds to the next one, or a
second less. -/
theorem Phase.meldet (h : Phase von c past p) (he : von e = some a)
    (hg : Gemeldet von c (e :: past)) (selfaddr : UInt16) :
    wiederholung selfaddr a p = [offenMeldung selfaddr c.gruppe] ∧
        (Reedkontakt.sekunde a p).timerCounter = 4 ∨
      wiederholung selfaddr a p = [] ∧
        (Reedkontakt.sekunde a p).timerCounter.toNat + 1 = p.timerCounter.toNat ∧
        Gemeldet von c past := by
  obtain ⟨hopen, hreport⟩ := h.gemeldet_sekunde he hg
  obtain ⟨rfl, -, -⟩ := h
  unfold wiederholung Reedkontakt.sekunde
  by_cases hzero : p.timerCounter = 0
  · left
    simp [hopen, hzero]
  · right
    simp only [hopen, hzero, and_false, if_false, if_true, true_and]
    exact ⟨byte_sub_one_add_one hzero, hreport.resolve_left hzero⟩

theorem gemeldet_andere (he : von e = none) :
    Gemeldet von c (e :: past) ↔ Gemeldet von c past := by
  unfold Gemeldet
  rw [zuletztOffen_cons_none he, schonZu_cons_none he, sekunden_cons_none he]

/-- A contact after a start of the board. -/
theorem phase_init (inputportRead : Bool → UInt8 → UInt8) (p : DeviceDataReedkontakt) :
    Phase von p.config [] (reedkontaktInit inputportRead p) :=
  ⟨rfl, fun _ _ => rfl, nofun⟩

end

end OpenHcan.Reedkontakt
