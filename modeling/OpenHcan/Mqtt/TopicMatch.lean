import OpenHcan.Mqtt.PrepareMsg

/-!
# TopicMatch — which entry a topic selects

`prepareMsg4cb` in two steps: the entry of the configuration that a device type
selects for a publish (`gewaehlt`), and what is written into the slot for an
entry (`fuellung`). The loop over the device types ends at the first that
selects one.
-/

namespace OpenHcan.Mqtt

open Lib

/-- The entries a topic can end with. -/
inductive Eintrag where
  | statT
  | cmdT
  | modeCmdT
  | tempCmdT
  | setPosT
deriving DecidableEq, Repr

/-- The text of an entry. -/
def Ha.eintrag (ha : Ha) (eDev : TeDev) : Eintrag → List Char
  | .statT => (ha.strDateiEintrag eDev).statT
  | .cmdT => (ha.strDateiEintrag eDev).cmdT
  | .modeCmdT => ha.strDateiEintragClimate.modeCmdT
  | .tempCmdT => ha.strDateiEintragClimate.tempCmdT
  | .setPosT => (ha.strDateiEintrag eDev).setPosT

/-- The entries of a device type in the order they are compared. -/
def TeDev.eintraege : TeDev → List Eintrag
  | .light | .switch => [.statT, .cmdT]
  | .climate => [.statT, .modeCmdT, .tempCmdT]
  | .tempsensor | .reedkontakt => [.statT]
  | .cover => [.statT, .cmdT, .setPosT]

/-- What is written into the slot behind the id. -/
inductive Fuellung where
  | kurz (command : UInt8)
  | position (pos : UInt8)
  | ohnePosition
  | thermostat (tSoll : CFloat) (dauer : UInt16)

/-- The length of the message, and the slot with it. -/
def Fuellung.schreibe (m : Msg4cb) : Fuellung → UInt8 × Msg4cb
  | .kurz command => (3, m.setData 1 command)
  | .position pos => (4, (m.setData 1 Hes.rolladenPositionSet).setData 3 pos)
  | .ohnePosition => (4, m.setData 1 Hes.rolladenPositionSet)
  | .thermostat tSoll dauer => setThermostat m tSoll dauer

/-- The HES message. -/
def Fuellung.command : Fuellung → UInt8
  | .kurz command => command
  | .position _ | .ohnePosition => Hes.rolladenPositionSet
  | .thermostat _ _ => Hes.heizungSetModeThermostatDetails

/-- What is written for an entry of a device type. A type has no other entries
than its own. -/
def fuellung (lib : CLib) (payload : List Char) : TeDev → Eintrag → Fuellung
  | .light, .statT | .switch, .statT => .kurz Hes.powerGroupStateQuery
  | .light, _ | .switch, _ =>
      .kurz (if isKey payload "ON".toList then Hes.powerGroupOn else Hes.powerGroupOff)
  | .climate, .statT => .kurz Hes.heizungTistRequest
  | .climate, .modeCmdT =>
      if isKey payload "off".toList then .kurz Hes.heizungSetModeOff
      else if isKey payload "auto".toList then .kurz Hes.heizungSetModeAutomatik
      else if isKey payload "heat".toList then .thermostat (.sixteenths 312) dauerHeizen
      else .thermostat (.sixteenths 160) 0
  | .climate, _ => .thermostat (lib.atof payload) dauerHeizen
  | .tempsensor, _ => .kurz Hes.oneWireTemperatureQuery
  | .reedkontakt, _ => .kurz Hes.reedkontaktStateQuery
  | .cover, .statT => .kurz Hes.rolladenPositionRequest
  | .cover, .cmdT =>
      if isKey payload "CLOSE".toList then .position 200
      else if isKey payload "OPEN".toList then .position 201
      else if isKey payload "STOP".toList then .position 202
      else .ohnePosition
  | .cover, _ => .position (UInt8.ofInt (strtol lib.longMax payload).1)

/-- Whatever is written, there is a message. -/
theorem Fuellung.schreibe_pos (m : Msg4cb) (f : Fuellung) : (f.schreibe m).1 ≠ 0 := by
  cases f <;> simp [schreibe, setThermostat]

/-- The length does not depend on the slot. -/
theorem Fuellung.schreibe_len (m m' : Msg4cb) (f : Fuellung) :
    (f.schreibe m).1 = (f.schreibe m').1 := by
  cases f <;> rfl

variable (lib : CLib) (ha : Ha) (rx : Received)

/-- The entry agrees with what follows the id, as far as they are compared. -/
def uebereinstimmend (eDev : TeDev) (x : Eintrag) : Bool :=
  let restTopic := (idUndRest lib ha rx eDev).2
  isEq (ha.eintrag eDev x) restTopic (vergleichsLaenge rx restTopic)

/-- The first entry of the device type that agrees, if its tilde does. -/
def gewaehlt (eDev : TeDev) : Option Eintrag :=
  if tildeEq ha rx eDev then eDev.eintraege.find? (uebereinstimmend lib ha rx eDev) else none

/-- The slot with the id filled in. -/
def mitId (eDev : TeDev) (m : Msg4cb) : Msg4cb :=
  m.setData 2 (UInt8.ofInt (idUndRest lib ha rx eDev).1)

@[simp] theorem mitId_dev (eDev : TeDev) (m : Msg4cb) : (mitId lib ha rx eDev m).dev = m.dev := rfl

/-- A search for the first entry tries the entries one after the other. -/
theorem elim_find?_cons {α β : Type} (p : α → Bool) (z : β) (f : α → β) (x : α) (xs : List α) :
    ((x :: xs).find? p).elim z f = if p x then f x else (xs.find? p).elim z f := by
  rw [List.find?_cons]
  cases p x <;> rfl

/-- The case of a device type in terms of its entries. -/
theorem prepareCase_eq (eDev : TeDev) (restTopic : List Char) (bisPos : Nat) (payload : List Char)
    (m : Msg4cb) :
    prepareCase lib ha eDev restTopic bisPos payload m =
      (eDev.eintraege.find? fun x => isEq (ha.eintrag eDev x) restTopic bisPos).elim (0, m)
        fun x => (fuellung lib payload eDev x).schreibe m := by
  cases eDev
  all_goals
    simp only [TeDev.eintraege, elim_find?_cons, List.find?_nil, fuellung,
      apply_ite (Fuellung.schreibe m)]
    rfl

/-- One pass of the loop: the id is filled in as soon as the tilde agrees. -/
theorem prepareDev_eq (eDev : TeDev) (m : Msg4cb) :
    prepareDev lib ha rx eDev m =
      (gewaehlt lib ha rx eDev).elim
        (0, if tildeEq ha rx eDev then mitId lib ha rx eDev m else m)
        fun x => (fuellung lib rx.payload eDev x).schreibe (mitId lib ha rx eDev m) := by
  rw [prepareDev, gewaehlt]
  split
  · exact prepareCase_eq lib ha eDev _ _ _ _
  · rfl

/-- The first device type that selects an entry. -/
def erster (devs : List TeDev) : Option (TeDev × Eintrag) :=
  devs.findSome? fun eDev => (gewaehlt lib ha rx eDev).map fun x => (eDev, x)

/-- The loop makes the message of the first entry selected. The passes before
it write the id into the slot and leave the rest. -/
theorem prepareLoop_eq (devs : List TeDev) (m : Msg4cb) :
    ∃ m', m'.dev = m.dev ∧ (∀ i ≠ 2, m'.frame.data i = m.frame.data i) ∧
      prepareLoop lib ha rx devs m = (erster lib ha rx devs).elim (0, m')
        fun (eDev, x) =>
          (fuellung lib rx.payload eDev x).schreibe (mitId lib ha rx eDev m') := by
  induction devs generalizing m with
  | nil => exact ⟨m, rfl, fun _ _ => rfl, rfl⟩
  | cons eDev rest ih =>
      rw [prepareLoop, prepareDev_eq]
      cases hx : gewaehlt lib ha rx eDev with
      | none =>
          obtain ⟨m', hdev, hdata, heq⟩ :=
            ih (if tildeEq ha rx eDev then mitId lib ha rx eDev m else m)
          refine ⟨m', ?_, ?_, ?_⟩
          · rw [hdev]
            split <;> rfl
          · intro i hi
            rw [hdata i hi]
            split
            · simp [mitId, hi]
            · rfl
          · simp [erster, hx, heq]
      | some x =>
          have hpos := (fuellung lib rx.payload eDev x).schreibe_pos (mitId lib ha rx eDev m)
          refine ⟨m, rfl, fun _ _ => rfl, ?_⟩
          simp [erster, hx, hpos]

/-- What the first device type that selects an entry has selected. -/
theorem gewaehlt_of_erster {devs : List TeDev} {eDev : TeDev} {x : Eintrag}
    (h : erster lib ha rx devs = some (eDev, x)) : gewaehlt lib ha rx eDev = some x := by
  obtain ⟨e, _, he⟩ := List.exists_of_findSome?_eq_some h
  obtain ⟨y, hy, heq⟩ := Option.map_eq_some_iff.mp he
  cases heq
  exact hy

end OpenHcan.Mqtt
