import Mathlib.Data.Set.Function
import OpenHcan.Mqtt.TopicMatch

/-!
# MqttNoninterference — what an older message leaves in the slot

The message for the bus is built byte by byte in a slot that still holds an
older one. Every byte that is sent is written, but for the position of a
shutter command with an unknown payload.
-/

namespace OpenHcan.Mqtt

open Lib

/-- The message that a call of `createMsg4cb` puts into the ring. -/
def queued (g : Gateway) (result : Gateway × UInt8) : Option CanFrame :=
  if result.2 > 0 then some (result.1.mqttRx.buf g.mqttRx.wIdx) else none

/-- The two frames are the same on the bus. -/
def SameOnBus : Option CanFrame → Option CanFrame → Prop
  | none, none => True
  | some a, some b =>
      a.canId = b.canId ∧ a.canDlc = b.canDlc ∧ ∀ i < a.canDlc.toNat, a.data i = b.data i
  | _, _ => False

instance SameOnBus.decidable : (a b : Option CanFrame) → Decidable (SameOnBus a b)
  | none, none => isTrue trivial
  | some a, some b => inferInstanceAs (Decidable
      (a.canId = b.canId ∧ a.canDlc = b.canDlc ∧ ∀ i < a.canDlc.toNat, a.data i = b.data i))
  | none, some _ => isFalse id
  | some _, none => isFalse id

/-- The publish decides what is sent, whatever the slot held before. -/
def MqttNoninterfering (lib : CLib) (g : Gateway) (rx : Received) : Prop :=
  ∀ old old', SameOnBus
    (queued g (createMsg4cb lib { g with mqttRx := g.mqttRx.withOld old } rx))
    (queued g (createMsg4cb lib { g with mqttRx := g.mqttRx.withOld old' } rx))

/-- The payload is a command that a shutter knows. -/
def coverBefehl (payload : List Char) : Bool :=
  isKey payload "CLOSE".toList || isKey payload "OPEN".toList || isKey payload "STOP".toList

/-- The publish is a command for a shutter (no other device type selects an
entry, and the shutter selects `cmd_t`) and its payload is none that a shutter
knows. -/
def CoverOhneWert (lib : CLib) (ha : Ha) (rx : Received) : Prop :=
  (∀ eDev ≠ .cover, gewaehlt lib ha rx eDev = none) ∧
    gewaehlt lib ha rx .cover = some .cmdT ∧ coverBefehl rx.payload = false

/-! ## Written bytes -/

/-- A byte that is written in both buffers is the same in both. -/
theorem eqOn_update {f g : Nat → UInt8} {s : Set Nat} (h : Set.EqOn f g s) (i : Nat) (b : UInt8) :
    Set.EqOn (Function.update f i b) (Function.update g i b) (insert i s) := by
  intro j hj
  by_cases hji : j = i
  · simp [hji]
  · have hjs : j ∈ s := by simpa [hji] using hj
    simpa [hji] using h hjs

/-- A thermostat message writes all of its bytes but the id. -/
theorem eqOn_setThermostat {m m' : Msg4cb} {s : Set Nat}
    (h : Set.EqOn m.frame.data m'.frame.data s) (tSoll : CFloat) (dauer : UInt16) :
    Set.EqOn (setThermostat m tSoll dauer).2.frame.data (setThermostat m' tSoll dauer).2.frame.data
      (insert 6 (insert 5 (insert 4 (insert 3 (insert 1 s))))) := by
  apply eqOn_update
  apply eqOn_update
  apply eqOn_update
  apply eqOn_update
  exact eqOn_update h 1 Hes.heizungSetModeThermostatDetails

/-- The positions of a message behind the service byte. -/
def positionen (len : UInt8) : Set Nat := {i | 1 ≤ i ∧ i < len.toNat}

variable {lib : CLib} {ha : Ha} {rx : Received} {payload : List Char} {m m' : Msg4cb}

/-- Every position of a message is written, but for that of a shutter command
with another payload. -/
theorem Fuellung.schreibe_eqOn (h : Set.EqOn m.frame.data m'.frame.data {2}) {f : Fuellung}
    (hf : f ≠ .ohnePosition) :
    Set.EqOn (f.schreibe m).2.frame.data (f.schreibe m').2.frame.data
      (positionen (f.schreibe m).1) := by
  cases f with
  | kurz command =>
      apply (eqOn_update h 1 command).mono
      intro i hi
      simp [positionen, schreibe] at hi ⊢
      omega
  | position pos =>
      apply (eqOn_update (eqOn_update h 1 Hes.rolladenPositionSet) 3 pos).mono
      intro i hi
      simp [positionen, schreibe] at hi ⊢
      omega
  | ohnePosition => exact absurd rfl hf
  | thermostat tSoll dauer =>
      apply (eqOn_setThermostat h tSoll dauer).mono
      intro i hi
      simp [positionen, schreibe, setThermostat] at hi ⊢
      omega

/-- Only a shutter command can be without a position. -/
theorem fuellung_ohnePosition (lib : CLib) (payload : List Char) (eDev : TeDev) (x : Eintrag) :
    fuellung lib payload eDev x = .ohnePosition ↔
      eDev = .cover ∧ x = .cmdT ∧ coverBefehl payload = false := by
  cases eDev with
  | light | switch | tempsensor | reedkontakt => cases x <;> simp [fuellung]
  | climate =>
      cases x with
      | modeCmdT =>
          simp only [fuellung]
          split_ifs <;> simp
      | _ => simp [fuellung]
  | cover =>
      cases x with
      | cmdT =>
          simp only [fuellung, coverBefehl]
          split_ifs <;> simp_all
      | _ => simp [fuellung]

/-- `completeMsg4cb` adds the service byte only. -/
theorem completeMsg4cb_data (len : UInt8) (f : CanFrame) {i : Nat} (hi : i ≠ 0) :
    (completeMsg4cb len f).data i = f.data i := by
  simp [completeMsg4cb, hi]

/-! ## The claim -/

/-- The message made in an older slot: that of the first entry selected, or
none. -/
theorem queued_createMsg4cb (lib : CLib) (g : Gateway) (rx : Received) (old : CanFrame) :
    ∃ m : Msg4cb, (∀ i ≠ 2, m.frame.data i = old.data i) ∧
      queued g (createMsg4cb lib { g with mqttRx := g.mqttRx.withOld old } rx) =
        (erster lib g.ha rx TeDev.all).map fun (eDev, x) =>
          let r := (fuellung lib rx.payload eDev x).schreibe (mitId lib g.ha rx eDev m)
          completeMsg4cb r.1 r.2.frame := by
  obtain ⟨m, _, hdata, heq⟩ := prepareLoop_eq lib g.ha rx TeDev.all ⟨old, g.ha.dev⟩
  refine ⟨m, hdata, ?_⟩
  have hslot : (g.mqttRx.withOld old).buf (g.mqttRx.withOld old).wIdx = old := by
    simp [Ring.withOld]
  rw [createMsg4cb]
  simp only [hslot, prepareMsg4cb, heq]
  cases he : erster lib g.ha rx TeDev.all with
  | none => simp [queued]
  | some r =>
      obtain ⟨eDev, x⟩ := r
      have hpos := (fuellung lib rx.payload eDev x).schreibe_pos (mitId lib g.ha rx eDev m)
      simp [queued, UInt8.pos_iff_ne_zero, hpos, Ring.withOld]

/-- A shutter command without a value is selected by the shutter alone. -/
theorem erster_cover_iff (x : Eintrag) :
    erster lib ha rx TeDev.all = some (.cover, x) ↔
      (∀ eDev ≠ .cover, gewaehlt lib ha rx eDev = none) ∧ gewaehlt lib ha rx .cover = some x := by
  constructor
  · intro h
    refine ⟨?_, gewaehlt_of_erster lib ha rx h⟩
    have hall : TeDev.all =
        [TeDev.light, TeDev.switch, TeDev.climate, TeDev.tempsensor, TeDev.reedkontakt] ++
          [TeDev.cover] := rfl
    rw [erster, hall, List.findSome?_append] at h
    cases hfive : List.findSome? (fun eDev => (gewaehlt lib ha rx eDev).map fun x => (eDev, x))
        [.light, .switch, .climate, .tempsensor, .reedkontakt] with
    | none =>
        rw [List.findSome?_eq_none_iff] at hfive
        intro eDev hne
        have hmem : eDev ∈ [TeDev.light, .switch, .climate, .tempsensor, .reedkontakt] := by
          cases eDev with
          | cover => exact absurd rfl hne
          | light | switch | climate | tempsensor | reedkontakt => simp
        simpa using hfive eDev hmem
    | some r =>
        -- the selecting type comes before the shutter, so it is another one
        rw [hfive, Option.some_or] at h
        cases h
        obtain ⟨e, hmem, he⟩ := List.exists_of_findSome?_eq_some hfive
        obtain ⟨y, _, heq⟩ := Option.map_eq_some_iff.mp he
        cases heq
        simp at hmem
  · rintro ⟨hothers, hcover⟩
    simp [erster, TeDev.all, hothers, hcover]

/-- Two messages that are written in full are the same on the bus. -/
theorem sameOnBus_schreibe {f : Fuellung} (hf : f ≠ .ohnePosition)
    (h2 : m.frame.data 2 = m'.frame.data 2) :
    SameOnBus (some (completeMsg4cb (f.schreibe m).1 (f.schreibe m).2.frame))
      (some (completeMsg4cb (f.schreibe m').1 (f.schreibe m').2.frame)) := by
  refine ⟨rfl, f.schreibe_len m m', ?_⟩
  intro i hi
  by_cases hi0 : i = 0
  · rw [hi0]
    simp [completeMsg4cb]
  · have hpos : i ∈ positionen (f.schreibe m).1 := ⟨by omega, hi⟩
    rw [completeMsg4cb_data _ _ hi0, completeMsg4cb_data _ _ hi0]
    exact Fuellung.schreibe_eqOn (Set.eqOn_singleton.mpr h2) hf hpos

section

-- what is sent is known by `queued_createMsg4cb`
attribute [local irreducible] createMsg4cb

/-- The bytes sent are determined by the publish and the configuration iff the
publish is no shutter command without a value. -/
theorem mqtt_noninterference_iff (lib : CLib) (g : Gateway) (rx : Received) :
    MqttNoninterfering lib g rx ↔ ¬ CoverOhneWert lib g.ha rx := by
  constructor
  · rintro h ⟨hothers, hcover, hval⟩
    have hfirst := (erster_cover_iff .cmdT).mpr ⟨hothers, hcover⟩
    have hfill := (fuellung_ohnePosition lib rx.payload .cover .cmdT).mpr ⟨rfl, rfl, hval⟩
    obtain ⟨m, hm, hq⟩ := queued_createMsg4cb lib g rx ⟨0, 0, fun _ => 0⟩
    obtain ⟨m', hm', hq'⟩ := queued_createMsg4cb lib g rx ⟨0, 0, fun _ => 1⟩
    have hsame := h ⟨0, 0, fun _ => 0⟩ ⟨0, 0, fun _ => 1⟩
    simp only [hq, hq', hfirst, Option.map_some, hfill] at hsame
    -- the old position 0 is sent in one case, the old position 1 in the other
    have heq := hsame.2.2 3 (by simp [completeMsg4cb, Fuellung.schreibe])
    rw [completeMsg4cb_data _ _ (by decide), completeMsg4cb_data _ _ (by decide)] at heq
    simp [Fuellung.schreibe, mitId, hm, hm'] at heq
  · intro hval old old'
    obtain ⟨m, _, hq⟩ := queued_createMsg4cb lib g rx old
    obtain ⟨m', _, hq'⟩ := queued_createMsg4cb lib g rx old'
    rw [hq, hq']
    cases he : erster lib g.ha rx TeDev.all with
    | none => trivial
    | some r =>
        obtain ⟨eDev, x⟩ := r
        apply sameOnBus_schreibe
        · intro hfill
          obtain ⟨rfl, rfl, hpay⟩ := (fuellung_ohnePosition lib rx.payload _ _).mp hfill
          obtain ⟨hothers, hcover⟩ := (erster_cover_iff .cmdT).mp he
          exact hval ⟨hothers, hcover, hpay⟩
        · simp [mitId]

end

/-! A shutter configured like the example files, and a publish with a percentage
as its command. -/

/-- The entries of the shutter, everything else unconfigured. -/
def coverConfig : Gateway where
  ha :=
    { haOnline := true
      strDateiEintrag := fun eDev =>
        if eDev = .cover then
          ⟨"hc/cover".toList, "/-->/state".toList, "/<--/set".toList, "/-->/position".toList,
            "/<--/set_pos".toList⟩
        else ⟨"-".toList, [], [], [], []⟩
      strDateiEintragClimate := ⟨[], []⟩
      dev := fun _ => ⟨false, [], ⟨false, 255⟩, .sixteenths 0, .sixteenths 0, []⟩ }
  canRx := ⟨fun _ => ⟨0, 0, fun _ => 0⟩, 0, 0⟩
  mqttRx := ⟨fun _ => ⟨0, 0, fun _ => 0⟩, 0, 0⟩

/-- The position of the message is the one an older message left in the slot. -/
theorem coverCommand_sends_old_position :
    ¬ MqttNoninterfering clib64 coverConfig ⟨"hc/cover/5/<--/set".toList, "50".toList⟩ := by
  intro h
  have hsame := h ⟨0, 0, fun _ => 0⟩ ⟨0, 0, fun _ => 100⟩
  revert hsame
  decide

end OpenHcan.Mqtt
