import OpenHcan.Mqtt.CatHesTopic

/-!
# CanNoninterference — what an old frame leaves in the slot

A received frame is copied into its slot with its own length, and the topic and
the payload are made of fixed positions of the slot. The result depends on the
received frame alone iff the frame has all the bytes its message reads.
-/

namespace OpenHcan.Mqtt

open Lib

/-! ## Observation -/

/-- What is seen of a turn: what is published, and the device table. -/
def observe (turn : Option (Gateway × Published)) : Option (Published × DevTable) :=
  turn.map fun (g, published) => (published, g.ha.dev)

/-- The frame `f` decides what is published and what the device table becomes,
whatever the slot it goes into held before. -/
def Noninterfering (g : Gateway) (f : CanFrame) : Prop :=
  ∀ files old old', observe (canTurn files { g with canRx := g.canRx.withOld old } f) =
    observe (canTurn files { g with canRx := g.canRx.withOld old' } f)

/-- The leading data bytes that the case of a message in `catHesTopic4Broker`
reads. A temperature is not read as long as its sensor is new. -/
def Topic4Broker.gelesen (neu : Bool) : Topic4Broker → Nat
  | .oneWireTemperatureConfigReplay | .heizungModeManualDetails => 2
  | .powerGroupConfigReplay | .rolladenConfigReplay | .reedkontaktConfigReplay
  | .heizungModeOffDetails => 3
  | .powerGroupStateReplay | .powerGroupStateInfo | .rolladenPositionReplay
  | .rolladenPositionChangedInfo | .reedkontaktStateReplay | .reedkontaktStateChange
  | .heizungConfigReplay => 4
  | .heizungModeThermostatDetails | .heizungTistReplay => 5
  | .heizungModeAutomatikDetails => 8
  | .oneWireTemperature | .oneWireTemperatureReplay => if neu then 3 else 5

/-- The leading data bytes that are read of a frame. -/
def gelesen (dev : DevTable) (data : Nat → UInt8) : Nat :=
  match topic4Broker (data 1) with
  | some t => t.gelesen (dev (data 2)).tempSensor.neu
  | none => 2

/-- The frame has all that is read of it; or nothing is read of it because Home
Assistant is offline or the frame is not for the broker; or only the sensor of
a HEIZUNG_CONFIG_REPLAY is missing, and every sensor has that radiator already. -/
def Covered (ha : Ha) (f : CanFrame) : Prop :=
  ha.haOnline = false ∨ msgOfInterest4broker f = false ∨
    gelesen ha.dev f.data ≤ f.canDlc.toNat ∨
    (topic4Broker (f.data 1) = some .heizungConfigReplay ∧ f.canDlc = 3 ∧
      ∀ k, (ha.dev k).tempSensor.heizkoerperId = f.data 2)

/-- The observation of `tx2broker` on a slot with the given data. -/
def shown (files : Files) (ha : Ha) (data : Nat → UInt8) : Option (Published × DevTable) :=
  (catHesTopic4Broker files ha ⟨0, 0, data⟩).map fun (ha, published) =>
    (published.filter fun (_, strPayload) => !strPayload.isEmpty, ha.dev)

/-- Only the data of the frame in the slot are read. -/
theorem catHesTopic4Broker_data (files : Files) (ha : Ha) (cf : CanFrame) :
    catHesTopic4Broker files ha cf = catHesTopic4Broker files ha ⟨0, 0, cf.data⟩ := by
  simp only [catHesTopic4Broker]

theorem observe_tx2broker (files : Files) (g : Gateway) :
    observe (tx2broker files g) = shown files g.ha (g.canRx.buf g.canRx.rIdx).data := by
  rw [shown, ← catHesTopic4Broker_data]
  cases h : catHesTopic4Broker files g.ha (g.canRx.buf g.canRx.rIdx) with
  | none => simp [observe, tx2broker, h]
  | some r => simp [observe, tx2broker, h]

/-- In an empty ring the received frame is the next one for the broker. -/
theorem observe_canTurn {g : Gateway} {f : CanFrame} (hring : g.canRx.rIdx = g.canRx.wIdx)
    (hf : msgOfInterest4broker f = true) (files : Files) (old : CanFrame) :
    observe (canTurn files { g with canRx := g.canRx.withOld old } f) =
      shown files g.ha (overlay f.canDlc.toNat f.data old.data) := by
  have hwait : (rxFromCb (g.canRx.withOld old) f).waiting = true := by
    simp [rxFromCb, hf, Ring.waiting, Ring.withOld, hring, nextIdx_ne]
  rw [canTurn]
  simp only [hwait, if_true]
  rw [observe_tx2broker]
  simp [rxFromCb, hf, Ring.withOld, hring, copyData]

/-- A frame that is not for the broker leaves the empty ring empty. -/
theorem observe_canTurn_other {g : Gateway} {f : CanFrame} (hring : g.canRx.rIdx = g.canRx.wIdx)
    (hf : msgOfInterest4broker f = false) (files : Files) (old : CanFrame) :
    observe (canTurn files { g with canRx := g.canRx.withOld old } f) = some (none, g.ha.dev) := by
  simp [canTurn, rxFromCb, hf, Ring.waiting, Ring.withOld, hring, observe]

theorem noninterfering_iff_fresh {g : Gateway} {f : CanFrame}
    (hring : g.canRx.rIdx = g.canRx.wIdx) (hf : msgOfInterest4broker f = true) :
    Noninterfering g f ↔ ∀ files, Fresh (shown files g.ha) f.canDlc.toNat f.data := by
  constructor
  · intro h files old old'
    have heq := h files ⟨0, 0, old⟩ ⟨0, 0, old'⟩
    rwa [observe_canTurn hring hf, observe_canTurn hring hf] at heq
  · intro h files old old'
    rw [observe_canTurn hring hf, observe_canTurn hring hf]
    exact h files old.data old'.data

/-! ## Enough data -/

/-- The type of the message is always read. -/
theorem one_lt_gelesen (dev : DevTable) (data : Nat → UInt8) : 1 < gelesen dev data := by
  rw [gelesen]
  cases topic4Broker (data 1) with
  | none => simp
  | some t =>
      cases t <;> simp only [Topic4Broker.gelesen] <;> (try split) <;> omega

/-- Frames that agree on the bytes read give the same topic, payload and
state. -/
theorem catHesTopic4Broker_congr (files : Files) (ha : Ha) {data d : Nat → UInt8}
    (h : ∀ i < gelesen ha.dev data, d i = data i) :
    catHesTopic4Broker files ha ⟨0, 0, d⟩ = catHesTopic4Broker files ha ⟨0, 0, data⟩ := by
  have h1 : d 1 = data 1 := h 1 (one_lt_gelesen ha.dev data)
  simp only [catHesTopic4Broker, h1]
  rw [gelesen] at h
  cases ht : topic4Broker (data 1) with
  | none => rfl
  | some t =>
      simp only [ht] at h
      cases t with
      | oneWireTemperatureConfigReplay | heizungModeManualDetails => rfl
      | powerGroupConfigReplay | rolladenConfigReplay | reedkontaktConfigReplay
      | heizungModeOffDetails =>
          simp only [h 2 (by simp [Topic4Broker.gelesen])]
      | powerGroupStateReplay | powerGroupStateInfo | rolladenPositionReplay
      | rolladenPositionChangedInfo | reedkontaktStateReplay | reedkontaktStateChange
      | heizungConfigReplay =>
          simp only [h 2 (by simp [Topic4Broker.gelesen]), h 3 (by simp [Topic4Broker.gelesen])]
      | heizungModeThermostatDetails | heizungTistReplay =>
          simp only [h 2 (by simp [Topic4Broker.gelesen]), h 3 (by simp [Topic4Broker.gelesen]),
            h 4 (by simp [Topic4Broker.gelesen])]
      | heizungModeAutomatikDetails =>
          simp only [h 2 (by simp [Topic4Broker.gelesen]), h 3 (by simp [Topic4Broker.gelesen]),
            h 4 (by simp [Topic4Broker.gelesen]), h 6 (by simp [Topic4Broker.gelesen]),
            h 7 (by simp [Topic4Broker.gelesen])]
      | oneWireTemperature | oneWireTemperatureReplay =>
          have h2 : d 2 = data 2 := h 2 (by rw [Topic4Broker.gelesen]; split <;> omega)
          simp only [temperatur4Broker, h2]
          -- a new sensor is described to Home Assistant, its temperature is not read
          by_cases hneu : (ha.dev (data 2)).tempSensor.neu = true
          · simp only [hneu, if_true]
          · simp only [Topic4Broker.gelesen, if_neg hneu] at h
            simp only [h 3 (by omega), h 4 (by omega)]

/-! ## Missing data -/

/-- An installation in which no id is found, and `name` is the last area. -/
def ohneElement (name : List Char) : Files := ⟨fun _ => ⟨name, none⟩, fun _ => none⟩

/-- A name that is not `s`. -/
def andererName (s : List Char) : List Char := if s = ['A'] then ['B'] else ['A']

theorem andererName_ne (s : List Char) : andererName s ≠ s := by
  rw [andererName]
  split
  · next h => simp [h]
  · next h => exact Ne.symm h

theorem erzeuge_ohneElement (s : List Char) (ha : Ha) (eDev : TeDev) (id : UInt8) :
    erzeugeConfigTopicUndPayload (ohneElement (andererName s)) ha eDev id =
      some ({ ha with
        dev := ha.dev.put id fun d => { d with bereichsname := andererName s } }, none) := by
  have hne : andererName s ≠ [] := by
    rw [andererName]
    split <;> simp
  simp [erzeugeConfigTopicUndPayload, getXmlDatenZurId, ohneElement, hne]

theorem tempWert_ne (hi : UInt8) : tempWert hi 1 ≠ tempWert hi 0 := by
  intro h
  have heq := CFloat.sixteenths_injective h
  simp at heq

section Missing

variable {ha : Ha} {data : Nat → UInt8} {n : Nat}

/-- The zeroed slot behind the data, and the message in it. -/
theorem overlay_message (hn : 2 ≤ n) {t : Topic4Broker} (ht : topic4Broker (data 1) = some t) :
    topic4Broker (overlay n data (fun _ => 0) 1) = some t := by
  rw [overlay_lt hn, ht]

theorem state_needs (hon : ha.haOnline = true) (hn : 2 ≤ n)
    (hfresh : ∀ files, Fresh (shown files ha) n data) {t : Topic4Broker}
    (ht : topic4Broker (data 1) = some t)
    (hmem : t ∈ [.powerGroupStateReplay, .powerGroupStateInfo, .rolladenPositionReplay,
      .rolladenPositionChangedInfo, .reedkontaktStateReplay, .reedkontaktStateChange]) :
    4 ≤ n := by
  by_contra hlt
  -- 0 and 100 are two different states of every device
  have h := (hfresh (ohneElement [])).update (p := 3) (by omega) (fun _ => 0) 100
  have hmsg := overlay_message hn ht
  have h3 : overlay n data (fun _ => 0) 3 = 0 := overlay_ge (by omega) _
  simp only [List.mem_cons, List.not_mem_nil, or_false] at hmem
  obtain rfl | rfl | rfl | rfl | rfl | rfl := hmem
  case inl | inr.inl | inr.inr.inr.inr.inl | inr.inr.inr.inr.inr =>
    simp [shown, catHesTopic4Broker, hon, hmsg, h3, Option.filter_some] at h
  all_goals
    simp only [shown, catHesTopic4Broker, hon, Bool.not_true, Bool.false_eq_true, if_false, hmsg,
      h3, Function.update_self, Function.update_of_ne (show (1 : Nat) ≠ 3 by decide),
      Function.update_of_ne (show (2 : Nat) ≠ 3 by decide)] at h
    split at h
    · have h0 : printU 0 = ['0'] := by decide
      have h100 : printU 100 = ['1', '0', '0'] := by decide
      simp [Option.filter_some, h0, h100] at h
    · simp [Option.filter_some, rolladenState] at h

theorem temperature_needs (hon : ha.haOnline = true) (hn : 2 ≤ n)
    (hfresh : ∀ files, Fresh (shown files ha) n data) {t : Topic4Broker}
    (ht : topic4Broker (data 1) = some t)
    (hmem : t ∈ [.heizungModeThermostatDetails, .heizungTistReplay]) : 5 ≤ n := by
  by_contra hlt
  have h := (hfresh (ohneElement [])).update (p := 4) (by omega) (fun _ => 0) 1
  have hmsg := overlay_message hn ht
  have h4 : overlay n data (fun _ => 0) 4 = 0 := overlay_ge (by omega) _
  simp only [List.mem_cons, List.not_mem_nil, or_false] at hmem
  obtain rfl | rfl := hmem
  all_goals
    simp [shown, catHesTopic4Broker, hon, hmsg, h4] at h
    have heq := congrFun h.2 (overlay n data (fun _ => 0) 2)
    simp [DevTable.put_self, tempWert_ne] at heq

theorem automatik_needs (hon : ha.haOnline = true) (hn : 2 ≤ n)
    (hfresh : ∀ files, Fresh (shown files ha) n data)
    (ht : topic4Broker (data 1) = some .heizungModeAutomatikDetails) : 8 ≤ n := by
  by_contra hlt
  have h := (hfresh (ohneElement [])).update (p := 7) (by omega) (fun _ => 0) 1
  have hmsg := overlay_message hn ht
  have h7 : overlay n data (fun _ => 0) 7 = 0 := overlay_ge (by omega) _
  simp [shown, catHesTopic4Broker, hon, hmsg, h7] at h
  have heq := congrFun h.2 (overlay n data (fun _ => 0) 2)
  simp [DevTable.put_self, tempWert_ne] at heq

theorem off_needs (hon : ha.haOnline = true) (hn : 2 ≤ n)
    (hfresh : ∀ files, Fresh (shown files ha) n data)
    (ht : topic4Broker (data 1) = some .heizungModeOffDetails) : 3 ≤ n := by
  by_contra hlt
  have h := (hfresh (ohneElement [])).update (p := 2) (by omega) (fun _ => 0) 1
  have hmsg := overlay_message hn ht
  have h2 : overlay n data (fun _ => 0) 2 = 0 := overlay_ge (by omega) _
  have h0 : printU 0 = ['0'] := by decide
  have h1 : printU 1 = ['1'] := by decide
  simp [shown, catHesTopic4Broker, hon, hmsg, h2, Option.filter_some, topicMitId, h0, h1] at h

theorem config_needs (hon : ha.haOnline = true) (hn : 2 ≤ n)
    (hfresh : ∀ files, Fresh (shown files ha) n data) {t : Topic4Broker}
    (ht : topic4Broker (data 1) = some t)
    (hmem : t ∈ [.powerGroupConfigReplay, .rolladenConfigReplay, .reedkontaktConfigReplay]) :
    3 ≤ n := by
  by_contra hlt
  -- one of the ids gets another area name, depending on the old byte
  have h := (hfresh (ohneElement (andererName (ha.dev 0).bereichsname))).update (p := 2) (by omega)
    (fun _ => 0) 1
  have hmsg := overlay_message hn ht
  have h2 : overlay n data (fun _ => 0) 2 = 0 := overlay_ge (by omega) _
  simp only [List.mem_cons, List.not_mem_nil, or_false] at hmem
  obtain rfl | rfl | rfl := hmem
  all_goals
    simp [shown, catHesTopic4Broker, hon, hmsg, h2, erzeuge_ohneElement] at h
    have heq := congrArg HcanInstallation.bereichsname (congrFun h 0)
    rw [DevTable.put_self, DevTable.put_of_ne _ (by decide)] at heq
    exact andererName_ne _ heq.symm

/-- The temperature of a known sensor goes into the device table. -/
theorem temperatur4Broker_tIst (files : Files) (ha : Ha) {d : Nat → UInt8}
    (hneu : (ha.dev (d 2)).tempSensor.neu = false) :
    (temperatur4Broker files ha d).map (fun r => (r.1.dev (d 2)).tIst) =
      some (tempWert (d 3) (d 4)) := by
  rw [temperatur4Broker]
  simp only [hneu, Bool.false_eq_true, if_false]
  split
  · simp [DevTable.put_self]
  · -- the radiator may have the id of its sensor
    by_cases hid : (ha.dev (d 2)).tempSensor.heizkoerperId = d 2
    · simp [DevTable.put_self, hid]
    · simp [DevTable.put_self, DevTable.put_of_ne _ (Ne.symm hid)]

/-- A new sensor is marked as shown. -/
theorem temperatur4Broker_new (s : List Char) (ha : Ha) {d : Nat → UInt8}
    (hneu : (ha.dev (d 2)).tempSensor.neu = true) :
    (temperatur4Broker (ohneElement (andererName s)) ha d).map
      (fun r => (r.1.dev (d 2)).tempSensor.uiElement) = some true := by
  simp [temperatur4Broker, hneu, erzeuge_ohneElement, DevTable.put_self]

/-- No other sensor is. -/
theorem temperatur4Broker_other (s : List Char) (ha : Ha) {d : Nat → UInt8} {k : UInt8}
    (hk : k ≠ d 2) :
    (temperatur4Broker (ohneElement (andererName s)) ha d).map
      (fun r => (r.1.dev k).tempSensor.uiElement) = some (ha.dev k).tempSensor.uiElement := by
  rw [temperatur4Broker]
  split
  · simp [erzeuge_ohneElement, DevTable.put_of_ne _ hk]
  · dsimp only
    split
    · simp [DevTable.put_of_ne _ hk]
    · by_cases hid : k = (ha.dev (d 2)).tempSensor.heizkoerperId
      · subst hid
        simp [DevTable.put_self, DevTable.put_of_ne _ hk]
      · simp [DevTable.put_self, DevTable.put_of_ne _ hk, DevTable.put_of_ne _ hid]

/-- A temperature that is fresh in `n` bytes leaves the same device table with
another byte behind them. -/
theorem sensor_same (hon : ha.haOnline = true) (hn : 2 ≤ n)
    (hfresh : ∀ files, Fresh (shown files ha) n data) {t : Topic4Broker}
    (ht : topic4Broker (data 1) = some t)
    (hmem : t ∈ [.oneWireTemperature, .oneWireTemperatureReplay]) (files : Files) {p : Nat}
    (hp : n ≤ p) (hp1 : p ≠ 1) (b : UInt8) :
    (temperatur4Broker files ha (Function.update (overlay n data fun _ => 0) p b)).map
        (fun r => r.1.dev) =
      (temperatur4Broker files ha (overlay n data fun _ => 0)).map fun r => r.1.dev := by
  have hmsg := overlay_message hn ht
  have hdev : ∀ files d, topic4Broker (d 1) = some t →
      (shown files ha d).map Prod.snd = (temperatur4Broker files ha d).map fun r => r.1.dev := by
    intro files d hd
    simp only [List.mem_cons, List.not_mem_nil, or_false] at hmem
    obtain rfl | rfl := hmem
    all_goals simp [shown, catHesTopic4Broker, hon, hd, Function.comp_def]
  have h := (hfresh files).update hp (fun _ => 0) b
  rw [← hdev, ← hdev files _ hmsg, h]
  rw [Function.update_of_ne (Ne.symm hp1), hmsg]

/-- A known sensor keeps the temperature, up to its last byte. -/
theorem five_of_known {c : Nat → UInt8} (h4 : n ≤ 4 → c 4 = 0)
    (hsame : n ≤ 4 → (temperatur4Broker (ohneElement []) ha (Function.update c 4 1)).map
        (fun r => r.1.dev) =
      (temperatur4Broker (ohneElement []) ha c).map fun r => r.1.dev)
    (hneu : (ha.dev (c 2)).tempSensor.neu = false) : 5 ≤ n := by
  by_contra hlt
  have hle : n ≤ 4 := by omega
  have h := congrArg (Option.map fun dev : DevTable => (dev (c 2)).tIst) (hsame hle)
  have hl := temperatur4Broker_tIst (ohneElement []) ha (d := Function.update c 4 1)
    (by simpa using hneu)
  have hr := temperatur4Broker_tIst (ohneElement []) ha hneu
  rw [Function.update_of_ne (show (2 : Nat) ≠ 4 by decide),
    Function.update_of_ne (show (3 : Nat) ≠ 4 by decide), Function.update_self] at hl
  simp only [Option.map_map, Function.comp_def] at h
  rw [hl, hr] at h
  simp [h4 hle, tempWert_ne] at h

/-- A new sensor is marked under its id. -/
theorem temperatur4Broker_id_needed {c : Nat → UInt8} (h2 : c 2 = 0)
    (hneu : (ha.dev 0).tempSensor.neu = true) :
    (temperatur4Broker (ohneElement (andererName [])) ha (Function.update c 2 1)).map
        (fun r => r.1.dev) ≠
      (temperatur4Broker (ohneElement (andererName [])) ha c).map fun r => r.1.dev := by
  intro hsame
  have h := congrArg (Option.map fun dev : DevTable => (dev 0).tempSensor.uiElement) hsame
  have hl := temperatur4Broker_other [] ha (d := Function.update c 2 1) (k := 0) (by simp)
  have hr := temperatur4Broker_new [] ha (d := c) (by rw [h2, hneu])
  simp only [Option.map_map, Function.comp_def] at h
  rw [h2] at hr
  rw [hl, hr] at h
  simp [Tempsensor.neu] at hneu
  simp [hneu] at h

/-- The id of a temperature is always needed, and the temperature itself as
soon as the sensor is not new. -/
theorem sensor_needs (hon : ha.haOnline = true) (hn : 2 ≤ n)
    (hfresh : ∀ files, Fresh (shown files ha) n data) {t : Topic4Broker}
    (ht : topic4Broker (data 1) = some t)
    (hmem : t ∈ [.oneWireTemperature, .oneWireTemperatureReplay]) :
    (if (ha.dev (data 2)).tempSensor.neu then 3 else 5) ≤ n := by
  have hsame : ∀ files p, n ≤ p → p ≠ 1 → ∀ b,
      (temperatur4Broker files ha (Function.update (overlay n data fun _ => 0) p b)).map
          (fun r => r.1.dev) =
        (temperatur4Broker files ha (overlay n data fun _ => 0)).map fun r => r.1.dev :=
    fun files p hp hp1 b => sensor_same hon hn hfresh ht hmem files hp hp1 b
  have hbehind : ∀ p, n ≤ p → overlay n data (fun _ => 0) p = 0 := fun p hp => overlay_ge hp _
  have hbefore : ∀ p, p < n → overlay n data (fun _ => 0) p = data p := fun p hp => overlay_lt hp _
  generalize overlay n data (fun _ => 0) = c at hsame hbehind hbefore
  have hknown : (ha.dev (c 2)).tempSensor.neu = false → 5 ≤ n :=
    five_of_known (hbehind 4) fun hle => hsame _ 4 hle (by decide) 1
  by_cases hn2 : n = 2
  · exfalso
    have h2 : c 2 = 0 := hbehind 2 (by omega)
    cases hneu : (ha.dev 0).tempSensor.neu with
    | false =>
        have h5 := hknown (by rw [h2, hneu])
        omega
    | true => exact temperatur4Broker_id_needed h2 hneu (hsame _ 2 (by omega) (by decide) 1)
  · have h2 : c 2 = data 2 := hbefore 2 (by omega)
    split
    · omega
    · next hneu =>
        apply hknown
        rw [h2]
        simpa using hneu

/-- A HEIZUNG_CONFIG_REPLAY assigns the sensor to the radiator. -/
theorem heizung_assigns (hon : ha.haOnline = true) {d : Nat → UInt8}
    (hd : topic4Broker (d 1) = some .heizungConfigReplay) (k : UInt8) :
    (shown (ohneElement (andererName [])) ha d).map (fun r => (r.2 k).tempSensor.heizkoerperId) =
      some (if k = d 3 then d 2 else (ha.dev k).tempSensor.heizkoerperId) := by
  have harea : ∀ (dev : DevTable) (name : List Char),
      (dev.put (d 2) (fun d => { d with bereichsname := name }) k).tempSensor
        = (dev k).tempSensor := by
    intro dev name
    by_cases hk : k = d 2
    · simp [hk, DevTable.put_self]
    · rw [DevTable.put_of_ne _ hk]
  simp only [shown, catHesTopic4Broker, hon, hd, Bool.not_true, Bool.false_eq_true, if_false,
    erzeuge_ohneElement, Option.map_some, harea]
  split
  · next hk => rw [hk, DevTable.put_self]
  · next hk => rw [DevTable.put_of_ne _ hk]

/-- Without the sensor of a radiator every sensor may get the radiator. -/
theorem heizung_needs (hon : ha.haOnline = true) (hn : 2 ≤ n)
    (hfresh : ∀ files, Fresh (shown files ha) n data)
    (ht : topic4Broker (data 1) = some .heizungConfigReplay) :
    4 ≤ n ∨ (n = 3 ∧ ∀ k, (ha.dev k).tempSensor.heizkoerperId = data 2) := by
  have hmsg : ∀ old, topic4Broker (overlay n data old 1) = some .heizungConfigReplay := by
    intro old
    rw [overlay_lt hn, ht]
  -- which radiator sensor `k` has afterwards does not depend on the old bytes
  have hsame : ∀ old old' k,
      (if k = overlay n data old 3 then overlay n data old 2
        else (ha.dev k).tempSensor.heizkoerperId) =
      if k = overlay n data old' 3 then overlay n data old' 2
        else (ha.dev k).tempSensor.heizkoerperId := by
    intro old old' k
    have h := congrArg (Option.map fun r => (r.2 k).tempSensor.heizkoerperId)
      (hfresh (ohneElement (andererName [])) old old')
    rw [heizung_assigns hon (hmsg old), heizung_assigns hon (hmsg old')] at h
    exact Option.some.inj h
  by_cases h4 : 4 ≤ n
  · exact .inl h4
  · right
    have h3 : ∀ old, overlay n data old 3 = old 3 := fun old => overlay_ge (by omega) old
    have hn3 : n = 3 := by
      by_contra hne
      have h2 : ∀ old, overlay n data old 2 = old 2 := fun old => overlay_ge (by omega) old
      have h := hsame (fun _ => 0) (Function.update (fun _ => 0) 2 1) 0
      simp [h2, h3] at h
    refine ⟨hn3, ?_⟩
    intro k
    have h2 : ∀ old, overlay n data old 2 = data 2 := fun old => overlay_lt (by omega) old
    have h := hsame (fun _ => k) (fun _ => k + 1) k
    simp only [h2, h3, if_true] at h
    rw [if_neg (by simp)] at h
    exact h.symm

end Missing

/-! ## The claim -/

/-- A radiator that every sensor has already is assigned to none anew. -/
theorem shown_assigned (files : Files) {ha : Ha} (hon : ha.haOnline = true) {d : Nat → UInt8}
    (hd : topic4Broker (d 1) = some .heizungConfigReplay)
    (hall : ∀ k, (ha.dev k).tempSensor.heizkoerperId = d 2) :
    shown files ha d = (erzeugeConfigTopicUndPayload files ha .climate (d 2)).map
      fun (ha, published) =>
        (published.filter fun (_, strPayload) => !strPayload.isEmpty, ha.dev) := by
  have hput : (ha.dev.put (d 3) fun e =>
      { e with tempSensor := { e.tempSensor with heizkoerperId := d 2 } }) = ha.dev := by
    apply DevTable.put_id
    rw [← hall (d 3)]
  have hha : (⟨true, ha.strDateiEintrag, ha.strDateiEintragClimate, ha.dev⟩ : Ha) = ha := by
    rw [← hon]
  simp only [shown, catHesTopic4Broker, hon, hd, Bool.not_true, Bool.false_eq_true, if_false, hput,
    hha]

/-- Fresh for whatever the files say iff the frame has the bytes read. -/
theorem fresh_iff {ha : Ha} {f : CanFrame} (hon : ha.haOnline = true)
    (hf : msgOfInterest4broker f = true) :
    (∀ files, Fresh (shown files ha) f.canDlc.toNat f.data) ↔
      gelesen ha.dev f.data ≤ f.canDlc.toNat ∨
        (topic4Broker (f.data 1) = some .heizungConfigReplay ∧ f.canDlc = 3 ∧
          ∀ k, (ha.dev k).tempSensor.heizkoerperId = f.data 2) := by
  have hn : 2 ≤ f.canDlc.toNat := by
    simp only [msgOfInterest4broker, Bool.and_eq_true, decide_eq_true_eq] at hf
    exact UInt8.le_iff_toNat_le.mp hf.1.1.1
  constructor
  · intro hfresh
    rw [gelesen]
    cases ht : topic4Broker (f.data 1) with
    | none => exact .inl hn
    | some t =>
        -- each message needs the bytes that its case reads
        cases t with
        | oneWireTemperatureConfigReplay | heizungModeManualDetails => exact .inl hn
        | powerGroupConfigReplay | rolladenConfigReplay | reedkontaktConfigReplay =>
            exact .inl (config_needs hon hn hfresh ht (by simp))
        | heizungModeOffDetails => exact .inl (off_needs hon hn hfresh ht)
        | powerGroupStateReplay | powerGroupStateInfo | rolladenPositionReplay
        | rolladenPositionChangedInfo | reedkontaktStateReplay | reedkontaktStateChange =>
            exact .inl (state_needs hon hn hfresh ht (by simp))
        | heizungModeThermostatDetails | heizungTistReplay =>
            exact .inl (temperature_needs hon hn hfresh ht (by simp))
        | heizungModeAutomatikDetails => exact .inl (automatik_needs hon hn hfresh ht)
        | oneWireTemperature | oneWireTemperatureReplay =>
            exact .inl (sensor_needs hon hn hfresh ht (by simp))
        | heizungConfigReplay =>
            cases heizung_needs hon hn hfresh ht with
            | inl h4 => exact .inl h4
            | inr h3 =>
                refine .inr ⟨rfl, ?_, h3.2⟩
                exact UInt8.toNat_inj.mp h3.1
  · intro h files
    obtain henough | ⟨ht, hdlc, hall⟩ := h
    · apply fresh_of_congr
      intro d hd
      rw [shown, shown]
      rw [catHesTopic4Broker_congr files ha fun i hi => hd i (by omega)]
    · apply fresh_of_congr
      intro d hd
      have hdlc3 : f.canDlc.toNat = 3 := by simp [hdlc]
      have h1 : d 1 = f.data 1 := hd 1 (by omega)
      have h2 : d 2 = f.data 2 := hd 2 (by omega)
      rw [shown_assigned files hon (by rw [h1, ht]) (by rw [h2]; exact hall),
        shown_assigned files hon ht hall, h2]

/-- The result depends on the received frame alone iff the frame has all the
bytes that are read of it. -/
theorem can_noninterference_iff (g : Gateway) (f : CanFrame)
    (hring : g.canRx.rIdx = g.canRx.wIdx) : Noninterfering g f ↔ Covered g.ha f := by
  cases hon : g.ha.haOnline with
  | false =>
      -- nothing is sent to Home Assistant
      have hshown : ∀ files d, shown files g.ha d = some (none, g.ha.dev) := by
        intro files d
        simp [shown, catHesTopic4Broker, hon]
      refine ⟨fun _ => .inl hon, fun _ files old old' => ?_⟩
      cases hf : msgOfInterest4broker f with
      | false => rw [observe_canTurn_other hring hf, observe_canTurn_other hring hf]
      | true => rw [observe_canTurn hring hf, observe_canTurn hring hf, hshown, hshown]
  | true =>
      cases hf : msgOfInterest4broker f with
      | false =>
          refine ⟨fun _ => .inr (.inl hf), fun _ files old old' => ?_⟩
          rw [observe_canTurn_other hring hf, observe_canTurn_other hring hf]
      | true =>
          rw [noninterfering_iff_fresh hring hf, fresh_iff hon hf, Covered, hon, hf]
          simp

/-! A board in automatic mode without a matching time zone sends the details
with 6 bytes only. -/

/-- An unconfigured gateway with Home Assistant online. -/
def gatewayStart : Gateway where
  ha :=
    { haOnline := true
      strDateiEintrag := fun _ => ⟨[], [], [], [], []⟩
      strDateiEintragClimate := ⟨[], []⟩
      dev := fun _ => ⟨false, [], ⟨false, 255⟩, .sixteenths 0, .sixteenths 0, []⟩ }
  canRx := ⟨fun _ => ⟨0, 0, fun _ => 0⟩, 0, 0⟩
  mqttRx := ⟨fun _ => ⟨0, 0, fun _ => 0⟩, 0, 0⟩

/-- A HEIZUNG_MODE_AUTOMATIK_DETAILS of heating 7 with `dlc` bytes. -/
def automatikDetails (dlc : UInt8) : CanFrame :=
  ⟨0x108CC1, dlc, fun i => [5, 57, 7, 1, 56, 0, 1, 64].getD i 0⟩

/-- With its 8 bytes the message is decided by the frame. -/
theorem can_noninterference_automatik : Noninterfering gatewayStart (automatikDetails 8) := by
  apply (can_noninterference_iff gatewayStart (automatikDetails 8) rfl).mpr
  exact .inr (.inr (.inl (by decide)))

/-- With 6 bytes the actual temperature is the one an older frame left in the
slot: 20.0 degrees or 0.0 degrees. -/
theorem automatik_shows_old_temperature : ¬ Noninterfering gatewayStart (automatikDetails 6) := by
  intro h
  have heq := congrArg (Option.map Prod.fst) (h (ohneElement []) ⟨0, 0, fun _ => 0⟩
    ⟨0, 0, fun i => if i = 6 then 1 else 64⟩)
  revert heq
  decide +kernel

end OpenHcan.Mqtt
