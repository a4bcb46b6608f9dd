import OpenHcan.Canix.Frame
import OpenHcan.Lib.Machine
import OpenHcan.Lib.Schedule

/-!
# Tempsensor — temperature sensors on 1-wire buses (`devices/tempsensor.c`)

All sensors of a board share `ow_pin`, the pin of the bus that is talked to: a
handler sets its own pin and puts the old one back when it is done. It counts
the seconds down, starts a measurement when two of them are left and sends the
result at the end. A sensor without a usable id leaves the handler before the
old pin is back, and an interval below 3 begins behind the second in which the
measurement is started (`tempsensors_iff`).
-/

namespace OpenHcan.Tempsensor

open Lib

set_option maxRecDepth 100000

def hcanHes1WireTemperature : UInt8 := 34

/-! ## The pin (`controllerboard/onewire.c`) -/

/-- The processor of the board. -/
inductive Mcu
  | atmega328p
  | atmega32
  | atmega644p
deriving DecidableEq, Repr

/-- `ow_setpin`: the new value of `ow_pin`. -/
def owSetpin : Mcu → UInt8 → UInt8
  | .atmega328p, pin => pin
  | .atmega32, pin => 15 - pin
  | .atmega644p, pin => 15 - pin

/-- `ow_getpin` -/
def owGetpin : Mcu → UInt8 → UInt8
  | .atmega328p, owPin => owPin
  | .atmega32, owPin => 15 - owPin
  | .atmega644p, owPin => 15 - owPin

@[simp] theorem owSetpin_owGetpin (mcu : Mcu) (owPin : UInt8) :
    owSetpin mcu (owGetpin mcu owPin) = owPin := by
  have hsub : 15 - (15 - owPin) = owPin := by grind
  cases mcu with
  | atmega328p => rfl
  | atmega32 => exact hsub
  | atmega644p => exact hsub

/-- `CONVERT_T` -/
def convertT : UInt8 := 0x44

/-- `READ` -/
def owRead : UInt8 := 0xbe

/-! ## The handler -/

/-- `eds_tempsensor_block_t` -/
structure EdsTempsensorBlock where
  ioPin : UInt8
  gruppe : UInt8
  modus : UInt8
  interval : UInt8
  owId : Vector UInt8 17
deriving DecidableEq, Repr

/-- `ow_id[i]` -/
def EdsTempsensorBlock.zeichen (c : EdsTempsensorBlock) (i : Nat) : UInt8 := c.owId[i]?.getD 0

/-- `device_data_tempsensor` -/
structure DeviceDataTempsensor where
  config : EdsTempsensorBlock
  timerCounter : UInt8
  convertSent : Bool
  temperature : Int16
deriving DecidableEq, Repr

/-- What a handler does: a command to a sensor on the bus of a pin, the line for
the syslog, a frame. -/
inductive Aktion
  | owCommand (owPin cmd : UInt8) (id : List UInt8)
  | invalidSensorId
  | send (f : CanixFrame)
deriving DecidableEq, Repr

/-- What the handler reads and writes: the data of the sensor, `ow_pin` and what
has been done for the sensor. -/
structure TempsensorIO where
  dev : DeviceDataTempsensor
  owPin : UInt8
  aktionen : List Aktion
deriving DecidableEq, Repr

/-- `tempsensor_init` -/
def tempsensorInit (c : EdsTempsensorBlock) : DeviceDataTempsensor :=
  ⟨c, (c.gruppe <<< 2) &&& 0x3f, false, 0⟩

/-- The value of a digit. Only the small letters count. -/
def ziffer (ch : UInt8) : Option UInt8 :=
  if 97 ≤ ch ∧ ch ≤ 102 then some (ch - 97 + 10)
  else if 48 ≤ ch ∧ ch ≤ 57 then some (ch - 48)
  else none

/-- The byte of two characters. One that is no digit leaves `v` as it is. -/
def str2idByte (v hi lo : UInt8) : UInt8 :=
  let v := match ziffer hi with
    | some d => d <<< 4
    | none => v
  match ziffer lo with
  | some d => v ||| d
  | none => v

/-- The loop of `tempsensor_str2id`, `n` bytes before its end. -/
def str2idLoop (c : EdsTempsensorBlock) : Nat → Nat → UInt8 → Option (List UInt8)
  | 0, _, _ => some []
  | n + 1, i, v =>
      if c.zeichen (i * 2) = 0 ∨ c.zeichen (i * 2 + 1) = 0 then none
      else
        let v := str2idByte v (c.zeichen (i * 2)) (c.zeichen (i * 2 + 1))
        (str2idLoop c n (i + 1) v).map (v :: ·)

/-- `tempsensor_str2id`: `none` is the error. -/
def tempsensorStr2id (c : EdsTempsensorBlock) : Option (List UInt8) := str2idLoop c 8 0 0

/-- The temperature from the bytes that `ow_read_byte` returns one after the
other, for a DS18S20 with the correction from its count bytes. -/
def messwert (reads : Nat → UInt8) (id : List UInt8) : Int16 :=
  let temperature := ((reads 0).toUInt16 ||| ((reads 1).toUInt16 <<< 8)).toInt16
  if id.headD 0 = 0x10 then
    let countRemain := (reads 6).toUInt16.toInt16
    let countPerC := (reads 7).toUInt16.toInt16
    ((temperature >>> 1) <<< 4) - 4 + (countPerC - countRemain)
  else temperature

/-- The frame with the temperature of a sensor. -/
def temperaturFrame (selfaddr : UInt16) (p : DeviceDataTempsensor) : CanixFrame :=
  sfpFrame selfaddr hcanMulticastInfo
    [hcanSrvHes, hcanHes1WireTemperature, p.config.gruppe,
      (p.temperature >>> 8).toUInt16.toUInt8, p.temperature.toUInt16.toUInt8]

/-- The first part of the handler. The error is the return without the rest. -/
def messungStarten (s : TempsensorIO) : Except TempsensorIO TempsensorIO :=
  if s.dev.timerCounter = 2 ∧ s.dev.config.modus ≠ 0 then
    match tempsensorStr2id s.dev.config with
    | none => .error { s with aktionen := s.aktionen ++ [.invalidSensorId] }
    | some id =>
        .ok { s with
          dev := { s.dev with convertSent := true }
          aktionen := s.aktionen ++ [.owCommand s.owPin convertT id] }
  else .ok s

/-- The second part of the handler. -/
def messungSenden (selfaddr : UInt16) (reads : Nat → UInt8) (s : TempsensorIO) :
    Except TempsensorIO TempsensorIO :=
  if s.dev.timerCounter = 0 ∧ s.dev.convertSent = true then
    let s : TempsensorIO := { s with dev := { s.dev with convertSent := false } }
    match tempsensorStr2id s.dev.config with
    | none => .error { s with aktionen := s.aktionen ++ [.invalidSensorId] }
    | some id =>
        let dev : DeviceDataTempsensor := { s.dev with temperature := messwert reads id }
        .ok { s with
          dev := { dev with timerCounter := dev.config.interval }
          aktionen := s.aktionen ++
            [.owCommand s.owPin owRead id, .send (temperaturFrame selfaddr dev)] }
  else .ok s

/-- `tempsensor_timer_handler` -/
def tempsensorTimerHandler (mcu : Mcu) (selfaddr : UInt16) (reads : Nat → UInt8)
    (s : TempsensorIO) (zyklus : UInt8) : TempsensorIO :=
  if zyklus ≠ 1 then s
  else
    let old := owGetpin mcu s.owPin
    let s : TempsensorIO := { s with owPin := owSetpin mcu s.dev.config.ioPin }
    match messungStarten s with
    | .error s => s
    | .ok s =>
        match messungSenden selfaddr reads s with
        | .error s => s
        | .ok s =>
            { s with
              dev := { s.dev with timerCounter := s.dev.timerCounter - 1 }
              owPin := owSetpin mcu old }

/-! ## The board -/

/-- A sensor and what has been done for it. -/
structure Sensor where
  dev : DeviceDataTempsensor
  aktionen : List Aktion
deriving DecidableEq, Repr

/-- The sensors of a board and the pin they share. -/
structure TempsensorBoard where
  owPin : UInt8
  sensoren : List Sensor
deriving DecidableEq, Repr

/-- A call of the handler for a sensor, with the bytes the bus answers. -/
structure Aufruf where
  nr : Nat
  reads : Nat → UInt8

/-- The one-second handler of one sensor. -/
def aufrufen (mcu : Mcu) (selfaddr : UInt16) (b : TempsensorBoard) (a : Aufruf) :
    TempsensorBoard :=
  match b.sensoren[a.nr]? with
  | none => b
  | some x =>
      let s := tempsensorTimerHandler mcu selfaddr a.reads ⟨x.dev, b.owPin, x.aktionen⟩ 1
      ⟨s.owPin, b.sensoren.set a.nr ⟨s.dev, s.aktionen⟩⟩

/-- One second: the handlers of `n` sensors in their order. -/
def sekunde (n : Nat) (reads : Nat → Nat → UInt8) : List Aufruf :=
  (List.range n).map fun nr => ⟨nr, reads nr⟩

/-- The board after `tempsensor_init` of all its sensors. -/
def boardStart (owPin : UInt8) (cs : List EdsTempsensorBlock) : TempsensorBoard :=
  ⟨owPin, cs.map fun c => ⟨tempsensorInit c, []⟩⟩

/-- The calls of the first `t` seconds. `reads k nr` are the bytes for sensor `nr`
in second `k`. -/
def sekunden (n : Nat) (reads : Nat → Nat → Nat → UInt8) (t : Nat) : List Aufruf :=
  (List.range t).flatMap fun k => sekunde n (reads k)

/-- The call leaves `ow_pin` as it found it. -/
def PinBleibt (mcu : Mcu) (selfaddr : UInt16) (b : TempsensorBoard) (a : Aufruf) : Prop :=
  (aufrufen mcu selfaddr b a).owPin = b.owPin

instance (mcu : Mcu) (selfaddr : UInt16) (b : TempsensorBoard) (a : Aufruf) :
    Decidable (PinBleibt mcu selfaddr b a) :=
  inferInstanceAs (Decidable (_ = _))

/-- The frames among the actions. -/
def gesendet (aktionen : List Aktion) : List CanixFrame :=
  aktionen.filterMap fun
    | .send f => some f
    | _ => none

/-- From `b` to `b'` sensor `i` has sent its temperature, and nothing else. -/
def Sendet (selfaddr : UInt16) (i : Nat) (b b' : TempsensorBoard) : Prop :=
  ∃ x x', b.sensoren[i]? = some x ∧ b'.sensoren[i]? = some x' ∧
    gesendet x'.aktionen = gesendet x.aktionen ++ [temperaturFrame selfaddr x'.dev]

/-- From `b` to `b'` sensor `i` has sent nothing. -/
def Schweigt (i : Nat) (b b' : TempsensorBoard) : Prop :=
  ∃ x x', b.sensoren[i]? = some x ∧ b'.sensoren[i]? = some x' ∧
    gesendet x'.aktionen = gesendet x.aktionen

/-- Sensor `i` sends its temperature in some second and then every `period`
seconds, whatever the bus answers. -/
def SendetAlle (mcu : Mcu) (selfaddr : UInt16) (b : TempsensorBoard) (i period : Nat) : Prop :=
  ∀ reads : Nat → Nat → Nat → UInt8, ∃ first, ∀ t,
    let board (t : Nat) := run (aufrufen mcu selfaddr) b (sekunden b.sensoren.length reads t)
    (OnSchedule first period t → Sendet selfaddr i (board t) (board (t + 1))) ∧
      (¬ OnSchedule first period t → Schweigt i (board t) (board (t + 1)))

/-- `ow_id` ends before its 16 characters. -/
def IdZuKurz (c : EdsTempsensorBlock) : Prop := ∃ i < 16, c.zeichen i = 0

instance (c : EdsTempsensorBlock) : Decidable (IdZuKurz c) :=
  inferInstanceAs (Decidable (∃ i < 16, _))

/-- A hexadecimal digit, with a small or a capital letter. -/
def IstHexziffer (ch : UInt8) : Prop :=
  (48 ≤ ch ∧ ch ≤ 57) ∨ (97 ≤ ch ∧ ch ≤ 102) ∨ (65 ≤ ch ∧ ch ≤ 70)

/-- `ow_id` has 16 hexadecimal digits. -/
def IdAusHexziffern (c : EdsTempsensorBlock) : Prop := ∀ i < 16, IstHexziffer (c.zeichen i)

/-! ## The id -/

theorem str2idLoop_eq_none {c : EdsTempsensorBlock} {n i : Nat} {v : UInt8} :
    str2idLoop c n i v = none ↔ ∃ k, i * 2 ≤ k ∧ k < (i + n) * 2 ∧ c.zeichen k = 0 := by
  induction n generalizing i v with
  | zero =>
      rw [str2idLoop]
      refine iff_of_false (by simp) ?_
      rintro ⟨k, hlow, hhigh, -⟩
      omega
  | succ n ih =>
      rw [str2idLoop]
      split_ifs with h
      · refine iff_of_true rfl ?_
        rcases h with h | h
        · exact ⟨i * 2, by omega, by omega, h⟩
        · exact ⟨i * 2 + 1, by omega, by omega, h⟩
      · rw [Option.map_eq_none_iff, ih]
        constructor
        · rintro ⟨k, hlow, hhigh, hk⟩
          exact ⟨k, by omega, by omega, hk⟩
        · rintro ⟨k, hlow, hhigh, hk⟩
          -- the two characters of byte `i` are not the end of the string
          have hfirst : k ≠ i * 2 := fun heq => h (Or.inl (heq ▸ hk))
          have hsecond : k ≠ i * 2 + 1 := fun heq => h (Or.inr (heq ▸ hk))
          exact ⟨k, by omega, by omega, hk⟩

/-- Only a string that is too short is refused. -/
theorem str2id_eq_none {c : EdsTempsensorBlock} : tempsensorStr2id c = none ↔ IdZuKurz c := by
  rw [tempsensorStr2id, str2idLoop_eq_none]
  constructor
  · rintro ⟨k, -, hk, hzero⟩
    exact ⟨k, by omega, hzero⟩
  · rintro ⟨k, hk, hzero⟩
    exact ⟨k, by omega, by omega, hzero⟩

theorem IdAusHexziffern.str2id {c : EdsTempsensorBlock} (h : IdAusHexziffern c) :
    ∃ id, tempsensorStr2id c = some id := by
  apply Option.ne_none_iff_exists'.mp
  rw [Ne, str2id_eq_none]
  rintro ⟨i, hi, hzero⟩
  have hziffer := h i hi
  rw [hzero] at hziffer
  exact absurd hziffer (by unfold IstHexziffer; decide)

/-! ## One call -/

section

variable {mcu : Mcu} {selfaddr : UInt16} {reads : Nat → UInt8} {s : TempsensorIO}

/-- The second in which a measurement is started. -/
def Startet (p : DeviceDataTempsensor) : Prop := p.timerCounter = 2 ∧ p.config.modus ≠ 0

/-- The second in which a measurement is sent. -/
def Faellig (p : DeviceDataTempsensor) : Prop := p.timerCounter = 0 ∧ p.convertSent = true

instance (p : DeviceDataTempsensor) : Decidable (Startet p) := inferInstanceAs (Decidable (_ ∧ _))

instance (p : DeviceDataTempsensor) : Decidable (Faellig p) := inferInstanceAs (Decidable (_ ∧ _))

/-- Nothing to do but to count. -/
theorem handler_zaehlt (hstart : ¬ Startet s.dev) (hsend : ¬ Faellig s.dev) :
    tempsensorTimerHandler mcu selfaddr reads s 1 =
      { s with dev := { s.dev with timerCounter := s.dev.timerCounter - 1 } } := by
  rw [Startet] at hstart
  rw [Faellig] at hsend
  simp [tempsensorTimerHandler, messungStarten, messungSenden, hstart, hsend]

/-- The start of a measurement. -/
theorem handler_startet (hstart : Startet s.dev) {id : List UInt8}
    (hid : tempsensorStr2id s.dev.config = some id) :
    tempsensorTimerHandler mcu selfaddr reads s 1 =
      { s with
        dev := { s.dev with timerCounter := 1, convertSent := true }
        aktionen := s.aktionen ++
          [.owCommand (owSetpin mcu s.dev.config.ioPin) convertT id] } := by
  obtain ⟨hcounter, hmodus⟩ := hstart
  simp [tempsensorTimerHandler, messungStarten, messungSenden, hcounter, hmodus, hid]

/-- A measurement cannot be started: the pin of the sensor stays set. -/
theorem handler_startet_nicht (hstart : Startet s.dev)
    (hid : tempsensorStr2id s.dev.config = none) :
    tempsensorTimerHandler mcu selfaddr reads s 1 =
      { s with
        owPin := owSetpin mcu s.dev.config.ioPin
        aktionen := s.aktionen ++ [.invalidSensorId] } := by
  obtain ⟨hcounter, hmodus⟩ := hstart
  simp [tempsensorTimerHandler, messungStarten, hcounter, hmodus, hid]

/-- The data of a sensor that has just sent its temperature. -/
def DeviceDataTempsensor.gemessen (p : DeviceDataTempsensor) (reads : Nat → UInt8)
    (id : List UInt8) : DeviceDataTempsensor :=
  ⟨p.config, p.config.interval - 1, false, messwert reads id⟩

/-- The end of a measurement. -/
theorem handler_sendet (hsend : Faellig s.dev) {id : List UInt8}
    (hid : tempsensorStr2id s.dev.config = some id) :
    tempsensorTimerHandler mcu selfaddr reads s 1 =
      { s with
        dev := s.dev.gemessen reads id
        aktionen := s.aktionen ++
          [.owCommand (owSetpin mcu s.dev.config.ioPin) owRead id,
            .send (temperaturFrame selfaddr (s.dev.gemessen reads id))] } := by
  obtain ⟨hcounter, hsent⟩ := hsend
  simp [tempsensorTimerHandler, messungStarten, messungSenden, hcounter, hsent, hid,
    temperaturFrame, DeviceDataTempsensor.gemessen]

/-- The second return that leaves the pin of the sensor set. -/
theorem handler_sendet_nicht (hsend : Faellig s.dev)
    (hid : tempsensorStr2id s.dev.config = none) :
    tempsensorTimerHandler mcu selfaddr reads s 1 =
      { s with
        dev := { s.dev with convertSent := false }
        owPin := owSetpin mcu s.dev.config.ioPin
        aktionen := s.aktionen ++ [.invalidSensorId] } := by
  obtain ⟨hcounter, hsent⟩ := hsend
  simp [tempsensorTimerHandler, messungStarten, messungSenden, hcounter, hsent, hid]

/-- What a call does for its sensor does not depend on the pin it finds. -/
theorem handler_pin (mcu : Mcu) (selfaddr : UInt16) (reads : Nat → UInt8)
    (p : DeviceDataTempsensor) (aktionen : List Aktion) (owPin : UInt8) :
    (tempsensorTimerHandler mcu selfaddr reads ⟨p, owPin, aktionen⟩ 1).dev =
        (tempsensorTimerHandler mcu selfaddr reads ⟨p, 0, aktionen⟩ 1).dev ∧
      (tempsensorTimerHandler mcu selfaddr reads ⟨p, owPin, aktionen⟩ 1).aktionen =
        (tempsensorTimerHandler mcu selfaddr reads ⟨p, 0, aktionen⟩ 1).aktionen := by
  by_cases hstart : Startet p
  · cases hid : tempsensorStr2id p.config with
    | none =>
        rw [handler_startet_nicht hstart hid, handler_startet_nicht hstart hid]
        exact ⟨rfl, rfl⟩
    | some id =>
        rw [handler_startet hstart hid, handler_startet hstart hid]
        exact ⟨rfl, rfl⟩
  · by_cases hsend : Faellig p
    · cases hid : tempsensorStr2id p.config with
      | none =>
          rw [handler_sendet_nicht hsend hid, handler_sendet_nicht hsend hid]
          exact ⟨rfl, rfl⟩
      | some id =>
          rw [handler_sendet hsend hid, handler_sendet hsend hid]
          exact ⟨rfl, rfl⟩
    · rw [handler_zaehlt hstart hsend, handler_zaehlt hstart hsend]
      exact ⟨rfl, rfl⟩

end

/-! ## The sensors of a board -/

section

variable (mcu : Mcu) (selfaddr : UInt16)

/-- What a call does for its sensor. -/
def Sensor.weiter (x : Sensor) (reads : Nat → UInt8) : Sensor :=
  let s := tempsensorTimerHandler mcu selfaddr reads ⟨x.dev, 0, x.aktionen⟩ 1
  ⟨s.dev, s.aktionen⟩

/-- The answers of the bus in the calls for sensor `i`. -/
def aufrufeVon (i : Nat) (as : List Aufruf) : List (Nat → UInt8) :=
  (as.filter fun a => a.nr = i).map (·.reads)

variable {mcu selfaddr}

theorem aufrufen_sensor (b : TempsensorBoard) (a : Aufruf) (i : Nat) :
    (aufrufen mcu selfaddr b a).sensoren[i]? =
      if a.nr = i then b.sensoren[i]?.map (·.weiter mcu selfaddr a.reads) else b.sensoren[i]? := by
  rw [aufrufen]
  cases hx : b.sensoren[a.nr]? with
  | none =>
      split_ifs with h
      · rw [← h, hx]
        rfl
      · rfl
  | some x =>
      have hlt := (List.getElem?_eq_some_iff.mp hx).1
      obtain ⟨hdev, haktionen⟩ := handler_pin mcu selfaddr a.reads x.dev x.aktionen b.owPin
      simp only [hdev, haktionen]
      split_ifs with h
      · subst h
        rw [List.getElem?_set_self hlt, hx]
        rfl
      · rw [List.getElem?_set_ne h]

/-- **A sensor does not notice the others**: it is where its own calls have taken it. -/
theorem run_sensor (as : List Aufruf) (b : TempsensorBoard) (i : Nat) :
    (run (aufrufen mcu selfaddr) b as).sensoren[i]? =
      b.sensoren[i]?.map fun x => run (Sensor.weiter mcu selfaddr) x (aufrufeVon i as) := by
  induction as generalizing b with
  | nil => simp [aufrufeVon]
  | cons a as ih =>
      rw [run_cons, ih, aufrufen_sensor]
      by_cases h : a.nr = i
      · simp [aufrufeVon, h, Function.comp_def]
      · simp [aufrufeVon, h]

theorem aufrufeVon_sekunde {n i : Nat} (hi : i < n) (reads : Nat → Nat → UInt8) :
    aufrufeVon i (sekunde n reads) = [reads i] := by
  have hone : (List.range n).filter (fun nr => nr = i) = [i] := by
    rw [List.filter_eq, List.nodup_range.count, if_pos (List.mem_range.mpr hi)]
    rfl
  rw [aufrufeVon, sekunde, List.filter_map, List.map_map]
  show ((List.range n).filter fun nr => nr = i).map reads = [reads i]
  rw [hone]
  rfl

theorem aufrufeVon_append (i : Nat) (as as' : List Aufruf) :
    aufrufeVon i (as ++ as') = aufrufeVon i as ++ aufrufeVon i as' := by
  simp [aufrufeVon]

/-- Every sensor is called once in a second. -/
theorem aufrufeVon_sekunden {n i : Nat} (hi : i < n) (reads : Nat → Nat → Nat → UInt8) (t : Nat) :
    aufrufeVon i (sekunden n reads t) = (List.range t).map fun k => reads k i := by
  induction t with
  | zero => rfl
  | succ t ih =>
      rw [sekunden, List.range_succ, List.flatMap_append, aufrufeVon_append]
      rw [sekunden] at ih
      simp [ih, aufrufeVon_sekunde hi]

end

/-! ## The schedule of a sensor -/

/-- The seconds until the counter brings the next message. After a missed start of
the measurement it runs round. -/
def warten (p : DeviceDataTempsensor) : Nat :=
  if p.convertSent = true ∨ 2 ≤ p.timerCounter.toNat then p.timerCounter.toNat
  else p.timerCounter.toNat + 256

/-- The seconds from one message to the next. -/
def periode (interval : UInt8) : Nat :=
  if 3 ≤ interval.toNat then interval.toNat else interval.toNat + 256

theorem periode_pos (interval : UInt8) : 0 < periode interval := by
  rw [periode]
  split_ifs <;> omega

/-- The sensor has the configuration `c`, and a measurement runs at most in the last
two seconds. -/
structure Laeuft (c : EdsTempsensorBlock) (p : DeviceDataTempsensor) : Prop where
  config : p.config = c
  sent : p.convertSent = true → p.timerCounter.toNat ≤ 1

theorem toNat_minus_one (v : UInt8) : (v - 1).toNat = (v.toNat + 255) % 256 := by
  rw [UInt8.toNat_sub, show (1 : UInt8).toNat = 1 from rfl]
  omega

section

variable {c : EdsTempsensorBlock} {x : Sensor} {id : List UInt8}

theorem laeuft_init (c : EdsTempsensorBlock) : Laeuft c (tempsensorInit c) :=
  ⟨rfl, fun h => absurd h (by simp [tempsensorInit])⟩

/-- One second of a sensor that has become `y`: it waits a second less, or sends and
waits for a period. -/
structure Sekunde (selfaddr : UInt16) (c : EdsTempsensorBlock) (x y : Sensor) : Prop where
  laeuft : Laeuft c y.dev
  wartet : warten x.dev ≠ 0 →
    warten y.dev + 1 = warten x.dev ∧ gesendet y.aktionen = gesendet x.aktionen
  sendet : warten x.dev = 0 →
    warten y.dev + 1 = periode c.interval ∧
      gesendet y.aktionen = gesendet x.aktionen ++ [temperaturFrame selfaddr y.dev]

theorem sekunde_startet (mcu : Mcu) (selfaddr : UInt16) (reads : Nat → UInt8)
    (hid : tempsensorStr2id c = some id) (h : Laeuft c x.dev) (hstart : Startet x.dev) :
    Sekunde selfaddr c x (x.weiter mcu selfaddr reads) := by
  have htwo : x.dev.timerCounter.toNat = 2 := by
    rw [hstart.1]
    rfl
  have hwarten : warten x.dev = 2 := by rw [warten, if_pos (by omega), htwo]
  rw [Sensor.weiter, handler_startet hstart (by rw [h.config, hid])]
  refine ⟨⟨h.config, fun _ => Nat.le_refl 1⟩, fun _ => ⟨?_, by simp [gesendet]⟩, by omega⟩
  rw [hwarten]
  rfl

theorem sekunde_sendet (mcu : Mcu) (selfaddr : UInt16) (reads : Nat → UInt8)
    (hid : tempsensorStr2id c = some id) (h : Laeuft c x.dev) (hsend : Faellig x.dev) :
    Sekunde selfaddr c x (x.weiter mcu selfaddr reads) := by
  have hwarten : warten x.dev = 0 := by
    rw [warten, if_pos (Or.inl hsend.2), hsend.1]
    rfl
  rw [Sensor.weiter, handler_sendet hsend (by rw [h.config, hid])]
  refine ⟨⟨h.config, fun hfalse => by cases hfalse⟩, by omega, fun _ => ⟨?_, ?_⟩⟩
  · -- the interval is loaded and at once counted down
    have hinterval := c.interval.toNat_lt
    simp only [DeviceDataTempsensor.gemessen, warten, periode, h.config, toNat_minus_one,
      Bool.false_eq_true, false_or]
    split_ifs <;> omega
  · simp [gesendet]

theorem sekunde_zaehlt (mcu : Mcu) (selfaddr : UInt16) (reads : Nat → UInt8)
    (hmodus : c.modus ≠ 0) (h : Laeuft c x.dev) (hstart : ¬ Startet x.dev)
    (hsend : ¬ Faellig x.dev) : Sekunde selfaddr c x (x.weiter mcu selfaddr reads) := by
  have hlt := x.dev.timerCounter.toNat_lt
  have hmodus' : x.dev.config.modus ≠ 0 := by
    rw [h.config]
    exact hmodus
  have htwo : x.dev.timerCounter.toNat ≠ 2 := by
    intro htwo
    exact hstart ⟨UInt8.toNat_inj.mp htwo, hmodus'⟩
  have hzero : x.dev.convertSent = true → x.dev.timerCounter.toNat ≠ 0 := by
    intro hdone hzero
    exact hsend ⟨UInt8.toNat_inj.mp hzero, hdone⟩
  rw [Sensor.weiter, handler_zaehlt hstart hsend]
  refine ⟨⟨h.config, ?_⟩, ?_, ?_⟩
  · intro hdone
    have := h.sent hdone
    have := hzero hdone
    simp only [toNat_minus_one]
    omega
  · intro hwarten
    refine ⟨?_, rfl⟩
    rw [warten] at hwarten ⊢
    simp only [warten, toNat_minus_one]
    cases hdone : x.dev.convertSent with
    | true =>
        have := h.sent hdone
        have := hzero hdone
        simp only [true_or, if_true]
        omega
    | false =>
        simp only [Bool.false_eq_true, false_or]
        split_ifs <;> omega
  · intro hwarten
    rw [warten] at hwarten
    split_ifs at hwarten with hrun
    · rcases hrun with hdone | hlate
      · exact absurd hwarten (hzero hdone)
      · omega

/-- **One second of a sensor** with a usable id. -/
theorem weiter_sekunde (mcu : Mcu) (selfaddr : UInt16) (reads : Nat → UInt8)
    (hmodus : c.modus ≠ 0) (hid : tempsensorStr2id c = some id) (h : Laeuft c x.dev) :
    Sekunde selfaddr c x (x.weiter mcu selfaddr reads) := by
  by_cases hstart : Startet x.dev
  · exact sekunde_startet mcu selfaddr reads hid h hstart
  · by_cases hsend : Faellig x.dev
    · exact sekunde_sendet mcu selfaddr reads hid h hsend
    · exact sekunde_zaehlt mcu selfaddr reads hmodus h hstart hsend

end

/-! ## The runs of a board -/

section

variable (mcu : Mcu) (selfaddr : UInt16)

/-- A sensor after `t` seconds. -/
def sensorNach (x : Sensor) (reads : Nat → Nat → UInt8) (t : Nat) : Sensor :=
  run (Sensor.weiter mcu selfaddr) x ((List.range t).map reads)

variable {mcu selfaddr}
variable {b : TempsensorBoard} {i : Nat} {x : Sensor} {c : EdsTempsensorBlock}

@[simp] theorem sensorNach_zero (reads : Nat → Nat → UInt8) :
    sensorNach mcu selfaddr x reads 0 = x := rfl

theorem sensorNach_succ (reads : Nat → Nat → UInt8) (t : Nat) :
    sensorNach mcu selfaddr x reads (t + 1) =
      (sensorNach mcu selfaddr x reads t).weiter mcu selfaddr (reads t) := by
  rw [sensorNach, List.range_succ, List.map_append, run_append]
  rfl

theorem sekunden_sensor (mcu : Mcu) (selfaddr : UInt16) (hx : b.sensoren[i]? = some x)
    (reads : Nat → Nat → Nat → UInt8) (t : Nat) :
    (run (aufrufen mcu selfaddr) b (sekunden b.sensoren.length reads t)).sensoren[i]? =
      some (sensorNach mcu selfaddr x (fun k => reads k i) t) := by
  have hi := (List.getElem?_eq_some_iff.mp hx).1
  rw [run_sensor, hx, aufrufeVon_sekunden hi]
  rfl

/-- What a sensor does in second `t`. -/
theorem sensorNach_sekunde (mcu : Mcu) (selfaddr : UInt16) {id : List UInt8}
    (hmodus : c.modus ≠ 0) (hid : tempsensorStr2id c = some id) (h : Laeuft c x.dev)
    (reads : Nat → Nat → UInt8) (t : Nat) :
    Sekunde selfaddr c (sensorNach mcu selfaddr x reads t)
      (sensorNach mcu selfaddr x reads (t + 1)) := by
  have hlaeuft : Laeuft c (sensorNach mcu selfaddr x reads t).dev := by
    induction t with
    | zero => exact h
    | succ t ih =>
        rw [sensorNach_succ]
        exact (weiter_sekunde mcu selfaddr (reads t) hmodus hid ih).laeuft
  rw [sensorNach_succ]
  exact weiter_sekunde mcu selfaddr (reads t) hmodus hid hlaeuft

/-- The messages of a sensor are on a schedule. -/
theorem counts_warten (mcu : Mcu) (selfaddr : UInt16) {id : List UInt8} (hmodus : c.modus ≠ 0)
    (hid : tempsensorStr2id c = some id) (h : Laeuft c x.dev) (reads : Nat → Nat → UInt8) :
    Counts (fun t => warten (sensorNach mcu selfaddr x reads t).dev) (periode c.interval) where
  down t hwait := ((sensorNach_sekunde mcu selfaddr hmodus hid h reads t).wartet hwait).1
  reload t hwait := ((sensorNach_sekunde mcu selfaddr hmodus hid h reads t).sendet hwait).1

theorem Sendet.not_schweigt {b b' : TempsensorBoard} (h : Sendet selfaddr i b b') :
    ¬ Schweigt i b b' := by
  rintro ⟨y, y', hy, hy', hsilent⟩
  obtain ⟨x, x', hx, hx', hsent⟩ := h
  obtain rfl : x = y := Option.some.inj (hx.symm.trans hy)
  obtain rfl : x' = y' := Option.some.inj (hx'.symm.trans hy')
  rw [hsilent] at hsent
  simp at hsent

/-- A sensor with a usable id sends in the distance of its schedule, and in no other. -/
theorem sendetAlle_iff_periode {id : List UInt8} (hmodus : c.modus ≠ 0)
    (hid : tempsensorStr2id c = some id) (hx : b.sensoren[i]? = some x) (h : Laeuft c x.dev)
    {period : Nat} (hpos : 0 < period) :
    SendetAlle mcu selfaddr b i period ↔ periode c.interval = period := by
  have hsecond : ∀ (reads : Nat → Nat → Nat → UInt8) (t : Nat),
      let wait := warten (sensorNach mcu selfaddr x (fun k => reads k i) t).dev
      let board (t : Nat) := run (aufrufen mcu selfaddr) b (sekunden b.sensoren.length reads t)
      (wait = 0 → Sendet selfaddr i (board t) (board (t + 1))) ∧
        (wait ≠ 0 → Schweigt i (board t) (board (t + 1))) := by
    intro reads t
    have hnow := sekunden_sensor mcu selfaddr hx reads t
    have hnext := sekunden_sensor mcu selfaddr hx reads (t + 1)
    have hspec := sensorNach_sekunde mcu selfaddr hmodus hid h (fun k => reads k i) t
    constructor
    · intro hwait
      exact ⟨_, _, hnow, hnext, (hspec.sendet hwait).2⟩
    · intro hwait
      exact ⟨_, _, hnow, hnext, (hspec.wartet hwait).2⟩
  constructor
  · intro hall
    obtain ⟨first, hfirst⟩ := hall fun _ _ _ => 0
    have hcounts := counts_warten mcu selfaddr hmodus hid h fun _ _ => 0
    have hsame : ∀ t, OnSchedule (warten x.dev) (periode c.interval) t ↔
        OnSchedule first period t := by
      intro t
      have hzero := hcounts.zero_iff t
      obtain ⟨hsends, hsilent⟩ := hsecond (fun _ _ _ => 0) t
      constructor
      · intro hon
        by_contra hoff
        exact (hsends (hzero.mpr hon)).not_schweigt ((hfirst t).2 hoff)
      · intro hon
        by_contra hoff
        exact ((hfirst t).1 hon).not_schweigt (hsilent fun hwait => hoff (hzero.mp hwait))
    exact period_unique (periode_pos c.interval) hpos hsame
  · rintro rfl reads
    have hcounts := counts_warten mcu selfaddr hmodus hid h fun k => reads k i
    refine ⟨warten x.dev, fun t => ⟨fun hon => ?_, fun hoff => ?_⟩⟩
    · exact (hsecond reads t).1 ((hcounts.zero_iff t).mpr hon)
    · exact (hsecond reads t).2 fun hwait => hoff ((hcounts.zero_iff t).mp hwait)

end

/-! ## The pin of a board -/

section

variable {mcu : Mcu} {selfaddr : UInt16} {reads : Nat → UInt8} {c : EdsTempsensorBlock}
  {cs : List EdsTempsensorBlock} {pin : UInt8} {x : Sensor}

/-- The handler returns before the old pin is back. -/
def Abgebrochen (p : DeviceDataTempsensor) : Prop :=
  (Startet p ∨ Faellig p) ∧ tempsensorStr2id p.config = none

instance (p : DeviceDataTempsensor) : Decidable (Abgebrochen p) :=
  inferInstanceAs (Decidable (_ ∧ _))

theorem not_abgebrochen {p : DeviceDataTempsensor} {id : List UInt8}
    (hid : tempsensorStr2id p.config = some id) : ¬ Abgebrochen p :=
  fun h => Option.some_ne_none id (hid.symm.trans h.2)

theorem handler_owPin (s : TempsensorIO) :
    (tempsensorTimerHandler mcu selfaddr reads s 1).owPin =
      if Abgebrochen s.dev then owSetpin mcu s.dev.config.ioPin else s.owPin := by
  by_cases hstart : Startet s.dev
  · cases hid : tempsensorStr2id s.dev.config with
    | none => rw [handler_startet_nicht hstart hid, if_pos ⟨Or.inl hstart, hid⟩]
    | some id => rw [handler_startet hstart hid, if_neg (not_abgebrochen hid)]
  · by_cases hsend : Faellig s.dev
    · cases hid : tempsensorStr2id s.dev.config with
      | none => rw [handler_sendet_nicht hsend hid, if_pos ⟨Or.inr hsend, hid⟩]
      | some id => rw [handler_sendet hsend hid, if_neg (not_abgebrochen hid)]
    · rw [handler_zaehlt hstart hsend, if_neg fun h => h.1.elim hstart hsend]

theorem pinBleibt_iff {b : TempsensorBoard} {a : Aufruf} (hx : b.sensoren[a.nr]? = some x) :
    PinBleibt mcu selfaddr b a ↔
      (Abgebrochen x.dev → owSetpin mcu x.dev.config.ioPin = b.owPin) := by
  rw [PinBleibt, aufrufen, hx]
  simp only [handler_owPin]
  split_ifs with h
  · exact ⟨fun heq _ => heq, fun himp => himp h⟩
  · exact ⟨fun _ habort => absurd habort h, fun _ => rfl⟩

/-- The sensor has the configuration `c`, and a measurement runs only if the id
could be read. -/
structure Lesbar (c : EdsTempsensorBlock) (p : DeviceDataTempsensor) : Prop where
  config : p.config = c
  sent : p.convertSent = true → tempsensorStr2id c ≠ none

theorem lesbar_init (c : EdsTempsensorBlock) : Lesbar c (tempsensorInit c) :=
  ⟨rfl, fun h => absurd h (by simp [tempsensorInit])⟩

theorem Lesbar.weiter (h : Lesbar c x.dev) : Lesbar c (x.weiter mcu selfaddr reads).dev := by
  obtain ⟨hconfig, hsent⟩ := h
  rw [Sensor.weiter]
  by_cases hstart : Startet x.dev
  · cases hid : tempsensorStr2id x.dev.config with
    | none =>
        rw [handler_startet_nicht hstart hid]
        exact ⟨hconfig, hsent⟩
    | some id =>
        rw [handler_startet hstart hid]
        refine ⟨hconfig, fun _ => ?_⟩
        rw [← hconfig, hid]
        exact Option.some_ne_none id
  · by_cases hsend : Faellig x.dev
    · cases hid : tempsensorStr2id x.dev.config with
      | none => exact absurd (hconfig ▸ hid) (hsent hsend.2)
      | some id =>
          rw [handler_sendet hsend hid]
          exact ⟨hconfig, fun hfalse => by cases hfalse⟩
    · rw [handler_zaehlt hstart hsend]
      exact ⟨hconfig, hsent⟩

theorem Lesbar.nach (h : Lesbar c x.dev) (mcu : Mcu) (selfaddr : UInt16)
    (reads : Nat → Nat → UInt8) (t : Nat) : Lesbar c (sensorNach mcu selfaddr x reads t).dev := by
  induction t with
  | zero => exact h
  | succ t ih =>
      rw [sensorNach_succ]
      exact ih.weiter

/-- A handler is left early only at the start of a measurement, for a short id. -/
theorem Lesbar.abgebrochen (h : Lesbar c x.dev) (habort : Abgebrochen x.dev) :
    Startet x.dev ∧ IdZuKurz c := by
  obtain ⟨hconfig, hsent⟩ := h
  obtain ⟨hwhen, hid⟩ := habort
  rw [hconfig] at hid
  rcases hwhen with hstart | hsend
  · exact ⟨hstart, str2id_eq_none.mp hid⟩
  · exact absurd hid (hsent hsend.2)

/-- The seconds until a measurement is to be started. -/
def bisStart (p : DeviceDataTempsensor) : Nat := (p.timerCounter - 2).toNat

theorem bisStart_eq_zero {p : DeviceDataTempsensor} (h : bisStart p = 0) : p.timerCounter = 2 := by
  have hzero := UInt8.toNat_inj.mp (h.trans (show 0 = (0 : UInt8).toNat from rfl))
  grind

/-- A sensor with a short id comes to the start of a measurement and gets no further. -/
theorem counts_bisStart (mcu : Mcu) (selfaddr : UInt16) (hmodus : c.modus ≠ 0)
    (hid : tempsensorStr2id c = none) (h : Lesbar c x.dev) (reads : Nat → Nat → UInt8) :
    Counts (fun t => bisStart (sensorNach mcu selfaddr x reads t).dev) 1 := by
  have hlesbar := h.nach mcu selfaddr reads
  have hidle : ∀ t, ¬ Faellig (sensorNach mcu selfaddr x reads t).dev :=
    fun t hsend => (hlesbar t).sent hsend.2 hid
  constructor
  · intro t hwait
    have hstart : ¬ Startet (sensorNach mcu selfaddr x reads t).dev := by
      intro hstart
      rw [bisStart, hstart.1] at hwait
      exact hwait rfl
    simp only [sensorNach_succ]
    rw [Sensor.weiter, handler_zaehlt hstart (hidle t)]
    have hone : ∀ v : UInt8, (v - 2).toNat ≠ 0 → (v - 1 - 2).toNat + 1 = (v - 2).toNat := by
      intro v
      rw [UInt8.toNat_sub, UInt8.toNat_sub, toNat_minus_one, show (2 : UInt8).toNat = 2 from rfl]
      have := v.toNat_lt
      omega
    exact hone _ hwait
  · intro t hwait
    have hcounter := bisStart_eq_zero hwait
    have hstart : Startet (sensorNach mcu selfaddr x reads t).dev := by
      refine ⟨hcounter, ?_⟩
      rw [(hlesbar t).config]
      exact hmodus
    simp only [sensorNach_succ]
    rw [Sensor.weiter, handler_startet_nicht hstart (by rw [(hlesbar t).config, hid])]
    rw [bisStart, hcounter]
    rfl

/-- What holds of a board whose short ids stand at sensors of the pin it began with. -/
structure Ungestoert (cs : List EdsTempsensorBlock) (pin : UInt8) (b : TempsensorBoard) : Prop where
  owPin : b.owPin = pin
  lesbar : ∀ (i : Nat) (x : Sensor), b.sensoren[i]? = some x → ∃ c ∈ cs, Lesbar c x.dev

theorem ungestoert_start (pin : UInt8) (cs : List EdsTempsensorBlock) :
    Ungestoert cs pin (boardStart pin cs) := by
  refine ⟨rfl, fun i x hx => ?_⟩
  rw [boardStart, List.getElem?_map, Option.map_eq_some_iff] at hx
  obtain ⟨c, hc, rfl⟩ := hx
  exact ⟨c, List.mem_of_getElem? hc, lesbar_init c⟩

/-- The sensors that can be left early have the pin `pin`. -/
def KurzeIdsAnPin (mcu : Mcu) (cs : List EdsTempsensorBlock) (pin : UInt8) : Prop :=
  ∀ c ∈ cs, c.modus ≠ 0 → IdZuKurz c → owSetpin mcu c.ioPin = pin

/-- **One call**, when the short ids stand at sensors of the pin. -/
theorem Ungestoert.aufrufen {b : TempsensorBoard} (hpin : KurzeIdsAnPin mcu cs pin) (a : Aufruf)
    (h : Ungestoert cs pin b) :
    PinBleibt mcu selfaddr b a ∧ Ungestoert cs pin (aufrufen mcu selfaddr b a) := by
  have hkeeps : PinBleibt mcu selfaddr b a := by
    cases hx : b.sensoren[a.nr]? with
    | none => rw [PinBleibt, Tempsensor.aufrufen, hx]
    | some x =>
        rw [pinBleibt_iff hx]
        intro habort
        obtain ⟨c, hc, hlesbar⟩ := h.lesbar a.nr x hx
        obtain ⟨hstart, hkurz⟩ := hlesbar.abgebrochen habort
        have hmodus := hstart.2
        rw [hlesbar.config] at hmodus ⊢
        rw [h.owPin]
        exact hpin c hc hmodus hkurz
  refine ⟨hkeeps, hkeeps.trans h.owPin, fun i y hy => ?_⟩
  rw [aufrufen_sensor] at hy
  split_ifs at hy with hi
  · obtain ⟨x, hx, rfl⟩ := Option.map_eq_some_iff.mp hy
    obtain ⟨c, hc, hlesbar⟩ := h.lesbar i x hx
    exact ⟨c, hc, hlesbar.weiter⟩
  · exact h.lesbar i y hy

theorem guarded_of_kurzeIdsAnPin (hpin : KurzeIdsAnPin mcu cs pin) (as : List Aufruf) :
    Guarded (aufrufen mcu selfaddr) (PinBleibt mcu selfaddr) (boardStart pin cs) as :=
  guarded_of_guarded (G := fun _ _ => True) (fun _ a _ h => (h.aufrufen hpin a).2)
    (fun _ a _ h => (h.aufrufen hpin a).1) as _ (ungestoert_start pin cs)
    (guarded_of_forall as _ fun _ _ => trivial)

/-- The call for sensor `i` in second `d`, and what has happened before it. -/
theorem sekunden_split {n i : Nat} (hi : i < n) (reads : Nat → Nat → Nat → UInt8) (d : Nat) :
    ∃ pre post, sekunden n reads (d + 1) = pre ++ ⟨i, reads d i⟩ :: post ∧
      aufrufeVon i pre = (List.range d).map fun k => reads k i := by
  have hmem : (⟨i, reads d i⟩ : Aufruf) ∈ sekunde n (reads d) :=
    List.mem_map_of_mem (List.mem_range.mpr hi)
  obtain ⟨pre, post, hsplit⟩ := List.append_of_mem hmem
  have hbefore : aufrufeVon i pre = [] := by
    have hone := aufrufeVon_sekunde hi (reads d)
    rw [hsplit, aufrufeVon_append] at hone
    have hlength := congrArg List.length hone
    have hat : aufrufeVon i (⟨i, reads d i⟩ :: post) = reads d i :: aufrufeVon i post := by
      simp [aufrufeVon]
    rw [hat, List.length_append, List.length_cons, List.length_singleton] at hlength
    exact List.length_eq_zero_iff.mp (by omega)
  refine ⟨sekunden n reads d ++ pre, post, ?_, ?_⟩
  · rw [List.append_assoc, ← hsplit, sekunden, sekunden, List.range_succ, List.flatMap_append]
    simp
  · rw [aufrufeVon_append, aufrufeVon_sekunden hi, hbefore, List.append_nil]

/-- If no call changes the pin, a sensor with a short id has the pin of the board. -/
theorem kurzeIdsAnPin_of_guarded
    (h : ∀ t, Guarded (aufrufen mcu selfaddr) (PinBleibt mcu selfaddr) (boardStart pin cs)
      (sekunden cs.length (fun _ _ _ => 0) t)) : KurzeIdsAnPin mcu cs pin := by
  intro c hc hmodus hkurz
  obtain ⟨i, hlt, rfl⟩ := List.mem_iff_getElem.mp hc
  have hid := str2id_eq_none.mpr hkurz
  let x : Sensor := ⟨tempsensorInit cs[i], []⟩
  have hlesbar : Lesbar cs[i] x.dev := lesbar_init cs[i]
  have hx : (boardStart pin cs).sensoren[i]? = some x := by simp [boardStart, hlt, x]
  -- after `d` seconds the sensor is at the start of a measurement
  obtain ⟨d, hd⟩ : ∃ d, bisStart x.dev = d := ⟨_, rfl⟩
  have hcounts := counts_bisStart mcu selfaddr hmodus hid hlesbar fun _ _ => 0
  have hwait := hcounts.before (t := 0) (d := d) (by simp [hd])
  simp only [Nat.zero_add, sensorNach_zero, hd, Nat.sub_self] at hwait
  have hconfig := (hlesbar.nach mcu selfaddr (fun _ _ => 0) d).config
  have habort : Abgebrochen (sensorNach mcu selfaddr x (fun _ _ => 0) d).dev := by
    rw [Abgebrochen, Startet, hconfig]
    exact ⟨Or.inl ⟨bisStart_eq_zero hwait, hmodus⟩, hid⟩
  obtain ⟨pre, post, hsplit, hpre⟩ := sekunden_split hlt (fun _ _ _ => 0) d
  have hguarded := h (d + 1)
  rw [hsplit, guarded_append] at hguarded
  have hpin : (run (aufrufen mcu selfaddr) (boardStart pin cs) pre).owPin = pin :=
    run_guarded (I := fun b => b.owPin = pin) (fun b a hkeeps hb => hkeeps.trans hb) pre _
      hguarded.1 rfl
  have hsensor : (run (aufrufen mcu selfaddr) (boardStart pin cs) pre).sensoren[i]? =
      some (sensorNach mcu selfaddr x (fun _ _ => 0) d) := by
    rw [run_sensor, hx, hpre]
    rfl
  have hkeeps := (pinBleibt_iff (a := ⟨i, fun _ => 0⟩) hsensor).mp hguarded.2.1 habort
  rwa [hconfig, hpin] at hkeeps

end

/-! ## All sensors -/

section

variable (mcu : Mcu) (selfaddr : UInt16) (pin : UInt8) (cs : List EdsTempsensorBlock)

/-- The sensors of a board do not disturb each other: no call changes the pin, and
every sensor that is set to automatic and has an id of hexadecimal digits sends its
temperature every `max(interval, 3)` seconds. -/
def StoerenSichNicht : Prop :=
  (∀ reads t, Guarded (aufrufen mcu selfaddr) (PinBleibt mcu selfaddr) (boardStart pin cs)
      (sekunden cs.length reads t)) ∧
    ∀ i c, cs[i]? = some c → c.modus ≠ 0 → IdAusHexziffern c →
      SendetAlle mcu selfaddr (boardStart pin cs) i (max c.interval.toNat 3)

/-- **The sensors of a board**: they do not disturb each other exactly when the short
ids stand at sensors of the pin the board begins with, and the sensors with an id of
hexadecimal digits have an interval of at least 3. -/
theorem tempsensors_iff :
    StoerenSichNicht mcu selfaddr pin cs ↔
      (∀ c ∈ cs, c.modus ≠ 0 → IdZuKurz c → owSetpin mcu c.ioPin = pin) ∧
        ∀ c ∈ cs, c.modus ≠ 0 → IdAusHexziffern c → 3 ≤ c.interval.toNat := by
  have hpins : (∀ reads t, Guarded (aufrufen mcu selfaddr) (PinBleibt mcu selfaddr)
      (boardStart pin cs) (sekunden cs.length reads t)) ↔ KurzeIdsAnPin mcu cs pin :=
    ⟨fun h => kurzeIdsAnPin_of_guarded (h fun _ _ _ => 0),
      fun h reads t => guarded_of_kurzeIdsAnPin h _⟩
  have hschedule : ∀ i c, cs[i]? = some c → c.modus ≠ 0 → IdAusHexziffern c →
      (SendetAlle mcu selfaddr (boardStart pin cs) i (max c.interval.toNat 3) ↔
        3 ≤ c.interval.toNat) := by
    intro i c hc hmodus hhex
    obtain ⟨id, hid⟩ := hhex.str2id
    have hx : (boardStart pin cs).sensoren[i]? = some ⟨tempsensorInit c, []⟩ := by
      simp [boardStart, hc]
    rw [sendetAlle_iff_periode hmodus hid hx (laeuft_init c) (by omega), periode]
    split_ifs <;> omega
  rw [StoerenSichNicht, hpins]
  apply and_congr_right
  intro _
  constructor
  · intro h c hc hmodus hhex
    obtain ⟨i, hi⟩ := List.getElem?_of_mem hc
    exact (hschedule i c hi hmodus hhex).mp (h i c hi hmodus hhex)
  · intro h i c hi hmodus hhex
    exact (hschedule i c hi hmodus hhex).mpr (h c (List.mem_of_getElem? hi) hmodus hhex)

end

/-- A sensor in automatic mode at pin 8 without an id, in group 1. -/
private def ohneId : EdsTempsensorBlock := ⟨8, 1, 1, 30, Vector.replicate 17 0⟩

/-- In its third second the handler leaves `ow_pin` at 7. -/
theorem tempsensor_ohneId : ¬ StoerenSichNicht .atmega32 1 0 [ohneId] := by
  intro h
  have hpin := kurzeIdsAnPin_of_guarded (h.1 fun _ _ _ => 0) ohneId (by simp)
  exact absurd (hpin (by decide) (by decide)) (by decide)

end OpenHcan.Tempsensor
