import OpenHcan.Devices.Adc
import OpenHcan.Devices.RolladenAutomat
import OpenHcan.Lib.Countdown
import OpenHcan.Lib.Demux
import OpenHcan.Lib.Window

/-!
# Helligkeitssensor — how bright it is (`devices/helligkeitssensor.c`, `floatingAverage.c`)

A sensor sends how bright it is every `sendCycleMins` minutes. It measures only in
the last seconds before it sends, into a ring of 30 values, and sends their mean.
-/

namespace OpenHcan.Helligkeitssensor

open Lib RolladenAutomat
open Adc (AnalogEvent AnalogIO Messung kanal messreihe nurADC0)

set_option maxRecDepth 100000

/-! ## The floating average -/

/-- SIZE_OF_AVG -/
def sizeOfAvg : Nat := 30

/-- `tFloatAvgFilter` -/
structure TFloatAvgFilter where
  aData : List UInt16
  indexNextValue : UInt8
  length_aData : aData.length = sizeOfAvg
  index_lt : indexNextValue.toNat < sizeOfAvg

/-- `initFloatAvg` -/
def initFloatAvg (defaultValue : UInt16) : TFloatAvgFilter where
  aData := List.replicate sizeOfAvg defaultValue
  indexNextValue := 0
  length_aData := List.length_replicate
  index_lt := Nat.succ_pos 29

theorem nextIndex_toNat {idx : UInt8} (h : idx.toNat < sizeOfAvg) :
    ((idx + 1) % 30).toNat = (idx.toNat + 1) % sizeOfAvg := by
  have hlt : idx.toNat < 30 := h
  rw [UInt8.toNat_mod, UInt8.toNat_add, Nat.mod_eq_of_lt (b := 2 ^ 8)]
  · rfl
  · show idx.toNat + 1 < 2 ^ 8
    omega

theorem nextIndex_lt {idx : UInt8} (h : idx.toNat < sizeOfAvg) :
    ((idx + 1) % 30).toNat < sizeOfAvg := by
  rw [nextIndex_toNat h]
  exact Nat.mod_lt _ (Nat.succ_pos 29)

/-- `addToFloatAvg` -/
def addToFloatAvg (f : TFloatAvgFilter) (newValue : UInt16) : TFloatAvgFilter where
  aData := f.aData.set f.indexNextValue.toNat newValue
  indexNextValue := (f.indexNextValue + 1) % 30
  length_aData := List.length_set.trans f.length_aData
  index_lt := nextIndex_lt f.index_lt

/-- `getOutputValue` -/
def getOutputValue (f : TFloatAvgFilter) : UInt16 :=
  let tempSum := f.aData.foldl (fun s v => s + v.toUInt32) (0 : UInt32)
  (tempSum / 30).toUInt16

namespace TFloatAvgFilter

/-- The values, the oldest first. -/
def werte (f : TFloatAvgFilter) : List UInt16 := f.aData.rotate f.indexNextValue.toNat

theorem length_werte (f : TFloatAvgFilter) : f.werte.length = sizeOfAvg := by
  rw [werte, List.length_rotate, f.length_aData]

/-- A new value slides the window. -/
theorem werte_add (f : TFloatAvgFilter) (v : UInt16) :
    (addToFloatAvg f v).werte = slide f.werte v := by
  have hidx : f.indexNextValue.toNat < f.aData.length := by
    rw [f.length_aData]
    exact f.index_lt
  have hlen : (f.aData.set f.indexNextValue.toNat v).length = sizeOfAvg :=
    List.length_set.trans f.length_aData
  rw [werte, werte, ← rotate_set hidx v, ← List.rotate_mod _ (f.indexNextValue.toNat + 1), hlen,
    ← nextIndex_toNat f.index_lt]
  rfl

end TFloatAvgFilter

/-- The sum of some values. -/
def summe : List UInt16 → Nat
  | [] => 0
  | w :: ws => w.toNat + summe ws

/-- The mean of some values, rounded down. -/
def mittel (ws : List UInt16) : UInt16 := UInt16.ofNat (summe ws / ws.length)

theorem summe_perm {ws ws' : List UInt16} (h : ws.Perm ws') : summe ws = summe ws' := by
  induction h with
  | nil => rfl
  | cons w _ ih => rw [summe, summe, ih]
  | swap w w' ws =>
      simp only [summe]
      omega
  | trans _ _ ih ih' => exact ih.trans ih'

/-- The sum does not overflow: this is what the wide type of `tempSum` is for. -/
theorem tempSum_toNat (ws : List UInt16) (s : UInt32)
    (h : s.toNat + ws.length * 65535 < 2 ^ 32) :
    (ws.foldl (fun s v => s + v.toUInt32) s).toNat = s.toNat + summe ws := by
  induction ws generalizing s with
  | nil => rfl
  | cons w ws ih =>
      have hw := w.toNat_lt
      rw [List.length_cons, Nat.succ_mul] at h
      have hadd : (s + w.toUInt32).toNat = s.toNat + w.toNat := by
        rw [UInt32.toNat_add, UInt16.toNat_toUInt32, Nat.mod_eq_of_lt]
        omega
      rw [List.foldl_cons, ih _ (by omega), hadd, summe, Nat.add_assoc]

theorem summe_le {ws : List UInt16} {b : Nat} (h : ∀ w ∈ ws, w.toNat ≤ b) :
    summe ws ≤ ws.length * b := by
  induction ws with
  | nil => exact Nat.zero_le _
  | cons w ws ih =>
      obtain ⟨hw, hws⟩ := List.forall_mem_cons.mp h
      have hrest := ih hws
      rw [summe, List.length_cons, Nat.succ_mul]
      omega

/-- A mean is within the bounds of its values. -/
theorem mittel_le {ws : List UInt16} {b : Nat} (hb : b < 65536) (h : ∀ w ∈ ws, w.toNat ≤ b) :
    (mittel ws).toNat ≤ b := by
  have hdiv : summe ws / ws.length ≤ b := Nat.div_le_of_le_mul (summe_le h)
  rw [mittel, UInt16.toNat_ofNat', Nat.mod_eq_of_lt (by omega)]
  exact hdiv

/-- **What is sent is the mean of the window**, in whatever order the ring holds it. -/
theorem getOutputValue_eq (f : TFloatAvgFilter) : getOutputValue f = mittel f.werte := by
  have hlen : f.aData.length = 30 := f.length_aData
  have hsum : summe f.werte = summe f.aData := summe_perm (List.rotate_perm f.aData _)
  have htemp := tempSum_toNat f.aData 0 (by rw [hlen]; decide)
  rw [mittel, hsum, f.length_werte]
  apply UInt16.toNat_inj.mp
  rw [getOutputValue, UInt32.toNat_toUInt16, UInt32.toNat_div, htemp, UInt16.toNat_ofNat',
    UInt32.toNat_zero, Nat.zero_add]
  rfl

/-! ## The sensor -/

/-- `eds_helligkeitssensor_block_t`, without the feature, which is not used. -/
structure EdsHelligkeitssensorBlock where
  port : UInt8
  gruppe : UInt8
  sendCycleMins : UInt8
deriving DecidableEq, Repr

/-- `(uint16_t) 60 * p->config.sendCycleMins` -/
def EdsHelligkeitssensorBlock.sendezyklus (c : EdsHelligkeitssensorBlock) : UInt16 :=
  60 * c.sendCycleMins.toUInt16

/-- `device_data_helligkeitssensor` -/
structure DeviceDataHelligkeitssensor where
  config : EdsHelligkeitssensorBlock
  secsUntilNextSend : UInt16
  filterBrightness : TFloatAvgFilter

/-- What the functions of a sensor read and write. -/
abbrev SensorIO := AnalogIO DeviceDataHelligkeitssensor

/-- `getADCvalue_inverted` -/
def getADCvalueInverted (m : Messung) : UInt16 := UInt16.ofNat (1023 - m.adcResult)

/-- `setADMUX`, with `helligkeitssensor-port=%d. Richtig waere IN8 bis IN15.` -/
abbrev setADMUX (configPort : UInt8) (s : SensorIO) : SensorIO := Adc.setADMUX configPort s

/-- `helligkeitssensor_init` -/
def helligkeitssensorInit (c : EdsHelligkeitssensorBlock) : DeviceDataHelligkeitssensor where
  config := c
  secsUntilNextSend := c.sendezyklus
  filterBrightness := initFloatAvg 511

/-- The report of a sensor. -/
def helligkeitsInfo (selfaddr : UInt16) (gruppe : UInt8) (average : UInt16) : CanixFrame :=
  sfpFrame selfaddr hcanMulticastControl
    [hcanSrvHes, hcanHesHelligkeitsInfo, gruppe, hiByte average.toNat, loByte average.toNat]

/-- `addToFloatAvg(&(p->filterBrightness), getADCvalue_inverted())` -/
def DeviceDataHelligkeitssensor.messen (p : DeviceDataHelligkeitssensor) (m : Messung) :
    DeviceDataHelligkeitssensor :=
  { p with filterBrightness := addToFloatAvg p.filterBrightness (getADCvalueInverted m) }

/-- `helligkeitssensor_timer_handler`, and the frames it sends. -/
def helligkeitssensorTimerHandler (selfaddr : UInt16) (wandler : UInt8 → Messung)
    (s : SensorIO) (zyklus : UInt8) : SensorIO × List CanixFrame :=
  if zyklus ≠ 1 then (s, [])
  else if s.dev.secsUntilNextSend ≠ 0 then
    let s := { s with dev := { s.dev with secsUntilNextSend := s.dev.secsUntilNextSend - 1 } }
    if s.dev.secsUntilNextSend ≤ 30 then
      let s := setADMUX s.dev.config.port s
      ({ s with dev := s.dev.messen (wandler s.admux) }, [])
    else (s, [])
  else
    let currentADCaverage := getOutputValue s.dev.filterBrightness
    ({ s with dev := { s.dev with secsUntilNextSend := s.dev.config.sendezyklus } },
      [helligkeitsInfo selfaddr s.dev.config.gruppe currentADCaverage])

def sensorStep (selfaddr : UInt16) (s : SensorIO) : AnalogEvent → SensorIO × List CanixFrame
  | .timer zyklus wandler => helligkeitssensorTimerHandler selfaddr wandler s zyklus
  | .canCallback _ => (s, [])
  | .admux v => ({ s with admux := v }, [])

/-- A sensor after a start of the board. -/
def sensorStart (c : EdsHelligkeitssensorBlock) (admux : UInt8) : SensorIO :=
  ⟨helligkeitssensorInit c, admux, []⟩

theorem getADCvalueInverted_le (m : Messung) : (getADCvalueInverted m).toNat ≤ 1023 := by
  rw [getADCvalueInverted, UInt16.toNat_ofNat', Nat.mod_eq_of_lt]
  · exact Nat.sub_le 1023 _
  · omega

theorem sendezyklus_toNat (c : EdsHelligkeitssensorBlock) :
    c.sendezyklus.toNat = 60 * c.sendCycleMins.toNat := by
  have hlt := c.sendCycleMins.toNat_lt
  rw [EdsHelligkeitssensorBlock.sendezyklus, UInt16.toNat_mul, UInt8.toNat_toUInt16]
  exact Nat.mod_eq_of_lt (by show 60 * c.sendCycleMins.toNat < 2 ^ 16; omega)

/-! ## What a sensor is for -/

/-- The values a report is the mean of, from those since the last report. Without a
cycle nothing is ever measured. -/
def fenster (mins : Nat) (laufend : List UInt16) : List UInt16 :=
  if mins = 0 then List.replicate sizeOfAvg 511 else laufend.drop (60 * mins - sizeOfAvg)

/-- A second, with the brightness in it. When all of a cycle have been counted, the
next one makes the report. -/
def berichtStep (mins : Nat) (laufend : List UInt16) (v : UInt16) : List UInt16 × List UInt16 :=
  if laufend.length = 60 * mins then ([], [mittel (fenster mins laufend)])
  else (laufend ++ [v], [])

/-- The brightness at the port, in each second. -/
def messwerte (c : EdsHelligkeitssensorBlock) : AnalogEvent → List UInt16 :=
  messreihe 1 getADCvalueInverted c.port

/-- The reports come every `60 * mins + 1` seconds. -/
theorem length_berichte (mins : Nat) (vs laufend : List UInt16)
    (h : laufend.length ≤ 60 * mins) :
    (emit (berichtStep mins) laufend vs).2.length =
      (laufend.length + vs.length) / (60 * mins + 1) := by
  induction vs generalizing laufend with
  | nil =>
      rw [emit_nil, List.length_nil, Nat.add_zero]
      exact (Nat.div_eq_of_lt (Nat.lt_succ_of_le h)).symm
  | cons v vs ih =>
      rw [emit_cons, List.length_append]
      by_cases hvoll : laufend.length = 60 * mins
      · simp only [berichtStep, hvoll, if_true]
        rw [ih [] (Nat.zero_le _)]
        have hsum : 60 * mins + (v :: vs).length = vs.length + (60 * mins + 1) := by
          rw [List.length_cons]
          omega
        rw [hsum, Nat.add_div_right _ (Nat.succ_pos _), List.length_nil, Nat.zero_add]
        exact Nat.add_comm 1 _
      · simp only [berichtStep, hvoll, if_false]
        rw [ih (laufend ++ [v]) (by rw [List.length_append, List.length_singleton]; omega)]
        simp only [List.length_nil, List.length_append, List.length_cons, Nat.zero_add]
        congr 1
        omega

/-! ## A sensor keeps to it -/

/-- The sensor in the middle of a cycle: the ring has been fed with the last of the
values since the report, however it was filled before. -/
structure Misst (c : EdsHelligkeitssensorBlock) (s : SensorIO) (laufend : List UInt16) : Prop where
  config : s.dev.config = c
  secs : s.dev.secsUntilNextSend.toNat + laufend.length = 60 * c.sendCycleMins.toNat
  nie : c.sendCycleMins.toNat = 0 →
    s.dev.filterBrightness.werte = List.replicate sizeOfAvg 511
  werte : ∃ w : List UInt16, w.length = sizeOfAvg ∧ s.dev.filterBrightness.werte =
    (laufend.drop (60 * c.sendCycleMins.toNat - 31)).foldl slide w

variable {c : EdsHelligkeitssensorBlock} {s : SensorIO} {laufend : List UInt16}

theorem misst_start (c : EdsHelligkeitssensorBlock) (admux : UInt8) :
    Misst c (sensorStart c admux) [] where
  config := rfl
  secs := sendezyklus_toNat c
  nie := fun _ => List.rotate_zero _
  werte := ⟨_, TFloatAvgFilter.length_werte _, by rw [List.drop_nil]; rfl⟩

/-- **The report**: when the cycle is over, the ring holds the window and nothing else. -/
theorem Misst.bericht (h : Misst c s laufend)
    (hvoll : laufend.length = 60 * c.sendCycleMins.toNat) :
    getOutputValue s.dev.filterBrightness = mittel (fenster c.sendCycleMins.toNat laufend) := by
  rw [getOutputValue_eq, fenster]
  split_ifs with hnull
  · rw [h.nie hnull]
  · obtain ⟨w, hw, hwerte⟩ := h.werte
    have hlen : (laufend.drop (60 * c.sendCycleMins.toNat - 31)).length = 31 := by
      rw [List.length_drop, hvoll]
      omega
    have hne : w ≠ [] := List.ne_nil_of_length_pos (by rw [hw]; exact Nat.succ_pos 29)
    -- one value more was measured than the ring holds
    rw [hwerte, foldl_slide_full hne (by rw [hlen, hw]; decide), hlen, hw, List.drop_drop]
    congr 2
    show 60 * c.sendCycleMins.toNat - 31 + (31 - 30) = 60 * c.sendCycleMins.toNat - 30
    omega

/-- The report starts the next cycle. -/
theorem Misst.neu (h : Misst c s laufend) :
    Misst c { s with dev := { s.dev with secsUntilNextSend := s.dev.config.sendezyklus } } [] where
  config := h.config
  secs := by
    show s.dev.config.sendezyklus.toNat + 0 = _
    rw [h.config, sendezyklus_toNat, Nat.add_zero]
  nie := h.nie
  werte := ⟨_, TFloatAvgFilter.length_werte _, by rw [List.drop_nil]; rfl⟩

/-- A second of the cycle, with a measurement if it is one of the last. -/
theorem Misst.sekunde (h : Misst c s laufend) (hport : 8 ≤ c.port ∧ c.port ≤ 15)
    (hsecs : s.dev.secsUntilNextSend ≠ 0) (selfaddr : UInt16) (wandler : UInt8 → Messung) :
    Misst c (helligkeitssensorTimerHandler selfaddr wandler s 1).1
        (laufend ++ [getADCvalueInverted (wandler (kanal c.port))]) ∧
      (helligkeitssensorTimerHandler selfaddr wandler s 1).2 = [] := by
  obtain ⟨rfl, hcount, hnie, w, hw, hwerte⟩ := h
  have hpos := toNat_ne_zero hsecs
  have hnull : s.dev.config.sendCycleMins.toNat ≠ 0 := by omega
  have hnext := toNat_sub_one hsecs
  have hcount' : (s.dev.secsUntilNextSend - 1).toNat +
      (laufend ++ [getADCvalueInverted (wandler (kanal s.dev.config.port))]).length =
        60 * s.dev.config.sendCycleMins.toNat := by
    rw [List.length_append, List.length_singleton]
    omega
  -- measured in the last 31 seconds only, and not before
  by_cases hmisst : s.dev.secsUntilNextSend - 1 ≤ 30
  · have hle : (s.dev.secsUntilNextSend - 1).toNat ≤ 30 := UInt16.le_iff_toNat_le.mp hmisst
    simp only [helligkeitssensorTimerHandler, ne_eq, not_true_eq_false, if_false, hsecs,
      not_false_eq_true, if_true, hmisst,
      Adc.setADMUX_of_port hport]
    refine ⟨⟨rfl, hcount', fun h => absurd h hnull, w, hw, ?_⟩, trivial⟩
    show (addToFloatAvg s.dev.filterBrightness _).werte = _
    rw [TFloatAvgFilter.werte_add, hwerte, List.drop_append_of_le_length (by omega),
      List.foldl_append]
    rfl
  · have hgt : 30 < (s.dev.secsUntilNextSend - 1).toNat :=
      Nat.lt_of_not_le fun hle => hmisst (UInt16.le_iff_toNat_le.mpr hle)
    simp only [helligkeitssensorTimerHandler, ne_eq, not_true_eq_false, if_false, hsecs,
      not_false_eq_true, if_true, hmisst]
    refine ⟨⟨rfl, hcount', fun h => absurd h hnull, w, hw, ?_⟩, trivial⟩
    rw [List.length_append, List.length_singleton] at hcount'
    rw [List.drop_eq_nil_of_le (by rw [List.length_append, List.length_singleton]; omega)]
    rw [List.drop_eq_nil_of_le (by omega)] at hwerte
    exact hwerte

/-- **The step**: an event does to the sensor what its second does to the cycle. -/
theorem misst_step (selfaddr : UInt16) (hport : 8 ≤ c.port ∧ c.port ≤ 15)
    (s : SensorIO) (laufend : List UInt16) (e : AnalogEvent) (h : Misst c s laufend) :
    Misst c (sensorStep selfaddr s e).1
        (emit (berichtStep c.sendCycleMins.toNat) laufend (messwerte c e)).1 ∧
      (sensorStep selfaddr s e).2 =
        (emit (berichtStep c.sendCycleMins.toNat) laufend (messwerte c e)).2.map
          (helligkeitsInfo selfaddr c.gruppe) := by
  cases e with
  | canCallback frame => exact ⟨h, rfl⟩
  | admux v => exact ⟨⟨h.config, h.secs, h.nie, h.werte⟩, rfl⟩
  | timer zyklus wandler =>
      by_cases hz : zyklus = 1
      · subst hz
        simp only [messwerte, messreihe, if_true, emit_cons, emit_nil, List.append_nil, sensorStep]
        by_cases hsecs : s.dev.secsUntilNextSend = 0
        · have hzero : s.dev.secsUntilNextSend.toNat = 0 := by rw [hsecs]; rfl
          -- the second of the report: nothing is measured in it
          have hvoll : laufend.length = 60 * c.sendCycleMins.toNat := by
            have hcount := h.secs
            omega
          simp only [helligkeitssensorTimerHandler, hsecs, ne_eq, not_true_eq_false, if_false,
            berichtStep, hvoll, if_true]
          refine ⟨h.neu, ?_⟩
          rw [List.map_singleton, h.config, h.bericht hvoll]
        · have hoffen : laufend.length ≠ 60 * c.sendCycleMins.toNat := by
            have hcount := h.secs
            have hpos := toNat_ne_zero hsecs
            omega
          simp only [berichtStep, hoffen, if_false, List.map_nil]
          exact h.sekunde hport hsecs selfaddr wandler
      · simp only [messwerte, messreihe, hz, if_false, emit_nil, List.map_nil, sensorStep,
          helligkeitssensorTimerHandler, ne_eq, not_false_eq_true, if_true]
        exact ⟨h, trivial⟩

/-- **A sensor reports the mean of the last 30 seconds, at the end of each cycle**: in
every run, whatever else the board does, the frames of a sensor at IN8 to IN15 are the
reports of the brightness at its port, one every `60 * sendCycleMins + 1` seconds. -/
theorem helligkeit_gemittelt (selfaddr : UInt16) (c : EdsHelligkeitssensorBlock)
    (hport : 8 ≤ c.port ∧ c.port ≤ 15) (admux : UInt8) (es : List AnalogEvent) :
    let berichte := (emit (berichtStep c.sendCycleMins.toNat) [] (es.flatMap (messwerte c))).2
    (emit (sensorStep selfaddr) (sensorStart c admux) es).2 =
        berichte.map (helligkeitsInfo selfaddr c.gruppe) ∧
      berichte.length = (es.flatMap (messwerte c)).length / (60 * c.sendCycleMins.toNat + 1) := by
  have hrun := emit_refines (messwerte c) (helligkeitsInfo selfaddr c.gruppe)
    (misst_step selfaddr hport) es _ _ (misst_start c admux)
  have hlen := length_berichte c.sendCycleMins.toNat (es.flatMap (messwerte c)) [] (Nat.zero_le _)
  rw [List.length_nil, Nat.zero_add] at hlen
  exact ⟨hrun.2, hlen⟩

/-- It gets bright in the middle of a minute. -/
def morgens : List AnalogEvent :=
  List.replicate 30 (.timer 1 (nurADC0 1000#10)) ++ List.replicate 31 (.timer 1 (nurADC0 23#10))

theorem helligkeit_gemittelt_morgens :
    (emit (sensorStep 5) (sensorStart ⟨15, 7, 1⟩ 0) morgens).2 = [helligkeitsInfo 5 7 1000] := by
  have hfrueh := (helligkeit_gemittelt 5 ⟨15, 7, 1⟩ (by decide) 0 morgens).1
  have hmittel : (emit (berichtStep 1) [] (morgens.flatMap (messwerte ⟨15, 7, 1⟩))).2 = [1000] := by
    decide
  exact hfrueh.trans (congrArg (List.map (helligkeitsInfo 5 7)) hmittel)

/-! ## The automat that hears of it -/

/-- Nothing but brightnesses of ten bits is in the ring, and has been sent. -/
structure ZehnBit (selfaddr : UInt16) (c : EdsHelligkeitssensorBlock) (s : SensorIO)
    (past : List CanixFrame) : Prop where
  config : s.dev.config = c
  werte : ∀ v ∈ s.dev.filterBrightness.werte, v.toNat ≤ 1023
  past : ∀ f ∈ past, ∃ v : UInt16, v.toNat ≤ 1023 ∧ f = helligkeitsInfo selfaddr c.gruppe v

theorem zehnBit_start (selfaddr : UInt16) (c : EdsHelligkeitssensorBlock) (admux : UInt8) :
    ZehnBit selfaddr c (sensorStart c admux) [] where
  config := rfl
  werte := by
    intro v hv
    have hmem : v ∈ List.replicate sizeOfAvg (511 : UInt16) := List.mem_rotate.mp hv
    rw [List.eq_of_mem_replicate hmem]
    decide
  past := fun f hf => absurd hf List.not_mem_nil

theorem ZehnBit.messen {selfaddr : UInt16} {past : List CanixFrame}
    (h : ZehnBit selfaddr c s past) (m : Messung) :
    ∀ v ∈ (s.dev.messen m).filterBrightness.werte, v.toNat ≤ 1023 := by
  intro v hv
  have hslide : v ∈ slide s.dev.filterBrightness.werte (getADCvalueInverted m) := by
    rw [← TFloatAvgFilter.werte_add]
    exact hv
  rcases List.mem_append.mp hslide with halt | hneu
  · exact h.werte v (List.mem_of_mem_tail halt)
  · rw [List.mem_singleton.mp hneu]
    exact getADCvalueInverted_le m

theorem zehnBit_step (selfaddr : UInt16) (s : SensorIO) (past : List CanixFrame)
    (e : AnalogEvent) (h : ZehnBit selfaddr c s past) :
    ZehnBit selfaddr c (sensorStep selfaddr s e).1 (past ++ (sensorStep selfaddr s e).2) := by
  cases e with
  | canCallback frame => exact ⟨h.config, h.werte, by simpa [sensorStep] using h.past⟩
  | admux v => exact ⟨h.config, h.werte, by simpa [sensorStep] using h.past⟩
  | timer zyklus wandler =>
      simp only [sensorStep, helligkeitssensorTimerHandler]
      split_ifs with hz hsecs hmisst
      · exact ⟨h.config, h.werte, by simpa using h.past⟩
      · refine ⟨?_, ?_, by simpa using h.past⟩
        · show (setADMUX _ _).dev.config = c
          rw [Adc.setADMUX_dev]
          exact h.config
        · simp only [Adc.setADMUX_dev]
          exact h.messen _
      · exact ⟨h.config, h.werte, by simpa using h.past⟩
      · refine ⟨h.config, h.werte, fun f hf => ?_⟩
        rcases List.mem_append.mp hf with halt | hneu
        · exact h.past f halt
        · refine ⟨_, ?_, (List.mem_singleton.mp hneu).trans (by rw [h.config])⟩
          rw [getOutputValue_eq]
          exact mittel_le (by decide) h.werte

/-- The frame says how bright it is where the automat looks. -/
def Meldet (a : EdsRolladenAutomatBlock) (f : CanixFrame) : Prop :=
  f.byte 2 = a.helligkeitsGruppe ∧ f.byte 1 = hcanHesHelligkeitsInfo

/-- The brightness of an automat is the mark of the start, or of a report it has heard. -/
theorem helligkeit_cases (a : EdsRolladenAutomatBlock) (past : List AutomatEvent) :
    (helligkeit a past = 65535 ∧ ∀ f, .frame f ∈ past → ¬ Meldet a f) ∨
      ∃ f, .frame f ∈ past ∧ Meldet a f ∧
        helligkeit a past = UInt16.ofNat (word (f.byte 3) (f.byte 4)) := by
  induction past with
  | nil => exact .inl ⟨rfl, fun f hf => absurd hf List.not_mem_nil⟩
  | cons e past ih =>
      have hweiter (hfremd : ∀ f, e = .frame f → ¬ Meldet a f)
          (hgleich : helligkeit a (e :: past) = helligkeit a past) :
          (helligkeit a (e :: past) = 65535 ∧ ∀ f, .frame f ∈ e :: past → ¬ Meldet a f) ∨
            ∃ f, .frame f ∈ e :: past ∧ Meldet a f ∧
              helligkeit a (e :: past) = UInt16.ofNat (word (f.byte 3) (f.byte 4)) := by
        rw [hgleich]
        obtain ⟨hstart, hnie⟩ | ⟨f, hmem, hf⟩ := ih
        · refine .inl ⟨hstart, fun f hf => ?_⟩
          rcases List.mem_cons.mp hf with hhier | hfrueher
          · exact hfremd f hhier.symm
          · exact hnie f hfrueher
        · exact .inr ⟨f, List.mem_cons_of_mem e hmem, hf⟩
      cases e with
      | tick u => exact hweiter (fun f hf => absurd hf (by simp)) rfl
      | frame f =>
          by_cases hf : f.byte 2 = a.helligkeitsGruppe ∧ f.byte 1 = hcanHesHelligkeitsInfo
          · exact .inr ⟨f, List.mem_cons_self, hf, if_pos hf⟩
          · refine hweiter (fun g hg => ?_) (if_neg hf)
            obtain rfl := AutomatEvent.frame.inj hg
            exact hf

/-- **An automat knows whether it has heard how bright it is**: in every run of an
automat whose reports come from a sensor, its brightness is the mark of the start as
long as no report has come, and the ten bits of a report then, which never are the mark. -/
theorem automat_kennt_helligkeit (a : EdsRolladenAutomatBlock) (hsensor : a.helligkeitsGruppe ≠ 255)
    (es : List AutomatEvent) (addr : UInt16) {selfaddr : UInt16} {c : EdsHelligkeitssensorBlock}
    {admux : UInt8} {xs : List AnalogEvent}
    (hquelle : ∀ f, .frame f ∈ es → Meldet a f →
      f ∈ (emit (sensorStep selfaddr) (sensorStart c admux) xs).2) :
    let brightness := (run (automatStep addr) (automatStart a) es).dev.brightness
    (brightness = 65535 ∧ ∀ f, .frame f ∈ es → ¬ Meldet a f) ∨
      ∃ v, .frame (helligkeitsInfo selfaddr c.gruppe v) ∈ es ∧ brightness = v ∧
        brightness ≠ 65535 ∧ v.toNat ≤ 1023 := by
  have hinv := @run_invariant _ _ (recorded (automatStep addr)) (AutomatInv a)
    (fun k e h => h.step hsensor e) es _ automatInv_start
  rw [run_recorded, List.append_nil] at hinv
  have hzehn := emit_invariant (zehnBit_step (c := c) selfaddr) xs _ _
    (zehnBit_start selfaddr c admux)
  intro brightness
  have hbrightness : brightness = helligkeit a es.reverse := hinv.brightness
  rw [hbrightness]
  obtain ⟨hstart, hnie⟩ | ⟨f, hmem, hf, hwert⟩ := helligkeit_cases a es.reverse
  · exact .inl ⟨hstart, fun f hf => hnie f (List.mem_reverse.mpr hf)⟩
  · have hes := List.mem_reverse.mp hmem
    obtain ⟨v, hv, rfl⟩ := hzehn.past f (hquelle f hes hf)
    have hword : UInt16.ofNat (word ((helligkeitsInfo selfaddr c.gruppe v).byte 3)
        ((helligkeitsInfo selfaddr c.gruppe v).byte 4)) = v := by
      rw [helligkeitsInfo, sfpFrame_byte _ _ _ (by decide), sfpFrame_byte _ _ _ (by decide)]
      exact Adc.ofNat_word v
    rw [hword] at hwert
    refine .inr ⟨v, hes, hwert, fun hmark => ?_, hv⟩
    rw [← hwert, hmark] at hv
    exact absurd hv (by decide)

/-- The automat drives when it is brighter than 100. -/
def abHundert : EdsRolladenAutomatBlock := ⟨1, 0, 2, 255, 255, 7, 100, 1⟩

theorem automat_kennt_helligkeit_ohneZyklus :
    ∃ v : UInt16, AutomatEvent.frame (helligkeitsInfo 5 7 v) ∈
        [AutomatEvent.frame (helligkeitsInfo 5 7 511)] ∧
      (run (automatStep 9) (automatStart abHundert)
        [.frame (helligkeitsInfo 5 7 511)]).dev.brightness = v ∧
      (run (automatStep 9) (automatStart abHundert)
        [.frame (helligkeitsInfo 5 7 511)]).dev.brightness ≠ 65535 ∧ v.toNat ≤ 1023 := by
  have hsent : (emit (sensorStep 5) (sensorStart ⟨15, 7, 0⟩ 0) [.timer 1 (nurADC0 0#10)]).2 =
      [helligkeitsInfo 5 7 511] := by
    decide
  have hquelle : ∀ f, AutomatEvent.frame f ∈ [AutomatEvent.frame (helligkeitsInfo 5 7 511)] →
      Meldet abHundert f →
      f ∈ (emit (sensorStep 5) (sensorStart ⟨15, 7, 0⟩ 0) [.timer 1 (nurADC0 0#10)]).2 := by
    intro f hf _
    rw [hsent, AutomatEvent.frame.inj (List.mem_singleton.mp hf)]
    exact List.mem_singleton_self _
  obtain ⟨-, hnie⟩ | hgehoert :=
    automat_kennt_helligkeit abHundert (by decide) [.frame (helligkeitsInfo 5 7 511)] 9 hquelle
  · exact absurd ⟨by decide, by decide⟩ (hnie _ List.mem_cons_self)
  · exact hgehoert

end OpenHcan.Helligkeitssensor
