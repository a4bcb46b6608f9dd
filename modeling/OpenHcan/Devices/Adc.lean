import OpenHcan.Canix.Frame

/-!
# Adc — the analog inputs

A sensor at an analog input sets the multiplexer that the sensors of a board share to
its port, lets the ADC warm up, and adds up four conversions. What the channels would
convert to is part of a call. The sensors that are read in this way differ in what
they keep, and in what they make of a measurement.
-/

namespace OpenHcan.Adc

/-- The conversions of a measurement that are added up: ADCW has 10 bits. -/
structure Messung where
  eins : BitVec 10
  zwei : BitVec 10
  drei : BitVec 10
  vier : BitVec 10

/-- `ADCresult >> 2`. The sum of the four fits into an `int16_t`. -/
def Messung.adcResult (m : Messung) : Nat :=
  (m.eins.toNat + m.zwei.toNat + m.drei.toNat + m.vier.toNat) / 4

/-- `(1<<REFS0) | n`, with ADC0 at IN15 and ADC7 at IN8. -/
def kanal (configPort : UInt8) : UInt8 := 64 ||| (15 - configPort)

/-- What the functions of a sensor read and write: its data, ADMUX, and the ports for
which it was written that IN8 to IN15 would be right. -/
structure AnalogIO (δ : Type) where
  dev : δ
  admux : UInt8
  portFehler : List UInt8

variable {δ : Type}

/-- `setADMUX` -/
def setADMUX (configPort : UInt8) (s : AnalogIO δ) : AnalogIO δ :=
  if 8 ≤ configPort ∧ configPort ≤ 15 then { s with admux := kanal configPort }
  else { s with portFehler := s.portFehler ++ [configPort] }

theorem setADMUX_dev (configPort : UInt8) (s : AnalogIO δ) :
    (setADMUX configPort s).dev = s.dev := by
  unfold setADMUX
  split
  · rfl
  · rfl

theorem setADMUX_of_port {configPort : UInt8} (h : 8 ≤ configPort ∧ configPort ≤ 15)
    (s : AnalogIO δ) : setADMUX configPort s = { s with admux := kanal configPort } :=
  if_pos h

/-- A call of the timer handler, with what each channel would convert to; a frame; or
another sensor of the board sets the multiplexer. -/
inductive AnalogEvent
  | timer (zyklus : UInt8) (wandler : UInt8 → Messung)
  | canCallback (frame : CanixFrame)
  | admux (v : UInt8)

/-- What a sensor at a port makes of the measurements, in the calls of its own cycle. -/
def messreihe (eigener : UInt8) (wert : Messung → UInt16) (configPort : UInt8) :
    AnalogEvent → List UInt16
  | .timer zyklus wandler => if zyklus = eigener then [wert (wandler (kanal configPort))] else []
  | .canCallback _ | .admux _ => []

/-- A listener reads the value back from its two bytes. -/
theorem ofNat_word (v : UInt16) : UInt16.ofNat (word (hiByte v.toNat) (loByte v.toNat)) = v := by
  rw [word_hiByte_loByte v.toNat_lt, UInt16.ofNat_toNat]

/-- ADC0 converts to `adc`, the other channels to nothing. -/
def nurADC0 (adc : BitVec 10) (admux : UInt8) : Messung :=
  if admux = 64 then ⟨adc, adc, adc, adc⟩ else ⟨0#10, 0#10, 0#10, 0#10⟩

end OpenHcan.Adc
