import OpenHcan.Devices.Timeservice

/-!
# Dcf77Receiver — the time from the radio (`dcf77_receiver.c`)

A receiver looks at its input every 10 ms. It measures the pulses and the
periods between their beginnings; a short pulse is a 0, a long one a 1, and a
period of two seconds begins a minute. The bits of the seconds 21 to 58 are
added to `newtime` as they come, which is published at the end of the minute
if no error has been seen.

`inputport_read` gives 0 or the bit of the port: an input is a `Bool`.
-/

namespace OpenHcan.Dcf77

open Lib Timeservice

set_option maxRecDepth 100000

def hcanHesDcf77Error : UInt8 := 98
def hcanHesDcf77PulseDuration : UInt8 := 99

def dcf77NoSignal : UInt8 := 0x80
def dcf77IllegalPeriodLength : UInt8 := 0x40
def dcf77IllegalPulseLength : UInt8 := 0x20
def dcf77ParityError : UInt8 := 0x10

def ticksPerSecond : Nat := 100
def ticksZero : Nat := 10
def ticksOne : Nat := 20
def tickError : Nat := 2

/-- `eds_dcf77_receiver_block_t`, without the port, which is the input of a tick. -/
structure EdsDcf77ReceiverBlock where
  level : UInt8
  takeoverTime : UInt16
  id : UInt8
  enableErrorReporting : UInt8
deriving DecidableEq, Repr

/-- The cells of the device that `decode_dcf77` reads and writes. -/
structure Dcf77Decoder where
  newtime : RtcClock
  parity : UInt8
  dcf77error : UInt8
deriving DecidableEq, Repr

/-- `device_data_dcf77_receiver` -/
structure DeviceDataDcf77Receiver where
  config : EdsDcf77ReceiverBlock
  lastTimeFrameReceived : UInt8
  lastTimeFrameSent : UInt8
  decoder : Dcf77Decoder
  time : RtcClock
  timeflags : UInt8
  dcf77Pulse : UInt8
  dcf77Period : UInt8
  ct100Hz : UInt8
  reportedDcf77errors : UInt8
  reportedMinute : UInt8
  validFlag : UInt8
  reportFlag : UInt8
  dcf77Time : UInt8
  dcf77InputOld : Bool
deriving DecidableEq, Repr

/-- What the functions of a receiver read and write: its data and the frames the board
has sent. -/
structure Dcf77IO where
  dev : DeviceDataDcf77Receiver
  sent : List CanixFrame
deriving DecidableEq, Repr

/-- `dcf77_receiver_init`. The seconds of `newtime` are not written here. -/
def dcf77ReceiverInit (p : DeviceDataDcf77Receiver) : DeviceDataDcf77Receiver :=
  { p with
    lastTimeFrameReceived := 0
    decoder := ⟨p.decoder.newtime, 0, 0⟩
    reportedDcf77errors := 0
    time := { p.time with second := 0 }
    timeflags := 0
    dcf77Pulse := 0
    dcf77Period := 0
    ct100Hz := 0
    reportedMinute := 255
    validFlag := 0
    reportFlag := 0
    dcf77Time := 0
    dcf77InputOld := false }

/-! ## `dcf77_handler` -/

/-- The count of the ticks, which stops at 255. -/
def zeitZaehlen (p : DeviceDataDcf77Receiver) : DeviceDataDcf77Receiver :=
  if p.dcf77Time ≠ 0xFF then { p with dcf77Time := p.dcf77Time + 1 }
  else { p with decoder := { p.decoder with dcf77error := p.decoder.dcf77error ||| dcf77NoSignal } }

/-- A new level of the input: a pulse begins, or it ends. -/
def flankeMessen (p : DeviceDataDcf77Receiver) (input : Bool) : DeviceDataDcf77Receiver :=
  if input ≠ p.dcf77InputOld then
    if input then { p with dcf77InputOld := input, dcf77Period := p.dcf77Time, dcf77Time := 0 }
    else { p with dcf77InputOld := input, dcf77Pulse := p.dcf77Time }
  else p

/-- The ticks of a second: bit 0 of `timeflags` is `ONE_TICK`, bit 1 is `ONE_SECOND`. -/
def takt (p : DeviceDataDcf77Receiver) : DeviceDataDcf77Receiver :=
  if (p.ct100Hz + 1).toNat < ticksPerSecond then { p with ct100Hz := p.ct100Hz + 1, timeflags := 1 }
  else { p with ct100Hz := 0, timeflags := 3 }

/-- The report of the length of a pulse, when one has ended. -/
def pulsMelden (selfaddr : UInt16) (p : DeviceDataDcf77Receiver) (input : Bool) : List CanixFrame :=
  if input ≠ p.dcf77InputOld ∧ input = false ∧ p.config.enableErrorReporting ≠ 0 then
    [sfpFrame selfaddr hcanMulticastInfo
      [hcanSrvHes, hcanHesDcf77PulseDuration, p.config.id, p.dcf77Time]]
  else []

/-- `dcf77_handler` -/
def dcf77Handler (selfaddr : UInt16) (input : Bool) (s : Dcf77IO) : Dcf77IO :=
  let p := zeitZaehlen s.dev
  ⟨takt (flankeMessen p input), s.sent ++ pulsMelden selfaddr p input⟩

/-! ## `decode_dcf77` -/

/-- `BITNO`: the place of each bit from second 21 on, and 0xFF for the parity bits. -/
def bitno : List UInt8 :=
  [0x20, 0x21, 0x22, 0x23, 0x24, 0x25, 0x26, 0xFF,
    0x10, 0x11, 0x12, 0x13, 0x14, 0x15, 0xFF,
    0x50, 0x51, 0x52, 0x53, 0x54, 0x55,
    0x00, 0x01, 0x02,
    0x60, 0x61, 0x62, 0x63, 0x64,
    0x70, 0x71, 0x72, 0x73, 0x74, 0x75, 0x76, 0x77, 0xFF]

/-- `BMASK`: the values of the bits. -/
def bmask : List UInt8 := [1, 2, 4, 8, 10, 20, 40, 80]

/-- A write through `(uint8_t *)&p->newtime.day_of_week + offset`. Offset 4 is
`last_date_update`, which no bit is written to. -/
def updateByte (c : RtcClock) (offset : Nat) (f : UInt8 → UInt8) : RtcClock :=
  match offset with
  | 0 => { c with dayOfWeek := f c.dayOfWeek }
  | 1 => { c with hour := f c.hour }
  | 2 => { c with minute := f c.minute }
  | 3 => { c with second := f c.second }
  | 5 => { c with dayOfMonth := f c.dayOfMonth }
  | 6 => { c with monthOfYear := f c.monthOfYear }
  | 7 => { c with year := f c.year }
  | _ => c

/-- A bit goes to its byte. The first one clears the byte. -/
def bitSchreiben (i pulse d : UInt8) : UInt8 :=
  let d := if i = 0 then 0 else d
  if pulse ≠ 0 then d + bmask.getD i.toNat 0 else d

/-- A bit whose entry in `BITNO` is `i` -/
def decodeEintrag (i pulse : UInt8) (p : Dcf77Decoder) : Dcf77Decoder :=
  let parity := p.parity ^^^ pulse
  if i = 0xFF then
    ⟨p.newtime, 0, if parity ≠ 0 then p.dcf77error ||| dcf77ParityError else p.dcf77error⟩
  else
    ⟨updateByte p.newtime (i >>> 4).toNat (bitSchreiben (i &&& 0x0F) pulse), parity, p.dcf77error⟩

/-- `decode_dcf77` -/
def decodeDcf77 (pulse : UInt8) (p : Dcf77Decoder) : Dcf77Decoder :=
  if (p.newtime.second - 21).toNat ≥ bitno.length then p
  else decodeEintrag (bitno.getD (p.newtime.second - 21).toNat 0) pulse p

/-! ## `scan_dcf77` -/

/-- The bit of a pulse of this length. -/
def pulsBit (puls : UInt8) : Option Bool :=
  if ticksZero - tickError - 1 < puls.toNat ∧ puls.toNat < ticksZero + tickError + 1 then some false
  else if ticksOne - tickError - 1 < puls.toNat ∧ puls.toNat < ticksOne + tickError + 1 then
    some true
  else none

/-- What the length of a pulse does to the cells of the decoder. -/
def pulsAuswerten (puls : UInt8) (p : Dcf77Decoder) : Dcf77Decoder :=
  match pulsBit puls with
  | some bit => decodeDcf77 (if bit then 1 else 0) p
  | none => { p with dcf77error := p.dcf77error ||| dcf77IllegalPulseLength }

/-- A period with which a minute begins. -/
def minutenanfang (period : UInt8) : Bool :=
  2 * ticksPerSecond - tickError - tickError - 1 < period.toNat ∧
    period.toNat < 2 * ticksPerSecond + tickError + 1

def sekundeZaehlen (p : Dcf77Decoder) : Dcf77Decoder :=
  if p.newtime.second < 60 then
    { p with newtime := { p.newtime with second := p.newtime.second + 1 } }
  else p

/-- A minute without an error has come to its end. -/
def zeitGueltig (p : Dcf77Decoder) : Bool := p.dcf77error = 0 ∧ p.newtime.second = 59

/-- What the length of a period does to the cells of the decoder. -/
def periodeAuswerten (period : UInt8) (p : Dcf77Decoder) : Dcf77Decoder :=
  let p := sekundeZaehlen p
  if minutenanfang period then ⟨{ p.newtime with second := 0 }, p.parity, 0⟩
  else if period.toNat < ticksPerSecond - tickError - 1 ∨
      period.toNat > ticksPerSecond + tickError then
    { p with dcf77error := p.dcf77error ||| dcf77IllegalPeriodLength }
  else p

/-- The time that was received is published, all but its seconds. -/
def zeitUebernehmen (time newtime : RtcClock) : RtcClock :=
  { newtime with second := time.second }

/-- `if( p->dcf77_pulse ) …` -/
def scanPuls (p : DeviceDataDcf77Receiver) : DeviceDataDcf77Receiver :=
  if p.dcf77Pulse ≠ 0 then
    { p with decoder := pulsAuswerten p.dcf77Pulse p.decoder, dcf77Pulse := 0 }
  else p

/-- What the beginning of a minute does to the other cells. -/
def minuteBeginnen (p : DeviceDataDcf77Receiver) : DeviceDataDcf77Receiver :=
  if minutenanfang p.dcf77Period then
    if zeitGueltig (sekundeZaehlen p.decoder) then
      { p with
        validFlag := 1
        ct100Hz := 0
        time := zeitUebernehmen p.time p.decoder.newtime
        reportFlag := 1 }
    else { p with reportFlag := 1 }
  else p

/-- `if( p->dcf77_period ) …` -/
def scanPeriode (p : DeviceDataDcf77Receiver) : DeviceDataDcf77Receiver :=
  if p.dcf77Period ≠ 0 then
    { minuteBeginnen p with
      decoder := periodeAuswerten p.dcf77Period p.decoder
      dcf77Period := 0 }
  else p

/-- `scan_dcf77` -/
def scanDcf77 (p : DeviceDataDcf77Receiver) : DeviceDataDcf77Receiver :=
  scanPeriode (scanPuls { p with reportedDcf77errors := p.decoder.dcf77error })

/-! ## `dcf77_receiver_timer_handler` -/

/-- The frames of a full minute: an error, or the time. -/
def minuteMelden (selfaddr : UInt16) (clock : RtcClock) (s : Dcf77IO) : Dcf77IO :=
  if s.dev.reportedDcf77errors ≠ 0 ∧ s.dev.config.enableErrorReporting ≠ 0 ∧
      clock.minute ≠ s.dev.reportedMinute then
    ⟨{ s.dev with reportedMinute := clock.minute },
      s.sent ++ [sfpFrame selfaddr hcanMulticastInfo
        [hcanSrvHes, hcanHesDcf77Error, s.dev.config.id, s.dev.reportedDcf77errors]]⟩
  else if s.dev.lastTimeFrameReceived.toNat ≥ s.dev.config.takeoverTime.toNat ∧
      s.dev.validFlag ≠ 0 then
    ⟨{ s.dev with lastTimeFrameSent := 0, validFlag := 0 },
      s.sent ++ [timeInfo selfaddr s.dev.config.level s.dev.time,
        dateInfo selfaddr s.dev.config.level s.dev.time]⟩
  else s

/-- `if (p->report_flag) …`, and the end of the tick -/
def berichten (selfaddr : UInt16) (clock : RtcClock) (s : Dcf77IO) : Dcf77IO :=
  let fertig (s : Dcf77IO) : Dcf77IO := ⟨{ s.dev with timeflags := 0 }, s.sent⟩
  if s.dev.reportFlag ≠ 0 then
    fertig (minuteMelden selfaddr clock ⟨{ s.dev with reportFlag := 0 }, s.sent⟩)
  else fertig s

/-- The seconds without a better time frame are counted, up to 255. -/
def empfangZaehlen (p : DeviceDataDcf77Receiver) : DeviceDataDcf77Receiver :=
  if p.lastTimeFrameReceived < 255 ∧ p.timeflags &&& 2 ≠ 0 then
    { p with lastTimeFrameReceived := p.lastTimeFrameReceived + 1 }
  else p

/-- Without a signal it is the clock of the board that begins the minutes. -/
def ersatzminute (clock : RtcClock) (p : DeviceDataDcf77Receiver) : DeviceDataDcf77Receiver :=
  if clock.second = 0 ∧ p.reportedDcf77errors ≥ dcf77NoSignal then { p with reportFlag := 1 } else p

/-- `dcf77_receiver_timer_handler`, in its cycle of 10 ms -/
def dcf77ReceiverTimerHandler (selfaddr : UInt16) (clock : RtcClock) (input : Bool) (s : Dcf77IO) :
    Dcf77IO :=
  let s := dcf77Handler selfaddr input s
  berichten selfaddr clock ⟨ersatzminute clock (empfangZaehlen (scanDcf77 s.dev)), s.sent⟩

/-- The part of `timeservice_can_callback` that is about a receiver. -/
def besserePruefen (frame : CanixFrame) (p : DeviceDataDcf77Receiver) : DeviceDataDcf77Receiver :=
  if frame.byte 1 = hcanRtsTimeInfo ∧ frame.byte 2 < p.config.level then
    { p with lastTimeFrameReceived := 0 }
  else p

/-! ## The machine -/

/-- What `dcf77_handler` has measured: the length of a pulse, or of a period. -/
inductive Flanke
  | puls (n : UInt8)
  | periode (n : UInt8)
deriving DecidableEq, Repr

/-- A tick of 10 ms with the level of the input and the clock of the board, or a frame
for `timeservice_can_callback`. -/
inductive Dcf77Event
  | tick (clock : RtcClock) (input : Bool)
  | frame (f : CanixFrame)
deriving DecidableEq, Repr

/-- What is measured in a tick. -/
def gemessen (selfaddr : UInt16) (input : Bool) (s : Dcf77IO) : List Flanke :=
  let p := (dcf77Handler selfaddr input s).dev
  (if p.dcf77Pulse ≠ 0 then [.puls p.dcf77Pulse] else []) ++
    if p.dcf77Period ≠ 0 then [.periode p.dcf77Period] else []

/-- A receiver beside everything that has been measured, the newest first. -/
def dcf77Step (selfaddr : UInt16) (k : Dcf77IO × List Flanke) : Dcf77Event → Dcf77IO × List Flanke
  | .tick clock input =>
      (dcf77ReceiverTimerHandler selfaddr clock input k.1, gemessen selfaddr input k.1 ++ k.2)
  | .frame f => ({ k.1 with dev := besserePruefen f k.1.dev }, k.2)

/-- A receiver after `devices_load_config`, which clears `device_data` before. -/
def dcf77Start (c : EdsDcf77ReceiverBlock) : Dcf77IO × List Flanke :=
  (⟨dcf77ReceiverInit
    ⟨c, 0, 0, ⟨⟨0, 0, 0, 0, 0, 0, 0⟩, 0, 0⟩, ⟨0, 0, 0, 0, 0, 0, 0⟩, 0, 0, 0, 0, 0, 0, 0, 0, 0,
      false⟩, []⟩, [])

/-- `scan_dcf77` sets `valid_flag` in a tick with this level of the input. -/
def SetztValid (selfaddr : UInt16) (input : Bool) (s : Dcf77IO) : Prop :=
  (scanDcf77 { (dcf77Handler selfaddr input s).dev with validFlag := 0 }).validFlag = 1

instance (selfaddr : UInt16) (input : Bool) (s : Dcf77IO) :
    Decidable (SetztValid selfaddr input s) := by
  unfold SetztValid
  infer_instance

/-! ## One tick -/

/-- The cells of a receiver that the reception depends on. -/
structure Empfang where
  decoder : Dcf77Decoder
  dcf77Time : UInt8
  dcf77InputOld : Bool
deriving DecidableEq, Repr

def empfang (p : DeviceDataDcf77Receiver) : Empfang := ⟨p.decoder, p.dcf77Time, p.dcf77InputOld⟩

/-- The time of a tick. -/
def Empfang.zeit (x : Empfang) : UInt8 := if x.dcf77Time ≠ 0xFF then x.dcf77Time + 1 else 0xFF

/-- The cells of the decoder in a tick: when the time stands still there is no signal. -/
def Empfang.vorher (x : Empfang) : Dcf77Decoder :=
  if x.dcf77Time ≠ 0xFF then x.decoder
  else { x.decoder with dcf77error := x.decoder.dcf77error ||| dcf77NoSignal }

/-- The reception in a tick: at the beginning of a pulse a period is looked at, at the end
of a pulse its length. -/
def Empfang.tick (x : Empfang) (input : Bool) : Empfang :=
  if input = x.dcf77InputOld then ⟨x.vorher, x.zeit, input⟩
  else if input then ⟨periodeAuswerten x.zeit x.vorher, 0, true⟩
  else ⟨pulsAuswerten x.zeit x.vorher, x.zeit, false⟩

/-- What is measured in a tick. -/
def Empfang.flanken (x : Empfang) (input : Bool) : List Flanke :=
  if input = x.dcf77InputOld then []
  else if input then [.periode x.zeit]
  else [.puls x.zeit]

/-- Between two ticks nothing waits for `scan_dcf77`. -/
structure Ruhig (p : DeviceDataDcf77Receiver) : Prop where
  pulse : p.dcf77Pulse = 0
  period : p.dcf77Period = 0

section

variable {selfaddr : UInt16} {clock : RtcClock} {input : Bool} {s : Dcf77IO}
  {p : DeviceDataDcf77Receiver}

theorem Empfang.zeit_ne_zero (x : Empfang) : x.zeit ≠ 0 := by
  unfold Empfang.zeit
  split
  · rename_i hne
    intro hzero
    apply hne
    rw [← UInt8.toNat_inj] at hzero ⊢
    rw [UInt8.toNat_add] at hzero
    have hlt := x.dcf77Time.toNat_lt
    change (x.dcf77Time.toNat + 1) % 256 = 0 at hzero
    show x.dcf77Time.toNat = 255
    omega
  · decide

/-- The same reception, and the same published time. -/
structure Bleibt (p p' : DeviceDataDcf77Receiver) : Prop where
  empfang : empfang p' = empfang p
  time : p'.time = p.time
  pulse : p'.dcf77Pulse = p.dcf77Pulse
  period : p'.dcf77Period = p.dcf77Period

theorem Bleibt.trans {p p' p'' : DeviceDataDcf77Receiver} (h : Bleibt p p') (h' : Bleibt p' p'') :
    Bleibt p p'' :=
  ⟨h'.empfang.trans h.empfang, h'.time.trans h.time, h'.pulse.trans h.pulse,
    h'.period.trans h.period⟩

theorem Bleibt.ruhig {p p' : DeviceDataDcf77Receiver} (h : Bleibt p p') (hp : Ruhig p) : Ruhig p' :=
  ⟨h.pulse.trans hp.pulse, h.period.trans hp.period⟩

theorem bleibt_empfangZaehlen (p : DeviceDataDcf77Receiver) : Bleibt p (empfangZaehlen p) := by
  unfold empfangZaehlen
  split
  all_goals exact ⟨rfl, rfl, rfl, rfl⟩

theorem bleibt_ersatzminute (clock : RtcClock) (p : DeviceDataDcf77Receiver) :
    Bleibt p (ersatzminute clock p) := by
  unfold ersatzminute
  split
  all_goals exact ⟨rfl, rfl, rfl, rfl⟩

theorem bleibt_minuteMelden (selfaddr : UInt16) (clock : RtcClock) (s : Dcf77IO) :
    Bleibt s.dev (minuteMelden selfaddr clock s).dev := by
  unfold minuteMelden
  split
  · exact ⟨rfl, rfl, rfl, rfl⟩
  · split
    all_goals exact ⟨rfl, rfl, rfl, rfl⟩

theorem bleibt_besserePruefen (f : CanixFrame) (p : DeviceDataDcf77Receiver) :
    Bleibt p (besserePruefen f p) := by
  unfold besserePruefen
  split
  all_goals exact ⟨rfl, rfl, rfl, rfl⟩

theorem bleibt_berichten (selfaddr : UInt16) (clock : RtcClock) (s : Dcf77IO) :
    Bleibt s.dev (berichten selfaddr clock s).dev := by
  unfold berichten
  split
  · have h := bleibt_minuteMelden selfaddr clock ⟨{ s.dev with reportFlag := 0 }, s.sent⟩
    exact ⟨h.empfang, h.time, h.pulse, h.period⟩
  · exact ⟨rfl, rfl, rfl, rfl⟩

/-- What comes after `scan_dcf77` leaves the reception alone. -/
theorem bleibt_timerHandler (selfaddr : UInt16) (clock : RtcClock) (input : Bool) (s : Dcf77IO) :
    Bleibt (scanDcf77 (dcf77Handler selfaddr input s).dev)
      (dcf77ReceiverTimerHandler selfaddr clock input s).dev :=
  ((bleibt_empfangZaehlen _).trans (bleibt_ersatzminute clock _)).trans
    (bleibt_berichten selfaddr clock ⟨_, _⟩)

/-- What `dcf77_handler` does to a receiver. -/
inductive HandlerEffect (input : Bool) (p p' : DeviceDataDcf77Receiver) : Prop
  | ruhe : input = p.dcf77InputOld → p'.dcf77Pulse = 0 → p'.dcf77Period = 0 →
      empfang p' = ⟨(empfang p).vorher, (empfang p).zeit, input⟩ → p'.time = p.time →
      HandlerEffect input p p'
  | anfang : input = true → p.dcf77InputOld = false → p'.dcf77Pulse = 0 →
      p'.dcf77Period = (empfang p).zeit → empfang p' = ⟨(empfang p).vorher, 0, true⟩ →
      p'.time = p.time → HandlerEffect input p p'
  | ende : input = false → p.dcf77InputOld = true → p'.dcf77Pulse = (empfang p).zeit →
      p'.dcf77Period = 0 → empfang p' = ⟨(empfang p).vorher, (empfang p).zeit, false⟩ →
      p'.time = p.time → HandlerEffect input p p'

theorem bleibt_takt (p : DeviceDataDcf77Receiver) : Bleibt p (takt p) := by
  unfold takt
  split
  all_goals exact ⟨rfl, rfl, rfl, rfl⟩

/-- The tick is counted. -/
theorem zeitZaehlen_spec (p : DeviceDataDcf77Receiver) :
    empfang (zeitZaehlen p) = ⟨(empfang p).vorher, (empfang p).zeit, p.dcf77InputOld⟩ ∧
      (zeitZaehlen p).time = p.time ∧ (zeitZaehlen p).dcf77Pulse = p.dcf77Pulse ∧
      (zeitZaehlen p).dcf77Period = p.dcf77Period := by
  unfold zeitZaehlen Empfang.vorher Empfang.zeit
  by_cases h : p.dcf77Time ≠ 0xFF
  · simp [empfang, h]
  · simp [empfang, not_not.mp h]

theorem handler_effect (selfaddr : UInt16) (input : Bool) (h : Ruhig s.dev) :
    HandlerEffect input s.dev (dcf77Handler selfaddr input s).dev := by
  obtain ⟨hempfang, htime, hpulse, hperiod⟩ := zeitZaehlen_spec s.dev
  have htakt := bleibt_takt (flankeMessen (zeitZaehlen s.dev) input)
  change HandlerEffect input s.dev (takt (flankeMessen (zeitZaehlen s.dev) input))
  generalize takt (flankeMessen (zeitZaehlen s.dev) input) = p' at htakt ⊢
  generalize zeitZaehlen s.dev = p at hempfang htime hpulse hperiod htakt
  rw [h.pulse] at hpulse
  rw [h.period] at hperiod
  obtain ⟨hdecoder, hzeit, hold⟩ : p.decoder = (empfang s.dev).vorher ∧
      p.dcf77Time = (empfang s.dev).zeit ∧ p.dcf77InputOld = s.dev.dcf77InputOld := by
    simpa only [empfang, Empfang.mk.injEq] using hempfang
  obtain ⟨hempf, htime', hpulse', hperiod'⟩ := htakt
  unfold flankeMessen at hempf htime' hpulse' hperiod'
  rw [hold] at hempf htime' hpulse' hperiod'
  by_cases hsame : input = s.dev.dcf77InputOld
  · rw [if_neg (not_not_intro hsame)] at hempf htime' hpulse' hperiod'
    exact .ruhe hsame (hpulse'.trans hpulse) (hperiod'.trans hperiod)
      (hempf.trans (hempfang.trans (hsame ▸ rfl))) (htime'.trans htime)
  · rw [if_pos hsame] at hempf htime' hpulse' hperiod'
    cases input with
    | true =>
        rw [if_pos rfl] at hempf htime' hpulse' hperiod'
        refine .anfang rfl ?_ (hpulse'.trans hpulse) (hperiod'.trans hzeit) ?_ (htime'.trans htime)
        · simpa using hsame
        · rw [hempf, ← hdecoder]
          rfl
    | false =>
        rw [if_neg Bool.false_ne_true] at hempf htime' hpulse' hperiod'
        refine .ende rfl ?_ (hpulse'.trans hzeit) (hperiod'.trans hperiod) ?_ (htime'.trans htime)
        · simpa using hsame
        · rw [hempf, ← hdecoder, ← hzeit]
          rfl

/-- `scan_dcf77` when nothing has been measured. -/
theorem scan_ruhe (hpulse : p.dcf77Pulse = 0) (hperiod : p.dcf77Period = 0) :
    Bleibt p (scanDcf77 p) ∧ (scanDcf77 p).validFlag = p.validFlag := by
  unfold scanDcf77 scanPuls
  rw [if_neg (not_not_intro hpulse)]
  unfold scanPeriode
  rw [if_neg (not_not_intro hperiod)]
  exact ⟨⟨rfl, rfl, rfl, rfl⟩, rfl⟩

/-- `scan_dcf77` at the end of a pulse. -/
theorem scan_ende (hpulse : p.dcf77Pulse ≠ 0) (hperiod : p.dcf77Period = 0) :
    empfang (scanDcf77 p) =
        ⟨pulsAuswerten p.dcf77Pulse p.decoder, p.dcf77Time, p.dcf77InputOld⟩ ∧
      (scanDcf77 p).time = p.time ∧ Ruhig (scanDcf77 p) ∧
      (scanDcf77 p).validFlag = p.validFlag := by
  unfold scanDcf77 scanPuls
  rw [if_pos hpulse]
  unfold scanPeriode
  rw [if_neg (not_not_intro hperiod)]
  exact ⟨rfl, rfl, ⟨rfl, hperiod⟩, rfl⟩

/-- `scan_dcf77` at the beginning of a pulse. -/
theorem scan_anfang (hpulse : p.dcf77Pulse = 0) (hperiod : p.dcf77Period ≠ 0) :
    empfang (scanDcf77 p) =
        ⟨periodeAuswerten p.dcf77Period p.decoder, p.dcf77Time, p.dcf77InputOld⟩ ∧
      Ruhig (scanDcf77 p) ∧
      if minutenanfang p.dcf77Period = true ∧ zeitGueltig (sekundeZaehlen p.decoder) = true then
        (scanDcf77 p).validFlag = 1 ∧ (scanDcf77 p).time = zeitUebernehmen p.time p.decoder.newtime
      else (scanDcf77 p).validFlag = p.validFlag ∧ (scanDcf77 p).time = p.time := by
  unfold scanDcf77 scanPuls
  rw [if_neg (not_not_intro hpulse)]
  unfold scanPeriode
  rw [if_pos hperiod]
  unfold minuteBeginnen
  by_cases hmarke : minutenanfang p.dcf77Period = true
  · rw [if_pos hmarke]
    by_cases hgueltig : zeitGueltig (sekundeZaehlen p.decoder) = true
    · rw [if_pos hgueltig, if_pos ⟨hmarke, hgueltig⟩]
      exact ⟨rfl, ⟨hpulse, rfl⟩, rfl, rfl⟩
    · rw [if_neg hgueltig, if_neg fun h => hgueltig h.2]
      exact ⟨rfl, ⟨hpulse, rfl⟩, rfl, rfl⟩
  · rw [if_neg hmarke, if_neg fun h => hmarke h.1]
    exact ⟨rfl, ⟨hpulse, rfl⟩, rfl, rfl⟩

/-- The end of a minute without an error, at the beginning of a pulse. -/
def Empfang.MinuteGueltig (x : Empfang) (input : Bool) : Prop :=
  input = true ∧ x.dcf77InputOld = false ∧ minutenanfang x.zeit = true ∧
    zeitGueltig (sekundeZaehlen x.vorher) = true

/-- What one tick does. -/
structure TickEffect (selfaddr : UInt16) (input : Bool) (s : Dcf77IO)
    (p' : DeviceDataDcf77Receiver) : Prop where
  ruhig : Ruhig p'
  empfang : empfang p' = (empfang s.dev).tick input
  gemessen : gemessen selfaddr input s = (Dcf77.empfang s.dev).flanken input
  valid_iff : SetztValid selfaddr input s ↔ (Dcf77.empfang s.dev).MinuteGueltig input
  time : SetztValid selfaddr input s →
    p'.time = zeitUebernehmen s.dev.time (Dcf77.empfang s.dev).vorher.newtime

section

variable {selfaddr : UInt16} {input : Bool} {p p' : DeviceDataDcf77Receiver}
  (hp : (dcf77Handler selfaddr input s).dev = p) (hbleibt : Bleibt (scanDcf77 p) p')

include hp

theorem gemessen_of_handler : gemessen selfaddr input s =
    (if p.dcf77Pulse ≠ 0 then [.puls p.dcf77Pulse] else []) ++
      if p.dcf77Period ≠ 0 then [.periode p.dcf77Period] else [] := by
  subst hp
  rfl

theorem setztValid_of_handler :
    SetztValid selfaddr input s ↔ (scanDcf77 { p with validFlag := 0 }).validFlag = 1 := by
  subst hp
  exact Iff.rfl

include hbleibt

/-- A tick without an edge. -/
theorem tick_ruhe (hold : input = s.dev.dcf77InputOld) (hpulse : p.dcf77Pulse = 0)
    (hperiod : p.dcf77Period = 0)
    (hempfang : empfang p = ⟨(empfang s.dev).vorher, (empfang s.dev).zeit, input⟩) :
    TickEffect selfaddr input s p' := by
  obtain ⟨hscan, -⟩ := scan_ruhe hpulse hperiod
  have hflag := (scan_ruhe (p := { p with validFlag := 0 }) hpulse hperiod).2
  have hnicht : ¬ SetztValid selfaddr input s := by
    rw [setztValid_of_handler hp, hflag]
    exact nofun
  refine ⟨(hscan.trans hbleibt).ruhig ⟨hpulse, hperiod⟩, ?_, ?_, ?_, fun hv => absurd hv hnicht⟩
  · rw [(hscan.trans hbleibt).empfang, hempfang]
    exact (if_pos hold).symm
  · rw [gemessen_of_handler hp, hpulse, hperiod]
    exact (if_pos hold).symm
  · refine iff_of_false hnicht ?_
    rintro ⟨rfl, hfalse, -⟩
    exact Bool.noConfusion (hold.trans hfalse)

/-- A tick with a pulse that begins. -/
theorem tick_anfang (hinput : input = true) (hold : s.dev.dcf77InputOld = false)
    (hpulse : p.dcf77Pulse = 0) (hperiod : p.dcf77Period = (empfang s.dev).zeit)
    (hempfang : empfang p = ⟨(empfang s.dev).vorher, 0, true⟩) (htime : p.time = s.dev.time) :
    TickEffect selfaddr input s p' := by
  subst hinput
  have hne : true ≠ s.dev.dcf77InputOld := by rw [hold]; decide
  have hnonzero : p.dcf77Period ≠ 0 := hperiod ▸ (empfang s.dev).zeit_ne_zero
  have hdecoder : p.decoder = (empfang s.dev).vorher := congrArg Empfang.decoder hempfang
  have hinput : p.dcf77InputOld = true := congrArg Empfang.dcf77InputOld hempfang
  have hstand : p.dcf77Time = 0 := congrArg Empfang.dcf77Time hempfang
  obtain ⟨hscan, hruhig, hzwei⟩ := scan_anfang hpulse hnonzero
  have hflag := (scan_anfang (p := { p with validFlag := 0 }) hpulse hnonzero).2.2
  have hiff : SetztValid selfaddr true s ↔ minutenanfang p.dcf77Period = true ∧
      zeitGueltig (sekundeZaehlen p.decoder) = true := by
    rw [setztValid_of_handler hp]
    split at hflag
    · rename_i hmarke
      exact iff_of_true hflag.1 hmarke
    · rename_i hmarke
      rw [hflag.1]
      exact iff_of_false nofun hmarke
  refine ⟨hbleibt.ruhig hruhig, ?_, ?_, ?_, fun hv => ?_⟩
  · rw [hbleibt.empfang, hscan, hperiod, hdecoder, hstand, hinput]
    exact ((if_neg hne).trans (if_pos rfl)).symm
  · rw [gemessen_of_handler hp, hpulse, if_pos hnonzero, hperiod]
    exact ((if_neg hne).trans (if_pos rfl)).symm
  · rw [hiff, hperiod, hdecoder]
    exact ⟨fun hm => ⟨rfl, hold, hm.1, hm.2⟩, fun hm => ⟨hm.2.2.1, hm.2.2.2⟩⟩
  · rw [if_pos (hiff.mp hv)] at hzwei
    rw [hbleibt.time, hzwei.2, htime, hdecoder]

/-- A tick with a pulse that ends. -/
theorem tick_ende (hinput : input = false) (hold : s.dev.dcf77InputOld = true)
    (hpulse : p.dcf77Pulse = (empfang s.dev).zeit) (hperiod : p.dcf77Period = 0)
    (hempfang : empfang p = ⟨(empfang s.dev).vorher, (empfang s.dev).zeit, false⟩) :
    TickEffect selfaddr input s p' := by
  subst hinput
  have hne : false ≠ s.dev.dcf77InputOld := by rw [hold]; decide
  have hnonzero : p.dcf77Pulse ≠ 0 := hpulse ▸ (empfang s.dev).zeit_ne_zero
  have hdecoder : p.decoder = (empfang s.dev).vorher := congrArg Empfang.decoder hempfang
  have hinput : p.dcf77InputOld = false := congrArg Empfang.dcf77InputOld hempfang
  have hstand : p.dcf77Time = (empfang s.dev).zeit := congrArg Empfang.dcf77Time hempfang
  obtain ⟨hscan, -, hruhig, -⟩ := scan_ende hnonzero hperiod
  have hflag := (scan_ende (p := { p with validFlag := 0 }) hnonzero hperiod).2.2.2
  have hnicht : ¬ SetztValid selfaddr false s := by
    rw [setztValid_of_handler hp, hflag]
    exact nofun
  refine ⟨hbleibt.ruhig hruhig, ?_, ?_, ?_, fun hv => absurd hv hnicht⟩
  · rw [hbleibt.empfang, hscan, hpulse, hdecoder, hstand, hinput]
    exact ((if_neg hne).trans (if_neg Bool.false_ne_true)).symm
  · rw [gemessen_of_handler hp, hperiod, if_pos hnonzero, hpulse]
    exact ((if_neg hne).trans (if_neg Bool.false_ne_true)).symm
  · exact iff_of_false hnicht fun hm => Bool.noConfusion hm.1

end

/-- **One tick** of a receiver. -/
theorem tick_effect (selfaddr : UInt16) (clock : RtcClock) (input : Bool) (h : Ruhig s.dev) :
    TickEffect selfaddr input s (dcf77ReceiverTimerHandler selfaddr clock input s).dev := by
  have hbleibt := bleibt_timerHandler selfaddr clock input s
  cases handler_effect selfaddr input h with
  | ruhe hold hpulse hperiod hempfang htime =>
      exact tick_ruhe rfl hbleibt hold hpulse hperiod hempfang
  | anfang hinput hold hpulse hperiod hempfang htime =>
      exact tick_anfang rfl hbleibt hinput hold hpulse hperiod hempfang htime
  | ende hinput hold hpulse hperiod hempfang htime =>
      exact tick_ende rfl hbleibt hinput hold hpulse hperiod hempfang

/-! ## Whole runs -/

/-- The reception beside what has been measured. -/
def empfangStep (k : Empfang × List Flanke) (input : Bool) : Empfang × List Flanke :=
  (k.1.tick input, k.1.flanken input ++ k.2)

/-- The level of the input, of a tick. -/
def Dcf77Event.pegel : Dcf77Event → Option Bool
  | .tick _ input => some input
  | .frame _ => none

/-- **The run of a receiver** is the run of its reception over the levels of the input. -/
theorem run_empfang (selfaddr : UInt16) (es : List Dcf77Event) (k : Dcf77IO × List Flanke)
    (h : Ruhig k.1.dev) :
    (empfang (run (dcf77Step selfaddr) k es).1.dev, (run (dcf77Step selfaddr) k es).2) =
      run empfangStep (empfang k.1.dev, k.2) (es.filterMap Dcf77Event.pegel) := by
  induction es generalizing k with
  | nil => rfl
  | cons e es ih =>
      cases e with
      | tick clock input =>
          have heffect := tick_effect selfaddr clock input h
          rw [run_cons, ih _ heffect.ruhig]
          show run empfangStep (empfang _, gemessen selfaddr input k.1 ++ k.2) _ =
            run empfangStep (empfangStep (empfang k.1.dev, k.2) input) _
          rw [heffect.gemessen]
          exact congrArg (fun x => run empfangStep (x, _) _) heffect.empfang
      | frame f =>
          have hbleibt := bleibt_besserePruefen f k.1.dev
          rw [run_cons, ih _ (hbleibt.ruhig h)]
          exact congrArg (fun x => run empfangStep (x, k.2) _) hbleibt.empfang

end

end OpenHcan.Dcf77
