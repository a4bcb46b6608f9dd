import OpenHcan.Devices.Heizung
import OpenHcan.Lib.Countdown

/-!
# HeizungRuns — a heating over frames and seconds

What each part of the timer handler does to the data, field by field. The
handler writes most fields in one part only; those parts are followed by
lemmas that say that the other parts leave the field alone.
-/

namespace OpenHcan.Heizung

open Lib

/-! ## The machine -/

/-- A HES frame, or a call of the one-second timer handler. -/
inductive HeizEvent
  | frame (u : Umgebung) (f : CanixFrame)
  | tick (u : Umgebung)

def HeizEvent.isTick : HeizEvent → Bool
  | .frame _ _ => false
  | .tick _ => true

def heizStep (selfaddr : UInt16) (s : HeizungIO) : HeizEvent → HeizungIO
  | .frame u f => heizungCanCallback selfaddr u f s
  | .tick u => heizungTimerHandler selfaddr u s 1

/-- A heating after a start of the board: all outputs are off. -/
def heizStart (it : UInt16) (p : DeviceDataHeizung) : HeizungIO :=
  ⟨heizungInit it p, fun _ => false, []⟩

section

variable (selfaddr : UInt16) (u : Umgebung) (s : HeizungIO) (p : DeviceDataHeizung)

@[simp] theorem update_dev (f : DeviceDataHeizung → DeviceDataHeizung) :
    (s.update f).dev = f s.dev := rfl

@[simp] theorem update_sent (f : DeviceDataHeizung → DeviceDataHeizung) :
    (s.update f).sent = s.sent := rfl

@[simp] theorem setpin_dev (b : Bool) : (s.setpin b).dev = s.dev := rfl

@[simp] theorem setpin_ventil (b : Bool) : (s.setpin b).ventil = b := by
  simp [ HeizungIO.ventil, HeizungIO.setpin, darlingtonoutputGetpin, darlingtonoutputSetpin]

/-- A data change that leaves the port alone leaves the valve alone. -/
theorem update_ventil {f : DeviceDataHeizung → DeviceDataHeizung}
    (hf : (f s.dev).config.port = s.dev.config.port) : (s.update f).ventil = s.ventil := by
  unfold HeizungIO.ventil
  rw [update_dev, hf]
  rfl

/-! ## Every second -/

/-- The care counter after a second. -/
def pflegeNach (u : Umgebung) (p : DeviceDataHeizung) : UInt16 :=
  (pflegeTick u p).ventilpflegeCounter

/-- What every second does to the data. -/
def sekunde (u : Umgebung) (p : DeviceDataHeizung) : DeviceDataHeizung :=
  { p with
    mode := if p.durationCounter = 1 then .automatik else p.mode
    durationCounter := if p.durationCounter = 0 then 0 else p.durationCounter - 1
    pwmCounter := pwmNext p
    pwmWidth := if p.reedHeizStopCounter = 0 then p.pwmWidth else 0
    pwmEnd := if p.reedHeizStopCounter = 0 then p.pwmEnd else p.config.pwmPeriode.toUInt16
    reedHeizStopCounter := if p.reedHeizStopCounter = 0 then 0 else p.reedHeizStopCounter - 1
    receivedIntervalCounter :=
      if p.receivedIntervalCounter = 255 then 255 else p.receivedIntervalCounter + 1
    ventilpflegeCounter := pflegeNach u p }

/-- The care and the age of the measured value. -/
def gepflegt (p : DeviceDataHeizung) (pflege : UInt16) (alter : UInt8) : DeviceDataHeizung :=
  { p with ventilpflegeCounter := pflege, receivedIntervalCounter := alter }

theorem pflegeTick_eq : pflegeTick u p = gepflegt p (pflegeNach u p)
    (if p.receivedIntervalCounter = 255 then 255 else p.receivedIntervalCounter + 1) := by
  have hcheck (q : DeviceDataHeizung) : ∃ v, heizungCheckVentilpflege u q =
      gepflegt q v q.receivedIntervalCounter := by
    unfold heizungCheckVentilpflege
    split
    · exact ⟨600, rfl⟩
    · exact ⟨q.ventilpflegeCounter, rfl⟩
  have hminus : ∃ v, (if p.ventilpflegeCounter > 0 then
      { p with ventilpflegeCounter := p.ventilpflegeCounter - 1 } else p) =
      gepflegt p v p.receivedIntervalCounter := by
    split
    · exact ⟨_, rfl⟩
    · exact ⟨p.ventilpflegeCounter, rfl⟩
  unfold pflegeNach pflegeTick
  dsimp only
  obtain ⟨v, hv⟩ := hminus
  rw [hv]
  obtain ⟨w, hw⟩ := hcheck (gepflegt p v p.receivedIntervalCounter)
  rw [hw]
  have halter (q : DeviceDataHeizung) : (if q.receivedIntervalCounter ≠ 0xff then
      { q with receivedIntervalCounter := q.receivedIntervalCounter + 1 } else q) =
      gepflegt q q.ventilpflegeCounter
        (if q.receivedIntervalCounter = 255 then 255 else q.receivedIntervalCounter + 1) := by
    by_cases h : q.receivedIntervalCounter = 255
    · rw [if_neg (not_not_intro h), if_pos h, ← h]
      rfl
    · rw [if_pos h, if_neg h]
      rfl
  rw [halter]
  rfl

/-- The duration of a mode, on the data. -/
def dauer (p : DeviceDataHeizung) : DeviceDataHeizung :=
  { p with
    mode := if p.durationCounter = 1 then .automatik else p.mode
    durationCounter := if p.durationCounter = 0 then 0 else p.durationCounter - 1 }

theorem durationTick_dev : (durationTick selfaddr u s).dev = dauer s.dev := by
  unfold durationTick dauer
  by_cases h0 : s.dev.durationCounter = 0
  · rw [h0, if_neg (by decide), if_neg (by decide), if_pos rfl, ← h0]
  · rw [if_pos (UInt16.pos_iff_ne_zero.mpr h0), if_neg h0]
    by_cases h1 : s.dev.durationCounter = 1
    · have hzero : s.dev.durationCounter - 1 = 0 := by rw [h1]; rfl
      rw [if_pos h1]
      exact congrArg HeizungIO.dev (if_pos hzero)
    · rw [if_neg h1]
      exact congrArg HeizungIO.dev (if_neg (sub_one_ne_zero h0 h1))

theorem heizstopTick_eq (h : p.reedHeizStopCounter ≠ 0) : heizstopTick p =
    heizungUpdateHeizstop { p with reedHeizStopCounter := p.reedHeizStopCounter - 1 } :=
  if_pos (UInt8.pos_iff_ne_zero.mpr h)

/-- `++pwm_counter`, on the data. -/
def pwmGezaehlt (p : DeviceDataHeizung) : DeviceDataHeizung := { p with pwmCounter := pwmNext p }

@[simp] theorem heizungHandlePwm_dev : (heizungHandlePwm s).dev = pwmGezaehlt s.dev := rfl

/-- The pulse width modulation opens the valve while the counter is below the width. -/
@[simp] theorem heizungHandlePwm_ventil :
    (heizungHandlePwm s).ventil = decide (pwmNext s.dev < s.dev.pwmWidth) := by
  unfold heizungHandlePwm
  exact setpin_ventil _ _

theorem heizstopTick_of_zero (h : p.reedHeizStopCounter = 0) : heizstopTick p = p := by
  unfold heizstopTick
  rw [h, if_neg (by decide)]

theorem heizstopTick_config : (heizstopTick p).config = p.config := by
  unfold heizstopTick
  split
  · rfl
  · rfl

theorem jedeSekunde_dev : (jedeSekunde selfaddr u s).dev = sekunde u s.dev := by
  unfold jedeSekunde
  rw [update_dev, durationTick_dev, heizungHandlePwm_dev, update_dev, pflegeTick_eq]
  by_cases hreed : s.dev.reedHeizStopCounter = 0
  · apply Eq.trans (heizstopTick_of_zero _ _)
    · unfold sekunde
      rw [if_pos hreed, if_pos hreed, if_pos hreed, ← hreed]
      rfl
    · exact hreed
  · apply Eq.trans (heizstopTick_eq _ _)
    · unfold sekunde
      rw [if_neg hreed, if_neg hreed, if_neg hreed]
      rfl
    · exact hreed

theorem durationTick_ventil : (durationTick selfaddr u s).ventil = s.ventil := by
  unfold durationTick
  dsimp only
  split
  · split
    · rfl
    · rfl
  · rfl

/-- **The valve after a second** is where the pulse width modulation puts it. -/
theorem jedeSekunde_ventil :
    (jedeSekunde selfaddr u s).ventil = decide (pwmNext s.dev < s.dev.pwmWidth) := by
  unfold jedeSekunde
  rw [update_ventil _ (by rw [heizstopTick_config]), durationTick_ventil, heizungHandlePwm_ventil,
    update_dev, pflegeTick_eq]
  rfl

/-! ## Every six seconds -/

/-- What a mode can set. -/
def gestellt (p : DeviceDataHeizung) (rate : UInt8) (width pend : UInt16) (bedarf : UInt8)
    (soll : Int16) : DeviceDataHeizung :=
  { p with
    manualRate := rate
    pwmWidth := width
    pwmEnd := pend
    waermebedarfCounter := bedarf
    lastSollTemp := soll }

/-- The pulse width `heizung_set_pwm` sets. -/
def breite (p : DeviceDataHeizung) (rate : UInt8) : UInt16 :=
  if p.reedHeizStopCounter ≠ 0 then 0
  else UInt16.ofNat (p.config.pwmPeriode.toNat * rate.toNat / 100)

theorem heizungSetPwm_eq (rate : UInt8) : heizungSetPwm p rate =
    gestellt p p.manualRate (breite p rate) p.config.pwmPeriode.toUInt16 p.waermebedarfCounter
      p.lastSollTemp := by
  unfold heizungSetPwm breite
  split
  · rfl
  · rfl

/-- The pulse width and the period are left alone, or set for a rate: closed, open,
or the one of the manual mode. -/
def Stellt (p : DeviceDataHeizung) (width pend : UInt16) : Prop :=
  width = p.pwmWidth ∧ pend = p.pwmEnd ∨
    pend = p.config.pwmPeriode.toUInt16 ∧
      ∃ rate, width = breite p rate ∧
        (rate = 0 ∨ rate = 100 ∨ p.mode = .manual ∧ rate = p.manualRate)

/-- A rate of 0 closes the valve. -/
theorem breite_zero : breite p 0 = 0 := by
  unfold breite
  split
  · rfl
  · show UInt16.ofNat (p.config.pwmPeriode.toNat * 0 / 100) = 0
    rw [Nat.mul_zero, Nat.zero_div]
    rfl

/-- The controller changes the pulse width and, if it opens the valve, the time of
the next report. -/
theorem heizungSetPwmByTemp_eq (soll ist : Int16) : ∃ width pend bedarf,
    heizungSetPwmByTemp p soll ist =
      gestellt p p.manualRate width pend bedarf p.lastSollTemp ∧ Stellt p width pend := by
  unfold heizungSetPwmByTemp
  rw [heizungSetPwm_eq, heizungSetPwm_eq]
  split
  · exact ⟨_, _, _, rfl, Or.inr ⟨rfl, 0, rfl, Or.inl rfl⟩⟩
  · split
    · exact ⟨_, _, _, rfl, Or.inr ⟨rfl, 100, rfl, Or.inr (Or.inl rfl)⟩⟩
    · exact ⟨p.pwmWidth, p.pwmEnd, p.waermebedarfCounter, rfl, Or.inl ⟨rfl, rfl⟩⟩

/-- The frames that report the heat demand. -/
def istWaermebedarf (f : CanixFrame) : Bool := f.byte 1 = hcanHesHeizungWaermebedarfInfo

theorem hesFrame_byte_one (dst : UInt16) (cmd : UInt8) (bytes : List UInt8) :
    (hesFrame selfaddr dst (cmd :: bytes)).byte 1 = cmd := rfl

/-- The details of a mode are no report. -/
theorem details_no_waermebedarf (dst : UInt16) :
    istWaermebedarf (hesFrame selfaddr dst (heizungDetails u p)) = false := by
  unfold istWaermebedarf heizungDetails
  split
  · rw [hesFrame_byte_one]
    decide
  · rw [hesFrame_byte_one]
    decide
  · rw [hesFrame_byte_one]
    decide
  · split
    · rw [hesFrame_byte_one]
      decide
    · rw [hesFrame_byte_one]
      decide

/-- Frames have been sent, and no report among them. -/
def SendetKeinen (s t : HeizungIO) : Prop :=
  ∃ neu, t.sent = s.sent ++ neu ∧ ∀ f ∈ neu, istWaermebedarf f = false

theorem SendetKeinen.refl (s : HeizungIO) : SendetKeinen s s :=
  ⟨[], (List.append_nil s.sent).symm, fun f hf => by simp at hf⟩

theorem SendetKeinen.trans {r s t : HeizungIO} (h : SendetKeinen r s) (h' : SendetKeinen s t) :
    SendetKeinen r t := by
  obtain ⟨neu, hsent, hneu⟩ := h
  obtain ⟨neu', hsent', hneu'⟩ := h'
  refine ⟨neu ++ neu', by rw [hsent', hsent, List.append_assoc], fun f hf => ?_⟩
  rcases List.mem_append.mp hf with hf | hf
  · exact hneu f hf
  · exact hneu' f hf

/-- A data change sends nothing. -/
theorem SendetKeinen.of_sent {t : HeizungIO} (h : t.sent = s.sent) : SendetKeinen s t :=
  ⟨[], by rw [h, List.append_nil], fun f hf => by simp at hf⟩

/-- A frame that is no report is sent. -/
theorem SendetKeinen.send {f : CanixFrame} (hf : istWaermebedarf f = false) :
    SendetKeinen s (s.send f) := by
  refine ⟨[f], rfl, fun g hg => ?_⟩
  rw [List.mem_singleton.mp hg]
  exact hf

theorem SendetKeinen.details (dst : UInt16) :
    SendetKeinen s (heizungSendDetails selfaddr u dst s) :=
  .send s (details_no_waermebedarf selfaddr u s.dev dst)

/-- A mode that is not off leaves the valve to the pulse width modulation. -/
def ModeWirkt (s t : HeizungIO) : Prop :=
  SendetKeinen s t ∧
    (∃ rate width pend bedarf soll,
      t.dev = gestellt s.dev rate width pend bedarf soll ∧ Stellt s.dev width pend ∧
        (s.dev.mode = .off → width = 0) ∧ (rate = s.dev.manualRate ∨ rate = 0)) ∧
    t.ventil = (if s.dev.mode = .off then false else s.ventil)

/-- A data change of a mode that is not off. -/
theorem ModeWirkt.update {f : DeviceDataHeizung → DeviceDataHeizung} (hmode : s.dev.mode ≠ .off)
    {width pend : UInt16} {bedarf : UInt8} {soll : Int16}
    (hf : f s.dev = gestellt s.dev s.dev.manualRate width pend bedarf soll)
    (hwidth : Stellt s.dev width pend) : ModeWirkt s (s.update f) := by
  refine ⟨.of_sent s rfl, ⟨s.dev.manualRate, width, pend, bedarf, soll, hf, hwidth,
    fun h => absurd h hmode, Or.inl rfl⟩, ?_⟩
  rw [if_neg hmode]
  exact update_ventil s (by rw [hf]; rfl)

/-- A mode that leaves the data alone. -/
theorem ModeWirkt.refl (hmode : s.dev.mode ≠ .off) : ModeWirkt s s := by
  have hbleibt : s.dev = gestellt s.dev s.dev.manualRate s.dev.pwmWidth s.dev.pwmEnd
    s.dev.waermebedarfCounter s.dev.lastSollTemp := rfl
  exact .update s (f := id) hmode hbleibt (Or.inl ⟨rfl, rfl⟩)

/-- A heating that is off has no pulse, and its valve is closed. -/
theorem modeZyklus_off (hoff : s.dev.mode = .off) : ModeWirkt s (modeZyklus selfaddr u s) := by
  have hdev : heizungSetPwm { s.dev with manualRate := 0 } 0 = gestellt s.dev 0 (breite s.dev 0)
      s.dev.config.pwmPeriode.toUInt16 s.dev.waermebedarfCounter s.dev.lastSollTemp :=
    heizungSetPwm_eq _ 0
  have hstellt : Stellt s.dev (breite s.dev 0) s.dev.config.pwmPeriode.toUInt16 :=
    Or.inr ⟨rfl, 0, rfl, Or.inl rfl⟩
  unfold modeZyklus ModeWirkt
  rw [hoff, if_pos rfl]
  dsimp only
  split
  · exact ⟨.of_sent s rfl, ⟨_, _, _, _, _, hdev, hstellt, fun _ => breite_zero s.dev,
      Or.inr rfl⟩, setpin_ventil _ _⟩
  · rename_i hzu
    exact ⟨.of_sent s rfl, ⟨_, _, _, _, _, hdev, hstellt, fun _ => breite_zero s.dev,
      Or.inr rfl⟩, by simpa using hzu⟩

/-- The rate set by hand. -/
theorem modeZyklus_manual (hmanual : s.dev.mode = .manual) :
    ModeWirkt s (modeZyklus selfaddr u s) := by
  unfold modeZyklus
  rw [hmanual]
  apply ModeWirkt.update s (by rw [hmanual]; decide) (heizungSetPwm_eq s.dev s.dev.manualRate)
  exact Or.inr ⟨rfl, _, rfl, Or.inr (Or.inr ⟨hmanual, rfl⟩)⟩

/-- The target temperature of the time zone; a new one is reported. -/
theorem modeZyklus_automatik (hauto : s.dev.mode = .automatik) :
    ModeWirkt s (modeZyklus selfaddr u s) := by
  have hmode : s.dev.mode ≠ .off := by rw [hauto]; decide
  unfold modeZyklus
  rw [hauto]
  dsimp only
  split
  · split
    · rename_i index _
      obtain ⟨width, pend, bedarf, heq, hstellt⟩ := heizungSetPwmByTemp_eq s.dev
        (s.dev.config.solltempLine.get index).temp s.dev.measureValue
      have hupdate := ModeWirkt.update s (f := fun p => heizungSetPwmByTemp p
        (s.dev.config.solltempLine.get index).temp p.measureValue) hmode heq hstellt
      split
      · obtain ⟨hsent, -, hventil⟩ := hupdate
        refine ⟨hsent.trans (.details selfaddr u _ _), ⟨s.dev.manualRate, width, pend, bedarf,
          (s.dev.config.solltempLine.get index).temp, ?_, hstellt, fun h => absurd h hmode,
          Or.inl rfl⟩, hventil⟩
        exact congrArg (fun q : DeviceDataHeizung =>
          { q with lastSollTemp := (s.dev.config.solltempLine.get index).temp }) heq
      · exact hupdate
    · exact .update s hmode (heizungSetPwm_eq s.dev 0) (Or.inr ⟨rfl, 0, rfl, Or.inl rfl⟩)
  · exact .refl s hmode

/-- The temperature of the thermostat, as long as the measured value is not too old. -/
theorem modeZyklus_thermostat (hthermo : s.dev.mode = .thermostat) :
    ModeWirkt s (modeZyklus selfaddr u s) := by
  have hmode : s.dev.mode ≠ .off := by rw [hthermo]; decide
  unfold modeZyklus
  rw [hthermo]
  dsimp only
  split
  · obtain ⟨width, pend, bedarf, heq, hstellt⟩ := heizungSetPwmByTemp_eq s.dev
      s.dev.thermostatTemp s.dev.measureValue
    exact .update s hmode heq hstellt
  · exact .refl s hmode

/-- **What a mode does** in its cycle: it sets the pulse width, and it closes the
valve of a heating that is off. -/
theorem modeZyklus_spec : ModeWirkt s (modeZyklus selfaddr u s) := by
  cases hmode : s.dev.mode with
  | off => exact modeZyklus_off selfaddr u s hmode
  | manual => exact modeZyklus_manual selfaddr u s hmode
  | automatik => exact modeZyklus_automatik selfaddr u s hmode
  | thermostat => exact modeZyklus_thermostat selfaddr u s hmode

/-! ## The report -/

/-- The heat demand is reported now. -/
def meldet (p : DeviceDataHeizung) : Bool :=
  (p.receivedIntervalCounter ≠ 255 ∨ p.mode = .manual) ∧ p.waermebedarfCounter = 0

/-- The report of a heating. -/
def bedarfFrame (p : DeviceDataHeizung) : CanixFrame :=
  hesFrame selfaddr hcanMulticastInfo
    [hcanHesHeizungWaermebedarfInfo, p.config.id, waermebedarf p]

/-- The time until the next report. -/
def bedarfGezaehlt (p : DeviceDataHeizung) (n : UInt8) : DeviceDataHeizung :=
  { p with waermebedarfCounter := n }

/-- **The report** is sent when it is due, and only its counter changes. -/
theorem waermebedarfMelden_spec :
    (∃ n, (waermebedarfMelden selfaddr s).dev = bedarfGezaehlt s.dev n) ∧
      (waermebedarfMelden selfaddr s).ventil = s.ventil ∧
      (waermebedarfMelden selfaddr s).sent =
        s.sent ++ if meldet s.dev then [bedarfFrame selfaddr s.dev] else [] := by
  unfold waermebedarfMelden
  split
  · rename_i hkein
    have hno : meldet s.dev = false := by
      apply decide_eq_false
      rintro ⟨h | h, -⟩
      · exact h hkein.1
      · exact hkein.2 h
    rw [hno, if_neg Bool.false_ne_true, List.append_nil]
    exact ⟨⟨s.dev.waermebedarfCounter, rfl⟩, rfl, rfl⟩
  · rename_i hmelden
    split
    · rename_i hzero
      have hyes : meldet s.dev = true := by
        apply decide_eq_true
        refine ⟨?_, hzero⟩
        by_contra hno
        obtain ⟨halter, hmode⟩ := not_or.mp hno
        exact hmelden ⟨not_not.mp halter, hmode⟩
      rw [hyes, if_pos rfl]
      exact ⟨⟨60, rfl⟩, rfl, rfl⟩
    · rename_i hcounter
      have hno : meldet s.dev = false := by
        apply decide_eq_false
        exact fun h => hcounter h.2
      rw [hno, if_neg Bool.false_ne_true, List.append_nil]
      exact ⟨⟨_, rfl⟩, rfl, rfl⟩

/-! ## A whole tick -/

theorem durationTick_sent : SendetKeinen s (durationTick selfaddr u s) := by
  unfold durationTick
  dsimp only
  split
  · split
    · exact (SendetKeinen.of_sent s rfl).trans (.details selfaddr u _ _)
    · exact .of_sent s rfl
  · exact .of_sent s rfl

/-- What a second does before the cycle sends no report. -/
theorem jedeSekunde_sent : SendetKeinen s (jedeSekunde selfaddr u s) := by
  unfold jedeSekunde
  have hhandle : SendetKeinen s (heizungHandlePwm (s.update (pflegeTick u))) := .of_sent s rfl
  apply (hhandle.trans (durationTick_sent selfaddr u _)).trans
  exact .of_sent _ (update_sent _ _)

/-- **A tick**: the second, and then the end of a cycle or the report. -/
theorem tick_eq : heizStep selfaddr s (.tick u) =
    if s.dev.timerCounter ≥ 5 then
      zyklusEnde selfaddr u ((jedeSekunde selfaddr u s).update (timerCounterTo 0))
    else
      waermebedarfMelden selfaddr
        ((jedeSekunde selfaddr u s).update (timerCounterTo (s.dev.timerCounter + 1))) := by
  have hcounter : (jedeSekunde selfaddr u s).dev.timerCounter = s.dev.timerCounter := by
    rw [jedeSekunde_dev]
    rfl
  show heizungTimerHandler selfaddr u s 1 = _
  unfold heizungTimerHandler
  rw [if_neg (by decide)]
  dsimp only
  rw [hcounter]
  have hnext (t : HeizungIO) (n : UInt8) (ht : t.dev.timerCounter = n) :
      t.update (fun p => timerCounterTo (p.timerCounter + 1) p) =
        t.update (timerCounterTo (n + 1)) := by
    subst ht
    rfl
  rw [hnext _ _ hcounter]

theorem timerCounterTo_ventil (n : UInt8) : (s.update (timerCounterTo n)).ventil = s.ventil :=
  update_ventil s rfl

section

variable {s}

/-- A tick inside a cycle. -/
theorem tick_zaehlt (h : ¬ s.dev.timerCounter ≥ 5) : heizStep selfaddr s (.tick u) =
    waermebedarfMelden selfaddr
      ((jedeSekunde selfaddr u s).update (timerCounterTo (s.dev.timerCounter + 1))) := by
  rw [tick_eq, if_neg h]

theorem zyklus_pflege :
    ((jedeSekunde selfaddr u s).update (timerCounterTo 0)).dev.ventilpflegeCounter =
      pflegeNach u s.dev := by
  rw [update_dev, jedeSekunde_dev]
  rfl

/-- A tick that ends a cycle while the valve is exercised. -/
theorem tick_pflegt (h : s.dev.timerCounter ≥ 5) (hpflege : pflegeNach u s.dev ≠ 0) :
    heizStep selfaddr s (.tick u) =
      ventilpflegeAktiv ((jedeSekunde selfaddr u s).update (timerCounterTo 0)) := by
  rw [tick_eq, if_pos h]
  unfold zyklusEnde
  rw [zyklus_pflege, if_pos hpflege]

/-- A tick that ends any other cycle. -/
theorem tick_zyklus (h : s.dev.timerCounter ≥ 5) (hpflege : pflegeNach u s.dev = 0) :
    heizStep selfaddr s (.tick u) = waermebedarfMelden selfaddr
      (modeZyklus selfaddr u ((jedeSekunde selfaddr u s).update (timerCounterTo 0))) := by
  rw [tick_eq, if_pos h]
  unfold zyklusEnde
  rw [zyklus_pflege, if_neg (not_not_intro hpflege)]

end

/-- What a tick leaves to be reported: the second before it, with what the mode has
set. -/
structure NachTick (u : Umgebung) (p q : DeviceDataHeizung) : Prop where
  config : q.config = p.config
  mode : q.mode = (sekunde u p).mode
  duration : q.durationCounter = (sekunde u p).durationCounter
  pwmCounter : q.pwmCounter = pwmNext p
  heizstop : q.reedHeizStopCounter = (sekunde u p).reedHeizStopCounter
  alter : q.receivedIntervalCounter = (sekunde u p).receivedIntervalCounter
  pflege : q.ventilpflegeCounter = pflegeNach u p
  rate : q.manualRate = p.manualRate ∨ q.manualRate = 0
  stellt : Stellt (sekunde u p) q.pwmWidth q.pwmEnd

/-- The report changes its own counter. -/
theorem NachTick.melden {t : HeizungIO} (h : NachTick u p t.dev) :
    NachTick u p (waermebedarfMelden selfaddr t).dev := by
  obtain ⟨⟨n, hdev⟩, -, -⟩ := waermebedarfMelden_spec selfaddr t
  rw [hdev]
  exact ⟨h.config, h.mode, h.duration, h.pwmCounter, h.heizstop, h.alter, h.pflege, h.rate,
    h.stellt⟩

/-- A second, and what a mode or the care of the valve sets. -/
theorem NachTick.gestellt (n : UInt8) {rate : UInt8} {width pend : UInt16} (bedarf : UInt8)
    (soll : Int16) (hrate : rate = p.manualRate ∨ rate = 0)
    (hstellt : Stellt (sekunde u p) width pend) :
    NachTick u p (gestellt (timerCounterTo n (sekunde u p)) rate width pend bedarf soll) :=
  ⟨rfl, rfl, rfl, rfl, rfl, rfl, rfl, hrate, hstellt⟩

theorem Stellt.refl : Stellt p p.pwmWidth p.pwmEnd := Or.inl ⟨rfl, rfl⟩

/-- The care of the valve changes the manual rate. -/
theorem ventilpflegeAktiv_dev : (ventilpflegeAktiv s).dev = gestellt s.dev 0 s.dev.pwmWidth
    s.dev.pwmEnd s.dev.waermebedarfCounter s.dev.lastSollTemp := rfl

theorem ventilpflegeAktiv_sent : (ventilpflegeAktiv s).sent = s.sent := rfl

/-- **What a tick leaves.** -/
theorem tick_sekunde : NachTick u s.dev (heizStep selfaddr s (.tick u)).dev := by
  have hsekunde := jedeSekunde_dev selfaddr u s
  by_cases htimer : s.dev.timerCounter ≥ 5
  · by_cases hpflege : pflegeNach u s.dev = 0
    · rw [tick_zyklus selfaddr u htimer hpflege]
      apply NachTick.melden
      obtain ⟨-, ⟨rate, width, pend, bedarf, soll, hdev, hstellt, -, hrate⟩, -⟩ :=
        modeZyklus_spec selfaddr u ((jedeSekunde selfaddr u s).update (timerCounterTo 0))
      rw [hdev]
      rw [update_dev, hsekunde] at hstellt hrate ⊢
      exact .gestellt u s.dev 0 bedarf soll hrate hstellt
    · rw [tick_pflegt selfaddr u htimer hpflege, ventilpflegeAktiv_dev, update_dev, hsekunde]
      exact .gestellt u s.dev 0 _ _ (Or.inr rfl) (.refl _)
  · rw [tick_zaehlt selfaddr u htimer]
    apply NachTick.melden
    rw [update_dev, hsekunde]
    exact ⟨rfl, rfl, rfl, rfl, rfl, rfl, rfl, Or.inl rfl, .refl (sekunde u s.dev)⟩

/-- **The valve after a tick**: the care opens it at the end of a cycle, a heating that
is off closes it there, and otherwise it is the pulse width modulation's. -/
theorem tick_ventil : (heizStep selfaddr s (.tick u)).ventil =
    if s.dev.timerCounter ≥ 5 ∧ pflegeNach u s.dev ≠ 0 then true
    else if s.dev.timerCounter ≥ 5 ∧ (sekunde u s.dev).mode = .off then false
    else decide (pwmNext s.dev < s.dev.pwmWidth) := by
  have hsekunde (n : UInt8) : ((jedeSekunde selfaddr u s).update (timerCounterTo n)).ventil =
      decide (pwmNext s.dev < s.dev.pwmWidth) := by
    rw [timerCounterTo_ventil, jedeSekunde_ventil]
  by_cases htimer : s.dev.timerCounter ≥ 5
  · by_cases hpflege : pflegeNach u s.dev = 0
    · rw [if_neg (fun h => h.2 hpflege), tick_zyklus selfaddr u htimer hpflege]
      obtain ⟨-, hmelden, -⟩ := waermebedarfMelden_spec selfaddr
        (modeZyklus selfaddr u ((jedeSekunde selfaddr u s).update (timerCounterTo 0)))
      obtain ⟨-, -, hmode⟩ :=
        modeZyklus_spec selfaddr u ((jedeSekunde selfaddr u s).update (timerCounterTo 0))
      rw [hmelden, hmode, hsekunde, update_dev, jedeSekunde_dev]
      simp only [htimer, true_and]
      rfl
    · rw [if_pos ⟨htimer, hpflege⟩, tick_pflegt selfaddr u htimer hpflege]
      exact setpin_ventil _ _
  · obtain ⟨-, hmelden, -⟩ := waermebedarfMelden_spec selfaddr
      ((jedeSekunde selfaddr u s).update (timerCounterTo (s.dev.timerCounter + 1)))
    rw [if_neg (fun h => htimer h.1), if_neg (fun h => htimer h.1), tick_zaehlt selfaddr u htimer,
      hmelden, hsekunde]

/-! ## The reports of a tick -/

/-- The frames sent between two states. -/
def gesendet (s t : HeizungIO) : List CanixFrame := t.sent.drop s.sent.length

theorem gesendet_eq {s t : HeizungIO} {neu : List CanixFrame} (h : t.sent = s.sent ++ neu) :
    gesendet s t = neu := by
  unfold gesendet
  rw [h, List.drop_left]

theorem SendetKeinen.gesendet {s t : HeizungIO} (h : SendetKeinen s t) {f : CanixFrame}
    (hf : f ∈ gesendet s t) : istWaermebedarf f = false := by
  obtain ⟨neu, hsent, hneu⟩ := h
  rw [gesendet_eq hsent] at hf
  exact hneu f hf

/-- What is sent up to a report: the report, when it is due, and no other. -/
theorem gesendet_melden {r : HeizungIO} (h : SendetKeinen r s) {f : CanixFrame}
    (hf : f ∈ gesendet r (waermebedarfMelden selfaddr s)) (hbedarf : istWaermebedarf f = true) :
    meldet s.dev = true ∧ f = bedarfFrame selfaddr (waermebedarfMelden selfaddr s).dev := by
  obtain ⟨neu, hsent, hneu⟩ := h
  obtain ⟨⟨n, hdev⟩, -, hmelden⟩ := waermebedarfMelden_spec selfaddr s
  rw [hsent, List.append_assoc] at hmelden
  rw [gesendet_eq hmelden] at hf
  rcases List.mem_append.mp hf with hf | hf
  · exact absurd hbedarf (by rw [hneu f hf]; decide)
  · split at hf
    · rename_i hmeldet
      refine ⟨hmeldet, ?_⟩
      rw [List.mem_singleton.mp hf, hdev]
      rfl
    · exact nomatch hf

theorem melden_gesendet {r : HeizungIO} (h : SendetKeinen r s) (hmeldet : meldet s.dev = true) :
    bedarfFrame selfaddr s.dev ∈ gesendet r (waermebedarfMelden selfaddr s) := by
  obtain ⟨neu, hsent, -⟩ := h
  obtain ⟨-, -, hmelden⟩ := waermebedarfMelden_spec selfaddr s
  rw [hsent, List.append_assoc, hmeldet, if_pos rfl] at hmelden
  rw [gesendet_eq hmelden]
  exact List.mem_append_right neu (List.mem_singleton_self _)

/-- A second sends no report before it is over. -/
theorem sekunde_sent (n : UInt8) :
    SendetKeinen s ((jedeSekunde selfaddr u s).update (timerCounterTo n)) :=
  (jedeSekunde_sent selfaddr u s).trans (.of_sent _ (update_sent _ _))

/-- **The reports of a tick**: the one of the state it leaves, never while the valve is
exercised, and inside a cycle only when it is due. -/
theorem tick_bericht {f : CanixFrame} (hf : f ∈ gesendet s (heizStep selfaddr s (.tick u)))
    (hbedarf : istWaermebedarf f = true) :
    f = bedarfFrame selfaddr (heizStep selfaddr s (.tick u)).dev ∧
      ¬ (s.dev.timerCounter ≥ 5 ∧ pflegeNach u s.dev ≠ 0) ∧
      (¬ s.dev.timerCounter ≥ 5 → meldet (sekunde u s.dev) = true) := by
  by_cases htimer : s.dev.timerCounter ≥ 5
  · by_cases hpflege : pflegeNach u s.dev = 0
    · rw [tick_zyklus selfaddr u htimer hpflege] at hf ⊢
      obtain ⟨hsent, -, -⟩ :=
        modeZyklus_spec selfaddr u ((jedeSekunde selfaddr u s).update (timerCounterTo 0))
      obtain ⟨-, heq⟩ := gesendet_melden selfaddr _ ((sekunde_sent selfaddr u s 0).trans hsent)
        hf hbedarf
      exact ⟨heq, fun h => h.2 hpflege, fun h => absurd htimer h⟩
    · rw [tick_pflegt selfaddr u htimer hpflege] at hf
      have hkein : istWaermebedarf f = false :=
        ((sekunde_sent selfaddr u s 0).trans (.of_sent _ (ventilpflegeAktiv_sent _))).gesendet hf
      exact absurd hbedarf (by rw [hkein]; decide)
  · rw [tick_zaehlt selfaddr u htimer] at hf ⊢
    obtain ⟨hmeldet, heq⟩ := gesendet_melden selfaddr _ (sekunde_sent selfaddr u s _) hf hbedarf
    rw [update_dev, jedeSekunde_dev] at hmeldet
    exact ⟨heq, fun h => htimer h.1, fun _ => hmeldet⟩

/-- A report that is due inside a cycle is sent. -/
theorem tick_meldet (htimer : ¬ s.dev.timerCounter ≥ 5)
    (hmeldet : meldet (sekunde u s.dev) = true) :
    ∃ f ∈ gesendet s (heizStep selfaddr s (.tick u)), istWaermebedarf f = true := by
  have hdue : meldet ((jedeSekunde selfaddr u s).update
      (timerCounterTo (s.dev.timerCounter + 1))).dev = true := by
    rw [update_dev, jedeSekunde_dev]
    exact hmeldet
  rw [tick_zaehlt selfaddr u htimer]
  exact ⟨_, melden_gesendet selfaddr _ (sekunde_sent selfaddr u s _) hdue, rfl⟩

/-! ## A frame -/

/-- Frames change the target temperatures of the configuration, and nothing else
of it. -/
structure GleicheKonfig (c c' : EdsHeizungBlock) : Prop where
  id : c'.id = c.id
  port : c'.port = c.port
  pwmPeriode : c'.pwmPeriode = c.pwmPeriode
  feature : c'.feature = c.feature

/-- **What a frame leaves**: the pulse width modulation, the valve and its care. -/
structure FrameLaesst (s t : HeizungIO) : Prop where
  config : GleicheKonfig s.dev.config t.dev.config
  pwmCounter : t.dev.pwmCounter = s.dev.pwmCounter
  pwmWidth : t.dev.pwmWidth = s.dev.pwmWidth
  pwmEnd : t.dev.pwmEnd = s.dev.pwmEnd
  timerCounter : t.dev.timerCounter = s.dev.timerCounter
  pflege : t.dev.ventilpflegeCounter = s.dev.ventilpflegeCounter
  ventil : t.ventil = s.ventil

theorem setMode_laesst (f : CanixFrame) : FrameLaesst s (s.update (setMode f)) := by
  have hdev : ∃ mode rate temp duration, setMode f s.dev =
      { s.dev with
        mode := mode, manualRate := rate, thermostatTemp := temp, durationCounter := duration } := by
    unfold setMode
    dsimp only
    split
    · exact ⟨_, _, _, _, rfl⟩
    · split
      · exact ⟨_, _, _, _, rfl⟩
      · split
        · exact ⟨_, _, _, _, rfl⟩
        · split
          · exact ⟨_, _, _, _, rfl⟩
          · exact ⟨s.dev.mode, s.dev.manualRate, s.dev.thermostatTemp, s.dev.durationCounter, rfl⟩
  obtain ⟨mode, rate, temp, duration, hdev⟩ := hdev
  have hconfig : (setMode f s.dev).config = s.dev.config := by rw [hdev]
  constructor
  · rw [update_dev, hconfig]
    exact ⟨rfl, rfl, rfl, rfl⟩
  · rw [update_dev, hdev]
  · rw [update_dev, hdev]
  · rw [update_dev, hdev]
  · rw [update_dev, hdev]
  · rw [update_dev, hdev]
  · exact update_ventil s (by rw [hconfig])

theorem frame_laesst (f : CanixFrame) : FrameLaesst s (heizStep selfaddr s (.frame u f)) := by
  have hsame : FrameLaesst s s := ⟨⟨rfl, rfl, rfl, rfl⟩, rfl, rfl, rfl, rfl, rfl, rfl⟩
  show FrameLaesst s (heizungCanCallback selfaddr u f s)
  unfold heizungCanCallback
  dsimp only
  split
  · split
    · exact ⟨⟨rfl, rfl, rfl, rfl⟩, rfl, rfl, rfl, rfl, rfl, rfl⟩
    · exact hsame
  · split
    · split
      · have h := setMode_laesst s f
        exact ⟨h.config, h.pwmCounter, h.pwmWidth, h.pwmEnd, h.timerCounter, h.pflege, h.ventil⟩
      · exact hsame
    · split
      · split
        · exact ⟨⟨rfl, rfl, rfl, rfl⟩, rfl, rfl, rfl, rfl, rfl, rfl⟩
        · exact hsame
      · split
        · unfold caseReedkontaktOffen HeizungIO.update
          dsimp only
          split
          · exact ⟨⟨rfl, rfl, rfl, rfl⟩, rfl, rfl, rfl, rfl, rfl, rfl⟩
          · exact hsame
        · split
          · exact ⟨⟨rfl, rfl, rfl, rfl⟩, rfl, rfl, rfl, rfl, rfl, rfl⟩
          · exact hsame

/-- No answer is a report. -/
theorem antwort_no_waermebedarf (f : CanixFrame) (dst : UInt16) {bytes : List UInt8}
    (h : antwort u f p = some bytes) :
    istWaermebedarf (hesFrame selfaddr dst bytes) = false := by
  unfold antwort at h
  dsimp only at h
  split at h
  · rw [← Option.some.inj h]
    exact details_no_waermebedarf selfaddr u p dst
  · split at h
    · rw [← Option.some.inj h]
      rfl
    · split at h
      · rw [← Option.some.inj h]
        rfl
      · split at h
        · obtain ⟨line, -, hline⟩ := Option.map_eq_some_iff.mp h
          rw [← hline]
          rfl
        · exact nomatch h

/-- Frames are answered, and never by a report. -/
theorem frame_sent (f : CanixFrame) : SendetKeinen s (heizStep selfaddr s (.frame u f)) := by
  show SendetKeinen s (heizungCanCallback selfaddr u f s)
  unfold heizungCanCallback
  dsimp only
  split
  · split
    · exact .of_sent s rfl
    · exact .refl s
  · split
    · split
      · exact (SendetKeinen.of_sent s (update_sent s _)).trans (.details selfaddr u _ _)
      · exact .refl s
    · split
      · split
        · exact (SendetKeinen.of_sent s (update_sent s _)).trans (.send _ rfl)
        · exact .refl s
      · split
        · exact .of_sent s rfl
        · split
          · rename_i bytes hbytes
            exact .send s (antwort_no_waermebedarf selfaddr u s.dev f f.src hbytes)
          · exact .refl s

/-- A frame that sets no mode leaves the mode, its duration and its rate alone. -/
theorem frame_mode {f : CanixFrame} (h : setztMode f = true → s.dev.config.id ≠ f.byte 2) :
    (heizStep selfaddr s (.frame u f)).dev.mode = s.dev.mode ∧
      (heizStep selfaddr s (.frame u f)).dev.durationCounter = s.dev.durationCounter ∧
      (heizStep selfaddr s (.frame u f)).dev.manualRate = s.dev.manualRate := by
  show (heizungCanCallback selfaddr u f s).dev.mode = _ ∧
    (heizungCanCallback selfaddr u f s).dev.durationCounter = _ ∧
    (heizungCanCallback selfaddr u f s).dev.manualRate = _
  unfold heizungCanCallback
  dsimp only
  split
  · split
    · exact ⟨rfl, rfl, rfl⟩
    · exact ⟨rfl, rfl, rfl⟩
  · split
    · rename_i hset
      rw [if_neg (h hset)]
      exact ⟨rfl, rfl, rfl⟩
    · split
      · split
        · exact ⟨rfl, rfl, rfl⟩
        · exact ⟨rfl, rfl, rfl⟩
      · split
        · unfold caseReedkontaktOffen
          rw [update_dev]
          split
          · exact ⟨rfl, rfl, rfl⟩
          · exact ⟨rfl, rfl, rfl⟩
        · split
          · exact ⟨rfl, rfl, rfl⟩
          · exact ⟨rfl, rfl, rfl⟩

/-- A frame that sets a mode. -/
theorem frame_setMode {f : CanixFrame} (h : setztMode f = true) (hid : s.dev.config.id = f.byte 2) :
    (heizStep selfaddr s (.frame u f)).dev = setMode f s.dev := by
  have hno : f.byte 1 ≠ hcanHes1WireTemperature := by
    intro hcmd
    unfold setztMode at h
    rw [hcmd] at h
    exact absurd h (by decide)
  show (heizungCanCallback selfaddr u f s).dev = _
  unfold heizungCanCallback
  dsimp only
  rw [if_neg hno, if_pos h, if_pos hid]
  rfl

end

end OpenHcan.Heizung
