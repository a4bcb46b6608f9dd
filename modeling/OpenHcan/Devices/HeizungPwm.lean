import Mathlib.Algebra.Order.Field.Rat
import Mathlib.Algebra.Order.Interval.Finset.Basic
import Mathlib.Data.Nat.Periodic
import OpenHcan.Devices.HeizungRuns

/-!
# HeizungPwm — the valve over a period

The counter runs round the period, so a period that starts anywhere meets every
value of the counter once, and the valve is open for as many seconds as the
pulse is wide.
-/

namespace OpenHcan.Heizung

open Lib

set_option maxRecDepth 100000

/-! ## The property -/

/-- So many of the next `n` calls of `heizung_handle_pwm` leave the valve open. -/
def offenIn (s : HeizungIO) (n : Nat) : Nat :=
  Nat.count (fun k => (heizungHandlePwm^[k + 1] s).ventil = true) n

/-- `heizung_set_pwm` has set the pulse width and the period of `q` for a rate. -/
def GestelltFuer (p : DeviceDataHeizung) (rate : UInt8) (q : DeviceDataHeizung) : Prop :=
  q.pwmEnd = (heizungSetPwm p rate).pwmEnd ∧ q.pwmWidth = (heizungSetPwm p rate).pwmWidth

/-- The valve is open for the rate of every period, wherever the period starts. -/
def ImPeriodeGenau (p : DeviceDataHeizung) (rate : UInt8) (s : HeizungIO) : Prop :=
  s.dev.pwmCounter.toNat < p.config.pwmPeriode.toNat →
    offenIn s p.config.pwmPeriode.toNat = p.config.pwmPeriode.toNat * rate.toNat / 100

/-- The rate that is read back is lower than the one that was set, but not by much. -/
def ZurueckGelesen (p : DeviceDataHeizung) (rate : UInt8) (q : DeviceDataHeizung) : Prop :=
  q.mode ≠ .off →
    (heizungGetPwm q).toNat ≤ rate.toNat ∧
      (rate.toNat : ℚ) - 100 / p.config.pwmPeriode.toNat - 1 < (heizungGetPwm q).toNat

/-- A heating that is stopped at two ticks is closed after them, unless the valve is
exercised. -/
def HeizstopSchliesst (selfaddr : UInt16) (s : HeizungIO) : Prop :=
  ∀ (u u' : Umgebung) (fs gs : List HeizEvent), (∀ e ∈ fs ++ gs, e.isTick = false) →
    (heizStep selfaddr s (.tick u)).dev.reedHeizStopCounter > 0 →
    (run (heizStep selfaddr) s (.tick u :: fs ++ .tick u' :: gs)).dev.ventilpflegeCounter = 0 →
    (run (heizStep selfaddr) s (.tick u :: fs ++ .tick u' :: gs)).ventil = false

/-! ## The counter runs round -/

section

variable {s : HeizungIO} {p : DeviceDataHeizung}

theorem pwmNext_toNat (h : p.pwmCounter.toNat < p.pwmEnd.toNat) :
    (pwmNext p).toNat = (p.pwmCounter.toNat + 1) % p.pwmEnd.toNat := by
  have hend := p.pwmEnd.toNat_lt
  have hnext : (p.pwmCounter + 1).toNat = p.pwmCounter.toNat + 1 := by
    rw [UInt16.toNat_add]
    exact Nat.mod_eq_of_lt (by rw [UInt16.toNat_one]; omega)
  unfold pwmNext
  split
  · rename_i hwrap
    have hle := UInt16.le_iff_toNat_le.mp hwrap
    rw [hnext] at hle
    rw [show p.pwmCounter.toNat + 1 = p.pwmEnd.toNat by omega, Nat.mod_self]
    rfl
  · rename_i hno
    have hlt : p.pwmCounter.toNat + 1 < p.pwmEnd.toNat := by
      rw [← hnext]
      exact Nat.lt_of_not_le fun hle => hno (UInt16.le_iff_toNat_le.mpr hle)
    rw [hnext, Nat.mod_eq_of_lt hlt]

/-- The data with another counter. -/
def pwmStand (p : DeviceDataHeizung) (c : UInt16) : DeviceDataHeizung := { p with pwmCounter := c }

/-- **The counter after `n` calls**: only it has changed. -/
theorem handlePwm_iterate (h : s.dev.pwmCounter.toNat < s.dev.pwmEnd.toNat) (n : Nat) :
    ∃ c : UInt16, (heizungHandlePwm^[n] s).dev = pwmStand s.dev c ∧
      c.toNat = (s.dev.pwmCounter.toNat + n) % s.dev.pwmEnd.toNat := by
  induction n with
  | zero => exact ⟨s.dev.pwmCounter, rfl, (Nat.mod_eq_of_lt h).symm⟩
  | succ n ih =>
      obtain ⟨c, hdev, hc⟩ := ih
      have hlt : c.toNat < s.dev.pwmEnd.toNat := by
        rw [hc]
        exact Nat.mod_lt _ (by omega)
      refine ⟨pwmNext (pwmStand s.dev c), ?_, ?_⟩
      · rw [Function.iterate_succ_apply', heizungHandlePwm_dev, hdev]
        rfl
      · rw [pwmNext_toNat (p := pwmStand s.dev c) hlt]
        show (c.toNat + 1) % s.dev.pwmEnd.toNat = _
        rw [hc, Nat.mod_add_mod]
        rfl

/-- The valve after `n + 1` calls. -/
theorem handlePwm_iterate_ventil (h : s.dev.pwmCounter.toNat < s.dev.pwmEnd.toNat) (n : Nat) :
    (heizungHandlePwm^[n + 1] s).ventil = true ↔
      (s.dev.pwmCounter.toNat + (n + 1)) % s.dev.pwmEnd.toNat < s.dev.pwmWidth.toNat := by
  obtain ⟨c, hdev, hc⟩ := handlePwm_iterate h n
  have hlt : c.toNat < s.dev.pwmEnd.toNat := by
    rw [hc]
    exact Nat.mod_lt _ (by omega)
  rw [Function.iterate_succ_apply', heizungHandlePwm_ventil, hdev, decide_eq_true_iff,
    UInt16.lt_iff_toNat_lt, pwmNext_toNat (p := pwmStand s.dev c) hlt]
  show (c.toNat + 1) % s.dev.pwmEnd.toNat < s.dev.pwmWidth.toNat ↔ _
  rw [hc, Nat.mod_add_mod]
  rfl

/-! ## One period -/

/-- What holds once in every period holds as often wherever the period starts. -/
theorem count_periode {a : Nat} (n : Nat) (q : Nat → Prop) [DecidablePred q]
    (hq : Function.Periodic q a) : Nat.count (fun k => q (n + k)) a = Nat.count q a := by
  have hshift := Finset.map_add_left_Ico 0 a n
  rw [Nat.add_zero] at hshift
  rw [← Nat.filter_Ico_card_eq_of_periodic n a q hq, ← hshift, Finset.filter_map, Finset.card_map,
    Nat.count_eq_card_filter_range, Finset.range_eq_Ico]
  rfl

/-- **The valve over a period** is open for as many seconds as the pulse is wide. -/
theorem offenIn_periode (h : s.dev.pwmCounter.toNat < s.dev.pwmEnd.toNat)
    (hwidth : s.dev.pwmWidth.toNat ≤ s.dev.pwmEnd.toNat) :
    offenIn s s.dev.pwmEnd.toNat = s.dev.pwmWidth.toNat := by
  have hcongr : offenIn s s.dev.pwmEnd.toNat = Nat.count (fun k =>
      (s.dev.pwmCounter.toNat + 1 + k) % s.dev.pwmEnd.toNat < s.dev.pwmWidth.toNat)
      s.dev.pwmEnd.toNat := by
    unfold offenIn
    rw [Nat.count_eq_card_filter_range, Nat.count_eq_card_filter_range]
    apply congrArg Finset.card
    apply Finset.filter_congr
    intro k _
    rw [handlePwm_iterate_ventil h, Nat.add_assoc, Nat.add_comm 1 k]
  -- a period may as well start at 0
  rw [hcongr, count_periode (s.dev.pwmCounter.toNat + 1)
    (fun k => k % s.dev.pwmEnd.toNat < s.dev.pwmWidth.toNat), Nat.count_eq_card_filter_range]
  · have hrange : (Finset.range s.dev.pwmEnd.toNat).filter
        (fun k => k % s.dev.pwmEnd.toNat < s.dev.pwmWidth.toNat) =
        Finset.range s.dev.pwmWidth.toNat := by
      ext k
      simp only [Finset.mem_filter, Finset.mem_range]
      constructor
      · rintro ⟨hk, hmod⟩
        rwa [Nat.mod_eq_of_lt hk] at hmod
      · intro hk
        exact ⟨by omega, by rw [Nat.mod_eq_of_lt (by omega)]; exact hk⟩
    rw [hrange, Finset.card_range]
  · intro k
    apply propext
    dsimp only
    rw [Nat.add_mod_right]

/-! ## The rate -/

/-- The pulse width of a rate fits. -/
theorem breite_toNat (hreed : p.reedHeizStopCounter = 0) (rate : UInt8) :
    (breite p rate).toNat = p.config.pwmPeriode.toNat * rate.toNat / 100 := by
  have hmul : p.config.pwmPeriode.toNat * rate.toNat ≤ 256 * 256 :=
    Nat.mul_le_mul p.config.pwmPeriode.toNat_lt.le rate.toNat_lt.le
  unfold breite
  rw [if_neg (not_not_intro hreed)]
  exact UInt16.toNat_ofNat_of_lt' (by rw [UInt16.size]; omega)

/-- What `heizung_set_pwm` has set for a rate. -/
theorem gestelltFuer_toNat {q : DeviceDataHeizung} (hreed : p.reedHeizStopCounter = 0)
    {rate : UInt8} (hq : GestelltFuer p rate q) :
    q.pwmEnd.toNat = p.config.pwmPeriode.toNat ∧
      q.pwmWidth.toNat = p.config.pwmPeriode.toNat * rate.toNat / 100 := by
  obtain ⟨hend, hwidth⟩ := hq
  rw [heizungSetPwm_eq] at hend hwidth
  rw [hend, hwidth]
  exact ⟨UInt8.toNat_toUInt16 _, breite_toNat hreed rate⟩

theorem imPeriodeGenau (hreed : p.reedHeizStopCounter = 0) {rate : UInt8} (hrate : rate ≤ 100)
    (hs : GestelltFuer p rate s.dev) : ImPeriodeGenau p rate s := by
  intro hcounter
  obtain ⟨hend, hwidth⟩ := gestelltFuer_toNat hreed hs
  have hle : rate.toNat ≤ 100 := UInt8.le_iff_toNat_le.mp hrate
  have hmul : p.config.pwmPeriode.toNat * rate.toNat ≤ p.config.pwmPeriode.toNat * 100 :=
    Nat.mul_le_mul_left _ hle
  have hperiode := offenIn_periode (s := s) (by rw [hend]; exact hcounter)
    (by rw [hend, hwidth]; omega)
  rw [hend, hwidth] at hperiode
  exact hperiode

/-- There and back loses less than one hundredth of the period and one percent. -/
theorem rueckrechnung {periode : Nat} (rate : Nat) (h : 0 < periode) :
    periode * rate / 100 * 100 / periode ≤ rate ∧
      (rate : ℚ) - 100 / periode - 1 < (periode * rate / 100 * 100 / periode : Nat) := by
  have hwidth := Nat.div_add_mod (periode * rate) 100
  have hmod := Nat.mod_lt (periode * rate) (show 100 > 0 by decide)
  have hback := Nat.div_add_mod (periode * rate / 100 * 100) periode
  have hmod' := Nat.mod_lt (periode * rate / 100 * 100) h
  generalize periode * rate / 100 * 100 / periode = r at hback ⊢
  have hpos : (0 : ℚ) < periode := Nat.cast_pos.mpr h
  constructor
  · apply Nat.le_of_mul_le_mul_left _ h
    omega
  · -- the period times the rate, without divisions
    have hnat : periode * rate < periode * r + 100 + periode := by omega
    have hq : (periode : ℚ) * rate < periode * r + 100 + periode := by exact_mod_cast hnat
    have hdiv : (periode : ℚ) * (100 / periode) = 100 := mul_div_cancel₀ 100 hpos.ne'
    apply lt_of_mul_lt_mul_left _ hpos.le
    rw [mul_sub, mul_sub, hdiv, mul_one, sub_sub, sub_lt_iff_lt_add, ← add_assoc]
    exact hq

theorem zurueckGelesen {q : DeviceDataHeizung} (hperiode : p.config.pwmPeriode ≠ 0)
    (hreed : p.reedHeizStopCounter = 0) {rate : UInt8} (hq : GestelltFuer p rate q) :
    ZurueckGelesen p rate q := by
  intro hmode
  obtain ⟨hend, hwidth⟩ := gestelltFuer_toNat hreed hq
  have hpos : 0 < p.config.pwmPeriode.toNat := by
    apply Nat.pos_of_ne_zero
    intro hzero
    exact hperiode (UInt8.toNat_inj.mp hzero)
  have hne : q.pwmEnd ≠ 0 := by
    intro hzero
    rw [hzero] at hend
    exact absurd hend hpos.ne
  obtain ⟨hle, hlt⟩ := rueckrechnung rate.toNat hpos
  have hget : (heizungGetPwm q).toNat =
      p.config.pwmPeriode.toNat * rate.toNat / 100 * 100 / p.config.pwmPeriode.toNat := by
    unfold heizungGetPwm
    rw [if_pos hmode, if_neg hne, hend, hwidth]
    apply UInt8.toNat_ofNat_of_lt'
    exact lt_of_le_of_lt hle rate.toNat_lt
  rw [hget]
  exact ⟨hle, hlt⟩

/-! ## The heat stop -/

/-- While a heating is stopped, every pulse width that is set is 0. -/
theorem Stellt.width_of_stop {width pend : UInt16} (h : Stellt p width pend)
    (hreed : p.reedHeizStopCounter ≠ 0) (hp : p.pwmWidth = 0) : width = 0 := by
  rcases h with ⟨hwidth, -⟩ | ⟨-, rate, hwidth, -⟩
  · exact hwidth.trans hp
  · rw [hwidth]
    unfold breite
    exact if_pos hreed

variable (selfaddr : UInt16) (u : Umgebung)

/-- A tick after which the heating is still stopped leaves no pulse. -/
theorem tick_width_of_stop
    (hreed : (heizStep selfaddr s (.tick u)).dev.reedHeizStopCounter > 0) :
    (heizStep selfaddr s (.tick u)).dev.pwmWidth = 0 := by
  have htick := tick_sekunde selfaddr u s
  rw [htick.heizstop] at hreed
  have hne := UInt8.pos_iff_ne_zero.mp hreed
  apply htick.stellt.width_of_stop hne
  -- the second itself has closed the valve: it was stopped before, too
  apply if_neg
  intro hzero
  exact hne (if_pos hzero)

/-- Frames leave the pulse width, the valve and its care alone. -/
theorem run_frames {es : List HeizEvent} (hes : ∀ e ∈ es, e.isTick = false) (s : HeizungIO) :
    (run (heizStep selfaddr) s es).dev.pwmWidth = s.dev.pwmWidth ∧
      (run (heizStep selfaddr) s es).dev.ventilpflegeCounter = s.dev.ventilpflegeCounter ∧
      (run (heizStep selfaddr) s es).ventil = s.ventil := by
  induction es generalizing s with
  | nil => exact ⟨rfl, rfl, rfl⟩
  | cons e es ih =>
      cases e with
      | tick u => exact nomatch hes _ List.mem_cons_self
      | frame u f =>
          have hframe := frame_laesst selfaddr u s f
          obtain ⟨hwidth, hpflege, hventil⟩ :=
            ih (fun e he => hes e (List.mem_cons_of_mem _ he)) (heizStep selfaddr s (.frame u f))
          rw [run_cons, hwidth, hpflege, hventil]
          exact ⟨hframe.pwmWidth, hframe.pflege, hframe.ventil⟩

/-- **The heat stop** closes the valve at its second tick. -/
theorem heizstopSchliesst (s : HeizungIO) : HeizstopSchliesst selfaddr s := by
  intro u u' fs gs hframes hreed hpflege
  rw [run_append, run_cons, run_cons] at hpflege ⊢
  have hfs := run_frames selfaddr (fun e he => hframes e (List.mem_append_left gs he))
    (heizStep selfaddr s (.tick u))
  have hwidth := hfs.1.trans (tick_width_of_stop selfaddr u hreed)
  generalize run (heizStep selfaddr) (heizStep selfaddr s (.tick u)) fs = t at hpflege hwidth ⊢
  obtain ⟨-, hgs, hventil⟩ := run_frames selfaddr
    (fun e he => hframes e (List.mem_append_right fs he)) (heizStep selfaddr t (.tick u'))
  rw [hgs, (tick_sekunde selfaddr u' t).pflege] at hpflege
  rw [hventil, tick_ventil, if_neg (fun h => h.2 hpflege), hwidth]
  split
  · rfl
  · exact decide_eq_false (UInt16.not_lt_zero)

/-- **The pulse width modulation**: a period has the rate that was set, the rate is read
back rounded down, and an open window closes the valve. -/
theorem pwm_richtig :
    (∀ (p : DeviceDataHeizung) (rate : UInt8) (s : HeizungIO), p.config.pwmPeriode ≠ 0 →
      p.reedHeizStopCounter = 0 → rate ≤ 100 → GestelltFuer p rate s.dev →
        ImPeriodeGenau p rate s ∧ ZurueckGelesen p rate s.dev) ∧
      ∀ (it : UInt16) (p : DeviceDataHeizung) (es : List HeizEvent),
        HeizstopSchliesst selfaddr (run (heizStep selfaddr) (heizStart it p) es) := by
  constructor
  · intro p rate s hperiode hreed hrate hs
    exact ⟨imPeriodeGenau hreed hrate hs, zurueckGelesen hperiode hreed hs⟩
  · intro it p es
    exact heizstopSchliesst selfaddr _

/-- The heating 3 with an output 1, a period of 20 seconds and the contact 8. -/
private def wohnzimmer : DeviceDataHeizung where
  config := ⟨3, 1, 20, 9, Vector.replicate 8 ⟨255, 0⟩, 0, 4, Vector.replicate 8 8⟩
  it := 0
  mode := .manual
  manualRate := 37
  timerCounter := 0
  pwmCounter := 11
  pwmWidth := 0
  pwmEnd := 20
  waermebedarfCounter := 0
  receivedIntervalCounter := 0
  measureValue := 0
  durationCounter := 0
  thermostatTemp := 0
  lastSollTemp := 0
  reedHeizStopCounter := 0
  ventilpflegeCounter := 0

/-- Monday morning; no `zeitzone` matches. -/
private def montagMorgen : Umgebung := ⟨8, 0, 1, fun _ => false, fun _ => 0⟩

/-- 37 percent of 20 seconds are 7 seconds, and they are read back as 35 percent. -/
theorem pwm_richtig_wohnzimmer :
    offenIn ⟨heizungSetPwm wohnzimmer 37, fun _ => false, []⟩ 20 = 7 ∧
      (heizungGetPwm (heizungSetPwm wohnzimmer 37)).toNat ≤ 37 ∧
      (run (heizStep 5) (heizStart 0 wohnzimmer)
        [.frame montagMorgen (hesFrame 900 hcanMulticastInfo [hcanHesReedkontaktOffen, 8]),
          .tick montagMorgen, .tick montagMorgen]).ventil = false := by
  obtain ⟨hperiode, hstop⟩ := pwm_richtig 5
  obtain ⟨hgenau, hzurueck⟩ := hperiode wohnzimmer 37 ⟨heizungSetPwm wohnzimmer 37,
    fun _ => false, []⟩ (by decide) (by decide) (by decide) ⟨rfl, rfl⟩
  have hzwanzig : wohnzimmer.config.pwmPeriode.toNat = 20 := rfl
  unfold ImPeriodeGenau at hgenau
  rw [hzwanzig] at hgenau
  have hzu := hstop 0 wohnzimmer
    [.frame montagMorgen (hesFrame 900 hcanMulticastInfo [hcanHesReedkontaktOffen, 8])]
    montagMorgen montagMorgen [] [] (by simp) (by decide) (by decide)
  rw [← run_append] at hzu
  exact ⟨hgenau (by decide), (hzurueck (by decide)).1, hzu⟩

end

end OpenHcan.Heizung
