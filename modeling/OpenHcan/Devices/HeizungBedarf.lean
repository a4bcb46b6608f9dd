import OpenHcan.Devices.HeizungPwm

/-!
# HeizungBedarf — the heat demand that is reported

A report reads the rate back from the pulse width. The rate of the manual mode
comes from the bus, and no handler looks at its size.
-/

namespace OpenHcan.Heizung

open Lib

set_option maxRecDepth 100000

/-! ## The property -/

/-- The highest heat demand: it is doubled for two radiators. -/
def hoechstens (c : EdsHeizungBlock) : Nat := if c.has .doppelWaermebedarf then 200 else 100

/-- The pulse width modulation opens the valve in the period that follows. -/
def OeffnetSich (s : HeizungIO) : Prop :=
  ∃ k < s.dev.config.pwmPeriode.toNat, (heizungHandlePwm^[k + 1] s).ventil = true

/-- A heat demand that is possible, of a valve that opens. -/
def BedarfWahr (s : HeizungIO) (d : UInt8) : Prop :=
  d.toNat ≤ hoechstens s.dev.config ∧ (d > 0 → OeffnetSich s)

/-- The reports of a step are true. -/
def BerichtWahr (selfaddr : UInt16) (s : HeizungIO) (e : HeizEvent) : Prop :=
  ∀ f ∈ gesendet s (heizStep selfaddr s e), istWaermebedarf f = true →
    BedarfWahr (heizStep selfaddr s e) (f.byte 3)

/-! ## The condition -/

/-- The rate that is read back from the pulse of a rate. -/
def gelesen (periode rate : Nat) : Nat := periode * rate / 100 * 100 / periode

/-- A rate that is read back as a percentage, or doubles to one of two radiators in
eight bits. -/
def RateGut (c : EdsHeizungBlock) (rate : UInt8) : Prop :=
  if c.has .doppelWaermebedarf then gelesen c.pwmPeriode.toNat rate.toNat % 128 ≤ 100
  else gelesen c.pwmPeriode.toNat rate.toNat ≤ 100

/-- A frame that sets the manual mode of the heating carries such a rate. -/
def ManualGut (s : HeizungIO) (e : HeizEvent) : Prop :=
  ∀ u f, e = .frame u f → f.byte 1 = hcanHesHeizungSetModeManual →
    s.dev.config.id = f.byte 2 → RateGut s.dev.config (f.byte 3)

/-! ## The pulse of a good rate -/

section

variable {s : HeizungIO} {p : DeviceDataHeizung} {c : EdsHeizungBlock}

theorem gelesen_le {periode : Nat} (h : 0 < periode) (rate : Nat) : gelesen periode rate ≤ rate :=
  (rueckrechnung rate h).1

theorem rateGut_zero : RateGut c 0 := by
  have hzero : gelesen c.pwmPeriode.toNat 0 = 0 := by simp [gelesen]
  unfold RateGut
  rw [UInt8.toNat_zero, hzero]
  split
  · exact Nat.zero_le _
  · exact Nat.zero_le _

/-- A percentage is good. -/
theorem rateGut_of_le (h : 0 < c.pwmPeriode.toNat) {rate : UInt8} (hrate : rate.toNat ≤ 100) :
    RateGut c rate := by
  have hle := gelesen_le h rate.toNat
  unfold RateGut
  split
  · exact (Nat.mod_le _ _).trans (hle.trans hrate)
  · exact hle.trans hrate

theorem RateGut.config {c' : EdsHeizungBlock} {rate : UInt8} (h : RateGut c rate)
    (hc : GleicheKonfig c c') : RateGut c' rate := by
  unfold RateGut EdsHeizungBlock.has at h ⊢
  rw [hc.feature, hc.pwmPeriode]
  exact h

/-- The invariant: the period is that of the configuration, the counter is inside it,
and the pulse is that of a good rate. -/
structure Gestellt (p : DeviceDataHeizung) : Prop where
  pend : p.pwmEnd = p.config.pwmPeriode.toUInt16
  counter : p.pwmCounter.toNat < p.config.pwmPeriode.toNat
  manual : RateGut p.config p.manualRate
  width : ∃ rate, RateGut p.config rate ∧
    p.pwmWidth.toNat = p.config.pwmPeriode.toNat * rate.toNat / 100

theorem Gestellt.pend_toNat (h : Gestellt p) : p.pwmEnd.toNat = p.config.pwmPeriode.toNat := by
  rw [h.pend]
  exact UInt8.toNat_toUInt16 _

/-- A pulse opens the valve when the counter is 0 again. -/
theorem Gestellt.oeffnet (h : Gestellt s.dev) (hwidth : 0 < s.dev.pwmWidth.toNat) :
    OeffnetSich s := by
  have hpend := h.pend_toNat
  have hcounter := h.counter
  -- the call after which the counter is 0
  refine ⟨s.dev.config.pwmPeriode.toNat - 1 - s.dev.pwmCounter.toNat, by omega, ?_⟩
  rw [handlePwm_iterate_ventil (by rw [hpend]; exact hcounter), hpend,
    show s.dev.pwmCounter.toNat + (s.dev.config.pwmPeriode.toNat - 1 - s.dev.pwmCounter.toNat + 1) =
      s.dev.config.pwmPeriode.toNat by omega, Nat.mod_self]
  exact hwidth

/-- The rate that is read back from the pulse of a rate. -/
theorem getPwm_of_rate (hpos : 0 < p.config.pwmPeriode.toNat)
    (hpend : p.pwmEnd.toNat = p.config.pwmPeriode.toNat) (hmode : p.mode ≠ .off) {rate : UInt8}
    (hwidth : p.pwmWidth.toNat = p.config.pwmPeriode.toNat * rate.toNat / 100) :
    (heizungGetPwm p).toNat = gelesen p.config.pwmPeriode.toNat rate.toNat := by
  have hne : p.pwmEnd ≠ 0 := by
    intro hzero
    rw [hzero] at hpend
    exact absurd hpend hpos.ne
  unfold heizungGetPwm
  rw [if_pos hmode, if_neg hne, hpend, hwidth]
  apply UInt8.toNat_ofNat_of_lt'
  exact lt_of_le_of_lt (gelesen_le hpos rate.toNat) rate.toNat_lt

/-- **The heat demand is possible** exactly for the pulse of a good rate. -/
theorem bedarf_le_iff (hpos : 0 < p.config.pwmPeriode.toNat)
    (hpend : p.pwmEnd.toNat = p.config.pwmPeriode.toNat) (hmode : p.mode ≠ .off) {rate : UInt8}
    (hwidth : p.pwmWidth.toNat = p.config.pwmPeriode.toNat * rate.toNat / 100) :
    (waermebedarf p).toNat ≤ hoechstens p.config ↔ RateGut p.config rate := by
  have hget := getPwm_of_rate hpos hpend hmode hwidth
  have hlt : gelesen p.config.pwmPeriode.toNat rate.toNat < 256 :=
    lt_of_le_of_lt (gelesen_le hpos rate.toNat) rate.toNat_lt
  unfold waermebedarf hoechstens RateGut
  by_cases hdoppel : p.config.has .doppelWaermebedarf = true
  · -- twice the rate in eight bits
    rw [if_pos hdoppel, if_pos hdoppel, if_pos hdoppel, UInt8.toNat_shiftLeft, hget,
      show (1 : UInt8).toNat % 8 = 1 from rfl, Nat.shiftLeft_eq]
    omega
  · rw [if_neg hdoppel, if_neg hdoppel, if_neg hdoppel, hget]

/-- A heating that is off demands nothing. -/
theorem waermebedarf_off (hoff : p.mode = .off) : waermebedarf p = 0 := by
  have hzero : heizungGetPwm p = 0 := if_neg (not_not_intro hoff)
  unfold waermebedarf
  rw [hzero]
  split
  · rfl
  · rfl

theorem Gestellt.bedarf_le (h : Gestellt p) : (waermebedarf p).toNat ≤ hoechstens p.config := by
  by_cases hoff : p.mode = .off
  · rw [waermebedarf_off hoff]
    exact Nat.zero_le _
  · obtain ⟨rate, hgut, hwidth⟩ := h.width
    exact (bedarf_le_iff (Nat.zero_lt_of_lt h.counter) h.pend_toNat hoff hwidth).mpr hgut

/-- A valve whose pulse is 0 demands nothing. -/
theorem Gestellt.bedarf_zero (h : Gestellt p) (hzero : p.pwmWidth.toNat = 0) :
    waermebedarf p = 0 := by
  by_cases hoff : p.mode = .off
  · exact waermebedarf_off hoff
  · obtain ⟨rate, -, hwidth⟩ := h.width
    have hget : heizungGetPwm p = 0 := by
      apply UInt8.toNat_inj.mp
      rw [getPwm_of_rate (Nat.zero_lt_of_lt h.counter) h.pend_toNat hoff hwidth]
      unfold gelesen
      rw [← hwidth, hzero, Nat.zero_mul, Nat.zero_div]
      rfl
    unfold waermebedarf
    rw [hget]
    split
    · rfl
    · rfl

/-- **The heat demand** of the pulse of a good rate is true. -/
theorem Gestellt.bedarfWahr (h : Gestellt s.dev) : BedarfWahr s (waermebedarf s.dev) := by
  refine ⟨h.bedarf_le, fun hpos => h.oeffnet ?_⟩
  apply Nat.pos_of_ne_zero
  intro hzero
  rw [h.bedarf_zero hzero] at hpos
  exact absurd hpos (by decide)

/-! ## The steps -/

variable (selfaddr : UInt16)

/-- A pulse width that a good state is given is that of a good rate. -/
theorem Gestellt.stellt (h : Gestellt p) {u : Umgebung} {width pend : UInt16}
    (hs : Stellt (sekunde u p) width pend) :
    pend = p.config.pwmPeriode.toUInt16 ∧
      ∃ rate, RateGut p.config rate ∧
        width.toNat = p.config.pwmPeriode.toNat * rate.toNat / 100 := by
  have hpos : 0 < p.config.pwmPeriode.toNat := Nat.zero_lt_of_lt h.counter
  have hzu : ∃ rate, RateGut p.config rate ∧
      (0 : UInt16).toNat = p.config.pwmPeriode.toNat * rate.toNat / 100 :=
    ⟨0, rateGut_zero, by simp⟩
  rcases hs with ⟨hwidth, hpend⟩ | ⟨hpend, rate, hwidth, hrate⟩
  · -- left alone, or closed by the heat stop
    rw [hwidth, hpend]
    show (if p.reedHeizStopCounter = 0 then p.pwmEnd else _) = _ ∧
      ∃ rate, RateGut p.config rate ∧
        UInt16.toNat (if p.reedHeizStopCounter = 0 then p.pwmWidth else 0) = _
    split
    · exact ⟨h.pend, h.width⟩
    · exact ⟨rfl, hzu⟩
  · -- set in this tick: to 0, to full or to the manual rate
    refine ⟨hpend, ?_⟩
    rw [hwidth]
    by_cases hreed : (sekunde u p).reedHeizStopCounter = 0
    · refine ⟨rate, ?_, breite_toNat hreed rate⟩
      rcases hrate with hrate | hrate | ⟨-, hrate⟩
      · rw [hrate]
        exact rateGut_zero
      · rw [hrate]
        exact rateGut_of_le hpos (by decide)
      · rw [hrate]
        exact h.manual
    · have hstop : breite (sekunde u p) rate = 0 := if_pos hreed
      rw [hstop]
      exact hzu

/-- A tick keeps the invariant. -/
theorem Gestellt.tick (h : Gestellt s.dev) (u : Umgebung) :
    Gestellt (heizStep selfaddr s (.tick u)).dev := by
  have htick := tick_sekunde selfaddr u s
  obtain ⟨hpend, hwidth⟩ := h.stellt htick.stellt
  have hcounter : (pwmNext s.dev).toNat < s.dev.config.pwmPeriode.toNat := by
    rw [pwmNext_toNat (by rw [h.pend_toNat]; exact h.counter), h.pend_toNat]
    exact Nat.mod_lt _ (Nat.zero_lt_of_lt h.counter)
  have hmanual : RateGut s.dev.config (heizStep selfaddr s (.tick u)).dev.manualRate := by
    rcases htick.rate with hrate | hrate
    · rw [hrate]
      exact h.manual
    · rw [hrate]
      exact rateGut_zero
  constructor
  · rw [htick.config]
    exact hpend
  · rw [htick.config, htick.pwmCounter]
    exact hcounter
  · rw [htick.config]
    exact hmanual
  · rw [htick.config]
    exact hwidth

/-- A frame leaves the manual rate, or sets it to the one it carries. -/
theorem frame_manualRate (u : Umgebung) (f : CanixFrame) :
    (heizStep selfaddr s (.frame u f)).dev.manualRate = s.dev.manualRate ∨
      f.byte 1 = hcanHesHeizungSetModeManual ∧ s.dev.config.id = f.byte 2 ∧
        (heizStep selfaddr s (.frame u f)).dev.manualRate = f.byte 3 := by
  by_cases hset : setztMode f = true ∧ s.dev.config.id = f.byte 2
  · rw [frame_setMode selfaddr u s hset.1 hset.2]
    unfold setMode
    dsimp only
    split
    · exact Or.inl rfl
    · split
      · rename_i hmanual
        exact Or.inr ⟨hmanual, hset.2, rfl⟩
      · split
        · exact Or.inl rfl
        · split
          · exact Or.inl rfl
          · exact Or.inl rfl
  · exact Or.inl (frame_mode selfaddr u s fun h hid => hset ⟨h, hid⟩).2.2

/-- A frame whose rate is good keeps the invariant. -/
theorem Gestellt.frame (h : Gestellt s.dev) {u : Umgebung} {f : CanixFrame}
    (hgut : ManualGut s (.frame u f)) : Gestellt (heizStep selfaddr s (.frame u f)).dev := by
  have hframe := frame_laesst selfaddr u s f
  have hconfig := hframe.config
  have hperiode := hconfig.pwmPeriode
  constructor
  · rw [hframe.pwmEnd, hperiode]
    exact h.pend
  · rw [hframe.pwmCounter, hperiode]
    exact h.counter
  · apply RateGut.config _ hconfig
    rcases frame_manualRate selfaddr u f (s := s) with hrate | ⟨hcmd, hid, hrate⟩
    · rw [hrate]
      exact h.manual
    · rw [hrate]
      exact hgut u f rfl hcmd hid
  · obtain ⟨rate, hrate, hwidth⟩ := h.width
    refine ⟨rate, hrate.config hconfig, ?_⟩
    rw [hframe.pwmWidth, hperiode]
    exact hwidth

theorem Gestellt.step (e : HeizEvent) (hgut : ManualGut s e) (h : Gestellt s.dev) :
    Gestellt (heizStep selfaddr s e).dev := by
  cases e with
  | frame u f => exact h.frame selfaddr hgut
  | tick u => exact h.tick selfaddr u

/-- In a good state the reports of a step are true. -/
theorem Gestellt.berichtWahr (e : HeizEvent) (hgut : ManualGut s e) (h : Gestellt s.dev) :
    BerichtWahr selfaddr s e := by
  intro f hf hbedarf
  cases e with
  | frame u g => exact absurd hbedarf (by rw [(frame_sent selfaddr u s g).gesendet hf]; decide)
  | tick u =>
      obtain ⟨hreport, -, -⟩ := tick_bericht selfaddr u s hf hbedarf
      rw [hreport]
      exact (h.tick selfaddr u).bedarfWahr

/-- After a start the valve is closed, with a period of its own. -/
theorem gestellt_start (it : UInt16) (hp : p.config.pwmPeriode ≠ 0) :
    Gestellt (heizStart it p).dev := by
  have hpos : 0 < p.config.pwmPeriode.toNat := by
    apply Nat.pos_of_ne_zero
    intro hzero
    exact hp (UInt8.toNat_inj.mp hzero)
  exact ⟨rfl, hpos, rateGut_zero, 0, rateGut_zero, by simp [heizStart, heizungInit]⟩

/-- **The reports of a heating are true** as long as the rates of the manual mode are
good and the period is not 0. -/
theorem berichtWahr_of_rate (it : UInt16) (p : DeviceDataHeizung) (es : List HeizEvent)
    (hperiode : p.config.pwmPeriode ≠ 0)
    (hgut : Guarded (heizStep selfaddr) ManualGut (heizStart it p) es) :
    Guarded (heizStep selfaddr) (BerichtWahr selfaddr) (heizStart it p) es := by
  have hstep : ∀ s e, ManualGut s e → Gestellt s.dev → Gestellt (heizStep selfaddr s e).dev :=
    fun s e => Gestellt.step selfaddr e
  apply guarded_of_guarded hstep _ es (heizStart it p) (gestellt_start it hperiode) hgut
  intro s e
  exact Gestellt.berichtWahr selfaddr e

end

/-! ## A rate of 200 percent -/

/-- Sunday morning; no `zeitzone` matches. -/
private def sonntagFrueh : Umgebung := ⟨7, 0, 7, fun _ => false, fun _ => 0⟩

/-- The heating 2 at the end of a cycle, with an output 6 and a period of 20 seconds. -/
private def kueche : DeviceDataHeizung where
  config := ⟨2, 6, 20, 9, Vector.replicate 8 ⟨255, 0⟩, 0, 4, Vector.replicate 8 255⟩
  it := 0
  mode := .automatik
  manualRate := 0
  timerCounter := 5
  pwmCounter := 0
  pwmWidth := 0
  pwmEnd := 0
  waermebedarfCounter := 0
  receivedIntervalCounter := 0
  measureValue := 0
  durationCounter := 0
  thermostatTemp := 0
  lastSollTemp := 0
  reedHeizStopCounter := 0
  ventilpflegeCounter := 0

/-- The manual mode with a rate, and three seconds: the third one reports. -/
private def mitRate (rate : UInt8) : List HeizEvent :=
  [.frame sonntagFrueh
      (hesFrame 900 hcanMulticastInfo [hcanHesHeizungSetModeManual, 2, rate, 0, 0]),
    .tick sonntagFrueh, .tick sonntagFrueh, .tick sonntagFrueh]

theorem berichtWahr_of_rate_kueche :
    Guarded (heizStep 5) (BerichtWahr 5) (heizStart 0 kueche) (mitRate 50) := by
  apply berichtWahr_of_rate 5 0 kueche (mitRate 50) (by decide)
  refine ⟨?_, fun u f h => (nomatch h), fun u f h => (nomatch h), fun u f h => (nomatch h), trivial⟩
  intro u f h _ _
  cases h
  unfold RateGut
  decide

/-- 200 percent are reported. -/
theorem berichtWahr_nicht :
    ¬ ∀ (selfaddr : UInt16) (it : UInt16) (p : DeviceDataHeizung) (es : List HeizEvent),
      Guarded (heizStep selfaddr) (BerichtWahr selfaddr) (heizStart it p) es := by
  intro h
  obtain ⟨-, -, -, hdritte, -⟩ := h 5 0 kueche (mitRate 200)
  obtain ⟨hle, -⟩ := hdritte
    (hesFrame 5 hcanMulticastInfo [hcanHesHeizungWaermebedarfInfo, 2, 200]) (by decide) rfl
  exact absurd hle (by decide)

end OpenHcan.Heizung
