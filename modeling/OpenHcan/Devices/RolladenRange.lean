import OpenHcan.Devices.RolladenTicks

/-!
# RolladenRange — the tracked position of a shutter that stands still

A calibration run has its target beyond the end. When it stops, the position
is set back to the end, but only to the one the feature bit selects. The
position of a shutter that stands still lies in its range as long as

* no order up meets a direction relay that is still down (`UpFree`),
* no calibration run goes to the other end (`CalibratesEnd`),
* no frame takes the target from a drive that would leave the range without
  one (`KeepsTarget`), and
* no position is defined at the end a drive goes to (`DefinesInside`).

Then an order in percent drives exactly as many ticks as the position is away.
-/

namespace OpenHcan.Rolladen

open OpenHcan.Lib

set_option maxRecDepth 100000

/-! ## Orders that keep the range -/

/-- A calibration run to the end `d` stays in the range, or is set back to the
end. -/
def EdsRolladenBlock.EndOk (c : EdsRolladenBlock) (d : Dir) : Prop :=
  c.HinterEnde (c.kalibrierSoll d) ∨ (0 ≤ c.kalibrierSoll d ∧ c.kalibrierSoll d ≤ c.zeit)

/-- A calibration run to the end that is calibrated. -/
def Fahrt.Ueber (c : EdsRolladenBlock) (m : Fahrt) : Prop :=
  c.HinterEnde m.soll ∧ m.kalibrieren = true ∧ m.ctl.heading = c.endDir

/-- No order starts a calibration run to the wrong end, and no held button turns
a drive into one. -/
structure CalibratesEnd (s : Plant) (e : RolladenEvent) : Prop where
  order : ∀ f d, e = .frame f → EndOrder s.dev f d → s.dev.Rekalibriert d →
    s.dev.config.EndOk d
  press : e = .tick → s.dev.longPressedCounter = 0 → s.dev.sollPower = true →
    s.dev.fahrt.Kalibriert s.dev.config → s.dev.sollDir = s.dev.ctl.heading →
      s.dev.config.EndOk s.dev.sollDir

/-- No frame takes the target away from a drive, unless it goes up and has a tick
left. -/
structure KeepsTarget (s : Plant) (e : RolladenEvent) : Prop where
  lose : ∀ f, e = .frame f → LosesTarget s.dev f → s.dev.sollPower = true →
    s.dev.ctl.heading = .auf ∧ s.dev.laufzeit < s.dev.config.zeit
  preset : ∀ f, e = .frame f → HitsSentinel s.dev f → s.dev.sollPower = true →
    s.dev.dir = .auf ∧ s.dev.exeDir = false ∧ s.dev.laufzeit < s.dev.config.zeit

/-- A position that is defined during a drive leaves a tick to drive, unless the
drive is a calibration run. -/
def DefinesInside (s : Plant) (e : RolladenEvent) : Prop :=
  ∀ f, e = .frame f → f.byte 1 = hcanHesRolladenDefinePosition →
    isGroupInRolladen s.dev (f.byte 2) = true → s.dev.sollPower = true →
      s.dev.fahrt.Ueber s.dev.config ∨
        (s.dev.ctl.heading = .auf ∧ (f.byte 3).toNat + 1 < 100) ∨
        (s.dev.ctl.heading = .ab ∧ 100 ≤ ((f.byte 3).toNat + 1) * s.dev.config.laufzeit.toNat)

/-- A step that keeps the position of a resting shutter in its range. -/
structure KeepsRange (s : Plant) (e : RolladenEvent) : Prop where
  up : UpFree s e
  calibrates : CalibratesEnd s e
  target : KeepsTarget s e
  defines : DefinesInside s e

/-! ## The range -/

/-- The position of a drive, and where it will end. -/
structure RangeInv (c : EdsRolladenBlock) (m : Fahrt) : Prop extends DriveInv c m where
  still : ¬ m.Faehrt → 0 ≤ m.laufzeit ∧ m.laufzeit ≤ c.zeit
  target : m.ctl.sollPower = true →
    (0 ≤ m.soll ∧ m.soll ≤ c.zeit) ∨ m.Ueber c ∨
      (m.soll = -1 ∧ m.ctl.heading = .auf ∧ m.laufzeit < c.zeit)
  top : m.ctl.sollPower = true → m.ctl.heading = .auf →
    0 ≤ m.laufzeit ∧ (m.laufzeit < c.zeit ∨ m.Ueber c)
  bottom : m.ctl.sollPower = true → m.ctl.heading = .ab →
    m.laufzeit ≤ c.zeit ∧ (0 < m.laufzeit ∨ m.Ueber c)
  turned : m.ctl.sollPower = true →
    m.ctl.sollDir = m.ctl.heading ∨ (m.ctl.heading = .auf ∧ m.soll = -1)

section

variable {c : EdsRolladenBlock} {m : Fahrt}

theorem amEnde_low {laufzeit : Int} (h : laufzeit ≤ 0) : c.AmEnde laufzeit := by
  have hflip := Int.tdiv_nonneg (a := -(100 * laufzeit)) (by omega) c.zeit_nonneg
  rw [Int.neg_tdiv] at hflip
  exact .inl (by omega)

theorem amEnde_high {laufzeit : Int} (hzeit : 0 < c.zeit) (h : c.zeit ≤ laufzeit) :
    c.AmEnde laufzeit := by
  have hhundred : 100 ≤ (100 * laufzeit).tdiv c.zeit := by
    rw [Int.tdiv_eq_ediv_of_nonneg (by omega)]
    exact (Int.le_ediv_iff_mul_le hzeit).mpr (by omega)
  exact .inr (by omega)

/-- A target behind the calibrated end, by direction. -/
theorem Fahrt.Ueber.soll (h : m.Ueber c) :
    (m.ctl.heading = .auf ∧ c.zeit < m.soll) ∨ (m.ctl.heading = .ab ∧ m.soll < -1) := by
  obtain ⟨⟨hend, hsoll⟩ | ⟨hend, hsoll⟩, _, hhead⟩ := h
  · exact .inl ⟨hhead.trans hend, hsoll⟩
  · exact .inr ⟨hhead.trans hend, hsoll⟩

theorem EdsRolladenBlock.HinterEnde.endDir {d : Dir} (h : c.HinterEnde (c.kalibrierSoll d)) :
    c.endDir = d := by
  have hzeit := c.zeit_nonneg
  rcases h with ⟨hend, hsoll⟩ | ⟨hend, hsoll⟩
  · cases d with
    | auf => exact hend
    | ab =>
        rw [kalibrierSoll_ab] at hsoll
        omega
  · cases d with
    | auf =>
        rw [kalibrierSoll_auf] at hsoll
        omega
    | ab => exact hend

/-- A stop sets a calibration run back to its end and leaves every other position
alone. -/
theorem stop_range
    (h : (0 ≤ m.laufzeit ∧ m.laufzeit ≤ c.zeit) ∨ m.Abgleich c) :
    0 ≤ (m.stop c).laufzeit ∧ (m.stop c).laufzeit ≤ c.zeit := by
  rcases stop_laufzeit c m with heq | ⟨_, heq⟩
  · rcases h with hrange | habgleich
    · rw [heq]
      exact hrange
    · have hset : (m.stop c).laufzeit = c.endSoll c.endDir := if_pos habgleich
      rw [hset]
      exact endSoll_range c c.endDir
  · rw [heq]
    exact endSoll_range c c.endDir

theorem RangeInv.stop (h : (0 ≤ m.laufzeit ∧ m.laufzeit ≤ c.zeit) ∨ m.Abgleich c) :
    RangeInv c (m.stop c) := by
  have hoff : ∀ {P : Prop}, (m.stop c).ctl.sollPower = true → P := by
    intro P hon
    rw [stop_sollPower] at hon
    cases hon
  exact ⟨.stop c m, fun _ => stop_range h, hoff, hoff, hoff, hoff⟩

/-- Wherever a shutter is stopped, it is in its range or on a calibration run. -/
theorem RangeInv.stops (hzeit : 0 < c.zeit) (h : RangeInv c m) :
    (0 ≤ m.laufzeit ∧ m.laufzeit ≤ c.zeit) ∨ m.Abgleich c := by
  by_cases hf : m.Faehrt
  · rcases m.ctl.heading.auf_or_ab with hhead | hhead
    · obtain ⟨hlow, hhigh⟩ := h.top hf.2 hhead
      by_cases hover : m.laufzeit ≤ c.zeit
      · exact .inl ⟨hlow, hover⟩
      · rcases hhigh with hlt | hueber
        · omega
        · exact .inr ⟨amEnde_high hzeit (by omega), hueber.2.1, hueber.1⟩
    · obtain ⟨hhigh, hlow⟩ := h.bottom hf.2 hhead
      by_cases hunder : 0 ≤ m.laufzeit
      · exact .inl ⟨hunder, hhigh⟩
      · rcases hlow with hlt | hueber
        · omega
        · exact .inr ⟨amEnde_low (by omega), hueber.2.1, hueber.1⟩
  · exact .inl (h.still hf)

/-- A drive that is at its target is in the range or on a calibration run, and one
that goes on keeps the range. -/
def Fahrt.Getickt (c : EdsRolladenBlock) (m : Fahrt) : Prop :=
  (m.Erreicht → (0 ≤ m.laufzeit ∧ m.laufzeit ≤ c.zeit) ∨ m.Abgleich c) ∧
    (¬ m.Erreicht → RangeInv c m)

theorem RangeInv.fahren_auf (hzeit : 0 < c.zeit) (h : RangeInv c m) (hf : m.Faehrt)
    (hdir : m.ctl.dir = .auf) : m.fahren.Getickt c := by
  have hhead : m.ctl.heading = .auf := (RelayCtl.heading_on hf.1).trans hdir
  have htarget := h.target hf.2
  obtain ⟨hlow, hhigh⟩ := h.top hf.2 hhead
  have hlauf : m.fahren.laufzeit = m.laufzeit + 1 := by
    unfold Fahrt.fahren
    simp [hdir]
  have hvor : m.Vor 1 ↔ m.laufzeit + 1 < m.soll := by
    unfold Fahrt.Vor
    rw [hdir, if_neg (by decide)]
    exact Iff.rfl
  unfold Fahrt.Getickt
  rw [m.erreicht_iff, hvor, hlauf]
  refine ⟨fun hthere => ?_, fun hnot => ?_⟩
  · rcases hhigh with hlt | hu
    · exact .inl ⟨by omega, by omega⟩
    · rcases hu.soll with ⟨_, hsoll⟩ | ⟨hab, _⟩
      · refine .inr ⟨amEnde_high hzeit ?_, hu.2.1, hu.1⟩
        rw [hlauf]
        omega
      · rw [hhead] at hab
        cases hab
  · rw [not_not] at hnot
    have hroom : m.laufzeit + 1 < c.zeit ∨ m.Ueber c := by
      rcases htarget with hsoll | hu | hsoll
      · exact .inl (by omega)
      · exact .inr hu
      · omega
    refine ⟨⟨h.load, h.timer, h.oben, h.unten, h.up⟩, fun hno => absurd hf hno, fun _ => ?_,
      fun _ _ => ?_, fun _ hab => ?_, h.turned⟩
    · rcases htarget with hsoll | hu | hsoll
      · exact .inl hsoll
      · exact .inr (.inl hu)
      · omega
    · rw [hlauf]
      exact ⟨by omega, hroom⟩
    · rw [show m.fahren.ctl.heading = .auf from hhead] at hab
      cases hab

theorem RangeInv.fahren_ab (h : RangeInv c m) (hf : m.Faehrt)
    (hdir : m.ctl.dir = .ab) : m.fahren.Getickt c := by
  have hhead : m.ctl.heading = .ab := (RelayCtl.heading_on hf.1).trans hdir
  obtain ⟨hhigh, hlow⟩ := h.bottom hf.2 hhead
  -- the sentinel belongs to a drive up
  have htarget : (0 ≤ m.soll ∧ m.soll ≤ c.zeit) ∨ m.Ueber c := by
    rcases h.target hf.2 with hsoll | hu | ⟨_, hauf, _⟩
    · exact .inl hsoll
    · exact .inr hu
    · rw [hhead] at hauf
      cases hauf
  have hlauf : m.fahren.laufzeit = m.laufzeit - 1 := by
    unfold Fahrt.fahren
    simp [hdir]
  have hvor : m.Vor 1 ↔ m.soll < m.laufzeit - 1 := by
    unfold Fahrt.Vor
    rw [hdir, if_pos rfl]
    exact Iff.rfl
  unfold Fahrt.Getickt
  rw [m.erreicht_iff, hvor, hlauf]
  refine ⟨fun hthere => ?_, fun hnot => ?_⟩
  · rcases hlow with hlt | hu
    · exact .inl ⟨by omega, by omega⟩
    · rcases hu.soll with ⟨hauf, _⟩ | ⟨_, hsoll⟩
      · rw [hhead] at hauf
        cases hauf
      · refine .inr ⟨amEnde_low ?_, hu.2.1, hu.1⟩
        rw [hlauf]
        omega
  · rw [not_not] at hnot
    have hroom : 0 < m.laufzeit - 1 ∨ m.Ueber c := by
      rcases htarget with hsoll | hu
      · exact .inl (by omega)
      · exact .inr hu
    refine ⟨⟨h.load, h.timer, h.oben, h.unten, h.up⟩, fun hno => absurd hf hno, fun _ => ?_,
      fun _ hauf => ?_, fun _ _ => ?_, h.turned⟩
    · rcases htarget with hsoll | hu
      · exact .inl hsoll
      · exact .inr (.inl hu)
    · rw [show m.fahren.ctl.heading = .ab from hhead] at hauf
      cases hauf
    · rw [hlauf]
      exact ⟨by omega, hroom⟩

/-- A tick of driving ends in the range, on a calibration run, or with the target
still ahead. -/
theorem RangeInv.fahren (hzeit : 0 < c.zeit) (h : RangeInv c m) (hf : m.Faehrt) :
    m.fahren.Getickt c := by
  cases hdir : m.ctl.dir with
  | auf => exact h.fahren_auf hzeit hf hdir
  | ab => exact h.fahren_ab hf hdir

theorem RangeInv.pruefung (hzeit : 0 < c.zeit) (h : RangeInv c m) :
    RangeInv c (m.pruefung c) := by
  unfold Fahrt.pruefung
  split
  · rename_i hf
    obtain ⟨hthere, hgo⟩ := h.fahren hzeit hf
    split
    · exact .stop (hthere ‹_›)
    · exact hgo ‹_›
  · exact h

theorem RangeInv.relays (h : RangeInv c m) :
    RangeInv c ⟨m.laufzeit, m.soll, m.kalibrieren, m.ctl.relays⟩ := by
  have hsame : m.ctl.relays.sollPower = true →
      m.ctl.sollPower = true ∧ m.ctl.relays.heading = m.ctl.heading := by
    intro hsp
    rw [RelayCtl.relays_sollPower] at hsp
    exact ⟨hsp, RelayCtl.heading_relays h.load hsp⟩
  have hueber : m.ctl.relays.sollPower = true → m.Ueber c →
      (Fahrt.mk m.laufzeit m.soll m.kalibrieren m.ctl.relays).Ueber c := by
    intro hsp hu
    exact ⟨hu.1, hu.2.1, (hsame hsp).2.trans hu.2.2⟩
  refine ⟨h.toDriveInv.relays, fun hno => ?_, fun hsp => ?_, fun hsp hauf => ?_,
    fun hsp hab => ?_, fun hsp => ?_⟩
  · apply h.still
    intro hf
    exact hno ⟨RelayCtl.relays_drive hf.1 hf.2, (RelayCtl.relays_sollPower _).trans hf.2⟩
  · obtain ⟨hsp', hhead⟩ := hsame hsp
    rcases h.target hsp' with hsoll | hu | ⟨hsoll, hauf, hlt⟩
    · exact .inl hsoll
    · exact .inr (.inl (hueber hsp hu))
    · exact .inr (.inr ⟨hsoll, hhead.trans hauf, hlt⟩)
  · obtain ⟨hsp', hhead⟩ := hsame hsp
    obtain ⟨hlow, hhigh⟩ := h.top hsp' (hhead.symm.trans hauf)
    exact ⟨hlow, hhigh.imp_right (hueber hsp)⟩
  · obtain ⟨hsp', hhead⟩ := hsame hsp
    obtain ⟨hhigh, hlow⟩ := h.bottom hsp' (hhead.symm.trans hab)
    exact ⟨hhigh, hlow.imp_right (hueber hsp)⟩
  · obtain ⟨hsp', hhead⟩ := hsame hsp
    show m.ctl.relays.sollDir = m.ctl.relays.heading ∨
      (m.ctl.relays.heading = .auf ∧ m.soll = -1)
    rw [RelayCtl.relays_sollDir, hhead]
    exact h.turned hsp'

/-- The overrun target replaces the one of a drive in its direction. -/
theorem RangeInv.prepare_same (h : RangeInv c m) (hdrive : DriveInv c (m.prepare c))
    (hk : m.Kalibriert c) (hsame : m.ctl.sollDir = m.ctl.heading)
    (hok : m.ctl.sollPower = true → c.EndOk m.ctl.sollDir) : RangeInv c (m.prepare c) := by
  have hzeit := c.zeit_nonneg
  unfold Fahrt.prepare at hdrive ⊢
  rw [if_pos hk] at hdrive ⊢
  have hover : m.ctl.sollPower = true →
      (0 ≤ c.kalibrierSoll m.ctl.sollDir ∧ c.kalibrierSoll m.ctl.sollDir ≤ c.zeit) ∨
        c.HinterEnde (c.kalibrierSoll m.ctl.sollDir) :=
    fun hsp => (hok hsp).symm
  have hueber : c.HinterEnde (c.kalibrierSoll m.ctl.sollDir) →
      (Fahrt.mk m.laufzeit (c.kalibrierSoll m.ctl.sollDir) true m.ctl).Ueber c :=
    fun hh => ⟨hh, rfl, hsame.symm.trans hh.endDir.symm⟩
  refine ⟨hdrive, h.still, fun hsp => ?_, fun hsp hauf => ?_, fun hsp hab => ?_,
    fun _ => .inl hsame⟩
  · exact (hover hsp).imp_right fun hh => .inl (hueber hh)
  · obtain ⟨hlow, hhigh⟩ := h.top hsp hauf
    refine ⟨hlow, ?_⟩
    rcases hhigh with hlt | hu
    · exact .inl hlt
    · rcases hover hsp with hin | hh
      · -- the old target lay beyond the end already
        have hold := h.oben
        have hauf' : m.ctl.sollDir = .auf := hsame.trans hauf
        rw [hauf'] at hin
        rcases hu.soll with ⟨_, hsoll⟩ | ⟨hab, _⟩
        · rcases hold with hle | heq
          · omega
          · omega
        · rw [show m.ctl.heading = .auf from hauf] at hab
          cases hab
      · exact .inr (hueber hh)
  · obtain ⟨hhigh, hlow⟩ := h.bottom hsp hab
    refine ⟨hhigh, ?_⟩
    rcases hlow with hlt | hu
    · exact .inl hlt
    · rcases hover hsp with hin | hh
      · have hold := h.unten
        have hab' : m.ctl.sollDir = .ab := hsame.trans hab
        rw [hab'] at hin
        rcases hu.soll with ⟨hauf, _⟩ | ⟨_, hsoll⟩
        · rw [show m.ctl.heading = .ab from hab] at hauf
          cases hauf
        · rcases hold with hle | heq
          · omega
          · omega
      · exact .inr (hueber hh)

/-- A drive up for which the direction down is preset has no target, and gets none. -/
theorem RangeInv.turned_back (h : RangeInv c m) (hsame : ¬ m.ctl.sollDir = m.ctl.heading)
    (hsp : m.ctl.sollPower = true) :
    m.ctl.heading = .auf ∧ c.kalibrierSoll m.ctl.sollDir = -1 ∧ m.soll = -1 := by
  rcases h.turned hsp with heq | ⟨hauf, hsoll⟩
  · exact absurd heq hsame
  · rcases (h.up hsp hauf).2 with hd | hhalf
    · exact absurd (hd.trans hauf.symm) hsame
    · refine ⟨hauf, ?_, hsoll⟩
      rcases m.ctl.sollDir.auf_or_ab with hd | hd
      · exact absurd (hd.trans hauf.symm) hsame
      · rw [hd]
        exact hhalf

theorem RangeInv.prepare_back (h : RangeInv c m) (hdrive : DriveInv c (m.prepare c))
    (hk : m.Kalibriert c) (hsame : ¬ m.ctl.sollDir = m.ctl.heading) :
    RangeInv c (m.prepare c) := by
  have hzeit := c.zeit_nonneg
  unfold Fahrt.prepare at hdrive ⊢
  rw [if_pos hk] at hdrive ⊢
  have hroom : m.ctl.sollPower = true → 0 ≤ m.laufzeit ∧ m.laufzeit < c.zeit := by
    intro hsp
    obtain ⟨hauf, _, hsoll⟩ := h.turned_back hsame hsp
    obtain ⟨hlow, hlt | hu⟩ := h.top hsp hauf
    · exact ⟨hlow, hlt⟩
    · rcases hu.soll with ⟨_, hover⟩ | ⟨hab, _⟩
      · omega
      · rw [hauf] at hab
        cases hab
  refine ⟨hdrive, h.still, fun hsp => ?_, fun hsp _ => ?_, fun hsp hab => ?_, fun hsp => ?_⟩
  · obtain ⟨hauf, hsoll, _⟩ := h.turned_back hsame hsp
    exact .inr (.inr ⟨hsoll, hauf, (hroom hsp).2⟩)
  · exact ⟨(hroom hsp).1, .inl (hroom hsp).2⟩
  · have hauf := (h.turned_back hsame hsp).1
    rw [show m.ctl.heading = .ab from hab] at hauf
    cases hauf
  · obtain ⟨hauf, hsoll, _⟩ := h.turned_back hsame hsp
    exact .inr ⟨hauf, hsoll⟩

/-- A held button turns a drive into a calibration run to its own end, or has no
effect. -/
theorem RangeInv.prepare (h : RangeInv c m)
    (hok : m.ctl.sollPower = true → m.Kalibriert c → m.ctl.sollDir = m.ctl.heading →
      c.EndOk m.ctl.sollDir) :
    RangeInv c (m.prepare c) := by
  have hdrive := h.toDriveInv.prepare
  by_cases hk : m.Kalibriert c
  · by_cases hsame : m.ctl.sollDir = m.ctl.heading
    · exact h.prepare_same hdrive hk hsame fun hsp => hok hsp hk hsame
    · exact h.prepare_back hdrive hk hsame
  · unfold Fahrt.prepare
    rw [if_neg hk]
    exact h

end

/-! ## Frames -/

/-- An order to drive from a position in the range. -/
theorem RangeInv.drive {c : EdsRolladenBlock} {m : Fahrt} {d : RelayCtl} {dir : Dir}
    (hm : DriveInv c m) (hctl : m.ctl = d.drive dir) (hidle : d.Idle)
    (hup : dir = .auf → d.dir = .auf ∨ d.exeDir = true)
    (hlow : 0 ≤ m.laufzeit) (hhigh : m.laufzeit ≤ c.zeit)
    (hauf : dir = .auf → m.laufzeit < c.zeit) (hab : dir = .ab → 0 < m.laufzeit)
    (hsoll : (0 ≤ m.soll ∧ m.soll ≤ c.zeit) ∨
      (c.HinterEnde m.soll ∧ m.kalibrieren = true ∧ dir = c.endDir)) :
    RangeInv c m := by
  have hhead : m.ctl.heading = dir := by
    rw [hctl]
    exact heading_drive hidle hup
  refine ⟨hm, fun _ => ⟨hlow, hhigh⟩, fun _ => ?_, fun _ h => ?_, fun _ h => ?_, fun _ => ?_⟩
  · rcases hsoll with hin | ⟨hover, hkal, hend⟩
    · exact .inl hin
    · exact .inr (.inl ⟨hover, hkal, hhead.trans hend⟩)
  · exact ⟨hlow, .inl (hauf (hhead.symm.trans h))⟩
  · exact ⟨hhigh, .inl (hab (hhead.symm.trans h))⟩
  · rw [hhead, hctl, d.drive_sollDir dir]
    exact .inl rfl

/-- Where a defined position lies. -/
theorem definePosition_below {p : DeviceDataRolladen} {pos : UInt8} (hzeit : 0 < p.config.zeit)
    (hpos : pos.toNat + 1 < 100) : (definePosition p pos).laufzeit < p.config.zeit := by
  have h99 : pos.toNat ≤ 99 := by omega
  have hle : 100 * (definePosition p pos).laufzeit ≤ (pos.toNat + 1) * p.config.zeit :=
    (definePosition_laufzeit h99).1
  have hpart : (pos.toNat + 1 : Int) * p.config.zeit ≤ 99 * p.config.zeit :=
    Int.mul_le_mul_of_nonneg_right (by omega) (by omega)
  omega

theorem definePosition_above {p : DeviceDataRolladen} {pos : UInt8} (hzeit : 0 < p.config.zeit)
    (hpos : 100 ≤ (pos.toNat + 1) * p.config.laufzeit.toNat) :
    0 < (definePosition p pos).laufzeit := by
  have hpart : (100 : Int) ≤ ((pos.toNat + 1 : Nat) : Int) * p.config.zeit := by
    unfold EdsRolladenBlock.zeit
    exact_mod_cast hpos
  unfold definePosition
  dsimp only
  generalize ((pos.toNat + 1 : Nat) : Int) * p.config.zeit = part at hpart ⊢
  split
  · omega
  · omega

section

variable {s : Plant} {f : CanixFrame}

/-- A shutter at rest is in its range. -/
theorem RangeInv.resting (h : RangeInv s.dev.config s.dev.fahrt) (hp : s.dev.power = false) :
    0 ≤ s.dev.laufzeit ∧ s.dev.laufzeit ≤ s.dev.config.zeit :=
  h.still fun hf => Bool.noConfusion (hp.symm.trans hf.1)

/-- A frame that takes the target away. -/
theorem RangeInv.lose {m : Fahrt} (h : RangeInv s.dev.config s.dev.fahrt)
    (hdrive : DriveInv s.dev.config m) (hm : m = ⟨s.dev.laufzeit, -1, s.dev.kalibrieren, s.dev.ctl⟩)
    (hleft : s.dev.sollPower = true →
      s.dev.ctl.heading = .auf ∧ s.dev.laufzeit < s.dev.config.zeit) :
    RangeInv s.dev.config m := by
  subst hm
  refine ⟨hdrive, h.still, fun hsp => ?_, fun hsp hauf => ?_, fun hsp hab => ?_, fun hsp => ?_⟩
  · exact .inr (.inr ⟨rfl, hleft hsp⟩)
  · exact ⟨(h.top hsp hauf).1, .inl (hleft hsp).2⟩
  · rw [show s.dev.ctl.heading = .ab from hab] at hleft
    cases (hleft hsp).1
  · exact .inr ⟨(hleft hsp).1, rfl⟩

/-- An order to an end. -/
theorem RangeInv.order {m : Fahrt} {d : Dir} (h : RangeInv s.dev.config s.dev.fahrt)
    (hdrive : DriveInv s.dev.config m)
    (hm : m = ⟨s.dev.laufzeit, (s.dev.ziel d).soll, (s.dev.ziel d).kalibrieren,
      s.dev.ctl.drive d⟩)
    (horder : EndOrder s.dev f d) (hup : UpFree s (.frame f))
    (hok : s.dev.Rekalibriert d → s.dev.config.EndOk d) : RangeInv s.dev.config m := by
  subst hm
  obtain ⟨hlow, hhigh⟩ := h.resting horder.1.power
  refine .drive hdrive rfl horder.1.idle (horder.free (hup f rfl)) hlow hhigh ?_ ?_ ?_
  · intro hd
    subst hd
    exact not_reached_auf horder.2.1
  · intro hd
    subst hd
    exact not_reached_ab horder.2.1
  · by_cases hreka : s.dev.Rekalibriert d
    · obtain ⟨hsoll, hkal⟩ := ziel_kalibriert hreka
      dsimp only
      rw [hsoll, hkal]
      rcases hok hreka with hover | hin
      · exact .inr ⟨hover, rfl, hover.endDir.symm⟩
      · exact .inl hin
    · dsimp only
      rw [(ziel_end hreka).1]
      exact .inl (endSoll_range s.dev.config d)

/-- An order in percent. -/
theorem RangeInv.percent {m : Fahrt} {d : Dir} (h : RangeInv s.dev.config s.dev.fahrt)
    (hdrive : DriveInv s.dev.config m)
    (hm : m = ⟨s.dev.laufzeit, prozentSoll s.dev (f.byte 3), false, s.dev.ctl.drive d⟩)
    (horder : PercentDrive s.dev f d) (hup : UpFree s (.frame f)) : RangeInv s.dev.config m := by
  subst hm
  obtain ⟨hlow, hhigh⟩ := h.resting horder.1.power
  have hrange := prozentSoll_range s.dev (f.byte 3)
  obtain ⟨hauf, hab⟩ := horder.ahead
  refine .drive hdrive rfl horder.1.idle (horder.free (hup f rfl)) hlow hhigh ?_ ?_
    (.inl hrange)
  · intro hd
    have hlt := hauf hd
    show s.dev.laufzeit < _
    omega
  · intro hd
    have hlt := hab hd
    show 0 < s.dev.laufzeit
    omega

/-- The direction down is preset, and the target is gone. -/
theorem RangeInv.preset {m : Fahrt} (h : RangeInv s.dev.config s.dev.fahrt)
    (hdrive : DriveInv s.dev.config m)
    (hm : m = ⟨s.dev.laufzeit, -1, (s.dev.ziel .ab).kalibrieren, s.dev.ctl.preset⟩)
    (hp : s.dev.power = false)
    (hleft : s.dev.sollPower = true →
      s.dev.dir = .auf ∧ s.dev.exeDir = false ∧ s.dev.laufzeit < s.dev.config.zeit) :
    RangeInv s.dev.config m := by
  subst hm
  obtain ⟨hlow, hhigh⟩ := h.resting hp
  have hhead : s.dev.sollPower = true → s.dev.ctl.preset.heading = .auf := by
    intro hsp
    obtain ⟨hdir, hexe, _⟩ := hleft hsp
    rw [RelayCtl.heading_off (show s.dev.ctl.preset.power = false from hp),
      show s.dev.ctl.preset.exeDir = false from hexe, if_neg Bool.false_ne_true]
    exact hdir
  refine ⟨hdrive, fun _ => ⟨hlow, hhigh⟩, fun hsp => ?_, fun hsp _ => ?_, fun hsp hab => ?_,
    fun hsp => ?_⟩
  · exact .inr (.inr ⟨rfl, hhead hsp, (hleft hsp).2.2⟩)
  · exact ⟨hlow, .inl (hleft hsp).2.2⟩
  · rw [show s.dev.ctl.preset.heading = .ab from hab] at hhead
    cases hhead hsp
  · exact .inr ⟨hhead hsp, rfl⟩

/-- The position is defined, in the range and on the way to the target. -/
theorem RangeInv.define {m : Fahrt} (hzeit : 0 < s.dev.config.zeit)
    (h : RangeInv s.dev.config s.dev.fahrt) (hdrive : DriveInv s.dev.config m)
    (hm : m = ⟨(definePosition s.dev (f.byte 3)).laufzeit, s.dev.sollLaufzeit,
      s.dev.kalibrieren, s.dev.ctl⟩)
    (hinside : s.dev.sollPower = true → s.dev.fahrt.Ueber s.dev.config ∨
      (s.dev.ctl.heading = .auf ∧ (f.byte 3).toNat + 1 < 100) ∨
      (s.dev.ctl.heading = .ab ∧ 100 ≤ ((f.byte 3).toNat + 1) * s.dev.config.laufzeit.toNat)) :
    RangeInv s.dev.config m := by
  subst hm
  obtain ⟨hlow, hhigh⟩ := definePosition_range s.dev (f.byte 3)
  refine ⟨hdrive, fun _ => ⟨hlow, hhigh⟩, fun hsp => ?_, fun hsp hauf => ⟨hlow, ?_⟩,
    fun hsp hab => ⟨hhigh, ?_⟩, h.turned⟩
  · rcases h.target hsp with hsoll | hu | ⟨hsoll, hauf, _⟩
    · exact .inl hsoll
    · exact .inr (.inl hu)
    · refine .inr (.inr ⟨hsoll, hauf, ?_⟩)
      rcases hinside hsp with hu | ⟨_, hpos⟩ | ⟨hab, _⟩
      · rcases hu.soll with ⟨_, hover⟩ | ⟨_, hover⟩
        · rw [hsoll] at hover
          omega
        · rw [hsoll] at hover
          omega
      · exact definePosition_below hzeit hpos
      · cases hauf.symm.trans hab
  · rcases hinside hsp with hu | ⟨_, hpos⟩ | ⟨hab, _⟩
    · exact .inr hu
    · exact .inl (definePosition_below hzeit hpos)
    · cases (show s.dev.ctl.heading = .auf from hauf).symm.trans hab
  · rcases hinside hsp with hu | ⟨hauf, _⟩ | ⟨_, hpos⟩
    · exact .inr hu
    · cases (show s.dev.ctl.heading = .ab from hab).symm.trans hauf
    · exact .inl (definePosition_above hzeit hpos)

theorem RangeInv.frame {m : Fahrt} (hzeit : 0 < s.dev.config.zeit)
    (h : RangeInv s.dev.config s.dev.fahrt) (he : FrameEffect s.dev f m)
    (hg : KeepsRange s (.frame f)) : RangeInv s.dev.config m := by
  have hdrive := h.toDriveInv.frame he
  cases he with
  | keep => exact h
  | halt => exact .stop (h.stops hzeit)
  | lose hlose => exact h.lose hdrive rfl (hg.target.lose f rfl hlose)
  | order d horder =>
      exact h.order hdrive rfl horder hg.up (hg.calibrates.order f d rfl horder)
  | percent d horder => exact h.percent hdrive rfl horder hg.up
  | preset hhit => exact h.preset hdrive rfl hhit.1.power (hg.target.preset f rfl hhit)
  | define hgroup hcmd => exact h.define hzeit hdrive rfl (hg.defines f rfl hcmd hgroup)

end

/-- The invariant of the runs that keep the range. -/
def Plant.InRange (s : Plant) : Prop := 0 < s.dev.config.zeit ∧ s.Keeps RangeInv

section

variable {selfaddr : UInt16}

theorem inRange_step (s : Plant) (e : RolladenEvent) (hg : KeepsRange s e) (h : s.InRange) :
    (rolladenStep selfaddr s e).InRange := by
  obtain ⟨hzeit, hrange⟩ := h
  unfold Plant.InRange Plant.Keeps
  rw [rolladenStep_config]
  refine ⟨hzeit, ?_⟩
  cases e with
  | frame f => exact hrange.frame hzeit (canCallback_effect s.dev selfaddr f) hg
  | tick =>
      rw [rolladenStep_tick_fahrt]
      apply RangeInv.relays
      apply RangeInv.pruefung hzeit
      cases hd : s.dev.gedrueckt with
      | false => exact hrange
      | true => exact hrange.prepare (hg.calibrates.press rfl (of_decide_eq_true hd))

theorem inRange_start {q : DeviceDataRolladen} (hzeit : 1 ≤ q.config.laufzeit.toNat) :
    (Plant.start q).InRange := by
  have hpos : 0 < q.config.zeit := by
    unfold EdsRolladenBlock.zeit
    omega
  refine ⟨hpos, driveInv_start q, fun _ => ?_, fun hsp => Bool.noConfusion hsp,
    fun hsp => Bool.noConfusion hsp, fun hsp => Bool.noConfusion hsp,
    fun hsp => Bool.noConfusion hsp⟩
  show 0 ≤ q.config.zeit / 2 ∧ q.config.zeit / 2 ≤ q.config.zeit
  omega

end

/-! ## The length of a drive -/

/-- The way to a position in percent. -/
def DeviceDataRolladen.weg (p : DeviceDataRolladen) (prozent : UInt8) : Int :=
  p.config.zeit * prozent.toNat / 100 - p.laufzeit

def wegDir (weg : Int) : Dir := if weg < 0 then .ab else .auf

/-- The ticks from an order to the start. -/
def Dir.vorlauf (d : Dir) : Nat := if d = .ab then 6 else 1

/-- The button of an earlier order is released, or its second ends too late to
matter, or the new order goes away from the end that is calibrated. -/
def PressOver (p : DeviceDataRolladen) (weg : Int) : Prop :=
  p.longPressedCounter < 0 ∨ wegDir weg ≠ p.config.endDir ∨
    ((wegDir weg).vorlauf + weg.natAbs : Int) ≤ p.longPressedCounter

theorem prozentSoll_eq {p : DeviceDataRolladen} {prozent : UInt8} (h : prozent.toNat ≤ 100) :
    prozentSoll p prozent = p.config.zeit * prozent.toNat / 100 := by
  have hzeit := p.config.zeit_nonneg
  have hlow : 0 ≤ p.config.zeit * prozent.toNat :=
    Int.mul_nonneg hzeit (Int.natCast_nonneg _)
  have hhigh : p.config.zeit * prozent.toNat ≤ p.config.zeit * 100 :=
    Int.mul_le_mul_of_nonneg_left (by omega) hzeit
  unfold prozentSoll
  generalize p.config.zeit * prozent.toNat = part at hlow hhigh ⊢
  dsimp only
  rw [if_neg (by omega), if_neg (by omega)]

section

variable {selfaddr : UInt16} {p : DeviceDataRolladen} {f : CanixFrame}

/-- An order in percent that a shutter at rest obeys. -/
theorem canCallback_weg (selfaddr : UInt16) (hf : PercentOrder f) (ho : Obeyed p f)
    (hp : p.power = false) (hsp : p.sollPower = false) (h100 : (f.byte 3).toNat ≤ 100)
    (hweg : p.weg (f.byte 3) ≠ 0) :
    (rolladenCanCallback selfaddr p f).1.fahrt =
        ⟨p.laufzeit, p.laufzeit + p.weg (f.byte 3), false,
          p.ctl.drive (wegDir (p.weg (f.byte 3)))⟩ ∧
      (rolladenCanCallback selfaddr p f).1.longPressedCounter = p.longPressedCounter ∧
      PercentDrive p f (wegDir (p.weg (f.byte 3))) := by
  have hsoll := prozentSoll_eq (p := p) h100
  unfold DeviceDataRolladen.weg at hweg ⊢
  rw [← hsoll] at hweg ⊢
  have haddr : Addressed p f := ⟨ho.group, ho.mute, ho.free, hp⟩
  have hgo : ¬ (p.power = true ∨ p.sollPower = true ∨ prozentSoll p (f.byte 3) = p.laufzeit) := by
    rw [hp, hsp]
    rintro (h | h | h)
    · cases h
    · cases h
    · exact hweg (by omega)
  have hpress : ∀ q : DeviceDataRolladen,
      (rolladenCmdDrive q).longPressedCounter = q.longPressedCounter := by
    intro q
    unfold rolladenCmdDrive
    dsimp only
    split <;> rfl
  have hadd : p.laufzeit + (prozentSoll p (f.byte 3) - p.laufzeit) = prozentSoll p (f.byte 3) := by
    omega
  rw [canCallback_percent p selfaddr hf ho, if_neg hgo, hadd]
  unfold wegDir
  by_cases hlt : prozentSoll p (f.byte 3) < p.laufzeit
  · rw [if_pos hlt, if_pos (by omega)]
    exact ⟨rolladenCmdDrive_fahrt p rfl, hpress _, haddr, hf, hsp, .inl ⟨rfl, hlt⟩⟩
  · rw [if_neg hlt, if_neg (by omega)]
    exact ⟨rolladenCmdDrive_fahrt p rfl, hpress _, haddr, hf, hsp, .inr ⟨rfl, by omega⟩⟩

/-- No button held from an earlier order reaches the drive. -/
theorem PressOver.ungestoert {q : DeviceDataRolladen} {weg : Int} (h : PressOver p weg)
    {laufzeit soll : Int} (hfahrt : q.fahrt = ⟨laufzeit, soll, false, p.ctl.drive (wegDir weg)⟩)
    (hcounter : q.longPressedCounter = p.longPressedCounter) (hconfig : q.config = p.config) :
    q.Ungestoert ((wegDir weg).vorlauf + weg.natAbs) := by
  intro i hi hd
  have heq : q.longPressedCounter = i := of_decide_eq_true hd
  rw [hfahrt, hconfig]
  rintro (hkal | hend)
  · cases hkal
  · rw [show (p.ctl.drive (wegDir weg)).sollDir = wegDir weg from
      RelayCtl.drive_sollDir _ _] at hend
    rcases h with hneg | haway | hlate
    · omega
    · exact haway hend
    · omega

/-- The blocking timer runs before a drive down only. -/
theorem drive_vorlauf {d : RelayCtl} (hfree : d.blockingTimer = 0) (dir : Dir) :
    ∃ t, dir.vorlauf = t + 1 ∧ (d.drive dir).blockingTimer = t ∧
      (t ≠ 0 → (d.drive dir).exePower = false) := by
  cases dir with
  | auf => exact ⟨0, rfl, hfree, fun h => absurd rfl h⟩
  | ab => exact ⟨5, rfl, rfl, fun _ => rfl⟩

/-- The target lies ahead for as many ticks as the way is long. -/
theorem vor_weg {m : Fahrt} {laufzeit weg : Int} (hdir : m.ctl.dir = wegDir weg)
    (hlauf : m.laufzeit = laufzeit) (hsoll : m.soll = laufzeit + weg) (j : Nat) :
    m.Vor j ↔ j < weg.natAbs := by
  unfold Fahrt.Vor
  rw [hdir, hlauf, hsoll]
  unfold wegDir
  by_cases hneg : weg < 0
  · rw [if_pos hneg, if_pos rfl]
    omega
  · rw [if_neg hneg, if_neg (by decide)]
    omega

/-- **An order in percent drives as many ticks as the position is away**, and no
tick more. -/
theorem percent_drives {s : Plant} (hload : LoadInv s) (hf : PercentOrder f)
    (ho : Obeyed s.dev f) (hp : s.dev.power = false) (hsp : s.dev.sollPower = false)
    (h100 : (f.byte 3).toNat ≤ 100) (hweg : s.dev.weg (f.byte 3) ≠ 0)
    (hup : UpFree s (.frame f)) (hpress : PressOver s.dev (s.dev.weg (f.byte 3))) (k : Nat) :
    ((rolladenStep selfaddr s (.frame f)).ticks selfaddr k).powerOut = true ↔
      (wegDir (s.dev.weg (f.byte 3))).vorlauf ≤ k ∧
        k < (wegDir (s.dev.weg (f.byte 3))).vorlauf + (s.dev.weg (f.byte 3)).natAbs := by
  obtain ⟨hfahrt, hcounter, horder⟩ := canCallback_weg selfaddr hf ho hp hsp h100 hweg
  have hidle : s.dev.ctl.Idle := ⟨ho.free, hp⟩
  generalize s.dev.weg (f.byte 3) = weg at hweg hpress hfahrt horder ⊢
  have hhead : (s.dev.ctl.drive (wegDir weg)).heading = wegDir weg :=
    heading_drive hidle (horder.free (hup f rfl))
  have hconfig := canCallback_config s.dev selfaddr f
  have hload' : LoadInv (rolladenStep selfaddr s (.frame f)) := hload.frame f
  have hdev : (rolladenStep selfaddr s (.frame f)).dev = (rolladenCanCallback selfaddr s.dev f).1 :=
    rfl
  generalize rolladenStep selfaddr s (.frame f) = s' at hload' hdev ⊢
  rw [← hdev] at hfahrt hcounter hconfig
  have hctl : s'.dev.ctl = s.dev.ctl.drive (wegDir weg) := congrArg Fahrt.ctl hfahrt
  have hquiet := hpress.ungestoert hfahrt hcounter hconfig
  obtain ⟨t, hvorlauf, htimer, hexe⟩ := drive_vorlauf (d := s.dev.ctl) ho.free (wegDir weg)
  rw [← hctl] at htimer hexe
  rw [hvorlauf] at hquiet ⊢
  have hsp' : s'.dev.sollPower = true :=
    (congrArg RelayCtl.sollPower hctl).trans (RelayCtl.drive_sollPower _ _)
  have hp' : s'.dev.power = false :=
    (congrArg RelayCtl.power hctl).trans ((RelayCtl.drive_power _ _).trans hp)
  obtain ⟨hoff, hlauf, hsoll, hdir, hgoes, hsafe, hrest⟩ :=
    drive_start selfaddr t hsp' hp' htimer hexe weg.natAbs hquiet
  have hlauf' : s'.dev.laufzeit = s.dev.laufzeit := congrArg Fahrt.laufzeit hfahrt
  have hsoll' : s'.dev.sollLaufzeit = s.dev.laufzeit + weg := congrArg Fahrt.soll hfahrt
  rw [hlauf'] at hlauf
  rw [hsoll'] at hsoll
  rw [hctl, hhead] at hdir
  have hpower : ∀ j, (s'.ticks selfaddr j).powerOut = (s'.ticks selfaddr j).dev.power := by
    intro j
    exact (run_invariant LoadInv.step _ s' hload').synced.power
  have hvor := vor_weg (m := (s'.ticks selfaddr (t + 1)).dev.fahrt) hdir hlauf hsoll
  rw [hpower]
  by_cases hstart : k ≤ t
  · rw [hoff k hstart]
    exact iff_of_false Bool.false_ne_true (by omega)
  · obtain ⟨j, rfl⟩ : ∃ j, k = t + 1 + j := ⟨k - (t + 1), by omega⟩
    rw [Plant.ticks_add]
    by_cases hj : j < weg.natAbs
    · have hon := drive_on selfaddr j hsafe hgoes (hrest.mono (by omega))
        ((hvor j).mpr hj)
      exact iff_of_true hon.1 (by omega)
    · obtain ⟨i, rfl⟩ : ∃ i, j = weg.natAbs + i := ⟨j - weg.natAbs, by omega⟩
      rw [Plant.ticks_add]
      have hend := drive_off selfaddr weg.natAbs hsafe hgoes hrest (by omega)
        (fun h => Nat.lt_irrefl _ ((hvor _).mp h))
      have hrests := steht_ticks selfaddr i _ hend
      exact iff_of_false (fun h => Bool.noConfusion (hrests.1.symm.trans h)) (by omega)

end

/-- An order in percent up to 100 that a shutter at rest does not ignore. -/
structure AcceptsPercent (p : DeviceDataRolladen) (f : CanixFrame) : Prop where
  percent : PercentOrder f
  hundred : (f.byte 3).toNat ≤ 100
  obeyed : Obeyed p f
  away : p.weg (f.byte 3) ≠ 0

/-- **The tracked position stays physical**: a shutter at rest is between its ends
after every run that keeps the range, and an order in percent then drives
exactly as long as the way is, at most one run time. -/
theorem position_physical (selfaddr : UInt16) (q : DeviceDataRolladen) (es : List RolladenEvent)
    (hzeit : 1 ≤ q.config.laufzeit.toNat)
    (hg : Guarded (rolladenStep selfaddr) KeepsRange (Plant.start q) es)
    (hp : (run (rolladenStep selfaddr) (Plant.start q) es).dev.power = false)
    (hsp : (run (rolladenStep selfaddr) (Plant.start q) es).dev.sollPower = false) :
    (0 ≤ (run (rolladenStep selfaddr) (Plant.start q) es).dev.laufzeit ∧
        (run (rolladenStep selfaddr) (Plant.start q) es).dev.laufzeit ≤ q.config.laufzeit.toNat) ∧
      ∀ f, AcceptsPercent (run (rolladenStep selfaddr) (Plant.start q) es).dev f →
        UpFree (run (rolladenStep selfaddr) (Plant.start q) es) (.frame f) →
        PressOver (run (rolladenStep selfaddr) (Plant.start q) es).dev
          ((run (rolladenStep selfaddr) (Plant.start q) es).dev.weg (f.byte 3)) →
        ((run (rolladenStep selfaddr) (Plant.start q) es).dev.weg (f.byte 3)).natAbs ≤
            q.config.laufzeit.toNat ∧
          ∃ d, ∀ k, ((run (rolladenStep selfaddr) (Plant.start q) (es ++ [.frame f])).ticks
              selfaddr k).powerOut = true ↔
            d ≤ k ∧
              k < d + ((run (rolladenStep selfaddr) (Plant.start q) es).dev.weg
                (f.byte 3)).natAbs := by
  have hinv : (run (rolladenStep selfaddr) (Plant.start q) es).InRange :=
    run_guarded inRange_step es _ hg (inRange_start hzeit)
  have hload : LoadInv (run (rolladenStep selfaddr) (Plant.start q) es) :=
    run_invariant LoadInv.step es _ (loadInv_start q)
  have hconfig : (run (rolladenStep selfaddr) (Plant.start q) es).dev.config = q.config :=
    run_config es (Plant.start q)
  have hlast : ∀ f, run (rolladenStep selfaddr) (Plant.start q) (es ++ [.frame f]) =
      rolladenStep selfaddr (run (rolladenStep selfaddr) (Plant.start q) es) (.frame f) := by
    intro f
    rw [run_append]
    rfl
  simp only [hlast]
  generalize run (rolladenStep selfaddr) (Plant.start q) es = s at hinv hload hconfig hp hsp ⊢
  have hrange : 0 ≤ s.dev.laufzeit ∧ s.dev.laufzeit ≤ s.dev.config.zeit :=
    hinv.2.still fun hf => Bool.noConfusion (hp.symm.trans hf.1)
  have hlen : s.dev.config.zeit = q.config.laufzeit.toNat := by
    rw [hconfig]
    rfl
  rw [← hlen]
  refine ⟨hrange, fun f haccepts hup hpress => ⟨?_, _, percent_drives hload haccepts.percent
    haccepts.obeyed hp hsp haccepts.hundred haccepts.away hup hpress⟩⟩
  have hsoll := prozentSoll_range s.dev (f.byte 3)
  rw [prozentSoll_eq haccepts.hundred] at hsoll
  unfold DeviceDataRolladen.weg
  omega

/-! ### A run time of two ticks -/

section Example

private def ganzNachOben : List RolladenEvent :=
  [.frame (positionOrder 2 1 100), .tick, .tick]

/-- Up in percent keeps the range, and the way back down is open. -/
theorem position_physical_oben :
    (0 ≤ (run (rolladenStep 1) (Plant.start (neuerRolladen 2 0)) ganzNachOben).dev.laufzeit ∧
        (run (rolladenStep 1) (Plant.start (neuerRolladen 2 0)) ganzNachOben).dev.laufzeit ≤
          (neuerRolladen 2 0).config.laufzeit.toNat) ∧
      ∀ f, AcceptsPercent (run (rolladenStep 1) (Plant.start (neuerRolladen 2 0)) ganzNachOben).dev
          f →
        UpFree (run (rolladenStep 1) (Plant.start (neuerRolladen 2 0)) ganzNachOben) (.frame f) →
        PressOver (run (rolladenStep 1) (Plant.start (neuerRolladen 2 0)) ganzNachOben).dev
          ((run (rolladenStep 1) (Plant.start (neuerRolladen 2 0)) ganzNachOben).dev.weg
            (f.byte 3)) →
        ((run (rolladenStep 1) (Plant.start (neuerRolladen 2 0)) ganzNachOben).dev.weg
            (f.byte 3)).natAbs ≤ (neuerRolladen 2 0).config.laufzeit.toNat ∧
          ∃ d, ∀ k, ((run (rolladenStep 1) (Plant.start (neuerRolladen 2 0))
              (ganzNachOben ++ [.frame f])).ticks 1 k).powerOut = true ↔
            d ≤ k ∧
              k < d + ((run (rolladenStep 1) (Plant.start (neuerRolladen 2 0)) ganzNachOben).dev.weg
                (f.byte 3)).natAbs := by
  have htick : ∀ s : Plant, s.dev.longPressedCounter ≠ 0 → KeepsRange s .tick := by
    intro s hpress
    refine ⟨upFree_tick s, ⟨fun f d hf => ?_, fun _ hzero => absurd hzero hpress⟩,
      ⟨fun f hf => ?_, fun f hf => ?_⟩, fun f hf => ?_⟩
    · cases hf
    · cases hf
    · cases hf
    · cases hf
  refine position_physical 1 (neuerRolladen 2 0) ganzNachOben (by decide)
    ⟨⟨?_, ⟨?_, ?_⟩, ⟨?_, ?_⟩, ?_⟩, htick _ (by decide), htick _ (by decide), trivial⟩
    (by decide) (by decide)
  · exact fun _ _ _ => .inl rfl
  · -- a percentage is no order to an end
    intro f d hf horder
    cases hf
    rcases horder.2.2 with ⟨⟨_, ⟨h200, _⟩ | ⟨h201, _⟩⟩, _⟩ | ⟨hcmd, _⟩
    · exact absurd h200 (by decide)
    · exact absurd h201 (by decide)
    · exact absurd hcmd (by decide)
  · intro hf
    cases hf
  · intro f _ _ hon
    cases hon
  · intro f _ _ hon
    cases hon
  · intro f _ _ _ hon
    cases hon

/-- **Above the upper end**: the first order up after a start calibrates the upper
end, the position is set back at the lower one only. -/
theorem position_not_physical :
    ¬ ∀ (selfaddr : UInt16) (q : DeviceDataRolladen) (es : List RolladenEvent),
      1 ≤ q.config.laufzeit.toNat →
        (run (rolladenStep selfaddr) (Plant.start q) es).dev.power = false →
        (run (rolladenStep selfaddr) (Plant.start q) es).dev.sollPower = false →
          (0 ≤ (run (rolladenStep selfaddr) (Plant.start q) es).dev.laufzeit ∧
              (run (rolladenStep selfaddr) (Plant.start q) es).dev.laufzeit ≤
                q.config.laufzeit.toNat) ∧
            ∀ f, AcceptsPercent (run (rolladenStep selfaddr) (Plant.start q) es).dev f →
              ((run (rolladenStep selfaddr) (Plant.start q) es).dev.weg (f.byte 3)).natAbs ≤
                  q.config.laufzeit.toNat ∧
                ∃ d, ∀ k, ((run (rolladenStep selfaddr) (Plant.start q) (es ++ [.frame f])).ticks
                    selfaddr k).powerOut = true ↔
                  d ≤ k ∧
                    k < d + ((run (rolladenStep selfaddr) (Plant.start q) es).dev.weg
                      (f.byte 3)).natAbs := by
  intro hall
  have hrange := (hall 1 (neuerRolladen 2 0)
    (.frame (positionOrder 2 1 201) :: List.replicate 3 .tick) (by decide) (by decide)
    (by decide)).1
  revert hrange
  decide

end Example

end OpenHcan.Rolladen
