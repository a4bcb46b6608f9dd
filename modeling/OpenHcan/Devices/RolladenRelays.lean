import OpenHcan.Devices.Rolladen

/-!
# RolladenRelays — the relay controller inside the shutter

What the two relays do depends on seven of the shutter's fields only. This
module takes them out as a controller of their own (`RelayCtl`) with six
kinds of action, and shows that every frame and every tick of the shutter is
one of these actions (`canCallback_action`, `rolladenStep_tick`). The two
modules about safety then argue about the controller alone.
-/

namespace OpenHcan.Rolladen

theorem Dir.auf_or_ab (d : Dir) : d = .auf ∨ d = .ab := by
  cases d with
  | auf => exact .inl rfl
  | ab => exact .inr rfl

/-- The fields that decide about the relays. -/
structure RelayCtl where
  dir : Dir
  sollDir : Dir
  exeDir : Bool
  sollPower : Bool
  power : Bool
  exePower : Bool
  blockingTimer : Nat
deriving DecidableEq, Repr

def DeviceDataRolladen.ctl (p : DeviceDataRolladen) : RelayCtl where
  dir := p.dir
  sollDir := p.sollDir
  exeDir := p.exeDir
  sollPower := p.sollPower
  power := p.power
  exePower := p.exePower
  blockingTimer := p.blockingTimer

namespace RelayCtl

/-- Standing still and not blocked: the controller takes orders to drive. -/
def Idle (c : RelayCtl) : Prop := c.blockingTimer = 0 ∧ c.power = false

/-- An order to stop. -/
def stop (c : RelayCtl) : RelayCtl :=
  let c := { c with sollPower := false, exePower := true, sollDir := .auf }
  if c.dir = .ab then { c with blockingTimer := 5, exeDir := false } else c

/-- An order to drive. -/
def drive (c : RelayCtl) (d : Dir) : RelayCtl :=
  let c := { c with sollPower := true, sollDir := d }
  if d = .ab then { c with exeDir := true, blockingTimer := 5, exePower := false }
  else { c with exePower := true }

/-- The direction is set, but no order to drive follows. -/
def preset (c : RelayCtl) : RelayCtl := { c with sollDir := .ab }

def blocking (c : RelayCtl) : RelayCtl :=
  if c.blockingTimer ≠ 0 then { c with blockingTimer := c.blockingTimer - 1 }
  else if c.sollPower then { c with exePower := true }
  else { c with exeDir := true }

/-- The direction relay follows its target. -/
def executeDir (c : RelayCtl) : RelayCtl :=
  if c.exeDir ∧ c.dir ≠ c.sollDir then { c with dir := c.sollDir, exeDir := false } else c

/-- The power relay follows its target. -/
def executePower (c : RelayCtl) : RelayCtl :=
  if c.exePower ∧ c.power ≠ c.sollPower then { c with power := c.sollPower, exePower := false }
  else c

/-- The relay part of a tick. -/
def relays (c : RelayCtl) : RelayCtl := c.blocking.executeDir.executePower

end RelayCtl

/-! ## The shutter's functions, seen by the controller -/

variable {selfaddr : UInt16} (p : DeviceDataRolladen)

@[simp] theorem calibration_ctl : (calibration p).ctl = p.ctl := by
  unfold calibration
  split
  · split <;> rfl
  · split <;> rfl

@[simp] theorem prepareCalibration_ctl : (prepareCalibration p).ctl = p.ctl := by
  unfold prepareCalibration
  split
  · split <;> rfl
  · split
    · split <;> rfl
    · split <;> rfl

@[simp] theorem stopEndlage_ctl : (stopEndlage p).ctl = p.ctl := by
  unfold stopEndlage
  dsimp only
  split
  · split
    · exact calibration_ctl _
    · rfl
  · rfl

/-- The fields of a shutter that the controller sees. -/
theorem ctl_congr {p q : DeviceDataRolladen} (h : p.ctl = q.ctl) :
    p.dir = q.dir ∧ p.sollDir = q.sollDir ∧ p.exeDir = q.exeDir ∧ p.sollPower = q.sollPower ∧
      p.power = q.power ∧ p.exePower = q.exePower ∧ p.blockingTimer = q.blockingTimer := by
  unfold DeviceDataRolladen.ctl at h
  simpa only [RelayCtl.mk.injEq] using h

@[simp] theorem rolladenCmdStop_ctl : (rolladenCmdStop p).ctl = p.ctl.stop := by
  obtain ⟨hdir, hsd, hed, hsp, hp, hep, hb⟩ := ctl_congr (stopEndlage_ctl p)
  unfold rolladenCmdStop RelayCtl.stop
  dsimp only [DeviceDataRolladen.ctl]
  rw [hdir]
  by_cases hab : p.dir = .ab
  · simp [hab, hp]
  · simp [hab, hp, hed, hb]

/-- `rolladen_cmd_drive` after the direction has been set. -/
theorem rolladenCmdDrive_ctl {q : DeviceDataRolladen} {d : Dir}
    (hq : q.ctl = { p.ctl with sollDir := d }) : (rolladenCmdDrive q).ctl = p.ctl.drive d := by
  obtain ⟨hdir, hsd, hed, hsp, hp, hep, hb⟩ :=
    ctl_congr (q := { p with sollDir := d }) hq
  unfold rolladenCmdDrive RelayCtl.drive
  dsimp only at hdir hsd hed hsp hp hep hb
  dsimp only [DeviceDataRolladen.ctl]
  rw [hsd]
  by_cases hab : d = .ab
  · simp [hab, hdir, hp]
  · simp [hab, hdir, hp, hed, hb]

/-! ## Targets -/

/-- The target of `set_soll_laufzeit` is reached already. -/
def SollReached (d : Dir) : Prop :=
  (d = .ab ∧ p.laufzeit ≤ 0) ∨ (d = .auf ∧ p.config.zeit ≤ p.laufzeit)

theorem setSollLaufzeit_reached {d : Dir} (h : SollReached p d) :
    setSollLaufzeit p d = (false, { p with sollLaufzeit := -1 }) := by
  unfold setSollLaufzeit
  rcases h with ⟨rfl, h⟩ | ⟨rfl, h⟩
  · simp [h]
  · simp [h]

theorem setSollLaufzeit_not_reached {d : Dir} (h : ¬ SollReached p d) :
    setSollLaufzeit p d = (true,
      if p.summeLaufzeit ≥ p.config.maxRekalib.toNat then
        prepareCalibration { p with
          sollLaufzeit := if d = .ab then 0 else p.config.zeit, sollDir := d }
      else { p with sollLaufzeit := if d = .ab then 0 else p.config.zeit, sollDir := d }) := by
  unfold setSollLaufzeit
  cases d with
  | auf =>
      have hlt : ¬ p.config.zeit ≤ p.laufzeit := fun hle => h (.inr ⟨rfl, hle⟩)
      simp [hlt]
  | ab =>
      have hlt : ¬ p.laufzeit ≤ 0 := fun hle => h (.inl ⟨rfl, hle⟩)
      simp [hlt]

theorem setSollLaufzeit_ctl {d : Dir} (h : ¬ SollReached p d) :
    (setSollLaufzeit p d).2.ctl = { p.ctl with sollDir := d } := by
  rw [setSollLaufzeit_not_reached p h]
  dsimp only
  split
  · exact prepareCalibration_ctl _
  · rfl

/-- The targets `prepare_calibration` can leave. -/
theorem prepareCalibration_soll :
    (prepareCalibration p).sollLaufzeit = p.sollLaufzeit ∨
      (prepareCalibration p).sollLaufzeit = obenSoll p ∨
      (p.sollDir = .ab ∧ (p.kalibrieren = true ∨ p.config.kalibrierungOben = false) ∧
        (prepareCalibration p).sollLaufzeit = untenSoll p) := by
  unfold prepareCalibration
  cases hd : p.sollDir with
  | auf =>
      split
      · exact .inr (.inl rfl)
      · split
        · exact .inr (.inl rfl)
        · exact .inl rfl
  | ab =>
      split
      · rename_i hk
        exact .inr (.inr ⟨rfl, .inl hk, rfl⟩)
      · split
        · exact .inl rfl
        · rename_i ho
          exact .inr (.inr ⟨rfl, .inr (by simpa using ho), rfl⟩)

/-- A target for a drive down that is -1, the value for "no target": half a
run time of 2 or 3 rounds to 1. -/
theorem setSollLaufzeit_sentinel {d : Dir} (h : ¬ SollReached p d)
    (hsoll : (setSollLaufzeit p d).2.sollLaufzeit = -1) :
    d = .ab ∧ p.config.maxRekalib.toNat ≤ p.summeLaufzeit ∧
      (p.kalibrieren = true ∨ p.config.kalibrierungOben = false) ∧
      p.config.laufzeit.toNat / 2 = 1 := by
  have hpos : 0 ≤ p.config.zeit := Int.natCast_nonneg _
  have hplain : (if d = .ab then (0 : Int) else p.config.zeit) ≠ -1 := by
    split <;> omega
  rw [setSollLaufzeit_not_reached p h] at hsoll
  dsimp only at hsoll
  split at hsoll
  · rename_i hsumme
    rcases prepareCalibration_soll { p with
        sollLaufzeit := if d = .ab then 0 else p.config.zeit, sollDir := d } with
      heq | heq | ⟨hd, hkal, heq⟩
    · exact absurd (heq.symm.trans hsoll) hplain
    · have hoben := heq.symm.trans hsoll
      simp only [obenSoll] at hoben
      omega
    · have hunten := heq.symm.trans hsoll
      simp only [untenSoll, EdsRolladenBlock.zeit] at hunten
      exact ⟨hd, hsumme, hkal, by omega⟩
  · exact absurd hsoll hplain

/-! ## Frames -/

/-- A frame that the shutter obeys only while it stands still: its group is
meant, it is neither mute nor blocked, and the power is off. -/
structure Addressed (p : DeviceDataRolladen) (f : CanixFrame) : Prop where
  group : isGroupInRolladen p (f.byte 2) = true
  mute : p.mute = false
  free : p.blockingTimer = 0
  power : p.power = false

theorem Addressed.idle {p : DeviceDataRolladen} {f : CanixFrame} (h : Addressed p f) :
    p.ctl.Idle := ⟨h.free, h.power⟩

/-- The frame makes the shutter drive up: a button, a percentage above the
position, or the one-button mode with `last_dir` up. -/
def StartsUp (p : DeviceDataRolladen) (f : CanixFrame) : Prop :=
  Addressed p f ∧
    ((f.byte 1 = hcanHesRolladenPositionSet ∧ p.sollPower = false ∧
        ((f.byte 3 = 201 ∧ p.laufzeit < p.config.zeit) ∨
          (f.byte 3 ≠ 200 ∧ f.byte 3 ≠ 201 ∧ f.byte 3 ≠ 202 ∧ f.byte 3 ≠ 222 ∧
            p.laufzeit < prozentSoll p (f.byte 3)))) ∨
      (f.byte 1 = hcanHesTasterDown ∧ p.lastDir = .auf ∧ p.laufzeit < p.config.zeit))

/-- `TASTER_DOWN` for a drive down with a calibration target of -1: the code
takes it for "no target", sets `soll_dir` and gives no order to drive. -/
def HitsSentinel (p : DeviceDataRolladen) (f : CanixFrame) : Prop :=
  Addressed p f ∧ f.byte 1 = hcanHesTasterDown ∧ p.lastDir = .ab ∧ 0 < p.laufzeit ∧
    p.config.maxRekalib.toNat ≤ p.summeLaufzeit ∧
    (p.kalibrieren = true ∨ p.config.kalibrierungOben = false) ∧
    p.config.laufzeit.toNat / 2 = 1

/-- What a frame can make the controller do. -/
inductive FrameAction (p : DeviceDataRolladen) (f : CanixFrame) : RelayCtl → Prop
  | keep : FrameAction p f p.ctl
  | stop : FrameAction p f p.ctl.stop
  | down : p.ctl.Idle → FrameAction p f (p.ctl.drive .ab)
  | up : StartsUp p f → FrameAction p f (p.ctl.drive .auf)
  | preset : HitsSentinel p f → FrameAction p f p.ctl.preset

theorem tasterSet_action {f : CanixFrame} (hcmd : f.byte 1 = hcanHesRolladenPositionSet)
    (hgroup : isGroupInRolladen p (f.byte 2) = true) {d : Dir}
    (hauf : d = .auf → f.byte 3 = 201) :
    FrameAction p f (tasterSet selfaddr p d).1.ctl := by
  unfold tasterSet
  split
  · exact .keep
  · rename_i hfree
    rw [not_or, Bool.not_eq_true, not_not] at hfree
    split
    · rw [rolladenCmdStop_ctl]
      exact .stop
    · rename_i hpower
      rw [not_or, Bool.not_eq_true, Bool.not_eq_true] at hpower
      by_cases hr : SollReached p d
      · rw [setSollLaufzeit_reached p hr]
        exact .keep
      · have hctl := setSollLaufzeit_ctl p hr
        have htrue : (setSollLaufzeit p d).1 = true := by rw [setSollLaufzeit_not_reached p hr]
        have hdrive : (rolladenCmdDrive
            { (setSollLaufzeit p d).2 with longPressedCounter := 10 }).ctl = p.ctl.drive d :=
          rolladenCmdDrive_ctl p hctl
        dsimp only
        rw [htrue, if_pos rfl]
        show FrameAction p f (rolladenCmdDrive _).ctl
        rw [hdrive]
        cases d with
        | ab => exact .down ⟨hfree.2, hpower.1⟩
        | auf =>
            have hlt : p.laufzeit < p.config.zeit := by
              by_contra hge
              exact hr (.inr ⟨rfl, by omega⟩)
            exact .up ⟨⟨hgroup, hfree.1, hfree.2, hpower.1⟩,
              .inl ⟨hcmd, hpower.2, .inl ⟨hauf rfl, hlt⟩⟩⟩

theorem prozentSet_action {f : CanixFrame} (hcmd : f.byte 1 = hcanHesRolladenPositionSet)
    (hgroup : isGroupInRolladen p (f.byte 2) = true) (h200 : f.byte 3 ≠ 200)
    (h201 : f.byte 3 ≠ 201) (h202 : f.byte 3 ≠ 202) (h222 : f.byte 3 ≠ 222) :
    FrameAction p f (prozentSet p (f.byte 3)).ctl := by
  unfold prozentSet
  split
  · exact .keep
  · rename_i hfree
    rw [not_or, Bool.not_eq_true, not_not] at hfree
    dsimp only
    split
    · exact .keep
    · rename_i hgo
      rw [not_or, not_or, Bool.not_eq_true, Bool.not_eq_true] at hgo
      obtain ⟨hpower, hsp, hne⟩ := hgo
      by_cases hlt : prozentSoll p (f.byte 3) < p.laufzeit
      · rw [rolladenCmdDrive_ctl p (d := .ab) (by simp [hlt, DeviceDataRolladen.ctl])]
        exact .down ⟨hfree.2, hpower⟩
      · rw [rolladenCmdDrive_ctl p (d := .auf) (by simp [hlt, DeviceDataRolladen.ctl])]
        exact .up ⟨⟨hgroup, hfree.1, hfree.2, hpower⟩,
          .inl ⟨hcmd, hsp, .inr ⟨h200, h201, h202, h222, by omega⟩⟩⟩

theorem positionSet_action {f : CanixFrame} (hcmd : f.byte 1 = hcanHesRolladenPositionSet)
    (hgroup : isGroupInRolladen p (f.byte 2) = true) :
    FrameAction p f (positionSet selfaddr p (f.byte 3)).1.ctl := by
  unfold positionSet
  split
  · exact tasterSet_action p hcmd hgroup (fun h => by cases h)
  · split
    · rename_i h201
      exact tasterSet_action p hcmd hgroup (fun _ => h201)
    · split
      · have hstop := rolladenCmdStop_ctl { p with longPressedCounter := -1 }
        dsimp only
        rw [hstop]
        exact .stop
      · split
        · exact .keep
        · exact prozentSet_action p hcmd hgroup ‹_› ‹_› ‹_› ‹_›

theorem tasterDown_action {f : CanixFrame} (hcmd : f.byte 1 = hcanHesTasterDown)
    (hgroup : isGroupInRolladen p (f.byte 2) = true) :
    FrameAction p f (tasterDown selfaddr p).1.ctl := by
  unfold tasterDown
  split
  · exact .keep
  · rename_i hfree
    rw [not_or, Bool.not_eq_true, not_not] at hfree
    split
    · have hstop := rolladenCmdStop_ctl { p with changeDirCounter := 7 }
      dsimp only
      rw [hstop]
      exact .stop
    · rename_i hpower
      rw [Bool.not_eq_true] at hpower
      have haddr : Addressed p f := ⟨hgroup, hfree.1, hfree.2, hpower⟩
      by_cases hr : SollReached p p.lastDir
      · rw [setSollLaufzeit_reached p hr]
        exact .keep
      · have hctl := setSollLaufzeit_ctl p hr
        dsimp only
        by_cases hsoll : (setSollLaufzeit p p.lastDir).2.sollLaufzeit = -1
        · -- the calibration target is taken for "no target"
          obtain ⟨hdir, hsumme, hkal, hzeit⟩ := setSollLaufzeit_sentinel p hr hsoll
          rw [if_neg (not_not.mpr hsoll)]
          dsimp only
          rw [hctl, hdir]
          refine .preset ⟨haddr, hcmd, hdir, ?_, hsumme, hkal, hzeit⟩
          by_contra hle
          exact hr (.inl ⟨hdir, by omega⟩)
        · rw [if_pos hsoll]
          dsimp only
          rw [rolladenCmdDrive_ctl p hctl]
          cases hdir : p.lastDir with
          | ab => exact .down haddr.idle
          | auf =>
              refine .up ⟨haddr, .inr ⟨hcmd, hdir, ?_⟩⟩
              by_contra hge
              exact hr (.inr ⟨hdir, by omega⟩)

theorem rolladenSwitch_action (f : CanixFrame) :
    FrameAction p f (rolladenSwitch selfaddr p f).1.ctl := by
  unfold rolladenSwitch
  dsimp only
  split
  · rename_i hcmd
    split
    · rename_i hgroup
      exact positionSet_action p hcmd hgroup
    · exact .keep
  · split
    · rename_i hcmd
      split
      · rename_i hgroup
        exact tasterDown_action p hcmd hgroup
      · exact .keep
    · -- the other commands do not touch the controller
      have hkeep : ∀ q : DeviceDataRolladen, q.ctl = p.ctl → FrameAction p f q.ctl := by
        intro q hq
        rw [hq]
        exact .keep
      split
      · split <;> exact hkeep _ rfl
      · split
        · split <;> exact hkeep _ rfl
        · split
          · exact .keep
          · split
            · exact .keep
            · split <;> exact .keep

/-- **Every frame is an action of the controller.** -/
theorem canCallback_action (selfaddr : UInt16) (f : CanixFrame) :
    FrameAction p f (rolladenCanCallback selfaddr p f).1.ctl := by
  have hmute : (rolladenCanCallback selfaddr p f).1.ctl = (rolladenSwitch selfaddr p f).1.ctl := by
    unfold rolladenCanCallback
    dsimp only
    split
    · split
      · rfl
      · split <;> rfl
    · rfl
  rw [hmute]
  exact rolladenSwitch_action p f

/-! ## Ticks -/

theorem changeDir_longPressed_ctl : (changeDir (longPressed p)).ctl = p.ctl := by
  have hlong : (longPressed p).ctl = p.ctl := by
    unfold longPressed
    split
    · rfl
    · split
      · exact prepareCalibration_ctl p
      · rfl
  rw [← hlong]
  unfold changeDir
  split
  · rfl
  · split <;> rfl

/-- The check for the target stops the shutter or leaves the controller alone. -/
theorem endlagePruefung_ctl (selfaddr : UInt16) :
    (endlagePruefung selfaddr p).1.ctl = p.ctl ∨
      (p.power = true ∧ p.sollPower = true ∧
        (endlagePruefung selfaddr p).1.ctl = p.ctl.stop) := by
  unfold endlagePruefung
  split
  · rename_i hdriving
    have hfahren : (fahren p).ctl = p.ctl := by
      unfold fahren
      split <;> rfl
    dsimp only
    split
    · refine .inr ⟨hdriving.1, hdriving.2, ?_⟩
      show (rolladenCmdStop (fahren p)).ctl = p.ctl.stop
      rw [rolladenCmdStop_ctl, hfahren]
    · exact .inl hfahren
  · exact .inl rfl

theorem relaisBlocking_ctl : (relaisBlocking p).ctl = p.ctl.blocking := by
  unfold relaisBlocking RelayCtl.blocking
  by_cases hb : p.blockingTimer = 0
  · by_cases hsp : p.sollPower = true
    · simp [DeviceDataRolladen.ctl, hb, hsp]
    · simp [DeviceDataRolladen.ctl, hb, hsp]
  · simp [DeviceDataRolladen.ctl, hb]

/-- The writes of a tick: to the direction relay if it moves, then to the
power relay if it moves. -/
theorem relaisExecution_eq :
    (relaisExecution p).1.ctl = p.ctl.executeDir.executePower ∧
      (relaisExecution p).2 =
        (if p.ctl.exeDir ∧ p.ctl.dir ≠ p.ctl.sollDir then
            [⟨.dir, p.config.portDir, p.sollDir.pin⟩] else []) ++
          (if p.ctl.exePower ∧ p.ctl.power ≠ p.ctl.sollPower then
            [⟨.power, p.config.portPower, p.sollPower⟩] else []) := by
  unfold relaisExecution RelayCtl.executePower RelayCtl.executeDir
  by_cases hd : p.exeDir = true ∧ p.dir ≠ p.sollDir
  · by_cases hp : p.exePower = true ∧ p.power ≠ p.sollPower
    · simp [DeviceDataRolladen.ctl, hd, hp]
    · simp [DeviceDataRolladen.ctl, hd, hp]
  · by_cases hp : p.exePower = true ∧ p.power ≠ p.sollPower
    · simp [DeviceDataRolladen.ctl, hd, hp]
    · simp [DeviceDataRolladen.ctl, hd, hp]

theorem RelayCtl.stop_dir (c : RelayCtl) : c.stop.dir = c.dir := by
  unfold RelayCtl.stop
  dsimp only
  split <;> rfl

theorem RelayCtl.stop_power (c : RelayCtl) : c.stop.power = c.power := by
  unfold RelayCtl.stop
  dsimp only
  split <;> rfl

theorem RelayCtl.stop_sollPower (c : RelayCtl) : c.stop.sollPower = false := by
  unfold RelayCtl.stop
  dsimp only
  split <;> rfl

theorem FrameAction.dir {p : DeviceDataRolladen} {f : CanixFrame} {c : RelayCtl}
    (h : FrameAction p f c) : c.dir = p.dir := by
  cases h with
  | keep => rfl
  | stop => exact RelayCtl.stop_dir _
  | down => rfl
  | up => rfl
  | preset => rfl

theorem FrameAction.power {p : DeviceDataRolladen} {f : CanixFrame} {c : RelayCtl}
    (h : FrameAction p f c) : c.power = p.power := by
  cases h with
  | keep => rfl
  | stop => exact RelayCtl.stop_power _
  | down => rfl
  | up => rfl
  | preset => rfl

theorem RelayCtl.blocking_dir (c : RelayCtl) : c.blocking.dir = c.dir := by
  unfold RelayCtl.blocking
  split
  · rfl
  · split <;> rfl

theorem RelayCtl.blocking_power (c : RelayCtl) : c.blocking.power = c.power := by
  unfold RelayCtl.blocking
  split
  · rfl
  · split <;> rfl

theorem RelayCtl.blocking_sollDir (c : RelayCtl) : c.blocking.sollDir = c.sollDir := by
  unfold RelayCtl.blocking
  split
  · rfl
  · split <;> rfl

theorem RelayCtl.blocking_sollPower (c : RelayCtl) : c.blocking.sollPower = c.sollPower := by
  unfold RelayCtl.blocking
  split
  · rfl
  · split <;> rfl

theorem RelayCtl.blocking_busy {c : RelayCtl} (h : c.blockingTimer ≠ 0) :
    c.blocking = { c with blockingTimer := c.blockingTimer - 1 } := by
  unfold RelayCtl.blocking
  rw [if_pos h]

theorem RelayCtl.blocking_drive {c : RelayCtl} (h : c.blockingTimer = 0)
    (hsp : c.sollPower = true) : c.blocking = { c with exePower := true } := by
  unfold RelayCtl.blocking
  rw [if_neg (not_not.mpr h), if_pos hsp]

theorem RelayCtl.blocking_rest {c : RelayCtl} (h : c.blockingTimer = 0)
    (hsp : c.sollPower = false) : c.blocking = { c with exeDir := true } := by
  unfold RelayCtl.blocking
  rw [if_neg (not_not.mpr h), if_neg (by simp [hsp])]

/-- Where the direction relay is after a tick. -/
theorem RelayCtl.relays_dir (c : RelayCtl) :
    c.relays.dir =
      if c.blocking.exeDir = true ∧ c.blocking.dir ≠ c.blocking.sollDir then c.blocking.sollDir
      else c.dir := by
  unfold RelayCtl.relays RelayCtl.executePower RelayCtl.executeDir
  rw [← c.blocking_dir]
  by_cases hd : c.blocking.exeDir = true ∧ c.blocking.dir ≠ c.blocking.sollDir
  · simp only [if_pos hd]
    split <;> rfl
  · simp only [if_neg hd]
    split <;> rfl

/-- Where the power relay is after a tick. -/
theorem RelayCtl.relays_power (c : RelayCtl) :
    c.relays.power =
      if c.blocking.exePower = true ∧ c.blocking.power ≠ c.blocking.sollPower then
        c.blocking.sollPower
      else c.power := by
  unfold RelayCtl.relays RelayCtl.executePower RelayCtl.executeDir
  rw [← c.blocking_power]
  by_cases hd : c.blocking.exeDir = true ∧ c.blocking.dir ≠ c.blocking.sollDir
  · simp only [if_pos hd]
    split <;> rfl
  · simp only [if_neg hd]
    split <;> rfl

/-- After a tick nothing is left for the direction relay to do at once. -/
theorem RelayCtl.relays_exeDir {c : RelayCtl} (h : c.relays.exeDir = true) :
    c.relays.dir = c.relays.sollDir := by
  have hmove : ∀ d : RelayCtl, d.executeDir.exeDir = true →
      d.executeDir.dir = d.executeDir.sollDir := by
    intro d hd
    unfold RelayCtl.executeDir at hd ⊢
    split at hd
    · cases hd
    · rename_i hrest
      rw [if_neg hrest]
      by_contra hne
      exact hrest ⟨hd, hne⟩
  unfold RelayCtl.relays RelayCtl.executePower at h ⊢
  split at h
  · rw [if_pos ‹_›]
    exact hmove _ h
  · rw [if_neg ‹_›]
    exact hmove _ h

theorem RelayCtl.relays_sollPower (c : RelayCtl) : c.relays.sollPower = c.sollPower := by
  rw [← c.blocking_sollPower]
  unfold RelayCtl.relays RelayCtl.executePower RelayCtl.executeDir
  split
  · split <;> rfl
  · split <;> rfl

theorem RelayCtl.blocking_exePower {c : RelayCtl} (h : c.exePower = true) :
    c.blocking.exePower = true := by
  unfold RelayCtl.blocking
  split
  · exact h
  · split
    · rfl
    · exact h

theorem RelayCtl.relays_sollDir (c : RelayCtl) : c.relays.sollDir = c.sollDir := by
  rw [← c.blocking_sollDir]
  unfold RelayCtl.relays RelayCtl.executePower RelayCtl.executeDir
  split
  · split <;> rfl
  · split <;> rfl

/-- Free and ordered to drive: the power goes on. -/
theorem RelayCtl.relays_on {c : RelayCtl} (hsp : c.sollPower = true) (hfree : c.blockingTimer = 0) :
    c.relays.power = true := by
  rw [RelayCtl.relays_power, RelayCtl.blocking_drive hfree hsp]
  cases hp : c.power with
  | false => simp [hsp]
  | true => simp [hsp]

theorem RelayCtl.executeDir_move {c : RelayCtl} (hexe : c.exeDir = true) (hne : c.dir ≠ c.sollDir) :
    c.executeDir = { c with dir := c.sollDir, exeDir := false } := by
  unfold RelayCtl.executeDir
  rw [if_pos ⟨hexe, hne⟩]

theorem RelayCtl.executeDir_there {c : RelayCtl} (h : c.dir = c.sollDir) : c.executeDir = c := by
  unfold RelayCtl.executeDir
  rw [if_neg (fun hmove => hmove.2 h)]

theorem RelayCtl.executeDir_waits {c : RelayCtl} (h : c.exeDir = false) : c.executeDir = c := by
  unfold RelayCtl.executeDir
  rw [if_neg (by simp [h])]

theorem RelayCtl.executePower_waits {c : RelayCtl} (h : c.exePower = false) :
    c.executePower = c := by
  unfold RelayCtl.executePower
  rw [if_neg (by simp [h])]

/-- The timer handler, seen by the controller. -/
theorem timerHandler_ctl (selfaddr : UInt16) :
    ∃ c : RelayCtl, (c = p.ctl ∨ (p.power = true ∧ p.sollPower = true ∧ c = p.ctl.stop)) ∧
      (rolladenTimerHandler selfaddr p 10).dev.ctl = c.relays ∧
      ∃ portDir portPower, (rolladenTimerHandler selfaddr p 10).writes =
        (if c.blocking.exeDir ∧ c.blocking.dir ≠ c.blocking.sollDir then
            [⟨.dir, portDir, c.blocking.sollDir.pin⟩] else []) ++
          (if c.blocking.exePower ∧ c.blocking.power ≠ c.blocking.sollPower then
            [⟨.power, portPower, c.blocking.sollPower⟩] else []) := by
  have hpre := changeDir_longPressed_ctl p
  obtain ⟨-, -, -, hsp, hp, -, -⟩ := ctl_congr hpre
  have hend := endlagePruefung_ctl (changeDir (longPressed p)) selfaddr
  have hblock := relaisBlocking_ctl
    (endlagePruefung selfaddr (changeDir (longPressed p))).1
  obtain ⟨hexe, hwrites⟩ := relaisExecution_eq
    (relaisBlocking (endlagePruefung selfaddr (changeDir (longPressed p))).1)
  refine ⟨(endlagePruefung selfaddr (changeDir (longPressed p))).1.ctl, ?_, ?_, ?_⟩
  · rw [hpre, hsp, hp] at hend
    exact hend
  · rw [RelayCtl.relays, ← hblock, ← hexe]
    unfold rolladenTimerHandler
    dsimp only
    rw [if_neg (by decide)]
    dsimp only
    split <;> rfl
  · rw [← hblock]
    exact ⟨_, _, hwrites⟩

/-- The outputs are where the shutter's own fields say they are. -/
structure Synced (s : Plant) : Prop where
  dir : s.dirOut = s.dev.dir.pin
  power : s.powerOut = s.dev.power

theorem synced_start (q : DeviceDataRolladen) : Synced (Plant.start q) := ⟨rfl, rfl⟩

theorem Synced.frame {s : Plant} (h : Synced s) (f : CanixFrame) :
    Synced (rolladenStep selfaddr s (.frame f)) := by
  have ha := canCallback_action s.dev selfaddr f
  constructor
  · show s.dirOut = _
    rw [h.dir]
    exact congrArg Dir.pin ha.dir.symm
  · show s.powerOut = _
    rw [h.power]
    exact ha.power.symm

theorem Dir.pin_injective {d e : Dir} : d.pin = e.pin ↔ d = e := by
  cases d <;> cases e <;> simp [Dir.pin]

/-- One tick of a plant, seen by the controller: `c` is the controller after
the check for the target. -/
structure TickOf (s s' : Plant) (c : RelayCtl) : Prop where
  order : c = s.dev.ctl ∨ (s.dev.power = true ∧ s.dev.sollPower = true ∧ c = s.dev.ctl.stop)
  ctl : s'.dev.ctl = c.relays
  tick : s'.tick = s.tick + 1
  lastOn : s'.lastOn =
    if c.power = true ∨ c.relays.power = true then some (s.tick + 1) else s.lastOn
  dirAt : s'.dirAt = if c.relays.dir ≠ c.dir then some (s.tick + 1) else s.dirAt
  powerAt : s'.powerAt =
    if c.power = false ∧ c.relays.power = true then some (s.tick + 1) else s.powerAt
  writes : ∀ w ∈ s'.writes, w ∈ s.writes ∨ w.relay = .power ∨
    (c.relays.dir ≠ c.dir ∧ w = ⟨.dir, s.tick + 1, c.dir.pin, c.relays.dir.pin, c.power,
      if c.power = true then some (s.tick + 1) else s.lastOn⟩)
  synced : Synced s'

section

variable {s s' : Plant} {c : RelayCtl}

theorem TickOf.dir (h : TickOf s s' c) : c.dir = s.dev.dir := by
  rcases h.order with rfl | ⟨_, _, rfl⟩
  · rfl
  · exact RelayCtl.stop_dir _

theorem TickOf.power (h : TickOf s s' c) : c.power = s.dev.power := by
  rcases h.order with rfl | ⟨_, _, rfl⟩
  · rfl
  · exact RelayCtl.stop_power _

end

/-- The direction relay is put to `d'`. -/
structure DirWritten (s s' : Plant) (d d' : Dir) : Prop where
  dev : s'.dev = s.dev
  tick : s'.tick = s.tick
  powerOut : s'.powerOut = s.powerOut
  lastOn : s'.lastOn = s.lastOn
  powerAt : s'.powerAt = s.powerAt
  dirOut : s'.dirOut = d'.pin
  dirAt : s'.dirAt = if d' ≠ d then some s.tick else s.dirAt
  writes : ∀ w ∈ s'.writes, w ∈ s.writes ∨
    (d' ≠ d ∧ w = ⟨.dir, s.tick, d.pin, d'.pin, s.powerOut, s.lastOn⟩)

theorem dirWritten {s : Plant} {d : Dir} (hout : s.dirOut = d.pin) (exe : Bool) (port : UInt8)
    (soll : Dir) :
    DirWritten s
      ((if exe = true ∧ d ≠ soll then [⟨.dir, port, soll.pin⟩] else []).foldl Plant.write s)
      d (if exe = true ∧ d ≠ soll then soll else d) := by
  split
  · rename_i hd
    have hne : soll ≠ d := hd.2.symm
    refine ⟨rfl, rfl, rfl, rfl, rfl, rfl, ?_, ?_⟩
    · simp [Plant.write, hout, Dir.pin_injective]
    · intro w hw
      rcases List.mem_append.mp hw with hw | hw
      · exact .inl hw
      · rw [List.mem_singleton.mp hw, hout]
        exact .inr ⟨hne, rfl⟩
  · refine ⟨rfl, rfl, rfl, rfl, rfl, hout, ?_, fun w hw => .inl hw⟩
    rw [if_neg (not_not.mpr rfl)]
    rfl

/-- The power relay is put to `p'`. -/
structure PowerWritten (s s' : Plant) (p p' : Bool) : Prop where
  dev : s'.dev = s.dev
  tick : s'.tick = s.tick
  dirOut : s'.dirOut = s.dirOut
  dirAt : s'.dirAt = s.dirAt
  powerOut : s'.powerOut = p'
  lastOn : s'.lastOn = if p = false ∧ p' = true then some s.tick else s.lastOn
  powerAt : s'.powerAt = if p = false ∧ p' = true then some s.tick else s.powerAt
  writes : ∀ w ∈ s'.writes, w ∈ s.writes ∨ w.relay = .power

theorem powerWritten {s : Plant} {p : Bool} (hout : s.powerOut = p) (exe : Bool) (port : UInt8)
    (soll : Bool) :
    PowerWritten s
      ((if exe = true ∧ p ≠ soll then [⟨.power, port, soll⟩] else []).foldl Plant.write s)
      p (if exe = true ∧ p ≠ soll then soll else p) := by
  split
  · rename_i hp
    refine ⟨rfl, rfl, rfl, rfl, rfl, ?_, ?_, ?_⟩
    · cases p with
      | false => simp [Plant.write]
      | true => simp [Plant.write, hp.2.symm]
    · cases p with
      | false => simp [Plant.write, hout]
      | true => simp [Plant.write, hout]
    · intro w hw
      rcases List.mem_append.mp hw with hw | hw
      · exact .inl hw
      · rw [List.mem_singleton.mp hw]
        exact .inr rfl
  · have hno : ¬ (p = false ∧ p = true) := fun h => Bool.noConfusion (h.1.symm.trans h.2)
    refine ⟨rfl, rfl, rfl, rfl, hout, ?_, ?_, fun w hw => .inl hw⟩
    · rw [if_neg hno]
      rfl
    · rw [if_neg hno]
      rfl

theorem rolladenStep_tick (selfaddr : UInt16) {s : Plant} (hs : Synced s) :
    ∃ c, TickOf s (rolladenStep selfaddr s .tick) c := by
  obtain ⟨c, horder, hctl, portDir, portPower, hwrites⟩ :=
    timerHandler_ctl s.dev selfaddr
  have hdir : c.dir = s.dev.dir := by
    rcases horder with rfl | ⟨_, _, rfl⟩
    · rfl
    · exact RelayCtl.stop_dir _
  have hpower : c.power = s.dev.power := by
    rcases horder with rfl | ⟨_, _, rfl⟩
    · rfl
    · exact RelayCtl.stop_power _
  have hrd := c.relays_dir
  have hrp := c.relays_power
  rw [c.blocking_dir] at hrd hwrites
  rw [c.blocking_power] at hrp hwrites
  have hdevDir : (rolladenTimerHandler selfaddr s.dev 10).dev.dir = c.relays.dir :=
    congrArg RelayCtl.dir hctl
  have hdevPower : (rolladenTimerHandler selfaddr s.dev 10).dev.power = c.relays.power :=
    congrArg RelayCtl.power hctl
  have hout : s.dirOut = c.dir.pin := by rw [hs.dir, hdir]
  have hpow : s.powerOut = c.power := by rw [hs.power, hpower]
  refine ⟨c, ?_⟩
  unfold rolladenStep
  dsimp only
  rw [hwrites, List.foldl_append]
  -- first the direction, then the power
  have hfirst := dirWritten (s := { s with
    dev := (rolladenTimerHandler selfaddr s.dev 10).dev
    tick := s.tick + 1
    lastOn := if s.powerOut = true then some (s.tick + 1) else s.lastOn }) hout
    c.blocking.exeDir portDir c.blocking.sollDir
  rw [← hrd] at hfirst
  generalize List.foldl Plant.write _ _ = s₁ at hfirst ⊢
  have hthen := powerWritten (hfirst.powerOut.trans hpow) c.blocking.exePower portPower
    c.blocking.sollPower
  rw [← hrp] at hthen
  generalize List.foldl Plant.write _ _ = s₂ at hthen ⊢
  have hdev := hthen.dev.trans hfirst.dev
  refine ⟨horder, ?_, hthen.tick.trans hfirst.tick, ?_, hthen.dirAt.trans hfirst.dirAt, ?_, ?_,
    ⟨?_, ?_⟩⟩
  · rw [hdev]
    exact hctl
  · rw [hthen.lastOn, hfirst.lastOn, hfirst.tick, hpow]
    cases c.power with
    | false => simp
    | true => simp
  · rw [hthen.powerAt, hfirst.powerAt, hfirst.tick]
  · intro w hw
    rcases hthen.writes w hw with hw | hw
    · rcases hfirst.writes w hw with hw | ⟨hne, rfl⟩
      · exact .inl hw
      · dsimp only
        rw [hpow]
        exact .inr (.inr ⟨hne, rfl⟩)
    · exact .inr (.inl hw)
  · rw [hthen.dirOut, hfirst.dirOut, hdev]
    exact (congrArg Dir.pin hdevDir).symm
  · rw [hthen.powerOut, hdev]
    exact hdevPower.symm

end OpenHcan.Rolladen
