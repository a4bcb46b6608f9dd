import OpenHcan.Devices.RolladenTicks

/-!
# RolladenPercent — an order in percent to a moving shutter

A moving shutter ignores an order in percent ("ignorieren, falls der Rolladen
faehrt"), but the order has overwritten the target by then, and -1 stays
behind. This module compares the run with the frame and the run without it.
They go the same way exactly if the frame is blocked, if there was no target
anyway, or if the drive ends in its next tick with any target (`Egal`);
otherwise some frames and ticks tell them apart.
-/

namespace OpenHcan.Rolladen

open OpenHcan.Lib

set_option maxRecDepth 100000

/-- The drive ends with its first tick, wherever the position is defined before:
up to a target just above the position and the lowest definition, or down in a
shutter without a run time. -/
def Fahrt.Egal (c : EdsRolladenBlock) (m : Fahrt) : Prop :=
  (m.ctl.heading = .auf ∧ m.soll ≤ m.laufzeit + 1 ∧ m.soll ≤ c.zeit / 100 + 1) ∨
    (m.ctl.heading = .ab ∧ c.zeit = 0 ∧ m.laufzeit ≤ 0)

/-- An order in percent leaves no trace in a moving shutter. -/
def LeavesNoTrace (p : DeviceDataRolladen) (f : CanixFrame) : Prop :=
  ¬ Obeyed p f ∨ p.sollLaufzeit = -1 ∨ p.fahrt.Egal p.config

/-! ## A drive without a target -/

/-- The shutter after the order: the target is gone. -/
def DeviceDataRolladen.ohneSoll (p : DeviceDataRolladen) : DeviceDataRolladen :=
  { p with sollLaufzeit := -1 }

/-- The target makes no difference to what comes. -/
structure Gleich (p : DeviceDataRolladen) : Prop where
  order : p.sollPower = true
  low : -1 ≤ p.sollLaufzeit
  high : p.sollLaufzeit ≤ p.config.zeit
  egal : p.fahrt.Egal p.config

/-- Two shutters that differ in a target that makes no difference. -/
def Zwillinge (p p' : DeviceDataRolladen) : Prop := p' = p ∨ (p' = p.ohneSoll ∧ Gleich p)

section

variable {selfaddr : UInt16} {p q : DeviceDataRolladen}

/-- Only the drive and the configuration matter. -/
theorem Gleich.congr (h : Gleich p) (hfahrt : q.fahrt = p.fahrt) (hconfig : q.config = p.config) :
    Gleich q := by
  obtain ⟨hlauf, hsoll, -, hctl⟩ := fahrt_congr hfahrt
  have hsp : q.sollPower = p.sollPower := congrArg RelayCtl.sollPower hctl
  refine ⟨hsp.trans h.order, ?_, ?_, ?_⟩
  · rw [hsoll]
    exact h.low
  · rw [hsoll, hconfig]
    exact h.high
  · rw [hfahrt, hconfig]
    exact h.egal

theorem Zwillinge.of_ohneSoll (h : Gleich p) (hfahrt : q.fahrt = p.fahrt)
    (hconfig : q.config = p.config) : Zwillinge q q.ohneSoll :=
  .inr ⟨rfl, h.congr hfahrt hconfig⟩

/-- Neither target lies behind an end. -/
theorem calibration_within (hlow : -1 ≤ p.sollLaufzeit) (hhigh : p.sollLaufzeit ≤ p.config.zeit) :
    calibration p = p := by
  unfold calibration
  rw [if_neg (show ¬ p.sollLaufzeit > p.config.zeit by omega),
    if_neg (show ¬ p.sollLaufzeit < -1 by omega)]
  split <;> rfl

theorem rolladenCmdStop_ohneSoll (hlow : -1 ≤ p.sollLaufzeit)
    (hhigh : p.sollLaufzeit ≤ p.config.zeit) :
    rolladenCmdStop p.ohneSoll = rolladenCmdStop p := by
  have hzeit := p.config.zeit_nonneg
  have hend : stopEndlage p.ohneSoll = (stopEndlage p).ohneSoll := by
    have hpos : rolladenGetPosition p.ohneSoll = rolladenGetPosition p := rfl
    unfold stopEndlage
    rw [hpos]
    dsimp only
    by_cases hpos0 : rolladenGetPosition p = 0 ∨ rolladenGetPosition p = 100
    · rw [if_pos hpos0, if_pos hpos0, calibration_within (p := { p with
        lastDir := p.dir.not, changeDirCounter := -1 }) hlow hhigh,
        calibration_within (p := { p.ohneSoll with
          lastDir := p.ohneSoll.dir.not, changeDirCounter := -1 }) (Int.le_refl _)
          (show -1 ≤ p.config.zeit by omega)]
      by_cases hkal : p.kalibrieren = true
      · rw [if_pos hkal, if_pos (show p.ohneSoll.kalibrieren = true from hkal)]
        rfl
      · rw [if_neg hkal, if_neg (show ¬ p.ohneSoll.kalibrieren = true from hkal)]
        rfl
    · rw [if_neg hpos0, if_neg hpos0]
      rfl
  unfold rolladenCmdStop
  rw [hend]
  generalize stopEndlage p = r
  dsimp only
  by_cases hab : r.dir = .ab
  · rw [if_pos hab, if_pos (show r.ohneSoll.dir = .ab from hab)]
    rfl
  · rw [if_neg hab, if_neg (show ¬ r.ohneSoll.dir = .ab from hab)]
    rfl

theorem Gleich.stop (h : Gleich p) : rolladenCmdStop p.ohneSoll = rolladenCmdStop p :=
  rolladenCmdStop_ohneSoll h.low h.high

/-! ## Common frames -/

theorem Gleich.positionSet (h : Gleich p) (order : UInt8) :
    Zwillinge (positionSet selfaddr p order).1 (positionSet selfaddr p.ohneSoll order).1 := by
  have hsp' : p.ohneSoll.sollPower = true := h.order
  have htaster : ∀ d, Zwillinge (tasterSet selfaddr p d).1 (tasterSet selfaddr p.ohneSoll d).1 := by
    intro d
    unfold tasterSet
    by_cases hblock : p.mute = true ∨ p.blockingTimer ≠ 0
    · rw [if_pos hblock, if_pos (show p.ohneSoll.mute = true ∨ p.ohneSoll.blockingTimer ≠ 0
        from hblock)]
      exact .inr ⟨rfl, h⟩
    · rw [if_neg hblock, if_neg (show ¬ (p.ohneSoll.mute = true ∨ p.ohneSoll.blockingTimer ≠ 0)
        from hblock), if_pos (.inr h.order), if_pos (.inr hsp')]
      exact .inl h.stop
  unfold OpenHcan.Rolladen.positionSet
  split
  · exact htaster .ab
  · split
    · exact htaster .auf
    · split
      · exact .inl (rolladenCmdStop_ohneSoll (p := { p with longPressedCounter := -1 })
          h.low h.high)
      · split
        · exact .of_ohneSoll (q := { p with longPressedCounter := -1 }) h rfl rfl
        · unfold prozentSet
          by_cases hblock : p.mute = true ∨ p.blockingTimer ≠ 0
          · rw [if_pos hblock, if_pos (show p.ohneSoll.mute = true ∨ p.ohneSoll.blockingTimer ≠ 0
              from hblock)]
            exact .inr ⟨rfl, h⟩
          · rw [if_neg hblock, if_neg (show ¬ (p.ohneSoll.mute = true ∨
              p.ohneSoll.blockingTimer ≠ 0) from hblock)]
            dsimp only
            rw [if_pos (.inr (.inl h.order)), if_pos (.inr (.inl hsp'))]
            exact .inl rfl

theorem Gleich.tasterDown (h : Gleich p) :
    Zwillinge (tasterDown selfaddr p).1 (tasterDown selfaddr p.ohneSoll).1 := by
  unfold OpenHcan.Rolladen.tasterDown
  by_cases hblock : p.mute = true ∨ p.blockingTimer ≠ 0
  · rw [if_pos hblock, if_pos (show p.ohneSoll.mute = true ∨ p.ohneSoll.blockingTimer ≠ 0
      from hblock)]
    exact .inr ⟨rfl, h⟩
  · rw [if_neg hblock, if_neg (show ¬ (p.ohneSoll.mute = true ∨ p.ohneSoll.blockingTimer ≠ 0)
      from hblock)]
    by_cases hp : p.power = true
    · rw [if_pos hp, if_pos (show p.ohneSoll.power = true from hp)]
      exact .inl (rolladenCmdStop_ohneSoll (p := { p with changeDirCounter := 7 }) h.low h.high)
    · -- the next target replaces both
      rw [if_neg hp, if_neg (show ¬ p.ohneSoll.power = true from hp)]
      exact .inl rfl

/-- A defined position leaves a drive that ends with its first tick what it is. -/
theorem Gleich.definePosition (h : Gleich p) (pos : UInt8) :
    Zwillinge (definePosition p pos) (definePosition p.ohneSoll pos) := by
  have hzeit := p.config.zeit_nonneg
  have hpart : 1 * p.config.zeit ≤ ((pos.toNat + 1 : Nat) : Int) * p.config.zeit :=
    Int.mul_le_mul_of_nonneg_right (by omega) hzeit
  have hlauf : p.config.zeit / 100 ≤ (OpenHcan.Rolladen.definePosition p pos).laufzeit := by
    unfold OpenHcan.Rolladen.definePosition
    dsimp only
    generalize ((pos.toNat + 1 : Nat) : Int) * p.config.zeit = part at hpart ⊢
    split
    · omega
    · omega
  refine .inr ⟨rfl, h.order, h.low, h.high, ?_⟩
  rcases h.egal with ⟨hauf, _, hsoll⟩ | ⟨hab, hzero, _⟩
  · refine .inl ⟨hauf, ?_, hsoll⟩
    show p.sollLaufzeit ≤ (OpenHcan.Rolladen.definePosition p pos).laufzeit + 1
    have : p.sollLaufzeit ≤ p.config.zeit / 100 + 1 := hsoll
    omega
  · refine .inr ⟨hab, hzero, ?_⟩
    have hrange := (definePosition_range p pos).2
    rw [hzero] at hrange
    exact hrange

theorem Gleich.switch (selfaddr : UInt16) (h : Gleich p) (f : CanixFrame) :
    Zwillinge (rolladenSwitch selfaddr p f).1 (rolladenSwitch selfaddr p.ohneSoll f).1 := by
  have hgroup : isGroupInRolladen p.ohneSoll (f.byte 2) = isGroupInRolladen p (f.byte 2) := rfl
  have hself : Zwillinge p p.ohneSoll := .inr ⟨rfl, h⟩
  unfold rolladenSwitch
  rw [hgroup]
  dsimp only
  split
  · split
    · exact h.positionSet _
    · exact hself
  · split
    · split
      · exact h.tasterDown
      · exact hself
    · split
      · split
        · exact .of_ohneSoll (q := { p with changeDirCounter := -1 }) h rfl rfl
        · exact hself
      · split
        · split
          · exact h.definePosition _
          · exact hself
        · split
          · exact hself
          · split
            · exact hself
            · split
              · exact hself
              · exact hself

/-- `HCAN_HES_MUTE_OFF` and `HCAN_HES_MUTE_ON`, behind the switch. -/
def muteSet (p : DeviceDataRolladen) (f : CanixFrame) : DeviceDataRolladen :=
  if p.config.mute = f.byte 2 then
    if f.byte 1 = hcanHesMuteOff then { p with mute := false }
    else if f.byte 1 = hcanHesMuteOn then { p with mute := true }
    else p
  else p

theorem canCallback_muteSet (selfaddr : UInt16) (p : DeviceDataRolladen) (f : CanixFrame) :
    (rolladenCanCallback selfaddr p f).1 = muteSet (rolladenSwitch selfaddr p f).1 f := by
  unfold rolladenCanCallback muteSet
  dsimp only
  split
  · split
    · rfl
    · split <;> rfl
  · rfl

theorem Gleich.muteSet (h : Gleich p) (f : CanixFrame) :
    Zwillinge (muteSet p f) (muteSet p.ohneSoll f) := by
  have hconfig : p.ohneSoll.config = p.config := rfl
  unfold OpenHcan.Rolladen.muteSet
  rw [hconfig]
  split
  · split
    · exact .of_ohneSoll (q := { p with mute := false }) h rfl rfl
    · split
      · exact .of_ohneSoll (q := { p with mute := true }) h rfl rfl
      · exact .inr ⟨rfl, h⟩
  · exact .inr ⟨rfl, h⟩

/-- **A common frame** keeps the twins alike. -/
theorem Zwillinge.frame {p' : DeviceDataRolladen} (h : Zwillinge p p') (f : CanixFrame) :
    Zwillinge (rolladenCanCallback selfaddr p f).1 (rolladenCanCallback selfaddr p' f).1 := by
  rw [canCallback_muteSet, canCallback_muteSet]
  rcases h with rfl | ⟨rfl, hgleich⟩
  · exact .inl rfl
  · rcases hgleich.switch selfaddr f with heq | ⟨heq, hq⟩
    · rw [heq]
      exact .inl rfl
    · rw [heq]
      exact hq.muteSet f

/-! ## Common ticks -/

/-! A part that does not look at the target takes the same branch for both. -/

theorem changeDir_ohneSoll (p : DeviceDataRolladen) :
    changeDir p.ohneSoll = (changeDir p).ohneSoll := by
  unfold changeDir
  rw [apply_ite DeviceDataRolladen.ohneSoll, apply_ite DeviceDataRolladen.ohneSoll]
  rfl

theorem fahren_ohneSoll (p : DeviceDataRolladen) : fahren p.ohneSoll = (fahren p).ohneSoll := by
  unfold fahren
  rw [apply_ite DeviceDataRolladen.ohneSoll]
  rfl

theorem relaisBlocking_ohneSoll (p : DeviceDataRolladen) :
    relaisBlocking p.ohneSoll = (relaisBlocking p).ohneSoll := by
  unfold relaisBlocking
  rw [apply_ite DeviceDataRolladen.ohneSoll, apply_ite DeviceDataRolladen.ohneSoll]
  rfl

theorem longPressed_ohneSoll (h : Gleich p) :
    Zwillinge (changeDir (longPressed p)) (changeDir (longPressed p.ohneSoll)) := by
  have hlong : Zwillinge (longPressed p) (longPressed p.ohneSoll) := by
    unfold longPressed
    by_cases hpos : p.longPressedCounter > 0
    · rw [if_pos hpos, if_pos (show p.ohneSoll.longPressedCounter > 0 from hpos)]
      exact .of_ohneSoll (q := { p with longPressedCounter := p.longPressedCounter - 1 }) h rfl rfl
    · rw [if_neg hpos, if_neg (show ¬ p.ohneSoll.longPressedCounter > 0 from hpos)]
      by_cases hzero : p.longPressedCounter = 0
      · rw [if_pos hzero, if_pos (show p.ohneSoll.longPressedCounter = 0 from hzero)]
        -- a calibration replaces both targets, or leaves both
        unfold prepareCalibration
        by_cases hkal : p.kalibrieren = true
        · rw [if_pos hkal, if_pos (show p.ohneSoll.kalibrieren = true from hkal)]
          exact .inl rfl
        · rw [if_neg hkal, if_neg (show ¬ p.ohneSoll.kalibrieren = true from hkal)]
          have hsame : Zwillinge { p with longPressedCounter := -1 }
              { p.ohneSoll with longPressedCounter := -1 } :=
            .of_ohneSoll (q := { p with longPressedCounter := -1 }) h rfl rfl
          have hoben : p.ohneSoll.config.kalibrierungOben = p.config.kalibrierungOben := rfl
          have hdir : p.ohneSoll.sollDir = p.sollDir := rfl
          rw [hoben, hdir]
          split
          · split
            · exact .inl rfl
            · exact hsame
          · split
            · exact .inl rfl
            · exact hsame
      · rw [if_neg hzero, if_neg (show ¬ p.ohneSoll.longPressedCounter = 0 from hzero)]
        exact .inr ⟨rfl, h⟩
  rcases hlong with heq | ⟨heq, hq⟩
  · rw [heq]
    exact .inl rfl
  · obtain ⟨hfahrt, hconfig, _⟩ := changeDir_frame (longPressed p)
    rw [heq, changeDir_ohneSoll]
    exact .of_ohneSoll hq hfahrt hconfig

/-- The first tick of driving reaches either target. -/
theorem Gleich.endlagePruefung (selfaddr : UInt16) (h : Gleich p) :
    Zwillinge (endlagePruefung selfaddr p).1 (endlagePruefung selfaddr p.ohneSoll).1 := by
  have hlow := h.low
  have hhigh := h.high
  have hsoll : p.fahrt.soll = p.sollLaufzeit := rfl
  have hlauf : p.fahrt.laufzeit = p.laufzeit := rfl
  unfold OpenHcan.Rolladen.endlagePruefung
  by_cases hf : p.power = true ∧ p.sollPower = true
  · have hdir : p.fahrt.ctl.heading = p.dir := RelayCtl.heading_on hf.1
    have hreached : sollErreicht (fahren p) = true ∧ sollErreicht (fahren p.ohneSoll) = true := by
      have hegal := h.egal
      unfold Fahrt.Egal at hegal
      rw [hdir, hsoll, hlauf] at hegal
      unfold sollErreicht fahren DeviceDataRolladen.ohneSoll
      rcases hegal with ⟨hauf, hnear, _⟩ | ⟨hab, hzero, hbottom⟩
      · simp only [hauf, reduceCtorEq, if_false, decide_eq_true_eq]
        omega
      · simp only [hab, if_true, decide_eq_true_eq]
        omega
    have hstop : rolladenCmdStop (fahren p.ohneSoll) = rolladenCmdStop (fahren p) := by
      obtain ⟨hconfig, hsame, _⟩ := fahren_frame p
      rw [fahren_ohneSoll]
      apply rolladenCmdStop_ohneSoll
      · rw [hsame]
        exact hlow
      · rw [hsame, hconfig]
        exact hhigh
    rw [if_pos hf, if_pos (show p.ohneSoll.power = true ∧ p.ohneSoll.sollPower = true from hf)]
    dsimp only
    rw [if_pos hreached.1, if_pos hreached.2]
    rw [hstop]
    exact .inl rfl
  · rw [if_neg hf,
      if_neg (show ¬ (p.ohneSoll.power = true ∧ p.ohneSoll.sollPower = true) from hf)]
    exact .inr ⟨rfl, h⟩

theorem relais_ohneSoll (p : DeviceDataRolladen) :
    (relaisExecution (relaisBlocking p.ohneSoll)).1 =
      (relaisExecution (relaisBlocking p)).1.ohneSoll := by
  rw [relaisBlocking_ohneSoll]
  generalize relaisBlocking p = q
  unfold relaisExecution
  by_cases hd : q.exeDir = true ∧ q.dir ≠ q.sollDir
  · rw [if_pos hd, if_pos (show q.ohneSoll.exeDir = true ∧ q.ohneSoll.dir ≠ q.ohneSoll.sollDir
      from hd)]
    dsimp only
    by_cases hp : q.exePower = true ∧ q.power ≠ q.sollPower
    · rw [if_pos hp, if_pos (show q.ohneSoll.exePower = true ∧
        q.ohneSoll.power ≠ q.ohneSoll.sollPower from hp)]
      rfl
    · rw [if_neg hp, if_neg (show ¬ (q.ohneSoll.exePower = true ∧
        q.ohneSoll.power ≠ q.ohneSoll.sollPower) from hp)]
      rfl
  · rw [if_neg hd, if_neg (show ¬ (q.ohneSoll.exeDir = true ∧
      q.ohneSoll.dir ≠ q.ohneSoll.sollDir) from hd)]
    dsimp only
    by_cases hp : q.exePower = true ∧ q.power ≠ q.sollPower
    · rw [if_pos hp, if_pos (show q.ohneSoll.exePower = true ∧
        q.ohneSoll.power ≠ q.ohneSoll.sollPower from hp)]
      rfl
    · rw [if_neg hp, if_neg (show ¬ (q.ohneSoll.exePower = true ∧
        q.ohneSoll.power ≠ q.ohneSoll.sollPower) from hp)]

/-- The relays do not turn a drive round. -/
theorem Gleich.relais (h : Gleich p) (hload : PowerSafe p.ctl) :
    Gleich (relaisExecution (relaisBlocking p)).1 := by
  have hfahrt := relaisExecution_fahrt p
  have hconfig := relais_config p
  refine ⟨?_, ?_, ?_, ?_⟩
  · exact (congrArg (fun m => m.ctl.sollPower) hfahrt).trans
      ((RelayCtl.relays_sollPower _).trans h.order)
  · rw [show (relaisExecution (relaisBlocking p)).1.sollLaufzeit = p.sollLaufzeit from
      congrArg Fahrt.soll hfahrt]
    exact h.low
  · rw [show (relaisExecution (relaisBlocking p)).1.sollLaufzeit = p.sollLaufzeit from
      congrArg Fahrt.soll hfahrt, hconfig]
    exact h.high
  · rw [hfahrt, hconfig]
    unfold Fahrt.Egal
    dsimp only
    rw [RelayCtl.heading_relays hload h.order]
    exact h.egal

/-- **A common tick** keeps the twins alike. -/
theorem Zwillinge.tick {p' : DeviceDataRolladen} (h : Zwillinge p p') (hload : PowerSafe p.ctl) :
    Zwillinge (rolladenTimerHandler selfaddr p 10).dev
      (rolladenTimerHandler selfaddr p' 10).dev := by
  rcases h with rfl | ⟨rfl, hgleich⟩
  · exact .inl rfl
  rw [timerHandler_dev, timerHandler_dev]
  dsimp only
  rcases longPressed_ohneSoll hgleich with heq | ⟨heq, hpress⟩
  · rw [heq]
    exact .inl rfl
  have hsafe : PowerSafe (changeDir (longPressed p)).ctl := by
    rw [changeDir_longPressed_ctl]
    exact hload
  rw [heq]
  generalize changeDir (longPressed p) = q at hpress hsafe ⊢
  rcases hpress.endlagePruefung selfaddr with hstop | ⟨hstop, hcheck⟩
  · rw [hstop]
    exact .inl rfl
  have hsafe' : PowerSafe (endlagePruefung selfaddr q).1.ctl := by
    rcases endlagePruefung_ctl q selfaddr with hctl | ⟨_, _, hctl⟩
    · rw [hctl]
      exact hsafe
    · rw [hctl]
      exact .stop _
  rw [hstop, relais_ohneSoll]
  have hrelais := hcheck.relais hsafe'
  generalize (relaisExecution (relaisBlocking (endlagePruefung selfaddr q).1)).1 = r at hrelais ⊢
  by_cases hp : r.power = true
  · rw [if_pos hp, if_pos (show r.ohneSoll.power = true from hp)]
    exact .of_ohneSoll (q := { r with stoppuhr := r.stoppuhr + 1 }) hrelais rfl rfl
  · rw [if_neg hp, if_neg (show ¬ r.ohneSoll.power = true from hp)]
    exact .inr ⟨rfl, hrelais⟩

/-! ## Two runs -/

/-- Twins with the same outputs behind them show the same outputs. -/
theorem zwillinge_run (es : List RolladenEvent) {s s' : Plant} (hload : LoadInv s)
    (hload' : LoadInv s') (h : Zwillinge s.dev s'.dev) :
    (run (rolladenStep selfaddr) s' es).powerOut = (run (rolladenStep selfaddr) s es).powerOut ∧
      (run (rolladenStep selfaddr) s' es).dirOut = (run (rolladenStep selfaddr) s es).dirOut := by
  induction es generalizing s s' with
  | nil =>
      rw [run_nil, run_nil, hload.synced.power, hload'.synced.power, hload.synced.dir,
        hload'.synced.dir]
      rcases h with heq | ⟨heq, _⟩
      · rw [heq]
        exact ⟨rfl, rfl⟩
      · rw [heq]
        exact ⟨rfl, rfl⟩
  | cons e es ih =>
      rw [run_cons, run_cons]
      apply ih (hload.step s e) (hload'.step s' e)
      cases e with
      | frame f => exact h.frame f
      | tick =>
          rw [rolladenStep_tick_dev, rolladenStep_tick_dev]
          exact h.tick hload.load

/-- Power on and no order to drive: the stop has cleared the target. -/
def Settled (_ : EdsRolladenBlock) (m : Fahrt) : Prop :=
  m.ctl.power = true → m.ctl.sollPower = false → m.soll = -1

theorem settled_step (selfaddr : UInt16) (s : Plant) (e : RolladenEvent)
    (h : s.Keeps DriveInv ∧ s.Keeps Settled) :
    (rolladenStep selfaddr s e).Keeps DriveInv ∧ (rolladenStep selfaddr s e).Keeps Settled := by
  refine ⟨driveInv_step s e h.1, ?_⟩
  unfold Plant.Keeps
  cases e with
  | frame f =>
      have heffect := canCallback_effect s.dev selfaddr f
      show Settled _ (rolladenCanCallback selfaddr s.dev f).1.fahrt
      generalize (rolladenCanCallback selfaddr s.dev f).1.fahrt = m at heffect
      cases heffect with
      | keep => exact h.2
      | halt => exact fun _ _ => rfl
      | lose => exact fun _ _ => rfl
      | order d horder =>
          intro hp
          exact Bool.noConfusion (hp.symm.trans ((RelayCtl.drive_power _ d).trans horder.1.power))
      | percent d horder =>
          intro hp
          exact Bool.noConfusion (hp.symm.trans ((RelayCtl.drive_power _ d).trans horder.1.power))
      | preset => exact fun _ _ => rfl
      | define => exact h.2
  | tick =>
      -- a tick carries out every stop
      intro hp hsp
      rw [rolladenStep_tick_fahrt] at hp hsp
      have hsafe : PowerSafe ((if s.dev.gedrueckt then s.dev.fahrt.prepare s.dev.config
          else s.dev.fahrt).pruefung s.dev.config).ctl := by
        have hdrive : DriveInv s.dev.config (if s.dev.gedrueckt then
            s.dev.fahrt.prepare s.dev.config else s.dev.fahrt) := by
          split
          · exact DriveInv.prepare h.1
          · exact h.1
        exact hdrive.pruefung.load
      have hoff := hsafe.relays_halt ((RelayCtl.relays_sollPower _).symm.trans hsp)
      exact Bool.noConfusion (hp.symm.trans hoff)

theorem canCallback_blocked (selfaddr : UInt16) {p : DeviceDataRolladen} {f : CanixFrame}
    (hf : PercentOrder f) (h : ¬ Obeyed p f) : (rolladenCanCallback selfaddr p f).1 = p := by
  obtain ⟨hcmd, h200, h201, h202, h222⟩ := hf
  by_cases hgroup : isGroupInRolladen p (f.byte 2) = true
  · have hblock : p.mute = true ∨ p.blockingTimer ≠ 0 := by
      by_contra hfree
      rw [not_or, Bool.not_eq_true, not_not] at hfree
      exact h ⟨hgroup, hfree.1, hfree.2⟩
    rw [canCallback_positionSet p selfaddr hcmd hgroup]
    unfold positionSet
    rw [if_neg h200, if_neg h201, if_neg h202, if_neg h222]
    unfold prozentSet
    rw [if_pos hblock]
  · rw [Bool.not_eq_true] at hgroup
    unfold rolladenCanCallback rolladenSwitch
    rw [hcmd, hgroup]
    simp [hcanHesRolladenPositionSet, hcanHesMuteOff, hcanHesMuteOn]

theorem ohneSoll_self {p : DeviceDataRolladen} (h : p.sollLaufzeit = -1) : p.ohneSoll = p := by
  unfold DeviceDataRolladen.ohneSoll
  rw [← h]

/-- An order in percent that a moving shutter obeys takes the target away. -/
theorem canCallback_moving (selfaddr : UInt16) {p : DeviceDataRolladen} {f : CanixFrame}
    (hf : PercentOrder f) (ho : Obeyed p f) (hmoves : p.power = true ∨ p.sollPower = true) :
    (rolladenCanCallback selfaddr p f).1 = p.ohneSoll := by
  rw [canCallback_percent p selfaddr hf ho, if_pos (by rw [← or_assoc]; exact .inl hmoves)]
  rfl

/-- A target that is still there belongs to a drive. -/
theorem settled_moving {s : Plant} (h : s.Keeps Settled)
    (hmoves : s.dev.power = true ∨ s.dev.sollPower = true) (hsoll : s.dev.sollLaufzeit ≠ -1) :
    s.dev.sollPower = true := by
  by_contra hsp
  rcases hmoves with hp | hon
  · exact hsoll (h hp (Bool.not_eq_true _ ▸ hsp))
  · exact hsp hon

/-- **The condition is enough.** -/
theorem zwillinge_percent {s : Plant} {f : CanixFrame} (hf : PercentOrder f)
    (hdrive : s.Keeps DriveInv) (hsettled : s.Keeps Settled)
    (hmoves : s.dev.power = true ∨ s.dev.sollPower = true) (h : LeavesNoTrace s.dev f) :
    Zwillinge s.dev (rolladenCanCallback selfaddr s.dev f).1 := by
  by_cases ho : Obeyed s.dev f
  · rw [canCallback_moving selfaddr hf ho hmoves]
    by_cases hsoll : s.dev.sollLaufzeit = -1
    · exact .inl (ohneSoll_self hsoll)
    · have hsp := settled_moving hsettled hmoves hsoll
      have hzeit := s.dev.config.zeit_nonneg
      have hoben : s.dev.sollLaufzeit ≤ s.dev.config.zeit ∨
          s.dev.sollLaufzeit = s.dev.config.kalibrierSoll .auf := hdrive.oben
      have hunten : -1 ≤ s.dev.sollLaufzeit ∨
          s.dev.sollLaufzeit = s.dev.config.kalibrierSoll .ab := hdrive.unten
      rw [kalibrierSoll_auf] at hoben
      rw [kalibrierSoll_ab] at hunten
      rcases h with hblocked | hnone | hegal
      · exact absurd ho hblocked
      · exact absurd hnone hsoll
      · refine .inr ⟨rfl, hsp, ?_, ?_, hegal⟩
        · rcases hegal with ⟨hauf, _⟩ | ⟨_, hzero, _⟩
          · exact (hdrive.up hsp hauf).1
          · omega
        · rcases hegal with ⟨_, _, hnear⟩ | ⟨_, hzero, _⟩
          · have hnear' : s.dev.sollLaufzeit ≤ s.dev.config.zeit / 100 + 1 := hnear
            omega
          · omega
  · exact .inl (canCallback_blocked selfaddr hf ho)

/-! ## What tells two runs apart -/

/-- The button is let go, and a position may be defined. -/
def stoerung (group : UInt8) : Option UInt8 → List RolladenEvent
  | none => [.frame (positionOrder 0 group 222)]
  | some pos => [.frame (positionOrder 0 group 222), .frame (positionDefine 0 group pos)]

def gestoert (p : DeviceDataRolladen) : Option UInt8 → DeviceDataRolladen
  | none => { p with longPressedCounter := -1 }
  | some pos => definePosition { p with longPressedCounter := -1 } pos

theorem run_stoerung (selfaddr : UInt16) {s : Plant} {group : UInt8}
    (hgroup : isGroupInRolladen s.dev group = true) (pos : Option UInt8) :
    (run (rolladenStep selfaddr) s (stoerung group pos)).dev = gestoert s.dev pos := by
  have hbyte : (positionOrder 0 group 222).byte 2 = group := rfl
  have horder : (positionOrder 0 group 222).byte 3 = 222 := rfl
  have hframe : ∀ (s : Plant) (f : CanixFrame),
      (rolladenStep selfaddr s (.frame f)).dev = (rolladenCanCallback selfaddr s.dev f).1 :=
    fun _ _ => rfl
  have hfirst : (rolladenStep selfaddr s (.frame (positionOrder 0 group 222))).dev =
      { s.dev with longPressedCounter := -1 } := by
    rw [hframe, canCallback_positionSet s.dev selfaddr rfl (by rw [hbyte]; exact hgroup), horder]
    rfl
  cases pos with
  | none => exact hfirst
  | some pos =>
      unfold stoerung
      rw [run_cons, run_cons, run_nil, hframe, hfirst]
      exact canCallback_positionDefine (p := { s.dev with longPressedCounter := -1 }) hgroup

theorem gestoert_fields (p : DeviceDataRolladen) (pos : Option UInt8) :
    (gestoert p pos).ctl = p.ctl ∧ (gestoert p pos).sollLaufzeit = p.sollLaufzeit ∧
      (gestoert p pos).longPressedCounter = -1 := by
  cases pos with
  | none => exact ⟨rfl, rfl, rfl⟩
  | some pos => exact ⟨rfl, rfl, rfl⟩

/-- The target `soll` lies more than `n` ticks from `laufzeit`, in the direction `d`. -/
def Fern (d : Dir) (soll laufzeit : Int) (n : Nat) : Prop :=
  if d = .ab then soll < laufzeit - n else laufzeit + n < soll

/-- Is the power still on after `n` ticks of driving? -/
theorem power_after (selfaddr : UInt16) {s : Plant} (hload : PowerSafe s.dev.ctl)
    (hsp : s.dev.sollPower = true) (hfree : s.dev.blockingTimer = 0)
    (hpress : s.dev.longPressedCounter = -1) {n : Nat} (hn : 1 ≤ n) :
    (s.ticks selfaddr ((if s.dev.power then 0 else 1) + n)).dev.power = true ↔
      Fern s.dev.ctl.heading s.dev.sollLaufzeit s.dev.laufzeit n := by
  have hdrives : ∀ s : Plant, PowerSafe s.dev.ctl → s.dev.fahrt.Faehrt → s.dev.Ungestoert n →
      ((s.ticks selfaddr n).dev.power = true ↔ s.dev.fahrt.Vor n) := by
    intro s hload hf hq
    constructor
    · intro hon
      by_contra hthere
      have hoff := drive_off selfaddr n hload hf hq hn hthere
      exact Bool.noConfusion (hoff.1.symm.trans hon)
    · intro hahead
      exact (drive_on selfaddr n hload hf hq hahead).1
  have hquiet : ∀ k, s.dev.Ungestoert k := ungestoert_of_neg (by omega)
  cases hp : s.dev.power with
  | true =>
      have hhead : s.dev.ctl.heading = s.dev.ctl.dir := RelayCtl.heading_on hp
      rw [if_pos rfl, Nat.zero_add, hdrives s hload ⟨hp, hsp⟩ (hquiet n), hhead]
      exact Iff.rfl
  | false =>
      obtain ⟨_, hlauf, hsoll, hdir, hf, hload', hq⟩ := drive_start selfaddr 0 hsp hp
        hfree (fun h => absurd rfl h) n (hquiet _)
      rw [if_neg Bool.false_ne_true, Plant.ticks_add, hdrives _ hload' hf hq, ← hlauf, ← hsoll,
        ← hdir]
      exact Iff.rfl

/-- The power output after the button is let go and `n` ticks of driving. -/
theorem powerOut_after (selfaddr : UInt16) {s : Plant} (group : UInt8) (hload : LoadInv s)
    (hgroup : isGroupInRolladen s.dev group = true) (hsp : s.dev.sollPower = true)
    (hfree : s.dev.blockingTimer = 0) (pos : Option UInt8) {n : Nat} (hn : 1 ≤ n) :
    (run (rolladenStep selfaddr) s (stoerung group pos ++
        List.replicate ((if s.dev.power then 0 else 1) + n) .tick)).powerOut = true ↔
      Fern s.dev.ctl.heading s.dev.sollLaufzeit (gestoert s.dev pos).laufzeit n := by
  have hdev := run_stoerung selfaddr hgroup pos
  obtain ⟨hctl, hsoll, hpress⟩ := gestoert_fields s.dev pos
  have hload' : LoadInv (run (rolladenStep selfaddr) s (stoerung group pos)) :=
    run_invariant LoadInv.step _ s hload
  rw [run_append]
  generalize run (rolladenStep selfaddr) s (stoerung group pos) = s' at hdev hload' ⊢
  rw [← hdev] at hctl hsoll hpress ⊢
  have hpower : s'.dev.power = s.dev.power := congrArg RelayCtl.power hctl
  have hend : LoadInv (run (rolladenStep selfaddr) s' (List.replicate
      ((if s.dev.power then 0 else 1) + n) .tick)) := run_invariant LoadInv.step _ s' hload'
  have hafter := power_after selfaddr (s := s') hload'.load
    ((congrArg RelayCtl.sollPower hctl).trans hsp)
    ((congrArg RelayCtl.blockingTimer hctl).trans hfree) hpress hn
  rw [hpower, hctl, hsoll] at hafter
  rw [hend.synced.power]
  exact hafter

/-- **The condition is needed**: a drive whose target makes no difference after any
such disturbance ends with its first tick. -/
theorem egal_of_fern {p : DeviceDataRolladen} (hdrive : DriveInv p.config p.fahrt)
    (hsp : p.sollPower = true) (hsoll : p.sollLaufzeit ≠ -1)
    (h : ∀ pos n, 1 ≤ n → (Fern p.ctl.heading (-1) (gestoert p pos).laufzeit n ↔
      Fern p.ctl.heading p.sollLaufzeit (gestoert p pos).laufzeit n)) :
    p.fahrt.Egal p.config := by
  have hzeit := p.config.zeit_nonneg
  have hnone : (gestoert p none).laufzeit = p.laufzeit := rfl
  have hfirst : (gestoert p (some 0)).laufzeit = p.config.zeit / 100 := by
    show (definePosition _ 0).laufzeit = _
    unfold definePosition
    dsimp only
    rw [show (((0 : UInt8).toNat + 1 : Nat) : Int) = 1 from rfl, Int.one_mul, if_neg (by omega)]
  have hlast : (gestoert p (some 99)).laufzeit = p.config.zeit := by
    show (definePosition _ 99).laufzeit = _
    unfold definePosition
    dsimp only
    rw [show (((99 : UInt8).toNat + 1 : Nat) : Int) = 100 from rfl]
    split
    · rfl
    · omega
  unfold Fern at h
  rcases p.ctl.heading.auf_or_ab with hhead | hhead
  · simp only [hhead, reduceCtorEq, if_false] at h
    have hup : -1 ≤ p.sollLaufzeit := (hdrive.up hsp hhead).1
    have hnear : p.sollLaufzeit ≤ p.laufzeit + 1 := by
      by_contra hfar
      have hone := h none (max 1 (-1 - p.laufzeit)).toNat (by omega)
      rw [hnone] at hone
      omega
    have hlow : p.sollLaufzeit ≤ p.config.zeit / 100 + 1 := by
      by_contra hfar
      have hone := h (some 0) 1 (Nat.le_refl 1)
      rw [hfirst] at hone
      omega
    exact .inl ⟨hhead, hnear, hlow⟩
  · simp only [hhead, if_true] at h
    -- from above the bottom the two targets end the drive at different ticks
    have hlow : ∀ pos, (gestoert p pos).laufzeit ≤ 0 := by
      intro pos
      by_contra hpos
      have hone := h pos (gestoert p pos).laufzeit.toNat (by omega)
      have htwo := h pos ((gestoert p pos).laufzeit.toNat + 1) (by omega)
      omega
    have hbottom := hlow none
    have htop := hlow (some 99)
    rw [hnone] at hbottom
    rw [hlast] at htop
    exact .inr ⟨hhead, by omega, hbottom⟩

end

/-- **An order in percent to a moving shutter is ignored** in every run that follows
exactly if it leaves no trace. -/
theorem percent_ignored_iff (selfaddr : UInt16) (q : DeviceDataRolladen) (es : List RolladenEvent)
    (f : CanixFrame) (hf : PercentOrder f)
    (hmoves : (run (rolladenStep selfaddr) (Plant.start q) es).dev.power = true ∨
      (run (rolladenStep selfaddr) (Plant.start q) es).dev.sollPower = true) :
    (∀ es', (run (rolladenStep selfaddr) (Plant.start q) (es ++ .frame f :: es')).powerOut =
          (run (rolladenStep selfaddr) (Plant.start q) (es ++ es')).powerOut ∧
        (run (rolladenStep selfaddr) (Plant.start q) (es ++ .frame f :: es')).dirOut =
          (run (rolladenStep selfaddr) (Plant.start q) (es ++ es')).dirOut) ↔
      LeavesNoTrace (run (rolladenStep selfaddr) (Plant.start q) es).dev f := by
  have hinv := run_invariant (settled_step selfaddr) es (Plant.start q)
    ⟨driveInv_start q, fun hp => Bool.noConfusion hp⟩
  have hload : LoadInv (run (rolladenStep selfaddr) (Plant.start q) es) :=
    run_invariant LoadInv.step es _ (loadInv_start q)
  simp only [run_append, run_cons]
  generalize run (rolladenStep selfaddr) (Plant.start q) es = s at hinv hload hmoves ⊢
  obtain ⟨hdrive, hsettled⟩ := hinv
  constructor
  · intro hall
    by_contra htrace
    unfold LeavesNoTrace at htrace
    rw [not_or, not_or, not_not] at htrace
    obtain ⟨ho, hsoll, hegal⟩ := htrace
    have hsp := settled_moving hsettled hmoves hsoll
    apply hegal
    apply egal_of_fern hdrive hsp hsoll
    intro pos n hn
    have hdev : (rolladenStep selfaddr s (.frame f)).dev = s.dev.ohneSoll :=
      canCallback_moving selfaddr hf ho hmoves
    have hwithout := powerOut_after selfaddr (f.byte 2) hload ho.group hsp ho.free pos hn
    have hwith := powerOut_after selfaddr (s := rolladenStep selfaddr s (.frame f))
      (f.byte 2) (hload.frame f) (by rw [hdev]; exact ho.group)
      (by rw [hdev]; exact hsp) (by rw [hdev]; exact ho.free) pos hn
    rw [hdev] at hwith
    have hsame := (hall (stoerung (f.byte 2) pos ++
      List.replicate ((if s.dev.power then 0 else 1) + n) .tick)).1
    have hlauf : (gestoert s.dev.ohneSoll pos).laufzeit = (gestoert s.dev pos).laufzeit := by
      cases pos with
      | none => rfl
      | some pos => rfl
    rw [hlauf] at hwith
    rw [← hwithout, ← hsame]
    exact hwith.symm
  · intro htrace es'
    exact zwillinge_run es' hload (hload.frame f)
      (zwillinge_percent hf hdrive hsettled hmoves htrace)

/-! ### On the way down -/

section Example

/-- Five ticks down, the power on. -/
private def abwaerts : List RolladenEvent :=
  .frame (positionOrder 2 1 0) :: List.replicate 6 .tick

theorem percent_ignored_iff_abwaerts :
    (∀ es', (run (rolladenStep 1) (Plant.start (neuerRolladen 10 0))
            (abwaerts ++ .frame (positionOrder 2 1 50) :: es')).powerOut =
          (run (rolladenStep 1) (Plant.start (neuerRolladen 10 0)) (abwaerts ++ es')).powerOut ∧
        (run (rolladenStep 1) (Plant.start (neuerRolladen 10 0))
            (abwaerts ++ .frame (positionOrder 2 1 50) :: es')).dirOut =
          (run (rolladenStep 1) (Plant.start (neuerRolladen 10 0)) (abwaerts ++ es')).dirOut) ↔
      LeavesNoTrace (run (rolladenStep 1) (Plant.start (neuerRolladen 10 0)) abwaerts).dev
        (positionOrder 2 1 50) :=
  percent_ignored_iff 1 (neuerRolladen 10 0) abwaerts (positionOrder 2 1 50)
    ⟨rfl, by decide, by decide, by decide, by decide⟩ (.inl (by decide))

/-- **The order is not ignored**: the drive to the bottom takes one tick longer. -/
theorem percent_not_ignored :
    ¬ ∀ (selfaddr : UInt16) (q : DeviceDataRolladen) (es es' : List RolladenEvent)
        (f : CanixFrame),
      1 ≤ q.config.laufzeit.toNat → PercentOrder f →
        ((run (rolladenStep selfaddr) (Plant.start q) es).dev.power = true ∨
          (run (rolladenStep selfaddr) (Plant.start q) es).dev.sollPower = true) →
          (run (rolladenStep selfaddr) (Plant.start q) (es ++ .frame f :: es')).powerOut =
              (run (rolladenStep selfaddr) (Plant.start q) (es ++ es')).powerOut ∧
            (run (rolladenStep selfaddr) (Plant.start q) (es ++ .frame f :: es')).dirOut =
              (run (rolladenStep selfaddr) (Plant.start q) (es ++ es')).dirOut := by
  intro hall
  have hsame := (hall 1 (neuerRolladen 10 0) abwaerts (List.replicate 5 .tick)
    (positionOrder 2 1 50) (by decide) ⟨rfl, by decide, by decide, by decide, by decide⟩
    (.inl (by decide))).1
  revert hsame
  decide

end Example

end OpenHcan.Rolladen
