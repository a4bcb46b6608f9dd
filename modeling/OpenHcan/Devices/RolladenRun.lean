import OpenHcan.Devices.RolladenDrive

/-!
# RolladenRun — every run ends

A drive starts at most six ticks after the order and goes one way until its
target is reached. The target may be given up, lie behind an end, or be
moved by a held button on the way; it stays between half a run time below
the lower end and half a run time above the upper one (`DriveInv`). The
position stays there too, as long as no order up meets a direction relay
that is still down (`RoomInv`): such an order drives one tick the wrong way,
and nothing bounds how often that happens.
-/

namespace OpenHcan.Rolladen

open OpenHcan.Lib

set_option maxRecDepth 100000

/-! ## Targets -/

section

variable (c : EdsRolladenBlock)

@[simp] theorem kalibrierSoll_auf : c.kalibrierSoll .auf = c.zeit + c.zeit / 2 := by
  show c.zeit * 150 / 100 = _
  omega

@[simp] theorem kalibrierSoll_ab : c.kalibrierSoll .ab = -(c.zeit / 2) := by
  show -(c.zeit * 50 / 100) = _
  omega

@[simp] theorem endSoll_auf : c.endSoll .auf = c.zeit := rfl

@[simp] theorem endSoll_ab : c.endSoll .ab = 0 := rfl

theorem endSoll_range (d : Dir) : 0 ≤ c.endSoll d ∧ c.endSoll d ≤ c.zeit := by
  have hzeit := c.zeit_nonneg
  cases d with
  | auf => exact ⟨hzeit, Int.le_refl _⟩
  | ab => exact ⟨Int.le_refl _, hzeit⟩

theorem prozentSoll_range (p : DeviceDataRolladen) (prozent : UInt8) :
    0 ≤ prozentSoll p prozent ∧ prozentSoll p prozent ≤ p.config.zeit := by
  have hzeit := p.config.zeit_nonneg
  unfold prozentSoll
  generalize p.config.zeit * prozent.toNat / 100 = soll
  dsimp only
  split
  · split
    · omega
    · omega
  · split
    · omega
    · omega

/-- An order to the end `d` is a calibration run. -/
def DeviceDataRolladen.Rekalibriert (p : DeviceDataRolladen) (d : Dir) : Prop :=
  p.config.maxRekalib.toNat ≤ p.summeLaufzeit ∧ (p.kalibrieren = true ∨ d = p.config.endDir)

theorem ziel_kalibriert {p : DeviceDataRolladen} {d : Dir} (h : p.Rekalibriert d) :
    (p.ziel d).soll = p.config.kalibrierSoll d ∧ (p.ziel d).kalibrieren = true := by
  unfold DeviceDataRolladen.ziel Fahrt.ziel Fahrt.prepare
  rw [decide_eq_true h.1, if_pos rfl]
  dsimp only
  split
  · exact ⟨rfl, rfl⟩
  · exact absurd h.2 ‹_›

theorem ziel_end {p : DeviceDataRolladen} {d : Dir} (h : ¬ p.Rekalibriert d) :
    (p.ziel d).soll = p.config.endSoll d ∧ (p.ziel d).kalibrieren = p.kalibrieren := by
  unfold DeviceDataRolladen.ziel Fahrt.ziel Fahrt.prepare
  by_cases hsumme : p.config.maxRekalib.toNat ≤ p.summeLaufzeit
  · rw [decide_eq_true hsumme, if_pos rfl]
    dsimp only
    split
    · rename_i hkal
      exact absurd ⟨hsumme, hkal⟩ h
    · exact ⟨rfl, rfl⟩
  · rw [decide_eq_false hsumme, if_neg Bool.false_ne_true]
    exact ⟨rfl, rfl⟩

theorem ziel_soll (p : DeviceDataRolladen) (d : Dir) :
    (p.ziel d).soll = p.config.endSoll d ∨ (p.ziel d).soll = p.config.kalibrierSoll d := by
  by_cases h : p.Rekalibriert d
  · exact .inr (ziel_kalibriert h).1
  · exact .inl (ziel_end h).1

/-- The value -1 for a calibration target. -/
theorem HitsSentinel.kalibrierSoll {p : DeviceDataRolladen} {f : CanixFrame}
    (h : HitsSentinel p f) : p.config.kalibrierSoll .ab = -1 := by
  obtain ⟨_, _, _, _, _, _, hhalf⟩ := h
  rw [kalibrierSoll_ab]
  unfold EdsRolladenBlock.zeit
  omega

end

/-! ## What every run keeps -/

/-- The targets a drive can have. -/
structure DriveInv (c : EdsRolladenBlock) (m : Fahrt) : Prop where
  load : PowerSafe m.ctl
  timer : m.ctl.sollPower = true → m.ctl.blockingTimer ≤ 5
  oben : m.soll ≤ c.zeit ∨ m.soll = c.kalibrierSoll .auf
  unten : -1 ≤ m.soll ∨ m.soll = c.kalibrierSoll .ab
  up : m.ctl.sollPower = true → m.ctl.heading = .auf →
    -1 ≤ m.soll ∧ (m.ctl.sollDir = .auf ∨ c.kalibrierSoll .ab = -1)

section

variable {c : EdsRolladenBlock} {m : Fahrt}

theorem DriveInv.prepare (h : DriveInv c m) : DriveInv c (m.prepare c) := by
  have hzeit := c.zeit_nonneg
  unfold Fahrt.prepare
  split
  · refine ⟨h.load, h.timer, ?_, ?_, ?_⟩
    · show c.kalibrierSoll m.ctl.sollDir ≤ c.zeit ∨ c.kalibrierSoll m.ctl.sollDir = _
      cases m.ctl.sollDir with
      | auf => exact .inr rfl
      | ab =>
          rw [kalibrierSoll_ab]
          omega
    · show -1 ≤ c.kalibrierSoll m.ctl.sollDir ∨ c.kalibrierSoll m.ctl.sollDir = _
      cases m.ctl.sollDir with
      | auf =>
          rw [kalibrierSoll_auf]
          omega
      | ab => exact .inr rfl
    · intro hsp hhead
      obtain ⟨_, hdir⟩ := h.up hsp hhead
      refine ⟨?_, hdir⟩
      show -1 ≤ c.kalibrierSoll m.ctl.sollDir
      cases hd : m.ctl.sollDir with
      | auf =>
          rw [kalibrierSoll_auf]
          omega
      | ab =>
          rcases hdir with hauf | hhalf
          · rw [hd] at hauf
            cases hauf
          · exact Int.le_of_eq hhalf.symm
  · exact h

theorem stop_sollPower (c : EdsRolladenBlock) (m : Fahrt) : (m.stop c).ctl.sollPower = false :=
  m.ctl.stop_sollPower

theorem DriveInv.stop (c : EdsRolladenBlock) (m : Fahrt) : DriveInv c (m.stop c) := by
  have hzeit := c.zeit_nonneg
  have hsp := stop_sollPower c m
  have hsoll : (m.stop c).soll = -1 := rfl
  refine ⟨.stop m.ctl, ?_, ?_, ?_, ?_⟩
  · intro hon
    rw [hsp] at hon
    cases hon
  · rw [hsoll]
    omega
  · rw [hsoll]
    omega
  · intro hon
    rw [hsp] at hon
    cases hon

theorem DriveInv.pruefung (h : DriveInv c m) : DriveInv c (m.pruefung c) := by
  unfold Fahrt.pruefung
  split
  · split
    · exact .stop c _
    · exact ⟨h.load, h.timer, h.oben, h.unten, h.up⟩
  · exact h

theorem DriveInv.relays (h : DriveInv c m) :
    DriveInv c ⟨m.laufzeit, m.soll, m.kalibrieren, m.ctl.relays⟩ := by
  refine ⟨h.load.relays, ?_, h.oben, h.unten, ?_⟩
  · intro hsp
    rw [RelayCtl.relays_sollPower] at hsp
    have := h.timer hsp
    show m.ctl.relays.blockingTimer ≤ 5
    rw [RelayCtl.relays_blockingTimer]
    omega
  · intro hsp hhead
    rw [RelayCtl.relays_sollPower] at hsp
    rw [RelayCtl.heading_relays h.load hsp] at hhead
    show -1 ≤ m.soll ∧ (m.ctl.relays.sollDir = .auf ∨ _)
    rw [RelayCtl.relays_sollDir]
    exact h.up hsp hhead

theorem DriveInv.tick (h : DriveInv c m) (gedrueckt : Bool) :
    DriveInv c (m.tick c gedrueckt) := by
  apply DriveInv.relays
  apply DriveInv.pruefung
  cases gedrueckt with
  | true => exact h.prepare
  | false => exact h

theorem drive_timer {d : RelayCtl} (hfree : d.blockingTimer = 0) (dir : Dir) :
    (d.drive dir).blockingTimer ≤ 5 := by
  unfold RelayCtl.drive
  dsimp only
  split
  · exact Nat.le_refl 5
  · show d.blockingTimer ≤ 5
    omega

/-- An order to drive, with its target. -/
theorem DriveInv.drive {d : RelayCtl} {laufzeit soll : Int} {kalibrieren : Bool} {dir : Dir}
    (hidle : d.Idle) (hoben : soll ≤ c.zeit ∨ soll = c.kalibrierSoll .auf)
    (hunten : -1 ≤ soll ∨ soll = c.kalibrierSoll .ab) (hauf : dir = .auf → -1 ≤ soll) :
    DriveInv c ⟨laufzeit, soll, kalibrieren, d.drive dir⟩ := by
  refine ⟨.of_off ((d.drive_power dir).trans hidle.2), fun _ => drive_timer hidle.1 dir,
    hoben, hunten, ?_⟩
  intro _ hhead
  cases dir with
  | auf => exact ⟨hauf rfl, .inl (d.drive_sollDir .auf)⟩
  | ab =>
      rw [show (d.drive .ab).heading = .ab from RelayCtl.heading_drive_ab hidle.2] at hhead
      cases hhead

end

/-- What a frame leaves of the targets. -/
theorem DriveInv.frame {p : DeviceDataRolladen} {f : CanixFrame} {m : Fahrt}
    (h : DriveInv p.config p.fahrt) (he : FrameEffect p f m) : DriveInv p.config m := by
  have hzeit := p.config.zeit_nonneg
  cases he with
  | keep => exact h
  | halt => exact .stop _ _
  | lose =>
      refine ⟨h.load, h.timer, ?_, ?_, fun hsp hhead => ⟨Int.le_refl _, (h.up hsp hhead).2⟩⟩
      · dsimp only
        omega
      · dsimp only
        omega
  | order d horder =>
      have hrange := endSoll_range p.config d
      refine .drive horder.1.idle ?_ ?_ ?_
      · rcases ziel_soll p d with hsoll | hsoll
        · omega
        · rw [hsoll]
          cases d with
          | auf => exact .inr rfl
          | ab =>
              rw [kalibrierSoll_ab]
              omega
      · rcases ziel_soll p d with hsoll | hsoll
        · omega
        · rw [hsoll]
          cases d with
          | auf =>
              rw [kalibrierSoll_auf]
              omega
          | ab => exact .inr rfl
      · intro hd
        subst hd
        rcases ziel_soll p .auf with hsoll | hsoll
        · omega
        · rw [hsoll, kalibrierSoll_auf]
          omega
  | percent d horder =>
      have hrange := prozentSoll_range p (f.byte 3)
      exact .drive horder.1.idle (.inl hrange.2) (.inl (by omega)) fun _ => by omega
  | preset hhit =>
      have hhalf := hhit.kalibrierSoll
      have hfree : p.blockingTimer = 0 := hhit.1.free
      refine ⟨.of_off hhit.1.power, fun _ => ?_, ?_, ?_, fun _ _ => ⟨Int.le_refl _, .inr hhalf⟩⟩
      · show p.blockingTimer ≤ 5
        omega
      · dsimp only
        omega
      · dsimp only
        omega
  | define => exact ⟨h.load, h.timer, h.oben, h.unten, h.up⟩

/-! ## Steps of a plant -/

section

variable {selfaddr : UInt16} {s : Plant}

theorem rolladenStep_tick_dev (selfaddr : UInt16) (s : Plant) :
    (rolladenStep selfaddr s .tick).dev = (rolladenTimerHandler selfaddr s.dev 10).dev := by
  have hwrites : ∀ (ws : List PinWrite) (s : Plant), (ws.foldl Plant.write s).dev = s.dev := by
    intro ws
    induction ws with
    | nil => intro s; rfl
    | cons w ws ih =>
        intro s
        rw [List.foldl_cons, ih]
        unfold Plant.write
        split <;> rfl
  exact hwrites _ _

theorem rolladenStep_tick_fahrt (selfaddr : UInt16) (s : Plant) :
    (rolladenStep selfaddr s .tick).dev.fahrt =
      s.dev.fahrt.tick s.dev.config s.dev.gedrueckt := by
  rw [rolladenStep_tick_dev]
  exact timerHandler_fahrt s.dev selfaddr

theorem rolladenStep_config (s : Plant) (e : RolladenEvent) :
    (rolladenStep selfaddr s e).dev.config = s.dev.config := by
  cases e with
  | frame f => exact canCallback_config s.dev selfaddr f
  | tick =>
      rw [rolladenStep_tick_dev]
      exact timerHandler_config s.dev selfaddr

theorem run_config (es : List RolladenEvent) (s : Plant) :
    (run (rolladenStep selfaddr) s es).dev.config = s.dev.config :=
  run_invariant (I := fun s' => s'.dev.config = s.dev.config)
    (fun s' e h => (rolladenStep_config s' e).trans h) es s rfl

/-- An invariant of the drive is kept by the plant. -/
def Plant.Keeps (I : EdsRolladenBlock → Fahrt → Prop) (s : Plant) : Prop :=
  I s.dev.config s.dev.fahrt

theorem driveInv_step (s : Plant) (e : RolladenEvent) (h : s.Keeps DriveInv) :
    (rolladenStep selfaddr s e).Keeps DriveInv := by
  unfold Plant.Keeps
  rw [rolladenStep_config]
  cases e with
  | frame f => exact DriveInv.frame h (canCallback_effect s.dev selfaddr f)
  | tick =>
      rw [rolladenStep_tick_fahrt]
      exact h.tick _

theorem driveInv_start (q : DeviceDataRolladen) : (Plant.start q).Keeps DriveInv := by
  have hzeit := q.config.zeit_nonneg
  have hsoll : (Plant.start q).dev.fahrt.soll = -1 := rfl
  have hconfig : (Plant.start q).dev.config = q.config := rfl
  refine ⟨.of_off rfl, fun hsp => Bool.noConfusion hsp, ?_, ?_, fun hsp => Bool.noConfusion hsp⟩
  · rw [hsoll, hconfig]
    omega
  · rw [hsoll]
    omega

end

/-! ## Room for the position -/

/-- No position of a run is lower. -/
def EdsRolladenBlock.tief (c : EdsRolladenBlock) : Int := min (c.kalibrierSoll .ab) (-1)

/-- No position of a run is higher. -/
def EdsRolladenBlock.hoch (c : EdsRolladenBlock) : Int := max (c.kalibrierSoll .auf) (c.zeit + 1)

theorem EdsRolladenBlock.room (c : EdsRolladenBlock) :
    c.tief ≤ -1 ∧ c.tief ≤ c.kalibrierSoll .ab ∧ c.zeit < c.hoch ∧ c.kalibrierSoll .auf ≤ c.hoch ∧
      c.hoch - c.tief ≤ 2 * c.zeit + 2 := by
  have hzeit := c.zeit_nonneg
  unfold EdsRolladenBlock.tief EdsRolladenBlock.hoch
  rw [kalibrierSoll_auf, kalibrierSoll_ab]
  omega

/-- The position of a drive has room ahead of it. -/
structure RoomInv (c : EdsRolladenBlock) (m : Fahrt) : Prop extends DriveInv c m where
  above : c.tief ≤ m.laufzeit
  below : m.laufzeit ≤ c.hoch
  roomUp : m.ctl.sollPower = true → m.ctl.heading = .auf → m.laufzeit < c.hoch
  roomDown : m.ctl.sollPower = true → m.ctl.heading = .ab → c.tief < m.laufzeit

/-- An order up meets a direction relay that is up, or that moves in the next
tick. -/
def UpFree (s : Plant) (e : RolladenEvent) : Prop :=
  ∀ f, e = .frame f → StartsUp s.dev f → s.dev.dir = .auf ∨ s.dev.exeDir = true

section

variable {c : EdsRolladenBlock} {m : Fahrt}

theorem RoomInv.soll (h : RoomInv c m) : c.tief ≤ m.soll ∧ m.soll ≤ c.hoch := by
  obtain ⟨hlow, hunten, hhigh, hoben, _⟩ := c.room
  constructor
  · rcases h.unten with hsoll | hsoll
    · omega
    · omega
  · rcases h.oben with hsoll | hsoll
    · omega
    · omega

theorem Fahrt.prepare_fields (c : EdsRolladenBlock) (m : Fahrt) :
    (m.prepare c).laufzeit = m.laufzeit ∧ (m.prepare c).ctl = m.ctl := by
  unfold Fahrt.prepare
  split
  · exact ⟨rfl, rfl⟩
  · exact ⟨rfl, rfl⟩

theorem RoomInv.prepare (h : RoomInv c m) : RoomInv c (m.prepare c) := by
  obtain ⟨hlauf, hctl⟩ := m.prepare_fields c
  refine ⟨h.toDriveInv.prepare, ?_, ?_, ?_, ?_⟩
  · rw [hlauf]
    exact h.above
  · rw [hlauf]
    exact h.below
  · rw [hlauf, hctl]
    exact h.roomUp
  · rw [hlauf, hctl]
    exact h.roomDown

theorem stop_laufzeit (c : EdsRolladenBlock) (m : Fahrt) :
    (m.stop c).laufzeit = m.laufzeit ∨
      (m.Abgleich c ∧ (m.stop c).laufzeit = c.endSoll c.endDir) := by
  unfold Fahrt.stop
  by_cases h : m.Abgleich c
  · exact .inr ⟨h, if_pos h⟩
  · exact .inl (if_neg h)

theorem RoomInv.stop (habove : c.tief ≤ m.laufzeit) (hbelow : m.laufzeit ≤ c.hoch) :
    RoomInv c (m.stop c) := by
  obtain ⟨hlow, _, hhigh, _, _⟩ := c.room
  have hrange := endSoll_range c c.endDir
  have hsp := stop_sollPower c m
  refine ⟨.stop c m, ?_, ?_, ?_, ?_⟩
  · rcases stop_laufzeit c m with heq | ⟨_, heq⟩
    · rw [heq]
      exact habove
    · rw [heq]
      omega
  · rcases stop_laufzeit c m with heq | ⟨_, heq⟩
    · rw [heq]
      exact hbelow
    · rw [heq]
      omega
  · intro hon
    rw [hsp] at hon
    cases hon
  · intro hon
    rw [hsp] at hon
    cases hon

/-- A driving shutter moves into the room it has, and keeps some unless it has
reached its target. -/
theorem RoomInv.fahren (h : RoomInv c m) (hf : m.Faehrt) :
    c.tief ≤ m.fahren.laufzeit ∧ m.fahren.laufzeit ≤ c.hoch ∧
      (¬ m.fahren.Erreicht → RoomInv c m.fahren) := by
  obtain ⟨hsollLow, hsollHigh⟩ := h.soll
  obtain ⟨hp, hsp⟩ := hf
  have hhead : m.ctl.heading = m.ctl.dir := RelayCtl.heading_on hp
  have hmoved : DriveInv c m.fahren := ⟨h.load, h.timer, h.oben, h.unten, h.up⟩
  have habove := h.above
  have hbelow := h.below
  cases hdir : m.ctl.dir with
  | auf =>
      rw [hdir] at hhead
      have hroom := h.roomUp hsp hhead
      have hlauf : m.fahren.laufzeit = m.laufzeit + 1 := by
        unfold Fahrt.fahren
        simp [hdir]
      rw [hlauf]
      refine ⟨by omega, by omega, fun hnot => ⟨hmoved, by omega, by omega, fun _ _ => ?_, ?_⟩⟩
      · have hdirf : m.fahren.ctl.dir = .auf := hdir
        have hsollf : m.fahren.soll = m.soll := rfl
        unfold Fahrt.Erreicht at hnot
        rw [hdirf, if_neg (by decide), hsollf] at hnot
        omega
      · intro _ hab
        rw [show m.fahren.ctl.heading = .auf from hhead] at hab
        cases hab
  | ab =>
      rw [hdir] at hhead
      have hroom := h.roomDown hsp hhead
      have hlauf : m.fahren.laufzeit = m.laufzeit - 1 := by
        unfold Fahrt.fahren
        simp [hdir]
      rw [hlauf]
      refine ⟨by omega, by omega, fun hnot => ⟨hmoved, by omega, by omega, ?_, fun _ _ => ?_⟩⟩
      · intro _ hauf
        rw [show m.fahren.ctl.heading = .ab from hhead] at hauf
        cases hauf
      · have hdirf : m.fahren.ctl.dir = .ab := hdir
        have hsollf : m.fahren.soll = m.soll := rfl
        unfold Fahrt.Erreicht at hnot
        rw [hdirf, if_pos rfl, hsollf] at hnot
        omega

theorem RoomInv.pruefung (h : RoomInv c m) : RoomInv c (m.pruefung c) := by
  unfold Fahrt.pruefung
  split
  · rename_i hf
    obtain ⟨habove, hbelow, hgo⟩ := h.fahren hf
    split
    · exact .stop habove hbelow
    · exact hgo ‹_›
  · exact h

theorem RoomInv.relays (h : RoomInv c m) :
    RoomInv c ⟨m.laufzeit, m.soll, m.kalibrieren, m.ctl.relays⟩ := by
  have hhead : m.ctl.relays.sollPower = true →
      m.ctl.sollPower = true ∧ m.ctl.relays.heading = m.ctl.heading := by
    intro hsp
    rw [RelayCtl.relays_sollPower] at hsp
    exact ⟨hsp, RelayCtl.heading_relays h.load hsp⟩
  refine ⟨h.toDriveInv.relays, h.above, h.below, ?_, ?_⟩
  · intro hsp hauf
    obtain ⟨hsp', heq⟩ := hhead hsp
    exact h.roomUp hsp' (heq.symm.trans hauf)
  · intro hsp hab
    obtain ⟨hsp', heq⟩ := hhead hsp
    exact h.roomDown hsp' (heq.symm.trans hab)

theorem RoomInv.tick (h : RoomInv c m) (gedrueckt : Bool) : RoomInv c (m.tick c gedrueckt) := by
  apply RoomInv.relays
  apply RoomInv.pruefung
  cases gedrueckt with
  | true => exact h.prepare
  | false => exact h

end

theorem not_reached_auf {p : DeviceDataRolladen} (h : ¬ SollReached p .auf) :
    p.laufzeit < p.config.zeit := by
  by_contra hge
  exact h (.inr ⟨rfl, by omega⟩)

theorem not_reached_ab {p : DeviceDataRolladen} (h : ¬ SollReached p .ab) : 0 < p.laufzeit := by
  by_contra hle
  exact h (.inl ⟨rfl, by omega⟩)

theorem EndOrder.startsUp {p : DeviceDataRolladen} {f : CanixFrame} (h : EndOrder p f .auf) :
    StartsUp p f := by
  obtain ⟨haddr, hnot, ⟨⟨hcmd, hbutton⟩, hsp⟩ | ⟨hcmd, hlast⟩⟩ := h
  · rcases hbutton with ⟨_, hd⟩ | ⟨h201, _⟩
    · cases hd
    · exact ⟨haddr, .inl ⟨hcmd, hsp, .inl ⟨h201, not_reached_auf hnot⟩⟩⟩
  · exact ⟨haddr, .inr ⟨hcmd, hlast, not_reached_auf hnot⟩⟩

theorem PercentDrive.startsUp {p : DeviceDataRolladen} {f : CanixFrame}
    (h : PercentDrive p f .auf) : StartsUp p f := by
  obtain ⟨haddr, ⟨hcmd, hpercent⟩, hsp, ⟨hd, _⟩ | ⟨_, hlt⟩⟩ := h
  · cases hd
  · obtain ⟨h200, h201, h202, h222⟩ := hpercent
    exact ⟨haddr, .inl ⟨hcmd, hsp, .inr ⟨h200, h201, h202, h222, hlt⟩⟩⟩

/-- Neither order goes up with the direction relay down. -/
theorem EndOrder.free {p : DeviceDataRolladen} {f : CanixFrame} {d : Dir} (h : EndOrder p f d)
    (hup : StartsUp p f → p.dir = .auf ∨ p.exeDir = true) :
    d = .auf → p.ctl.dir = .auf ∨ p.ctl.exeDir = true := by
  intro hd
  subst hd
  exact hup h.startsUp

theorem PercentDrive.free {p : DeviceDataRolladen} {f : CanixFrame} {d : Dir}
    (h : PercentDrive p f d) (hup : StartsUp p f → p.dir = .auf ∨ p.exeDir = true) :
    d = .auf → p.ctl.dir = .auf ∨ p.ctl.exeDir = true := by
  intro hd
  subst hd
  exact hup h.startsUp

/-- The position an order in percent names lies in its direction. -/
theorem PercentDrive.ahead {p : DeviceDataRolladen} {f : CanixFrame} {d : Dir}
    (h : PercentDrive p f d) :
    (d = .auf → p.laufzeit < prozentSoll p (f.byte 3)) ∧
      (d = .ab → prozentSoll p (f.byte 3) < p.laufzeit) := by
  obtain ⟨_, _, _, ⟨rfl, hlt⟩ | ⟨rfl, hlt⟩⟩ := h
  · exact ⟨fun hd => Dir.noConfusion hd, fun _ => hlt⟩
  · exact ⟨fun _ => hlt, fun hd => Dir.noConfusion hd⟩

theorem definePosition_range (p : DeviceDataRolladen) (pos : UInt8) :
    0 ≤ (definePosition p pos).laufzeit ∧ (definePosition p pos).laufzeit ≤ p.config.zeit := by
  have hzeit := p.config.zeit_nonneg
  have hpos : 0 ≤ ((pos.toNat + 1 : Nat) : Int) * p.config.zeit :=
    Int.mul_nonneg (Int.natCast_nonneg _) hzeit
  unfold definePosition
  dsimp only
  generalize ((pos.toNat + 1 : Nat) : Int) * p.config.zeit = part at hpos ⊢
  split
  · omega
  · omega

/-- The direction of an order to drive, if the direction relay is up or about to
move. -/
theorem heading_drive {d : RelayCtl} {dir : Dir} (hidle : d.Idle)
    (hup : dir = .auf → d.dir = .auf ∨ d.exeDir = true) : (d.drive dir).heading = dir := by
  cases dir with
  | auf => exact RelayCtl.heading_drive_auf hidle.2 (hup rfl)
  | ab => exact RelayCtl.heading_drive_ab hidle.2

/-- An order to drive with room ahead. -/
theorem RoomInv.drive {c : EdsRolladenBlock} {m : Fahrt} {d : RelayCtl} {dir : Dir}
    (hm : DriveInv c m) (hctl : m.ctl = d.drive dir) (hidle : d.Idle)
    (hup : dir = .auf → d.dir = .auf ∨ d.exeDir = true)
    (habove : c.tief ≤ m.laufzeit) (hbelow : m.laufzeit ≤ c.hoch)
    (hauf : dir = .auf → m.laufzeit < c.hoch) (hab : dir = .ab → c.tief < m.laufzeit) :
    RoomInv c m := by
  have hhead := heading_drive hidle hup
  refine ⟨hm, habove, hbelow, ?_, ?_⟩
  · intro _ h
    rw [hctl, hhead] at h
    exact hauf h
  · intro _ h
    rw [hctl, hhead] at h
    exact hab h

/-- After the sentinel only a direction relay that is up and stays up lets the
drive go up. -/
theorem HitsSentinel.heading_auf {p : DeviceDataRolladen} {f : CanixFrame} (h : HitsSentinel p f)
    (hauf : p.ctl.preset.heading = .auf) : p.ctl.heading = .auf := by
  rw [RelayCtl.heading_off (show p.ctl.preset.power = false from h.1.power)] at hauf
  have hexe : p.ctl.exeDir = false := by
    cases he : p.ctl.exeDir with
    | false => rfl
    | true =>
        rw [show p.ctl.preset.exeDir = true from he] at hauf
        cases hauf
  rw [show p.ctl.preset.exeDir = false from hexe, if_neg Bool.false_ne_true] at hauf
  rw [RelayCtl.heading_off (show p.ctl.power = false from h.1.power), hexe,
    if_neg Bool.false_ne_true]
  exact hauf

theorem RoomInv.define {p : DeviceDataRolladen} {pos : UInt8}
    (h : DriveInv p.config
      ⟨(definePosition p pos).laufzeit, p.sollLaufzeit, p.kalibrieren, p.ctl⟩) :
    RoomInv p.config ⟨(definePosition p pos).laufzeit, p.sollLaufzeit, p.kalibrieren, p.ctl⟩ := by
  obtain ⟨hlow, _, hhigh, _, _⟩ := p.config.room
  have hrange := definePosition_range p pos
  refine ⟨h, ?_, ?_, ?_, ?_⟩
  · show _ ≤ (definePosition p pos).laufzeit
    omega
  · show (definePosition p pos).laufzeit ≤ _
    omega
  · intro _ _
    show (definePosition p pos).laufzeit < _
    omega
  · intro _ _
    show _ < (definePosition p pos).laufzeit
    omega

/-- What a frame leaves of the room. -/
theorem RoomInv.frame {p : DeviceDataRolladen} {f : CanixFrame} {m : Fahrt}
    (h : RoomInv p.config p.fahrt) (he : FrameEffect p f m)
    (hup : StartsUp p f → p.dir = .auf ∨ p.exeDir = true) : RoomInv p.config m := by
  obtain ⟨hlow, _, hhigh, _, _⟩ := p.config.room
  have hzeit := p.config.zeit_nonneg
  have hdrive := h.toDriveInv.frame he
  cases he with
  | keep => exact h
  | halt => exact .stop h.above h.below
  | lose => exact ⟨hdrive, h.above, h.below, h.roomUp, h.roomDown⟩
  | order d horder =>
      refine .drive hdrive rfl horder.1.idle (horder.free hup) h.above h.below ?_ ?_
      · intro hd
        subst hd
        have hlt := not_reached_auf horder.2.1
        show p.laufzeit < _
        omega
      · intro hd
        subst hd
        have hlt := not_reached_ab horder.2.1
        show _ < p.laufzeit
        omega
  | percent d horder =>
      have hrange := prozentSoll_range p (f.byte 3)
      obtain ⟨hauf, hab⟩ := horder.ahead
      refine .drive hdrive rfl horder.1.idle (horder.free hup) h.above h.below ?_ ?_
      · intro hd
        have hlt := hauf hd
        show p.laufzeit < _
        omega
      · intro hd
        have hlt := hab hd
        show _ < p.laufzeit
        omega
  | preset hhit =>
      have hpos : 0 < p.laufzeit := hhit.2.2.2.1
      refine ⟨hdrive, h.above, h.below, fun hsp hauf => h.roomUp hsp (hhit.heading_auf hauf), ?_⟩
      intro _ _
      show _ < p.laufzeit
      omega
  | define => exact .define hdrive

section

variable {selfaddr : UInt16}

theorem roomInv_step (selfaddr : UInt16) (s : Plant) (e : RolladenEvent) (hup : UpFree s e)
    (h : s.Keeps RoomInv) :
    (rolladenStep selfaddr s e).Keeps RoomInv := by
  unfold Plant.Keeps
  rw [rolladenStep_config]
  cases e with
  | frame f => exact RoomInv.frame h (canCallback_effect s.dev selfaddr f) (hup f rfl)
  | tick =>
      rw [rolladenStep_tick_fahrt]
      exact h.tick _

theorem roomInv_start (q : DeviceDataRolladen) : (Plant.start q).Keeps RoomInv := by
  obtain ⟨hlow, _, hhigh, _, _⟩ := q.config.room
  have hzeit := q.config.zeit_nonneg
  refine ⟨driveInv_start q, ?_, ?_, fun hsp => Bool.noConfusion hsp,
    fun hsp => Bool.noConfusion hsp⟩
  · show q.config.tief ≤ q.config.zeit / 2
    omega
  · show q.config.zeit / 2 ≤ q.config.hoch
    omega

end

/-! ## The end of a run -/

/-- The ticks until the power is on, at most. -/
def RelayCtl.wartet (c : RelayCtl) : Nat := if c.power then 0 else c.blockingTimer + 1

/-- The ticks a drive can last at most. -/
def Fahrt.rest (c : EdsRolladenBlock) (m : Fahrt) : Int :=
  m.ctl.wartet + if m.ctl.heading = .auf then c.hoch - m.laufzeit else m.laufzeit - c.tief

theorem RelayCtl.wartet_on {c : RelayCtl} (h : c.power = true) : c.wartet = 0 := by
  unfold RelayCtl.wartet
  rw [if_pos h]

theorem RelayCtl.wartet_off {c : RelayCtl} (h : c.power = false) :
    c.wartet = c.blockingTimer + 1 := by
  unfold RelayCtl.wartet
  rw [h, if_neg Bool.false_ne_true]

section

variable {c : EdsRolladenBlock} {m : Fahrt}

theorem Fahrt.rest_range (h : RoomInv c m) (hsp : m.ctl.sollPower = true) :
    1 ≤ m.rest c ∧ m.rest c ≤ 2 * c.zeit + 8 := by
  obtain ⟨hlow, _, hhigh, _, hroom⟩ := c.room
  have htimer := h.timer hsp
  have habove := h.above
  have hbelow := h.below
  have hwait : m.ctl.wartet ≤ 6 := by
    unfold RelayCtl.wartet
    split
    · omega
    · omega
  unfold Fahrt.rest
  rcases m.ctl.heading.auf_or_ab with hhead | hhead
  · have hup := h.roomUp hsp hhead
    rw [if_pos hhead]
    omega
  · have hdown := h.roomDown hsp hhead
    rw [if_neg (by rw [hhead]; decide)]
    omega

theorem Fahrt.rest_prepare (c : EdsRolladenBlock) (m : Fahrt) :
    (m.prepare c).rest c = m.rest c := by
  unfold Fahrt.rest
  rw [(m.prepare_fields c).1, (m.prepare_fields c).2]

/-- A tick of driving uses up one tick. -/
theorem Fahrt.rest_fahren (hp : m.ctl.power = true) : (m.fahren).rest c = m.rest c - 1 := by
  have hhead : m.ctl.heading = m.ctl.dir := RelayCtl.heading_on hp
  have hctl : m.fahren.ctl = m.ctl := rfl
  unfold Fahrt.rest
  rw [hctl, hhead]
  unfold Fahrt.fahren
  rcases m.ctl.dir.auf_or_ab with hdir | hdir
  · simp only [hdir, if_true]
    rw [if_neg (by decide)]
    omega
  · simp only [hdir, if_true]
    rw [if_neg (by decide), if_neg (by decide)]
    omega

/-- The relays: a drive waits one tick less, or goes on. -/
theorem Fahrt.rest_relays (h : RoomInv c m) (hsp : m.ctl.sollPower = true) :
    (Fahrt.mk m.laufzeit m.soll m.kalibrieren m.ctl.relays).rest c ≤
      if m.ctl.power then m.rest c else m.rest c - 1 := by
  have hhead := RelayCtl.heading_relays h.load hsp
  have htimer := m.ctl.relays_blockingTimer
  unfold Fahrt.rest
  dsimp only
  rw [hhead]
  cases hp : m.ctl.power with
  | true =>
      apply Int.le_of_eq
      rw [if_pos rfl, RelayCtl.wartet_on hp, RelayCtl.wartet_on (RelayCtl.relays_drive hp hsp)]
  | false =>
      rw [if_neg Bool.false_ne_true, RelayCtl.wartet_off hp]
      cases hon : m.ctl.relays.power with
      | true =>
          rw [RelayCtl.wartet_on hon]
          omega
      | false =>
          have hbusy : m.ctl.blockingTimer ≠ 0 := by
            intro hfree
            rw [RelayCtl.relays_on hsp hfree] at hon
            cases hon
          rw [RelayCtl.wartet_off hon, htimer]
          omega

/-- The power is off, and there is no order to drive. -/
def Fahrt.Steht (m : Fahrt) : Prop := m.ctl.power = false ∧ m.ctl.sollPower = false

theorem Fahrt.Steht.tick (h : m.Steht) (gedrueckt : Bool) : (m.tick c gedrueckt).Steht := by
  have hstays : ∀ m : Fahrt, m.Steht →
      (Fahrt.mk (m.pruefung c).laufzeit (m.pruefung c).soll (m.pruefung c).kalibrieren
        (m.pruefung c).ctl.relays).Steht := by
    intro m hm
    have hcheck : m.pruefung c = m := by
      unfold Fahrt.pruefung
      rw [if_neg]
      intro hf
      exact Bool.noConfusion (hm.2.symm.trans hf.2)
    rw [hcheck]
    exact ⟨RelayCtl.relays_rest hm.1 hm.2, (m.ctl.relays_sollPower).trans hm.2⟩
  unfold Fahrt.tick
  dsimp only
  cases gedrueckt with
  | true =>
      apply hstays
      show (m.prepare c).Steht
      unfold Fahrt.Steht
      rw [(m.prepare_fields c).2]
      exact h
  | false => exact hstays m h

/-- **A tick of a drive ends it or brings its end nearer.** -/
theorem RoomInv.tick_rest (h : RoomInv c m) (hsp : m.ctl.sollPower = true) (gedrueckt : Bool) :
    (m.tick c gedrueckt).Steht ∨
      ((m.tick c gedrueckt).ctl.sollPower = true ∧
        (m.tick c gedrueckt).rest c ≤ m.rest c - 1) := by
  -- a held button does not matter
  have hstep : ∀ m : Fahrt, RoomInv c m → m.ctl.sollPower = true →
      (Fahrt.mk (m.pruefung c).laufzeit (m.pruefung c).soll (m.pruefung c).kalibrieren
          (m.pruefung c).ctl.relays).Steht ∨
        ((m.pruefung c).ctl.relays.sollPower = true ∧
          (Fahrt.mk (m.pruefung c).laufzeit (m.pruefung c).soll (m.pruefung c).kalibrieren
            (m.pruefung c).ctl.relays).rest c ≤ m.rest c - 1) := by
    intro m h hsp
    by_cases hp : m.ctl.power = true
    · have hf : m.Faehrt := ⟨hp, hsp⟩
      by_cases hreached : m.fahren.Erreicht
      · have hcheck : m.pruefung c = m.fahren.stop c := by
          unfold Fahrt.pruefung
          rw [if_pos hf, if_pos hreached]
        have hstop : (m.fahren.stop c).ctl.sollPower = false := stop_sollPower c _
        rw [hcheck]
        exact .inl ⟨(PowerSafe.stop m.fahren.ctl).relays_halt hstop,
          (RelayCtl.relays_sollPower _).trans hstop⟩
      · have hcheck : m.pruefung c = m.fahren := by
          unfold Fahrt.pruefung
          rw [if_pos hf, if_neg hreached]
        have hroom := (h.fahren hf).2.2 hreached
        have hrest := Fahrt.rest_relays hroom hsp
        rw [if_pos (show m.fahren.ctl.power = true from hp), Fahrt.rest_fahren hp] at hrest
        rw [hcheck]
        exact .inr ⟨(RelayCtl.relays_sollPower _).trans hsp, hrest⟩
    · have hcheck : m.pruefung c = m := by
        unfold Fahrt.pruefung
        rw [if_neg (fun hf => hp hf.1)]
      have hrest := Fahrt.rest_relays h hsp
      rw [if_neg hp] at hrest
      rw [hcheck]
      exact .inr ⟨(RelayCtl.relays_sollPower _).trans hsp, hrest⟩
  unfold Fahrt.tick
  dsimp only
  cases gedrueckt with
  | true =>
      have hprep := hstep (m.prepare c) h.prepare (by rw [(m.prepare_fields c).2]; exact hsp)
      rw [Fahrt.rest_prepare] at hprep
      exact hprep
  | false => exact hstep m h hsp

end

section

variable {selfaddr : UInt16}

/-- `n` calls of the timer handler. -/
def Plant.ticks (selfaddr : UInt16) (n : Nat) (s : Plant) : Plant :=
  run (rolladenStep selfaddr) s (List.replicate n .tick)

theorem Plant.ticks_succ (n : Nat) (s : Plant) :
    s.ticks selfaddr (n + 1) = (rolladenStep selfaddr s .tick).ticks selfaddr n := rfl

theorem Plant.ticks_add (n k : Nat) (s : Plant) :
    s.ticks selfaddr (n + k) = (s.ticks selfaddr n).ticks selfaddr k := by
  unfold Plant.ticks
  rw [List.replicate_add, run_append]

theorem steht_ticks (selfaddr : UInt16) (n : Nat) (s : Plant) (h : s.dev.fahrt.Steht) :
    (s.ticks selfaddr n).dev.fahrt.Steht := by
  induction n generalizing s with
  | zero => exact h
  | succ n ih =>
      rw [Plant.ticks_succ]
      apply ih
      rw [rolladenStep_tick_fahrt]
      exact h.tick _

theorem upFree_tick (s : Plant) : UpFree s .tick := by
  intro f hf
  cases hf

/-- A drive has ended when its ticks are used up. -/
theorem drive_ends (n : Nat) (s : Plant) (h : s.Keeps RoomInv)
    (hsp : s.dev.sollPower = true) (hn : s.dev.fahrt.rest s.dev.config ≤ n) :
    (s.ticks selfaddr n).dev.fahrt.Steht := by
  induction n generalizing s with
  | zero =>
      have hrest := (Fahrt.rest_range h hsp).1
      omega
  | succ n ih =>
      have hstep := h.tick_rest hsp s.dev.gedrueckt
      have hkeep := roomInv_step selfaddr s .tick (upFree_tick s) h
      rw [← rolladenStep_tick_fahrt selfaddr s] at hstep
      rw [Plant.ticks_succ]
      rcases hstep with hends | ⟨hon, hrest⟩
      · exact steht_ticks selfaddr n _ hends
      · refine ih _ hkeep hon ?_
        rw [rolladenStep_config]
        omega

end

/-- **Every run ends**: as long as no order up meets a direction relay that is
still down, an order to drive has the power off after two run times and a
little more, for good. -/
theorem run_ends (selfaddr : UInt16) (q : DeviceDataRolladen) (es : List RolladenEvent)
    (hup : Guarded (rolladenStep selfaddr) UpFree (Plant.start q) es)
    (hsp : (run (rolladenStep selfaddr) (Plant.start q) es).dev.sollPower = true) :
    ∃ n, n ≤ 2 * q.config.laufzeit.toNat + 32 ∧ ∀ k, n ≤ k →
      ((run (rolladenStep selfaddr) (Plant.start q) es).ticks selfaddr k).powerOut = false := by
  have hroom : (run (rolladenStep selfaddr) (Plant.start q) es).Keeps RoomInv :=
    run_guarded (roomInv_step selfaddr) es _ hup (roomInv_start q)
  have hload : LoadInv (run (rolladenStep selfaddr) (Plant.start q) es) :=
    run_invariant LoadInv.step es _ (loadInv_start q)
  have hconfig : (run (rolladenStep selfaddr) (Plant.start q) es).dev.config = q.config :=
    run_config es (Plant.start q)
  generalize run (rolladenStep selfaddr) (Plant.start q) es = s at hsp hroom hload hconfig ⊢
  have hrange := (Fahrt.rest_range hroom hsp).2
  rw [hconfig] at hrange
  refine ⟨2 * q.config.laufzeit.toNat + 8, by omega, fun k hk => ?_⟩
  have hends : (s.ticks selfaddr k).dev.fahrt.Steht := by
    refine drive_ends k s hroom hsp ?_
    rw [hconfig]
    unfold EdsRolladenBlock.zeit at hrange
    omega
  have hsynced : LoadInv (s.ticks selfaddr k) := run_invariant LoadInv.step _ s hload
  rw [hsynced.synced.power]
  exact hends.1

/-! ### A shutter that drifts -/

section Example

private def prozent (n : UInt8) : RolladenEvent := .frame (positionOrder 2 1 n)

/-- Up, down, and then forty orders up, each in the tick before the direction
relay goes back up. -/
private def drift : List RolladenEvent :=
  prozent 100 :: List.replicate 2 .tick ++ prozent 0 :: List.replicate 11 .tick ++
    (List.replicate 40 (prozent 100 :: List.replicate 6 .tick)).flatten ++
      [.tick, prozent 100]

/-- An order up in the middle position. -/
theorem run_ends_einTick :
    ∃ n, n ≤ 2 * (neuerRolladen 1 0).config.laufzeit.toNat + 32 ∧ ∀ k, n ≤ k →
      ((run (rolladenStep 1) (Plant.start (neuerRolladen 1 0)) [prozent 100]).ticks 1 k).powerOut =
        false :=
  run_ends 1 (neuerRolladen 1 0) _ ⟨fun _ _ _ => .inl rfl, trivial⟩ (by decide)

/-- **A run without end in time**: each of the forty orders takes the position one
tick below the lower end, and the way back from there takes 41 ticks. -/
theorem run_lasts_longer :
    ¬ ∀ (selfaddr : UInt16) (q : DeviceDataRolladen) (es : List RolladenEvent),
      1 ≤ q.config.laufzeit.toNat →
        (run (rolladenStep selfaddr) (Plant.start q) es).dev.sollPower = true →
          ∃ n, n ≤ 2 * q.config.laufzeit.toNat + 32 ∧ ∀ k, n ≤ k →
            ((run (rolladenStep selfaddr) (Plant.start q) es).ticks selfaddr k).powerOut =
              false := by
  intro hall
  obtain ⟨n, hn, hoff⟩ := hall 1 (neuerRolladen 1 0) drift (by decide) (by decide)
  have hon : ((run (rolladenStep 1) (Plant.start (neuerRolladen 1 0)) drift).ticks 1 36).powerOut =
      true := by
    decide
  have hbound : 2 * (neuerRolladen 1 0).config.laufzeit.toNat + 32 = 34 := rfl
  rw [hoff 36 (by omega)] at hon
  cases hon

end Example

end OpenHcan.Rolladen
