import OpenHcan.Devices.RolladenInterlock

/-!
# RolladenDirection — the shutter drives the way it is told

An order to drive down sets the direction relay first and lets the power wait
for the blocking timer. An order to drive up switches the power on at once: it
relies on the direction relay being up already ("Dir-Relais liegt schon
richtig"). The relay is up one tick after the timer has run out, though, and
the order is accepted as soon as the timer has.
-/

namespace OpenHcan.Rolladen

open OpenHcan.Lib

set_option maxRecDepth 100000

/-! ## Ready to drive -/

/-- An order to drive waits for the power: the direction relay is where it
belongs, or gets there in the first tick of the block. -/
structure DriveReady (c : RelayCtl) (dirAt : Option Nat) (tick : Nat) : Prop where
  up : c.sollDir = .auf → c.dir = .auf ∧ c.blockingTimer = 0 ∧ Quiet c dirAt tick 4
  down : c.sollDir = .ab → c.dir = .ab → Quiet c dirAt tick 4
  turn : c.sollDir = .ab → c.dir = .auf → c.exeDir = true ∧ c.blockingTimer = 5
  wait : c.sollDir = .ab → c.blockingTimer ≠ 0 → c.exePower = false

section

variable {c : RelayCtl} {dirAt : Option Nat} {tick : Nat}

theorem DriveReady.drive_down (hmoved : ∀ t, dirAt = some t → t ≤ tick) :
    DriveReady (c.drive .ab) dirAt tick where
  up := by
    intro h
    cases h
  down := by
    intro _ _ t ht
    have := hmoved t ht
    show t + 4 ≤ tick + 5
    omega
  turn := by
    intro _ _
    exact ⟨rfl, rfl⟩
  wait := by
    intro _ _
    rfl

theorem DriveReady.drive_up (hdir : c.dir = .auf) (hfree : c.blockingTimer = 0)
    (hgap : ∀ t, dirAt = some t → t + 4 ≤ tick) : DriveReady (c.drive .auf) dirAt tick where
  up := by
    intro _
    refine ⟨hdir, hfree, fun t ht => ?_⟩
    have := hgap t ht
    exact Nat.le_trans this (Nat.le_add_right _ _)
  down := by
    intro h
    cases h
  turn := by
    intro h
    cases h
  wait := by
    intro h
    cases h

/-- The power goes on: the direction relay is right, and has been for 4 ticks. -/
theorem DriveReady.relays_on (h : DriveReady c dirAt tick) (hp : c.power = false)
    (hon : c.relays.power = true) :
    c.dir = c.sollDir ∧ ∀ t, dirAt = some t → t + 5 ≤ tick + 1 := by
  rcases c.sollDir.auf_or_ab with hsoll | hsoll
  · obtain ⟨hdir, hfree, hquiet⟩ := h.up hsoll
    refine ⟨hdir.trans hsoll.symm, fun t ht => ?_⟩
    have := hquiet t ht
    omega
  · have hfree : c.blockingTimer = 0 := by
      by_contra hbusy
      rw [RelayCtl.relays_power, RelayCtl.blocking_busy hbusy,
        if_neg (by simp [h.wait hsoll hbusy]), hp] at hon
      cases hon
    have hdir : c.dir = .ab := by
      rcases c.dir.auf_or_ab with hdir | hdir
      · have := (h.turn hsoll hdir).2
        omega
      · exact hdir
    refine ⟨hdir.trans hsoll.symm, fun t ht => ?_⟩
    have := h.down hsoll hdir t ht
    omega

/-- The power still waits: one more tick of the block. -/
theorem DriveReady.relays_off (h : DriveReady c dirAt tick) (hsp : c.sollPower = true)
    (hoff : c.relays.power = false) :
    DriveReady c.relays (if c.relays.dir ≠ c.dir then some (tick + 1) else dirAt) (tick + 1) := by
  have hbusy : c.blockingTimer ≠ 0 := by
    intro hfree
    rw [RelayCtl.relays_on hsp hfree] at hoff
    cases hoff
  have hsoll : c.sollDir = .ab := by
    rcases c.sollDir.auf_or_ab with hsoll | hsoll
    · exact absurd (h.up hsoll).2.1 hbusy
    · exact hsoll
  have hexe := h.wait hsoll hbusy
  unfold RelayCtl.relays
  rw [RelayCtl.blocking_busy hbusy]
  rcases c.dir.auf_or_ab with hdir | hdir
  · -- the direction relay goes down at the start of the block
    obtain ⟨hgo, hfive⟩ := h.turn hsoll hdir
    rw [RelayCtl.executeDir_move (by exact hgo) (by simp [hdir, hsoll]),
      RelayCtl.executePower_waits (by exact hexe), if_pos (by simp [hdir, hsoll])]
    constructor
    case down =>
      intro _ _ t ht
      cases ht
      show tick + 1 + 4 ≤ tick + 1 + (c.blockingTimer - 1)
      omega
    all_goals simp [hsoll, hexe]
  · rw [RelayCtl.executeDir_there (by simp [hdir, hsoll]),
      RelayCtl.executePower_waits (by exact hexe), if_neg (by simp)]
    constructor
    case down =>
      intro _ _ t ht
      have := h.down hsoll hdir t ht
      show t + 4 ≤ tick + 1 + (c.blockingTimer - 1)
      omega
    all_goals simp [hsoll, hdir, hexe]

end

/-! ## Runs -/

/-- With the power on and no stop pending, the direction output is where the
order says, and was last switched 5 ticks before the power or earlier. -/
def RightWay (s : Plant) : Prop :=
  s.powerOut = true → s.dev.sollPower = true →
    s.dirOut = s.dev.sollDir.pin ∧
      ∀ t, s.dirAt = some t → ∃ on, s.powerAt = some on ∧ t + 5 ≤ on

/-- An order to drive up finds the direction relay up for 4 ticks, and no
button that hits the value -1 turns a waiting order to drive up around. -/
def UpWaits (s : Plant) (e : RolladenEvent) : Prop :=
  ∀ f, e = .frame f →
    (StartsUp s.dev f → s.dev.dir = .auf ∧ ∀ t, s.dirAt = some t → t + 4 ≤ s.tick) ∧
      (HitsSentinel s.dev f → s.dev.sollPower = true → s.dev.sollDir = .ab)

/-- What the runs keep in which the orders up wait. -/
structure DirectionInv (s : Plant) : Prop extends LoadInv s where
  moved : ∀ t, s.dirAt = some t → t ≤ s.tick
  right : RightWay s
  ready : s.dev.power = false → s.dev.sollPower = true → DriveReady s.dev.ctl s.dirAt s.tick

section

variable {selfaddr : UInt16} {s s' : Plant} {c : RelayCtl}

theorem FrameAction.driving {p : DeviceDataRolladen} {f : CanixFrame} (h : FrameAction p f c)
    (hp : p.power = true) (hsp : c.sollPower = true) : c = p.ctl := by
  have hoff : p.power ≠ false := by simp [hp]
  cases h with
  | keep => rfl
  | stop =>
      rw [RelayCtl.stop_sollPower] at hsp
      cases hsp
  | down hidle => exact absurd hidle.2 hoff
  | up hup => exact absurd hup.1.power hoff
  | preset hhit => exact absurd hhit.1.power hoff

theorem DirectionInv.frame (h : DirectionInv s) {f : CanixFrame} (hwait : UpWaits s (.frame f)) :
    DirectionInv (rolladenStep selfaddr s (.frame f)) where
  toLoadInv := h.toLoadInv.frame f
  moved := h.moved
  right := by
    have ha := canCallback_action s.dev selfaddr f
    intro hon hsp
    have hkeep := ha.driving (h.synced.power.symm.trans hon) hsp
    obtain ⟨-, hsoll, -, hsollPower, -, -, -⟩ := ctl_congr hkeep
    obtain ⟨hdir, hgap⟩ := h.right hon (hsollPower.symm.trans hsp)
    exact ⟨hdir.trans (congrArg Dir.pin hsoll.symm), hgap⟩
  ready := by
    have ha := canCallback_action s.dev selfaddr f
    intro hoff hsp
    have hready := h.ready (ha.power.symm.trans hoff)
    obtain ⟨hup, hhits⟩ := hwait f rfl
    change (rolladenCanCallback selfaddr s.dev f).1.ctl.sollPower = true at hsp
    show DriveReady (rolladenCanCallback selfaddr s.dev f).1.ctl s.dirAt s.tick
    generalize (rolladenCanCallback selfaddr s.dev f).1.ctl = c at ha hsp
    cases ha with
    | keep => exact hready hsp
    | stop =>
        rw [RelayCtl.stop_sollPower] at hsp
        cases hsp
    | down => exact .drive_down h.moved
    | up hstart =>
        obtain ⟨hdir, hgap⟩ := hup hstart
        exact .drive_up hdir hstart.1.free hgap
    | preset hhit =>
        -- the target was down already
        have hsoll := hhits hhit hsp
        have hsame : s.dev.ctl.preset = s.dev.ctl := by
          simp [RelayCtl.preset, DeviceDataRolladen.ctl, hsoll]
        rw [hsame]
        exact hready hsp

/-- A tick that ends with an order to drive begins with it. -/
theorem TickOf.kept (ht : TickOf s s' c) (hsp : c.relays.sollPower = true) : c = s.dev.ctl := by
  rcases ht.order with heq | ⟨_, _, rfl⟩
  · exact heq
  · rw [RelayCtl.relays_sollPower, RelayCtl.stop_sollPower] at hsp
    cases hsp

/-- An order to drive that is there after a tick was there before it. -/
theorem TickOf.ordered (ht : TickOf s s' c) (hsp : s'.dev.sollPower = true) :
    c = s.dev.ctl ∧ c.sollPower = true := by
  have hrsp : c.relays.sollPower = true := by
    rw [← ht.ctl]
    exact hsp
  exact ⟨ht.kept hrsp, c.relays_sollPower.symm.trans hrsp⟩

theorem DirectionInv.tick_right (h : DirectionInv s) (ht : TickOf s s' c) : RightWay s' := by
  intro hon hsp
  obtain ⟨hkept, hsoll⟩ := ht.ordered hsp
  have hrelays : c.relays.power = true := by
    rw [← ht.ctl]
    exact ht.synced.power.symm.trans hon
  have hsollDir : s'.dev.sollDir = c.sollDir := by
    rw [← c.relays_sollDir, ← ht.ctl]
    rfl
  have hdir : s'.dev.dir = c.relays.dir := by
    rw [← ht.ctl]
    rfl
  have hordered : s.dev.sollPower = true := by
    rw [← hsoll, hkept]
    rfl
  rw [ht.synced.dir, hdir, hsollDir, ht.dirAt, ht.powerAt]
  cases hp : c.power with
  | true =>
      have hrest := (ht.powerSafe h.load).relays_dir hp
      obtain ⟨hright, hgap⟩ := h.right (by rw [h.synced.power, ← ht.power, hp]) hordered
      rw [h.synced.dir, ← ht.dir] at hright
      rw [hrest, if_neg (not_not.mpr rfl), if_neg (by simp)]
      refine ⟨?_, hgap⟩
      rw [hright, hkept]
      rfl
  | false =>
      have hready := h.ready (ht.power.symm.trans hp) hordered
      rw [← hkept] at hready
      obtain ⟨hright, hgap⟩ := hready.relays_on hp hrelays
      have hrest : c.relays.dir = c.dir := by
        rw [RelayCtl.relays_dir, if_neg]
        rintro ⟨_, hne⟩
        rw [c.blocking_dir, c.blocking_sollDir] at hne
        exact hne hright
      rw [hrest, if_neg (not_not.mpr rfl), if_pos ⟨rfl, hrelays⟩]
      exact ⟨congrArg Dir.pin hright, fun t hmove => ⟨_, rfl, hgap t hmove⟩⟩

theorem DirectionInv.tick_ready (h : DirectionInv s) (ht : TickOf s s' c)
    (hoff : s'.dev.power = false) (hsp : s'.dev.sollPower = true) :
    DriveReady s'.dev.ctl s'.dirAt s'.tick := by
  obtain ⟨hkept, hsoll⟩ := ht.ordered hsp
  have hrelays : c.relays.power = false := by
    rw [← ht.ctl]
    exact hoff
  have hp : c.power = false := by
    cases hp : c.power with
    | false => rfl
    | true =>
        -- nothing takes the power from an order to drive
        rw [RelayCtl.relays_power, c.blocking_power, c.blocking_sollPower, hp, hsoll,
          if_neg (by simp)] at hrelays
        cases hrelays
  have hready := h.ready (ht.power.symm.trans hp) (by rw [← hsoll, hkept]; rfl)
  rw [← hkept] at hready
  rw [ht.ctl, ht.dirAt, ht.tick]
  exact hready.relays_off hsoll hrelays

theorem DirectionInv.tick (h : DirectionInv s) (ht : TickOf s s' c) : DirectionInv s' where
  toLoadInv := h.toLoadInv.tick ht
  moved := by
    intro t hmove
    rw [ht.dirAt] at hmove
    rw [ht.tick]
    split at hmove
    · cases hmove
      exact Nat.le_refl _
    · have := h.moved t hmove
      omega
  right := h.tick_right ht
  ready := h.tick_ready ht

theorem DirectionInv.step (s : Plant) (e : RolladenEvent) (hwait : UpWaits s e)
    (h : DirectionInv s) : DirectionInv (rolladenStep selfaddr s e) := by
  cases e with
  | frame f => exact h.frame hwait
  | tick =>
      obtain ⟨c, ht⟩ := rolladenStep_tick selfaddr h.synced
      exact h.tick ht

end

theorem directionInv_start (q : DeviceDataRolladen) : DirectionInv (Plant.start q) where
  toLoadInv := loadInv_start q
  moved := by
    intro t ht
    cases ht
  right := by
    intro hon
    cases hon
  ready := by
    intro _ hsp
    cases hsp

/-- **The shutter drives the way it is told**, in every run whose orders up
wait for the direction relay. -/
theorem drives_right_way (selfaddr : UInt16) (q : DeviceDataRolladen) (es : List RolladenEvent)
    (hwait : Guarded (rolladenStep selfaddr) UpWaits (Plant.start q) es) :
    RightWay (run (rolladenStep selfaddr) (Plant.start q) es) :=
  (run_guarded DirectionInv.step es _ hwait (directionInv_start q)).right

/-! ### A shutter stopped on its way down -/

section Example

/-- A shutter on button 1 with a run time of ten ticks. -/
private def zehnTicks : DeviceDataRolladen where
  config :=
    { portPower := 0, portDir := 1, taster := 1, feature := 0, laufzeit := 10, maxRekalib := 0
      gruppe0 := 255, gruppe1 := 255, gruppe2 := 255, gruppe3 := 255, mute := 255 }
  mute := false
  kalibrieren := false
  summeLaufzeit := 0
  laufzeit := 0
  sollLaufzeit := 0
  stoppuhr := 0
  dir := .auf
  sollDir := .auf
  exeDir := false
  lastDir := .auf
  sollPower := false
  power := false
  exePower := false
  blockingTimer := 0
  changeDirCounter := 0
  longPressedCounter := 0

private def positionSetFrame (order : UInt8) : CanixFrame :=
  ⟨2, hcanMulticastInfo, hcanProtoSfp, 4,
    payload [hcanSrvHes, hcanHesRolladenPositionSet, 1, order]⟩

/-- Down, and a halt as soon as the power is on. -/
private def abUndHalt : List RolladenEvent :=
  [.frame (positionSetFrame 200)] ++ List.replicate 6 .tick ++ [.frame (positionSetFrame 202)]

private theorem upWaits_tick (s : Plant) : UpWaits s .tick := by
  intro f hf
  cases hf

/-- `ROLLADEN_POSITION_SET` never meets the value -1. -/
private theorem upWaits_positionSet {s : Plant} {order : UInt8}
    (h : StartsUp s.dev (positionSetFrame order) →
      s.dev.dir = .auf ∧ ∀ t, s.dirAt = some t → t + 4 ≤ s.tick) :
    UpWaits s (.frame (positionSetFrame order)) := by
  intro f hf
  cases hf
  refine ⟨h, fun hhit => ?_⟩
  have hcmd : hcanHesRolladenPositionSet = hcanHesTasterDown := hhit.2.1
  cases hcmd

/-- The shutter goes back up four ticks after the direction relay. -/
theorem drives_right_way_after_halt :
    RightWay (run (rolladenStep 1) (Plant.start zehnTicks)
      (abUndHalt ++ List.replicate 10 .tick ++ [.frame (positionSetFrame 201), .tick])) := by
  have hhalt : Guarded (rolladenStep 1) UpWaits (Plant.start zehnTicks) abUndHalt := by
    unfold abUndHalt
    rw [guarded_append, guarded_append]
    refine ⟨⟨⟨upWaits_positionSet fun _ => ?_, trivial⟩, guarded_replicate upWaits_tick 6 _⟩,
      upWaits_positionSet fun hup => ?_, trivial⟩
    · exact ⟨rfl, fun t ht => by cases ht⟩
    · -- the power is on
      exact absurd hup.1.power (by decide)
  refine drives_right_way 1 zehnTicks _ ?_
  rw [guarded_append, guarded_append]
  refine ⟨⟨hhalt, guarded_replicate upWaits_tick 10 _⟩, upWaits_positionSet fun _ => ?_,
    upWaits_tick _, trivial⟩
  have hat : (run (rolladenStep 1) (Plant.start zehnTicks)
      (abUndHalt ++ List.replicate 10 .tick)).dirAt = some 12 := by decide
  have htick : (run (rolladenStep 1) (Plant.start zehnTicks)
      (abUndHalt ++ List.replicate 10 .tick)).tick = 16 := by decide
  refine ⟨by decide, fun t ht => ?_⟩
  cases hat.symm.trans ht
  exact Nat.le_of_eq htick.symm

/-- **The wrong way**: an order up in the tick in which the blocking timer has
run out, and the motor runs down. -/
theorem drives_wrong_way :
    ¬ ∀ (selfaddr : UInt16) (q : DeviceDataRolladen) (es : List RolladenEvent),
      RightWay (run (rolladenStep selfaddr) (Plant.start q) es) := by
  intro hall
  have hright := hall 1 zehnTicks
    (abUndHalt ++ List.replicate 5 .tick ++ [.frame (positionSetFrame 201), .tick])
  have hdir := (hright (by decide) (by decide)).1
  revert hdir
  decide

end Example

end OpenHcan.Rolladen
