import OpenHcan.Devices.RolladenRelays
import OpenHcan.Lib.Machine

/-!
# RolladenInterlock — the relays never work against each other

The direction relay must not switch under load: never while the power is on,
and back from down to up only some ticks after the power went off. The first
half holds in every run (`PowerSafe`). The second half is a matter of timing
(`DelaySafe`); it fails when a button of the one-button mode hits the value
-1 for a calibration target right after a drive.
-/

namespace OpenHcan.Rolladen

open OpenHcan.Lib

set_option maxRecDepth 100000

/-! ## Never under load -/

/-- While the power is on, the direction relay has no order to move, or it has
to wait for the blocking timer. -/
structure PowerSafe (c : RelayCtl) : Prop where
  drive : c.power = true → c.exeDir = true → c.dir = c.sollDir
  halt : c.power = true → c.sollPower = false → c.sollDir = .auf ∧ c.exePower = true ∧
    (c.dir = .ab → c.blockingTimer = 5 ∧ c.exeDir = false)

theorem PowerSafe.of_off {c : RelayCtl} (h : c.power = false) : PowerSafe c := by
  constructor
  · intro hp
    rw [h] at hp
    exact Bool.noConfusion hp
  · intro hp
    rw [h] at hp
    exact Bool.noConfusion hp

theorem PowerSafe.stop (c : RelayCtl) : PowerSafe c.stop := by
  unfold RelayCtl.stop
  cases hd : c.dir with
  | auf => constructor <;> simp
  | ab => constructor <;> simp

theorem RelayCtl.drive_power (c : RelayCtl) (d : Dir) : (c.drive d).power = c.power := by
  unfold RelayCtl.drive
  dsimp only
  split <;> rfl

theorem PowerSafe.frame {p : DeviceDataRolladen} {f : CanixFrame} {c : RelayCtl}
    (hc : PowerSafe p.ctl) (ha : FrameAction p f c) : PowerSafe c := by
  cases ha with
  | keep => exact hc
  | stop => exact .stop _
  | down hidle => exact .of_off ((RelayCtl.drive_power _ _).trans hidle.2)
  | up hup => exact .of_off ((RelayCtl.drive_power _ _).trans hup.1.power)
  | preset hhit => exact .of_off hhit.1.power

/-- **Under load the direction relay rests.** -/
theorem PowerSafe.relays_dir {c : RelayCtl} (hc : PowerSafe c) (hp : c.power = true) :
    c.relays.dir = c.dir := by
  rw [RelayCtl.relays_dir]
  by_cases hb : c.blockingTimer = 0
  · cases hsp : c.sollPower with
    | true =>
        rw [RelayCtl.blocking_drive hb hsp, if_neg]
        rintro ⟨hexe, hne⟩
        exact hne (hc.drive hp hexe)
    | false =>
        obtain ⟨hsoll, _, hab⟩ := hc.halt hp hsp
        rw [RelayCtl.blocking_rest hb hsp, if_neg]
        rintro ⟨_, hne⟩
        -- a shutter that stops while going down is still blocked
        cases hd : c.dir with
        | auf => exact hne (hd.trans hsoll.symm)
        | ab =>
            have := (hab hd).1
            omega
  · rw [RelayCtl.blocking_busy hb, if_neg]
    rintro ⟨hexe, hne⟩
    exact hne (hc.drive hp hexe)

/-- An order to stop is carried out in the tick it is found. -/
theorem PowerSafe.relays_halt {c : RelayCtl} (hc : PowerSafe c) (hsp : c.sollPower = false) :
    c.relays.power = false := by
  rw [RelayCtl.relays_power, c.blocking_sollPower, c.blocking_power, hsp]
  cases hp : c.power with
  | false => simp
  | true => simp [RelayCtl.blocking_exePower (hc.halt hp hsp).2.1]

theorem PowerSafe.relays {c : RelayCtl} (hc : PowerSafe c) : PowerSafe c.relays := by
  constructor
  · intro _ hexe
    exact RelayCtl.relays_exeDir hexe
  · intro hp hsp
    rw [RelayCtl.relays_sollPower] at hsp
    rw [hc.relays_halt hsp] at hp
    cases hp

/-! ## Not too early -/

/-- At least `n` ticks lie behind `since`; the ticks the blocking timer still
waits for count. -/
def Quiet (c : RelayCtl) (since : Option Nat) (tick n : Nat) : Prop :=
  ∀ t, since = some t → t + n ≤ tick + c.blockingTimer

/-- How long the power has been off, for every state with the power off from
which the direction relay can go back up. -/
structure DelaySafe (c : RelayCtl) (lastOn : Option Nat) (tick : Nat) : Prop where
  release : c.dir = .ab → c.sollDir = .auf → c.sollPower = false →
    c.exeDir = false ∧ Quiet c lastOn tick 4
  driveUp : c.dir = .ab → c.sollDir = .auf → c.sollPower = true →
    c.blockingTimer = 0 ∧ Quiet c lastOn tick 3 ∧ (c.exeDir = true → Quiet c lastOn tick 4)
  presetDown : c.dir = .ab → c.sollDir = .ab → c.sollPower = false →
    c.blockingTimer = 0 ∧ Quiet c lastOn tick 3 ∧ (c.exeDir = true → Quiet c lastOn tick 4)
  driveDown : c.dir = .ab → c.sollDir = .ab → c.sollPower = true →
    Quiet c lastOn tick 3 ∧ (c.exeDir = true → Quiet c lastOn tick 4)
  presetTop : c.dir = .auf → c.sollDir = .ab → c.sollPower = false →
    c.blockingTimer = 0 ∧ Quiet c lastOn tick 2
  driveTop : c.dir = .auf → c.sollDir = .ab → c.sollPower = true →
    c.blockingTimer = 0 ∨ (c.blockingTimer = 5 ∧ c.exeDir = true)

section

variable {c : RelayCtl} {lastOn : Option Nat} {tick : Nat}

theorem Quiet.congr {c' : RelayCtl} {tick' n n' : Nat} (h : Quiet c lastOn tick n)
    (hle : tick + c.blockingTimer + n' ≤ tick' + c'.blockingTimer + n) :
    Quiet c' lastOn tick' n' := by
  intro t ht
  have := h t ht
  omega

/-- A shutter that is down and waits for nothing has been off for 3 ticks. -/
theorem DelaySafe.down_quiet (h : DelaySafe c lastOn tick) (hdir : c.dir = .ab) :
    Quiet c lastOn tick 3 ∧ (c.exeDir = true → Quiet c lastOn tick 4) := by
  cases hsoll : c.sollDir with
  | auf =>
      cases hsp : c.sollPower with
      | false =>
          obtain ⟨_, hquiet⟩ := h.release hdir hsoll hsp
          exact ⟨hquiet.congr (by omega), fun _ => hquiet⟩
      | true => exact (h.driveUp hdir hsoll hsp).2
  | ab =>
      cases hsp : c.sollPower with
      | false => exact (h.presetDown hdir hsoll hsp).2
      | true => exact h.driveDown hdir hsoll hsp

/-- With the direction relay up and its target up there is nothing to wait for. -/
theorem DelaySafe.of_top (hdir : c.dir = .auf) (hsoll : c.sollDir = .auf) :
    DelaySafe c lastOn tick := by
  constructor <;> simp [hdir, hsoll]

theorem DelaySafe.stop (hpast : ∀ t, lastOn = some t → t ≤ tick) :
    DelaySafe c.stop lastOn tick := by
  cases hdir : c.dir with
  | auf => exact .of_top (c.stop_dir.trans hdir) (by simp [RelayCtl.stop, hdir])
  | ab =>
      have hstop : c.stop =
          { c with sollPower := false, exePower := true, sollDir := .auf, blockingTimer := 5,
                   exeDir := false } := by
        simp [RelayCtl.stop, hdir]
      rw [hstop]
      constructor
      case release =>
        intro _ _ _
        refine ⟨rfl, fun t ht => ?_⟩
        have := hpast t ht
        show t + 4 ≤ tick + 5
        omega
      all_goals simp

theorem DelaySafe.drive_down (hpast : ∀ t, lastOn = some t → t ≤ tick) :
    DelaySafe (c.drive .ab) lastOn tick := by
  have hquiet : Quiet (c.drive .ab) lastOn tick 4 := by
    intro t ht
    have := hpast t ht
    show t + 4 ≤ tick + 5
    omega
  constructor
  case driveDown =>
    intro _ _ _
    exact ⟨hquiet.congr (by omega), fun _ => hquiet⟩
  case driveTop =>
    intro _ _ _
    exact .inr ⟨rfl, rfl⟩
  all_goals simp [RelayCtl.drive]

theorem DelaySafe.drive_up (h : DelaySafe c lastOn tick) (hfree : c.blockingTimer = 0) :
    DelaySafe (c.drive .auf) lastOn tick := by
  constructor
  case driveUp =>
    intro hdir _ _
    exact ⟨hfree, h.down_quiet hdir⟩
  all_goals simp [RelayCtl.drive]

/-- A button that hits the value -1: from above, the power has to be off for 2
ticks, unless there is an order to drive anyway. -/
theorem DelaySafe.preset (h : DelaySafe c lastOn tick) (hfree : c.blockingTimer = 0)
    (hwait : c.sollPower = false → Quiet c lastOn tick 2) :
    DelaySafe c.preset lastOn tick := by
  constructor
  case presetDown =>
    intro hdir _ _
    exact ⟨hfree, h.down_quiet hdir⟩
  case driveDown =>
    intro hdir _ _
    exact h.down_quiet hdir
  case presetTop =>
    intro _ _ hsp
    exact ⟨hfree, hwait hsp⟩
  case driveTop =>
    intro _ _ _
    exact .inl hfree
  all_goals simp [RelayCtl.preset]

end

/-! ### One tick with the power off -/

section

variable {c : RelayCtl} {lastOn : Option Nat} {tick : Nat}

/-- A tick without order and block. -/
theorem DelaySafe.rest (h : DelaySafe c lastOn tick) (hsp : c.sollPower = false)
    (hfree : c.blockingTimer = 0) :
    DelaySafe { c with exeDir := true }.executeDir lastOn (tick + 1) := by
  have hcount : ∀ {n : Nat} {c' : RelayCtl}, Quiet c lastOn tick n →
      Quiet c' lastOn (tick + 1) (n + 1) := by
    intro n c' hquiet
    exact hquiet.congr (by omega)
  rcases c.dir.auf_or_ab with hdir | hdir
  · rcases c.sollDir.auf_or_ab with hsoll | hsoll
    · rw [RelayCtl.executeDir_there (by rw [hdir, hsoll])]
      exact .of_top hdir hsoll
    · -- the direction relay goes down
      rw [RelayCtl.executeDir_move rfl (by simp [hdir, hsoll])]
      obtain ⟨_, hquiet⟩ := h.presetTop hdir hsoll hsp
      constructor
      case presetDown =>
        intro _ _ _
        exact ⟨hfree, hcount hquiet, fun hexe => by cases hexe⟩
      all_goals simp [hsoll, hsp]
  · rcases c.sollDir.auf_or_ab with hsoll | hsoll
    · -- the direction relay goes back up
      rw [RelayCtl.executeDir_move rfl (by simp [hdir, hsoll])]
      exact .of_top hsoll hsoll
    · rw [RelayCtl.executeDir_there (by rw [hdir, hsoll])]
      obtain ⟨_, hquiet, _⟩ := h.presetDown hdir hsoll hsp
      constructor
      case presetDown =>
        intro _ _ _
        exact ⟨hfree, hquiet.congr (by omega), fun _ => hcount hquiet⟩
      all_goals simp [hdir, hsoll, hsp]

/-- A tick of the blocking timer. -/
theorem DelaySafe.blocked (h : DelaySafe c lastOn tick)
    (hpast : ∀ t, lastOn = some t → t ≤ tick + 1) (hbusy : c.blockingTimer ≠ 0) :
    DelaySafe { c with blockingTimer := c.blockingTimer - 1 }.executeDir lastOn (tick + 1) := by
  have hcount : ∀ {n : Nat}, Quiet c lastOn tick n →
      Quiet { c with blockingTimer := c.blockingTimer - 1 } lastOn (tick + 1) n := by
    intro n hquiet
    exact hquiet.congr (by show _ ≤ tick + 1 + (c.blockingTimer - 1) + n; omega)
  rcases c.dir.auf_or_ab with hdir | hdir
  · rcases c.sollDir.auf_or_ab with hsoll | hsoll
    · rw [RelayCtl.executeDir_there (by rw [hdir, hsoll])]
      exact .of_top hdir hsoll
    · by_cases hsp : c.sollPower = true
      · -- the direction relay goes down at the start of the block
        rcases h.driveTop hdir hsoll hsp with hfree | ⟨hfive, hexe⟩
        · exact absurd hfree hbusy
        · rw [RelayCtl.executeDir_move (by exact hexe) (by simp [hdir, hsoll])]
          constructor
          case driveDown =>
            intro _ _ _
            refine ⟨fun t ht => ?_, fun hexe => by cases hexe⟩
            have := hpast t ht
            show t + 3 ≤ tick + 1 + (c.blockingTimer - 1)
            omega
          all_goals simp [hsoll, hsp]
      · rw [Bool.not_eq_true] at hsp
        exact absurd (h.presetTop hdir hsoll hsp).1 hbusy
  · rcases c.sollDir.auf_or_ab with hsoll | hsoll
    · by_cases hsp : c.sollPower = true
      · exact absurd (h.driveUp hdir hsoll hsp).1 hbusy
      · rw [Bool.not_eq_true] at hsp
        obtain ⟨hexe, hquiet⟩ := h.release hdir hsoll hsp
        rw [RelayCtl.executeDir_waits (by exact hexe)]
        constructor
        case release =>
          intro _ _ _
          exact ⟨hexe, hcount hquiet⟩
        all_goals simp [hdir, hsoll, hsp]
    · rw [RelayCtl.executeDir_there (by rw [hdir, hsoll])]
      by_cases hsp : c.sollPower = true
      · obtain ⟨hquiet, hexe⟩ := h.driveDown hdir hsoll hsp
        constructor
        case driveDown =>
          intro _ _ _
          exact ⟨hcount hquiet, fun he => hcount (hexe he)⟩
        all_goals simp [hdir, hsoll, hsp]
      · rw [Bool.not_eq_true] at hsp
        exact absurd (h.presetDown hdir hsoll hsp).1 hbusy

theorem DelaySafe.executePower (h : DelaySafe c lastOn tick) :
    DelaySafe c.executePower lastOn tick := by
  unfold RelayCtl.executePower
  split
  · exact ⟨h.release, h.driveUp, h.presetDown, h.driveDown, h.presetTop, h.driveTop⟩
  · exact h

/-- **A tick that ends with the power off keeps the delays.** -/
theorem DelaySafe.relays (h : DelaySafe c lastOn tick)
    (hpast : ∀ t, lastOn = some t → t ≤ tick + 1) (hoff : c.relays.power = false) :
    DelaySafe c.relays lastOn (tick + 1) := by
  apply DelaySafe.executePower
  by_cases hfree : c.blockingTimer = 0
  · cases hsp : c.sollPower with
    | true =>
        rw [RelayCtl.relays_on hsp hfree] at hoff
        cases hoff
    | false =>
        rw [RelayCtl.blocking_rest hfree hsp]
        exact h.rest hsp hfree
  · rw [RelayCtl.blocking_busy hfree]
    exact h.blocked hpast hfree

/-- The tick in which the power goes off starts with the full delay. -/
theorem DelaySafe.of_halt (hc : PowerSafe c) (hp : c.power = true) (hsp : c.sollPower = false) :
    DelaySafe c (some (tick + 1)) tick := by
  obtain ⟨hsoll, _, hab⟩ := hc.halt hp hsp
  rcases c.dir.auf_or_ab with hdir | hdir
  · exact .of_top hdir hsoll
  · obtain ⟨hfive, hexe⟩ := hab hdir
    constructor
    case release =>
      intro _ _ _
      refine ⟨hexe, fun t ht => ?_⟩
      cases ht
      omega
    all_goals simp [hdir, hsoll, hsp]

/-- **The direction relay goes back up late enough.** -/
theorem DelaySafe.leaves_down (h : DelaySafe c lastOn tick) (hdir : c.dir = .ab)
    (hmove : c.relays.dir ≠ c.dir) : ∀ t, lastOn = some t → t + 5 ≤ tick + 1 := by
  have hquiet : Quiet c lastOn tick 4 ∧ c.blockingTimer = 0 := by
    rw [RelayCtl.relays_dir] at hmove
    split at hmove
    · rename_i hgo
      have hsoll : c.sollDir = .auf := by
        cases hs : c.sollDir with
        | auf => rfl
        | ab => exact absurd (by rw [c.blocking_dir, c.blocking_sollDir, hdir, hs]) hgo.2
      cases hsp : c.sollPower with
      | false =>
          obtain ⟨hexe, hquiet⟩ := h.release hdir hsoll hsp
          refine ⟨hquiet, ?_⟩
          by_contra hbusy
          rw [RelayCtl.blocking_busy hbusy] at hgo
          exact absurd (hexe.symm.trans hgo.1) (by simp)
      | true =>
          obtain ⟨hfree, _, hexe⟩ := h.driveUp hdir hsoll hsp
          rw [RelayCtl.blocking_drive hfree hsp] at hgo
          exact ⟨hexe hgo.1, hfree⟩
    · exact absurd rfl hmove
  intro t ht
  have := hquiet.1 t ht
  omega

end

/-! ## Runs -/

/-- The direction output gets no new value while the power output is on. -/
def NeverUnderLoad (s : Plant) : Prop :=
  ∀ w ∈ s.writes, w.relay = .dir → w.value ≠ w.old → w.power = false

/-- The direction output goes from down to up 5 ticks after the last tick with
the power output on, or later. -/
def LateEnough (s : Plant) : Prop :=
  ∀ w ∈ s.writes, w.relay = .dir → w.old = Dir.ab.pin → w.value = Dir.auf.pin →
    ∀ t, w.lastOn = some t → t + 5 ≤ w.tick

/-- A button that hits the value -1 does so with the power off for 2 ticks, or
with an order to drive already given. -/
def SentinelWaits (s : Plant) (e : RolladenEvent) : Prop :=
  ∀ f, e = .frame f → HitsSentinel s.dev f → s.dev.sollPower = false →
    ∀ t, s.lastOn = some t → t + 2 ≤ s.tick

/-- What every run keeps. -/
structure LoadInv (s : Plant) : Prop where
  synced : Synced s
  past : ∀ t, s.lastOn = some t → t ≤ s.tick
  load : PowerSafe s.dev.ctl
  never : NeverUnderLoad s

/-- What the runs keep in which the buttons wait. -/
structure InterlockInv (s : Plant) : Prop extends LoadInv s where
  delay : s.dev.power = false → DelaySafe s.dev.ctl s.lastOn s.tick
  late : LateEnough s

section

variable {selfaddr : UInt16} {s s' : Plant} {c : RelayCtl}

theorem TickOf.powerSafe (h : TickOf s s' c) (hs : PowerSafe s.dev.ctl) : PowerSafe c := by
  rcases h.order with rfl | ⟨_, _, rfl⟩
  · exact hs
  · exact .stop _

theorem LoadInv.frame (h : LoadInv s) (f : CanixFrame) :
    LoadInv (rolladenStep selfaddr s (.frame f)) where
  synced := h.synced.frame f
  past := h.past
  load := h.load.frame (canCallback_action s.dev selfaddr f)
  never := h.never

theorem LoadInv.tick (h : LoadInv s) (ht : TickOf s s' c) : LoadInv s' where
  synced := ht.synced
  past := by
    intro t hon
    rw [ht.lastOn] at hon
    rw [ht.tick]
    split at hon
    · cases hon
      exact Nat.le_refl _
    · have := h.past t hon
      omega
  load := by
    rw [ht.ctl]
    exact (ht.powerSafe h.load).relays
  never := by
    intro w hw hrelay hne
    rcases ht.writes w hw with hold | hpower | ⟨hmove, rfl⟩
    · exact h.never w hold hrelay hne
    · rw [hpower] at hrelay
      cases hrelay
    · cases hp : c.power with
      | false => rfl
      | true => exact absurd ((ht.powerSafe h.load).relays_dir hp) hmove

theorem LoadInv.step (s : Plant) (e : RolladenEvent) (h : LoadInv s) :
    LoadInv (rolladenStep selfaddr s e) := by
  cases e with
  | frame f => exact h.frame f
  | tick =>
      obtain ⟨c, ht⟩ := rolladenStep_tick selfaddr h.synced
      exact h.tick ht

theorem InterlockInv.frame (h : InterlockInv s) {f : CanixFrame}
    (hwait : SentinelWaits s (.frame f)) : InterlockInv (rolladenStep selfaddr s (.frame f)) where
  toLoadInv := h.toLoadInv.frame f
  late := h.late
  delay := by
    have ha := canCallback_action s.dev selfaddr f
    intro hoff
    have hdelay := h.delay (ha.power.symm.trans hoff)
    show DelaySafe (rolladenCanCallback selfaddr s.dev f).1.ctl s.lastOn s.tick
    generalize (rolladenCanCallback selfaddr s.dev f).1.ctl = c at ha
    cases ha with
    | keep => exact hdelay
    | stop => exact .stop h.past
    | down => exact .drive_down h.past
    | up hup => exact hdelay.drive_up hup.1.free
    | preset hhit =>
        refine hdelay.preset hhit.1.free ?_
        intro hsp t hon
        have := hwait f rfl hhit hsp t hon
        show t + 2 ≤ s.tick + s.dev.blockingTimer
        omega

/-- A tick that ends with the power off starts with the delays in order. -/
theorem InterlockInv.tick_delay (h : InterlockInv s) (ht : TickOf s s' c)
    (hoff : c.relays.power = false) : DelaySafe c s'.lastOn s.tick := by
  cases hp : c.power with
  | true =>
      have hsp : c.sollPower = false := by
        rw [RelayCtl.relays_power, c.blocking_sollPower] at hoff
        split at hoff
        · exact hoff
        · rw [hp] at hoff
          cases hoff
      rw [ht.lastOn, hp]
      exact .of_halt (ht.powerSafe h.load) hp hsp
  | false =>
      have hctl : c = s.dev.ctl := by
        rcases ht.order with heq | ⟨hon, _, _⟩
        · exact heq
        · rw [← ht.power, hp] at hon
          cases hon
      rw [ht.lastOn, hp, hoff, hctl]
      exact h.delay (ht.power.symm.trans hp)

theorem InterlockInv.tick (h : InterlockInv s) (ht : TickOf s s' c) : InterlockInv s' where
  toLoadInv := h.toLoadInv.tick ht
  delay := by
    intro hdev
    have hoff : c.relays.power = false := by
      rw [← ht.ctl]
      exact hdev
    have hpast : ∀ t, s'.lastOn = some t → t ≤ s.tick + 1 := by
      rw [← ht.tick]
      exact (h.toLoadInv.tick ht).past
    rw [ht.ctl, ht.tick]
    exact (h.tick_delay ht hoff).relays hpast hoff
  late := by
    intro w hw hrelay hold hnew t hon
    rcases ht.writes w hw with hlog | hpower | ⟨hmove, rfl⟩
    · exact h.late w hlog hrelay hold hnew t hon
    · rw [hpower] at hrelay
      cases hrelay
    · have hp : c.power = false := by
        cases hp : c.power with
        | false => rfl
        | true => exact absurd ((ht.powerSafe h.load).relays_dir hp) hmove
      have hdir : c.dir = .ab := Dir.pin_injective.mp hold
      have hctl : c = s.dev.ctl := by
        rcases ht.order with heq | ⟨hload, _, _⟩
        · exact heq
        · rw [← ht.power, hp] at hload
          cases hload
      have hdelay := h.delay (ht.power.symm.trans hp)
      rw [← hctl] at hdelay
      refine hdelay.leaves_down hdir hmove t ?_
      simpa [hp] using hon

theorem InterlockInv.step (s : Plant) (e : RolladenEvent) (hwait : SentinelWaits s e)
    (h : InterlockInv s) : InterlockInv (rolladenStep selfaddr s e) := by
  cases e with
  | frame f => exact h.frame hwait
  | tick =>
      obtain ⟨c, ht⟩ := rolladenStep_tick selfaddr h.synced
      exact h.tick ht

end

theorem loadInv_start (q : DeviceDataRolladen) : LoadInv (Plant.start q) where
  synced := synced_start q
  past := by
    intro t ht
    cases ht
  load := .of_off rfl
  never := by
    intro w hw
    cases hw

theorem interlockInv_start (q : DeviceDataRolladen) : InterlockInv (Plant.start q) where
  toLoadInv := loadInv_start q
  delay := by
    intro _
    exact .of_top rfl rfl
  late := by
    intro w hw
    cases hw

/-- **In every run, whatever the frames, the direction relay never switches
under load.** -/
theorem neverUnderLoad (selfaddr : UInt16) (q : DeviceDataRolladen) (es : List RolladenEvent) :
    NeverUnderLoad (run (rolladenStep selfaddr) (Plant.start q) es) :=
  (run_invariant LoadInv.step es _ (loadInv_start q)).never

/-- **The relay interlock**: in every run whose buttons wait, the direction
relay never switches under load and never goes back up too early. -/
theorem relay_interlock (selfaddr : UInt16) (q : DeviceDataRolladen) (es : List RolladenEvent)
    (hwait : Guarded (rolladenStep selfaddr) SentinelWaits (Plant.start q) es) :
    NeverUnderLoad (run (rolladenStep selfaddr) (Plant.start q) es) ∧
      LateEnough (run (rolladenStep selfaddr) (Plant.start q) es) := by
  have hinv := run_guarded InterlockInv.step es _ hwait (interlockInv_start q)
  exact ⟨neverUnderLoad selfaddr q es, hinv.late⟩

/-! ### A short shutter -/

section Example

/-- A shutter on button 1 whose run time is two ticks; it calibrates below. -/
private def kurzerRolladen : DeviceDataRolladen where
  config :=
    { portPower := 0, portDir := 1, taster := 1, feature := 0, laufzeit := 2, maxRekalib := 0
      gruppe0 := 255, gruppe1 := 255, gruppe2 := 255, gruppe3 := 255, mute := 255 }
  mute := false
  kalibrieren := false
  summeLaufzeit := 0
  laufzeit := 0
  sollLaufzeit := 0
  stoppuhr := 0
  dir := .auf
  sollDir := .auf
  exeDir := false
  lastDir := .auf
  sollPower := false
  power := false
  exePower := false
  blockingTimer := 0
  changeDirCounter := 0
  longPressedCounter := 0

private def auftrag (cmd : UInt8) (order : UInt8) : RolladenEvent :=
  .frame ⟨2, hcanMulticastInfo, hcanProtoSfp, 4, payload [hcanSrvHes, cmd, 1, order]⟩

/-- Up to the upper end: the shutter stops in the third tick. -/
private def ganzAuf : List RolladenEvent :=
  [auftrag hcanHesRolladenPositionSet 201, .tick, .tick, .tick]

private theorem sentinelWaits_tick (s : Plant) : SentinelWaits s .tick := by
  intro f hf
  cases hf

/-- The button hits the value -1 two ticks after the stop. -/
theorem relay_interlock_kurz :
    NeverUnderLoad (run (rolladenStep 1) (Plant.start kurzerRolladen)
        (ganzAuf ++ [.tick, .tick, auftrag hcanHesTasterDown 0, .tick])) ∧
      LateEnough (run (rolladenStep 1) (Plant.start kurzerRolladen)
        (ganzAuf ++ [.tick, .tick, auftrag hcanHesTasterDown 0, .tick])) := by
  refine relay_interlock 1 kurzerRolladen _ ⟨?_, sentinelWaits_tick _, sentinelWaits_tick _,
    sentinelWaits_tick _, sentinelWaits_tick _, sentinelWaits_tick _, ?_, sentinelWaits_tick _,
    trivial⟩
  · intro f _ _ _ t ht
    cases ht
  · intro f _ _ _ t ht
    have hlast : (run (rolladenStep 1) (Plant.start kurzerRolladen)
        (ganzAuf ++ [.tick, .tick])).lastOn = some 3 := by decide
    have htick : (run (rolladenStep 1) (Plant.start kurzerRolladen)
        (ganzAuf ++ [.tick, .tick])).tick = 5 := by decide
    cases hlast.symm.trans ht
    exact Nat.le_of_eq htick.symm

/-- **Too early**: a button right after the stop sets the direction down
without a drive; the next order up takes the direction relay back up in the
third tick after the power went off. -/
theorem relay_too_early :
    ¬ ∀ (selfaddr : UInt16) (q : DeviceDataRolladen) (es : List RolladenEvent),
      1 ≤ q.config.laufzeit →
        NeverUnderLoad (run (rolladenStep selfaddr) (Plant.start q) es) ∧
          LateEnough (run (rolladenStep selfaddr) (Plant.start q) es) := by
  intro hall
  have hlate := (hall 1 kurzerRolladen
    (ganzAuf ++ [auftrag hcanHesTasterDown 0, .tick, .tick,
      auftrag hcanHesRolladenDefinePosition 49, auftrag hcanHesRolladenPositionSet 201, .tick])
    (by decide)).2
  have hlog : (⟨.dir, 6, true, false, false, some 3⟩ : RelayWrite) ∈
      (run (rolladenStep 1) (Plant.start kurzerRolladen)
        (ganzAuf ++ [auftrag hcanHesTasterDown 0, .tick, .tick,
          auftrag hcanHesRolladenDefinePosition 49, auftrag hcanHesRolladenPositionSet 201,
          .tick])).writes := by decide
  have hgap : 3 + 5 ≤ 6 := hlate _ hlog rfl rfl rfl 3 rfl
  omega

end Example

end OpenHcan.Rolladen
