import OpenHcan.Devices.Rolladen
import OpenHcan.Lib.Machine

/-!
# RolladenPosition — a shutter's position, saved and restored

Before a firmware upgrade the position of a shutter is asked for
(`ROLLADEN_POSITION_REQUEST`), and afterwards it is written back
(`ROLLADEN_DEFINE_POSITION`). Both directions divide: the request rounds the
percentage down and adds one, the definition adds one and rounds the run time
down. The two do not cancel: only the two ends come back as they were saved.
-/

namespace OpenHcan.Rolladen

open OpenHcan.Lib

/-! ## The reported position -/

section

variable {p : DeviceDataRolladen}

theorem EdsRolladenBlock.zeit_nonneg (c : EdsRolladenBlock) : 0 ≤ c.zeit :=
  Int.natCast_nonneg _

/-- Below one percent the position is 0. -/
theorem getPosition_low (hlow : 100 * p.laufzeit < p.config.zeit) :
    rolladenGetPosition p = 0 := by
  have hpos : (100 * p.laufzeit).tdiv p.config.zeit ≤ 0 := by
    rcases Int.lt_or_le (100 * p.laufzeit) 0 with hneg | hnonneg
    · have hflip := Int.tdiv_nonneg (a := -(100 * p.laufzeit)) (by omega) p.config.zeit_nonneg
      rw [Int.neg_tdiv] at hflip
      omega
    · exact Int.le_of_eq (Int.tdiv_eq_zero_of_lt hnonneg hlow)
  unfold rolladenGetPosition
  dsimp only
  rw [if_pos (by omega : (100 * p.laufzeit).tdiv p.config.zeit + 1 < 2)]
  rfl

/-- From 98 percent on the position is 100. -/
theorem getPosition_high (hzeit : 0 < p.config.zeit)
    (hhigh : 98 * p.config.zeit ≤ 100 * p.laufzeit) : rolladenGetPosition p = 100 := by
  have hpos : 98 ≤ (100 * p.laufzeit).tdiv p.config.zeit := by
    rw [Int.tdiv_eq_ediv_of_nonneg (by omega)]
    exact (Int.le_ediv_iff_mul_le hzeit).mpr hhigh
  unfold rolladenGetPosition
  dsimp only
  rw [if_neg (by omega : ¬ (100 * p.laufzeit).tdiv p.config.zeit + 1 < 2), if_pos (by omega)]
  rfl

/-- In between the position is one more than the whole percents. -/
theorem getPosition_between {n : Nat} (hlow : n * p.config.zeit ≤ 100 * p.laufzeit)
    (hhigh : 100 * p.laufzeit < (n + 1) * p.config.zeit) (h1 : 1 ≤ n) (h97 : n ≤ 97) :
    rolladenGetPosition p = UInt8.ofNat (n + 1) := by
  have hzeit := p.config.zeit_nonneg
  have hpos : 0 < p.config.zeit := by
    by_contra hzero
    have heq : p.config.zeit = 0 := by omega
    rw [heq] at hlow hhigh
    omega
  have hdiv : (100 * p.laufzeit).tdiv p.config.zeit = n := by
    have hnonneg : 0 ≤ 100 * p.laufzeit := Int.le_trans (Int.mul_nonneg (by omega) hzeit) hlow
    rw [Int.tdiv_eq_ediv_of_nonneg hnonneg]
    have hge := (Int.le_ediv_iff_mul_le hpos).mpr hlow
    have hlt := (Int.ediv_lt_iff_lt_mul hpos).mpr hhigh
    omega
  unfold rolladenGetPosition
  dsimp only
  rw [hdiv, if_neg (by omega), if_neg (by omega)]
  rfl

/-- Every position is one of the three kinds. -/
theorem position_cases (hzeit : 0 < p.config.zeit) :
    100 * p.laufzeit < p.config.zeit ∨ 98 * p.config.zeit ≤ 100 * p.laufzeit ∨
      ∃ n : Nat, 1 ≤ n ∧ n ≤ 97 ∧ n * p.config.zeit ≤ 100 * p.laufzeit ∧
        100 * p.laufzeit < (n + 1) * p.config.zeit := by
  by_cases hlow : 100 * p.laufzeit < p.config.zeit
  · exact .inl hlow
  by_cases hhigh : 98 * p.config.zeit ≤ 100 * p.laufzeit
  · exact .inr (.inl hhigh)
  have h1 : 1 ≤ 100 * p.laufzeit / p.config.zeit :=
    (Int.le_ediv_iff_mul_le hzeit).mpr (by omega)
  have h98 : 100 * p.laufzeit / p.config.zeit < 98 :=
    (Int.ediv_lt_iff_lt_mul hzeit).mpr (by omega)
  have hn : ((100 * p.laufzeit / p.config.zeit).toNat : Int) = 100 * p.laufzeit / p.config.zeit :=
    Int.toNat_of_nonneg (by omega)
  refine .inr (.inr ⟨(100 * p.laufzeit / p.config.zeit).toNat, by omega, by omega, ?_, ?_⟩)
  · rw [hn]
    exact Int.ediv_mul_le _ (by omega)
  · rw [hn]
    exact Int.lt_ediv_add_one_mul_self _ hzeit

theorem getPosition_le (hzeit : 0 < p.config.zeit) : (rolladenGetPosition p).toNat ≤ 100 := by
  rcases position_cases hzeit with hlow | hhigh | ⟨n, h1, h97, hlow, hhigh⟩
  · rw [getPosition_low hlow]
    decide
  · rw [getPosition_high hzeit hhigh]
    decide
  · rw [getPosition_between hlow hhigh h1 h97, UInt8.toNat_ofNat']
    omega

/-- `n` whole percents are reported as `n + 1` or more. -/
theorem lt_getPosition {n : Nat} (hzeit : 0 < p.config.zeit)
    (hn : n * p.config.zeit ≤ 100 * p.laufzeit) (h1 : 1 ≤ n) (h99 : n ≤ 99) :
    n < (rolladenGetPosition p).toNat := by
  rcases position_cases hzeit with hlow | hhigh | ⟨k, hk1, hk97, hlow, hhigh⟩
  · have hone : 1 * p.config.zeit ≤ n * p.config.zeit :=
      Int.mul_le_mul_of_nonneg_right (by omega) (by omega)
    omega
  · rw [getPosition_high hzeit hhigh]
    exact Nat.lt_succ_of_le h99
  · have hlt : (n : Int) < k + 1 :=
      Int.lt_of_mul_lt_mul_right (Int.lt_of_le_of_lt hn hhigh) (Int.le_of_lt hzeit)
    rw [getPosition_between hlow hhigh hk1 hk97, UInt8.toNat_ofNat']
    omega

end

/-! ## One definition -/

section

variable {p : DeviceDataRolladen} {pos : UInt8}

@[simp] theorem definePosition_config : (definePosition p pos).config = p.config := rfl

/-- A defined position lies within one hundredth of the run time below
`(pos + 1)` percent. -/
theorem definePosition_laufzeit (hpos : pos.toNat ≤ 99) :
    100 * (definePosition p pos).laufzeit ≤ (pos.toNat + 1) * p.config.zeit ∧
      (pos.toNat + 1) * p.config.zeit < 100 * (definePosition p pos).laufzeit + 100 := by
  have hzeit := p.config.zeit_nonneg
  have hwhole : (pos.toNat + 1 : Int) * p.config.zeit ≤ 100 * p.config.zeit :=
    Int.mul_le_mul_of_nonneg_right (by omega) hzeit
  unfold definePosition
  dsimp only
  push_cast
  generalize (pos.toNat + 1 : Int) * p.config.zeit = part at hwhole ⊢
  rw [if_neg (by omega)]
  omega

/-- The upper end stays where it is. -/
theorem definePosition_hundred (hpos : pos.toNat = 100) :
    (definePosition p pos).laufzeit = p.config.zeit := by
  have hzeit := p.config.zeit_nonneg
  unfold definePosition
  dsimp only
  rw [hpos]
  push_cast
  generalize p.config.zeit = zeit at hzeit ⊢
  split
  · rfl
  · omega

/-- What a definition and a request after it bring back as it was: the upper end,
and the lower end of a run time that 100 does not divide. -/
def Restored (c : EdsRolladenBlock) (pos : UInt8) : Prop :=
  pos = 100 ∨ (pos = 0 ∧ ¬ 100 ∣ c.laufzeit.toNat)

theorem getPosition_definePosition (hzeit : 100 ≤ p.config.zeit) (h : Restored p.config pos) :
    rolladenGetPosition (definePosition p pos) = pos := by
  rcases h with rfl | ⟨rfl, hdvd⟩
  · have hend : (definePosition p 100).laufzeit = p.config.zeit := definePosition_hundred rfl
    apply getPosition_high
    · rw [definePosition_config]
      omega
    · rw [definePosition_config, hend]
      omega
  · have hle : 100 * (definePosition p 0).laufzeit ≤ ((0 : UInt8).toNat + 1) * p.config.zeit :=
      (definePosition_laufzeit (by decide)).1
    have hcast : ((0 : UInt8).toNat : Int) = 0 := rfl
    rw [hcast] at hle
    apply getPosition_low
    rw [definePosition_config]
    unfold EdsRolladenBlock.zeit at hle ⊢
    omega

/-- Everything else comes back higher. -/
theorem lt_getPosition_definePosition (hzeit : 100 ≤ p.config.zeit) (hpos : pos.toNat ≤ 100)
    (h : ¬ Restored p.config pos) :
    pos.toNat < (rolladenGetPosition (definePosition p pos)).toNat := by
  obtain ⟨hne, hdvd⟩ := not_or.mp h
  have h99 : pos.toNat ≤ 99 := by
    have : pos.toNat ≠ 100 := fun heq => hne (UInt8.toNat_inj.mp heq)
    omega
  obtain ⟨hle, hlt⟩ := definePosition_laufzeit (p := p) h99
  rw [Int.add_mul, Int.one_mul] at hle hlt
  by_cases hzero : pos = 0
  · subst hzero
    have hhundred : 100 ∣ p.config.laufzeit.toNat := by
      by_contra hnot
      exact hdvd ⟨rfl, hnot⟩
    have hcast : ((0 : UInt8).toNat : Int) = 0 := rfl
    rw [hcast, Int.zero_mul] at hle hlt
    refine Nat.lt_of_succ_lt (lt_getPosition (n := 1) ?_ ?_ (Nat.le_refl 1) (by decide))
    · rw [definePosition_config]
      omega
    · rw [definePosition_config]
      unfold EdsRolladenBlock.zeit at hle hlt ⊢
      omega
  · have h1 : 1 ≤ pos.toNat := by
      by_contra hnone
      exact hzero (UInt8.toNat_inj.mp (by rw [UInt8.toNat_zero]; omega))
    refine lt_getPosition ?_ ?_ h1 h99
    · rw [definePosition_config]
      omega
    · rw [definePosition_config]
      omega

end

/-! ## The frames -/

/-- `ROLLADEN_POSITION_REQUEST` -/
def positionRequest (src : UInt16) (group : UInt8) : CanixFrame where
  src := src
  dst := hcanMulticastControl
  proto := hcanProtoSfp
  size := 3
  data := payload [hcanSrvHes, hcanHesRolladenPositionRequest, group]

/-- `ROLLADEN_DEFINE_POSITION` -/
def positionDefine (src : UInt16) (group pos : UInt8) : CanixFrame where
  src := src
  dst := hcanMulticastControl
  proto := hcanProtoSfp
  size := 4
  data := payload [hcanSrvHes, hcanHesRolladenDefinePosition, group, pos]

/-- `ROLLADEN_POSITION_REPLAY` -/
def positionReplay (selfaddr src : UInt16) (group pos : UInt8) : CanixFrame where
  src := selfaddr
  dst := src
  proto := hcanProtoSfp
  size := 4
  data := payload [hcanSrvHes, hcanHesRolladenPositionReplay, group, pos]

section

variable {selfaddr src : UInt16} {p : DeviceDataRolladen} {group pos : UInt8}

theorem canCallback_positionRequest (hgroup : isGroupInRolladen p group = true) :
    (rolladenCanCallback selfaddr p (positionRequest src group)).2 =
      [positionReplay selfaddr src group (rolladenGetPosition p)] := by
  have hcmd : (positionRequest src group).byte 1 = hcanHesRolladenPositionRequest := rfl
  have hbyte : (positionRequest src group).byte 2 = group := rfl
  unfold rolladenCanCallback rolladenSwitch
  rw [hcmd, hbyte, hgroup]
  simp [hcanHesRolladenPositionRequest, hcanHesRolladenPositionSet, hcanHesTasterDown,
    hcanHesTasterUp, hcanHesRolladenDefinePosition, hcanHesDeviceStatesRequest, hcanHesMuteOff,
    hcanHesMuteOn]
  rfl

theorem canCallback_positionDefine (hgroup : isGroupInRolladen p group = true) :
    (rolladenCanCallback selfaddr p (positionDefine src group pos)).1 = definePosition p pos := by
  have hcmd : (positionDefine src group pos).byte 1 = hcanHesRolladenDefinePosition := rfl
  have hbyte : (positionDefine src group pos).byte 2 = group := rfl
  have hpos : (positionDefine src group pos).byte 3 = pos := rfl
  unfold rolladenCanCallback rolladenSwitch
  rw [hcmd, hbyte, hpos, hgroup]
  simp [hcanHesRolladenPositionSet, hcanHesTasterDown, hcanHesTasterUp,
    hcanHesRolladenDefinePosition, hcanHesMuteOff, hcanHesMuteOn]

end

/-! ## Upgrades -/

/-- A firmware upgrade: the position is asked for, the board is started again
or not, and what was answered is written back. -/
def upgrade (selfaddr src : UInt16) (group : UInt8) (p : DeviceDataRolladen) (reboot : Bool) :
    DeviceDataRolladen :=
  let answers := (rolladenCanCallback selfaddr p (positionRequest src group)).2
  answers.foldl
    (fun p answer => (rolladenCanCallback selfaddr p (positionDefine src group (answer.byte 3))).1)
    (if reboot then rolladenInit p else p)

section

variable {selfaddr src : UInt16} {group : UInt8} {p : DeviceDataRolladen}

theorem upgrade_eq (hgroup : isGroupInRolladen p group = true) (reboot : Bool) :
    upgrade selfaddr src group p reboot =
      definePosition (if reboot then rolladenInit p else p) (rolladenGetPosition p) := by
  have hpos : (positionReplay selfaddr src group (rolladenGetPosition p)).byte 3 =
      rolladenGetPosition p := rfl
  unfold upgrade
  dsimp only
  rw [canCallback_positionRequest hgroup, List.foldl_cons, List.foldl_nil, hpos]
  apply canCallback_positionDefine
  cases reboot with
  | true => exact hgroup
  | false => exact hgroup

theorem upgrade_config (hgroup : isGroupInRolladen p group = true) (reboot : Bool) :
    (upgrade selfaddr src group p reboot).config = p.config := by
  rw [upgrade_eq hgroup, definePosition_config]
  cases reboot with
  | true => rfl
  | false => rfl

/-- The shutter at an end that is restored, or below or above it. -/
def AtRestoredEnd (p : DeviceDataRolladen) : Prop :=
  98 * p.config.zeit ≤ 100 * p.laufzeit ∨
    (100 * p.laufzeit < p.config.zeit ∧ ¬ 100 ∣ p.config.laufzeit.toNat)

theorem atRestoredEnd_iff (hzeit : 0 < p.config.zeit) :
    AtRestoredEnd p ↔ Restored p.config (rolladenGetPosition p) := by
  unfold AtRestoredEnd Restored
  rcases position_cases hzeit with hlow | hhigh | ⟨n, h1, h97, hlow, hhigh⟩
  · have hnot : ¬ 98 * p.config.zeit ≤ 100 * p.laufzeit := by omega
    have hzero : (0 : UInt8) ≠ 100 := by decide
    rw [getPosition_low hlow]
    simp [hlow, hnot, hzero]
  · rw [getPosition_high hzeit hhigh]
    exact iff_of_true (.inl hhigh) (.inl rfl)
  · -- neither the code nor the bounds take it for an end
    have hn : (rolladenGetPosition p).toNat = n + 1 := by
      rw [getPosition_between hlow hhigh h1 h97, UInt8.toNat_ofNat']
      omega
    have hlow1 : 1 * p.config.zeit ≤ n * p.config.zeit :=
      Int.mul_le_mul_of_nonneg_right (by omega) (by omega)
    have hhigh98 : (n + 1 : Int) * p.config.zeit ≤ 98 * p.config.zeit :=
      Int.mul_le_mul_of_nonneg_right (by omega) (by omega)
    refine iff_of_false (fun hend => ?_) fun hrest => ?_
    · rcases hend with hend | ⟨hend, -⟩
      · omega
      · omega
    · rcases hrest with heq | ⟨heq, -⟩
      · have hcast : (100 : UInt8).toNat = 100 := rfl
        rw [heq, hcast] at hn
        omega
      · rw [heq, UInt8.toNat_zero] at hn
        omega

theorem getPosition_upgrade (hzeit : 100 ≤ p.config.zeit)
    (hgroup : isGroupInRolladen p group = true) (reboot : Bool) :
    (Restored p.config (rolladenGetPosition p) →
        rolladenGetPosition (upgrade selfaddr src group p reboot) = rolladenGetPosition p) ∧
      (¬ Restored p.config (rolladenGetPosition p) →
        (rolladenGetPosition p).toNat <
          (rolladenGetPosition (upgrade selfaddr src group p reboot)).toNat) := by
  have hle := getPosition_le (p := p) (by omega)
  rw [upgrade_eq hgroup]
  have hconfig : (if reboot then rolladenInit p else p).config = p.config := by
    cases reboot with
    | true => rfl
    | false => rfl
  rw [← hconfig]
  rw [← hconfig] at hzeit
  exact ⟨getPosition_definePosition hzeit, lt_getPosition_definePosition hzeit hle⟩

/-- Upgrades leave a restored position where it is. -/
theorem getPosition_upgrades (hzeit : 100 ≤ p.config.zeit)
    (hgroup : isGroupInRolladen p group = true)
    (h : Restored p.config (rolladenGetPosition p)) (reboots : List Bool) :
    rolladenGetPosition (run (upgrade selfaddr src group) p reboots) = rolladenGetPosition p := by
  have hkeep : ∀ (q : DeviceDataRolladen) (reboot : Bool),
      q.config = p.config ∧ rolladenGetPosition q = rolladenGetPosition p →
        (upgrade selfaddr src group q reboot).config = p.config ∧
          rolladenGetPosition (upgrade selfaddr src group q reboot) = rolladenGetPosition p := by
    rintro q reboot ⟨hconfig, hpos⟩
    have hgroup' : isGroupInRolladen q group = true := by
      unfold isGroupInRolladen at hgroup ⊢
      rw [hconfig]
      exact hgroup
    refine ⟨(upgrade_config hgroup' reboot).trans hconfig, ?_⟩
    rw [← hpos, ← hconfig] at h
    rw [← hconfig] at hzeit
    exact ((getPosition_upgrade hzeit hgroup' reboot).1 h).trans hpos
  exact (run_invariant hkeep reboots p ⟨rfl, rfl⟩).2

end

/-- **What comes back**: a percentage `pos` is reported as it was defined, and
any number of upgrades leaves the reported position alone, exactly at the two
ends, at the lower one if 100 does not divide the run time. -/
theorem position_save_restore (selfaddr src : UInt16) (p : DeviceDataRolladen) (group : UInt8)
    (hzeit : 100 ≤ p.config.laufzeit.toNat) (hgroup : isGroupInRolladen p group = true) :
    (∀ pos : UInt8, pos.toNat ≤ 100 →
      ((rolladenCanCallback selfaddr
          (rolladenCanCallback selfaddr p (positionDefine src group pos)).1
          (positionRequest src group)).2 = [positionReplay selfaddr src group pos] ↔
        Restored p.config pos)) ∧
      ((∀ reboots : List Bool,
          rolladenGetPosition (run (upgrade selfaddr src group) p reboots) =
            rolladenGetPosition p) ↔
        AtRestoredEnd p) := by
  have hzeit' : 100 ≤ p.config.zeit := by
    unfold EdsRolladenBlock.zeit
    omega
  constructor
  · intro pos hpos
    have hdefined : isGroupInRolladen (definePosition p pos) group = true := hgroup
    rw [canCallback_positionDefine hgroup, canCallback_positionRequest hdefined]
    constructor
    · intro hreplay
      by_contra hnot
      have hlt := lt_getPosition_definePosition hzeit' hpos hnot
      have hbyte : (positionReplay selfaddr src group
          (rolladenGetPosition (definePosition p pos))).byte 3 =
            (positionReplay selfaddr src group pos).byte 3 := by
        rw [(List.cons.inj hreplay).1]
      change rolladenGetPosition (definePosition p pos) = pos at hbyte
      rw [hbyte] at hlt
      exact Nat.lt_irrefl _ hlt
    · intro hrest
      rw [getPosition_definePosition hzeit' hrest]
  · rw [atRestoredEnd_iff (by omega)]
    constructor
    · intro hall
      by_contra hnot
      have hlt : (rolladenGetPosition p).toNat <
          (rolladenGetPosition (upgrade selfaddr src group p false)).toNat :=
        (getPosition_upgrade hzeit' hgroup false).2 hnot
      have hone : rolladenGetPosition (upgrade selfaddr src group p false) =
          rolladenGetPosition p := hall [false]
      rw [hone] at hlt
      exact Nat.lt_irrefl _ hlt
    · intro hrest
      exact getPosition_upgrades hzeit' hgroup hrest

/-! ### A shutter half open -/

section Example

/-- A shutter on button 1 with a run time of 20 seconds, half open. -/
private def halbOffen : DeviceDataRolladen where
  config :=
    { portPower := 0, portDir := 1, taster := 1, feature := 0, laufzeit := 200, maxRekalib := 0
      gruppe0 := 255, gruppe1 := 255, gruppe2 := 255, gruppe3 := 255, mute := 255 }
  mute := false
  kalibrieren := false
  summeLaufzeit := 0
  laufzeit := 100
  sollLaufzeit := -1
  stoppuhr := 0
  dir := .auf
  sollDir := .auf
  exeDir := false
  lastDir := .auf
  sollPower := false
  power := false
  exePower := false
  blockingTimer := 0
  changeDirCounter := -1
  longPressedCounter := -1

theorem position_save_restore_halbOffen :
    (∀ pos : UInt8, pos.toNat ≤ 100 →
      ((rolladenCanCallback 1
          (rolladenCanCallback 1 halbOffen (positionDefine 2 1 pos)).1
          (positionRequest 2 1)).2 = [positionReplay 1 2 1 pos] ↔
        Restored halbOffen.config pos)) ∧
      ((∀ reboots : List Bool,
          rolladenGetPosition (run (upgrade 1 2 1) halbOffen reboots) =
            rolladenGetPosition halbOffen) ↔
        AtRestoredEnd halbOffen) :=
  position_save_restore 1 2 halbOffen 1 (by decide) (by decide)

/-- **Half open becomes 52 percent**, and an upgrade moves the reported position
from 51 to 53. -/
theorem position_not_restored :
    ¬ ∀ (selfaddr src : UInt16) (p : DeviceDataRolladen) (group : UInt8),
      100 ≤ p.config.laufzeit.toNat → isGroupInRolladen p group = true →
        p.power = false → p.sollPower = false →
          (∀ pos : UInt8, pos.toNat ≤ 100 →
            (rolladenCanCallback selfaddr
              (rolladenCanCallback selfaddr p (positionDefine src group pos)).1
              (positionRequest src group)).2 = [positionReplay selfaddr src group pos]) ∧
            ∀ reboots : List Bool,
              rolladenGetPosition (run (upgrade selfaddr src group) p reboots) =
                rolladenGetPosition p := by
  intro hall
  have hhalf := (hall 1 2 halbOffen 1 (by decide) (by decide) rfl rfl).1 50 (by decide)
  revert hhalf
  decide

end Example

end OpenHcan.Rolladen
