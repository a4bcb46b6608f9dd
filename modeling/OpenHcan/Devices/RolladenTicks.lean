import OpenHcan.Devices.RolladenRun

/-!
# RolladenTicks — a drive left alone

Without frames a drive takes three steps: it waits for the blocking timer
(`drive_start`), it goes on until the target is reached (`drive_on`), and it
stops (`drive_off`). A button that is still held is the only thing that can
change the target on the way; `Ungestoert` says that it does not.
-/

namespace OpenHcan.Rolladen

open OpenHcan.Lib

/-! ## A held button -/

/-- In `i` ticks the button will have been held for a second. -/
def DeviceDataRolladen.druck (p : DeviceDataRolladen) (i : Nat) : Bool :=
  p.longPressedCounter = i

/-- The calibration order of a held button comes after `n` ticks, or never, or it
does not change the target. -/
def DeviceDataRolladen.Ungestoert (p : DeviceDataRolladen) (n : Nat) : Prop :=
  ∀ i < n, p.druck i = true → ¬ p.fahrt.Kalibriert p.config

section

variable {selfaddr : UInt16} {p : DeviceDataRolladen}

/-- A tick brings the end of the second one tick nearer. -/
theorem rolladenStep_tick_druck (selfaddr : UInt16) (s : Plant) (i : Nat) :
    (rolladenStep selfaddr s .tick).dev.druck i = s.dev.druck (i + 1) := by
  unfold DeviceDataRolladen.druck
  rw [rolladenStep_tick_dev, timerHandler_longPressed, decide_eq_decide]
  unfold longPressed
  split
  · dsimp only
    omega
  · split
    · dsimp only
      omega
    · omega

theorem ungestoert_of_neg (h : p.longPressedCounter < 0) (n : Nat) : p.Ungestoert n := by
  intro i _ hi
  have heq : p.longPressedCounter = i := of_decide_eq_true hi
  omega

theorem DeviceDataRolladen.Ungestoert.mono {n k : Nat} (h : p.Ungestoert n) (hk : k ≤ n) :
    p.Ungestoert k := fun i hi => h i (by omega)

/-- Nothing happens to the target in the next tick. -/
theorem tick_ungestoert (selfaddr : UInt16) {s : Plant} {n : Nat} (h : s.dev.Ungestoert (n + 1)) :
    (rolladenStep selfaddr s .tick).dev.fahrt = s.dev.fahrt.tick s.dev.config false := by
  rw [rolladenStep_tick_fahrt]
  cases hd : s.dev.gedrueckt with
  | false => rfl
  | true =>
      have hnot : ¬ s.dev.fahrt.Kalibriert s.dev.config := h 0 (by omega) hd
      have hprepare : s.dev.fahrt.prepare s.dev.config = s.dev.fahrt := by
        unfold Fahrt.prepare
        rw [if_neg hnot]
      unfold Fahrt.tick
      rw [if_pos rfl, if_neg Bool.false_ne_true, hprepare]

/-- A tick that leaves flag and direction alone leaves the drive undisturbed. -/
theorem ungestoert_tick {s : Plant} {n : Nat} (h : s.dev.Ungestoert (n + 1))
    (hkal : (rolladenStep selfaddr s .tick).dev.kalibrieren = s.dev.kalibrieren)
    (hdir : (rolladenStep selfaddr s .tick).dev.sollDir = s.dev.sollDir) :
    (rolladenStep selfaddr s .tick).dev.Ungestoert n := by
  intro i hi hd
  rw [rolladenStep_tick_druck] at hd
  have hnot := h (i + 1) (by omega) hd
  intro hk
  apply hnot
  unfold Fahrt.Kalibriert at hk ⊢
  rw [rolladenStep_config] at hk
  rcases hk with hk | hk
  · exact .inl (hkal.symm.trans hk)
  · exact .inr (hdir.symm.trans hk)

end

/-! ## One tick -/

/-- The target lies more than `n` ticks ahead. -/
def Fahrt.Vor (m : Fahrt) (n : Nat) : Prop :=
  if m.ctl.dir = .ab then m.soll < m.laufzeit - n else m.laufzeit + n < m.soll

section

variable {c : EdsRolladenBlock} {m : Fahrt}

theorem Fahrt.erreicht_iff (m : Fahrt) : m.fahren.Erreicht ↔ ¬ m.Vor 1 := by
  have hdir : m.fahren.ctl.dir = m.ctl.dir := rfl
  have hsoll : m.fahren.soll = m.soll := rfl
  unfold Fahrt.Erreicht Fahrt.Vor
  rw [hdir, hsoll]
  unfold Fahrt.fahren
  rcases m.ctl.dir.auf_or_ab with hd | hd
  · simp [hd]
  · simp [hd]

/-- A tick of driving, the target still ahead. -/
theorem Fahrt.Faehrt.tick (hf : m.Faehrt) (h : m.Vor 1) :
    m.tick c false = ⟨m.fahren.laufzeit, m.soll, m.kalibrieren, m.ctl.relays⟩ := by
  have hnot : ¬ m.fahren.Erreicht := fun hr => (m.erreicht_iff.mp hr) h
  unfold Fahrt.tick Fahrt.pruefung
  rw [if_neg Bool.false_ne_true, if_pos hf, if_neg hnot]
  rfl

/-- A tick of driving brings the target one tick nearer. -/
theorem Fahrt.vor_fahren {d : RelayCtl} (hdir : d.dir = m.ctl.dir) (n : Nat) :
    (Fahrt.mk m.fahren.laufzeit m.soll m.kalibrieren d).Vor n ↔ m.Vor (n + 1) := by
  unfold Fahrt.Vor Fahrt.fahren
  dsimp only
  rw [hdir]
  rcases m.ctl.dir.auf_or_ab with hd | hd
  · rw [hd, if_neg (by decide), if_neg (by decide), if_neg (by decide)]
    omega
  · rw [hd, if_pos rfl, if_pos rfl, if_pos rfl]
    omega

/-- The tick in which the target is reached. -/
theorem Fahrt.Faehrt.tick_reached (hf : m.Faehrt) (h : ¬ m.Vor 1) :
    (m.tick c false).Steht := by
  have hreached : m.fahren.Erreicht := m.erreicht_iff.mpr h
  unfold Fahrt.tick Fahrt.pruefung
  rw [if_neg Bool.false_ne_true, if_pos hf, if_pos hreached]
  have hsp : m.ctl.stop.sollPower = false := m.ctl.stop_sollPower
  exact ⟨(PowerSafe.stop m.ctl).relays_halt hsp, (RelayCtl.relays_sollPower _).trans hsp⟩

/-- A tick of waiting: only the relays work. -/
theorem Fahrt.tick_off (hp : m.ctl.power = false) :
    m.tick c false = ⟨m.laufzeit, m.soll, m.kalibrieren, m.ctl.relays⟩ := by
  unfold Fahrt.tick Fahrt.pruefung
  rw [if_neg Bool.false_ne_true, if_neg (fun hf => Bool.noConfusion (hp.symm.trans hf.1))]

theorem RelayCtl.relays_waits {d : RelayCtl} (hp : d.power = false) (hb : d.blockingTimer ≠ 0)
    (hexe : d.exePower = false) : d.relays.power = false ∧ d.relays.exePower = false := by
  have hblock := RelayCtl.blocking_busy hb
  have hdir : d.blocking.executeDir.exePower = false ∧ d.blocking.executeDir.power = false := by
    rw [hblock]
    unfold RelayCtl.executeDir
    split
    · exact ⟨hexe, hp⟩
    · exact ⟨hexe, hp⟩
  unfold RelayCtl.relays
  rw [RelayCtl.executePower_waits hdir.1]
  exact ⟨hdir.2, hdir.1⟩

end

/-! ## Runs of ticks -/

section

variable {selfaddr : UInt16}

/-- What a tick of an undisturbed drive leaves, the target still ahead. -/
theorem drive_tick (selfaddr : UInt16) {s : Plant} {n : Nat} (hload : PowerSafe s.dev.ctl)
    (hf : s.dev.fahrt.Faehrt) (hq : s.dev.Ungestoert (n + 1)) (h : s.dev.fahrt.Vor 1) :
    PowerSafe (rolladenStep selfaddr s .tick).dev.ctl ∧
      (rolladenStep selfaddr s .tick).dev.fahrt.Faehrt ∧
      ((rolladenStep selfaddr s .tick).dev.fahrt.Vor n ↔ s.dev.fahrt.Vor (n + 1)) ∧
      (rolladenStep selfaddr s .tick).dev.Ungestoert n := by
  have heq := tick_ungestoert selfaddr hq
  rw [hf.tick h] at heq
  refine ⟨?_, ?_, ?_, ?_⟩
  · have hctl : (rolladenStep selfaddr s .tick).dev.ctl = s.dev.ctl.relays :=
      congrArg Fahrt.ctl heq
    rw [hctl]
    exact hload.relays
  · rw [heq]
    exact ⟨RelayCtl.relays_drive hf.1 hf.2, (RelayCtl.relays_sollPower _).trans hf.2⟩
  · rw [heq]
    exact Fahrt.vor_fahren (hload.relays_dir hf.1) n
  · apply ungestoert_tick hq
    · exact congrArg Fahrt.kalibrieren heq
    · exact (congrArg (fun m => m.ctl.sollDir) heq).trans (RelayCtl.relays_sollDir _)

/-- **On the way**: the shutter drives as long as the target lies ahead. -/
theorem drive_on (selfaddr : UInt16) (n : Nat) {s : Plant} (hload : PowerSafe s.dev.ctl)
    (hf : s.dev.fahrt.Faehrt) (hq : s.dev.Ungestoert n) (h : s.dev.fahrt.Vor n) :
    (s.ticks selfaddr n).dev.fahrt.Faehrt := by
  induction n generalizing s with
  | zero => exact hf
  | succ n ih =>
      have hahead : s.dev.fahrt.Vor 1 := by
        unfold Fahrt.Vor at h ⊢
        split at h
        · rw [if_pos ‹_›]
          omega
        · rw [if_neg ‹_›]
          omega
      obtain ⟨hload', hf', hvor, hq'⟩ := drive_tick selfaddr hload hf hq hahead
      rw [Plant.ticks_succ]
      exact ih hload' hf' hq' (hvor.mpr h)

/-- **At the target** the shutter stops. -/
theorem drive_off (selfaddr : UInt16) (n : Nat) {s : Plant} (hload : PowerSafe s.dev.ctl)
    (hf : s.dev.fahrt.Faehrt) (hq : s.dev.Ungestoert n) (hn : 1 ≤ n)
    (h : ¬ s.dev.fahrt.Vor n) : (s.ticks selfaddr n).dev.fahrt.Steht := by
  induction n generalizing s with
  | zero => omega
  | succ n ih =>
      rw [Plant.ticks_succ]
      by_cases hahead : s.dev.fahrt.Vor 1
      · obtain ⟨hload', hf', hvor, hq'⟩ := drive_tick selfaddr hload hf hq hahead
        have hn' : 1 ≤ n := by
          by_contra hzero
          have h0 : n = 0 := by omega
          subst h0
          exact h hahead
        exact ih hload' hf' hq' hn' fun hn => h (hvor.mp hn)
      · apply steht_ticks
        rw [tick_ungestoert selfaddr hq]
        exact hf.tick_reached hahead

/-- A tick without power works the relays. -/
theorem off_tick (selfaddr : UInt16) {s : Plant} {n : Nat} (hp : s.dev.power = false)
    (hq : s.dev.Ungestoert (n + 1)) :
    (rolladenStep selfaddr s .tick).dev.ctl = s.dev.ctl.relays ∧
      (rolladenStep selfaddr s .tick).dev.laufzeit = s.dev.laufzeit ∧
      (rolladenStep selfaddr s .tick).dev.sollLaufzeit = s.dev.sollLaufzeit ∧
      (rolladenStep selfaddr s .tick).dev.Ungestoert n := by
  have heq := tick_ungestoert selfaddr hq
  rw [Fahrt.tick_off hp] at heq
  have hctl : (rolladenStep selfaddr s .tick).dev.ctl = s.dev.ctl.relays :=
    congrArg Fahrt.ctl heq
  exact ⟨hctl, congrArg Fahrt.laufzeit heq, congrArg Fahrt.soll heq,
    ungestoert_tick hq (congrArg Fahrt.kalibrieren heq)
      ((congrArg RelayCtl.sollDir hctl).trans (RelayCtl.relays_sollDir _))⟩

/-- **The start**: the power goes on one tick after the blocking timer. -/
theorem drive_start (selfaddr : UInt16) (t : Nat) {s : Plant} (hsp : s.dev.sollPower = true)
    (hp : s.dev.power = false) (ht : s.dev.blockingTimer = t)
    (hexe : t ≠ 0 → s.dev.exePower = false) (n : Nat) (hq : s.dev.Ungestoert (t + 1 + n)) :
    (∀ k, k ≤ t → (s.ticks selfaddr k).dev.power = false) ∧
      (s.ticks selfaddr (t + 1)).dev.laufzeit = s.dev.laufzeit ∧
      (s.ticks selfaddr (t + 1)).dev.sollLaufzeit = s.dev.sollLaufzeit ∧
      (s.ticks selfaddr (t + 1)).dev.dir = s.dev.ctl.heading ∧
      (s.ticks selfaddr (t + 1)).dev.fahrt.Faehrt ∧
      PowerSafe (s.ticks selfaddr (t + 1)).dev.ctl ∧
      (s.ticks selfaddr (t + 1)).dev.Ungestoert n := by
  have hload : PowerSafe s.dev.ctl := .of_off hp
  have hhead := RelayCtl.heading_relays hload hsp
  induction t generalizing s with
  | zero =>
      obtain ⟨hctl, hlauf, hsoll, hq'⟩ := off_tick selfaddr (n := n) hp (hq.mono (by omega))
      refine ⟨fun k hk => ?_, hlauf, hsoll, ?_, ?_, ?_, hq'⟩
      · have h0 : k = 0 := by omega
        subst h0
        exact hp
      · exact (congrArg RelayCtl.dir hctl).trans (s.dev.ctl.relays_heading.symm.trans hhead)
      · exact ⟨(congrArg RelayCtl.power hctl).trans (RelayCtl.relays_on hsp ht),
          (congrArg RelayCtl.sollPower hctl).trans ((RelayCtl.relays_sollPower _).trans hsp)⟩
      · show PowerSafe (rolladenStep selfaddr s .tick).dev.ctl
        rw [hctl]
        exact hload.relays
  | succ t ih =>
      obtain ⟨hctl, hlauf, hsoll, hq'⟩ :=
        off_tick selfaddr (n := t + 1 + n) hp (hq.mono (by omega))
      have hwaits := RelayCtl.relays_waits (d := s.dev.ctl) hp
        (show s.dev.blockingTimer ≠ 0 by omega) (hexe (by omega))
      have hsp' : (rolladenStep selfaddr s .tick).dev.sollPower = true :=
        (congrArg RelayCtl.sollPower hctl).trans ((RelayCtl.relays_sollPower _).trans hsp)
      have hp' : (rolladenStep selfaddr s .tick).dev.power = false :=
        (congrArg RelayCtl.power hctl).trans hwaits.1
      have ht' : (rolladenStep selfaddr s .tick).dev.blockingTimer = t :=
        (congrArg RelayCtl.blockingTimer hctl).trans
          ((RelayCtl.relays_blockingTimer _).trans (show s.dev.blockingTimer - 1 = t by omega))
      have hload' := PowerSafe.of_off (c := (rolladenStep selfaddr s .tick).dev.ctl) hp'
      obtain ⟨hoff, hlauf', hsoll', hdir, hrest⟩ := ih hsp' hp' ht'
        (fun _ => (congrArg RelayCtl.exePower hctl).trans hwaits.2) hq' hload'
        (RelayCtl.heading_relays hload' hsp')
      rw [Plant.ticks_succ]
      refine ⟨fun k hk => ?_, hlauf'.trans hlauf, hsoll'.trans hsoll, ?_, hrest⟩
      · cases k with
        | zero => exact hp
        | succ k =>
            rw [Plant.ticks_succ]
            exact hoff k (by omega)
      · rw [hdir, hctl]
        exact hhead

end

end OpenHcan.Rolladen
