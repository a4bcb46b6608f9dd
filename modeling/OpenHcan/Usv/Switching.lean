import Mathlib.Algebra.Group.Nat.Defs
import OpenHcan.Lib.Countdown
import OpenHcan.Lib.Machine
import OpenHcan.Usv.StateMachine

/-!
# Switching — when the power supply switches

`usv_timer` locks the state handler after every switch. `switch_back_counter`
counts seconds through a prescaler; together they are one counter of ticks,
`vorrat`, that a tick lowers by at most one.
-/

namespace OpenHcan.Usv

open Lib

set_option maxRecDepth 100000

/-! ## The machine -/

/-- A call of a handler: the timer, the state handler with its readings, or a frame. -/
inductive UsvEvent
  | timer
  | state (m : Messung)
  | frame (u : UInt16) (f : CanixFrame)

def UsvEvent.isTimer : UsvEvent → Bool
  | .timer => true
  | .state _ => false
  | .frame _ _ => false

def usvStep (selfaddr : UInt16) (s : UsvState) : UsvEvent → UsvState
  | .timer => usvTimerHandler s
  | .state m => usvStateHandler selfaddr m s
  | .frame u f => usvCanCallback selfaddr u f s

/-- The number of timer ticks. -/
def ticks (es : List UsvEvent) : Nat := es.countP UsvEvent.isTimer

/-! ## The property -/

/-- The relay at output 7 is where the state machine is. -/
def RelaisFolgt (s : UsvState) : Prop :=
  darlingtonoutputGetpin s.outputs 7 ≠ 0 ↔ s.onBattery ≠ 0

/-- The step switches to the batteries. -/
def AufBatterie (selfaddr : UInt16) (s : UsvState) (e : UsvEvent) : Prop :=
  s.onBattery = 0 ∧ (usvStep selfaddr s e).onBattery ≠ 0

/-- The step switches to the mains. -/
def AufNetz (selfaddr : UInt16) (s : UsvState) (e : UsvEvent) : Prop :=
  s.onBattery ≠ 0 ∧ (usvStep selfaddr s e).onBattery = 0

/-- After the step nothing is switched for so many ticks. -/
def Verharrt (selfaddr : UInt16) (s : UsvState) (e : UsvEvent) (n : Nat) : Prop :=
  ∀ es, ticks es < n →
    (run (usvStep selfaddr) (usvStep selfaddr s e) es).onBattery = (usvStep selfaddr s e).onBattery

/-- The buffer breaks down and the batteries are empty. -/
def BatterieLeer (e : UsvEvent) : Prop := ∃ m, e = .state m ∧ m.puffer ≤ v23 ∧ m.bat ≤ v24

/-- For so many ticks after the step only empty batteries switch back. -/
def NurLeerZurueck (selfaddr : UInt16) (s : UsvState) (e : UsvEvent) (n : Nat) : Prop :=
  ∀ es e', ticks es ≤ n →
    AufNetz selfaddr (run (usvStep selfaddr) (usvStep selfaddr s e) es) e' → BatterieLeer e'

section

variable (selfaddr : UInt16) (s : UsvState)

/-! ## The relay -/

theorem or_and_self (x m : UInt8) : (x ||| m) &&& m = m := by
  apply UInt8.toBitVec_inj.mp
  rw [UInt8.toBitVec_and, UInt8.toBitVec_or]
  ext i hi
  simp only [BitVec.getElem_and, BitVec.getElem_or, Bool.and_eq_right_iff_imp, Bool.or_eq_true]
  intro h
  exact Or.inr h

/-- A bit that is set is read back, and no other value. -/
theorem setBit_and (port n state : UInt8) (hn : (1 : UInt8) <<< n ≠ 0) :
    setBit port n state &&& (1 <<< n) ≠ 0 ↔ state ≠ 0 := by
  unfold setBit
  split
  · rename_i hstate
    rw [or_and_self]
    exact iff_of_true hn hstate
  · rename_i hstate
    rw [UInt8.and_assoc, UInt8.not_and_self, UInt8.and_zero]
    exact iff_of_false (fun h => h rfl) hstate

theorem getpin_setpin (o : Ports) (state : UInt8) :
    darlingtonoutputGetpin (darlingtonoutputSetpin o 7 state) 7 ≠ 0 ↔ state ≠ 0 :=
  setBit_and o.portd 7 state (by decide)

/-! ## The steps -/

/-- What a tick leaves, field by field. -/
def nachTick (s : UsvState) : UsvState :=
  { s with
    usvTimer := if s.usvTimer = 0 then 0 else s.usvTimer - 1
    ledTimer := if s.ledTimer = 0 then 9 else s.ledTimer - 1
    leds := if s.ledTimer = 0 then ledTimerHandler s.leds else s.leds
    timerCounter := if s.timerCounter = 0 then 100 else s.timerCounter - 1
    switchBackCounter :=
      if s.timerCounter = 0 ∧ s.switchBackCounter ≠ 0 then s.switchBackCounter - 1
      else s.switchBackCounter }

theorem usvTimerHandler_eq : usvTimerHandler s = nachTick s := by
  have hpos (n : UInt16) : n > 0 ↔ ¬ n = 0 := UInt16.pos_iff_ne_zero
  unfold usvTimerHandler nachTick
  -- the three counters are independent
  by_cases husv : s.usvTimer = 0 <;> by_cases hled : s.ledTimer = 0 <;>
    by_cases hsec : s.timerCounter = 0 <;> simp [hpos, husv, hled, hsec]

/-- The ticks until `switch_back_counter` is 0. -/
def vorrat (s : UsvState) : Nat := 101 * s.switchBackCounter.toNat + s.timerCounter.toNat

/-- What a step can do: count, leave the switching alone, or switch one way or the
other. -/
inductive StepWirkt (e : UsvEvent) (s t : UsvState) : Prop
  | zaehlt (htimer : e.isTimer = true) (hbattery : t.onBattery = s.onBattery)
      (houtputs : t.outputs = s.outputs) (husv : s.usvTimer.toNat ≤ t.usvTimer.toNat + 1)
      (hvorrat : vorrat s ≤ vorrat t + 1) (hsec : s.timerCounter ≤ 100 → t.timerCounter ≤ 100)
  | bleibt (hno : e.isTimer = false) (hbattery : t.onBattery = s.onBattery)
      (houtputs : t.outputs = s.outputs) (husv : t.usvTimer = s.usvTimer)
      (hback : t.switchBackCounter = s.switchBackCounter) (hsec : t.timerCounter = s.timerCounter)
  | batterie (hno : e.isTimer = false) (hfrei : s.usvTimer = 0) (haus : s.onBattery = 0)
      (hbattery : t.onBattery = 1) (houtputs : t.outputs = darlingtonoutputSetpin s.outputs 7 1)
      (husv : t.usvTimer = 200) (hback : t.switchBackCounter = 30)
      (hsec : t.timerCounter = s.timerCounter)
  | netz (hno : e.isTimer = false) (hfrei : s.usvTimer = 0) (hein : s.onBattery ≠ 0)
      (hbattery : t.onBattery = 0) (houtputs : t.outputs = darlingtonoutputSetpin s.outputs 7 0)
      (husv : t.usvTimer = 10) (hback : t.switchBackCounter = s.switchBackCounter)
      (hsec : t.timerCounter = s.timerCounter)
      (hleer : BatterieLeer e ∨ s.switchBackCounter = 0)

theorem nachTick_sec : (nachTick s).timerCounter.toNat =
    if s.timerCounter.toNat = 0 then 100 else s.timerCounter.toNat - 1 := by
  show UInt8.toNat (if s.timerCounter = 0 then 100 else s.timerCounter - 1) = _
  by_cases hzero : s.timerCounter = 0
  · rw [hzero]
    rfl
  · have hpos : s.timerCounter.toNat ≠ 0 := fun h => hzero (UInt8.toNat_inj.mp h)
    rw [if_neg hzero, if_neg hpos]
    apply UInt8.toNat_sub_of_le
    rw [UInt8.le_iff_toNat_le]
    exact Nat.one_le_iff_ne_zero.mpr hpos

/-- A tick lowers the time that is left by at most one tick. -/
theorem vorrat_tick : vorrat s ≤ vorrat (nachTick s) + 1 := by
  have hback : (nachTick s).switchBackCounter =
      if s.timerCounter = 0 ∧ s.switchBackCounter ≠ 0 then s.switchBackCounter - 1
      else s.switchBackCounter := rfl
  unfold vorrat
  rw [nachTick_sec, hback]
  by_cases hzero : s.timerCounter = 0
  · rw [hzero]
    by_cases hne : s.switchBackCounter = 0
    · rw [if_neg (fun h => h.2 hne), hne]
      decide
    · -- the prescaler starts again
      have hpos := toNat_ne_zero hne
      rw [if_pos ⟨rfl, hne⟩, toNat_sub_one hne, UInt8.toNat_zero, if_pos rfl]
      omega
  · have hpos : s.timerCounter.toNat ≠ 0 := fun h => hzero (UInt8.toNat_inj.mp h)
    rw [if_neg hpos, if_neg (fun h => hzero h.1)]
    omega

theorem stepWirkt_timer : StepWirkt .timer s (usvTimerHandler s) := by
  rw [usvTimerHandler_eq]
  refine .zaehlt rfl rfl rfl ?_ (vorrat_tick s) ?_
  · show s.usvTimer.toNat ≤ UInt16.toNat (if s.usvTimer = 0 then 0 else s.usvTimer - 1) + 1
    split
    · rename_i hzero
      rw [hzero]
      decide
    · rename_i hne
      rw [toNat_sub_one hne]
      omega
  · intro hle
    rw [UInt8.le_iff_toNat_le] at hle ⊢
    rw [nachTick_sec]
    split
    · exact Nat.le_refl 100
    · exact Nat.le_trans (Nat.sub_le _ 1) hle

/-- **The state handler** switches only when `usv_timer` is 0. -/
theorem stepWirkt_state (m : Messung) : StepWirkt (.state m) s (usvStateHandler selfaddr m s) := by
  unfold usvStateHandler
  dsimp only
  split
  · exact .bleibt rfl rfl rfl rfl rfl rfl
  · rename_i hlocked
    have hfrei : s.usvTimer = 0 := not_not.mp hlocked
    unfold umschalten
    split
    · rename_i hpuffer
      split
      · split
        · rename_i haus
          exact .batterie rfl hfrei haus rfl rfl rfl rfl rfl
        · exact .bleibt rfl rfl rfl rfl rfl rfl
      · rename_i hbat
        split
        · rename_i hein
          exact .netz rfl hfrei hein rfl rfl rfl rfl rfl
            (Or.inl ⟨m, rfl, hpuffer, UInt16.not_lt.mp hbat⟩)
        · exact .bleibt rfl rfl rfl rfl rfl rfl
    · split
      · rename_i hback
        split
        · rename_i hein
          exact .netz rfl hfrei hein rfl rfl rfl rfl rfl (Or.inr hback.2)
        · exact .bleibt rfl rfl rfl rfl rfl rfl
      · exact .bleibt rfl rfl rfl rfl rfl rfl

/-- A frame is answered. -/
theorem stepWirkt_frame (u : UInt16) (f : CanixFrame) :
    StepWirkt (.frame u f) s (usvCanCallback selfaddr u f s) := by
  unfold usvCanCallback
  dsimp only
  split
  · exact .bleibt rfl rfl rfl rfl rfl rfl
  · split
    · split
      · exact .bleibt rfl rfl rfl rfl rfl rfl
      · exact .bleibt rfl rfl rfl rfl rfl rfl
    · split
      · split
        · exact .bleibt rfl rfl rfl rfl rfl rfl
        · exact .bleibt rfl rfl rfl rfl rfl rfl
      · split
        · exact .bleibt rfl rfl rfl rfl rfl rfl
        · exact .bleibt rfl rfl rfl rfl rfl rfl

/-- **Every step** does one of the four. -/
theorem usvStep_wirkt (e : UsvEvent) : StepWirkt e s (usvStep selfaddr s e) := by
  cases e with
  | timer => exact stepWirkt_timer s
  | state m => exact stepWirkt_state selfaddr s m
  | frame u f => exact stepWirkt_frame selfaddr s u f

/-! ## The runs -/

variable {selfaddr s}

/-- The relay follows the state machine. -/
theorem RelaisFolgt.step (h : RelaisFolgt s) (e : UsvEvent) :
    RelaisFolgt (usvStep selfaddr s e) := by
  unfold RelaisFolgt at h ⊢
  cases usvStep_wirkt selfaddr s e with
  | zaehlt _ hbattery houtputs =>
      rw [hbattery, houtputs]
      exact h
  | bleibt _ hbattery houtputs =>
      rw [hbattery, houtputs]
      exact h
  | batterie _ _ _ hbattery houtputs =>
      rw [hbattery, houtputs]
      exact getpin_setpin s.outputs 1
  | netz _ _ _ hbattery houtputs =>
      rw [hbattery, houtputs]
      exact getpin_setpin s.outputs 0

theorem relaisFolgt_start : RelaisFolgt usvStart := by
  unfold RelaisFolgt
  decide

theorem ticks_cons (e : UsvEvent) (es : List UsvEvent) :
    ticks (e :: es) = ticks es + if e.isTimer = true then 1 else 0 := List.countP_cons

/-- **The lock**: as long as `usv_timer` is not 0, nothing is switched. -/
theorem run_gesperrt (es : List UsvEvent) :
    ∀ s : UsvState, ticks es < s.usvTimer.toNat →
      (run (usvStep selfaddr) s es).onBattery = s.onBattery := by
  induction es with
  | nil => intro s _; rfl
  | cons e es ih =>
      intro s h
      rw [ticks_cons] at h
      -- more ticks are locked than are left in the run
      have hlocked : s.usvTimer ≠ 0 := by
        intro hzero
        rw [hzero] at h
        exact absurd h (Nat.not_lt_zero _)
      rw [run_cons]
      cases usvStep_wirkt selfaddr s e with
      | zaehlt htimer hbattery _ husv =>
          rw [if_pos htimer] at h
          rw [ih _ (by omega), hbattery]
      | bleibt hno hbattery _ husv =>
          rw [ih _ (by rw [husv]; omega), hbattery]
      | batterie _ hfrei => exact absurd hfrei hlocked
      | netz _ hfrei => exact absurd hfrei hlocked

/-- A switch to the batteries sets both counters. -/
theorem AufBatterie.stellt {e : UsvEvent} (h : AufBatterie selfaddr s e) :
    (usvStep selfaddr s e).usvTimer = 200 ∧ (usvStep selfaddr s e).switchBackCounter = 30 := by
  obtain ⟨haus, hein⟩ := h
  cases usvStep_wirkt selfaddr s e with
  | zaehlt _ hbattery => exact absurd (hbattery.trans haus) hein
  | bleibt _ hbattery => exact absurd (hbattery.trans haus) hein
  | batterie _ _ _ _ _ husv hback => exact ⟨husv, hback⟩
  | netz _ _ _ hbattery => exact absurd hbattery hein

/-- A switch to the mains sets the lock; it needs empty batteries or the time. -/
theorem AufNetz.stellt {e : UsvEvent} (h : AufNetz selfaddr s e) :
    (usvStep selfaddr s e).usvTimer = 10 ∧ (BatterieLeer e ∨ s.switchBackCounter = 0) := by
  obtain ⟨hein, haus⟩ := h
  cases usvStep_wirkt selfaddr s e with
  | zaehlt _ hbattery => exact absurd (hbattery.symm.trans haus) hein
  | bleibt _ hbattery => exact absurd (hbattery.symm.trans haus) hein
  | batterie _ _ _ hbattery => exact absurd (hbattery.symm.trans haus) (by decide)
  | netz _ _ _ _ _ husv _ _ hleer => exact ⟨husv, hleer⟩

/-- After a switch to the batteries the lock lasts 200 ticks. -/
theorem verharrt_batterie {e : UsvEvent} (h : AufBatterie selfaddr s e) :
    Verharrt selfaddr s e 200 := by
  intro es hes
  apply run_gesperrt
  rw [h.stellt.1]
  exact hes

/-- After a switch to the mains the lock lasts 10 ticks. -/
theorem verharrt_netz {e : UsvEvent} (h : AufNetz selfaddr s e) : Verharrt selfaddr s e 10 := by
  intro es hes
  apply run_gesperrt
  rw [h.stellt.1]
  exact hes

/-- The prescaler is at most 100 from the start on. -/
theorem sec_step (h : s.timerCounter ≤ 100) (e : UsvEvent) :
    (usvStep selfaddr s e).timerCounter ≤ 100 := by
  cases usvStep_wirkt selfaddr s e with
  | zaehlt _ _ _ _ _ hsec => exact hsec h
  | bleibt _ _ _ _ _ hsec =>
      rw [hsec]
      exact h
  | batterie _ _ _ _ _ _ _ hsec =>
      rw [hsec]
      exact h
  | netz _ _ _ _ _ _ _ hsec =>
      rw [hsec]
      exact h

theorem run_sec (es : List UsvEvent) (h : s.timerCounter ≤ 100) :
    (run (usvStep selfaddr) s es).timerCounter ≤ 100 :=
  run_invariant (I := fun s => s.timerCounter ≤ 100) (fun _ e h => sec_step h e) es s h

/-- **The time until the mains**: a run lowers it by its ticks at most, and a switch to
the batteries sets it to 30 times 101 ticks. -/
theorem run_vorrat (k : Nat) (es : List UsvEvent) :
    ∀ s : UsvState, k + ticks es ≤ vorrat s → k + ticks es ≤ 3030 →
      k ≤ vorrat (run (usvStep selfaddr) s es) := by
  induction es with
  | nil => intro s h _; exact h
  | cons e es ih =>
      intro s h hmax
      rw [ticks_cons] at h hmax
      rw [run_cons]
      apply ih
      · cases usvStep_wirkt selfaddr s e with
        | zaehlt htimer _ _ _ hvorrat =>
            rw [if_pos htimer] at h
            omega
        | bleibt _ _ _ _ hback hsec =>
            unfold vorrat at h ⊢
            rw [hback, hsec]
            omega
        | batterie _ _ _ _ _ _ hback =>
            -- a new switch, as much time as there can be
            unfold vorrat
            rw [hback, show (30 : UInt16).toNat = 30 from rfl]
            omega
        | netz _ _ _ _ _ _ hback hsec =>
            unfold vorrat at h ⊢
            rw [hback, hsec]
            omega
      · omega

/-- Within 29 seconds of the prescaler only empty batteries switch back. -/
theorem nurLeerZurueck (hsec : s.timerCounter ≤ 100) {e : UsvEvent}
    (h : AufBatterie selfaddr s e) : NurLeerZurueck selfaddr s e (29 * 101) := by
  intro es e' hes hnetz
  have hstart : 3030 ≤ vorrat (usvStep selfaddr s e) := by
    unfold vorrat
    rw [h.stellt.2]
    exact Nat.le_add_right 3030 _
  have hrun : 101 ≤ vorrat (run (usvStep selfaddr) (usvStep selfaddr s e) es) :=
    run_vorrat 101 es _ (by omega) (by omega)
  have hrest : (run (usvStep selfaddr) (usvStep selfaddr s e) es).timerCounter ≤ 100 :=
    run_sec es (sec_step hsec e)
  apply hnetz.stellt.2.resolve_right
  intro hzero
  -- 101 ticks are left, and the prescaler alone has at most 100
  rw [UInt8.le_iff_toNat_le] at hrest
  have hhundert : (100 : UInt8).toNat = 100 := rfl
  unfold vorrat at hrun
  rw [hzero, UInt16.toNat_zero] at hrun
  omega

/-- **The switching of the power supply**: the relay follows the state machine, every
switch lasts, and in the first half minute only empty batteries end it. -/
theorem usv_schaltet (selfaddr : UInt16) (es : List UsvEvent) :
    RelaisFolgt (run (usvStep selfaddr) usvStart es) ∧
      ∀ e,
        (AufBatterie selfaddr (run (usvStep selfaddr) usvStart es) e →
          Verharrt selfaddr (run (usvStep selfaddr) usvStart es) e 200 ∧
            NurLeerZurueck selfaddr (run (usvStep selfaddr) usvStart es) e (29 * 101)) ∧
        (AufNetz selfaddr (run (usvStep selfaddr) usvStart es) e →
          Verharrt selfaddr (run (usvStep selfaddr) usvStart es) e 10) := by
  have hsec : (run (usvStep selfaddr) usvStart es).timerCounter ≤ 100 :=
    run_sec es (by decide)
  have hrelais : RelaisFolgt (run (usvStep selfaddr) usvStart es) :=
    run_invariant (I := RelaisFolgt) (fun _ e h => h.step e) es usvStart relaisFolgt_start
  refine ⟨hrelais, fun e => ⟨?_, ?_⟩⟩
  · intro h
    exact ⟨verharrt_batterie h, nurLeerZurueck hsec h⟩
  · intro h
    exact verharrt_netz h

end

/-- The mains have failed: the buffer is empty, the batteries are full. -/
private def stromausfall : Messung := ⟨Vector.replicate 5 0, 0, 900, 0, 0, 0, 900, 900⟩

/-- The failure switches to the batteries, at least for two seconds. -/
theorem usv_schaltet_stromausfall :
    AufBatterie 853 usvStart (.state stromausfall) ∧
      (run (usvStep 853) (usvStep 853 usvStart (.state stromausfall))
        (List.replicate 199 .timer)).onBattery = 1 := by
  have hauf : AufBatterie 853 usvStart (.state stromausfall) := ⟨by decide, by decide⟩
  obtain ⟨-, hschaltet⟩ := usv_schaltet 853 []
  obtain ⟨hverharrt, -⟩ := (hschaltet (.state stromausfall)).1 hauf
  exact ⟨hauf, hverharrt (List.replicate 199 .timer) (by decide)⟩

end OpenHcan.Usv
