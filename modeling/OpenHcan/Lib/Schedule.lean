import Mathlib.Data.List.Basic

/-!
# Schedule — what happens in equal distances

A schedule is its first tick and the distance from one of its ticks to the
next. A countdown that says at every tick how far off the next event is, and
begins again at the event, puts the events on a schedule; a schedule has one
first tick and one distance.
-/

namespace OpenHcan.Lib

/-- `t` is a tick of the schedule. -/
def OnSchedule (first period t : Nat) : Prop := ∃ k, t = first + k * period

theorem onSchedule_first (first period : Nat) : OnSchedule first period first := ⟨0, by simp⟩

theorem onSchedule_second (first period : Nat) : OnSchedule first period (first + period) :=
  ⟨1, by simp⟩

theorem OnSchedule.first_le {first period t : Nat} (h : OnSchedule first period t) :
    first ≤ t := by
  obtain ⟨k, rfl⟩ := h
  exact Nat.le_add_right _ _

/-- Behind the first tick of a schedule the next one is a period off. -/
theorem OnSchedule.period_le {first period t : Nat} (h : OnSchedule first period t)
    (hlt : first < t) : period ≤ t - first := by
  obtain ⟨k, rfl⟩ := h
  cases k with
  | zero => simp at hlt
  | succ k =>
      rw [Nat.add_sub_cancel_left, Nat.succ_mul]
      exact Nat.le_add_left _ _

/-- A schedule determines its distance. -/
theorem period_unique {first first' period period' : Nat} (hpos : 0 < period) (hpos' : 0 < period')
    (h : ∀ t, OnSchedule first period t ↔ OnSchedule first' period' t) : period = period' := by
  have hle := ((h first).mp (onSchedule_first _ _)).first_le
  have hge := ((h first').mpr (onSchedule_first _ _)).first_le
  obtain rfl : first = first' := by omega
  have hsecond := ((h _).mp (onSchedule_second first period)).period_le (by omega)
  have hsecond' := ((h _).mpr (onSchedule_second first period')).period_le (by omega)
  omega

/-- `wait` counts the ticks until the next event. -/
structure Counts (wait : Nat → Nat) (period : Nat) : Prop where
  down : ∀ t, wait t ≠ 0 → wait (t + 1) + 1 = wait t
  reload : ∀ t, wait t = 0 → wait (t + 1) + 1 = period

variable {wait : Nat → Nat} {period : Nat}

/-- Where a countdown stands at a tick. -/
theorem Counts.position (h : Counts wait period) (t : Nat) :
    ∃ k, t + wait t = wait 0 + k * period ∧ (k = 0 ∨ wait t < period) := by
  induction t with
  | zero => exact ⟨0, by simp, Or.inl rfl⟩
  | succ t ih =>
      obtain ⟨k, hk, hlow⟩ := ih
      by_cases hwait : wait t = 0
      · have hreload := h.reload t hwait
        refine ⟨k + 1, ?_, Or.inr (by omega)⟩
        rw [Nat.succ_mul]
        omega
      · have hdown := h.down t hwait
        exact ⟨k, by omega, by omega⟩

/-- **The schedule of a countdown**: its events are one period apart. -/
theorem Counts.zero_iff (h : Counts wait period) (t : Nat) :
    wait t = 0 ↔ OnSchedule (wait 0) period t := by
  obtain ⟨k, hk, hlow⟩ := h.position t
  constructor
  · intro hzero
    exact ⟨k, by omega⟩
  · rintro ⟨j, hj⟩
    have hsum : j * period + wait t = k * period := by omega
    rcases hlow with rfl | hlow
    · omega
    · -- a whole period between the two would be more than there is to wait
      have hjk : j = k := by
        rcases Nat.lt_trichotomy j k with hlt | heq | hgt
        · have hmul := Nat.mul_le_mul_right period hlt
          rw [Nat.succ_mul] at hmul
          omega
        · exact heq
        · have hmul := Nat.mul_le_mul_right period hgt
          rw [Nat.succ_mul] at hmul
          omega
      rw [hjk] at hsum
      omega

/-- Until the next event the countdown is the time that is left. -/
theorem Counts.before (h : Counts wait period) {t d : Nat} (hd : d ≤ wait t) :
    wait (t + d) = wait t - d := by
  induction d with
  | zero => rfl
  | succ d ih =>
      have hdown := h.down (t + d) (by rw [ih (by omega)]; omega)
      rw [ih (by omega)] at hdown
      rw [← Nat.add_assoc]
      omega

end OpenHcan.Lib
