import OpenHcan.Lib.Demux

/-!
# Hysteresis — one report when a value has moved and stays away

A filter holds the value it has reported last. A sample near it starts a countdown
again, one that is not counts it down, and when the countdown is over the next sample
is reported. So every report has a reason, the reports keep a distance, and a value
that stays is near the report of it after a while.
-/

namespace OpenHcan.Lib

variable {α : Type*}

/-- The value reported last, and the samples that are missing to the next report. -/
structure Hysteresis (α : Type*) where
  last : α
  countdown : Nat

namespace Hysteresis

variable (near : α → α → Prop) [∀ a b, Decidable (near a b)] (hold : Nat)

/-- One sample, and the value if it is reported. -/
def sample (d : Hysteresis α) (x : α) : Hysteresis α × List α :=
  if d.countdown = 0 then (⟨x, hold⟩, [x])
  else if near d.last x then (⟨d.last, hold⟩, [])
  else (⟨d.last, d.countdown - 1⟩, [])

variable {near hold}

theorem sample_over (a x : α) : sample near hold ⟨a, 0⟩ x = (⟨x, hold⟩, [x]) := by
  simp [sample]

theorem sample_near {a x : α} {n : Nat} (h : near a x) :
    sample near hold ⟨a, n + 1⟩ x = (⟨a, hold⟩, []) := by
  simp [sample, h]

theorem sample_far {a x : α} {n : Nat} (h : ¬ near a x) :
    sample near hold ⟨a, n + 1⟩ x = (⟨a, n⟩, []) := by
  simp [sample, h]

/-- The countdown never has more to go than at its start. -/
theorem countdown_le {d : Hysteresis α} (h : d.countdown ≤ hold) (xs : List α) :
    (emit (sample near hold) d xs).1.countdown ≤ hold := by
  induction xs generalizing d with
  | nil => exact h
  | cons x xs ih =>
      rw [emit_cons]
      refine ih ?_
      unfold sample
      split_ifs
      · exact Nat.le_refl hold
      · exact Nat.le_refl hold
      · exact Nat.le_trans (Nat.sub_le _ _) h

/-- The value that is held is the one that was reported last. -/
theorem last_eq_getLast (xs : List α) (d : Hysteresis α) :
    (emit (sample near hold) d xs).1.last = (emit (sample near hold) d xs).2.getLastD d.last := by
  induction xs generalizing d with
  | nil => rfl
  | cons x xs ih =>
      rw [emit_cons]
      show (emit (sample near hold) (sample near hold d x).1 xs).1.last = _
      rw [ih]
      obtain ⟨a, n⟩ := d
      cases n with
      | zero => rw [sample_over, List.singleton_append, List.getLastD_cons]
      | succ n =>
          by_cases hx : near a x
          · rw [sample_near hx, List.nil_append]
          · rw [sample_far hx, List.nil_append]

/-- Fewer samples than the countdown has to go. -/
theorem emit_short (xs : List α) {d : Hysteresis α} (hd : d.countdown ≤ hold)
    (h : xs.length ≤ d.countdown) : (emit (sample near hold) d xs).2 = [] := by
  induction xs generalizing d with
  | nil => rfl
  | cons x xs ih =>
      obtain ⟨a, n⟩ := d
      cases n with
      | zero => exact absurd h (Nat.not_succ_le_zero _)
      | succ n =>
          have hlen : xs.length ≤ n := Nat.le_of_succ_le_succ h
          have hn : n ≤ hold := Nat.le_of_succ_le hd
          rw [emit_cons]
          by_cases hx : near a x
          · rw [sample_near hx, List.nil_append]
            exact ih (Nat.le_refl hold) (Nat.le_trans hlen hn)
          · rw [sample_far hx, List.nil_append]
            exact ih hn hlen

/-- **The reports keep a distance**: `hold + 1` samples in a row have at most one. -/
theorem distance (xs : List α) {d : Hysteresis α} (hd : d.countdown ≤ hold)
    (h : xs.length ≤ hold + 1) : (emit (sample near hold) d xs).2.length ≤ 1 := by
  induction xs generalizing d with
  | nil => exact Nat.zero_le 1
  | cons x xs ih =>
      have hlen : xs.length ≤ hold := Nat.le_of_succ_le_succ h
      obtain ⟨a, n⟩ := d
      rw [emit_cons]
      cases n with
      | zero =>
          -- after a report the countdown is longer than the rest
          rw [sample_over, emit_short xs (Nat.le_refl hold) hlen]
          exact Nat.le_refl 1
      | succ n =>
          by_cases hx : near a x
          · rw [sample_near hx]
            exact ih (Nat.le_refl hold) (Nat.le_succ_of_le hlen)
          · rw [sample_far hx]
            exact ih (Nat.le_of_succ_le hd) (Nat.le_succ_of_le hlen)

/-- Near the value that stays, the filter stays. -/
theorem emit_stays (hrefl : ∀ a, near a a) {a x : α} (hx : near a x) (k n : Nat) :
    near (emit (sample near hold) ⟨a, n⟩ (List.replicate k x)).1.last x := by
  induction k generalizing a n with
  | zero => exact hx
  | succ k ih =>
      rw [List.replicate_succ, emit_cons]
      cases n with
      | zero =>
          rw [sample_over]
          exact ih (hrefl x) hold
      | succ n =>
          rw [sample_near hx]
          exact ih hx hold

/-- **The filter settles**: a value that stays for longer than the countdown has to go is
near the one that is held. -/
theorem settles (hrefl : ∀ a, near a a) (x : α) {d : Hysteresis α} {k : Nat}
    (h : d.countdown < k) :
    near (emit (sample near hold) d (List.replicate k x)).1.last x := by
  induction k generalizing d with
  | zero => exact absurd h (Nat.not_lt_zero _)
  | succ k ih =>
      obtain ⟨a, n⟩ := d
      rw [List.replicate_succ, emit_cons]
      cases n with
      | zero =>
          rw [sample_over]
          exact emit_stays hrefl (hrefl x) k hold
      | succ n =>
          by_cases hx : near a x
          · rw [sample_near hx]
            exact emit_stays hrefl hx k hold
          · rw [sample_far hx]
            exact ih (Nat.lt_of_succ_lt_succ h)

/-- The samples the countdown has counted: the last ones, none of them near. -/
def Counted (near : α → α → Prop) (hold : Nat) (d : Hysteresis α) (xs : List α) : Prop :=
  d.countdown ≤ hold ∧ ∃ pre far, xs = pre ++ far ∧ far.length + d.countdown = hold ∧
    ∀ y ∈ far, ¬ near d.last y

/-- **Every report has a reason**: what the countdown has counted were samples in a row
that were not near. -/
theorem counted_run (xs : List α) {d : Hysteresis α} {past : List α}
    (h : Counted near hold d past) :
    Counted near hold (emit (sample near hold) d xs).1 (past ++ xs) := by
  induction xs generalizing d past with
  | nil => simpa using h
  | cons x xs ih =>
      rw [emit_cons, ← List.singleton_append, ← List.append_assoc]
      refine ih ?_
      obtain ⟨hle, pre, far, rfl, hlen, hfar⟩ := h
      obtain ⟨a, n⟩ := d
      cases n with
      | zero =>
          rw [sample_over]
          exact ⟨Nat.le_refl hold, _, [], (List.append_nil _).symm, Nat.zero_add hold, by simp⟩
      | succ n =>
          by_cases hx : near a x
          · rw [sample_near hx]
            exact ⟨Nat.le_refl hold, _, [], (List.append_nil _).symm, Nat.zero_add hold, by simp⟩
          · rw [sample_far hx]
            refine ⟨Nat.le_of_succ_le hle, pre, far ++ [x], List.append_assoc _ _ _, ?_, ?_⟩
            · rw [List.length_append, List.length_singleton]
              simp only at hlen ⊢
              omega
            · intro y hy
              rcases List.mem_append.mp hy with halt | hneu
              · exact hfar y halt
              · rwa [List.mem_singleton.mp hneu]

end Hysteresis

end OpenHcan.Lib
