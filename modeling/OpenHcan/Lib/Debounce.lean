import OpenHcan.Lib.Demux
import Mathlib.Data.List.Chain

/-!
# Debounce — one report for each edge of a bouncing signal

A debouncer samples a level. When the sample differs from the level it has
reported last, it reports the new one and is blind for the next `hold` samples.
So its reports alternate, they keep a distance, and a signal that bounces for at
most `hold` samples after each edge is reported edge by edge.
-/

namespace OpenHcan.Lib

/-- The level reported last, and the number of samples that are still skipped. -/
structure Debouncer where
  counter : Nat
  level : Bool

namespace Debouncer

/-- One sample, and the new level if it is reported. -/
def sample (hold : Nat) (d : Debouncer) (x : Bool) : Debouncer × List Bool :=
  if d.counter = 0 then
    if x = d.level then (d, []) else (⟨hold, x⟩, [x])
  else (⟨d.counter - 1, d.level⟩, [])

variable {hold : Nat}

theorem sample_same {x : Bool} : sample hold ⟨0, x⟩ x = (⟨0, x⟩, []) := by
  simp [sample]

theorem sample_edge {x y : Bool} (h : y ≠ x) : sample hold ⟨0, x⟩ y = (⟨hold, y⟩, [y]) := by
  simp [sample, h]

theorem sample_blind {n : Nat} {x y : Bool} :
    sample hold ⟨n + 1, x⟩ y = (⟨n, x⟩, []) := by
  simp [sample]

/-- A sample reports nothing and keeps the level, or reports another level. -/
theorem sample_cases (d : Debouncer) (x : Bool) :
    ((sample hold d x).2 = [] ∧ (sample hold d x).1.level = d.level) ∨
      (x ≠ d.level ∧ (sample hold d x).2 = [x] ∧ (sample hold d x).1.level = x) := by
  unfold sample
  split_ifs with hzero hsame
  · exact .inl ⟨rfl, rfl⟩
  · exact .inr ⟨hsame, rfl, rfl⟩
  · exact .inl ⟨rfl, rfl⟩

/-- **The reports alternate**, from the level that was reported last. -/
theorem alternates (xs : List Bool) (d : Debouncer) :
    (d.level :: (emit (sample hold) d xs).2).IsChain (· ≠ ·) := by
  induction xs generalizing d with
  | nil => simp
  | cons x xs ih =>
      rw [emit_cons]
      have hrest := ih (sample hold d x).1
      obtain ⟨hout, hlevel⟩ | ⟨hne, hout, hlevel⟩ := @sample_cases hold d x
      · rw [hlevel] at hrest
        rw [hout]
        exact hrest
      · rw [hlevel] at hrest
        rw [hout]
        exact List.isChain_cons_cons.mpr ⟨hne.symm, hrest⟩

/-- The level is the one that was reported last. -/
theorem level_eq_getLast (xs : List Bool) (d : Debouncer) :
    (emit (sample hold) d xs).1.level = (emit (sample hold) d xs).2.getLastD d.level := by
  induction xs generalizing d with
  | nil => rfl
  | cons x xs ih =>
      rw [emit_cons]
      show (emit (sample hold) (sample hold d x).1 xs).1.level = _
      rw [ih]
      obtain ⟨hout, hlevel⟩ | ⟨-, hout, hlevel⟩ := @sample_cases hold d x
      · rw [hout, hlevel, List.nil_append]
      · rw [hout, hlevel, List.singleton_append, List.getLastD_cons]

/-- Blind samples are passed over. -/
theorem emit_blind (xs : List Bool) (n : Nat) (x : Bool) (h : xs.length ≤ n) :
    emit (sample hold) ⟨n, x⟩ xs = (⟨n - xs.length, x⟩, []) := by
  induction xs generalizing n with
  | nil => rfl
  | cons y xs ih =>
      obtain ⟨n, rfl⟩ : ∃ k, n = k + 1 := ⟨n - 1, by simp at h; omega⟩
      rw [emit_cons, sample_blind]
      simp only [List.nil_append]
      rw [ih n (Nat.le_of_succ_le_succ h), List.length_cons, Nat.add_sub_add_right]

/-- **The reports keep a distance**: `hold + 1` samples in a row have at most one. -/
theorem distance (xs : List Bool) (d : Debouncer) (h : xs.length ≤ hold + 1) :
    (emit (sample hold) d xs).2.length ≤ 1 := by
  induction xs generalizing d with
  | nil => simp
  | cons x xs ih =>
      have hlen : xs.length ≤ hold := Nat.le_of_succ_le_succ h
      obtain ⟨n, b⟩ := d
      cases n with
      | succ n =>
          rw [emit_cons, sample_blind]
          exact ih _ (Nat.le_succ_of_le hlen)
      | zero =>
          rw [emit_cons]
          by_cases hx : x = b
          · subst hx
            rw [sample_same]
            exact ih _ (Nat.le_succ_of_le hlen)
          · -- after a report the rest of the window is blind
            rw [sample_edge hx, emit_blind _ _ _ hlen]
            exact Nat.le_refl 1

theorem emit_steady (n : Nat) (x : Bool) :
    emit (sample hold) ⟨0, x⟩ (List.replicate n x) = (⟨0, x⟩, []) := by
  induction n with
  | zero => rfl
  | succ n ih =>
      rw [List.replicate_succ, emit_cons, sample_same]
      simp only [ih, List.nil_append]

/-- No more than `hold` samples are skipped. -/
theorem counter_le (xs : List Bool) (d : Debouncer) (h : d.counter ≤ hold) :
    (emit (sample hold) d xs).1.counter ≤ hold := by
  induction xs generalizing d with
  | nil => exact h
  | cons x xs ih =>
      rw [emit_cons]
      refine ih _ ?_
      unfold sample
      split_ifs with hzero hsame
      · exact h
      · exact Nat.le_refl hold
      · exact Nat.le_trans (Nat.sub_le d.counter 1) h

/-- The level that was reported last is not reported again. -/
theorem emit_level (k : Nat) (c : Nat) (x : Bool) :
    (emit (sample hold) ⟨c, x⟩ (List.replicate k x)).1.level = x ∧
      (emit (sample hold) ⟨c, x⟩ (List.replicate k x)).2 = [] := by
  induction k generalizing c with
  | zero => exact ⟨rfl, rfl⟩
  | succ k ih =>
      rw [List.replicate_succ, emit_cons]
      cases c with
      | zero =>
          rw [sample_same]
          exact ih 0
      | succ c =>
          rw [sample_blind]
          exact ih c

/-- **The level settles**: a level that is steady for `hold + 1` samples is reported. -/
theorem settles (d : Debouncer) (h : d.counter ≤ hold) (x : Bool) {n : Nat} (hn : hold < n) :
    (emit (sample hold) d (List.replicate n x)).1.level = x := by
  obtain ⟨c, b⟩ := d
  obtain ⟨k, rfl⟩ : ∃ k, n = c + (k + 1) := ⟨n - c - 1, by simp only at h; omega⟩
  rw [List.replicate_add, emit_append, emit_blind _ _ _ (Nat.le_of_eq List.length_replicate),
    List.length_replicate, Nat.sub_self, List.replicate_succ, emit_cons]
  by_cases hx : x = b
  · subst hx
    rw [sample_same]
    exact (emit_level k 0 x).1
  · rw [sample_edge hx]
    exact (emit_level k hold x).1

end Debouncer

/-- A signal that bounces for at most `hold` samples after an edge and is steady
otherwise, from the level before it, and its edges. -/
inductive Bounced (hold : Nat) : Bool → List Bool → List Bool → Prop
  | steady (b : Bool) (n : Nat) : Bounced hold b (List.replicate n b) []
  | last (b : Bool) (n : Nat) (bounce : List Bool) (h : bounce.length ≤ hold) :
      Bounced hold b (List.replicate n b ++ (!b) :: bounce) [!b]
  | edge (b : Bool) (n : Nat) (bounce : List Bool) (h : bounce.length = hold)
      {xs es : List Bool} (hrest : Bounced hold (!b) xs es) :
      Bounced hold b (List.replicate n b ++ (!b) :: (bounce ++ xs)) ((!b) :: es)

/-- **A debouncer reports the edges of a bouncing signal, and nothing else.** -/
theorem Bounced.reported {hold : Nat} {b : Bool} {xs es : List Bool} (h : Bounced hold b xs es) :
    (emit (Debouncer.sample hold) ⟨0, b⟩ xs).2 = es := by
  induction h with
  | steady b n => rw [Debouncer.emit_steady]
  | last b n bounce hlen =>
      rw [emit_append, Debouncer.emit_steady, emit_cons,
        Debouncer.sample_edge (Bool.eq_not.mp rfl), Debouncer.emit_blind _ _ _ hlen]
      rfl
  | edge b n bounce hlen hrest ih =>
      rw [emit_append, Debouncer.emit_steady, emit_cons,
        Debouncer.sample_edge (Bool.eq_not.mp rfl), emit_append,
        Debouncer.emit_blind _ _ _ (Nat.le_of_eq hlen), hlen, Nat.sub_self]
      simp only [List.nil_append]
      rw [ih]
      rfl

end OpenHcan.Lib
