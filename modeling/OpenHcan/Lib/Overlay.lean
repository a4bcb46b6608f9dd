import Mathlib.Logic.Function.Basic

/-!
# Overlay — a buffer that is overwritten up to a length

A buffer gets new data at its first `n` positions and keeps its old content
behind. `Fresh` says of a function that reads the buffer that the old content
has no influence on it.
-/

namespace OpenHcan.Lib

variable {β γ : Type*} {f : (Nat → β) → γ} {n : Nat} {data : Nat → β}

/-- The buffer after the first `n` positions are written. -/
def overlay (n : Nat) (data old : Nat → β) : Nat → β := fun i => if i < n then data i else old i

/-- Whatever the buffer held, `f` finds the same. -/
def Fresh (f : (Nat → β) → γ) (n : Nat) (data : Nat → β) : Prop :=
  ∀ old old', f (overlay n data old) = f (overlay n data old')

theorem overlay_lt {i : Nat} (h : i < n) (old : Nat → β) : overlay n data old i = data i := by
  simp [overlay, h]

theorem overlay_ge {i : Nat} (h : n ≤ i) (old : Nat → β) : overlay n data old i = old i := by
  simp [overlay, Nat.not_lt.mpr h]

/-- A byte of the old content that is not overwritten is a byte of the
buffer. -/
theorem overlay_update {p : Nat} (h : n ≤ p) (old : Nat → β) (b : β) :
    overlay n data (Function.update old p b) = Function.update (overlay n data old) p b := by
  funext i
  by_cases hi : i = p
  · subst hi
    simp [overlay_ge h]
  · simp [overlay, Function.update_of_ne hi]

/-- `f` is fresh as soon as it cannot tell the buffer from one that holds the
same data. -/
theorem fresh_of_congr (h : ∀ d : Nat → β, (∀ i < n, d i = data i) → f d = f data) :
    Fresh f n data := by
  intro old old'
  rw [h _ fun i hi => overlay_lt hi old, h _ fun i hi => overlay_lt hi old']

/-- A fresh function ignores every position behind the data. -/
theorem Fresh.update (h : Fresh f n data) {p : Nat} (hp : n ≤ p) (old : Nat → β) (b : β) :
    f (Function.update (overlay n data old) p b) = f (overlay n data old) := by
  rw [← overlay_update hp]
  exact h _ _

end OpenHcan.Lib
