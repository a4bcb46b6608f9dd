/-!
# ErrorState — computations that keep their state when they throw

C++ members are what they are when an exception leaves a method. `EStateM`
models that: an error carries the state it happened in. The rules below run
such a computation step by step on a state.
-/

namespace OpenHcan.Lib

variable {ε σ α β : Type}

/-- The state a computation leaves, also when it throws. -/
def stateOf : EStateM.Result ε σ α → σ
  | .ok _ s => s
  | .error _ s => s

theorem bind_apply (x : EStateM ε σ α) (g : α → EStateM ε σ β) (s : σ) :
    (x >>= g) s = match x s with
      | .ok a s' => g a s'
      | .error e s' => .error e s' := by
  show (x >>= g).run s = _
  rw [EStateM.run_bind, EStateM.run]
  cases x s <;> rfl

/-- What follows a computation that returns runs on the state it leaves. -/
theorem bind_ok {x : EStateM ε σ α} {s s' : σ} {a : α} (h : x s = .ok a s')
    (g : α → EStateM ε σ β) : (x >>= g) s = g a s' := by
  rw [bind_apply, h]

/-- What follows a computation that throws does not run. -/
theorem bind_error {x : EStateM ε σ α} {s s' : σ} {e : ε} (h : x s = .error e s')
    (g : α → EStateM ε σ β) : (x >>= g) s = .error e s' := by
  rw [bind_apply, h]

/-- What leads from every state to the one a computation leaves, and leads on,
leads from one computation to the next. -/
theorem rel_stateOf_bind {r : σ → σ → Prop} (htrans : ∀ s s' s'', r s s' → r s' s'' → r s s'')
    {x : EStateM ε σ α} {g : α → EStateM ε σ β} (hx : ∀ s, r s (stateOf (x s)))
    (hg : ∀ a s, r s (stateOf (g a s))) (s : σ) : r s (stateOf ((x >>= g) s)) := by
  have hs := hx s
  rw [bind_apply]
  cases hrun : x s with
  | ok a s' =>
      rw [hrun] at hs
      exact htrans _ _ _ hs (hg a s')
  | error e s' =>
      rw [hrun] at hs
      exact hs

/-- What two computations keep, one after the other keeps. -/
theorem stateOf_bind {κ : Type} (key : σ → κ) {x : EStateM ε σ α} {g : α → EStateM ε σ β}
    (hx : ∀ s, key (stateOf (x s)) = key s) (hg : ∀ a s, key (stateOf (g a s)) = key s) (s : σ) :
    key (stateOf ((x >>= g) s)) = key s :=
  rel_stateOf_bind (r := fun s s' => key s' = key s) (fun _ _ _ h h' => h'.trans h) hx hg s

theorem throw_apply (e : ε) (s : σ) : (throw e : EStateM ε σ α) s = .error e s := rfl

theorem get_apply (s : σ) : (get : EStateM ε σ σ) s = .ok s s := rfl

end OpenHcan.Lib
