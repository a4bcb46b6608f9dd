import OpenHcan.Lib.Machine

/-!
# History — a machine with its past

Some properties of a step speak of the events before it. `recorded step` is
the machine that keeps them, the newest first, so a property of the past is a
structural recursion on a list and the rules for runs apply as they are.
-/

namespace OpenHcan.Lib

variable {σ ε : Type*} {step : σ → ε → σ}

/-- The machine beside the list of its past events, the newest first. -/
def recorded (step : σ → ε → σ) (c : σ × List ε) (e : ε) : σ × List ε :=
  (step c.1 e, e :: c.2)

/-- A recorded run is the run and its events. -/
theorem run_recorded (es : List ε) (s : σ) (past : List ε) :
    run (recorded step) (s, past) es = (run step s es, es.reverse ++ past) := by
  induction es generalizing s past with
  | nil => rfl
  | cons e es ih =>
      rw [run_cons, recorded, ih, run_cons, List.reverse_cons, List.append_assoc]
      rfl

/-- The machine beside an observer. It sees the state before and after each event. -/
def observed {ω : Type*} (step : σ → ε → σ) (obs : σ → ε → σ → ω → ω) (c : σ × ω) (e : ε) :
    σ × ω :=
  (step c.1 e, obs c.1 e (step c.1 e) c.2)

/-- The observer changes nothing. -/
theorem run_observed {ω : Type*} (obs : σ → ε → σ → ω → ω) (es : List ε) (c : σ × ω) :
    (run (observed step obs) c es).1 = run step c.1 es := by
  induction es generalizing c with
  | nil => rfl
  | cons e es ih => exact ih (observed step obs c e)

/-- A guard that does not look at the observer. -/
theorem guarded_observed {ω : Type*} (obs : σ → ε → σ → ω → ω) {G : σ → ε → Prop} (es : List ε)
    (c : σ × ω) :
    Guarded (observed step obs) (fun c e => G c.1 e) c es ↔ Guarded step G c.1 es := by
  induction es generalizing c with
  | nil => rfl
  | cons e es ih =>
      show G c.1 e ∧ Guarded (observed step obs) (fun c e => G c.1 e) (observed step obs c e) es ↔
        G c.1 e ∧ Guarded step G (step c.1 e) es
      rw [ih]
      rfl

/-- A guard that does not look at the past. -/
theorem guarded_recorded {G : σ → ε → Prop} (es : List ε) (s : σ) (past : List ε) :
    Guarded (recorded step) (fun c e => G c.1 e) (s, past) es ↔ Guarded step G s es :=
  guarded_observed (fun _ e _ past => e :: past) es (s, past)

/-- Two guards on one run. -/
theorem guarded_and {G G' : σ → ε → Prop} (es : List ε) (s : σ) :
    Guarded step (fun s e => G s e ∧ G' s e) s es ↔ Guarded step G s es ∧ Guarded step G' s es := by
  induction es generalizing s with
  | nil => exact iff_of_true trivial ⟨trivial, trivial⟩
  | cons e es ih =>
      show (G s e ∧ G' s e) ∧ Guarded step (fun s e => G s e ∧ G' s e) (step s e) es ↔
        (G s e ∧ Guarded step G (step s e) es) ∧ G' s e ∧ Guarded step G' (step s e) es
      rw [ih]
      exact and_and_and_comm

/-- A run can be checked step by step. -/
instance decidableGuarded {G : σ → ε → Prop} [∀ s e, Decidable (G s e)] :
    ∀ (es : List ε) (s : σ), Decidable (Guarded step G s es)
  | [], _ => .isTrue trivial
  | e :: es, s =>
      have := decidableGuarded (G := G) es (step s e)
      inferInstanceAs (Decidable (G s e ∧ Guarded step G (step s e) es))

end OpenHcan.Lib
