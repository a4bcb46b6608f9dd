import Mathlib.Data.List.Basic

/-!
# Demux — one automaton for each key

`emit` runs an automaton with outputs. `demux` keeps one for each key and feeds
every event to the one whose key it has. The automata do not see each other:
whatever the order in which the events of different keys arrive, each key gets
what its own events alone give.
-/

namespace OpenHcan.Lib

variable {κ σ ε ω : Type*}

/-- The state after the events, and the outputs in order. -/
def emit (step : σ → ε → σ × List ω) (s : σ) : List ε → σ × List ω
  | [] => (s, [])
  | e :: es => ((emit step (step s e).1 es).1, (step s e).2 ++ (emit step (step s e).1 es).2)

variable {step : σ → ε → σ × List ω}

@[simp] theorem emit_nil (s : σ) : emit step s [] = (s, []) := rfl

theorem emit_cons (s : σ) (e : ε) (es : List ε) :
    emit step s (e :: es) =
      ((emit step (step s e).1 es).1, (step s e).2 ++ (emit step (step s e).1 es).2) := rfl

theorem emit_append (s : σ) (es es' : List ε) :
    emit step s (es ++ es') =
      ((emit step (emit step s es).1 es').1,
        (emit step s es).2 ++ (emit step (emit step s es).1 es').2) := by
  induction es generalizing s with
  | nil => simp
  | cons e es ih =>
      rw [List.cons_append, emit_cons, ih, emit_cons]
      simp

/-- A row of events as one event. -/
theorem emit_flatMap {ε' : Type*} (f : ε' → List ε) (s : σ) (cs : List ε') :
    emit (fun s c => emit step s (f c)) s cs = emit step s (cs.flatMap f) := by
  induction cs generalizing s with
  | nil => rfl
  | cons c cs ih => rw [emit_cons, ih, List.flatMap_cons, emit_append]

/-- **The simulation rule** for automata with outputs. -/
theorem emit_simulates {τ ε' ω' : Type*} {step' : τ → ε' → τ × List ω'} {R : σ → τ → Prop}
    (f : ε' → ε) (g : ω' → ω)
    (hstep : ∀ s t x, R s t →
      R (step s (f x)).1 (step' t x).1 ∧ (step s (f x)).2 = (step' t x).2.map g)
    (xs : List ε') (s : σ) (t : τ) (h : R s t) :
    R (emit step s (xs.map f)).1 (emit step' t xs).1 ∧
      (emit step s (xs.map f)).2 = (emit step' t xs).2.map g := by
  induction xs generalizing s t with
  | nil => exact ⟨h, rfl⟩
  | cons x xs ih =>
      obtain ⟨hnext, hout⟩ := hstep s t x h
      obtain ⟨hrest, houts⟩ := ih _ _ hnext
      rw [List.map_cons, emit_cons, emit_cons, List.map_append, ← hout, ← houts]
      exact ⟨hrest, rfl⟩

/-- **The refinement rule** for automata with outputs: an event of the one is a row of
events of the other, which may be empty. -/
theorem emit_refines {τ ε' ω' : Type*} {step' : τ → ε' → τ × List ω'} {R : σ → τ → Prop}
    (row : ε → List ε') (g : ω' → ω)
    (hstep : ∀ s t e, R s t → R (step s e).1 (emit step' t (row e)).1 ∧
      (step s e).2 = (emit step' t (row e)).2.map g)
    (es : List ε) (s : σ) (t : τ) (h : R s t) :
    R (emit step s es).1 (emit step' t (es.flatMap row)).1 ∧
      (emit step s es).2 = (emit step' t (es.flatMap row)).2.map g := by
  have hsim := @emit_simulates _ _ _ step _ _ _ (fun t e => emit step' t (row e)) R id g hstep
    es s t h
  rwa [emit_flatMap, List.map_id] at hsim

/-- **The invariant rule** for automata with outputs: what a step keeps of the state
and all that was put out holds after every run. -/
theorem emit_invariant {I : σ → List ω → Prop}
    (hstep : ∀ s past e, I s past → I (step s e).1 (past ++ (step s e).2))
    (es : List ε) (s : σ) (past : List ω) (h : I s past) :
    I (emit step s es).1 (past ++ (emit step s es).2) := by
  induction es generalizing s past with
  | nil => simpa using h
  | cons e es ih =>
      rw [emit_cons, ← List.append_assoc]
      exact ih _ _ (hstep s past e h)

/-- If a step puts out one thing at most, what came before an output is the output of
a shorter run. -/
theorem emit_split (hone : ∀ s e, (step s e).2.length ≤ 1) {s : σ} {es : List ε}
    {pre post : List ω} {x : ω} (h : (emit step s es).2 = pre ++ x :: post) :
    ∃ es₁ e es₂, es = es₁ ++ e :: es₂ ∧ (emit step s es₁).2 = pre ∧
      (step (emit step s es₁).1 e).2 = [x] := by
  induction es generalizing s pre with
  | nil => simp at h
  | cons e es ih =>
      rw [emit_cons] at h
      match hout : (step s e).2, hone s e with
      | [], _ =>
          rw [hout] at h
          obtain ⟨es₁, e', es₂, rfl, hpre, hx⟩ := ih h
          refine ⟨e :: es₁, e', es₂, rfl, ?_, hx⟩
          rw [emit_cons, hout]
          exact hpre
      | [y], _ =>
          rw [hout] at h
          cases pre with
          | nil =>
              obtain ⟨rfl, -⟩ := List.cons.inj h
              exact ⟨[], e, es, rfl, rfl, hout⟩
          | cons z pre =>
              obtain ⟨rfl, hrest⟩ := List.cons.inj h
              obtain ⟨es₁, e', es₂, rfl, hpre, hx⟩ := ih hrest
              refine ⟨e :: es₁, e', es₂, rfl, ?_, hx⟩
              rw [emit_cons, hout, ← hpre]
              rfl

variable [DecidableEq κ]

/-- The automaton of the event's key takes a step. -/
def demux (key : ε → Option κ) (step : σ → ε → σ × List ω) (m : κ → σ) (e : ε) :
    (κ → σ) × List ω :=
  match key e with
  | none => (m, [])
  | some k => (Function.update m k (step (m k) e).1, (step (m k) e).2)

variable {key : ε → Option κ} {owner : ω → κ}

/-- **The demultiplexing rule**: the outputs of a key, and its state, are those
of the run over its own events. -/
theorem emit_demux (hown : ∀ s e k, key e = some k → ∀ x ∈ (step s e).2, owner x = k) (k : κ)
    (es : List ε) (m : κ → σ) :
    (emit (demux key step) m es).1 k = (emit step (m k) (es.filter (key · = some k))).1 ∧
    (emit (demux key step) m es).2.filter (owner · = k) =
      (emit step (m k) (es.filter (key · = some k))).2 := by
  induction es generalizing m with
  | nil => simp
  | cons e es ih =>
      rw [emit_cons]
      obtain ⟨ihstate, ihout⟩ := ih (demux key step m e).1
      rw [List.filter_append, ihstate, ihout]
      cases hkey : key e with
      | none => simp [demux, hkey]
      | some k' =>
          have hown' := hown (m k') e k' hkey
          by_cases hk : k' = k
          · subst hk
            have hall : (step (m k') e).2.filter (owner · = k') = (step (m k') e).2 := by
              apply List.filter_eq_self.mpr
              simpa using hown'
            simp [demux, hkey, emit_cons, hall]
          · have hnone : (step (m k') e).2.filter (owner · = k) = [] := by
              apply List.filter_eq_nil_iff.mpr
              intro x hx
              simp [hown' x hx, hk]
            have hother : Function.update m k' (step (m k') e).1 k = m k :=
              Function.update_of_ne (Ne.symm hk) _ _
            simp [demux, hkey, hk, hnone, hother]

end OpenHcan.Lib
