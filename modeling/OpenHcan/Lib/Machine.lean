import Mathlib.Data.List.Basic

/-!
# Machine — runs of an event-driven machine

A deterministic machine is its step function `σ → ε → σ`; a run feeds it a
list of events. The two rules below are the induction every run-level result
is packaged with: `run_invariant` when every step preserves the invariant,
`run_guarded` when only the steps that meet a guard do. A guard is a
condition on the state BEFORE the step and the event, so a guarded run is a
hypothesis about the inputs of the run.
-/

namespace OpenHcan.Lib

variable {σ ε : Type*}

/-- The state after the events `es`, in order. -/
def run (step : σ → ε → σ) (s : σ) (es : List ε) : σ := es.foldl step s

/-- Every step of the run meets the guard `G` at the state before it. -/
def Guarded (step : σ → ε → σ) (G : σ → ε → Prop) : σ → List ε → Prop
  | _, [] => True
  | s, e :: es => G s e ∧ Guarded step G (step s e) es

variable {step : σ → ε → σ} {G : σ → ε → Prop} {I : σ → Prop}

@[simp] theorem run_nil (s : σ) : run step s [] = s := rfl

@[simp] theorem run_cons (s : σ) (e : ε) (es : List ε) :
    run step s (e :: es) = run step (step s e) es := rfl

theorem run_append (s : σ) (es es' : List ε) :
    run step s (es ++ es') = run step (run step s es) es' := by
  simp [run, List.foldl_append]

/-- **The invariant rule**: what every step preserves holds after every run. -/
theorem run_invariant (hstep : ∀ s e, I s → I (step s e)) :
    ∀ (es : List ε) (s : σ), I s → I (run step s es) := by
  intro es
  induction es with
  | nil => intro s h; exact h
  | cons e es ih => intro s h; exact ih _ (hstep s e h)

/-- **The guarded invariant rule**: what the steps that meet the guard
preserve holds after every run whose steps all meet it. -/
theorem run_guarded (hstep : ∀ s e, G s e → I s → I (step s e)) :
    ∀ (es : List ε) (s : σ), Guarded step G s es → I s → I (run step s es) := by
  intro es
  induction es with
  | nil => intro s _ h; exact h
  | cons e es ih => intro s hg h; exact ih _ hg.2 (hstep s e hg.1 h)

/-- **The simulation rule**: what is related stays related, if every step keeps it. -/
theorem run_simulates {τ : Type*} {step' : τ → ε → τ} {R : σ → τ → Prop}
    (hstep : ∀ s t e, R s t → R (step s e) (step' t e)) :
    ∀ (es : List ε) (s : σ) (t : τ), R s t → R (run step s es) (run step' t es) := by
  intro es
  induction es with
  | nil => intro s t h; exact h
  | cons e es ih => intro s t h; exact ih _ _ (hstep s t e h)

theorem guarded_append (s : σ) (es es' : List ε) :
    Guarded step G s (es ++ es') ↔ Guarded step G s es ∧ Guarded step G (run step s es) es' := by
  induction es generalizing s with
  | nil => exact ⟨fun h => ⟨trivial, h⟩, fun h => h.2⟩
  | cons e es ih =>
      show G s e ∧ Guarded step G (step s e) (es ++ es') ↔
        (G s e ∧ Guarded step G (step s e) es) ∧ Guarded step G (run step (step s e) es) es'
      rw [ih, and_assoc]

/-- A guarded run, step by step: what comes before a step does not matter. -/
theorem guarded_iff_split (es : List ε) (s : σ) :
    Guarded step G s es ↔ ∀ pre e post, es = pre ++ e :: post → G (run step s pre) e := by
  induction es generalizing s with
  | nil => exact iff_of_true trivial fun pre e post h => by simp at h
  | cons e es ih =>
      show G s e ∧ Guarded step G (step s e) es ↔ _
      rw [ih]
      constructor
      · rintro ⟨hhead, htail⟩ pre e' post hsplit
        cases pre with
        | nil =>
            obtain ⟨rfl, -⟩ := List.cons.inj hsplit
            exact hhead
        | cons a pre =>
            obtain ⟨rfl, hrest⟩ := List.cons.inj hsplit
            exact htail pre e' post hrest
      · intro h
        refine ⟨h [] e es rfl, fun pre e' post hsplit => ?_⟩
        exact h (e :: pre) e' post (congrArg (List.cons e) hsplit)

/-- Guards that agree on every step agree on every run. -/
theorem guarded_congr {G' : σ → ε → Prop} (h : ∀ s e, G s e ↔ G' s e) (es : List ε) (s : σ) :
    Guarded step G s es ↔ Guarded step G' s es := by
  induction es generalizing s with
  | nil => rfl
  | cons e es ih =>
      show G s e ∧ Guarded step G (step s e) es ↔ G' s e ∧ Guarded step G' (step s e) es
      rw [h, ih]

/-- **The relative rule**: two guards that agree in every state with the
invariant agree on every run, if the steps that meet them keep it. -/
theorem guarded_congr_of_invariant {G' : σ → ε → Prop}
    (hstep : ∀ s e, G s e → I s → I (step s e)) (h : ∀ s e, I s → (G s e ↔ G' s e)) :
    ∀ (es : List ε) (s : σ), I s → (Guarded step G s es ↔ Guarded step G' s es) := by
  intro es
  induction es with
  | nil => intro s _; rfl
  | cons e es ih =>
      intro s hs
      show G s e ∧ Guarded step G (step s e) es ↔ G' s e ∧ Guarded step G' (step s e) es
      rw [← h s e hs]
      apply and_congr_right
      intro hg
      exact ih _ (hstep s e hg hs)

/-- **The exact rule**: if a step keeps the invariant exactly when it meets the
guard, a run keeps it exactly when all its steps do. -/
theorem run_iff_guarded (hstep : ∀ s e, I (step s e) ↔ I s ∧ G s e) :
    ∀ (es : List ε) (s : σ), I (run step s es) ↔ I s ∧ Guarded step G s es := by
  intro es
  induction es with
  | nil => intro s; exact ⟨fun h => ⟨h, trivial⟩, fun h => h.1⟩
  | cons e es ih =>
      intro s
      show I (run step (step s e) es) ↔ I s ∧ G s e ∧ Guarded step G (step s e) es
      rw [ih, hstep, and_assoc]

/-- **The exact rule for all states of a run**: the steps that meet the guard keep
an invariant that gives the property, and a step after which the property holds
has met the guard. Then a run has the property in every state exactly when all
its steps meet the guard. -/
theorem always_iff_guarded {P : σ → Prop} (hP : ∀ s, I s → P s)
    (hkeep : ∀ s e, I s → G s e → I (step s e)) (hexact : ∀ s e, I s → P (step s e) → G s e) :
    ∀ (es : List ε) (s : σ), I s →
      ((∀ pre, pre <+: es → P (run step s pre)) ↔ Guarded step G s es) := by
  intro es
  induction es with
  | nil =>
      intro s hs
      refine iff_of_true (fun pre hpre => ?_) trivial
      rw [List.prefix_nil.mp hpre]
      exact hP s hs
  | cons e es ih =>
      intro s hs
      constructor
      · intro hall
        have hguard : G s e := hexact s e hs (hall [e] (List.prefix_append [e] es))
        refine ⟨hguard, (ih _ (hkeep s e hs hguard)).mp fun pre hpre => ?_⟩
        exact hall (e :: pre) (List.cons_prefix_cons.mpr ⟨rfl, hpre⟩)
      · rintro ⟨hhead, htail⟩ pre hpre
        cases pre with
        | nil => exact hP s hs
        | cons a pre =>
            obtain ⟨rfl, hrest⟩ := List.cons_prefix_cons.mp hpre
            exact (ih _ (hkeep s a hs hhead)).mpr htail pre hrest

/-- **The transfer rule**: steps that meet one guard keep the invariant and meet the
other guard, so runs that meet the one meet the other. -/
theorem guarded_of_guarded {G' : σ → ε → Prop} (hstep : ∀ s e, G s e → I s → I (step s e))
    (h : ∀ s e, G s e → I s → G' s e) :
    ∀ (es : List ε) (s : σ), I s → Guarded step G s es → Guarded step G' s es := by
  intro es
  induction es with
  | nil => intro s _ _; trivial
  | cons e es ih =>
      intro s hs hg
      exact ⟨h s e hg.1 hs, ih _ (hstep s e hg.1 hs) hg.2⟩

/-- **The exact rule with a trap**: a step that is right but does not meet the
guard falls into the trap, and only a wrong step leaves it. Then a run that does
not end in the trap is right exactly when all its steps meet the guard. -/
theorem guarded_iff_of_trap {Q : σ → ε → Prop} {T : σ → Prop}
    (hkeep : ∀ s e, I s → G s e → I (step s e) ∧ Q s e)
    (hfall : ∀ s e, I s → ¬ G s e → Q s e → T (step s e))
    (htrap : ∀ s e, Q s e → T s → T (step s e)) :
    ∀ (es : List ε) (s : σ), I s → ¬ T (run step s es) →
      (Guarded step Q s es ↔ Guarded step G s es) := by
  intro es
  induction es with
  | nil => intro s _ _; rfl
  | cons e es ih =>
      intro s hs hend
      by_cases hguard : G s e
      · obtain ⟨hs', hright⟩ := hkeep s e hs hguard
        show Q s e ∧ Guarded step Q (step s e) es ↔ G s e ∧ Guarded step G (step s e) es
        rw [ih _ hs' hend]
        exact and_congr_left' (iff_of_true hright hguard)
      · refine iff_of_false (fun hright => ?_) (fun h => hguard h.1)
        exact hend (run_guarded htrap es _ hright.2 (hfall s e hs hguard hright.1))

/-- A guard that an event meets in every state. -/
theorem guarded_replicate {e : ε} (h : ∀ s, G s e) :
    ∀ (n : Nat) (s : σ), Guarded step G s (List.replicate n e) := by
  intro n
  induction n with
  | zero => intro s; trivial
  | succ n ih => intro s; exact ⟨h s, ih _⟩

/-- A guard on the events alone is a condition on the list. -/
theorem guarded_of_forall {P : ε → Prop} :
    ∀ (es : List ε) (s : σ), (∀ e ∈ es, P e) → Guarded step (fun _ e => P e) s es := by
  intro es
  induction es with
  | nil => intro s _; trivial
  | cons e es ih =>
      intro s h
      exact ⟨h e (by simp), ih _ (fun e' he' => h e' (by simp [he']))⟩

/-! ## Machines that can go wrong

`none` is a state nothing is known of. Such a machine follows another one as
long as its steps meet a condition on the event.
-/

section TryRun

variable {ε' : Type*} {tryStep : σ → ε → Option σ} {step' : σ → ε' → σ} {f : ε → ε'} {P : ε → Prop}

/-- The state after `es`, if no step has gone wrong. -/
def tryRun (tryStep : σ → ε → Option σ) (s : σ) (es : List ε) : Option σ := es.foldlM tryStep s

@[simp] theorem tryRun_nil (s : σ) : tryRun tryStep s [] = some s := rfl

theorem tryRun_cons (s : σ) (e : ε) (es : List ε) :
    tryRun tryStep s (e :: es) = (tryStep s e).bind fun s' => tryRun tryStep s' es := by
  unfold tryRun
  rw [List.foldlM_cons]
  rfl

/-- **The following rule**: steps that meet the condition do what the other
machine does, so a run of such steps is a run of the other machine. -/
theorem tryRun_follows (hinv : ∀ s e, I s → I (step' s e))
    (hstep : ∀ s e, I s → P e → tryStep s e = some (step' s (f e))) :
    ∀ (es : List ε) (s : σ), I s → (∀ e ∈ es, P e) →
      tryRun tryStep s es = some (run step' s (es.map f)) := by
  intro es
  induction es with
  | nil => intro s _ _; rfl
  | cons e es ih =>
      intro s hs hP
      rw [tryRun_cons, hstep s e hs (hP e List.mem_cons_self), Option.bind_some]
      exact ih _ (hinv s (f e) hs) fun e' he' => hP e' (List.mem_cons_of_mem e he')

/-- **A run goes wrong exactly at the first step** that does not meet the
condition. -/
theorem tryRun_isSome_iff (hinv : ∀ s e, I s → I (step' s e))
    (hstep : ∀ s e, I s → P e → tryStep s e = some (step' s (f e)))
    (hfail : ∀ s e, I s → ¬ P e → tryStep s e = none) :
    ∀ (es : List ε) (s : σ), I s → ((tryRun tryStep s es).isSome ↔ ∀ e ∈ es, P e) := by
  intro es
  induction es with
  | nil => intro s _; simp
  | cons e es ih =>
      intro s hs
      rw [tryRun_cons, List.forall_mem_cons]
      by_cases hP : P e
      · rw [hstep s e hs hP, Option.bind_some, ih _ (hinv s (f e) hs)]
        exact (and_iff_right hP).symm
      · rw [hfail s e hs hP]
        exact iff_of_false Bool.false_ne_true fun h => hP h.1

end TryRun

end OpenHcan.Lib
