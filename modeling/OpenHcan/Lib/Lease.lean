import OpenHcan.Lib.History

/-!
# Lease — what ends by itself

A lease is granted for a number of ticks. It ends with them, or when it is
revoked, and a new grant replaces the old one. A lease that has been granted
for 0 ticks is not counted down: it is held until something else is said.

`held_iff` reads the state off the past: the last thing said has been a grant,
and its ticks are not over. A machine that contains a lease says in every state
what an event means for it; `run_lease` takes the theorem over.
-/

namespace OpenHcan.Lib

/-- What an event means for a lease. -/
inductive LeaseEvent
  | idle
  | tick
  | revoke
  | grant (n : Nat)
deriving DecidableEq, Repr

/-- Nothing is said: the lease is as old as it is. -/
def LeaseEvent.Silent (e : LeaseEvent) : Prop := e = .idle ∨ e = .tick

instance (e : LeaseEvent) : Decidable e.Silent := by
  unfold LeaseEvent.Silent
  infer_instance

@[ext] structure Lease where
  held : Bool
  left : Nat
deriving DecidableEq, Repr

/-- A lease nobody has. -/
def Lease.free : Lease := ⟨false, 0⟩

/-- A tick: the last one of a lease ends it. -/
def Lease.age (l : Lease) : Lease :=
  if l.left = 0 then l else ⟨l.held && l.left ≠ 1, l.left - 1⟩

def Lease.step (l : Lease) : LeaseEvent → Lease
  | .idle => l
  | .tick => l.age
  | .revoke => .free
  | .grant n => ⟨true, n⟩

/-- The last thing said has been a grant for `n` ticks, and they are not over. -/
def Granted (es : List LeaseEvent) (n : Nat) : Prop :=
  ∃ pre post, es = pre ++ .grant n :: post ∧ (∀ e ∈ post, e.Silent) ∧
    (n = 0 ∨ post.count .tick < n)

variable {l : Lease} {n : Nat} {e : LeaseEvent} {es post : List LeaseEvent}

@[simp] theorem Lease.step_idle (l : Lease) : l.step .idle = l := rfl

@[simp] theorem Lease.step_tick (l : Lease) : l.step .tick = l.age := rfl

@[simp] theorem Lease.step_revoke (l : Lease) : l.step .revoke = .free := rfl

@[simp] theorem Lease.step_grant (l : Lease) (n : Nat) : l.step (.grant n) = ⟨true, n⟩ := rfl

/-! ## Silence -/

/-- A lease after a silence: its ticks are subtracted. -/
theorem run_silent (hpost : ∀ e ∈ post, e.Silent) (l : Lease) :
    run Lease.step l post =
      if l.left = 0 then l
      else ⟨l.held && decide (post.count .tick < l.left), l.left - post.count .tick⟩ := by
  induction post generalizing l with
  | nil =>
      by_cases h : l.left = 0
      · rw [if_pos h]
        rfl
      · rw [if_neg h]
        ext
        · simp [Nat.pos_of_ne_zero h]
        · simp
  | cons e post ih =>
      have hrest := fun e' he' => hpost e' (List.mem_cons_of_mem e he')
      rw [run_cons, ih hrest]
      rcases hpost e List.mem_cons_self with rfl | rfl
      · rw [List.count_cons_of_ne (by decide), Lease.step_idle]
      · rw [List.count_cons_self, Lease.step_tick]
        unfold Lease.age
        by_cases h0 : l.left = 0
        · rw [if_pos h0, if_pos h0, if_pos h0]
        · rw [if_neg h0, if_neg h0]
          by_cases h1 : l.left = 1
          · simp [h1]
          · have hleft : l.left - 1 ≠ 0 := by omega
            have hlt : post.count .tick < l.left - 1 ↔ post.count .tick + 1 < l.left := by omega
            simp only [hleft, if_false, h1, hlt, ne_eq, not_false_eq_true, decide_true,
              Bool.and_true]
            rw [Nat.add_comm (List.count _ _) 1, Nat.sub_add_eq]

/-- Nobody holds the lease, and nothing is counted. -/
theorem run_free (hpost : ∀ e ∈ post, e.Silent) : run Lease.step .free post = .free := by
  rw [run_silent hpost]
  rfl

/-- A grant, and a silence after it. -/
theorem held_grant (hpost : ∀ e ∈ post, e.Silent) (l : Lease) (n : Nat) :
    (run Lease.step l (.grant n :: post)).held ↔ n = 0 ∨ post.count .tick < n := by
  rw [run_cons, run_silent hpost, Lease.step_grant]
  by_cases hn : n = 0
  · simp [hn]
  · simp [hn]

/-! ## The last thing said -/

/-- Either nothing has been said, or there is a last thing. -/
theorem silent_or_last (es : List LeaseEvent) : (∀ e ∈ es, e.Silent) ∨
    ∃ pre e post, es = pre ++ e :: post ∧ ¬ e.Silent ∧ ∀ e' ∈ post, e'.Silent := by
  induction es with
  | nil => exact .inl nofun
  | cons e es ih =>
      rcases ih with hall | ⟨pre, e', post, rfl, hsaid, hpost⟩
      · by_cases he : e.Silent
        · left
          intro e' he'
          rcases List.mem_cons.mp he' with rfl | hin
          · exact he
          · exact hall e' hin
        · exact .inr ⟨[], e, es, rfl, he, hall⟩
      · exact .inr ⟨e :: pre, e', post, rfl, hsaid, hpost⟩

/-- What is said last in two ways is the same. -/
theorem last_unique {pre pre' post' : List LeaseEvent} {e' : LeaseEvent}
    (h : pre ++ e :: post = pre' ++ e' :: post') (he : ¬ e.Silent) (he' : ¬ e'.Silent)
    (hpost : ∀ x ∈ post, x.Silent) (hpost' : ∀ x ∈ post', x.Silent) : e = e' ∧ post = post' := by
  rcases List.append_eq_append_iff.mp h with ⟨a, rfl, htail⟩ | ⟨a, rfl, htail⟩
  · cases a with
    | nil => exact List.cons.inj htail
    | cons x a =>
        obtain ⟨-, rfl⟩ := List.cons.inj htail
        exact absurd (hpost e' (List.mem_append_right a List.mem_cons_self)) he'
  · cases a with
    | nil =>
        obtain ⟨rfl, rfl⟩ := List.cons.inj htail
        exact ⟨rfl, rfl⟩
    | cons x a =>
        obtain ⟨-, rfl⟩ := List.cons.inj htail
        exact absurd (hpost' e (List.mem_append_right a List.mem_cons_self)) he

theorem not_silent_grant (n : Nat) : ¬ (LeaseEvent.grant n).Silent := by
  simp [LeaseEvent.Silent]

/-- **The past of a lease**: it is held exactly if the last thing said has been a grant whose
ticks are not over. -/
theorem held_iff (es : List LeaseEvent) :
    (run Lease.step .free es).held ↔ ∃ n, Granted es n := by
  rcases silent_or_last es with hsilent | ⟨pre, e, post, rfl, hsaid, hpost⟩
  · rw [run_free hsilent]
    refine iff_of_false Bool.false_ne_true ?_
    rintro ⟨n, pre, post, rfl, -⟩
    exact not_silent_grant n (hsilent _ (List.mem_append_right pre List.mem_cons_self))
  · rw [run_append]
    cases e with
    | idle => exact absurd (.inl rfl) hsaid
    | tick => exact absurd (.inr rfl) hsaid
    | revoke =>
        rw [run_cons, Lease.step_revoke, run_free hpost]
        refine iff_of_false Bool.false_ne_true ?_
        rintro ⟨n, pre', post', heq, hpost', -⟩
        exact nomatch (last_unique heq hsaid (not_silent_grant n) hpost hpost').1
    | grant n =>
        rw [held_grant hpost]
        constructor
        · intro h
          exact ⟨n, pre, post, rfl, hpost, h⟩
        · rintro ⟨m, pre', post', heq, hpost', h⟩
          obtain ⟨hgrant, rfl⟩ := last_unique heq hsaid (not_silent_grant m) hpost hpost'
          rwa [LeaseEvent.grant.inj hgrant]

/-! ## Machines with a lease -/

section Machine

variable {σ ε : Type*} {step : σ → ε → σ}

/-- What the events of a run mean, in the states they come in. -/
def meanings (step : σ → ε → σ) (meaning : σ → ε → LeaseEvent) : σ → List ε → List LeaseEvent
  | _, [] => []
  | s, e :: es => meaning s e :: meanings step meaning (step s e) es

variable {meaning : σ → ε → LeaseEvent}

theorem meanings_append (s : σ) (es es' : List ε) :
    meanings step meaning s (es ++ es') =
      meanings step meaning s es ++ meanings step meaning (run step s es) es' := by
  induction es generalizing s with
  | nil => rfl
  | cons e es ih =>
      rw [List.cons_append, meanings, ih]
      rfl

/-- **The lease of a machine**: if every step does to it what the event means, so does a run. -/
theorem run_lease {lease : σ → Lease} {I : σ → Prop} (hkeep : ∀ s e, I s → I (step s e))
    (hstep : ∀ s e, I s → lease (step s e) = (lease s).step (meaning s e)) :
    ∀ (es : List ε) (s : σ), I s →
      lease (run step s es) = run Lease.step (lease s) (meanings step meaning s es) := by
  intro es
  induction es with
  | nil => intro s _; rfl
  | cons e es ih =>
      intro s hs
      rw [run_cons, ih _ (hkeep s e hs), hstep s e hs]
      rfl

/-- A machine that carries more than the meaning looks at. -/
theorem meanings_map {τ : Type*} {step' : τ → ε → τ} {meaning' : τ → ε → LeaseEvent} {π : σ → τ}
    (hstep : ∀ s e, π (step s e) = step' (π s) e) (es : List ε) (s : σ) :
    meanings step (fun s e => meaning' (π s) e) s es = meanings step' meaning' (π s) es := by
  induction es generalizing s with
  | nil => rfl
  | cons e es ih =>
      rw [meanings, ih, hstep]
      rfl

end Machine

end OpenHcan.Lib
