import Mathlib.Data.List.Basic

/-!
# Heartbeat — a sender and a receiver with clocks of their own

The sender reports at every `period`-th of its ticks, the receiver goes on for
`timeout` of its own ticks after a report. Nothing is known of the order in
which the two tick, except that the schedule is paced: the receiver does not
tick `timeout` times while the sender ticks less than `period` times.

`Beating` is the invariant. It speaks of the ticks since the last report, so it
is kept by every event that counts what it has to; `left_pos` is what it is for.
The past is newest first.
-/

namespace OpenHcan.Lib

variable {ε : Type*}

/-- Every stretch with `timeout` ticks of the receiver has `period` ticks of the sender. -/
def Paced (sender receiver : ε → Bool) (period timeout : Nat) (es : List ε) : Prop :=
  ∀ part, part <:+: es → timeout ≤ part.countP receiver → period ≤ part.countP sender

/-- The sender has `wait` ticks to go before it reports again, and the receiver has `left`
ticks to go before it gives up: since a report they have ticked at most as often as that. -/
def Beating (sender receiver : ε → Bool) (period timeout : Nat) (past : List ε)
    (wait left : Nat) : Prop :=
  ∃ recent, recent <+: past ∧ recent.countP sender + wait < period ∧
    timeout ≤ left + recent.countP receiver

variable {sender receiver : ε → Bool} {period timeout wait wait' left left' : Nat}
  {past es : List ε} {e : ε}

/-! ## The invariant -/

/-- A report has just arrived. -/
theorem Beating.start (hwait : wait < period) (hleft : timeout ≤ left) :
    Beating sender receiver period timeout past wait left :=
  ⟨[], List.nil_prefix, by simpa using hwait, by simpa using hleft⟩

/-- A tick of the sender is one less to wait. -/
theorem Beating.sent (h : Beating sender receiver period timeout past wait left)
    (hsender : sender e = true) (hwait : wait' + 1 ≤ wait) :
    Beating sender receiver period timeout (e :: past) wait' left := by
  obtain ⟨recent, hrecent, hsent, haged⟩ := h
  refine ⟨e :: recent, (List.prefix_cons_inj e).mpr hrecent, ?_, ?_⟩
  · rw [List.countP_cons_of_pos hsender]
    omega
  · rw [List.countP_cons]
    omega

/-- A tick of the receiver takes at most one off what it has left. -/
theorem Beating.aged (h : Beating sender receiver period timeout past wait left)
    (hsender : sender e = false) (hreceiver : receiver e = true) (hleft : left ≤ left' + 1) :
    Beating sender receiver period timeout (e :: past) wait left' := by
  obtain ⟨recent, hrecent, hsent, haged⟩ := h
  refine ⟨e :: recent, (List.prefix_cons_inj e).mpr hrecent, ?_, ?_⟩
  · rw [List.countP_cons_of_neg (by rw [hsender]; exact Bool.false_ne_true)]
    exact hsent
  · rw [List.countP_cons_of_pos hreceiver]
    omega

/-- An event that is neither. -/
theorem Beating.other (h : Beating sender receiver period timeout past wait left)
    (hsender : sender e = false) :
    Beating sender receiver period timeout (e :: past) wait left := by
  obtain ⟨recent, hrecent, hsent, haged⟩ := h
  refine ⟨e :: recent, (List.prefix_cons_inj e).mpr hrecent, ?_, ?_⟩
  · rw [List.countP_cons_of_neg (by rw [hsender]; exact Bool.false_ne_true)]
    exact hsent
  · rw [List.countP_cons]
    omega

/-- The receiver has been given its whole time again, by whomever. -/
theorem Beating.renew (h : Beating sender receiver period timeout past wait left)
    (hleft : timeout ≤ left') : Beating sender receiver period timeout past wait left' := by
  obtain ⟨recent, hrecent, hsent, -⟩ := h
  exact ⟨recent, hrecent, hsent, by omega⟩

/-- **The receiver does not give up** in a paced schedule. -/
theorem Beating.left_pos (h : Beating sender receiver period timeout past wait left)
    (hpaced : Paced sender receiver period timeout past) : 0 < left := by
  obtain ⟨recent, hrecent, hsent, haged⟩ := h
  by_contra hzero
  have hticks : timeout ≤ recent.countP receiver := by omega
  have henough := hpaced recent hrecent.isInfix hticks
  omega

/-! ## Paced schedules -/

theorem Paced.part (h : Paced sender receiver period timeout es) {part : List ε}
    (hpart : part <:+: es) : Paced sender receiver period timeout part :=
  fun _ hsmall => h _ (hsmall.trans hpart)

/-- A receiver that waits longer is paced, too. -/
theorem Paced.longer {timeout' : Nat} (h : Paced sender receiver period timeout es)
    (hle : timeout ≤ timeout') : Paced sender receiver period timeout' es :=
  fun part hpart hticks => h part hpart (Nat.le_trans hle hticks)

/-- A schedule is paced in both directions. -/
theorem Paced.reverse (h : Paced sender receiver period timeout es) :
    Paced sender receiver period timeout es.reverse := by
  intro part hpart hticks
  have hback : part.reverse <:+: es := by
    rw [← List.reverse_infix, List.reverse_reverse]
    exact hpart
  rw [← List.countP_reverse (l := part)] at hticks ⊢
  exact h _ hback hticks

/-- The clocks are never more than `drift` ticks apart. -/
def Near (sender receiver : ε → Bool) (drift : Nat) (es : List ε) : Prop :=
  ∀ part, part <+: es → part.countP receiver ≤ part.countP sender + drift ∧
    part.countP sender ≤ part.countP receiver + drift

/-- Clocks that stay near each other are paced, with twice their drift to spare. -/
theorem Near.paced {drift : Nat} (h : Near sender receiver drift es) (period : Nat) :
    Paced sender receiver period (period + 2 * drift) es := by
  rintro part ⟨before, after, rfl⟩ hticks
  have hstart := h before ⟨part ++ after, by simp⟩
  have hend := h (before ++ part) ⟨after, rfl⟩
  rw [List.countP_append, List.countP_append] at hend
  omega

/-- Clocks that tick once in every round, in any order, are at most one tick apart. -/
theorem near_of_rounds {rounds : List (List ε)}
    (h : ∀ r ∈ rounds, r.countP sender = 1 ∧ r.countP receiver = 1) :
    Near sender receiver 1 rounds.flatten := by
  induction rounds with
  | nil =>
      intro part hpart
      rw [List.prefix_nil.mp hpart]
      exact ⟨Nat.zero_le _, Nat.zero_le _⟩
  | cons r rounds ih =>
      obtain ⟨hsender, hreceiver⟩ := h r List.mem_cons_self
      rintro part ⟨after, hsplit⟩
      rw [List.flatten_cons] at hsplit
      rcases List.append_eq_append_iff.mp hsplit with ⟨rest, rfl, -⟩ | ⟨rest, rfl, htail⟩
      · -- the round is not over
        rw [List.countP_append] at hsender hreceiver
        omega
      · have hrounds := fun r' hr' => h r' (List.mem_cons_of_mem r hr')
        have hnear := ih hrounds rest ⟨after, htail.symm⟩
        rw [List.countP_append, List.countP_append]
        omega

end OpenHcan.Lib
