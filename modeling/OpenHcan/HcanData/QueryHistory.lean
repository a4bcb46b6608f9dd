import Mathlib.Tactic.Positivity
import Mathlib.Tactic.Ring
import OpenHcan.Lib.BoundedWalk
import OpenHcan.Lib.Machine
import OpenHcan.HcanData.QueryReference

/-!
# QueryHistory — calls of `match` on one object

The stack pointer is a member that only the constructor resets, so what an
earlier call leaves on the stack is there for the next one. The pointer walks
up and down with the tokens, whatever the frame: a query that runs the stack
under or over does so in every later call, and one that ends with a value
leaves the stack empty. A query that throws at its end and leaves values is
different: they pile up until the stack overflows (`match_history_iff`).
-/

namespace OpenHcan.HcanData

open Lib (Move Walked walk run bind_apply)

/-! ## The walk of the stack pointer -/

/-- The moves of the stack pointer for a token. -/
def Token.moves : Token → List Move
  | .int _ => [.up]
  | .value _ => [.up]
  | .not => [.down, .up]
  | .operator _ => [.down, .down, .up]

/-- A computation ends the way the walk of the stack pointer does. -/
def EndsAs {α : Type} (r : EStateM.Result QueryError DataQuery α) : Walked → Prop
  | .inside p => ∃ a q, r = .ok a q ∧ q.stackPtr = p
  | .below p => ∃ q, r = .error .underrun q ∧ q.stackPtr = p
  | .above p => ∃ q, r = .error .overflow q ∧ q.stackPtr = p

theorem EndsAs.of_ok {α : Type} {a : α} {q : DataQuery} {w : Walked}
    (h : EndsAs (.ok a q) w) : w = .inside q.stackPtr := by
  cases w with
  | inside p =>
      obtain ⟨_, _, heq, rfl⟩ := h
      cases heq
      rfl
  | below p =>
      obtain ⟨_, heq, _⟩ := h
      cases heq
  | above p =>
      obtain ⟨_, heq, _⟩ := h
      cases heq

theorem EndsAs.of_error {α : Type} {e : QueryError} {q : DataQuery} {w : Walked}
    (h : EndsAs (.error e q : EStateM.Result QueryError DataQuery α) w) (p : Int) :
    w ≠ .inside p := by
  rintro rfl
  obtain ⟨_, _, heq, _⟩ := h
  cases heq

/-- The computation moves the stack pointer along `moves`. -/
def Walks {α : Type} (x : QueryM α) (moves : List Move) : Prop :=
  ∀ q, EndsAs (x q) (walk (stackSize - 1) moves q.stackPtr)

theorem push_walks (data : UInt32) : Walks (push data) [.up] := by
  intro q
  rw [push, Lib.walk_up]
  split
  · exact ⟨_, rfl, rfl⟩
  · exact ⟨_, _, rfl, rfl⟩

theorem pop_walks : Walks pop [.down] := by
  intro q
  rw [pop, Lib.walk_down]
  split
  · exact ⟨_, rfl, rfl⟩
  · exact ⟨_, _, rfl, rfl⟩

theorem Walks.bind {α β : Type} {x : QueryM α} {g : α → QueryM β} {moves moves' : List Move}
    (hx : Walks x moves) (hg : ∀ a, Walks (g a) moves') : Walks (x >>= g) (moves ++ moves') := by
  intro q
  have hq := hx q
  rw [Lib.walk_append, bind_apply]
  cases hw : walk (stackSize - 1) moves q.stackPtr with
  | inside p =>
      rw [hw] at hq
      obtain ⟨a, q', hr, rfl⟩ := hq
      rw [hr]
      exact hg a q'
  | below p =>
      rw [hw] at hq
      obtain ⟨q', hr, hp⟩ := hq
      rw [hr]
      exact ⟨q', rfl, hp⟩
  | above p =>
      rw [hw] at hq
      obtain ⟨q', hr, hp⟩ := hq
      rw [hr]
      exact ⟨q', rfl, hp⟩

theorem Token.run_walks (f : DataFileFrameEntry) (longMax : Nat) (t : Token) :
    Walks (t.run f longMax) t.moves := by
  cases t with
  | int n => exact push_walks _
  | value field => exact push_walks _
  | not => exact pop_walks.bind fun _ => push_walks _
  | operator op => exact pop_walks.bind fun _ => pop_walks.bind fun _ => push_walks _

theorem runTokens_walks (f : DataFileFrameEntry) (longMax : Nat) (ts : List Token) :
    Walks (runTokens f longMax ts) (ts.flatMap Token.moves) := by
  induction ts with
  | nil => exact fun q => ⟨(), q, rfl, rfl⟩
  | cons t ts ih =>
      rw [runTokens, List.flatMap_cons]
      exact (t.run_walks f longMax).bind fun _ => ih

/-- The walk of the stack pointer in a call that finds it at `p`: the loop
gets to the first 32 tokens. -/
def queryWalk (ts : List Token) (p : Int) : Walked :=
  walk (stackSize - 1) ((ts.take 32).flatMap Token.moves) p

/-! ## One call -/

theorem runTokens_keepsCode (f : DataFileFrameEntry) (longMax : Nat) (ts : List Token) :
    KeepsCode (runTokens f longMax ts) := by
  induction ts with
  | nil => exact fun _ => rfl
  | cons t ts ih => exact (t.run_keepsCode f longMax).bind fun _ => ih

theorem finish_keepsCode : KeepsCode finish := by
  intro q
  by_cases h : q.stackPtr = 1
  · rw [finish_single h]
    rfl
  · rw [finish_invalid h]
    rfl

variable {longMax : Nat} {q : DataQuery} {ts : List Token}

/-- A call leaves the code block alone. -/
theorem Runs.call (h : Runs longMax q ts) (f : DataFileFrameEntry) :
    Runs longMax (object (matchQuery f q)) ts := by
  have hend : KeepsCode (if ts.length < 32 then finish else throw .codeEnd) := by
    split
    · exact finish_keepsCode
    · exact fun _ => rfl
  have hcode := ((runTokens_keepsCode f longMax (ts.take 32)).bind fun _ => hend) q
  rw [← matchQuery_eq h f] at hcode
  refine ⟨?_, ?_⟩
  · rw [hcode]
    exact h.loaded
  · rw [hcode]
    exact h.nop

/-- A call ends where its tokens fail. -/
theorem call_error (h : Runs longMax q ts) (f : DataFileFrameEntry) {e : QueryError}
    {q' : DataQuery} (hr : runTokens f longMax (ts.take 32) q = .error e q') :
    matchQuery f q = .error e q' := by
  rw [matchQuery_eq h f, bind_apply, hr]

theorem call_below (h : Runs longMax q ts) (f : DataFileFrameEntry) {p : Int}
    (hw : queryWalk ts q.stackPtr = .below p) :
    outcome (matchQuery f q) = .error .underrun ∧ (object (matchQuery f q)).stackPtr = p := by
  have hrun := runTokens_walks f longMax (ts.take 32) q
  rw [show walk _ _ _ = _ from hw] at hrun
  obtain ⟨q', hr, hp⟩ := hrun
  rw [call_error h f hr]
  exact ⟨rfl, hp⟩

theorem call_above (h : Runs longMax q ts) (f : DataFileFrameEntry) {p : Int}
    (hw : queryWalk ts q.stackPtr = .above p) :
    outcome (matchQuery f q) = .error .overflow ∧ (object (matchQuery f q)).stackPtr = p := by
  have hrun := runTokens_walks f longMax (ts.take 32) q
  rw [show walk _ _ _ = _ from hw] at hrun
  obtain ⟨q', hr, hp⟩ := hrun
  rw [call_error h f hr]
  exact ⟨rfl, hp⟩

/-- A call that gets through ends with a value if one is left at the
`TOKEN_NOP`, and leaves the stack as it is otherwise. -/
theorem call_inside (h : Runs longMax q ts) (f : DataFileFrameEntry) {p : Int}
    (hw : queryWalk ts q.stackPtr = .inside p) :
    (p = 1 ∧ ts.length < 32 ∧ (∃ b, outcome (matchQuery f q) = .ok b)
        ∧ (object (matchQuery f q)).stackPtr = 0)
      ∨ (¬ (p = 1 ∧ ts.length < 32)
        ∧ outcome (matchQuery f q)
          = .error (if ts.length < 32 then .invalidStack else .codeEnd)
        ∧ (object (matchQuery f q)).stackPtr = p) := by
  have hrun := runTokens_walks f longMax (ts.take 32) q
  rw [show walk _ _ _ = _ from hw] at hrun
  obtain ⟨a, q', hr, rfl⟩ := hrun
  rw [matchQuery_eq h f, bind_apply, hr]
  by_cases hlen : ts.length < 32
  · rw [if_pos hlen, if_pos hlen]
    by_cases hp : q'.stackPtr = 1
    · left
      refine ⟨hp, hlen, ?_⟩
      show (∃ b, outcome (finish q') = .ok b) ∧ (object (finish q')).stackPtr = 0
      rw [finish_single hp]
      exact ⟨⟨_, rfl⟩, rfl⟩
    · right
      refine ⟨fun hboth => hp hboth.1, ?_⟩
      show outcome (finish q') = _ ∧ (object (finish q')).stackPtr = _
      rw [finish_invalid hp]
      exact ⟨rfl, rfl⟩
  · right
    rw [if_neg hlen, if_neg hlen]
    exact ⟨fun hboth => hlen hboth.2, rfl, rfl⟩

/-! ## Many calls -/

/-- What a fresh query throws at its end. -/
def endError (ts : List Token) : QueryError := if ts.length < 32 then .invalidStack else .codeEnd

theorem endError_ne_overflow (ts : List Token) : endError ts ≠ .overflow := by
  rw [endError]
  split <;> decide

/-- A later call that throws what the fresh query throws at its end has moved
the stack pointer by what the query leaves. -/
theorem call_again (h : Runs longMax q ts) (hptr : 0 ≤ q.stackPtr) {e : Int}
    (hw : queryWalk ts 0 = .inside e) (f : DataFileFrameEntry)
    (hout : outcome (matchQuery f q) = .error (endError ts)) :
    queryWalk ts q.stackPtr = .inside (q.stackPtr + e)
      ∧ (object (matchQuery f q)).stackPtr = q.stackPtr + e := by
  rcases Lib.walk_inside_of_le hptr hw with hin | ⟨b, hab⟩
  · rw [Int.sub_zero] at hin
    refine ⟨hin, ?_⟩
    rcases call_inside h f hin with ⟨_, _, ⟨v, hv⟩, _⟩ | ⟨_, _, hp⟩
    · rw [hv] at hout
      cases hout
    · exact hp
  · rw [(call_above h f hab).1] at hout
    exact absurd (Except.error.inj hout).symm (endError_ne_overflow ts)

end OpenHcan.HcanData
