import Mathlib.Algebra.Ring.Nat
import Mathlib.Data.List.Basic

/-!
# Cursor — asking for the next element until the end

A client that enumerates what a server holds: it sends its cursor, gets the
next one together with an element, and goes on until the cursor is an end. What
a cursor yields is a relation of the server alone; every loop over it, whatever
it does with the elements, is then a fold over that one list.
-/

namespace OpenHcan.Lib

variable {κ α ε σ : Type*}

/-- The `do … while` loop of the client, `body` being what it does with a reply.
`none` is a loop that has not come to an end. -/
def cursorLoop (next : κ → Except ε (κ × α)) (atEnd : κ → Bool) (body : σ → κ × α → σ) :
    Nat → κ → σ → Option (Except ε σ)
  | 0, _, _ => none
  | fuel + 1, k, acc =>
      match next k with
      | .error e => some (.error e)
      | .ok r =>
          let acc := body acc r
          if atEnd r.1 then some (.ok acc) else cursorLoop next atEnd body fuel r.1 acc

/-- From the cursor `k` on the server gives the replies `l`, the end included. -/
inductive Yields (next : κ → Except ε (κ × α)) (atEnd : κ → Bool) : κ → List (κ × α) → Prop
  | last {k : κ} {r : κ × α} (hnext : next k = .ok r) (hend : atEnd r.1 = true) :
      Yields next atEnd k [r]
  | more {k : κ} {r : κ × α} {l : List (κ × α)} (hnext : next k = .ok r)
      (hend : atEnd r.1 = false) (htail : Yields next atEnd r.1 l) :
      Yields next atEnd k (r :: l)

variable {next : κ → Except ε (κ × α)} {atEnd : κ → Bool}

/-- **The loop rule**: a loop over a cursor that yields `l` ends after as many
turns as there are replies and has folded its body over them. -/
theorem Yields.cursorLoop_eq {k : κ} {l : List (κ × α)} (h : Yields next atEnd k l)
    (body : σ → κ × α → σ) {fuel : Nat} (hfuel : l.length ≤ fuel) (acc : σ) :
    cursorLoop next atEnd body fuel k acc = some (.ok (l.foldl body acc)) := by
  induction h generalizing fuel acc with
  | last hnext hend =>
      obtain ⟨fuel, rfl⟩ := Nat.exists_eq_succ_of_ne_zero
        (show fuel ≠ 0 from fun hzero => by simp [hzero] at hfuel)
      rw [cursorLoop, hnext]
      simp only [hend, if_true]
      rfl
  | more hnext hend _ ih =>
      obtain ⟨fuel, rfl⟩ := Nat.exists_eq_succ_of_ne_zero
        (show fuel ≠ 0 from fun hzero => by simp [hzero] at hfuel)
      rw [cursorLoop, hnext]
      simp only [hend, Bool.false_eq_true, if_false]
      exact ih (by simpa using hfuel) _

/-- A body that collects what it finds in a reply. -/
theorem foldl_collect {β : Type*} {f : α → Option β} {body : List β → α → List β} {l : List α} :
    ∀ acc, (∀ a ∈ l, ∀ acc, body acc a = acc ++ (f a).toList) →
      l.foldl body acc = acc ++ l.filterMap f := by
  induction l with
  | nil => intro acc _; simp
  | cons a l ih =>
      intro acc h
      rw [List.foldl_cons, h a List.mem_cons_self,
        ih _ fun a' ha' => h a' (List.mem_cons_of_mem a ha')]
      cases hf : f a <;> simp [hf]

/-- Two bodies that share out what they find: no reply is counted twice or
left out. -/
theorem foldl_share {body body' : Nat → α → Nat} {f : α → Nat} {l : List α} :
    ∀ x y, (∀ a ∈ l, ∀ x y, body x a + body' y a = x + y + f a) →
      l.foldl body x + l.foldl body' y = x + y + (l.map f).sum := by
  induction l with
  | nil => intro x y _; rfl
  | cons a l ih =>
      intro x y h
      rw [List.foldl_cons, List.foldl_cons, ih _ _ fun a' ha' => h a' (List.mem_cons_of_mem a ha'),
        h a List.mem_cons_self, List.map_cons, List.sum_cons, Nat.add_assoc]

end OpenHcan.Lib
