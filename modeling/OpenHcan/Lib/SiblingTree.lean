import Mathlib.Data.List.Basic

/-!
# SiblingTree — a forest of first children and next siblings

A pointer to a node is null, or the node with its label, a pointer to its
first child and one to its next sibling. `walk` is the recursive search through
such a forest that is bounded by a counter of the nodes it is done with: a node
is visited, then its children are walked through, then it is counted. A hit
sets the counter to the limit, and that is what ends the search.

What the walk visits is a matter of the document order alone (`walk_spec`):
the nodes with fewer than `limit` done before them, up to the first hit.
-/

namespace OpenHcan.Lib

/-- A pointer to a node with a label. -/
inductive Siblings (α : Type*) where
  | null
  | node (a : α) (children next : Siblings α)
deriving DecidableEq, Repr

namespace Siblings

variable {α σ : Type*}

/-- The number of nodes. -/
def size : Siblings α → Nat
  | null => 0
  | node _ children next => children.size + 1 + next.size

/-- The labels in document order. -/
def labels : Siblings α → List α
  | null => []
  | node a children next => a :: (children.labels ++ next.labels)

/-- The same, each with the number of nodes done before; `k` are done at the
start. -/
def order : Siblings α → Nat → List (α × Nat)
  | null, _ => []
  | node a children next, k =>
      (a, k) :: (children.order k ++ next.order (k + children.size + 1))

/-- The labels with fewer than `limit` nodes done before, in document order. -/
def reach (limit : Nat) (t : Siblings α) (k : Nat) : List α :=
  ((t.order k).filter fun e => decide (e.2 < limit)).map Prod.fst

/-- The search: visit, children, count, next, while the counter is below
`limit`. -/
def walk (limit : Nat) (hit : α → Bool) (visit : α → σ → σ) : Siblings α → σ × Nat → σ × Nat
  | null, s => s
  | node a children next, (s, n) =>
      if n < limit then
        let below := children.walk limit hit visit (visit a s, if hit a then limit else n)
        next.walk limit hit visit (below.1, below.2 + 1)
      else (s, n)

/-- A list up to its first hit. -/
def upTo (hit : α → Bool) : List α → List α
  | [] => []
  | a :: l => a :: if hit a then [] else upTo hit l

variable {limit : Nat} {hit : α → Bool} {visit : α → σ → σ}

theorem upTo_of_forall {l : List α} (h : ∀ a ∈ l, hit a = false) : upTo hit l = l := by
  induction l with
  | nil => rfl
  | cons a l ih =>
      rw [upTo, h a (by simp), ih fun b hb => h b (by simp [hb])]
      rfl

theorem upTo_append_of_forall {l : List α} (h : ∀ a ∈ l, hit a = false) (l' : List α) :
    upTo hit (l ++ l') = l ++ upTo hit l' := by
  induction l with
  | nil => rfl
  | cons a l ih =>
      rw [List.cons_append, upTo, h a (by simp), ih fun b hb => h b (by simp [hb])]
      rfl

theorem upTo_append_of_exists {l : List α} (h : ∃ a ∈ l, hit a = true) (l' : List α) :
    upTo hit (l ++ l') = upTo hit l := by
  induction l with
  | nil => simp at h
  | cons a l ih =>
      rw [List.cons_append, upTo, upTo]
      cases ha : hit a with
      | true => rfl
      | false =>
          have htail : ∃ b ∈ l, hit b = true := by simpa [ha] using h
          simp [ih htail]

theorem le_of_mem_order {t : Siblings α} {k : Nat} {e : α × Nat} (h : e ∈ t.order k) :
    k ≤ e.2 := by
  induction t generalizing k with
  | null => simp [order] at h
  | node a children next ihc ihn =>
      simp only [order, List.mem_cons, List.mem_append] at h
      obtain rfl | h | h := h
      · exact Nat.le_refl _
      · exact ihc h
      · have := ihn h
        omega

theorem reach_of_le {t : Siblings α} {k : Nat} (h : limit ≤ k) : t.reach limit k = [] := by
  rw [reach, List.map_eq_nil_iff, List.filter_eq_nil_iff]
  intro e he
  have := le_of_mem_order he
  simp
  omega

theorem reach_node {a : α} {children next : Siblings α} {k : Nat} (h : k < limit) :
    (node a children next).reach limit k
      = a :: (children.reach limit k ++ next.reach limit (k + children.size + 1)) := by
  simp [reach, order, h]

theorem walk_of_le {t : Siblings α} {s : σ} {n : Nat} (h : limit ≤ n) :
    t.walk limit hit visit (s, n) = (s, n) := by
  cases t with
  | null => rfl
  | node a children next => rw [walk, if_neg (by omega)]

/-- The counter after a walk from `k`: at the limit if there was a hit, else
all nodes are counted, or as many as it takes to reach the limit. -/
def Counted (limit : Nat) (hit : α → Bool) (t : Siblings α) (k n : Nat) : Prop :=
  ((∃ a ∈ t.reach limit k, hit a = true) → limit ≤ n) ∧
    ((∀ a ∈ t.reach limit k, hit a = false) → n = k + t.size ∨ limit ≤ n ∧ limit ≤ k + t.size)

theorem counted_of_hit {t : Siblings α} {k n : Nat} (h : ∃ a ∈ t.reach limit k, hit a = true)
    (hn : limit ≤ n) : Counted limit hit t k n := by
  refine ⟨fun _ => hn, fun hall => ?_⟩
  obtain ⟨a, ha, hhit⟩ := h
  rw [hall a ha] at hhit
  cases hhit

theorem counted_of_le {t : Siblings α} {k n : Nat} (hk : limit ≤ k)
    (hn : n = k + t.size ∨ limit ≤ n) : Counted limit hit t k n := by
  rw [Counted, reach_of_le hk]
  refine ⟨by simp, fun _ => ?_⟩
  rcases hn with hn | hn
  · exact Or.inl hn
  · exact Or.inr ⟨hn, by omega⟩

/-- A node without hit at it and below counts as far as what follows it. -/
theorem Counted.node {a : α} {children next : Siblings α} {k n : Nat} (hlt : k < limit)
    (ha : hit a = false) (hall : ∀ b ∈ children.reach limit k, hit b = false)
    (h : Counted limit hit next (k + children.size + 1) n) :
    Counted limit hit (node a children next) k n := by
  rw [Counted, reach_node hlt]
  refine ⟨fun hin => h.1 ?_, fun hnone => ?_⟩
  · obtain ⟨b, hb, hbhit⟩ := hin
    simp only [List.mem_cons, List.mem_append] at hb
    obtain rfl | hb | hb := hb
    · simp [ha] at hbhit
    · simp [hall b hb] at hbhit
    · exact ⟨b, hb, hbhit⟩
  · have := h.2 fun b hb => hnone b (by simp [hb])
    rw [size]
    omega

/-- **The walk visits the nodes within reach, up to the first hit.** The
counter is what the next sibling needs to know of it. -/
theorem walk_spec (t : Siblings α) (s : σ) (k : Nat) :
    (t.walk limit hit visit (s, k)).1
        = (upTo hit (t.reach limit k)).foldl (fun s a => visit a s) s ∧
      Counted limit hit t k (t.walk limit hit visit (s, k)).2 := by
  induction t generalizing s k with
  | null => simp [walk, reach, order, upTo, Counted, size]
  | node a children next ihc ihn =>
      by_cases hk : limit ≤ k
      · rw [walk_of_le hk]
        refine ⟨?_, counted_of_le hk (Or.inr hk)⟩
        rw [reach_of_le hk]
        rfl
      · have hlt : k < limit := by omega
        rw [walk, if_pos hlt]
        cases ha : hit a with
        | true =>
            -- the counter is at the limit, so nothing below and nothing behind is visited
            simp only [if_true]
            rw [walk_of_le (Nat.le_refl _), walk_of_le (Nat.le_succ _)]
            refine ⟨by simp [reach_node hlt, upTo, ha], counted_of_hit ⟨a, ?_, ha⟩ (Nat.le_succ _)⟩
            simp [reach_node hlt]
        | false =>
            simp only [Bool.false_eq_true, if_false]
            obtain ⟨hstate, hhit, hno⟩ := ihc (visit a s) k
            by_cases hex : ∃ b ∈ children.reach limit k, hit b = true
            · have hlim := Nat.le_succ_of_le (hhit hex)
              rw [walk_of_le hlim, hstate]
              refine ⟨by simp [reach_node hlt, upTo, ha, upTo_append_of_exists hex],
                counted_of_hit ?_ hlim⟩
              obtain ⟨b, hb, hbhit⟩ := hex
              exact ⟨b, by simp [reach_node hlt, hb], hbhit⟩
            · have hall : ∀ b ∈ children.reach limit k, hit b = false := by simpa using hex
              have hfold : (upTo hit ((node a children next).reach limit k)).foldl
                    (fun s a => visit a s) s
                  = (upTo hit (next.reach limit (k + children.size + 1))).foldl
                    (fun s a => visit a s) (children.walk limit hit visit (visit a s, k)).1 := by
                rw [hstate, upTo_of_forall hall, reach_node hlt, upTo, ha,
                  upTo_append_of_forall hall]
                simp
              rw [hfold]
              rcases hno hall with hn | ⟨hn, hsize⟩
              · rw [hn]
                exact ⟨(ihn _ _).1, (ihn _ _).2.node hlt ha hall⟩
              · rw [walk_of_le (Nat.le_succ_of_le hn)]
                refine ⟨by rw [reach_of_le (by omega)]; rfl, ?_⟩
                exact (counted_of_le (by omega) (Or.inr (by omega))).node hlt ha hall

end Siblings

end OpenHcan.Lib
