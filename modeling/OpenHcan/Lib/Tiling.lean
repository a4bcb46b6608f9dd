import Mathlib.Algebra.BigOperators.Group.Finset.Basic
import Mathlib.Algebra.Order.BigOperators.Group.List
import Mathlib.Algebra.Ring.Nat
import Mathlib.Data.List.Chain
import Mathlib.Logic.Function.Iterate
import Mathlib.Logic.Relation

/-!
# Tiling — a heap as a row of segments

A heap whose segments follow each other without gaps, each a header of `h`
cells (a tag and a size) followed by its payload. The abstract heap is the
list of segments; `Lays` ties it to a memory, read through two functions
`tagAt` and `sizeAt`. Every operation of such a heap replaces a run of
neighbouring segments by a run of the same span, so the rules below are
about that one move: the span of the whole heap stays (`span_replace`), and
a segment outside the run keeps its address (`At.replace`).
-/

namespace OpenHcan.Lib

/-- One segment: its tag and the number of payload cells. -/
structure Seg (τ : Type*) where
  tag : τ
  size : Nat
deriving DecidableEq, Repr

namespace Tiling

variable {τ : Type*} {h : Nat}

/-- The cells the segments cover, headers of `h` cells included. -/
def span (h : Nat) : List (Seg τ) → Nat
  | [] => 0
  | s :: bs => h + s.size + span h bs

@[simp] theorem span_nil : span h ([] : List (Seg τ)) = 0 := rfl

@[simp] theorem span_cons (s : Seg τ) (bs : List (Seg τ)) :
    span h (s :: bs) = h + s.size + span h bs := rfl

@[simp] theorem span_append (bs cs : List (Seg τ)) :
    span h (bs ++ cs) = span h bs + span h cs := by
  induction bs with
  | nil => simp
  | cons s bs ih => simp only [List.cons_append, span_cons, ih]; omega

theorem span_snoc (bs : List (Seg τ)) (s : Seg τ) :
    span h (bs ++ [s]) = span h bs + (h + s.size) := by
  simp

/-- Replacing a run by one of the same span keeps the span of the heap. -/
theorem span_replace {pre mid mid' post : List (Seg τ)} (hspan : span h mid' = span h mid) :
    span h (pre ++ mid' ++ post) = span h (pre ++ mid ++ post) := by
  simp only [span_append, hspan]

/-! ## Addresses -/

/-- Segment `s` starts at address `a` of the heap `bs` laid out from `base`. -/
def At (h base : Nat) (bs : List (Seg τ)) (a : Nat) (s : Seg τ) : Prop :=
  ∃ pre post, bs = pre ++ s :: post ∧ a = base + span h pre

theorem at_cons {base a : Nat} {s t : Seg τ} {bs : List (Seg τ)} :
    At h base (t :: bs) a s ↔
      (a = base ∧ s = t) ∨ At h (base + (h + t.size)) bs a s := by
  constructor
  · rintro ⟨pre, post, hbs, ha⟩
    cases pre with
    | nil =>
        simp only [List.nil_append, List.cons.injEq] at hbs
        exact .inl ⟨by simpa using ha, hbs.1.symm⟩
    | cons p pre =>
        simp only [List.cons_append, List.cons.injEq] at hbs
        obtain ⟨rfl, rfl⟩ := hbs
        exact .inr ⟨pre, post, rfl, by simp only [span_cons] at ha; omega⟩
  · rintro (⟨rfl, rfl⟩ | ⟨pre, post, rfl, ha⟩)
    · exact ⟨[], bs, rfl, by simp⟩
    · exact ⟨t :: pre, post, rfl, by simp only [span_cons]; omega⟩

theorem at_append {base a : Nat} {s : Seg τ} {bs cs : List (Seg τ)} :
    At h base (bs ++ cs) a s ↔ At h base bs a s ∨ At h (base + span h bs) cs a s := by
  induction bs generalizing base with
  | nil => simp [At]
  | cons t bs ih =>
      simp only [List.cons_append, at_cons, ih, span_cons, or_assoc, Nat.add_assoc]

/-- A segment lies inside the heap. -/
theorem At.bounds {base a : Nat} {s : Seg τ} {bs : List (Seg τ)} (hat : At h base bs a s) :
    base ≤ a ∧ a + (h + s.size) ≤ base + span h bs := by
  obtain ⟨pre, post, rfl, rfl⟩ := hat
  simp only [span_append, span_cons]
  omega

/-- Two segments at different addresses do not overlap. -/
theorem At.disjoint {base a b : Nat} {s t : Seg τ} {bs : List (Seg τ)}
    (hs : At h base bs a s) (ht : At h base bs b t) :
    (a = b ∧ s = t) ∨ a + (h + s.size) ≤ b ∨ b + (h + t.size) ≤ a := by
  induction bs generalizing base with
  | nil =>
      obtain ⟨pre, post, hbs, _⟩ := hs
      simp at hbs
  | cons u bs ih =>
      rcases at_cons.mp hs with ⟨rfl, rfl⟩ | hs'
      · rcases at_cons.mp ht with ⟨rfl, rfl⟩ | ht'
        · exact .inl ⟨rfl, rfl⟩
        · exact .inr (.inl ht'.bounds.1)
      · rcases at_cons.mp ht with ⟨rfl, rfl⟩ | ht'
        · exact .inr (.inr hs'.bounds.1)
        · exact ih hs' ht'

/-- **The frame rule**: a segment that is not one of the replaced run keeps
its address. -/
theorem At.replace {base a : Nat} {s : Seg τ} {pre mid mid' post : List (Seg τ)}
    (hspan : span h mid' = span h mid) (hat : At h base (pre ++ mid ++ post) a s)
    (hout : ¬ At h (base + span h pre) mid a s) :
    At h base (pre ++ mid' ++ post) a s := by
  rw [List.append_assoc, at_append, at_append] at hat ⊢
  rcases hat with hpre | hmid | hpost
  · exact .inl hpre
  · exact absurd hmid hout
  · exact .inr (.inr (by rwa [hspan]))

/-- The addresses of the segments, in order. -/
def starts (h : Nat) : Nat → List (Seg τ) → List Nat
  | _, [] => []
  | base, s :: bs => base :: starts h (base + (h + s.size)) bs

@[simp] theorem length_starts (base : Nat) (bs : List (Seg τ)) :
    (starts h base bs).length = bs.length := by
  induction bs generalizing base with
  | nil => rfl
  | cons s bs ih => simp [starts, ih]

theorem mem_starts {base a : Nat} {bs : List (Seg τ)} :
    a ∈ starts h base bs ↔ ∃ s, At h base bs a s := by
  induction bs generalizing base with
  | nil => simp [starts, At]
  | cons t bs ih =>
      simp only [starts, List.mem_cons, ih, at_cons]
      constructor
      · rintro (rfl | ⟨s, hs⟩)
        · exact ⟨t, .inl ⟨rfl, rfl⟩⟩
        · exact ⟨s, .inr hs⟩
      · rintro ⟨s, ⟨rfl, rfl⟩ | hs⟩
        · exact .inl rfl
        · exact .inr ⟨s, hs⟩

/-- Segments with a header have rising addresses. -/
theorem starts_pairwise (hh : 0 < h) (base : Nat) (bs : List (Seg τ)) :
    (starts h base bs).Pairwise (· < ·) := by
  induction bs generalizing base with
  | nil => exact List.Pairwise.nil
  | cons s bs ih =>
      rw [starts, List.pairwise_cons]
      refine ⟨?_, ih _⟩
      intro a ha
      obtain ⟨t, ht⟩ := mem_starts.mp ha
      have hb := ht.bounds.1
      omega

/-! ## Heaps in a memory -/

/-- The memory, read through `tagAt` and `sizeAt`, holds the headers of the
segments laid out from `a`. -/
def Lays (tagAt : Nat → τ) (sizeAt : Nat → Nat) (h : Nat) : Nat → List (Seg τ) → Prop
  | _, [] => True
  | a, s :: bs => tagAt a = s.tag ∧ sizeAt a = s.size ∧ Lays tagAt sizeAt h (a + (h + s.size)) bs

variable {tagAt tagAt' : Nat → τ} {sizeAt sizeAt' : Nat → Nat}

instance Lays.decidable [DecidableEq τ] (tagAt : Nat → τ) (sizeAt : Nat → Nat) (h : Nat) :
    ∀ (a : Nat) (bs : List (Seg τ)), Decidable (Lays tagAt sizeAt h a bs)
  | _, [] => isTrue trivial
  | a, s :: bs =>
      have := Lays.decidable tagAt sizeAt h (a + (h + s.size)) bs
      inferInstanceAs (Decidable (tagAt a = s.tag ∧ sizeAt a = s.size ∧ _))

@[simp] theorem lays_nil (a : Nat) : Lays tagAt sizeAt h a [] := trivial

theorem lays_append {a : Nat} {bs cs : List (Seg τ)} :
    Lays tagAt sizeAt h a (bs ++ cs) ↔
      Lays tagAt sizeAt h a bs ∧ Lays tagAt sizeAt h (a + span h bs) cs := by
  induction bs generalizing a with
  | nil => simp
  | cons s bs ih =>
      simp only [List.cons_append, Lays, ih, span_cons, Nat.add_assoc, and_assoc]

/-- A memory that agrees on the headers holds the same heap. -/
theorem Lays.congr {a : Nat} {bs : List (Seg τ)} (hl : Lays tagAt sizeAt h a bs)
    (hag : ∀ b s, At h a bs b s → tagAt' b = tagAt b ∧ sizeAt' b = sizeAt b) :
    Lays tagAt' sizeAt' h a bs := by
  induction bs generalizing a with
  | nil => trivial
  | cons s bs ih =>
      obtain ⟨ht, hs⟩ := hag a s (at_cons.mpr (.inl ⟨rfl, rfl⟩))
      exact ⟨ht.trans hl.1, hs.trans hl.2.1,
        ih hl.2.2 fun b t hb => hag b t (at_cons.mpr (.inr hb))⟩

/-- The header found at the address of a segment is the segment's. -/
theorem Lays.header {a b : Nat} {s : Seg τ} {bs : List (Seg τ)}
    (hl : Lays tagAt sizeAt h a bs) (hat : At h a bs b s) :
    tagAt b = s.tag ∧ sizeAt b = s.size := by
  obtain ⟨pre, post, rfl, rfl⟩ := hat
  have hmid := (lays_append.mp hl).2
  exact ⟨hmid.1, hmid.2.1⟩

/-- The sizes read at the heads of the segments, and the headers, are the span. -/
theorem Lays.sum_starts {a : Nat} {bs : List (Seg τ)} (hl : Lays tagAt sizeAt h a bs) :
    ((starts h a bs).map sizeAt).sum + h * bs.length = span h bs := by
  induction bs generalizing a with
  | nil => rfl
  | cons s bs ih =>
      have hrest := ih hl.2.2
      rw [starts, List.map_cons, List.sum_cons, hl.2.1, span_cons, List.length_cons, Nat.mul_succ]
      omega

/-- **The replacement rule**: the memory holds the heap with `mid'` in place
of `mid`, if it holds `mid'` there and kept the headers outside. -/
theorem Lays.replace {a : Nat} {pre mid mid' post : List (Seg τ)}
    (hl : Lays tagAt sizeAt h a (pre ++ mid ++ post)) (hspan : span h mid' = span h mid)
    (hmid : Lays tagAt' sizeAt' h (a + span h pre) mid')
    (hag : ∀ b s, At h a (pre ++ mid ++ post) b s →
      b + (h + s.size) ≤ a + span h pre ∨ a + span h pre + span h mid ≤ b →
      tagAt' b = tagAt b ∧ sizeAt' b = sizeAt b) :
    Lays tagAt' sizeAt' h a (pre ++ mid' ++ post) := by
  obtain ⟨⟨hpre, _⟩, hpost⟩ := And.imp_left lays_append.mp (lays_append.mp hl)
  refine lays_append.mpr ⟨lays_append.mpr ⟨hpre.congr fun b s hb => ?_, hmid⟩, ?_⟩
  · exact hag b s (at_append.mpr (.inl (at_append.mpr (.inl hb)))) (.inl hb.bounds.2)
  · rw [span_append, hspan, ← span_append]
    refine hpost.congr fun b s hb => ?_
    refine hag b s (at_append.mpr (.inr hb)) (.inr ?_)
    have := hb.bounds.1
    simp only [span_append] at this
    omega

/-- Walking from header to header passes through the segments: after `k`
steps the walk stands behind the first `k` of them. -/
theorem iterate_next {next : Nat → Nat} {a : Nat} {bs : List (Seg τ)}
    (hnext : ∀ b s, At h a bs b s → next b = b + (h + s.size)) :
    ∀ k, k ≤ bs.length → next^[k] a = a + span h (bs.take k) := by
  induction bs generalizing a with
  | nil => intro k hk; simp at hk; subst hk; simp
  | cons s bs ih =>
      intro k hk
      cases k with
      | zero => simp
      | succ k =>
          have hstep : next a = a + (h + s.size) := hnext a s (at_cons.mpr (.inl ⟨rfl, rfl⟩))
          rw [Function.iterate_succ_apply, hstep,
            ih (fun b t hb => hnext b t (at_cons.mpr (.inr hb))) k (by simpa using hk),
            List.take_succ_cons, span_cons]
          omega

/-- The segment in front of which the walk stands after `k` steps. -/
theorem at_take {a k : Nat} {s : Seg τ} {bs : List (Seg τ)} (hk : bs[k]? = some s) :
    At h a bs (a + span h (bs.take k)) s := by
  obtain ⟨hlt, rfl⟩ := List.getElem?_eq_some_iff.mp hk
  exact ⟨bs.take k, bs.drop (k + 1), by simp, rfl⟩

/-- The span of the heap is the sum over its segments. -/
theorem sum_span {bs : List (Seg τ)} {f : Nat → Nat}
    (hf : ∀ k s, bs[k]? = some s → f k = s.size + h) :
    ∑ k ∈ Finset.range bs.length, f k = span h bs := by
  induction bs generalizing f with
  | nil => simp
  | cons s bs ih =>
      rw [List.length_cons, Finset.sum_range_succ', span_cons,
        ih fun k t hk => hf (k + 1) t (by simpa using hk), hf 0 s rfl]
      omega

/-! ## Merging neighbours -/

/-- A free segment swallows its right neighbour, the neighbour's header
included. -/
def merge (h : Nat) (s t : Seg τ) : Seg τ := ⟨s.tag, s.size + h + t.size⟩

section Coalesce

variable (h : Nat) (free : τ → Bool) (cap : Nat)

/-- Two neighbours can be merged: both are free and the result is not larger
than `cap`. -/
def mergeable (s t : Seg τ) : Bool :=
  free s.tag && free t.tag && decide (s.size + h + t.size ≤ cap)

/-- Merge from left to right, `s` being the segment reached last. -/
def coalesceInto (s : Seg τ) : List (Seg τ) → List (Seg τ)
  | [] => [s]
  | t :: bs =>
      if mergeable h free cap s t then coalesceInto (merge h s t) bs
      else s :: coalesceInto t bs

/-- Merge all neighbours that can be merged, from left to right. -/
def coalesce : List (Seg τ) → List (Seg τ)
  | [] => []
  | s :: bs => coalesceInto h free cap s bs

end Coalesce

/-- One run of free segments is replaced by segments of the same span. -/
def Refit (free : τ → Bool) (h : Nat) (bs cs : List (Seg τ)) : Prop :=
  ∃ pre mid mid' post, bs = pre ++ mid ++ post ∧ cs = pre ++ mid' ++ post ∧
    span h mid' = span h mid ∧ ∀ s ∈ mid, free s.tag = true

variable {free : τ → Bool} {cap : Nat}

theorem Refit.span_eq {bs cs : List (Seg τ)} (hr : Refit free h bs cs) :
    span h cs = span h bs := by
  obtain ⟨pre, mid, mid', post, rfl, rfl, hspan, _⟩ := hr
  exact span_replace hspan

theorem Refit.cons {s : Seg τ} {bs cs : List (Seg τ)} (hr : Refit free h bs cs) :
    Refit free h (s :: bs) (s :: cs) := by
  obtain ⟨pre, mid, mid', post, rfl, rfl, hspan, hfree⟩ := hr
  exact ⟨s :: pre, mid, mid', post, rfl, rfl, hspan, hfree⟩

/-- A segment that is not free keeps its address. -/
theorem Refit.at {base a : Nat} {s : Seg τ} {bs cs : List (Seg τ)}
    (hr : Refit free h bs cs) (hs : free s.tag = false) (hat : At h base bs a s) :
    At h base cs a s := by
  obtain ⟨pre, mid, mid', post, rfl, rfl, hspan, hfree⟩ := hr
  refine hat.replace hspan fun hmid => ?_
  obtain ⟨pre', post', rfl, _⟩ := hmid
  have := hfree s (by simp)
  simp [hs] at this

theorem refits_at {base a : Nat} {s : Seg τ} {bs cs : List (Seg τ)}
    (hr : Relation.ReflTransGen (Refit free h) bs cs) (hs : free s.tag = false)
    (hat : At h base bs a s) : At h base cs a s := by
  induction hr with
  | refl => exact hat
  | tail _ hstep ih => exact hstep.at hs ih

theorem refits_span {bs cs : List (Seg τ)}
    (hr : Relation.ReflTransGen (Refit free h) bs cs) : span h cs = span h bs := by
  induction hr with
  | refl => rfl
  | tail _ hstep ih => exact hstep.span_eq.trans ih

/-- Merging is a sequence of refits. -/
theorem coalesceInto_refits (s : Seg τ) (bs : List (Seg τ)) :
    Relation.ReflTransGen (Refit free h) (s :: bs) (coalesceInto h free cap s bs) := by
  induction bs generalizing s with
  | nil => exact .refl
  | cons t bs ih =>
      rw [coalesceInto]
      split
      · rename_i hm
        simp only [mergeable, Bool.and_eq_true, decide_eq_true_eq] at hm
        refine .head ⟨[], [s, t], [merge h s t], bs, rfl, rfl, ?_, ?_⟩ (ih _)
        · simp only [merge, span_cons, span_nil]
          omega
        · simp [hm.1.1, hm.1.2]
      · exact Relation.ReflTransGen.lift (s :: ·) (fun _ _ hr => Refit.cons hr) _ _ (ih t)

theorem coalesce_refits (bs : List (Seg τ)) :
    Relation.ReflTransGen (Refit free h) bs (coalesce h free cap bs) := by
  cases bs with
  | nil => exact .refl
  | cons s bs => exact coalesceInto_refits s bs

/-! ### Nothing left to merge -/

/-- No two neighbours of the row can be merged. -/
def Settled (h : Nat) (free : τ → Bool) (cap : Nat) (bs : List (Seg τ)) : Prop :=
  bs.IsChain fun s t => mergeable h free cap s t = false

theorem mergeable_mono {s t u : Seg τ} (htag : u.tag = t.tag) (hsize : t.size ≤ u.size)
    (hno : mergeable h free cap s t = false) : mergeable h free cap s u = false := by
  rw [mergeable, htag]
  cases hf : free s.tag && free t.tag with
  | false => rfl
  | true =>
      rw [mergeable, hf, Bool.true_and, decide_eq_false_iff_not] at hno
      rw [Bool.true_and, decide_eq_false_iff_not]
      omega

/-- The segment merged into grows and keeps its tag. -/
theorem coalesceInto_head (h : Nat) (free : τ → Bool) (cap : Nat) (s : Seg τ)
    (bs : List (Seg τ)) :
    ∃ u cs, coalesceInto h free cap s bs = u :: cs ∧ u.tag = s.tag ∧ s.size ≤ u.size := by
  induction bs generalizing s with
  | nil => exact ⟨s, [], rfl, rfl, Nat.le_refl _⟩
  | cons t bs ih =>
      rw [coalesceInto]
      split
      · obtain ⟨u, cs, hcs, htag, hsize⟩ := ih (merge h s t)
        refine ⟨u, cs, hcs, htag, Nat.le_trans ?_ hsize⟩
        show s.size ≤ s.size + h + t.size
        omega
      · exact ⟨s, _, rfl, rfl, Nat.le_refl _⟩

/-- **Merging from left to right merges all there is to merge**: a segment that
could not be merged with its neighbour cannot be merged with what the
neighbour grows to. -/
theorem settled_coalesceInto (s : Seg τ) (bs : List (Seg τ)) :
    Settled h free cap (coalesceInto h free cap s bs) := by
  induction bs generalizing s with
  | nil => exact .singleton s
  | cons t bs ih =>
      rw [coalesceInto]
      split
      · exact ih _
      · next hno =>
          obtain ⟨u, cs, hcs, htag, hsize⟩ := coalesceInto_head h free cap t bs
          have hrest := ih t
          rw [hcs] at hrest ⊢
          exact .cons_cons (mergeable_mono htag hsize (Bool.eq_false_iff.mpr hno)) hrest

theorem settled_coalesce (bs : List (Seg τ)) : Settled h free cap (coalesce h free cap bs) := by
  cases bs with
  | nil => exact .nil
  | cons s bs => exact settled_coalesceInto s bs

/-- A settled row stays as it is. -/
theorem coalesce_of_settled {bs : List (Seg τ)} (hbs : Settled h free cap bs) :
    coalesce h free cap bs = bs := by
  cases bs with
  | nil => rfl
  | cons s bs =>
      induction bs generalizing s with
      | nil => rfl
      | cons t bs ih =>
          obtain ⟨hno, hrest⟩ := List.isChain_cons_cons.mp hbs
          rw [coalesce, coalesceInto, if_neg (by simp [hno])]
          exact congrArg (s :: ·) (ih t hrest)

theorem coalesce_coalesce (bs : List (Seg τ)) :
    coalesce h free cap (coalesce h free cap bs) = coalesce h free cap bs :=
  coalesce_of_settled (settled_coalesce bs)

/-- The segments that are not free are the same, at the same addresses. -/
theorem at_coalesceInto_iff {base a : Nat} {u : Seg τ} (hu : free u.tag = false) (s : Seg τ)
    (bs : List (Seg τ)) :
    At h base (coalesceInto h free cap s bs) a u ↔ At h base (s :: bs) a u := by
  induction bs generalizing s base with
  | nil => rfl
  | cons t bs ih =>
      rw [coalesceInto]
      split
      · next hm =>
          simp only [mergeable, Bool.and_eq_true, decide_eq_true_eq] at hm
          have hne : ∀ v : Seg τ, free v.tag = true → u ≠ v := by
            rintro v hv rfl
            rw [hu] at hv
            cases hv
          have hbase : base + (h + (merge h s t).size) = base + (h + s.size) + (h + t.size) := by
            show base + (h + (s.size + h + t.size)) = _
            omega
          rw [ih, at_cons, at_cons, at_cons, hbase]
          simp [hne s hm.1.1, hne t hm.1.2, hne (merge h s t) hm.1.1]
      · rw [at_cons, at_cons, ih]

theorem at_coalesce_iff {base a : Nat} {u : Seg τ} (hu : free u.tag = false) (bs : List (Seg τ)) :
    At h base (coalesce h free cap bs) a u ↔ At h base bs a u := by
  cases bs with
  | nil => rfl
  | cons s bs => exact at_coalesceInto_iff hu s bs

end Tiling

end OpenHcan.Lib
