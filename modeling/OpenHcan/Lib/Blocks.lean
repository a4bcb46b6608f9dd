import Mathlib.Data.Nat.Nth

/-!
# Blocks — numbers given out in blocks

Some of the places `0, 1, …` each get a block of `w` numbers, one block after
the other from `base` on: the block of a place begins after the blocks of the
places before it. A search for a number that looks at the upper ends alone
finds its place, as long as that place is still there; for a number whose
place is gone, and for one below all blocks, it stops at a later place.
-/

namespace OpenHcan.Lib.Blocks

/-- The first number of the block of `i`. -/
def start (p : Nat → Prop) [DecidablePred p] (w base i : Nat) : Nat := base + w * Nat.count p i

/-- The number `m` is in the block of `i`. -/
def InBlock (p : Nat → Prop) [DecidablePred p] (w base i m : Nat) : Prop :=
  p i ∧ start p w base i ≤ m ∧ m < start p w base i + w

/-- The first of the places `q` whose block ends above `m`. -/
def search (q p : Nat → Prop) [DecidablePred q] [DecidablePred p] (w base N m : Nat) : Option Nat :=
  (List.range N).find? fun i => q i ∧ m < start p w base i + w

section

variable {q p : Nat → Prop} [DecidablePred q] [DecidablePred p] {w base N i j m : Nat}

theorem base_le_start (i : Nat) : base ≤ start p w base i := Nat.le_add_right _ _

theorem start_mono (h : i ≤ j) : start p w base i ≤ start p w base j :=
  Nat.add_le_add_left (Nat.mul_le_mul_left w (Nat.count_monotone p h)) base

/-- The next block begins behind this one. -/
theorem start_add_le (hi : p i) (h : i < j) : start p w base i + w ≤ start p w base j := by
  have hsucc : start p w base (i + 1) = start p w base i + w := by
    simp only [start, Nat.count_succ, if_pos hi, Nat.mul_add, Nat.mul_one, Nat.add_assoc]
  exact hsucc ▸ start_mono h

/-- No block begins before the first one. -/
theorem start_lt_iff (hw : 0 < w) : start p w base i < base + w ↔ ∀ j < i, ¬ p j := by
  constructor
  · intro hlt j hj hp
    have hle : base + w ≤ start p w base i :=
      Nat.le_trans (Nat.add_le_add_right (base_le_start j) w) (start_add_le hp hj)
    exact absurd hlt (Nat.not_lt.mpr hle)
  · intro hnone
    rw [start, Nat.count_iff_forall_not.mpr hnone, Nat.mul_zero]
    exact Nat.lt_add_of_pos_right hw

/-- A number is in one block at most. -/
theorem InBlock.unique (hi : InBlock p w base i m) (hj : InBlock p w base j m) : i = j := by
  obtain ⟨hpi, hlei, hlti⟩ := hi
  obtain ⟨hpj, hlej, hltj⟩ := hj
  rcases Nat.lt_trichotomy i j with hlt | heq | hgt
  · have hle : start p w base i + w ≤ start p w base j := start_add_le hpi hlt
    omega
  · exact heq
  · have hle : start p w base j + w ≤ start p w base i := start_add_le hpj hgt
    omega

/-- The blocks of the places below `N` lie between `base` and the start at `N`. -/
theorem InBlock.bounds (h : InBlock p w base i m) (hN : i < N) :
    base ≤ m ∧ m < start p w base N :=
  ⟨Nat.le_trans (base_le_start i) h.2.1, Nat.lt_of_lt_of_le h.2.2 (start_add_le h.1 hN)⟩

/-- Every number between them is in a block. -/
theorem exists_inBlock (hle : base ≤ m) (hlt : m < start p w base N) :
    ∃ i < N, InBlock p w base i m := by
  induction N with
  | zero => exact absurd hlt (by simpa [start] using hle)
  | succ N ih =>
      by_cases hN : m < start p w base N
      · obtain ⟨i, hi, hblock⟩ := ih hN
        exact ⟨i, Nat.lt_succ_of_lt hi, hblock⟩
      · -- the last place has a block, and it is its own
        have hp : p N := by
          by_contra hnot
          refine hN ?_
          simpa only [start, Nat.count_succ, if_neg hnot, Nat.add_zero] using hlt
        refine ⟨N, Nat.lt_succ_self N, hp, Nat.le_of_not_lt hN, ?_⟩
        simpa only [start, Nat.count_succ, if_pos hp, Nat.mul_add, Nat.mul_one, Nat.add_assoc]
          using hlt

theorem search_eq_some_iff : search q p w base N m = some i ↔
    i < N ∧ q i ∧ m < start p w base i + w ∧ ∀ j < i, q j → start p w base j + w ≤ m := by
  simp only [search, List.find?_range_eq_some, decide_eq_true_eq, List.mem_range,
    Bool.not_eq_true', decide_eq_false_iff_not, not_and, Nat.not_lt]
  tauto

/-- **A number whose place is there** is found. -/
theorem search_of_inBlock (hqp : ∀ i, q i → p i) (hi : i < N) (hq : q i)
    (h : InBlock p w base i m) : search q p w base N m = some i :=
  search_eq_some_iff.mpr ⟨hi, hq, h.2.2, fun j hj hqj =>
    Nat.le_trans (start_add_le (hqp j hqj) hj) h.2.1⟩

/-- **A number whose place is gone** lies below what is found. -/
theorem lt_start_of_search (hqp : ∀ i, q i → p i) (hgone : ¬ q i) (h : InBlock p w base i m)
    (hfound : search q p w base N m = some j) : m < start p w base j := by
  obtain ⟨-, hqj, hlt, -⟩ := search_eq_some_iff.mp hfound
  by_contra hle
  have hj : InBlock p w base j m := ⟨hqp j hqj, Nat.le_of_not_lt hle, hlt⟩
  exact hgone (h.unique hj ▸ hqj)

/-- **A number above all blocks** is not found. -/
theorem search_above (hqp : ∀ i, q i → p i) (h : start p w base N ≤ m) :
    search q p w base N m = none := by
  rw [Option.eq_none_iff_forall_not_mem]
  intro i hi
  obtain ⟨hN, hq, hlt, -⟩ := search_eq_some_iff.mp hi
  exact absurd hlt (Nat.not_lt.mpr (Nat.le_trans (start_add_le (hqp i hq) hN) h))

/-- **A number below all blocks**: the first place is found. -/
theorem search_below (h : m < base) :
    search q p w base N m = some i ↔ i < N ∧ q i ∧ ∀ j < i, ¬ q j := by
  have hlt (j : Nat) : m < start p w base j + w :=
    Nat.lt_of_lt_of_le h (Nat.le_trans (base_le_start j) (Nat.le_add_right _ w))
  simp only [search_eq_some_iff, hlt, true_and, Nat.not_le.mpr (hlt _), imp_false]

end

end OpenHcan.Lib.Blocks
