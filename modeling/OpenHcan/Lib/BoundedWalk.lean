import Mathlib.Data.List.Basic

/-!
# BoundedWalk — a counter that moves up and down between two walls

The height of a bounded stack is a walk on the integers: a push is one step
up, a pop one step down. The walk ends early when a step down goes below zero
or a step up goes above `top`. How a walk ends depends on where it starts, and
the three rules below say how: a walk that falls off the lower end does so
from every lower start, one that falls off the upper end does so from every
higher start, and one that stays inside either stays inside with the same net
effect from a higher start or falls off the upper end.
-/

namespace OpenHcan.Lib

/-- One step of a walk. -/
inductive Move where
  | up
  | down
deriving DecidableEq, Repr

/-- How a walk ended, and where. -/
inductive Walked where
  | inside (p : Int)
  | below (p : Int)
  | above (p : Int)
deriving DecidableEq, Repr

/-- The walk along `moves` from `p` between `0` and `top`. -/
def walk (top : Int) : List Move → Int → Walked
  | [], p => .inside p
  | .up :: moves, p => if p + 1 > top then .above (p + 1) else walk top moves (p + 1)
  | .down :: moves, p => if p - 1 < 0 then .below (p - 1) else walk top moves (p - 1)

variable {top : Int}

@[simp] theorem walk_nil (p : Int) : walk top [] p = .inside p := rfl

theorem walk_up (moves : List Move) (p : Int) :
    walk top (.up :: moves) p
      = if p + 1 > top then .above (p + 1) else walk top moves (p + 1) := rfl

theorem walk_down (moves : List Move) (p : Int) :
    walk top (.down :: moves) p
      = if p - 1 < 0 then .below (p - 1) else walk top moves (p - 1) := rfl

/-- A walk of two parts goes on where the first part ended inside. -/
theorem walk_append (moves moves' : List Move) (p : Int) :
    walk top (moves ++ moves') p
      = match walk top moves p with
        | .inside p' => walk top moves' p'
        | ended => ended := by
  induction moves generalizing p with
  | nil => rfl
  | cons m moves ih =>
      cases m with
      | up =>
          simp only [List.cons_append, walk_up]
          split
          · rfl
          · exact ih (p + 1)
      | down =>
          simp only [List.cons_append, walk_down]
          split
          · rfl
          · exact ih (p - 1)

/-- A walk that stays inside never gets below zero. -/
theorem walk_inside_nonneg {moves : List Move} {p e : Int} (hp : 0 ≤ p)
    (h : walk top moves p = .inside e) : 0 ≤ e := by
  induction moves generalizing p with
  | nil =>
      cases h
      exact hp
  | cons m moves ih =>
      cases m with
      | up =>
          rw [walk_up] at h
          split at h
          · cases h
          · exact ih (by omega) h
      | down =>
          rw [walk_down] at h
          split at h
          · cases h
          · exact ih (by omega) h

/-- A walk that stays inside gets no higher than `top` or its start. -/
theorem walk_inside_le {moves : List Move} {p e : Int} (h : walk top moves p = .inside e) :
    e ≤ max p top := by
  induction moves generalizing p with
  | nil =>
      cases h
      exact Int.le_max_left _ _
  | cons m moves ih =>
      cases m with
      | up =>
          rw [walk_up] at h
          split at h
          · cases h
          · have := ih h
            omega
      | down =>
          rw [walk_down] at h
          split at h
          · cases h
          · have := ih h
            omega

/-- **A walk that falls below zero does so from every lower start.** -/
theorem walk_below_of_le {moves : List Move} {p p' b : Int} (hp : p' ≤ p)
    (h : walk top moves p = .below b) : ∃ b', walk top moves p' = .below b' := by
  induction moves generalizing p p' with
  | nil => cases h
  | cons m moves ih =>
      cases m with
      | up =>
          rw [walk_up] at h ⊢
          split at h
          · cases h
          · rw [if_neg (by omega)]
            exact ih (by omega) h
      | down =>
          rw [walk_down] at h ⊢
          split
          · exact ⟨_, rfl⟩
          · rw [if_neg (by omega)] at h
            exact ih (by omega) h

/-- **A walk that stays inside has the same net effect from a higher start**,
unless it leaves at the top there. -/
theorem walk_inside_of_le {moves : List Move} {p p' e : Int} (hp : p ≤ p')
    (h : walk top moves p = .inside e) :
    walk top moves p' = .inside (p' + (e - p)) ∨ ∃ b', walk top moves p' = .above b' := by
  induction moves generalizing p p' with
  | nil =>
      cases h
      left
      simp
  | cons m moves ih =>
      cases m with
      | up =>
          rw [walk_up] at h ⊢
          split at h
          · cases h
          · split
            · exact Or.inr ⟨_, rfl⟩
            · have := ih (show p + 1 ≤ p' + 1 by omega) h
              rwa [show p' + 1 + (e - (p + 1)) = p' + (e - p) by omega] at this
      | down =>
          rw [walk_down] at h ⊢
          split at h
          · cases h
          · rw [if_neg (by omega)]
            have := ih (show p - 1 ≤ p' - 1 by omega) h
            rwa [show p' - 1 + (e - (p - 1)) = p' + (e - p) by omega] at this

/-! ## The cells of a walk

A step up goes into the cell above, a step down comes out of the cell it
leaves. Both happen before the check that ends a walk.
-/

/-- A cell a step has touched, and whether the walk ended with that step. -/
structure Touch where
  cell : Int
  last : Bool
deriving DecidableEq, Repr

/-- The cells the walk along `moves` from `p` touches. -/
def touched (top : Int) : List Move → Int → List Touch
  | [], _ => []
  | .up :: moves, p =>
      if p + 1 > top then [⟨p + 1, true⟩] else ⟨p + 1, false⟩ :: touched top moves (p + 1)
  | .down :: moves, p =>
      if p - 1 < 0 then [⟨p, true⟩] else ⟨p, false⟩ :: touched top moves (p - 1)

theorem touched_up (moves : List Move) (p : Int) :
    touched top (.up :: moves) p
      = if p + 1 > top then [⟨p + 1, true⟩]
        else ⟨p + 1, false⟩ :: touched top moves (p + 1) := rfl

theorem touched_down (moves : List Move) (p : Int) :
    touched top (.down :: moves) p
      = if p - 1 < 0 then [⟨p, true⟩] else ⟨p, false⟩ :: touched top moves (p - 1) := rfl

theorem touched_append (moves moves' : List Move) (p : Int) :
    touched top (moves ++ moves') p
      = touched top moves p ++ match walk top moves p with
        | .inside p' => touched top moves' p'
        | _ => [] := by
  induction moves generalizing p with
  | nil => rfl
  | cons m moves ih =>
      cases m with
      | up =>
          simp only [List.cons_append, touched_up, walk_up]
          split
          · rfl
          · rw [ih, List.cons_append]
      | down =>
          simp only [List.cons_append, touched_down, walk_down]
          split
          · rfl
          · rw [ih, List.cons_append]

/-- A walk that stays inside ends with no step, and touches cells between the
walls. -/
theorem touched_of_inside {moves : List Move} {p e : Int} (hp : 0 ≤ p ∧ p ≤ top)
    (h : walk top moves p = .inside e) :
    ∀ t ∈ touched top moves p, t.last = false ∧ 0 ≤ t.cell ∧ t.cell ≤ top := by
  induction moves generalizing p with
  | nil => nofun
  | cons m moves ih =>
      cases m with
      | up =>
          rw [walk_up] at h
          rw [touched_up]
          split at h
          · cases h
          · next htop =>
              rw [if_neg htop]
              intro t ht
              rcases List.mem_cons.mp ht with rfl | ht
              · exact ⟨rfl, by show 0 ≤ p + 1; omega, by show p + 1 ≤ top; omega⟩
              · exact ih (by omega) h t ht
      | down =>
          rw [walk_down] at h
          rw [touched_down]
          split at h
          · cases h
          · next hzero =>
              rw [if_neg hzero]
              intro t ht
              rcases List.mem_cons.mp ht with rfl | ht
              · exact ⟨rfl, hp⟩
              · exact ih (by omega) h t ht

/-- A walk that falls below zero touches cells between the walls, ends at -1
and has touched a cell with the step that ended it. -/
theorem touched_of_below {moves : List Move} {p b : Int} (hp : 0 ≤ p ∧ p ≤ top)
    (h : walk top moves p = .below b) :
    b = -1 ∧ (∃ t ∈ touched top moves p, t.last = true) ∧
      ∀ t ∈ touched top moves p, 0 ≤ t.cell ∧ t.cell ≤ top := by
  induction moves generalizing p with
  | nil => cases h
  | cons m moves ih =>
      cases m with
      | up =>
          rw [walk_up] at h
          rw [touched_up]
          split at h
          · cases h
          · next htop =>
              rw [if_neg htop]
              obtain ⟨hb, ⟨t, ht, hlast⟩, hall⟩ := ih (by omega) h
              refine ⟨hb, ⟨t, List.mem_cons_of_mem _ ht, hlast⟩, fun t ht => ?_⟩
              rcases List.mem_cons.mp ht with rfl | ht
              · exact ⟨by show 0 ≤ p + 1; omega, by show p + 1 ≤ top; omega⟩
              · exact hall t ht
      | down =>
          rw [walk_down] at h
          rw [touched_down]
          split at h
          · next hzero =>
              rw [if_pos hzero]
              cases h
              refine ⟨by omega, ⟨_, List.mem_singleton_self _, rfl⟩, fun t ht => ?_⟩
              rw [List.mem_singleton.mp ht]
              exact hp
          · next hzero =>
              rw [if_neg hzero]
              obtain ⟨hb, ⟨t, ht, hlast⟩, hall⟩ := ih (by omega) h
              refine ⟨hb, ⟨t, List.mem_cons_of_mem _ ht, hlast⟩, fun t ht => ?_⟩
              rcases List.mem_cons.mp ht with rfl | ht
              · exact hp
              · exact hall t ht

/-- A walk that leaves at the top has touched a cell above it, with the step
that ended it. -/
theorem touched_of_above {moves : List Move} {p b : Int} (h : walk top moves p = .above b) :
    ∃ t ∈ touched top moves p, t.last = true ∧ top < t.cell := by
  induction moves generalizing p with
  | nil => cases h
  | cons m moves ih =>
      cases m with
      | up =>
          rw [walk_up] at h
          rw [touched_up]
          split at h
          · next htop =>
              rw [if_pos htop]
              exact ⟨_, List.mem_singleton_self _, rfl, htop⟩
          · next htop =>
              rw [if_neg htop]
              obtain ⟨t, ht, hlast⟩ := ih h
              exact ⟨t, List.mem_cons_of_mem _ ht, hlast⟩
      | down =>
          rw [walk_down] at h
          rw [touched_down]
          split at h
          · cases h
          · next hzero =>
              rw [if_neg hzero]
              obtain ⟨t, ht, hlast⟩ := ih h
              exact ⟨t, List.mem_cons_of_mem _ ht, hlast⟩

/-! ## The height of a walk -/

/-- How much higher than its start a walk without walls is after `i` steps. -/
def height : List Move → Nat → Int
  | _, 0 => 0
  | [], _ + 1 => 0
  | .up :: moves, i + 1 => 1 + height moves i
  | .down :: moves, i + 1 => -1 + height moves i

@[simp] theorem height_zero (moves : List Move) : height moves 0 = 0 := by
  cases moves <;> rfl

@[simp] theorem height_nil (i : Nat) : height [] i = 0 := by
  cases i <;> rfl

theorem height_up (moves : List Move) (i : Nat) :
    height (.up :: moves) (i + 1) = 1 + height moves i := rfl

theorem height_down (moves : List Move) (i : Nat) :
    height (.down :: moves) (i + 1) = -1 + height moves i := rfl

/-- A walk that stays inside ends as high as its steps take it. -/
theorem walk_inside_height {moves : List Move} {p e : Int} (h : walk top moves p = .inside e) :
    e = p + height moves moves.length := by
  induction moves generalizing p with
  | nil =>
      cases h
      simp
  | cons m moves ih =>
      cases m with
      | up =>
          rw [walk_up] at h
          split at h
          · cases h
          · rw [List.length_cons, height_up, ih h]
            omega
      | down =>
          rw [walk_down] at h
          split at h
          · cases h
          · rw [List.length_cons, height_down, ih h]
            omega

/-- **A walk stays inside iff it never gets too low or too high.** -/
theorem walk_inside_iff {moves : List Move} {p : Int} (hp : 0 ≤ p ∧ p ≤ top) :
    (∃ e, walk top moves p = .inside e) ↔
      ∀ i, 0 ≤ p + height moves i ∧ p + height moves i ≤ top := by
  induction moves generalizing p with
  | nil => simpa using hp
  | cons m moves ih =>
      constructor
      · rintro ⟨e, he⟩ i
        cases i with
        | zero => simpa using hp
        | succ i =>
            cases m with
            | up =>
                rw [walk_up] at he
                split at he
                · cases he
                · have := (ih (by omega)).mp ⟨e, he⟩ i
                  rw [height_up]
                  omega
            | down =>
                rw [walk_down] at he
                split at he
                · cases he
                · have := (ih (by omega)).mp ⟨e, he⟩ i
                  rw [height_down]
                  omega
      · intro h
        have hnext := fun i => h (i + 1)
        cases m with
        | up =>
            simp only [height_up] at hnext
            have hfirst := hnext 0
            rw [height_zero] at hfirst
            rw [walk_up, if_neg (by omega)]
            refine (ih (by omega)).mpr fun i => ?_
            have := hnext i
            omega
        | down =>
            simp only [height_down] at hnext
            have hfirst := hnext 0
            rw [height_zero] at hfirst
            rw [walk_down, if_neg (by omega)]
            refine (ih (by omega)).mpr fun i => ?_
            have := hnext i
            omega

/-- A walk that falls below zero has not been too high before. -/
theorem exists_of_below {moves : List Move} {p b : Int} (hp : p ≤ top)
    (h : walk top moves p = .below b) :
    ∃ i, p + height moves i < 0 ∧ ∀ j < i, p + height moves j ≤ top := by
  induction moves generalizing p with
  | nil => cases h
  | cons m moves ih =>
      cases m with
      | up =>
          rw [walk_up] at h
          split at h
          · cases h
          · obtain ⟨i, hi, hall⟩ := ih (by omega) h
            refine ⟨i + 1, by rw [height_up]; omega, fun j hj => ?_⟩
            cases j with
            | zero => simpa using hp
            | succ j =>
                have := hall j (by omega)
                rw [height_up]
                omega
      | down =>
          rw [walk_down] at h
          split at h
          · next hzero =>
              refine ⟨1, by rw [height_down, height_zero]; omega, fun j hj => ?_⟩
              rw [show j = 0 by omega, height_zero]
              omega
          · obtain ⟨i, hi, hall⟩ := ih (by omega) h
            refine ⟨i + 1, by rw [height_down]; omega, fun j hj => ?_⟩
            cases j with
            | zero => simpa using hp
            | succ j =>
                have := hall j (by omega)
                rw [height_down]
                omega

/-- Where the steps go below zero, and not too high before, the walk does. -/
theorem below_of_height {moves : List Move} {p : Int} (hp : 0 ≤ p) {i : Nat}
    (hi : p + height moves i < 0) (hall : ∀ j < i, p + height moves j ≤ top) :
    ∃ b, walk top moves p = .below b := by
  induction moves generalizing p i with
  | nil =>
      rw [height_nil] at hi
      omega
  | cons m moves ih =>
      cases i with
      | zero =>
          rw [height_zero] at hi
          omega
      | succ i =>
          have hnext := fun j hj => hall (j + 1) (Nat.succ_lt_succ hj)
          cases m with
          | up =>
              rw [height_up] at hi
              simp only [height_up] at hnext
              -- the first step is not the one that gets too low
              have hpos : 0 < i := by
                rcases Nat.eq_zero_or_pos i with rfl | hpos
                · rw [height_zero] at hi
                  omega
                · exact hpos
              have hfirst := hnext 0 hpos
              rw [height_zero] at hfirst
              rw [walk_up, if_neg (by omega)]
              refine ih (by omega) (i := i) (by omega) fun j hj => ?_
              have := hnext j hj
              omega
          | down =>
              rw [height_down] at hi
              simp only [height_down] at hnext
              rw [walk_down]
              split
              · exact ⟨_, rfl⟩
              · refine ih (by omega) (i := i) (by omega) fun j hj => ?_
                have := hnext j hj
                omega

/-- **A walk falls below zero iff it gets too low before it gets too high.** -/
theorem walk_below_iff {moves : List Move} {p : Int} (hp : 0 ≤ p ∧ p ≤ top) :
    (∃ b, walk top moves p = .below b) ↔
      ∃ i, p + height moves i < 0 ∧ ∀ j < i, p + height moves j ≤ top := by
  constructor
  · rintro ⟨b, hb⟩
    exact exists_of_below hp.2 hb
  · rintro ⟨i, hi, hall⟩
    exact below_of_height hp.1 hi hall

end OpenHcan.Lib
