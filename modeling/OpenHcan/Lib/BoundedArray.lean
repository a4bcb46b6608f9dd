import Mathlib.Data.List.Basic

/-!
# BoundedArray — arrays whose accesses are checked

`none` stands for an access outside the array, after which nothing is known.
A loop that copies cell by cell is defined up to the first such access, and
the rules below say when there is none and what the loop leaves.
-/

namespace OpenHcan.Lib

variable {α : Type} {n : Nat}

/-- `a[i] = x` -/
def write (a : Vector α n) (i : Nat) (x : α) : Option (Vector α n) :=
  if h : i < n then some (a.set i x h) else none

/-- `for (i = 0; i < k; i++) dst[i] = src[i];`, the reads being checked too. -/
def copyLoop (src : Nat → Option α) : Nat → Vector α n → Option (Vector α n)
  | 0, dst => some dst
  | k + 1, dst => do
      let filled ← copyLoop src k dst
      let x ← src k
      write filled k x

/-- `for (i = 0; i < k; i++) s += a[i];` -/
def readCells (a : Vector α n) : Nat → Option (List α)
  | 0 => some []
  | k + 1 => do
      let xs ← readCells a k
      let x ← a[k]?
      return xs ++ [x]

/-- Several assignments, one after the other. -/
def writeAll (ws : List (Nat × α)) (a : Vector α n) : Option (Vector α n) :=
  ws.foldlM (fun a w => write a w.1 w.2) a

/-- How many cells an array needs for the assignments. -/
def extent (ws : List (Nat × α)) : Nat := ws.foldr (fun w e => max (w.1 + 1) e) 0

/-- `dst` with its first `k` cells replaced. -/
def overwrite (src : Nat → α) (k : Nat) (dst : Vector α n) : Vector α n :=
  Vector.ofFn fun i => if i.val < k then src i else dst[i]

@[simp] theorem write_of_lt (a : Vector α n) {i : Nat} (h : i < n) (x : α) :
    write a i x = some (a.set i x h) := dif_pos h

theorem write_of_ge (a : Vector α n) {i : Nat} (h : n ≤ i) (x : α) : write a i x = none :=
  dif_neg (Nat.not_lt.mpr h)

/-- **Assignments stay inside** exactly if each of them does. -/
theorem writeAll_isSome_iff (ws : List (Nat × α)) (a : Vector α n) :
    (writeAll ws a).isSome ↔ ∀ w ∈ ws, w.1 < n := by
  induction ws generalizing a with
  | nil => exact iff_of_true rfl fun _ h => by cases h
  | cons w ws ih =>
      unfold writeAll
      rw [List.foldlM_cons, List.forall_mem_cons]
      by_cases hw : w.1 < n
      · rw [write_of_lt a hw]
        exact (ih _).trans (and_iff_right hw).symm
      · rw [write_of_ge a (Nat.not_lt.mp hw)]
        exact iff_of_false Bool.false_ne_true fun h => hw h.1

theorem writeAll_cons (w : Nat × α) (ws : List (Nat × α)) (a : Vector α n) :
    writeAll (w :: ws) a = (write a w.1 w.2).bind (writeAll ws) := by
  unfold writeAll
  rw [List.foldlM_cons]
  rfl

theorem writeAll_append (ws ws' : List (Nat × α)) (a : Vector α n) :
    writeAll (ws ++ ws') a = (writeAll ws a).bind (writeAll ws') := by
  unfold writeAll
  rw [List.foldlM_append]
  rfl

/-- A cell that no assignment names keeps its value. -/
theorem getElem?_writeAll_of_ne {ws : List (Nat × α)} {i : Nat} (hne : ∀ w ∈ ws, w.1 ≠ i) :
    ∀ {a a' : Vector α n}, writeAll ws a = some a' → a'[i]? = a[i]? := by
  induction ws with
  | nil =>
      intro a a' h
      cases h
      rfl
  | cons w ws ih =>
      intro a a' h
      rw [writeAll_cons] at h
      obtain ⟨b, hw, hrest⟩ := Option.bind_eq_some_iff.mp h
      rw [ih (fun w' hw' => hne w' (List.mem_cons_of_mem w hw')) hrest]
      by_cases hlt : w.1 < n
      · rw [write_of_lt a hlt] at hw
        cases hw
        exact Vector.getElem?_set_ne hlt (hne w List.mem_cons_self)
      · rw [write_of_ge a (Nat.not_lt.mp hlt)] at hw
        cases hw

/-- A cell has the value of the last assignment that names it. -/
theorem getElem?_writeAll_last {ws ws' : List (Nat × α)} {i : Nat} {x : α}
    (hne : ∀ w ∈ ws', w.1 ≠ i) {a a' : Vector α n}
    (h : writeAll (ws ++ (i, x) :: ws') a = some a') : a'[i]? = some x := by
  rw [writeAll_append] at h
  obtain ⟨b, -, hb⟩ := Option.bind_eq_some_iff.mp h
  rw [writeAll_cons] at hb
  obtain ⟨c, hc, hrest⟩ := Option.bind_eq_some_iff.mp hb
  rw [getElem?_writeAll_of_ne hne hrest]
  by_cases hlt : i < n
  · rw [write_of_lt b hlt] at hc
    cases hc
    simp [hlt]
  · rw [write_of_ge b (Nat.not_lt.mp hlt)] at hc
    cases hc

theorem lt_extent {w : Nat × α} {ws : List (Nat × α)} (h : w ∈ ws) : w.1 < extent ws := by
  induction ws with
  | nil => cases h
  | cons v ws ih =>
      show w.1 < max (v.1 + 1) (extent ws)
      rcases List.mem_cons.mp h with rfl | h
      · omega
      · have := ih h
        omega

/-- From `p` on the array must reach as far as the assignments do. -/
theorem forall_add_lt_iff {ws : List (Nat × α)} (hne : ws ≠ []) (p : Nat) :
    (∀ w ∈ ws, p + w.1 < n) ↔ p + extent ws ≤ n := by
  constructor
  · intro h
    induction ws with
    | nil => exact absurd rfl hne
    | cons v ws ih =>
        have hv := h v List.mem_cons_self
        show p + max (v.1 + 1) (extent ws) ≤ n
        by_cases hws : ws = []
        · subst hws
          show p + max (v.1 + 1) 0 ≤ n
          omega
        · have := ih hws fun w hw => h w (List.mem_cons_of_mem v hw)
          omega
  · intro h w hw
    have := lt_extent hw
    omega

@[simp] theorem getElem_overwrite (src : Nat → α) (k : Nat) (dst : Vector α n) (i : Nat)
    (h : i < n) : (overwrite src k dst)[i] = if i < k then src i else dst[i] := by
  simp [overwrite]

theorem overwrite_zero (src : Nat → α) (dst : Vector α n) : overwrite src 0 dst = dst := by
  ext i hi
  simp

theorem overwrite_succ (src : Nat → α) {k : Nat} (h : k < n) (dst : Vector α n) :
    overwrite src (k + 1) dst = (overwrite src k dst).set k (src k) h := by
  ext i hi
  rw [Vector.getElem_set, getElem_overwrite, getElem_overwrite]
  by_cases hik : k = i
  · subst hik
    simp
  · rw [if_neg hik]
    exact if_congr (by omega) rfl rfl

/-- **A loop that stays inside both arrays** fills the first cells. -/
theorem copyLoop_inside {src : Nat → Option α} {f : Nat → α} {k : Nat}
    (hsrc : ∀ i < k, src i = some (f i)) (hk : k ≤ n) (dst : Vector α n) :
    copyLoop src k dst = some (overwrite f k dst) := by
  induction k with
  | zero => rw [overwrite_zero, copyLoop]
  | succ k ih =>
      have hfilled := ih (fun i hi => hsrc i (Nat.lt_succ_of_lt hi)) (Nat.le_of_succ_le hk)
      rw [copyLoop, hfilled, hsrc k (Nat.lt_succ_self k), overwrite_succ f hk]
      exact write_of_lt _ hk _

/-- **A loop past the end of its destination** does not stay inside. -/
theorem copyLoop_outside (src : Nat → Option α) {k : Nat} (hk : n < k) (dst : Vector α n) :
    copyLoop src k dst = none := by
  induction k with
  | zero => exact absurd hk (Nat.not_lt_zero n)
  | succ k ih =>
      rw [copyLoop]
      rcases Nat.lt_or_ge n k with hlt | hge
      · rw [ih hlt]
        rfl
      · cases copyLoop src k dst with
        | none => rfl
        | some filled =>
            cases src k with
            | none => rfl
            | some x => exact write_of_ge filled (by omega) x

/-- A loop whose source has every cell it asks for stays inside exactly if its
destination has them too. -/
theorem copyLoop_isSome_iff (src : Nat → Option α) {k : Nat}
    (hsrc : ∀ i < k, i < n → (src i).isSome) (dst : Vector α n) :
    (copyLoop src k dst).isSome ↔ k ≤ n := by
  induction k with
  | zero => exact iff_of_true rfl (Nat.zero_le n)
  | succ k ih =>
      rcases Nat.lt_or_ge k n with hlt | hge
      · have hfilled := (ih fun i hi => hsrc i (Nat.lt_succ_of_lt hi)).mpr (Nat.le_of_lt hlt)
        obtain ⟨filled, hfilled⟩ := Option.isSome_iff_exists.mp hfilled
        obtain ⟨x, hx⟩ := Option.isSome_iff_exists.mp (hsrc k (Nat.lt_succ_self k) hlt)
        rw [copyLoop, hfilled, hx]
        refine iff_of_true ?_ hlt
        show (write filled k x).isSome
        rw [write_of_lt filled hlt]
        rfl
      · rw [copyLoop_outside src (Nat.lt_succ_of_le hge)]
        exact iff_of_false Bool.false_ne_true (Nat.not_le.mpr (Nat.lt_succ_of_le hge))

/-- Between arrays of one length. -/
theorem copyLoop_vector_isSome_iff (src dst : Vector α n) (k : Nat) :
    (copyLoop (fun i => src[i]?) k dst).isSome ↔ k ≤ n :=
  copyLoop_isSome_iff (fun i => src[i]?) (fun i _ hi => by simp [hi]) dst

/-- Between arrays of one length, a copy has the cells of its source. -/
theorem copyLoop_vector_take {src dst cells : Vector α n} {k : Nat}
    (h : copyLoop (fun i => src[i]?) k dst = some cells) :
    cells.toList.take k = src.toList.take k := by
  have hk : k ≤ n := (copyLoop_vector_isSome_iff src dst k).mp (by rw [h]; rfl)
  induction k generalizing cells with
  | zero => rfl
  | succ k ih =>
      obtain ⟨filled, hfilled⟩ := Option.isSome_iff_exists.mp
        ((copyLoop_vector_isSome_iff src dst k).mpr (Nat.le_of_succ_le hk))
      have hprev := ih hfilled (Nat.le_of_succ_le hk)
      have hlt : k < n := hk
      have hx : src[k]? = some src[k] := Vector.getElem?_eq_getElem hlt
      have hcells : some (filled.set k src[k] hlt) = some cells := by
        rw [← h, copyLoop, hfilled, hx]
        exact (write_of_lt filled hlt src[k]).symm
      cases hcells
      rw [List.take_add_one, List.take_add_one, Vector.toList_set,
        List.take_set_of_le (Nat.le_refl k), hprev]
      simp [hlt]

/-- The cells the loop has filled, as a list. -/
theorem overwrite_take {f : Nat → α} {k : Nat} (hk : k ≤ n) (dst : Vector α n) :
    (overwrite f k dst).toList.take k = (List.range k).map f := by
  apply List.ext_getElem
  · simp [hk]
  · intro i hi hi'
    have hik : i < k := by simpa using hi'
    simp [hik]

/-- **Reading cell by cell** stays inside exactly if there are so many cells. -/
theorem readCells_isSome_iff (a : Vector α n) (k : Nat) : (readCells a k).isSome ↔ k ≤ n := by
  induction k with
  | zero => exact iff_of_true rfl (Nat.zero_le n)
  | succ k ih =>
      rw [readCells]
      by_cases hlt : k < n
      · obtain ⟨xs, hxs⟩ := Option.isSome_iff_exists.mp (ih.mpr (Nat.le_of_lt hlt))
        rw [hxs, Vector.getElem?_eq_getElem hlt]
        exact iff_of_true rfl hlt
      · rw [Vector.getElem?_eq_none (Nat.not_lt.mp hlt)]
        refine iff_of_false ?_ hlt
        cases readCells a k <;> exact Bool.false_ne_true

end OpenHcan.Lib
