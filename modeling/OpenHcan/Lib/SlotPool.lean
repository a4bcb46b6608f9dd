import Mathlib.Data.List.Basic
import Mathlib.Data.List.Perm.Basic

/-!
# SlotPool — an array of slots, used or free

A row of slots, each of which may hold a value: `f b` is the value in the
slot `b`, or `none`. Two operations pick their slot by scanning from the
left: `put` fills the first free slot, `fetch` empties the first used one.
The pool is a bag under any order of the two (`contents_put_perm`,
`contents_fetch`); it is a queue as long as the used slots form an initial
run when one is filled (`Packed`, `contents_put_packed`).
-/

namespace OpenHcan.Lib.SlotPool

variable {α β : Type*} {f : β → Option α} {l : List β}

/-- The values in the pool, from the left. -/
def contents (f : β → Option α) (l : List β) : List α := l.filterMap f

/-- No used slot lies behind a free one. -/
def Packed (f : β → Option α) (l : List β) : Prop :=
  l.Pairwise fun b c => (f c).isSome → (f b).isSome

theorem contents_append (l l' : List β) :
    contents f (l ++ l') = contents f l ++ contents f l' := List.filterMap_append

theorem contents_cons_some {b : β} {a : α} (h : f b = some a) (l : List β) :
    contents f (b :: l) = a :: contents f l := List.filterMap_cons_some h

theorem contents_cons_none {b : β} (h : f b = none) (l : List β) :
    contents f (b :: l) = contents f l := List.filterMap_cons_none h

theorem contents_eq_nil (h : ∀ b ∈ l, f b = none) : contents f l = [] :=
  List.filterMap_eq_nil_iff.mpr h

/-- As many values as used slots. -/
theorem length_contents (l : List β) :
    (contents f l).length = l.countP fun b => (f b).isSome := by
  induction l with
  | nil => rfl
  | cons b l ih =>
      cases h : f b with
      | none => simp [contents_cons_none h, ih, h]
      | some a => simp [contents_cons_some h, ih, h]

/-- The scan from the left splits the row at the slot it finds. -/
theorem exists_first {p : β → Bool} (h : ∃ b ∈ l, p b = true) :
    ∃ pre b post, l = pre ++ b :: post ∧ l.findIdx? p = some pre.length ∧ p b = true ∧
      ∀ c ∈ pre, p c = false := by
  induction l with
  | nil => simp at h
  | cons d l ih =>
      by_cases hd : p d = true
      · exact ⟨[], d, l, rfl, by simp [List.findIdx?_cons, hd], hd, by simp⟩
      · have hd' : p d = false := by simpa using hd
        obtain ⟨pre, b, post, hl, hidx, hb, hpre⟩ := ih (by simpa [hd'] using h)
        refine ⟨d :: pre, b, post, by rw [hl]; rfl, ?_, hb, ?_⟩
        · rw [List.findIdx?_cons, hd', hidx]
          rfl
        · simpa [hd'] using hpre

/-- What the row is after the slot that was found has been overwritten. -/
theorem set_first (pre : List β) (b x : β) (post : List β) :
    (pre ++ b :: post).set pre.length x = pre ++ x :: post := by
  simp

theorem getD_first (pre : List β) (b d : β) (post : List β) :
    (pre ++ b :: post).getD pre.length d = b := by
  simp

/-! ## Filling the first free slot -/

section Put

variable {pre post : List β} {b x : β} {a : α}

theorem contents_put_perm (hb : f b = none) (hx : f x = some a) :
    (contents f (pre ++ x :: post)).Perm (a :: contents f (pre ++ b :: post)) := by
  rw [contents_append, contents_append, contents_cons_some hx, contents_cons_none hb]
  exact List.perm_middle

/-- **A packed pool is filled at the back.** -/
theorem contents_put_packed (hpacked : Packed f (pre ++ b :: post)) (hb : f b = none)
    (hx : f x = some a) : contents f (pre ++ x :: post) = contents f (pre ++ b :: post) ++ [a] := by
  have hpost : ∀ c ∈ post, f c = none := by
    intro c hc
    have hpair := (List.pairwise_append.mp hpacked).2.1
    have himp := List.rel_of_pairwise_cons hpair hc
    cases h : f c with
    | none => rfl
    | some a => simp [h, hb] at himp
  rw [contents_append, contents_append, contents_cons_some hx, contents_cons_none hb,
    contents_eq_nil hpost, List.append_nil]

end Put

/-! ## Emptying the first used slot -/

/-- The leftmost value is fetched. -/
theorem contents_fetch {pre post : List β} {b x : β} {a : α} (hpre : ∀ c ∈ pre, f c = none)
    (hb : f b = some a) (hx : f x = none) :
    contents f (pre ++ b :: post) = a :: contents f (pre ++ x :: post) := by
  rw [contents_append, contents_append, contents_cons_some hb, contents_cons_none hx,
    contents_eq_nil hpre]
  rfl

end OpenHcan.Lib.SlotPool
