import Mathlib.Data.List.Basic

/-!
# Writer — a pointer that walks through a buffer

Every element is written where the pointer stands, and the pointer goes on.
What has been written is behind it, and what lies in front of it, or behind the
place where it started, is as it was.
-/

namespace OpenHcan.Lib

variable {β : Type*}

/-- A buffer and a pointer into it. -/
structure Writer (β : Type*) where
  buf : Nat → β
  ptr : Nat

namespace Writer

/-- `*ptr = b; ptr++;` -/
def put (w : Writer β) (b : β) : Writer β := ⟨Function.update w.buf w.ptr b, w.ptr + 1⟩

/-- All elements, in order. -/
def puts (w : Writer β) (l : List β) : Writer β := l.foldl put w

@[simp] theorem put_ptr (w : Writer β) (b : β) : (w.put b).ptr = w.ptr + 1 := rfl

theorem put_buf (w : Writer β) (b : β) (i : Nat) :
    (w.put b).buf i = if i = w.ptr then b else w.buf i := by
  simp only [put, Function.update_apply]

@[simp] theorem puts_nil (w : Writer β) : w.puts [] = w := rfl

@[simp] theorem puts_cons (w : Writer β) (b : β) (l : List β) :
    w.puts (b :: l) = (w.put b).puts l := rfl

/-- Behind the start nothing changes. -/
theorem puts_before (w : Writer β) (l : List β) {i : Nat} (h : i < w.ptr) :
    (w.puts l).buf i = w.buf i := by
  induction l generalizing w with
  | nil => rfl
  | cons b l ih =>
      have hput : i < (w.put b).ptr := Nat.lt_succ_of_lt h
      rw [puts_cons, ih _ hput, put_buf, if_neg (by omega)]

/-- **What is written is there.** -/
theorem puts_at (w : Writer β) (l : List β) {i : Nat} (h : i < l.length) :
    (w.puts l).buf (w.ptr + i) = l[i] := by
  induction l generalizing w i with
  | nil => exact absurd h (Nat.not_lt_zero i)
  | cons b l ih =>
      cases i with
      | zero =>
          have hput : w.ptr + 0 < (w.put b).ptr := by
            rw [put_ptr]
            omega
          rw [puts_cons, puts_before _ _ hput, put_buf, if_pos (Nat.add_zero _)]
          rfl
      | succ i =>
          have hi : i < l.length := by
            rw [List.length_cons] at h
            omega
          have hptr : w.ptr + (i + 1) = (w.put b).ptr + i := by
            rw [put_ptr]
            omega
          rw [puts_cons, hptr, ih _ hi, List.getElem_cons_succ]

end Writer

/-- `l` lies in the buffer from `p` on. -/
def Holds (buf : Nat → β) (p : Nat) (l : List β) : Prop :=
  ∀ i (h : i < l.length), buf (p + i) = l[i]

theorem Writer.holds_puts (w : Writer β) (l : List β) : Holds (w.puts l).buf w.ptr l :=
  fun _ h => w.puts_at l h

theorem holds_nil (buf : Nat → β) (p : Nat) : Holds buf p [] :=
  fun i h => absurd h (Nat.not_lt_zero i)

theorem holds_cons {buf : Nat → β} {p : Nat} {b : β} {l : List β} :
    Holds buf p (b :: l) ↔ buf p = b ∧ Holds buf (p + 1) l := by
  constructor
  · intro h
    constructor
    · exact h 0 (by simp)
    · intro i hi
      have hs := h (i + 1) (by simpa using hi)
      rwa [List.getElem_cons_succ, ← Nat.add_assoc, Nat.add_right_comm] at hs
  · rintro ⟨h0, hl⟩ i hi
    cases i with
    | zero => exact h0
    | succ i =>
        have hs := hl i (by simpa using hi)
        rwa [Nat.add_right_comm, Nat.add_assoc] at hs

theorem holds_append {buf : Nat → β} {l m : List β} : ∀ {p : Nat},
    Holds buf p (l ++ m) ↔ Holds buf p l ∧ Holds buf (p + l.length) m := by
  induction l with
  | nil =>
      intro p
      simp [holds_nil]
  | cons b l ih =>
      intro p
      rw [List.cons_append, holds_cons, holds_cons, ih, and_assoc, List.length_cons]
      rw [Nat.add_comm l.length 1, ← Nat.add_assoc]

/-- More elements behind those that are there. -/
theorem Holds.puts {buf : Nat → β} {p : Nat} {a : List β} (h : Holds buf p a) (l : List β) :
    Holds ((Writer.mk buf (p + a.length)).puts l).buf p (a ++ l) := by
  refine holds_append.mpr ⟨?_, Writer.holds_puts _ _⟩
  intro i hi
  have hbefore : p + i < (Writer.mk buf (p + a.length)).ptr := Nat.add_lt_add_left hi p
  rw [Writer.puts_before _ _ hbefore]
  exact h i hi

end OpenHcan.Lib
