import Mathlib.Data.List.Rotate

/-!
# Window — the newest values of a stream, in a ring

A ring that is written at a running index holds the newest values of a stream. Read
from the index on, round the ring, they stand in the order in which they came, and a
new value lets the oldest one leave. So after any number of values the window is the
end of everything there was.
-/

namespace OpenHcan.Lib

variable {α : Type*}

/-- A window with one more value: the oldest leaves it. -/
def slide (w : List α) (x : α) : List α := w.tail ++ [x]

theorem slide_ne_nil (w : List α) (x : α) : slide w x ≠ [] :=
  List.append_ne_nil_of_right_ne_nil w.tail (List.cons_ne_nil x [])

/-- **The end of everything**: what the window held at first, and what came then. -/
theorem foldl_slide (xs : List α) {w : List α} (h : w ≠ []) :
    xs.foldl slide w = (w ++ xs).drop xs.length := by
  induction xs generalizing w with
  | nil => simp
  | cons x xs ih =>
      obtain ⟨a, w, rfl⟩ := List.exists_cons_of_ne_nil h
      rw [List.foldl_cons, ih (slide_ne_nil _ x)]
      simp [slide]

/-- As many values as the window holds, or more, and nothing else is left in it. -/
theorem foldl_slide_full {xs w : List α} (h : w ≠ []) (hlen : w.length ≤ xs.length) :
    xs.foldl slide w = xs.drop (xs.length - w.length) := by
  rw [foldl_slide xs h, List.drop_append, List.drop_eq_nil_of_le hlen, List.nil_append]

/-- **Writing at the index slides the window.** -/
theorem rotate_set {ring : List α} {i : Nat} (h : i < ring.length) (x : α) :
    (ring.set i x).rotate (i + 1) = slide (ring.rotate i) x := by
  have hlen : i + 1 ≤ (ring.set i x).length := by rwa [List.length_set]
  have hne : ring.drop i ≠ [] := by simpa using h
  rw [List.rotate_eq_drop_append_take hlen, List.rotate_eq_drop_append_take (Nat.le_of_lt h),
    List.drop_set_of_lt (Nat.lt_succ_self i), slide, List.tail_append_of_ne_nil hne,
    List.tail_drop, List.append_assoc]
  have htake : (ring.set i x).take (i + 1) = ring.take i ++ [x] := by
    rw [List.take_succ_eq_append_getElem hlen, List.take_set_of_le (Nat.le_refl i),
      List.getElem_set_self]
  rw [htake]

end OpenHcan.Lib
