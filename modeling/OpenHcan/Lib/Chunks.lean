import Mathlib.Data.List.Basic

/-!
# Chunks — a list cut into pieces of one size

`fill n data s` is what a loop writes that has already put `data` into a buffer
of `n` cells: it goes on with `s`, and every time the buffer is full and there
is something left the buffer is sent and filled anew. All pieces but the last
have `n` elements, and none is empty.
-/

namespace OpenHcan.Lib

variable {α : Type*}

/-- The buffers that are sent for `s`, the first one holding `data` already. -/
def fill (n : Nat) (data : List α) : List α → List (List α)
  | [] => [data]
  | c :: s => if data.length < n then fill n (data ++ [c]) s else data :: fill n [c] s

/-- Nothing is lost or added. -/
theorem flatten_fill (n : Nat) (data s : List α) : (fill n data s).flatten = data ++ s := by
  induction s generalizing data with
  | nil => simp [fill]
  | cons c s ih =>
      rw [fill]
      split
      · rw [ih]
        simp
      · simp [ih]

/-- What fits is sent in one piece. -/
theorem fill_short {n : Nat} {data s : List α} (h : data.length + s.length ≤ n) :
    fill n data s = [data ++ s] := by
  induction s generalizing data with
  | nil => simp [fill]
  | cons c s ih =>
      rw [List.length_cons] at h
      have hroom : (data ++ [c]).length + s.length ≤ n := by
        rw [List.length_append, List.length_singleton]
        omega
      rw [fill, if_pos (by omega), ih hroom]
      simp

/-- What does not fit fills the buffer, and the rest starts with an empty one. -/
theorem fill_long {n : Nat} {data s : List α} (hn : 0 < n) (hdata : data.length ≤ n)
    (h : n < data.length + s.length) :
    fill n data s = (data ++ s.take (n - data.length)) :: fill n [] (s.drop (n - data.length)) := by
  induction s generalizing data with
  | nil =>
      rw [List.length_nil] at h
      omega
  | cons c s ih =>
      rw [List.length_cons] at h
      rw [fill]
      by_cases hroom : data.length < n
      · have hsub : n - data.length = n - (data ++ [c]).length + 1 := by
          simp only [List.length_append, List.length_singleton]
          omega
        rw [if_pos hroom, hsub, ih]
        · simp
        · simp only [List.length_append, List.length_singleton]
          omega
        · simp only [List.length_append, List.length_singleton]
          omega
      · have hfull : n - data.length = 0 := by omega
        rw [if_neg hroom, hfull]
        simp [fill, hn]

theorem fill_nil_cons {n : Nat} (hn : 0 < n) (c : α) (s : List α) :
    fill n [] (c :: s) = fill n [c] s := by
  rw [fill, if_pos (by simpa using hn)]
  rfl

/-- A predicate on the pieces of a list, from the one piece that fits and the
piece in front of the rest. -/
theorem fill_induction {n : Nat} (hn : 0 < n) {P : List α → List (List α) → Prop}
    (short : ∀ s, s.length ≤ n → P s [s])
    (long : ∀ s, n < s.length → P (s.drop n) (fill n [] (s.drop n)) →
      P s (s.take n :: fill n [] (s.drop n))) :
    ∀ s, P s (fill n [] s) := by
  intro s
  -- on the length of the list, which a full piece shortens
  induction hlen : s.length using Nat.strongRecOn generalizing s with
  | _ k ih =>
      by_cases hs : s.length ≤ n
      · rw [fill_short (by simpa using hs)]
        exact short s hs
      · rw [fill_long hn (by simp) (by simp; omega)]
        simp only [List.length_nil, Nat.sub_zero, List.nil_append]
        apply long s (by omega)
        exact ih (s.drop n).length (by rw [List.length_drop]; omega) _ rfl

theorem length_le_of_mem_fill {n : Nat} (hn : 0 < n) (s : List α) :
    ∀ c ∈ fill n [] s, c.length ≤ n := by
  apply fill_induction hn (P := fun _ cs => ∀ c ∈ cs, c.length ≤ n)
  · simp
  · intro s _ ih c hc
    obtain rfl | hc := List.mem_cons.mp hc
    · exact List.length_take_le n s
    · exact ih c hc

theorem ne_nil_of_mem_fill {n : Nat} (hn : 0 < n) {s : List α} (hs : s ≠ []) :
    ∀ c ∈ fill n [] s, c ≠ [] := by
  revert hs
  apply fill_induction hn (P := fun s cs => s ≠ [] → ∀ c ∈ cs, c ≠ [])
  · simp
  · intro s hlong ih _ c hc
    obtain rfl | hc := List.mem_cons.mp hc
    · apply List.ne_nil_of_length_pos
      rw [List.length_take]
      omega
    · apply ih _ c hc
      apply List.ne_nil_of_length_pos
      rw [List.length_drop]
      omega

theorem fill_ne_nil (n : Nat) (data s : List α) : fill n data s ≠ [] := by
  induction s generalizing data with
  | nil => simp [fill]
  | cons c s ih =>
      rw [fill]
      split
      · exact ih _
      · simp

/-- The first elements of the pieces stand at the multiples of `n`. -/
theorem fill_heads {n : Nat} (hn : 0 < n) (p : α) (s : List α) :
    (∀ c ∈ fill n [] s, c.head? ≠ some p) ↔ ∀ k, s[n * k]? ≠ some p := by
  apply fill_induction hn
    (P := fun s cs => (∀ c ∈ cs, c.head? ≠ some p) ↔ ∀ k, s[n * k]? ≠ some p)
  · intro s hs
    rw [List.forall_mem_singleton, List.head?_eq_getElem?]
    constructor
    · intro h k
      cases k with
      | zero => exact h
      | succ k =>
          have hout : s.length ≤ n * (k + 1) := by rw [Nat.mul_succ]; omega
          simp [List.getElem?_eq_none hout]
    · intro h
      exact h 0
  · intro s hs ih
    have hhead : (s.take n).head? = s[n * 0]? := by
      rw [List.head?_take, if_neg (by omega), List.head?_eq_getElem?, Nat.mul_zero]
    have hrest : ∀ k, (s.drop n)[n * k]? = s[n * (k + 1)]? := by
      intro k
      rw [List.getElem?_drop, Nat.mul_succ, Nat.add_comm]
    rw [List.forall_mem_cons, ih, hhead]
    constructor
    · rintro ⟨hfirst, h⟩ k
      cases k with
      | zero => exact hfirst
      | succ k => exact hrest k ▸ h k
    · intro h
      exact ⟨h 0, fun k => hrest k ▸ h (k + 1)⟩

/-- The last elements of the full pieces in front of another one stand before
the multiples of `n`. -/
theorem fill_lasts {n : Nat} (hn : 0 < n) (p : α) (s : List α) :
    (∀ c ∈ (fill n [] s).dropLast, c.getLast? ≠ some p) ↔
      ∀ k, n * (k + 1) < s.length → s[n * (k + 1) - 1]? ≠ some p := by
  apply fill_induction hn (P := fun s cs => (∀ c ∈ cs.dropLast, c.getLast? ≠ some p) ↔
    ∀ k, n * (k + 1) < s.length → s[n * (k + 1) - 1]? ≠ some p)
  · intro s hs
    constructor
    · intro _ k hk
      rw [Nat.mul_succ] at hk
      omega
    · simp
  · intro s hs ih
    have hlast : (s.take n).getLast? = s[n * (0 + 1) - 1]? := by
      rw [List.getLast?_eq_getElem?, List.length_take, Nat.min_eq_left (by omega),
        List.getElem?_take_of_lt (by omega), Nat.zero_add, Nat.mul_one]
    have hrest : ∀ k, (s.drop n)[n * (k + 1) - 1]? = s[n * (k + 1 + 1) - 1]? := by
      intro k
      rw [List.getElem?_drop]
      congr 1
      rw [Nat.mul_succ n (k + 1)]
      have hpos : 0 < n * (k + 1) := Nat.mul_pos hn k.succ_pos
      omega
    rw [List.dropLast_cons_of_ne_nil (fill_ne_nil _ _ _), List.forall_mem_cons, ih, hlast]
    constructor
    · rintro ⟨hfirst, h⟩ k hk
      cases k with
      | zero => exact hfirst
      | succ k =>
          rw [← hrest k]
          apply h k
          rw [List.length_drop]
          rw [Nat.mul_succ n (k + 1)] at hk
          omega
    · intro h
      refine ⟨h 0 (by omega), ?_⟩
      intro k hk
      rw [hrest k]
      apply h (k + 1)
      rw [List.length_drop] at hk
      rw [Nat.mul_succ n (k + 1)]
      omega

end OpenHcan.Lib
