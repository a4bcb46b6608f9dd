import Mathlib.Data.List.TakeWhile
import OpenHcan.Lib.CString

/-!
# WordStream — lines and their words

`std::istringstream` as far as `sin >> s` and `sin.eof()` go, and
`getline` on a file. A line whose words are put together again with single
blanks has lost the blanks in front and all but one of every row of blanks.
-/

namespace OpenHcan.Lib

/-! ## Words -/

/-- `sin >> s`: the new `s` and what is left of the stream. Without a word `s`
keeps its text. The stream is at its end exactly if nothing is left. -/
def extract (s sin : List Char) : List Char × List Char :=
  let rest := sin.dropWhile isspace
  if rest.isEmpty then (s, [])
  else (rest.takeWhile fun ch => !isspace ch, rest.dropWhile fun ch => !isspace ch)

/-- The words that `sin >> s` with an empty `s` delivers while `! sin.eof()`. -/
def restWords : Nat → List Char → List (List Char)
  | 0, _ => []
  | fuel + 1, sin =>
      if sin.isEmpty then []
      else (extract [] sin).1 :: restWords fuel (extract [] sin).2

/-- Words with one blank between them. -/
def unwords : List (List Char) → List Char
  | [] => []
  | [w] => w
  | w :: ws => w ++ ' ' :: unwords ws

/-- One blank for every row of blanks, and none in front if `blank`. -/
def squeeze : Bool → List Char → List Char
  | _, [] => []
  | blank, ch :: s =>
      if isspace ch then if blank then squeeze true s else ' ' :: squeeze true s
      else ch :: squeeze false s

/-- Every blank is a space and has a character in front that is none; at the
beginning `blank` says what is in front. -/
def Tidy : Bool → List Char → Prop
  | _, [] => True
  | blank, ch :: s => (isspace ch = true → ch = ' ' ∧ blank = false) ∧ Tidy (isspace ch) s

theorem squeeze_dropWhile (s : List Char) :
    squeeze true (s.dropWhile isspace) = squeeze true s := by
  induction s with
  | nil => rfl
  | cons ch s ih =>
      by_cases hch : isspace ch = true
      · rw [List.dropWhile_cons_of_pos hch, ih, squeeze, if_pos hch, if_pos rfl]
      · rw [List.dropWhile_cons_of_neg hch]

theorem squeeze_word {w : List Char} (hw : ∀ ch ∈ w, isspace ch = false) (hne : w ≠ [])
    (blank : Bool) (r : List Char) : squeeze blank (w ++ r) = w ++ squeeze false r := by
  induction w generalizing blank with
  | nil => exact absurd rfl hne
  | cons ch w ih =>
      rw [List.forall_mem_cons] at hw
      rw [List.cons_append, squeeze, if_neg (by simp [hw.1])]
      cases w with
      | nil => rfl
      | cons ch' w => rw [ih hw.2 (List.cons_ne_nil _ _)]; rfl

theorem length_squeeze_le (s : List Char) : ∀ blank, (squeeze blank s).length ≤ s.length := by
  induction s with
  | nil => intro blank; exact Nat.le_refl 0
  | cons ch s ih =>
      intro blank
      rw [squeeze]
      have htrue := ih true
      have hfalse := ih false
      split
      · split
        · exact Nat.le_succ_of_le htrue
        · exact Nat.succ_le_succ htrue
      · exact Nat.succ_le_succ hfalse

/-- **Nothing is lost exactly from a tidy text.** -/
theorem squeeze_eq_self_iff (s : List Char) : ∀ blank, squeeze blank s = s ↔ Tidy blank s := by
  induction s with
  | nil => intro blank; exact iff_of_true rfl trivial
  | cons ch s ih =>
      intro blank
      rw [squeeze, Tidy]
      by_cases hch : isspace ch = true
      · rw [if_pos hch, hch]
        cases blank with
        | true =>
            rw [if_pos rfl]
            have hlen := length_squeeze_le s true
            refine iff_of_false (fun heq => ?_) fun h => Bool.false_ne_true (h.1 rfl).2.symm
            rw [heq, List.length_cons] at hlen
            omega
        | false =>
            rw [if_neg Bool.false_ne_true, List.cons.injEq, ih]
            simp [eq_comm]
      · rw [if_neg hch, List.cons.injEq, ih, Bool.not_eq_true] at *
        simp [hch]

/-- **An extraction** finds nothing but blanks, or a word and what is behind it. -/
theorem extract_cases (s sin : List Char) :
    (sin.dropWhile isspace = [] ∧ extract s sin = (s, [])) ∨
      ∃ w r, sin.dropWhile isspace = w ++ r ∧ w ≠ [] ∧ (∀ ch ∈ w, isspace ch = false) ∧
        (∀ ch r', r = ch :: r' → isspace ch = true) ∧ extract s sin = (w, r) := by
  unfold extract
  cases hrest : sin.dropWhile isspace with
  | nil => exact .inl ⟨rfl, rfl⟩
  | cons ch rest =>
      right
      have hch : isspace ch = false := by
        have := List.head?_dropWhile_not isspace sin
        simpa [hrest] using this
      refine ⟨_, _, List.takeWhile_append_dropWhile.symm, ?_, ?_, ?_, rfl⟩
      · rw [List.takeWhile_cons_of_pos (by simp [hch])]
        exact List.cons_ne_nil _ _
      · intro c hc
        simpa using List.mem_takeWhile_imp hc
      · intro c r' hr
        have := List.head?_dropWhile_not (fun ch => !isspace ch) (ch :: rest)
        simpa [hr] using this

/-- A word that is there is extracted. -/
theorem extract_word {blanks w r : List Char} (hblanks : ∀ ch ∈ blanks, isspace ch = true)
    (hw : ∀ ch ∈ w, isspace ch = false) (hne : w ≠ [])
    (hr : ∀ ch r', r = ch :: r' → isspace ch = true) (s : List Char) :
    extract s (blanks ++ (w ++ r)) = (w, r) := by
  obtain ⟨ch, w, rfl⟩ := List.exists_cons_of_ne_nil hne
  have hch := hw ch List.mem_cons_self
  have htake : r.takeWhile (fun ch => !isspace ch) = [] := by
    cases r with
    | nil => rfl
    | cons c r => rw [List.takeWhile_cons_of_neg (by simp [hr c r rfl])]
  have hdrop : r.dropWhile (fun ch => !isspace ch) = r := by
    cases r with
    | nil => rfl
    | cons c r => rw [List.dropWhile_cons_of_neg (by simp [hr c r rfl])]
  have hword : ∀ c ∈ ch :: w, (!isspace c) = true := fun c hc => by simp [hw c hc]
  unfold extract
  rw [List.dropWhile_append_of_pos hblanks, List.cons_append,
    List.dropWhile_cons_of_neg (by simp [hch]), ← List.cons_append]
  show (List.takeWhile _ _, List.dropWhile _ _) = _
  rw [List.takeWhile_append_of_pos hword, List.dropWhile_append_of_pos hword, htake, hdrop,
    List.append_nil]

theorem unwords_cons (w : List Char) {ws : List (List Char)} (h : ws ≠ []) :
    unwords (w :: ws) = w ++ ' ' :: unwords ws := by
  cases ws with
  | nil => exact absurd rfl h
  | cons w' ws => rfl

theorem restWords_ne_nil {fuel : Nat} (h : fuel ≠ 0) (ch : Char) (sin : List Char) :
    restWords fuel (ch :: sin) ≠ [] := by
  cases fuel with
  | zero => exact absurd rfl h
  | succ fuel => exact List.cons_ne_nil _ _

theorem restWords_nil (fuel : Nat) : restWords fuel [] = [] := by
  cases fuel <;> rfl

/-- **Taken apart and put together again**, a text is squeezed. -/
theorem unwords_restWords (fuel : Nat) :
    ∀ s : List Char, s.length < fuel → unwords (restWords fuel s) = squeeze true s := by
  induction fuel with
  | zero => intro s h; exact absurd h (Nat.not_lt_zero _)
  | succ fuel ih =>
      intro s hs
      cases hempty : s.isEmpty with
      | true =>
          rw [List.isEmpty_iff.mp hempty]
          rfl
      | false =>
          rw [restWords, hempty, if_neg Bool.false_ne_true, ← squeeze_dropWhile]
          rcases extract_cases [] s with ⟨hdrop, hext⟩ | ⟨w, r, hdrop, hne, hw, hr, hext⟩
          · rw [hext, hdrop, restWords_nil]
            rfl
          · have hlen := List.length_dropWhile_le isspace s
            have hpos := List.length_pos_iff.mpr hne
            rw [hdrop, List.length_append] at hlen
            rw [hext, hdrop, squeeze_word hw hne]
            cases r with
            | nil =>
                rw [restWords_nil]
                exact (List.append_nil w).symm
            | cons ch r =>
                have hrest := ih (ch :: r) (by omega)
                have hch := hr ch r rfl
                rw [squeeze, if_pos hch, if_pos rfl] at hrest
                have hfuel : fuel ≠ 0 := by omega
                rw [squeeze, if_pos hch, if_neg Bool.false_ne_true, ← hrest,
                  unwords_cons w (restWords_ne_nil hfuel ch r)]

/-! ## Lines -/

/-- The lines of a text. A last line without a newline is one, if it is not
empty. -/
def splitLines : List Char → List (List Char)
  | [] => []
  | ch :: text =>
      if ch = '\n' then [] :: splitLines text
      else
        match splitLines text with
        | [] => [[ch]]
        | line :: lines => (ch :: line) :: lines

/-- The lines `while (in.getline(buf, size))` reads: a line that does not fit
the buffer ends the loop. -/
def getlines (size : Nat) (text : List Char) : List (List Char) :=
  (splitLines text).takeWhile fun line => line.length < size

theorem splitLines_line {line : List Char} (h : '\n' ∉ line) (text : List Char) :
    splitLines (line ++ '\n' :: text) = line :: splitLines text := by
  induction line with
  | nil => rfl
  | cons ch line ih =>
      rw [List.mem_cons, not_or] at h
      rw [List.cons_append, splitLines, if_neg (Ne.symm h.1), ih h.2]

/-- Lines with a newline behind each of them. -/
def unlines (lines : List (List Char)) : List Char := lines.flatMap fun line => line ++ ['\n']

theorem splitLines_unlines {lines : List (List Char)} (h : ∀ line ∈ lines, '\n' ∉ line) :
    splitLines (unlines lines) = lines := by
  induction lines with
  | nil => rfl
  | cons line lines ih =>
      rw [List.forall_mem_cons] at h
      rw [unlines, List.flatMap_cons, List.append_assoc, List.singleton_append,
        splitLines_line h.1]
      exact congrArg (List.cons line) (ih h.2)

/-- **Short lines without a newline in them** are read as they were written. -/
theorem getlines_unlines {size : Nat} {lines : List (List Char)}
    (h : ∀ line ∈ lines, '\n' ∉ line ∧ line.length < size) :
    getlines size (unlines lines) = lines := by
  rw [getlines, splitLines_unlines fun line hline => (h line hline).1]
  exact List.takeWhile_eq_self_iff.mpr fun line hline => decide_eq_true (h line hline).2

end OpenHcan.Lib
