import Mathlib.Data.List.Nodup

/-!
# WordSearch — finding all words of a set

A set of words of one length over two letters is walked letter by letter; the
words that do not agree with the letters chosen are left behind. Where both
letters are possible, the walk chooses `true` after the position `diff` and
`false` at it, and before it the letter of the walk before. It remembers the
last position where it chose `true` although `false` was possible; the next
walk takes `false` there. The walks find every word once, those with `true`
first.
-/

namespace OpenHcan.Lib.WordSearch

abbrev Word := List Bool

/-! ## One walk -/

/-- All words begin with the letter. -/
def allBegin (b : Bool) (S : List Word) : Bool := S.all fun w => w.head? = some b

/-- The words that begin with the letter, without it. -/
def rest (b : Bool) (S : List Word) : List Word :=
  (S.filter fun w => w.head? = some b).map List.tail

/-- Both letters are possible. -/
def branches (S : List Word) : Bool := ¬ allBegin true S ∧ ¬ allBegin false S

/-- The letter that is chosen at a position, with `prev` from the walk before. -/
def letter (diff pos : Nat) (S : List Word) (prev : Bool) : Bool :=
  if allBegin true S then true
  else if allBegin false S then false
  else diff > pos ∨ prev = true ∧ diff ≠ pos

/-- `true` is chosen although `false` is possible. -/
def turns (diff pos : Nat) (S : List Word) (prev : Bool) : Bool :=
  branches S && letter diff pos S prev

/-- The words that are left, the number of their letters, and the last position where
the walk has turned. -/
structure Walk where
  words : List Word
  pos : Nat
  last : Nat

def Walk.next (diff : Nat) (w : Walk) (prev : Bool) : Walk where
  words := rest (letter diff w.pos w.words prev) w.words
  pos := w.pos - 1
  last := if turns diff w.pos w.words prev then w.pos else w.last

/-- A walk along the word of the walk before: the letters chosen, and what is left. -/
def Walk.along (diff : Nat) : Walk → Word → Word × Walk
  | w, [] => ([], w)
  | w, p :: ps =>
      (letter diff w.pos w.words p :: ((w.next diff p).along diff ps).1,
        ((w.next diff p).along diff ps).2)

@[simp] theorem Walk.along_nil (diff : Nat) (w : Walk) : w.along diff [] = ([], w) := rfl

theorem Walk.along_append (diff : Nat) (ps qs : Word) : ∀ w : Walk,
    w.along diff (ps ++ qs) =
      ((w.along diff ps).1 ++ ((w.along diff ps).2.along diff qs).1,
        ((w.along diff ps).2.along diff qs).2) := by
  induction ps with
  | nil => intro w; rfl
  | cons p ps ih =>
      intro w
      show (letter diff w.pos w.words p :: ((w.next diff p).along diff (ps ++ qs)).1,
        ((w.next diff p).along diff (ps ++ qs)).2) = _
      rw [ih]
      rfl

theorem Walk.along_length (diff : Nat) (ps : Word) : ∀ w : Walk,
    (w.along diff ps).1.length = ps.length := by
  induction ps with
  | nil => intro w; rfl
  | cons p ps ih => intro w; exact congrArg (· + 1) (ih (w.next diff p))

theorem Walk.along_pos (diff : Nat) (ps : Word) : ∀ w : Walk,
    (w.along diff ps).2.pos = w.pos - ps.length := by
  induction ps with
  | nil => intro w; rfl
  | cons p ps ih =>
      intro w
      rw [List.length_cons, Nat.add_comm, ← Nat.sub_sub]
      exact ih (w.next diff p)

/-- The last branch is the one the walk comes with, unless it finds another. -/
theorem Walk.along_last (diff : Nat) (ps : Word) : ∀ (S : List Word) (l : Nat),
    (Walk.along diff ⟨S, ps.length, l⟩ ps).1 = (Walk.along diff ⟨S, ps.length, 0⟩ ps).1 ∧
      (Walk.along diff ⟨S, ps.length, l⟩ ps).2.last =
        if (Walk.along diff ⟨S, ps.length, 0⟩ ps).2.last = 0 then l
        else (Walk.along diff ⟨S, ps.length, 0⟩ ps).2.last := by
  induction ps with
  | nil => intro S l; exact ⟨rfl, rfl⟩
  | cons p ps ih =>
      intro S l
      have hnext (l : Nat) : Walk.next diff ⟨S, ps.length + 1, l⟩ p =
          ⟨rest (letter diff (ps.length + 1) S p) S, ps.length,
            if turns diff (ps.length + 1) S p then ps.length + 1 else l⟩ := rfl
      obtain ⟨hword, hlast⟩ := ih (rest (letter diff (ps.length + 1) S p) S)
        (if turns diff (ps.length + 1) S p then ps.length + 1 else l)
      obtain ⟨hword', hlast'⟩ := ih (rest (letter diff (ps.length + 1) S p) S)
        (if turns diff (ps.length + 1) S p then ps.length + 1 else 0)
      unfold Walk.along
      rw [List.length_cons, hnext, hnext, hword, hword', hlast, hlast']
      refine ⟨rfl, ?_⟩
      -- the rest has the last word, then this position
      generalize (Walk.along diff _ ps).2.last = x
      generalize turns diff (ps.length + 1) S p = b
      by_cases hx : x = 0
      · cases b with
        | true => simp [hx]
        | false => simp [hx]
      · simp [hx]

/-- One walk for words as long as the word before: the word found, and the position to
go on from. -/
def pass (S : List Word) (diff : Nat) (prev : Word) : Word × Nat :=
  ((Walk.along diff ⟨S, prev.length, 0⟩ prev).1, (Walk.along diff ⟨S, prev.length, 0⟩ prev).2.last)

theorem pass_length (S : List Word) (diff : Nat) (prev : Word) :
    (pass S diff prev).1.length = prev.length := Walk.along_length diff prev _

/-- **A walk, letter by letter**: the rest has the last word, then this position. -/
theorem pass_cons (S : List Word) (diff : Nat) (p : Bool) (ps : Word) :
    pass S diff (p :: ps) =
      (letter diff (ps.length + 1) S p ::
          (pass (rest (letter diff (ps.length + 1) S p) S) diff ps).1,
        if (pass (rest (letter diff (ps.length + 1) S p) S) diff ps).2 = 0 then
          if turns diff (ps.length + 1) S p then ps.length + 1 else 0
        else (pass (rest (letter diff (ps.length + 1) S p) S) diff ps).2) := by
  obtain ⟨hword, hlast⟩ := Walk.along_last diff ps (rest (letter diff (ps.length + 1) S p) S)
    (if turns diff (ps.length + 1) S p then ps.length + 1 else 0)
  unfold pass
  rw [← hword, ← hlast]
  rfl

/-- The position to go on from is one of the word. -/
theorem pass_le (diff : Nat) (prev : Word) : ∀ S : List Word,
    (pass S diff prev).2 ≤ prev.length := by
  induction prev with
  | nil => intro S; exact Nat.le_refl 0
  | cons p ps ih =>
      intro S
      have hle := ih (rest (letter diff (ps.length + 1) S p) S)
      rw [pass_cons, List.length_cons]
      dsimp only
      split
      · split
        · exact Nat.le_refl _
        · exact Nat.zero_le _
      · omega

/-! ## The words of a set -/

section

variable {S : List Word} {n : Nat} {b : Bool}

theorem allBegin_iff : allBegin b S = true ↔ ∀ w ∈ S, w.head? = some b := by
  unfold allBegin
  simp

/-- The words that begin with a letter, with it. -/
theorem rest_map_cons : (rest b S).map (b :: ·) = S.filter fun w => w.head? = some b := by
  unfold rest
  rw [List.map_map]
  apply Eq.trans (List.map_congr_left _) (List.map_id _)
  intro w hw
  exact List.cons_head?_tail (of_decide_eq_true (List.mem_filter.mp hw).2)

theorem mem_rest {w : Word} : w ∈ rest b S ↔ b :: w ∈ S := by
  have hmem : b :: w ∈ (rest b S).map (b :: ·) ↔ w ∈ rest b S := by
    rw [List.mem_map_of_injective (List.cons_injective)]
  rw [← hmem, rest_map_cons, List.mem_filter]
  simp

theorem rest_length (hlen : ∀ w ∈ S, w.length = n + 1) : ∀ w ∈ rest b S, w.length = n := by
  intro w hw
  exact Nat.succ.inj (hlen _ (mem_rest.mp hw))

theorem rest_nodup (hnodup : S.Nodup) : (rest b S).Nodup := by
  apply List.Nodup.of_map (b :: ·)
  rw [rest_map_cons]
  exact hnodup.filter _

/-- A set of words is those that begin with `true` and those that begin with `false`. -/
theorem rest_perm (hlen : ∀ w ∈ S, w.length = n + 1) :
    ((rest true S).map (true :: ·) ++ (rest false S).map (false :: ·)).Perm S := by
  have hfalse : (S.filter fun w => w.head? = some false) =
      S.filter fun w => !(decide (w.head? = some true)) := by
    apply List.filter_congr
    intro w hw
    cases w with
    | nil => exact nomatch hlen [] hw
    | cons c w => cases c <;> rfl
  rw [rest_map_cons, rest_map_cons, hfalse]
  exact List.filter_append_perm _ S

/-- The words of a set, those with `true` first. -/
def sorted : Nat → List Word → List Word
  | 0, S => S
  | n + 1, S =>
      (sorted n (rest true S)).map (true :: ·) ++ (sorted n (rest false S)).map (false :: ·)

theorem sorted_perm (n : Nat) : ∀ S : List Word, (∀ w ∈ S, w.length = n) →
    (sorted n S).Perm S := by
  induction n with
  | zero => intro S _; exact List.Perm.refl S
  | succ n ih =>
      intro S hlen
      have htrue := (ih (rest true S) (rest_length hlen)).map (true :: ·)
      have hfalse := (ih (rest false S) (rest_length hlen)).map (false :: ·)
      exact (htrue.append hfalse).trans (rest_perm hlen)

/-- Nothing begins with the other letter. -/
theorem rest_of_allBegin {c : Bool} (hc : c ≠ b) (h : allBegin b S = true) : rest c S = [] := by
  apply List.eq_nil_iff_forall_not_mem.mpr
  intro w hw
  have hhead := allBegin_iff.mp h _ (mem_rest.mp hw)
  exact hc (Option.some.inj hhead)

/-- Where not all words begin with the other letter, some begin with this one. -/
theorem rest_ne_nil {c : Bool} (hc : c ≠ b) (hlen : ∀ w ∈ S, w.length = n + 1)
    (h : ¬ allBegin c S = true) : rest b S ≠ [] := by
  intro hnil
  apply h
  apply allBegin_iff.mpr
  intro w hw
  cases w with
  | nil => exact nomatch hlen [] hw
  | cons d w =>
      by_cases hd : d = b
      · subst hd
        have hmem := mem_rest.mpr hw
        rw [hnil] at hmem
        exact nomatch hmem
      · exact congrArg some ((Bool.eq_not_of_ne hd).trans (Bool.eq_not_of_ne hc).symm)

/-! ## The walks -/

/-- Walks from a position and a word on, as long as there is a position to go on from:
the words found, and where the last walk ends. -/
inductive Passes (S : List Word) : Nat → Word → List Word → Nat → Word → Prop
  | one (diff : Nat) (prev : Word) :
      Passes S diff prev [(pass S diff prev).1] (pass S diff prev).2 (pass S diff prev).1
  | more {diff : Nat} {prev : Word} {found : List Word} {diff' : Nat} {prev' : Word}
      (hne : (pass S diff prev).2 ≠ 0)
      (h : Passes S (pass S diff prev).2 (pass S diff prev).1 found diff' prev') :
      Passes S diff prev ((pass S diff prev).1 :: found) diff' prev'

theorem Passes.trans {diff diff' diff'' : Nat} {prev prev' prev'' : Word} {found found' : List Word}
    (h : Passes S diff prev found diff' prev') (hne : diff' ≠ 0)
    (h' : Passes S diff' prev' found' diff'' prev'') :
    Passes S diff prev (found ++ found') diff'' prev'' := by
  induction h with
  | one diff prev => exact .more hne h'
  | more hnext _ ih => exact .more hnext (ih hne h')

theorem Passes.length {diff diff' : Nat} {prev prev' : Word} {found : List Word}
    (h : Passes S diff prev found diff' prev') : prev'.length = prev.length := by
  induction h with
  | one diff prev => exact pass_length S diff prev
  | more _ _ ih => exact ih.trans (pass_length S _ _)

/-- **Walks behind one letter**: as long as the letter `b` is chosen, the walks are those
of the words behind it; behind the last of them the search goes on from `z`. -/
theorem Passes.cons_letter {T : List Word} {z : Nat} {C : Nat → Bool → Prop}
    (hpass : ∀ diff x ps, ps.length = n → C diff x → pass S diff (x :: ps) =
      (b :: (pass T diff ps).1, if (pass T diff ps).2 = 0 then z else (pass T diff ps).2))
    (hC : ∀ diff, diff ≠ 0 → diff ≤ n → C diff b)
    {diff diff' : Nat} {prev prev' : Word} {found : List Word}
    (h : Passes T diff prev found diff' prev') :
    ∀ x, prev.length = n → C diff x →
      Passes S diff (x :: prev) (found.map (b :: ·)) (if diff' = 0 then z else diff')
        (b :: prev') := by
  induction h with
  | one diff prev =>
      intro x hlen hx
      have hone := Passes.one (S := S) diff (x :: prev)
      rw [hpass diff x prev hlen hx] at hone
      exact hone
  | @more diff prev found diff' prev' hne h ih =>
      intro x hlen hx
      have hle := pass_le diff prev T
      have hnext := hpass diff x prev hlen hx
      rw [if_neg hne] at hnext
      have hword : (pass T diff prev).1.length = n := (pass_length T diff prev).trans hlen
      have hrest := ih b hword (hC _ hne (hlen ▸ hle))
      have hmore := @Passes.more S diff (x :: prev) (found.map (b :: ·))
        (if diff' = 0 then z else diff') (b :: prev')
      rw [hnext] at hmore
      exact hmore hne hrest

/-! ## All words -/

theorem not_allBegin {c : Bool} (hc : c ≠ b) (hne : S ≠ []) (h : allBegin b S = true) :
    ¬ allBegin c S = true := by
  intro hother
  obtain ⟨w, S', rfl⟩ := List.exists_cons_of_ne_nil hne
  have hb := allBegin_iff.mp h w List.mem_cons_self
  rw [allBegin_iff.mp hother w List.mem_cons_self] at hb
  exact hc (Option.some.inj hb)

/-- Where all words begin with the same letter, it is chosen, and nothing is remembered. -/
theorem letter_of_allBegin (hne : S ≠ []) (h : allBegin b S = true) (diff pos : Nat) (x : Bool) :
    letter diff pos S x = b ∧ turns diff pos S x = false := by
  unfold turns branches letter
  cases b with
  | true =>
      rw [if_pos h, h]
      exact ⟨rfl, rfl⟩
  | false =>
      rw [if_neg (not_allBegin (by decide) hne h), if_pos h, h]
      exact ⟨rfl, by simp⟩

/-- Some words begin with the letter that is chosen. -/
theorem rest_letter_ne_nil (hne : S ≠ []) (hlen : ∀ w ∈ S, w.length = n + 1) (diff pos : Nat)
    (x : Bool) : rest (letter diff pos S x) S ≠ [] := by
  have htf : true ≠ false := by decide
  by_cases htrue : allBegin true S = true
  · rw [(letter_of_allBegin hne htrue diff pos x).1]
    exact rest_ne_nil htf.symm hlen (not_allBegin htf.symm hne htrue)
  · by_cases hfalse : allBegin false S = true
    · rw [(letter_of_allBegin hne hfalse diff pos x).1]
      exact rest_ne_nil htf hlen htrue
    · cases letter diff pos S x with
      | true => exact rest_ne_nil htf.symm hlen hfalse
      | false => exact rest_ne_nil htf hlen htrue

/-- At a branch `true` is chosen after the position and, as before, before it. -/
theorem letter_of_branch (htrue : ¬ allBegin true S = true) (hfalse : ¬ allBegin false S = true)
    (diff pos : Nat) (x : Bool) :
    letter diff pos S x = decide (diff > pos ∨ x = true ∧ diff ≠ pos) ∧
      turns diff pos S x = letter diff pos S x := by
  unfold turns branches letter
  rw [if_neg htrue, if_neg hfalse]
  simp [htrue, hfalse]

theorem pass_of_letter {diff : Nat} {x : Bool} {ps : Word} {t : Bool}
    (hletter : letter diff (ps.length + 1) S x = b) (hturns : turns diff (ps.length + 1) S x = t) :
    pass S diff (x :: ps) = (b :: (pass (rest b S) diff ps).1,
      if (pass (rest b S) diff ps).2 = 0 then if t then ps.length + 1 else 0
      else (pass (rest b S) diff ps).2) := by
  rw [pass_cons, hletter, hturns]

/-- The walks where all words begin with the same letter. -/
theorem passes_of_allBegin (hne : S ≠ []) (h : allBegin b S = true) {diff : Nat} {ps : Word}
    {found : List Word} {prev' : Word} (hps : ps.length = n)
    (hpasses : Passes (rest b S) diff ps found 0 prev') (x : Bool) :
    Passes S diff (x :: ps) (found.map (b :: ·)) 0 (b :: prev') := by
  apply hpasses.cons_letter (S := S) (n := n) (z := 0) (C := fun _ _ => True) _ _ x hps trivial
  · intro diff x ps _ _
    obtain ⟨hletter, hturns⟩ := letter_of_allBegin hne h diff (ps.length + 1) x
    exact pass_of_letter hletter hturns
  · intro _ _ _
    trivial

/-- **The walks at a branch**: first those behind `true`, then, from this position on,
those behind `false`. -/
theorem passes_of_branch (htrue : ¬ allBegin true S = true) (hfalse : ¬ allBegin false S = true)
    {diff : Nat} (hdiff : diff > n + 1) {ps ps' prev' : Word} {found found' : List Word}
    (hps : ps.length = n) (h : Passes (rest true S) diff ps found 0 ps')
    (h' : Passes (rest false S) (n + 1) ps' found' 0 prev') (x : Bool) :
    Passes S diff (x :: ps) (found.map (true :: ·) ++ found'.map (false :: ·)) 0
      (false :: prev') := by
  have hfirst : Passes S diff (x :: ps) (found.map (true :: ·)) (n + 1) (true :: ps') := by
    apply h.cons_letter (S := S) (n := n) (z := n + 1)
      (C := fun diff x => diff > n + 1 ∨ x = true ∧ diff ≠ n + 1) _ _ x hps (Or.inl hdiff)
    · -- `true` is chosen: the walk turns here, and this position is remembered
      intro diff x ps hps hx
      obtain ⟨hletter, hturns⟩ := letter_of_branch htrue hfalse diff (n + 1) x
      rw [decide_eq_true hx] at hletter
      rw [hletter] at hturns
      rw [← hps] at hletter hturns
      have hpass := pass_of_letter hletter hturns
      rw [if_pos rfl, hps] at hpass
      exact hpass
    · intro diff _ hle
      exact Or.inr ⟨rfl, by omega⟩
  have hsecond : Passes S (n + 1) (true :: ps') (found'.map (false :: ·)) 0 (false :: prev') := by
    apply h'.cons_letter (S := S) (n := n) (z := 0)
      (C := fun diff x => diff ≤ n + 1 ∧ (x = true → diff = n + 1)) _ _ true (h.length.trans hps)
      ⟨Nat.le_refl _, fun _ => rfl⟩
    · -- `false` is chosen: behind this position the walks are those of the other half
      intro diff x ps hps hx
      obtain ⟨hletter, hturns⟩ := letter_of_branch htrue hfalse diff (n + 1) x
      have hno : ¬ (diff > n + 1 ∨ x = true ∧ diff ≠ n + 1) := by
        rintro (hgt | ⟨hx', hne⟩)
        · omega
        · exact hne (hx.2 hx')
      rw [decide_eq_false hno] at hletter
      rw [hletter] at hturns
      rw [← hps] at hletter hturns
      have hpass := pass_of_letter hletter hturns
      exact hpass
    · intro diff _ hle
      exact ⟨by omega, fun h => (nomatch h)⟩
  exact hfirst.trans (Nat.succ_ne_zero n) hsecond

/-- **The walks find every word**: from a position behind the words on, whatever the word
before. -/
theorem passes_sorted (n : Nat) : ∀ S : List Word, S ≠ [] → (∀ w ∈ S, w.length = n) → S.Nodup →
    ∀ (diff : Nat) (prev : Word), diff > n → prev.length = n →
      ∃ prev', Passes S diff prev (sorted n S) 0 prev' := by
  induction n with
  | zero =>
      intro S hne hlen hnodup diff prev _ hprev
      -- the empty word is the only one
      have hnil : S = [[]] := by
        obtain ⟨w, S', rfl⟩ := List.exists_cons_of_ne_nil hne
        have hw : w = [] := List.length_eq_zero_iff.mp (hlen w List.mem_cons_self)
        have hS' : S' = [] := by
          apply List.eq_nil_iff_forall_not_mem.mpr
          intro v hv
          have hv' : v = [] := List.length_eq_zero_iff.mp (hlen v (List.mem_cons_of_mem w hv))
          rw [hw] at hnodup
          rw [hv'] at hv
          exact (List.nodup_cons.mp hnodup).1 hv
        rw [hw, hS']
      rw [List.length_eq_zero_iff.mp hprev, hnil]
      exact ⟨[], .one diff []⟩
  | succ n ih =>
      intro S hne hlen hnodup diff prev hdiff hprev
      obtain ⟨x, ps, rfl⟩ := List.exists_cons_of_length_eq_add_one hprev
      have hps : ps.length = n := Nat.succ.inj hprev
      have hbehind {b c : Bool} (hc : c ≠ b) (h : ¬ allBegin c S = true) :=
        ih (rest b S) (rest_ne_nil hc hlen h) (rest_length hlen) (rest_nodup hnodup)
      have hnone {b c : Bool} (hc : c ≠ b) (h : allBegin b S = true) :
          sorted n (rest c S) = [] := by
        rw [rest_of_allBegin hc h]
        exact (sorted_perm n [] fun w hw => (nomatch hw)).eq_nil
      unfold sorted
      by_cases htrue : allBegin true S = true
      · have hfalse : false ≠ true := by decide
        obtain ⟨prev', h⟩ := hbehind hfalse (not_allBegin hfalse hne htrue) diff ps (by omega) hps
        rw [hnone hfalse htrue, List.map_nil, List.append_nil]
        exact ⟨_, passes_of_allBegin hne htrue hps h x⟩
      · have hne' : true ≠ false := by decide
        by_cases hfalse : allBegin false S = true
        · obtain ⟨prev', h⟩ := hbehind hne' htrue diff ps (by omega) hps
          rw [hnone hne' hfalse, List.map_nil, List.nil_append]
          exact ⟨_, passes_of_allBegin hne hfalse hps h x⟩
        · -- a branch: the walks behind `true` end at it
          obtain ⟨ps', h⟩ := hbehind hne'.symm hfalse diff ps (by omega) hps
          obtain ⟨prev', h'⟩ := hbehind hne' htrue (n + 1) ps' (Nat.lt_succ_self n)
            (h.length.trans hps)
          exact ⟨_, passes_of_branch htrue hfalse hdiff hps h h' x⟩

end

end OpenHcan.Lib.WordSearch
