import Mathlib.Data.List.Infix
import Mathlib.Data.List.TakeWhile

/-!
# LinePattern — regular expressions for the commands of a line

A pattern is a row of parts, each of which takes a piece of the line: a fixed
text, characters of a class, at most one of them, or one of several words. The
pieces of the parts that are groups are what a match delivers.

`Matches` says what a pattern means: the line falls into pieces, one for each
part. `scan` takes the longest piece for each part in turn. If no part can go
on with what may come behind it (`det`), the line falls into pieces in one way
only and `scan` finds it (`scan_iff`), so it does not matter how a matcher
searches for it. `apart` is a check that two such patterns have no line in
common.
-/

namespace OpenHcan.Lib

/-- A part takes a fixed text (`abc`), at least so many characters of a class
(`[abc]{n,}`), at most one (`[abc]{0,1}`), or a word (`(ab|c)`). -/
inductive Item where
  | lit (s : List Char)
  | many (cls : List Char) (least : Nat)
  | opt (cls : List Char)
  | oneOf (ws : List (List Char))
deriving DecidableEq, Repr

/-- An item and whether it is a group. -/
structure Part where
  item : Item
  group : Bool
deriving DecidableEq, Repr

abbrev LinePattern := List Part

/-- The longest word of a list a text begins with. -/
def longest : List (List Char) → List Char → Option (List Char)
  | [], _ => none
  | w :: ws, s =>
      match longest ws s with
      | some w' => if w.isPrefixOf s && decide (w'.length < w.length) then some w else some w'
      | none => if w.isPrefixOf s then some w else none

theorem longest_sound {ws : List (List Char)} {s w : List Char} (h : longest ws s = some w) :
    w ∈ ws ∧ w <+: s := by
  induction ws generalizing w with
  | nil => cases h
  | cons d ws ih =>
      rw [longest] at h
      split at h
      · next w' hw' =>
          split at h
          · next hd =>
              cases h
              rw [Bool.and_eq_true] at hd
              exact ⟨List.mem_cons_self, List.isPrefixOf_iff_prefix.mp hd.1⟩
          · cases h
            exact ⟨List.mem_cons_of_mem _ (ih hw').1, (ih hw').2⟩
      · split at h
        · next hd =>
            cases h
            exact ⟨List.mem_cons_self, List.isPrefixOf_iff_prefix.mp hd⟩
        · cases h

/-- A word the text begins with is no longer than the longest one. -/
theorem longest_max {ws : List (List Char)} {s u : List Char} (hu : u ∈ ws) (hs : u <+: s) :
    ∃ w, longest ws s = some w ∧ u.length ≤ w.length := by
  induction ws with
  | nil => cases hu
  | cons d ws ih =>
      rw [longest]
      rcases List.mem_cons.mp hu with rfl | hu
      · have hpre := List.isPrefixOf_iff_prefix.mpr hs
        cases longest ws s with
        | none => exact ⟨u, by simp [hpre], Nat.le_refl _⟩
        | some w =>
            by_cases hlt : w.length < u.length
            · exact ⟨u, by simp [hpre, hlt], Nat.le_refl _⟩
            · exact ⟨w, by simp [hlt], by omega⟩
      · obtain ⟨w, hw, hle⟩ := ih hu
        rw [hw]
        simp only
        split
        · next hd =>
            rw [Bool.and_eq_true, decide_eq_true_eq] at hd
            exact ⟨d, rfl, by omega⟩
        · exact ⟨w, rfl, hle⟩

namespace Item

/-- The pieces an item takes. -/
def Lang : Item → List Char → Prop
  | lit s, u => u = s
  | many cls least, u => least ≤ u.length ∧ ∀ ch ∈ u, ch ∈ cls
  | opt cls, u => u = [] ∨ ∃ ch ∈ cls, u = [ch]
  | oneOf ws, u => u ∈ ws

/-- The longest piece at the beginning of a text, and the rest. -/
def take : Item → List Char → Option (List Char × List Char)
  | lit l, s => if l.isPrefixOf s then some (l, s.drop l.length) else none
  | many cls least, s =>
      let u := s.takeWhile fun ch => cls.contains ch
      if least ≤ u.length then some (u, s.dropWhile fun ch => cls.contains ch) else none
  | opt cls, s =>
      match s with
      | ch :: rest => if cls.contains ch then some ([ch], rest) else some ([], s)
      | [] => some ([], [])
  | oneOf ws, s =>
      match longest ws s with
      | some w => some (w, s.drop w.length)
      | none => none

theorem eq_append_drop {w s : List Char} (h : w.isPrefixOf s = true) :
    s = w ++ s.drop w.length := by
  obtain ⟨rest, rfl⟩ := List.isPrefixOf_iff_prefix.mp h
  simp

theorem take_sound {item : Item} {s u v : List Char} (h : item.take s = some (u, v)) :
    s = u ++ v ∧ item.Lang u := by
  cases item with
  | lit l =>
      rw [take] at h
      split at h
      · next hpre =>
          cases h
          exact ⟨eq_append_drop hpre, rfl⟩
      · cases h
  | many cls least =>
      rw [take] at h
      split at h
      · next hleast =>
          cases h
          refine ⟨List.takeWhile_append_dropWhile.symm, hleast, fun ch hch => ?_⟩
          have := List.mem_takeWhile_imp hch
          simpa using this
      · cases h
  | opt cls =>
      cases s with
      | nil =>
          cases h
          exact ⟨rfl, Or.inl rfl⟩
      | cons ch rest =>
          simp only [take] at h
          split at h
          · next hch =>
              cases h
              exact ⟨rfl, Or.inr ⟨ch, by simpa using hch, rfl⟩⟩
          · cases h
            exact ⟨rfl, Or.inl rfl⟩
  | oneOf ws =>
      rw [take] at h
      split at h
      · next w hw =>
          cases h
          obtain ⟨hmem, hpre⟩ := longest_sound hw
          exact ⟨eq_append_drop (List.isPrefixOf_iff_prefix.mpr hpre), hmem⟩
      · cases h

end Item

/-! ## Patterns -/

/-- What a match delivers of the piece of a part. -/
def Part.deliver (part : Part) (u : List Char) (groups : List (List Char)) : List (List Char) :=
  if part.group then u :: groups else groups

/-- The line falls into pieces of the parts, with these groups. -/
inductive Matches : LinePattern → List Char → List (List Char) → Prop where
  | nil : Matches [] [] []
  | cons {part : Part} {parts : LinePattern} {u v : List Char} {groups : List (List Char)}
      (hu : part.item.Lang u) (hv : Matches parts v groups) :
      Matches (part :: parts) (u ++ v) (part.deliver u groups)

/-- The groups of the match that takes the longest pieces. -/
def scan : LinePattern → List Char → Option (List (List Char))
  | [], s => if s = [] then some [] else none
  | part :: parts, s =>
      match part.item.take s with
      | some (u, v) => (scan parts v).map (part.deliver u)
      | none => none

theorem scan_sound {parts : LinePattern} {s : List Char} {groups : List (List Char)}
    (h : scan parts s = some groups) : Matches parts s groups := by
  induction parts generalizing s groups with
  | nil =>
      rw [scan] at h
      split at h
      · next hs =>
          cases h
          rw [hs]
          exact .nil
      · cases h
  | cons part parts ih =>
      rw [scan] at h
      split at h
      · next u v htake =>
          obtain ⟨groups', hgroups, rfl⟩ := Option.map_eq_some_iff.mp h
          obtain ⟨rfl, hu⟩ := Item.take_sound htake
          exact .cons hu (ih hgroups)
      · cases h

/-! ## Patterns with one match at most -/

/-- A pattern may match a line that begins with the character. -/
def firsts : LinePattern → Char → Bool
  | [], _ => false
  | part :: parts, ch =>
      match part.item with
      | .lit [] => firsts parts ch
      | .lit (d :: _) => ch == d
      | .many cls least => cls.contains ch || (least == 0 && firsts parts ch)
      | .opt cls => cls.contains ch || firsts parts ch
      | .oneOf ws => ws.any fun w =>
          match w with
          | [] => firsts parts ch
          | d :: _ => ch == d

/-- Where a word goes on behind another one, what comes next does not. -/
def closed (ws : List (List Char)) (parts : LinePattern) : Bool :=
  ws.all fun w => ws.all fun w' => !w'.isPrefixOf w ||
    match w.drop w'.length with
    | [] => true
    | ch :: _ => !firsts parts ch

/-- No part can take more than its piece, whatever comes behind it. -/
def det : LinePattern → Bool
  | [] => true
  | part :: parts =>
      (match part.item with
        | .lit _ => true
        | .many cls _ => cls.all fun ch => !firsts parts ch
        | .opt cls => cls.all fun ch => !firsts parts ch
        | .oneOf ws => closed ws parts) && det parts

theorem firsts_of_matches {parts : LinePattern} {ch : Char} {v s : List Char}
    {groups : List (List Char)} (h : Matches parts s groups) (hs : s = ch :: v) :
    firsts parts ch = true := by
  induction h generalizing ch v with
  | nil => cases hs
  | @cons part parts u w groups hu hw ih =>
      rw [firsts]
      cases u with
      | nil =>
          have hrest := ih hs
          cases hitem : part.item with
          | lit l =>
              rw [hitem] at hu
              cases hu
              exact hrest
          | many cls least =>
              rw [hitem] at hu
              have hleast : least = 0 := by simpa using hu.1
              simp [hleast, hrest]
          | opt cls => simp [hrest]
          | oneOf ws =>
              rw [hitem] at hu
              exact List.any_eq_true.mpr ⟨[], hu, hrest⟩
      | cons d u =>
          obtain ⟨rfl, -⟩ : d = ch ∧ u ++ w = v := by simpa using hs
          cases hitem : part.item with
          | lit l =>
              rw [hitem] at hu
              cases hu
              simp
          | many cls least =>
              rw [hitem] at hu
              have hd : d ∈ cls := hu.2 d (by simp)
              simp [hd]
          | opt cls =>
              rw [hitem] at hu
              rcases hu with hu | ⟨e, he, hu⟩
              · cases hu
              · cases hu
                simp [he]
          | oneOf ws =>
              rw [hitem] at hu
              exact List.any_eq_true.mpr ⟨d :: u, hu, by simp⟩

/-- Characters of a class up to one that is none of it. -/
theorem Item.take_many {cls : List Char} {least : Nat} {u v : List Char}
    (hu : (many cls least).Lang u) (hstop : ∀ ch w, v = ch :: w → ch ∉ cls) :
    (many cls least).take (u ++ v) = some (u, v) := by
  have hin : ∀ ch ∈ u, cls.contains ch = true := fun ch hch => by simpa using hu.2 ch hch
  have hhead : v.takeWhile (fun ch => cls.contains ch) = [] ∧
      v.dropWhile (fun ch => cls.contains ch) = v := by
    cases v with
    | nil => exact ⟨rfl, rfl⟩
    | cons ch w =>
        have hch : cls.contains ch = false := by simpa using hstop ch w rfl
        constructor
        · rw [List.takeWhile_cons_of_neg (by simp only [hch]; decide)]
        · rw [List.dropWhile_cons_of_neg (by simp only [hch]; decide)]
  rw [take]
  simp only [List.takeWhile_append_of_pos hin, List.dropWhile_append_of_pos hin, hhead.1,
    hhead.2, List.append_nil, if_pos hu.1]

theorem Item.take_opt {cls u v : List Char} (hu : (opt cls).Lang u)
    (hstop : ∀ ch w, v = ch :: w → ch ∉ cls) : (opt cls).take (u ++ v) = some (u, v) := by
  rcases hu with rfl | ⟨ch, hch, rfl⟩
  · cases v with
    | nil => rfl
    | cons ch w =>
        have hch : ch ∉ cls := hstop ch w rfl
        simp [take, hch]
  · simp [take, hch]

/-- A word is the longest one if what another one has behind it does not come
next. -/
theorem Item.take_oneOf {ws : List (List Char)} {u v : List Char} (hu : u ∈ ws)
    (hstop : ∀ ch x, u ++ ch :: x ∈ ws → ¬ ch :: x <+: v) :
    (oneOf ws).take (u ++ v) = some (u, v) := by
  obtain ⟨w, hw, hle⟩ := longest_max hu (List.prefix_append u v)
  obtain ⟨hwmem, hwpre⟩ := longest_sound hw
  obtain ⟨x, rfl⟩ : u <+: w :=
    List.prefix_of_prefix_length_le (List.prefix_append u v) hwpre hle
  rw [List.prefix_append_right_inj] at hwpre
  cases x with
  | nil =>
      rw [List.append_nil] at hw
      rw [take, hw]
      simp
  | cons ch x => exact absurd hwpre (hstop ch x hwmem)

/-- Behind a part that does not reach into what follows, its piece is the
longest one. -/
theorem take_of_det {part : Part} {parts : LinePattern} (hdet : det (part :: parts) = true)
    {u v : List Char} {groups : List (List Char)} (hu : part.item.Lang u)
    (hv : Matches parts v groups) : part.item.take (u ++ v) = some (u, v) := by
  rw [det, Bool.and_eq_true] at hdet
  have hitem := hdet.1
  -- a class whose characters do not begin what follows
  have hstop : ∀ cls : List Char, (cls.all fun ch => !firsts parts ch) = true →
      ∀ ch w, v = ch :: w → ch ∉ cls := by
    intro cls hcls ch w hvw hmem
    have := List.all_eq_true.mp hcls ch hmem
    rw [firsts_of_matches hv hvw] at this
    cases this
  cases hpart : part.item with
  | lit l =>
      rw [hpart] at hu
      cases hu
      rw [Item.take, if_pos (List.isPrefixOf_iff_prefix.mpr (List.prefix_append _ _))]
      simp
  | many cls least =>
      rw [hpart] at hu hitem
      exact Item.take_many hu (hstop cls hitem)
  | opt cls =>
      rw [hpart] at hu hitem
      exact Item.take_opt hu (hstop cls hitem)
  | oneOf ws =>
      rw [hpart] at hu hitem
      refine Item.take_oneOf hu fun ch x hword hnext => ?_
      obtain ⟨rest, rfl⟩ := hnext
      have hfirst : firsts parts ch = true := firsts_of_matches hv rfl
      have hclosed := List.all_eq_true.mp (List.all_eq_true.mp hitem (u ++ ch :: x) hword) u hu
      rw [List.isPrefixOf_iff_prefix.mpr (List.prefix_append u _), List.drop_left] at hclosed
      simp [hfirst] at hclosed

/-- **A match is found by taking the longest pieces.** -/
theorem scan_iff {parts : LinePattern} (hdet : det parts = true) {s : List Char}
    {groups : List (List Char)} : scan parts s = some groups ↔ Matches parts s groups := by
  refine ⟨scan_sound, fun h => ?_⟩
  induction h with
  | nil => rfl
  | cons hu hv ih =>
      rw [scan, take_of_det hdet hu hv]
      rw [det, Bool.and_eq_true] at hdet
      simp only [ih hdet.2, Option.map_some]

/-! ## Patterns without a common line -/

/-- Every piece of the item has a character outside of the class. -/
def Item.leaves (cls : List Char) : Item → Bool
  | lit l => l.any fun ch => !cls.contains ch
  | many cls' least => decide (0 < least) && cls'.all fun ch => !cls.contains ch
  | opt _ => false
  | oneOf ws => ws.all fun w => w.any fun ch => !cls.contains ch

/-- The words an item takes, if they are finitely many and fixed. -/
def Item.words : Item → List (List Char)
  | lit l => [l]
  | oneOf ws => ws
  | _ => []

/-- The two items take words only, none of which begins with one of the other. -/
def clash (i j : Item) : Bool :=
  i.words != [] && j.words != [] &&
    i.words.all fun w => j.words.all fun w' => !w.isPrefixOf w' && !w'.isPrefixOf w

/-- The first pattern stays within a class that the second one leaves. -/
def within : LinePattern → LinePattern → Bool
  | [], qs => qs.any fun q => q.item.leaves []
  | [p], qs =>
      match p.item with
      | .many cls _ => qs.any fun q => q.item.leaves cls
      | _ => false
  | _, _ => false

/-- A check that two patterns have no line in common: behind the items they
begin with alike, they go apart. -/
def apart : LinePattern → LinePattern → Bool
  | p :: ps, q :: qs =>
      (p.item == q.item && apart ps qs) || clash p.item q.item ||
        within (p :: ps) (q :: qs) || within (q :: qs) (p :: ps)
  | ps, qs => within ps qs || within qs ps

theorem Item.exists_of_leaves {cls : List Char} {item : Item} (h : item.leaves cls = true)
    {u : List Char} (hu : item.Lang u) : ∃ ch ∈ u, ch ∉ cls := by
  cases item with
  | lit l =>
      cases hu
      obtain ⟨ch, hch, hout⟩ := List.any_eq_true.mp h
      exact ⟨ch, hch, by simpa using hout⟩
  | many cls' least =>
      rw [leaves, Bool.and_eq_true, decide_eq_true_eq] at h
      have hlength := hu.1
      obtain ⟨ch, u', rfl⟩ := List.exists_cons_of_length_pos (show 0 < u.length by omega)
      have hout := List.all_eq_true.mp h.2 ch (hu.2 ch (by simp))
      exact ⟨ch, by simp, by simpa using hout⟩
  | opt cls' => cases h
  | oneOf ws =>
      obtain ⟨ch, hch, hout⟩ := List.any_eq_true.mp (List.all_eq_true.mp h u hu)
      exact ⟨ch, hch, by simpa using hout⟩

theorem exists_of_leaves {cls : List Char} {parts : LinePattern} {s : List Char}
    {groups : List (List Char)} (hs : Matches parts s groups)
    (h : (parts.any fun part => part.item.leaves cls) = true) : ∃ ch ∈ s, ch ∉ cls := by
  induction hs with
  | nil => cases h
  | @cons part parts u v groups hu hv ih =>
      rw [List.any_cons, Bool.or_eq_true] at h
      rcases h with h | h
      · obtain ⟨ch, hch, hout⟩ := Item.exists_of_leaves h hu
        exact ⟨ch, List.mem_append_left _ hch, hout⟩
      · obtain ⟨ch, hch, hout⟩ := ih h
        exact ⟨ch, List.mem_append_right _ hch, hout⟩

theorem not_matches_of_within {ps qs : LinePattern} (h : within ps qs = true) {s : List Char}
    {groups groups' : List (List Char)} (hp : Matches ps s groups) : ¬ Matches qs s groups' := by
  intro hq
  cases hp with
  | nil =>
      obtain ⟨ch, hch, -⟩ := exists_of_leaves hq h
      cases hch
  | @cons part parts u v groups hu hv =>
      cases parts with
      | cons p ps => cases h
      | nil =>
          cases hv
          cases hitem : part.item with
          | many cls least =>
              rw [within, hitem] at h
              rw [hitem] at hu
              obtain ⟨ch, hch, hout⟩ := exists_of_leaves hq h
              rw [List.append_nil] at hch
              exact hout (hu.2 ch hch)
          | lit l => simp [within, hitem] at h
          | opt cls => simp [within, hitem] at h
          | oneOf ws => simp [within, hitem] at h

theorem Item.mem_words {item : Item} (h : item.words ≠ []) {u : List Char} (hu : item.Lang u) :
    u ∈ item.words := by
  cases item with
  | lit l => exact List.mem_singleton.mpr hu
  | many cls least => exact absurd rfl h
  | opt cls => exact absurd rfl h
  | oneOf ws => exact hu

/-- Items that clash do not begin the same text. -/
theorem not_of_clash {i j : Item} (h : clash i j = true) {u v u' v' : List Char} (hu : i.Lang u)
    (hu' : j.Lang u') : u ++ v ≠ u' ++ v' := by
  intro heq
  simp only [clash, Bool.and_eq_true, bne_iff_ne] at h
  have hpair := List.all_eq_true.mp (List.all_eq_true.mp h.2 u (Item.mem_words h.1.1 hu)) u'
    (Item.mem_words h.1.2 hu')
  rw [Bool.and_eq_true, Bool.not_eq_true', Bool.not_eq_true'] at hpair
  have hpre : u <+: u' ++ v' := heq ▸ List.prefix_append u v
  rcases List.prefix_or_prefix_of_prefix hpre (List.prefix_append u' v') with hle | hle
  · rw [List.isPrefixOf_iff_prefix.mpr hle] at hpair
    cases hpair.1
  · rw [List.isPrefixOf_iff_prefix.mpr hle] at hpair
    cases hpair.2

/-- **Patterns that are apart have no line in common.** -/
theorem not_matches_of_apart {ps qs : LinePattern} (hps : det ps = true) (hqs : det qs = true)
    (h : apart ps qs = true) {s : List Char} {groups groups' : List (List Char)}
    (hp : Matches ps s groups) : ¬ Matches qs s groups' := by
  induction ps generalizing qs s groups groups' with
  | nil =>
      intro hq
      rw [apart, Bool.or_eq_true] at h
      · rcases h with h | h
        · exact not_matches_of_within h hp hq
        · exact not_matches_of_within h hq hp
      · simp
  | cons p ps ih =>
      cases qs with
      | nil =>
          intro hq
          rw [apart, Bool.or_eq_true] at h
          · rcases h with h | h
            · exact not_matches_of_within h hp hq
            · exact not_matches_of_within h hq hp
          · simp
      | cons q qs =>
          intro hq
          rw [apart] at h
          simp only [Bool.or_eq_true, Bool.and_eq_true, beq_iff_eq] at h
          rcases h with ((⟨hitem, hrest⟩ | hclash) | hwithin) | hwithin
          · -- both take the same piece, and go apart behind it
            generalize hline : s = line at hq
            cases hp with
            | cons hu hv =>
                cases hq with
                | cons hu' hv' =>
                    have htake := take_of_det hps hu hv
                    have htake' := take_of_det hqs hu' hv'
                    rw [← hline, ← hitem, htake] at htake'
                    cases htake'
                    rw [det, Bool.and_eq_true] at hps hqs
                    exact ih hps.2 hqs.2 hrest hv hv'
          · generalize hline : s = line at hq
            cases hp with
            | cons hu hv =>
                cases hq with
                | cons hu' hv' => exact not_of_clash hclash hu hu' hline
          · exact not_matches_of_within hwithin hp hq
          · exact not_matches_of_within hwithin hq hp

/-! ## Tables of patterns -/

variable {β γ : Type*}

/-- The first pattern of a table that matches, with its groups. -/
def firstMatch (act : β → List (List Char) → γ) (rows : List (LinePattern × β)) (s : List Char) :
    Option γ :=
  rows.findSome? fun row => (scan row.1 s).map (act row.2)

/-- In a table of patterns that are apart it does not matter which match is
the first. -/
theorem firstMatch_of_mem (act : β → List (List Char) → γ) {rows : List (LinePattern × β)}
    (hdet : ∀ row ∈ rows, det row.1 = true)
    (hapart : rows.Pairwise fun row row' => apart row.1 row'.1 = true) {row : LinePattern × β}
    (hrow : row ∈ rows) {s : List Char} {groups : List (List Char)}
    (h : Matches row.1 s groups) : firstMatch act rows s = some (act row.2 groups) := by
  induction rows with
  | nil => cases hrow
  | cons head rows ih =>
      rw [List.pairwise_cons] at hapart
      rw [firstMatch, List.findSome?_cons]
      rcases List.mem_cons.mp hrow with rfl | hrow
      · rw [(scan_iff (hdet row List.mem_cons_self)).mpr h]
        rfl
      · cases hscan : scan head.1 s with
        | none => exact ih (fun row hrow => hdet row (List.mem_cons_of_mem _ hrow)) hapart.2 hrow
        | some groups' =>
            exact absurd h (not_matches_of_apart (hdet head List.mem_cons_self)
              (hdet row (List.mem_cons_of_mem _ hrow)) (hapart.1 row hrow) (scan_sound hscan))

/-- Of patterns that are apart a line matches one, with the same groups. -/
theorem eq_of_matches {ps : List LinePattern} (hdet : ∀ p ∈ ps, det p = true)
    (hapart : ps.Pairwise fun p q => apart p q = true) {p q : LinePattern} (hp : p ∈ ps)
    (hq : q ∈ ps) {s : List Char} {groups groups' : List (List Char)} (h : Matches p s groups)
    (h' : Matches q s groups') : p = q ∧ groups = groups' := by
  -- the table of the patterns that tells which one is the first
  have hfirst : ∀ {p groups}, p ∈ ps → Matches p s groups →
      firstMatch Prod.mk (ps.map fun p => (p, p)) s = some (p, groups) := by
    intro p groups hp h
    refine firstMatch_of_mem Prod.mk ?_ ?_ (List.mem_map_of_mem hp) h
    · simpa using hdet
    · simpa [List.pairwise_map] using hapart
  have heq := (hfirst hp h).symm.trans (hfirst hq h')
  simpa using heq

theorem firstMatch_eq_none (act : β → List (List Char) → γ) {rows : List (LinePattern × β)}
    {s : List Char} (h : ∀ row ∈ rows, ∀ groups, ¬ Matches row.1 s groups) :
    firstMatch act rows s = none := by
  rw [firstMatch, List.findSome?_eq_none_iff]
  intro row hrow
  cases hscan : scan row.1 s with
  | none => rfl
  | some groups => exact absurd (scan_sound hscan) (h row hrow groups)

end OpenHcan.Lib
