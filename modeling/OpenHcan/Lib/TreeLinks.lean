import Mathlib.Data.List.Nodup
import Mathlib.Logic.Relation
import OpenHcan.Lib.SiblingTree

/-!
# TreeLinks — a forest as a table of links

Each node of a forest with the labels around it: its parent, its next and its
previous sibling, its first child. In the table of a forest the links fit
together, and whoever follows first children and next siblings from the first
root comes by every node.
-/

namespace OpenHcan.Lib

/-- A node's label, and the labels around it. -/
structure Links (α : Type*) where
  self : α
  parent : Option α
  next : Option α
  prev : Option α
  child : Option α
deriving DecidableEq, Repr

namespace Siblings

variable {α : Type*}

/-- The label of the node a pointer leads to. -/
def root : Siblings α → Option α
  | null => none
  | node a _ _ => some a

/-- The table of a row of siblings, for their parent and the sibling before them. -/
def links (parent prev : Option α) : Siblings α → List (Links α)
  | null => []
  | node a children next =>
      ⟨a, parent, next.root, prev, children.root⟩
        :: (children.links (some a) none ++ next.links parent (some a))

variable {t : Siblings α} {parent prev : Option α} {l l' : Links α} {a b : α}

@[simp] theorem links_map_self (t : Siblings α) (parent prev : Option α) :
    (t.links parent prev).map Links.self = t.labels := by
  induction t generalizing parent prev with
  | null => rfl
  | node a children next ihc ihn => simp [links, labels, ihc, ihn]

theorem mem_labels : a ∈ t.labels ↔ ∃ l ∈ t.links parent prev, l.self = a := by
  rw [← links_map_self t parent prev, List.mem_map]

theorem self_mem_labels (h : l ∈ t.links parent prev) : l.self ∈ t.labels :=
  mem_labels.mpr ⟨l, h, rfl⟩

theorem root_mem_labels (h : t.root = some a) : a ∈ t.labels := by
  cases t with
  | null => cases h
  | node b children next =>
      cases h
      exact List.mem_cons_self

/-- A label that occurs once has one entry. -/
theorem links_unique (hnd : t.labels.Nodup) (h : l ∈ t.links parent prev)
    (h' : l' ∈ t.links parent prev) (hself : l.self = l'.self) : l = l' := by
  rw [← links_map_self t parent prev] at hnd
  exact List.inj_on_of_nodup_map hnd h h' hself

/-! ## The links fit together -/

/-- The first of a row has the parent and the predecessor the row was given. -/
theorem root_link (h : t.root = some a) :
    ∃ l ∈ t.links parent prev, l.self = a ∧ l.parent = parent ∧ l.prev = prev := by
  cases t with
  | null => cases h
  | node b children next =>
      cases h
      exact ⟨_, List.mem_cons_self, rfl, rfl, rfl⟩

theorem next_link (h : l ∈ t.links parent prev) (hnext : l.next = some b) :
    ∃ l' ∈ t.links parent prev, l'.self = b ∧ l'.parent = l.parent ∧
      l'.prev = some l.self := by
  induction t generalizing parent prev with
  | null => cases h
  | node a children next ihc ihn =>
      simp only [links, List.mem_cons, List.mem_append] at h ⊢
      obtain rfl | h | h := h
      · obtain ⟨l', hl', hlinks⟩ := @root_link _ _ parent (some a) _ hnext
        exact ⟨l', .inr (.inr hl'), hlinks⟩
      · obtain ⟨l', hl', hlinks⟩ := ihc h
        exact ⟨l', .inr (.inl hl'), hlinks⟩
      · obtain ⟨l', hl', hlinks⟩ := ihn h
        exact ⟨l', .inr (.inr hl'), hlinks⟩

theorem child_link (h : l ∈ t.links parent prev) (hchild : l.child = some b) :
    ∃ l' ∈ t.links parent prev, l'.self = b ∧ l'.parent = some l.self ∧ l'.prev = none := by
  induction t generalizing parent prev with
  | null => cases h
  | node a children next ihc ihn =>
      simp only [links, List.mem_cons, List.mem_append] at h ⊢
      obtain rfl | h | h := h
      · obtain ⟨l', hl', hlinks⟩ := @root_link _ _ (some a) none _ hchild
        exact ⟨l', .inr (.inl hl'), hlinks⟩
      · obtain ⟨l', hl', hlinks⟩ := ihc h
        exact ⟨l', .inr (.inl hl'), hlinks⟩
      · obtain ⟨l', hl', hlinks⟩ := ihn h
        exact ⟨l', .inr (.inr hl'), hlinks⟩

/-- A parent is a node of the forest, or the one the forest was given. -/
theorem parent_link (h : l ∈ t.links parent prev) :
    l.parent = parent ∨ ∃ l' ∈ t.links parent prev, l.parent = some l'.self := by
  induction t generalizing parent prev with
  | null => cases h
  | node a children next ihc ihn =>
      simp only [links, List.mem_cons, List.mem_append] at h ⊢
      obtain rfl | h | h := h
      · exact .inl rfl
      · refine .inr ?_
        obtain hself | ⟨l', hl', hself⟩ := ihc h
        · exact ⟨_, .inl rfl, hself⟩
        · exact ⟨l', .inr (.inl hl'), hself⟩
      · obtain hself | ⟨l', hl', hself⟩ := ihn h
        · exact .inl hself
        · exact .inr ⟨l', .inr (.inr hl'), hself⟩

/-- A previous sibling is a node of the forest with this one behind it, or the one
the forest was given. -/
theorem prev_link (h : l ∈ t.links parent prev) :
    l.prev = none ∨ l.prev = prev ∧ l.parent = parent ∧ t.root = some l.self ∨
      ∃ l' ∈ t.links parent prev, l.prev = some l'.self ∧ l'.next = some l.self ∧
        l'.parent = l.parent := by
  induction t generalizing parent prev with
  | null => cases h
  | node a children next ihc ihn =>
      simp only [links, List.mem_cons, List.mem_append] at h ⊢
      obtain rfl | h | h := h
      · exact .inr (.inl ⟨rfl, rfl, rfl⟩)
      · obtain hnone | ⟨hnone, -⟩ | ⟨l', hl', hlinks⟩ := ihc h
        · exact .inl hnone
        · exact .inl hnone
        · exact .inr (.inr ⟨l', .inr (.inl hl'), hlinks⟩)
      · obtain hnone | ⟨hprev, hparent, hroot⟩ | ⟨l', hl', hlinks⟩ := ihn h
        · exact .inl hnone
        -- the first of the row behind `a` has `a` before it
        · exact .inr (.inr ⟨_, .inl rfl, hprev, hroot, hparent.symm⟩)
        · exact .inr (.inr ⟨l', .inr (.inr hl'), hlinks⟩)

/-- What has a parent and nothing before it is the first child there. -/
theorem first_link (h : l ∈ t.links parent prev) (hprev : l.prev = none)
    (hparent : l.parent = some a) :
    parent = some a ∧ prev = none ∧ t.root = some l.self ∨
      ∃ l' ∈ t.links parent prev, l'.self = a ∧ l'.child = some l.self := by
  induction t generalizing parent prev with
  | null => cases h
  | node b children next ihc ihn =>
      simp only [links, List.mem_cons, List.mem_append] at h ⊢
      obtain rfl | h | h := h
      · exact .inl ⟨hparent, hprev, rfl⟩
      · obtain ⟨hb, -, hroot⟩ | ⟨l', hl', hlinks⟩ := ihc h
        · exact .inr ⟨_, .inl rfl, Option.some.inj hb, hroot⟩
        · exact .inr ⟨l', .inr (.inl hl'), hlinks⟩
      · obtain ⟨-, hnone, -⟩ | ⟨l', hl', hlinks⟩ := ihn h
        · cases hnone
        · exact .inr ⟨l', .inr (.inr hl'), hlinks⟩

/-! ## Every node is reached -/

/-- One goes on to the first child or to the next sibling. -/
def Forward (ls : List (Links α)) (a b : α) : Prop :=
  ∃ l ∈ ls, l.self = a ∧ (l.child = some b ∨ l.next = some b)

theorem Forward.mono {ls ls' : List (Links α)} (hsub : ls ⊆ ls') (h : Forward ls a b) :
    Forward ls' a b := by
  obtain ⟨l, hl, hself, hgo⟩ := h
  exact ⟨l, hsub hl, hself, hgo⟩

theorem path_mono {ls ls' : List (Links α)} (hsub : ls ⊆ ls')
    (h : Relation.ReflTransGen (Forward ls) a b) : Relation.ReflTransGen (Forward ls') a b :=
  h.lift id fun _ _ => Forward.mono hsub

/-- **From the first root every node is reached** over first children and next
siblings. -/
theorem reached (ha : a ∈ t.labels) :
    ∃ r, t.root = some r ∧ Relation.ReflTransGen (Forward (t.links parent prev)) r a := by
  induction t generalizing parent prev with
  | null => cases ha
  | node b children next ihc ihn =>
      refine ⟨b, rfl, ?_⟩
      have hself : (⟨b, parent, next.root, prev, children.root⟩ : Links α)
          ∈ (node b children next).links parent prev := List.mem_cons_self
      simp only [labels, List.mem_cons, List.mem_append] at ha
      obtain rfl | ha | ha := ha
      · exact .refl
      · obtain ⟨r, hr, hpath⟩ := @ihc (some b) none ha
        have hstep : Forward ((node b children next).links parent prev) b r :=
          ⟨_, hself, rfl, .inl hr⟩
        refine .head hstep (path_mono (fun l hl => ?_) hpath)
        exact List.mem_cons_of_mem _ (List.mem_append_left _ hl)
      · obtain ⟨r, hr, hpath⟩ := @ihn parent (some b) ha
        have hstep : Forward ((node b children next).links parent prev) b r :=
          ⟨_, hself, rfl, .inr hr⟩
        refine .head hstep (path_mono (fun l hl => ?_) hpath)
        exact List.mem_cons_of_mem _ (List.mem_append_right _ hl)

end Siblings

end OpenHcan.Lib
