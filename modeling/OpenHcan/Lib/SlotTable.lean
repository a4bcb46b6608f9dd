import OpenHcan.Lib.SlotPool
import Mathlib.Data.List.Nodup
import Mathlib.Logic.Function.Basic

/-!
# SlotTable — a map in a row of slots

The entries of a table, in whatever order, represent a map when they are its
pairs and no key comes twice. Two ways to store a value keep that: the entry
of the key is overwritten, or an entry is added for a key that has none.
-/

namespace OpenHcan.Lib

variable {κ ν : Type*} {l l' pre post : List (κ × ν)} {m : κ → Option ν} {k : κ} {v w : ν}

/-- The entries are the pairs of the map, each key once. -/
structure Represents (l : List (κ × ν)) (m : κ → Option ν) : Prop where
  nodup : (l.map Prod.fst).Nodup
  mem_iff : ∀ k v, (k, v) ∈ l ↔ m k = some v

theorem represents_nil : Represents ([] : List (κ × ν)) fun _ => none :=
  ⟨List.nodup_nil, by simp⟩

theorem Represents.mem_keys_iff (h : Represents l m) : k ∈ l.map Prod.fst ↔ (m k).isSome := by
  rw [Option.isSome_iff_exists]
  simp only [List.mem_map, Prod.exists, exists_and_right, exists_eq_right, h.mem_iff]

/-- Two tables of one map differ in the order only. -/
theorem Represents.perm (h : Represents l m) (h' : Represents l' m) : l.Perm l' := by
  rw [List.perm_ext_iff_of_nodup h.nodup.of_map h'.nodup.of_map]
  rintro ⟨k, v⟩
  rw [h.mem_iff, h'.mem_iff]

/-- The order of the entries does not matter. -/
theorem Represents.of_perm (h : Represents l m) (hperm : l'.Perm l) : Represents l' m :=
  ⟨((hperm.map _).nodup_iff).mpr h.nodup, fun k v => by rw [hperm.mem_iff, h.mem_iff]⟩

/-- The pairs of a map whose keys are known. -/
theorem represents_filterMap {ks : List κ} (hks : ks.Nodup) (hm : ∀ k v, m k = some v → k ∈ ks) :
    Represents (ks.filterMap fun k => (m k).map (k, ·)) m := by
  have hkeys : (ks.filterMap fun k => (m k).map (k, ·)).map Prod.fst =
      ks.filter fun k => (m k).isSome := by
    clear hks hm
    induction ks with
    | nil => rfl
    | cons k ks ih => cases h : m k <;> simp [h, ih]
  refine ⟨hkeys ▸ hks.filter _, fun k v => ?_⟩
  simp only [List.mem_filterMap, Option.map_eq_some_iff, Prod.mk.injEq]
  constructor
  · rintro ⟨k', -, v', hv, rfl, rfl⟩
    exact hv
  · exact fun hv => ⟨k, hm k v hv, v, hv, rfl, rfl⟩

variable [DecidableEq κ]

/-- A key that has no entry gets one. -/
theorem Represents.cons (h : Represents l m) (hk : m k = none) :
    Represents ((k, v) :: l) (Function.update m k (some v)) := by
  have hfresh : k ∉ l.map Prod.fst := by
    rw [h.mem_keys_iff, hk]
    exact Bool.false_ne_true
  refine ⟨List.nodup_cons.mpr ⟨hfresh, h.nodup⟩, fun k' v' => ?_⟩
  rw [List.mem_cons, Prod.mk.injEq, h.mem_iff]
  by_cases heq : k' = k
  · subst heq
    simp [hk, eq_comm]
  · simp [heq]

/-- The entry of a key is overwritten. -/
theorem Represents.replace (h : Represents (pre ++ (k, w) :: post) m) :
    Represents (pre ++ (k, v) :: post) (Function.update m k (some v)) := by
  have hkeys : (pre ++ (k, v) :: post).map Prod.fst = (pre ++ (k, w) :: post).map Prod.fst := by
    simp
  have hother : k ∉ (pre ++ post).map Prod.fst := by
    have hnodup := h.nodup
    rw [List.map_append, List.map_cons, List.nodup_middle, List.nodup_cons] at hnodup
    rw [List.map_append]
    exact hnodup.1
  refine ⟨hkeys ▸ h.nodup, fun k' v' => ?_⟩
  have hold := h.mem_iff k' v'
  rw [List.mem_append, List.mem_cons, or_left_comm, ← List.mem_append, Prod.mk.injEq] at hold ⊢
  by_cases heq : k' = k
  · subst heq
    have hnot : (k', v') ∉ pre ++ post := fun hmem => hother (List.mem_map_of_mem hmem)
    simp [hnot, eq_comm]
  · simpa [heq] using hold

end OpenHcan.Lib
