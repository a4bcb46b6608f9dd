import OpenHcan.Canix.EdsFind
import OpenHcan.Canix.EdsHeap

/-!
# EdsForeach — which blocks a loop over the heap comes by

The loops that a firmware loads its configuration with: over
`eds_find_next_block` for one type, over `eds_find_next_block_between` for an
interval of types. A search that comes to the end of the heap compares the byte
behind it before it looks at the address.
-/

namespace OpenHcan.Eds

open OpenHcan.Lib OpenHcan.Lib.Tiling

/-- The `for` loop over `eds_find_next_block`. -/
def edsForeachBlock (mcu : Mcu) (m : Eeprom) (type : UInt8) : List Nat :=
  foreachFrom mcu m (fun t => t == type) (edsEnd mcu) (edsFindNextBlock mcu m 0 type)

set_option maxRecDepth 100000

variable {mcu : Mcu} {m : Eeprom} {bs : Blocks} {wanted : UInt8 → Bool}

/-! ## The loops end -/

/-- The `while` loop of a search, entered with `p`, returns `q`. -/
inductive Finds (mcu : Mcu) (m : Eeprom) (wanted : UInt8 → Bool) : Nat → Nat → Prop
  | ends {p : Nat} : ¬ p < edsEnd mcu → Finds mcu m wanted p 0
  | found {p : Nat} : p < edsEnd mcu → wanted (edsBlockType m (edsNextBlock m p)) = true →
      Finds mcu m wanted p (edsNextBlock m p)
  | passes {p q : Nat} : p < edsEnd mcu → wanted (edsBlockType m (edsNextBlock m p)) = false →
      Finds mcu m wanted (edsNextBlock m p) q → Finds mcu m wanted p q

/-- The `for` loop over the searches, entered with `it`, runs its body for the
blocks `visited` and ends with 0. -/
inductive Visits (mcu : Mcu) (m : Eeprom) (wanted : UInt8 → Bool) : Nat → List Nat → Prop
  | ends : Visits mcu m wanted 0 []
  | body {it next : Nat} {visited : List Nat} : it ≠ 0 → Finds mcu m wanted it next →
      Visits mcu m wanted next visited → Visits mcu m wanted it (it :: visited)

/-- A search ends on every content of the EEPROM, with 0 or behind its start. -/
theorem findLoop_finds (mcu : Mcu) (m : Eeprom) (wanted : UInt8 → Bool) :
    ∀ (fuel p : Nat), edsEnd mcu < p + fuel →
    Finds mcu m wanted p (findLoop mcu m wanted fuel p) ∧
      (findLoop mcu m wanted fuel p = 0 ∨
        p < edsEnd mcu ∧ p + 2 ≤ findLoop mcu m wanted fuel p) := by
  intro fuel
  induction fuel with
  | zero => exact fun p hp => ⟨.ends (by omega), .inl rfl⟩
  | succ fuel ih =>
      intro p hfuel
      rw [findLoop]
      split
      · next hp =>
          have hgo := le_edsNextBlock m hp
          show Finds mcu m wanted p
            (if wanted (edsBlockType m (edsNextBlock m p)) then _ else _) ∧ _
          cases hw : wanted (edsBlockType m (edsNextBlock m p)) with
          | true => exact ⟨.found hp hw, .inr ⟨hp, by simpa [hw] using hgo⟩⟩
          | false =>
              obtain ⟨hfinds, hback⟩ := ih (edsNextBlock m p) (by omega)
              refine ⟨.passes hp hw hfinds, hback.imp (fun h => by simpa [hw] using h) fun h => ?_⟩
              refine ⟨hp, ?_⟩
              have := h.2
              simp only [hw, Bool.false_eq_true, if_false]
              omega
      · next hp => exact ⟨.ends hp, .inl rfl⟩

/-- The loop over a search ends on every content of the EEPROM. -/
theorem foreachFrom_visits : ∀ (fuel it : Nat), it = 0 ∨ edsEnd mcu < it + fuel ∧ 0 < fuel →
    Visits mcu m wanted it (foreachFrom mcu m wanted fuel it) := by
  intro fuel
  induction fuel with
  | zero =>
      intro it hit
      rw [hit.resolve_right (by omega)]
      exact .ends
  | succ fuel ih =>
      intro it hit
      rw [foreachFrom]
      split
      · next h0 =>
          rw [h0]
          exact .ends
      · next h0 =>
          have hfuel := hit.resolve_left h0
          have hnext : findFrom mcu m wanted it = findLoop mcu m wanted (edsEnd mcu) it := by
            rw [findFrom, if_neg h0]
          rw [hnext]
          obtain ⟨hfinds, hback⟩ := findLoop_finds mcu m wanted (edsEnd mcu) it (by omega)
          exact .body h0 hfinds (ih _ (hback.imp_right fun h => by omega))

/-- What the first search of a loop returns. -/
theorem findFrom_start_le (mcu : Mcu) (m : Eeprom) (wanted : UInt8 → Bool) :
    findFrom mcu m wanted 0 = 0 ∨ edsDataStart ≤ findFrom mcu m wanted 0 := by
  rw [findFrom, if_pos rfl]
  split
  · exact .inr (Nat.le_refl _)
  · have hpos : 0 < edsDataStart := by decide
    obtain ⟨-, hback⟩ := findLoop_finds mcu m wanted (edsEnd mcu) edsDataStart (by omega)
    exact hback.imp_right fun h => by omega

/-! ## What they come by -/

/-- The loop comes by exactly the blocks of the chain with a wanted type, each once
and in the order of their addresses, ends with 0, and takes no address behind
`EDS_END` for a block. -/
structure VisitsExactly (mcu : Mcu) (m : Eeprom) (wanted : UInt8 → Bool) (visited : List Nat) :
    Prop where
  ends : Visits mcu m wanted (findFrom mcu m wanted 0) visited
  mem : ∀ a, a ∈ visited ↔ IsBlockHead mcu m a ∧ wanted (edsBlockType m a) = true
  order : visited.Pairwise (· < ·)
  inside : ∀ a ∈ visited, a ≤ edsEnd mcu

theorem foreachFrom_eq_wantedFrom (hh : EdsHeap mcu m bs) :
    foreachFrom mcu m wanted (edsEnd mcu) (findFrom mcu m wanted 0)
      = wantedFrom mcu m wanted edsDataStart bs := by
  have hlen := hh.two_mul_length_le
  have hpos : 2 ≤ edsDataStart := by decide
  have hle := length_wantedFrom_le mcu m wanted edsDataStart bs
  rw [findFrom_start hh]
  exact foreachFrom_headD bs [] (edsEnd mcu) hh (Nat.le_trans hle (by omega))

/-- **Where the byte behind the heap has no wanted type** the loop comes by the
blocks of the heap, and by nothing else. -/
theorem visitsExactly_of_unwanted (hh : EdsHeap mcu m bs)
    (hno : wanted (m (edsEnd mcu + 1)) = false) :
    VisitsExactly mcu m wanted
      (foreachFrom mcu m wanted (edsEnd mcu) (findFrom mcu m wanted 0)) := by
  have hlist : wantedFrom mcu m wanted edsDataStart bs
      = (starts 2 edsDataStart bs).filter fun a => wanted (m a) := by
    rw [wantedFrom, List.filter_append, List.filter_cons_of_neg (by simp [hno]), List.filter_nil,
      List.append_nil]
  have hpos : 0 < edsEnd mcu := by cases mcu <;> decide
  have hmem : ∀ a, a ∈ wantedFrom mcu m wanted edsDataStart bs ↔
      IsBlockHead mcu m a ∧ wanted (edsBlockType m a) = true := by
    intro a
    rw [hlist, List.mem_filter, mem_starts, hh.isBlockHead_iff]
    rfl
  -- the order is that of the heap, which a filter keeps
  refine ⟨foreachFrom_visits _ _ ((findFrom_start_le mcu m wanted).imp_right fun h => ?_), ?_, ?_,
    ?_⟩
  · exact ⟨Nat.lt_add_of_pos_left (Nat.lt_of_lt_of_le (by decide) h), hpos⟩
  · rw [foreachFrom_eq_wantedFrom hh]
    exact hmem
  · rw [foreachFrom_eq_wantedFrom hh, hlist]
    exact (starts_pairwise (by decide) _ _).filter _
  · rw [foreachFrom_eq_wantedFrom hh]
    intro a ha
    obtain ⟨s, hs⟩ := (hh.isBlockHead_iff a).mp ((hmem a).mp ha).1
    exact Nat.le_of_lt (hh.lt_edsEnd hs)

/-- Otherwise the address behind the heap is taken for a block. -/
theorem mem_foreachFrom_of_wanted (hh : EdsHeap mcu m bs)
    (hyes : wanted (m (edsEnd mcu + 1)) = true) :
    edsEnd mcu + 1 ∈ foreachFrom mcu m wanted (edsEnd mcu) (findFrom mcu m wanted 0) := by
  rw [foreachFrom_eq_wantedFrom hh, wantedFrom, List.mem_filter]
  exact ⟨List.mem_append_right _ (List.mem_singleton_self _), hyes⟩

theorem visitsExactly_iff (hh : EdsHeap mcu m bs) :
    VisitsExactly mcu m wanted
        (foreachFrom mcu m wanted (edsEnd mcu) (findFrom mcu m wanted 0))
      ↔ wanted (m (edsEnd mcu + 1)) = false := by
  refine ⟨fun h => ?_, visitsExactly_of_unwanted hh⟩
  rw [← Bool.not_eq_true]
  intro hyes
  have hin := h.inside _ (mem_foreachFrom_of_wanted hh hyes)
  omega

/-- **When the loops come by exactly the blocks of their types**: whenever what a
read at `EDS_END + 1` returns is not one of these types. -/
theorem foreach_exact_iff (hh : EdsHeap mcu m bs) :
    (∀ type, VisitsExactly mcu m (fun t => t == type) (edsForeachBlock mcu m type) ↔
      m (edsEnd mcu + 1) ≠ type) ∧
    ∀ type1 type2, VisitsExactly mcu m (fun t => t ≥ type1 && t ≤ type2)
        (edsForeachBlockBetween mcu m type1 type2) ↔
      ¬ (type1 ≤ m (edsEnd mcu + 1) ∧ m (edsEnd mcu + 1) ≤ type2) := by
  refine ⟨fun type => (visitsExactly_iff hh).trans ?_,
    fun type1 type2 => (visitsExactly_iff hh).trans ?_⟩
  · simp
  · simp only [Bool.and_eq_false_iff, decide_eq_false_iff_not, ge_iff_le]
    tauto

theorem foreach_exact_format :
    VisitsExactly .atmega32 (edsFormat .atmega32 fun _ => 255) (fun t => t == 19)
      (edsForeachBlock .atmega32 (edsFormat .atmega32 fun _ => 255) 19) := by
  obtain ⟨bs, hh, _⟩ := edsFormat_heap .atmega32 fun _ => 255
  exact ((foreach_exact_iff hh).1 19).mpr (by decide)

/-- A heap without a single block of type 19, in a part whose read behind the last
address returns 19. -/
theorem foreach_behindTheEnd :
    ∃ bs, EdsHeap .atmega32 (edsFormat .atmega32 fun _ => 19) bs ∧ (∀ s ∈ bs, s.tag = 0) ∧
      1024 ∈ edsForeachBlock .atmega32 (edsFormat .atmega32 fun _ => 19) 19 ∧
      ¬ VisitsExactly .atmega32 (edsFormat .atmega32 fun _ => 19) (fun t => t == 19)
        (edsForeachBlock .atmega32 (edsFormat .atmega32 fun _ => 19) 19) := by
  obtain ⟨bs, hh, hfree⟩ := edsFormat_heap .atmega32 fun _ => 19
  have hbyte : (edsFormat .atmega32 fun _ => 19) 1024 = 19 := by decide
  refine ⟨bs, hh, hfree, mem_foreachFrom_of_wanted hh (by simp [edsEnd, hbyte]), fun h => ?_⟩
  have hno := (visitsExactly_iff hh).mp h
  simp [edsEnd, hbyte] at hno

end OpenHcan.Eds
