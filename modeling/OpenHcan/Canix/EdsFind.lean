import OpenHcan.Canix.EdsLayout

/-!
# EdsFind — the search for blocks of a type

`eds_find_next_block` and `eds_find_next_block_between` of `canix/eds.c`, and
the loop `EDS_foreach_block_between`. The search looks at the type of the block
it has come to before it looks whether it is still below `EDS_END`: the last
address it reads is the one behind the heap.
-/

namespace OpenHcan.Eds

open OpenHcan.Lib OpenHcan.Lib.Tiling

/-- The `while` loop of the searches, for the types that are `wanted`. -/
def findLoop (mcu : Mcu) (m : Eeprom) (wanted : UInt8 → Bool) : Nat → Nat → Nat
  | 0, _ => 0
  | fuel + 1, p =>
      if p < edsEnd mcu then
        let p := edsNextBlock m p
        if wanted (edsBlockType m p) then p else findLoop mcu m wanted fuel p
      else 0

/-- The searches, from the block `p` or, if it is 0, from the first one. -/
def findFrom (mcu : Mcu) (m : Eeprom) (wanted : UInt8 → Bool) (p : Nat) : Nat :=
  if p = 0 then
    if wanted (edsBlockType m edsDataStart) then edsDataStart
    else findLoop mcu m wanted (edsEnd mcu) edsDataStart
  else findLoop mcu m wanted (edsEnd mcu) p

/-- `eds_find_next_block` -/
def edsFindNextBlock (mcu : Mcu) (m : Eeprom) (p : Nat) (type : UInt8) : Nat :=
  findFrom mcu m (fun t => t == type) p

/-- `eds_find_next_block_between` -/
def edsFindNextBlockBetween (mcu : Mcu) (m : Eeprom) (p : Nat) (type1 type2 : UInt8) : Nat :=
  findFrom mcu m (fun t => t ≥ type1 && t ≤ type2) p

/-- The blocks a `for` loop over the search comes by, from `it` on. -/
def foreachFrom (mcu : Mcu) (m : Eeprom) (wanted : UInt8 → Bool) : Nat → Nat → List Nat
  | 0, _ => []
  | fuel + 1, it =>
      if it = 0 then [] else it :: foreachFrom mcu m wanted fuel (findFrom mcu m wanted it)

/-- `EDS_foreach_block_between` -/
def edsForeachBlockBetween (mcu : Mcu) (m : Eeprom) (type1 type2 : UInt8) : List Nat :=
  foreachFrom mcu m (fun t => t ≥ type1 && t ≤ type2) (edsEnd mcu)
    (edsFindNextBlockBetween mcu m 0 type1 type2)

variable {mcu : Mcu} {m : Eeprom} {bs : Blocks} {wanted : UInt8 → Bool}

/-- Every block takes two bytes at least. -/
theorem EdsHeap.two_mul_length_le (hh : EdsHeap mcu m bs) :
    edsDataStart + 2 * bs.length ≤ edsEnd mcu + 1 := by
  have hlen : ∀ cs : Blocks, 2 * cs.length ≤ span 2 cs := by
    intro cs
    induction cs with
    | nil => simp
    | cons s cs ih => simp only [List.length_cons, span_cons]; omega
  have hends := hh.ends
  have hspan := hlen bs
  omega

/-- The addresses from `base` on that a search for the wanted types finds, the
one behind the heap `bs` included. -/
def wantedFrom (mcu : Mcu) (m : Eeprom) (wanted : UInt8 → Bool) (base : Nat) (bs : Blocks) :
    List Nat :=
  (starts 2 base bs ++ [edsEnd mcu + 1]).filter fun a => wanted (m a)

theorem wantedFrom_nil (base : Nat) :
    wantedFrom mcu m wanted base []
      = if wanted (m (edsEnd mcu + 1)) then [edsEnd mcu + 1] else [] := by
  unfold wantedFrom
  cases h : wanted (m (edsEnd mcu + 1)) <;> simp [starts, h]

theorem wantedFrom_cons (base : Nat) (s : Seg UInt8) :
    wantedFrom mcu m wanted base (s :: bs)
      = if wanted (m base) then base :: wantedFrom mcu m wanted (base + (2 + s.size)) bs
        else wantedFrom mcu m wanted (base + (2 + s.size)) bs := by
  unfold wantedFrom
  rw [starts, List.cons_append, List.filter_cons]

/-- **The search** finds the first wanted address behind the block `s`. -/
theorem findLoop_spec (post : Blocks) :
    ∀ (pre : Blocks) (s : Seg UInt8) (fuel : Nat), EdsHeap mcu m (pre ++ s :: post) →
      post.length + 1 ≤ fuel →
      findLoop mcu m wanted (fuel + 1) (edsDataStart + span 2 pre)
        = (wantedFrom mcu m wanted (edsDataStart + span 2 pre + (2 + s.size)) post).headD 0 := by
  induction post with
  | nil =>
      intro pre s fuel hh hfuel
      have hat : BlockAt (pre ++ [s]) (edsDataStart + span 2 pre) s := ⟨pre, [], rfl, rfl⟩
      have hends := hh.ends
      rw [span_snoc, ← Nat.add_assoc] at hends
      rw [findLoop, if_pos (hh.lt_edsEnd hat), hh.next_eq hat, hends, wantedFrom_nil]
      show (if wanted (m (edsEnd mcu + 1)) then _ else _) = _
      split
      · rfl
      · obtain ⟨fuel, rfl⟩ := Nat.exists_eq_succ_of_ne_zero (show fuel ≠ 0 by omega)
        rw [findLoop, if_neg (by omega)]
        rfl
  | cons t post ih =>
      intro pre s fuel hh hfuel
      have hat : BlockAt (pre ++ s :: t :: post) (edsDataStart + span 2 pre) s :=
        ⟨pre, t :: post, rfl, rfl⟩
      rw [findLoop, if_pos (hh.lt_edsEnd hat), hh.next_eq hat, wantedFrom_cons]
      show (if wanted (m (edsDataStart + span 2 pre + (2 + s.size))) then _ else _) = _
      split
      · rfl
      · obtain ⟨fuel, rfl⟩ := Nat.exists_eq_succ_of_ne_zero (show fuel ≠ 0 by omega)
        have hrest := ih (pre ++ [s]) t fuel (by simpa using hh) (by simpa using hfuel)
        rw [span_snoc, ← Nat.add_assoc] at hrest
        exact hrest

theorem findFrom_of_at {pre post : Blocks} {s : Seg UInt8}
    (hh : EdsHeap mcu m (pre ++ s :: post)) :
    findFrom mcu m wanted (edsDataStart + span 2 pre)
      = (wantedFrom mcu m wanted (edsDataStart + span 2 pre + (2 + s.size)) post).headD 0 := by
  have hlen := hh.two_mul_length_le
  rw [List.length_append, List.length_cons] at hlen
  have hpos : 0 < edsDataStart := by decide
  obtain ⟨fuel, hfuel⟩ := Nat.exists_eq_succ_of_ne_zero (show edsEnd mcu ≠ 0 by omega)
  rw [findFrom, if_neg (by omega), hfuel]
  exact findLoop_spec post pre s fuel hh (by omega)

theorem findFrom_start (hh : EdsHeap mcu m bs) :
    findFrom mcu m wanted 0 = (wantedFrom mcu m wanted edsDataStart bs).headD 0 := by
  cases bs with
  | nil =>
      have hends := hh.ends
      cases mcu <;> cases hends
  | cons s bs =>
      have hnext : findFrom mcu m wanted edsDataStart = _ :=
        findFrom_of_at (show EdsHeap mcu m ([] ++ s :: bs) from hh)
      rw [findFrom, if_neg (by decide)] at hnext
      rw [findFrom, if_pos rfl, wantedFrom_cons]
      show (if wanted (m edsDataStart) then _ else _) = _
      split
      · rfl
      · exact hnext

/-! ## The loop over the blocks -/

theorem foreachFrom_zero (fuel : Nat) : foreachFrom mcu m wanted fuel 0 = [] := by
  cases fuel <;> rfl

/-- Behind the heap there is nothing to be found. -/
theorem findFrom_end : findFrom mcu m wanted (edsEnd mcu + 1) = 0 := by
  rw [findFrom, if_neg (Nat.succ_ne_zero _)]
  have hend : edsEnd mcu ≠ 0 := by cases mcu <;> decide
  obtain ⟨fuel, hfuel⟩ := Nat.exists_eq_succ_of_ne_zero hend
  rw [hfuel, findLoop, if_neg (by omega)]

/-- The loop from the first wanted block of a part of the heap on. -/
theorem foreachFrom_headD (post : Blocks) :
    ∀ (pre : Blocks) (fuel : Nat), EdsHeap mcu m (pre ++ post) →
      (wantedFrom mcu m wanted (edsDataStart + span 2 pre) post).length ≤ fuel →
      foreachFrom mcu m wanted fuel
          ((wantedFrom mcu m wanted (edsDataStart + span 2 pre) post).headD 0)
        = wantedFrom mcu m wanted (edsDataStart + span 2 pre) post := by
  induction post with
  | nil =>
      intro pre fuel hh hfuel
      rw [wantedFrom_nil] at hfuel ⊢
      split at hfuel
      · next hw =>
          obtain ⟨fuel, rfl⟩ := Nat.exists_eq_succ_of_ne_zero
            (show fuel ≠ 0 from fun h => by simp [h] at hfuel)
          rw [if_pos hw, List.headD_cons, foreachFrom, if_neg (Nat.succ_ne_zero _), findFrom_end,
            foreachFrom_zero]
      · next hw =>
          rw [if_neg hw]
          exact foreachFrom_zero fuel
  | cons t post ih =>
      intro pre fuel hh hfuel
      have hbase : edsDataStart + span 2 (pre ++ [t])
          = edsDataStart + span 2 pre + (2 + t.size) := by
        rw [span_snoc, Nat.add_assoc]
      have hrest := ih (pre ++ [t])
      rw [hbase, List.append_assoc, List.singleton_append] at hrest
      rw [wantedFrom_cons] at hfuel ⊢
      split at hfuel
      · next hw =>
          obtain ⟨fuel, rfl⟩ := Nat.exists_eq_succ_of_ne_zero
            (show fuel ≠ 0 from fun h => by simp [h] at hfuel)
          have hpos : 0 < edsDataStart := by decide
          rw [if_pos hw, List.headD_cons, foreachFrom, if_neg (by omega), findFrom_of_at hh,
            hrest fuel hh (by simpa using hfuel)]
      · next hw =>
          -- a block that is not wanted is passed within one search
          rw [if_neg hw]
          exact hrest fuel hh hfuel

theorem length_wantedFrom_le (mcu : Mcu) (m : Eeprom) (wanted : UInt8 → Bool) (base : Nat)
    (bs : Blocks) : (wantedFrom mcu m wanted base bs).length ≤ bs.length + 1 := by
  unfold wantedFrom
  refine Nat.le_trans (List.length_filter_le _ _) ?_
  rw [List.length_append, length_starts, List.length_singleton]

/-- **The loop comes by the wanted blocks of the heap**, in their order, and by
the address behind it if the byte there is a wanted type. -/
theorem edsForeachBlockBetween_eq (hh : EdsHeap mcu m bs) (type1 type2 : UInt8) :
    edsForeachBlockBetween mcu m type1 type2
      = wantedFrom mcu m (fun t => t ≥ type1 && t ≤ type2) edsDataStart bs := by
  unfold edsForeachBlockBetween edsFindNextBlockBetween
  rw [findFrom_start hh]
  have hlen := hh.two_mul_length_le
  have hpos : 2 ≤ edsDataStart := by decide
  have hle := length_wantedFrom_le mcu m (fun t => t ≥ type1 && t ≤ type2) edsDataStart bs
  exact foreachFrom_headD bs [] (edsEnd mcu) hh (Nat.le_trans hle (by omega))

end OpenHcan.Eds
