import OpenHcan.Canix.EdsHeap

/-!
# EdsPlacement — where a board puts new blocks

`eds_alloc` takes the first free block that fits. Where that is depends on the
headers of the blocks alone, not on their data.
-/

namespace OpenHcan.Eds

open OpenHcan.Lib OpenHcan.Lib.Tiling

/-- The addresses a board gives to blocks of these types and sizes, one after the
other, if nothing else is done in between. 0 is a failure. -/
def allocAll (mcu : Mcu) : List (UInt8 × UInt8) → Eeprom → List Nat
  | [], _ => []
  | (type, size) :: bs, m =>
      let r := edsAlloc mcu m size
      r.1 :: allocAll mcu bs (edsSetBlockType r.2 r.1 type)

variable {mcu : Mcu} {m d : Eeprom} {bs : Blocks}

theorem edsAllocLoop_congr (size : UInt8) : ∀ (fuel : Nat) (pre cs : Blocks),
    EdsHeap mcu m (pre ++ cs) → EdsHeap mcu d (pre ++ cs) → cs.length ≤ fuel →
    (edsAllocLoop mcu size m fuel (edsDataStart + span 2 pre)).1
      = (edsAllocLoop mcu size d fuel (edsDataStart + span 2 pre)).1 := by
  intro fuel
  induction fuel with
  | zero => intro pre cs _ _ _; rfl
  | succ fuel ih =>
      intro pre cs hm hd hfuel
      cases cs with
      | nil =>
          have hend := hm.ends
          rw [List.append_nil] at hend
          rw [edsAllocLoop, edsAllocLoop, if_neg (by omega), if_neg (by omega)]
      | cons s cs =>
          have hat : BlockAt (pre ++ s :: cs) (edsDataStart + span 2 pre) s := ⟨pre, cs, rfl, rfl⟩
          by_cases hfit : Fits size.toNat s
          · rw [edsAllocLoop_take hm hat hfit, edsAllocLoop_take hd hat hfit]
          · rw [edsAllocLoop_skip hm hat hfit, edsAllocLoop_skip hd hat hfit, Nat.add_assoc,
              ← span_snoc]
            exact ih (pre ++ [s]) cs (by simpa using hm) (by simpa using hd) (by simpa using hfuel)

/-- **The data do not matter**: two memories with the same blocks get the new block
at the same address. -/
theorem edsAlloc_congr (hm : EdsHeap mcu m bs) (hd : EdsHeap mcu d bs) (size : UInt8) :
    (edsAlloc mcu m size).1 = (edsAlloc mcu d size).1 := by
  exact edsAllocLoop_congr size (edsEnd mcu) [] bs hm hd hm.length_le

/-- The bytes of the allocated blocks, headers included, are in `m'` what they are in `m`. -/
def KeepsUsed (bs : Blocks) (m m' : Eeprom) : Prop :=
  ∀ b t, BlockAt bs b t → t.tag ≠ 0 → ∀ q, b ≤ q → q < b + 2 + t.size → m' q = m q

/-- **A new block**: it is there, and every other allocated block stays what it
was. -/
structure Placed (mcu : Mcu) (m : Eeprom) (bs : Blocks) (m' : Eeprom) (cs : Blocks) (a : Nat)
    (type size : UInt8) : Prop where
  heap : EdsHeap mcu m' cs
  blockAt : BlockAt cs a ⟨type, size.toNat⟩
  new : ∀ t, BlockAt bs a t → t.tag = 0
  used : ∀ b t, t.tag ≠ 0 → (BlockAt cs b t ↔ BlockAt bs b t ∨ b = a ∧ t = ⟨type, size.toNat⟩)
  keeps : KeepsUsed bs m m'

theorem placed_of_allocate {pre post : Blocks} {s : Seg UInt8} {type size : UInt8}
    (hh : EdsHeap mcu m (pre ++ [s] ++ post)) (hfit : Fits size.toNat s) :
    Placed mcu m (pre ++ [s] ++ post)
      (edsSetBlockType (takeBlock m (edsDataStart + span 2 pre) s size)
        (edsDataStart + span 2 pre) type)
      (pre ++ (⟨type, size.toNat⟩ :: remainder s size.toNat) ++ post)
      (edsDataStart + span 2 pre) type size := by
  obtain ⟨hheap, hframe⟩ := allocate_heap type hh hfit
  have hat : BlockAt (pre ++ [s] ++ post) (edsDataStart + span 2 pre) s := ⟨pre, post, by simp, rfl⟩
  have hspan := span_remainder hfit type
  refine ⟨hheap, ⟨pre, remainder s size.toNat ++ post, by simp, rfl⟩, ?_, ?_, ?_⟩
  · intro t ht
    rcases ht.disjoint hat with ⟨_, rfl⟩ | h | h
    · exact hfit.1
    · omega
    · omega
  · intro b t ht
    have hs : t ≠ s := fun heq => ht (heq ▸ hfit.1)
    have hrem : ¬ At 2 (edsDataStart + span 2 pre + (2 + size.toNat)) (remainder s size.toNat)
        b t := by
      rintro ⟨l, r, hsplit, _⟩
      have hmem : t ∈ remainder s size.toNat := by rw [hsplit]; simp
      unfold remainder at hmem
      split at hmem
      · cases hmem
      · rw [List.mem_singleton.mp hmem] at ht
        exact ht rfl
    have hnil : ∀ base, ¬ At 2 base ([] : Blocks) b t := by
      rintro base ⟨l, r, hsplit, _⟩
      simp at hsplit
    unfold BlockAt
    rw [at_append, at_append, at_append, at_append, at_cons, at_cons, span_append, span_append,
      hspan]
    simp only [hs, hrem, hnil, and_false, or_false]
    tauto
  · intro b t hb ht q hq1 hq2
    apply hframe
    rcases hb.disjoint hat with ⟨_, rfl⟩ | h | h
    · exact absurd hfit.1 ht
    · omega
    · omega

/-- Where a list of blocks is split tells how. -/
theorem split_of_span_eq {pre pre' post post' : Blocks} {s s' : Seg UInt8}
    (h : pre ++ s :: post = pre' ++ s' :: post') (hspan : span 2 pre = span 2 pre') :
    pre = pre' ∧ s = s' ∧ post = post' := by
  induction pre generalizing pre' with
  | nil =>
      cases pre' with
      | nil => simpa using h
      | cons t pre' => simp only [span_nil, span_cons] at hspan; omega
  | cons t pre ih =>
      cases pre' with
      | nil => simp only [span_nil, span_cons] at hspan; omega
      | cons t' pre' =>
          obtain ⟨rfl, hrest⟩ := List.cons.inj h
          rw [span_cons, span_cons] at hspan
          obtain ⟨rfl, hs, hpost⟩ := ih hrest (Nat.add_left_cancel hspan)
          exact ⟨rfl, hs, hpost⟩

/-- **Two boards with the same blocks** allocate alike. -/
theorem edsAlloc_placed {type size : UInt8} (hm : EdsHeap mcu m bs) (hd : EdsHeap mcu d bs)
    (hok : (edsAlloc mcu d size).1 ≠ 0) :
    ∃ cs, Placed mcu m bs (edsSetBlockType (edsAlloc mcu m size).2 (edsAlloc mcu d size).1 type) cs
        (edsAlloc mcu d size).1 type size ∧
      EdsHeap mcu (edsSetBlockType (edsAlloc mcu d size).2 (edsAlloc mcu d size).1 type) cs := by
  have hsame := edsAlloc_congr hm hd size
  rcases edsAlloc_spec hm size with ⟨hfail, _⟩ | ⟨pre, s, post, rfl, hfit, hres⟩
  · rw [hfail] at hsame
    exact absurd hsame.symm hok
  · rcases edsAlloc_spec hd size with ⟨hfail, _⟩ | ⟨pre', s', post', hsplit, hfit', hres'⟩
    · rw [hfail] at hok
      exact absurd rfl hok
    · rw [hres, hres'] at hsame
      obtain ⟨rfl, rfl, rfl⟩ := split_of_span_eq hsplit (Nat.add_left_cancel hsame)
      rw [List.append_cons] at hm hd ⊢
      rw [hres, hres']
      exact ⟨_, placed_of_allocate hm hfit, (placed_of_allocate hd hfit).heap⟩

end OpenHcan.Eds
