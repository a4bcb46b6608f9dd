import OpenHcan.Canix.EdsHeap

/-!
# EdsDefragment — what defragmenting leaves

`eds_defragment` of `canix/eds.c` looked at as a whole: its loop ends on every
content of the EEPROM, and on a tiled one it merges every two neighbours that
can be merged and touches nothing that is allocated.
-/

namespace OpenHcan.Eds

open OpenHcan.Lib OpenHcan.Lib.Tiling

variable {mcu : Mcu} {m : Eeprom} {bs : Blocks}

/-! ## The loop ends -/

/-- The variables of the `for` loop and the EEPROM. -/
structure DefragmentState where
  p : Nat
  lastFree : Nat
  eeprom : Eeprom

/-- The body of the `for` loop and its step to the next block. -/
def DefragmentState.turn (d : DefragmentState) : DefragmentState :=
  let (p, m) := edsDefragmentTurn d.eeprom d.p d.lastFree
  ⟨edsNextBlock m p, if edsBlockIsFree m p then p else 0, m⟩

/-- The block remembered as free is the one in front of `p`. -/
def DefragmentState.Follows (mcu : Mcu) (d : DefragmentState) : Prop :=
  d.lastFree = 0 ∨ d.lastFree < edsEnd mcu ∧ edsNextBlock d.eeprom d.lastFree = d.p

theorem edsDefragmentLoop_succ (fuel : Nat) (d : DefragmentState) :
    edsDefragmentLoop mcu (fuel + 1) d.p d.lastFree d.eeprom
      = if d.p < edsEnd mcu then
          edsDefragmentLoop mcu fuel d.turn.p d.turn.lastFree d.turn.eeprom
        else d.eeprom := rfl

/-- Where a block is not merged, the loop goes on behind it. -/
theorem DefragmentState.follows_of_kept (m : Eeprom) {p : Nat} (hp : p < edsEnd mcu) :
    p + 2 ≤ edsNextBlock m p ∧
      Follows mcu ⟨edsNextBlock m p, if edsBlockIsFree m p then p else 0, m⟩ := by
  refine ⟨le_edsNextBlock m hp, ?_⟩
  by_cases hfree : edsBlockIsFree m p
  · right
    show (if edsBlockIsFree m p then p else 0) < _ ∧ edsNextBlock m _ = edsNextBlock m p
    rw [if_pos hfree]
    exact ⟨hp, rfl⟩
  · left
    exact if_neg hfree

/-- **Every turn gets on** by two bytes at least, whatever the EEPROM holds: also
one that goes back to the block it merged into. -/
theorem DefragmentState.turn_spec {d : DefragmentState} (hp : d.p < edsEnd mcu)
    (hd : d.Follows mcu) : d.p + 2 ≤ d.turn.p ∧ d.turn.Follows mcu := by
  obtain ⟨p, lastFree, m⟩ := d
  dsimp only at hp
  by_cases hmerge : (lastFree ≠ 0 ∧ edsBlockIsFree m p = true) ∧
      edsBlockSize m lastFree + 2 + edsBlockSize m p ≤ 255
  · -- the next block is the one behind `p`, with `p` merged into the free block
    obtain ⟨⟨hne, hfree⟩, hsize⟩ := hmerge
    obtain ⟨hlast, hnext⟩ := hd.resolve_left hne
    dsimp only at hlast hnext
    have hturn : edsDefragmentTurn m p lastFree = (lastFree, edsSetBlockSize m lastFree
        (UInt8.ofNat (edsBlockSize m lastFree + 2 + edsBlockSize m p))) := by
      rw [edsDefragmentTurn, if_pos ⟨hne, hfree⟩]
      exact if_pos hsize
    have hend := edsEnd_le mcu
    have hnew : edsBlockSize (edsSetBlockSize m lastFree
        (UInt8.ofNat (edsBlockSize m lastFree + 2 + edsBlockSize m p))) lastFree
          = edsBlockSize m lastFree + 2 + edsBlockSize m p := by
      rw [edsBlockSize_eq (by omega), edsSetBlockSize, eepromWriteByte_self, UInt8.toNat_ofNat']
      exact Nat.mod_eq_of_lt (by omega)
    have hkept := follows_of_kept (edsSetBlockSize m lastFree
      (UInt8.ofNat (edsBlockSize m lastFree + 2 + edsBlockSize m p))) hlast
    rw [edsNextBlock_of_lt hlast] at hnext
    rw [turn, hturn]
    refine ⟨?_, hkept.2⟩
    show p + 2 ≤ edsNextBlock _ lastFree
    rw [edsNextBlock_of_lt hlast, hnew]
    omega
  · have hturn : edsDefragmentTurn m p lastFree = (p, m) := by
      rw [edsDefragmentTurn]
      split
      · next hboth => exact if_neg fun hsize => hmerge ⟨hboth, hsize⟩
      · rfl
    rw [turn, hturn]
    exact follows_of_kept m hp

/-- The loop from `d` on, as turns until its condition fails. -/
theorem edsDefragmentLoop_ends : ∀ (fuel : Nat) (d : DefragmentState), d.Follows mcu →
    edsEnd mcu ≤ d.p + fuel →
    ∃ n, (∀ k < n, (DefragmentState.turn^[k] d).p < edsEnd mcu) ∧
      edsEnd mcu ≤ (DefragmentState.turn^[n] d).p ∧
      edsDefragmentLoop mcu fuel d.p d.lastFree d.eeprom = (DefragmentState.turn^[n] d).eeprom := by
  intro fuel
  induction fuel with
  | zero => exact fun d _ hfuel => ⟨0, fun k hk => absurd hk (Nat.not_lt_zero k), hfuel, rfl⟩
  | succ fuel ih =>
      intro d hd hfuel
      by_cases hp : d.p < edsEnd mcu
      · obtain ⟨hgo, hd'⟩ := d.turn_spec hp hd
        obtain ⟨n, hbefore, hafter, hrun⟩ := ih d.turn hd' (by omega)
        refine ⟨n + 1, fun k hk => ?_, hafter, ?_⟩
        · cases k with
          | zero => exact hp
          | succ k => exact hbefore k (by omega)
        · rw [edsDefragmentLoop_succ, if_pos hp]
          exact hrun
      · refine ⟨0, fun k hk => absurd hk (Nat.not_lt_zero k), by simpa using hp, ?_⟩
        rw [edsDefragmentLoop_succ, if_neg hp]
        rfl

/-- **The loop of `eds_defragment` ends**, on every content of the EEPROM. -/
theorem edsDefragment_ends (mcu : Mcu) (m : Eeprom) :
    ∃ n, (∀ k < n, (DefragmentState.turn^[k] ⟨edsDataStart, 0, m⟩).p < edsEnd mcu) ∧
      edsEnd mcu ≤ (DefragmentState.turn^[n] ⟨edsDataStart, 0, m⟩).p ∧
      edsDefragment mcu m = (DefragmentState.turn^[n] ⟨edsDataStart, 0, m⟩).eeprom :=
  edsDefragmentLoop_ends (edsEnd mcu) ⟨edsDataStart, 0, m⟩ (.inl rfl) (Nat.le_add_left _ _)

/-! ## What is left of the heap -/

/-- Two neighbours in the heap are neighbours in the row. -/
theorem EdsHeap.neighbours (hh : EdsHeap mcu m bs) {a : Nat} (ha : IsBlockHead mcu m a)
    (hb : IsBlockHead mcu m (edsNextBlock m a)) :
    ∃ pre s t post, bs = pre ++ s :: t :: post ∧ BlockAt bs a s ∧
      BlockAt bs (edsNextBlock m a) t := by
  obtain ⟨s, hs⟩ := (hh.isBlockHead_iff a).mp ha
  obtain ⟨t, ht⟩ := (hh.isBlockHead_iff _).mp hb
  have hnext := hh.next_eq hs
  obtain ⟨pre, post, rfl, rfl⟩ := id hs
  cases post with
  | nil =>
      have hends := hh.ends
      have hlt := hh.lt_edsEnd ht
      rw [span_snoc] at hends
      omega
  | cons u post =>
      have hu : BlockAt (pre ++ s :: u :: post) (edsNextBlock m (edsDataStart + span 2 pre)) u :=
        ⟨pre ++ [s], post, by simp, by rw [hnext, span_snoc, Nat.add_assoc]⟩
      exact ⟨pre, s, u, post, rfl, hs, hu⟩

/-- Two free neighbours of a settled heap are too large for one block. -/
theorem EdsHeap.of_settled (hh : EdsHeap mcu m bs) (hbs : Settled 2 isFree 255 bs) {a : Nat}
    (ha : IsBlockHead mcu m a) (hb : IsBlockHead mcu m (edsNextBlock m a))
    (hfa : edsBlockIsFree m a = true) (hfb : edsBlockIsFree m (edsNextBlock m a) = true) :
    255 < edsBlockSize m a + 2 + edsBlockSize m (edsNextBlock m a) := by
  obtain ⟨pre, s, t, post, hrow, hs, ht⟩ := hh.neighbours ha hb
  have hno : mergeable 2 isFree 255 s t = false :=
    List.isChain_iff_forall_rel_of_append_cons_cons.mp hbs hrow
  rw [hh.size_eq hs, hh.size_eq ht]
  by_contra hle
  have hyes := mergeable_iff.mpr
    ⟨(edsBlockIsFree_iff hh hs).mp hfa, (edsBlockIsFree_iff hh ht).mp hfb, by omega⟩
  rw [hno] at hyes
  cases hyes

/-- Defragmenting a settled heap writes nothing. -/
theorem edsDefragment_of_settled (hh : EdsHeap mcu m bs) (hbs : Settled 2 isFree 255 bs) :
    edsDefragment mcu m = m := by
  obtain ⟨hh', hsame⟩ := edsDefragment_spec hh
  rw [coalesce_of_settled hbs] at hh'
  funext q
  by_cases hq : ∃ b s, BlockAt bs b s ∧ q = b + 1
  · obtain ⟨b, s, hb, rfl⟩ := hq
    have hsize := (hh'.size_eq hb).trans (hh.size_eq hb).symm
    have haddr := hh.addr_lt hb
    rw [edsBlockSize_eq haddr, edsBlockSize_eq haddr] at hsize
    exact UInt8.toNat_inj.mp hsize
  · exact hsame q fun b s hb _ hqb => hq ⟨b, s, hb, hqb⟩

/-- No block becomes an allocated one. -/
theorem isAllocated_edsDefragment (hh : EdsHeap mcu m bs) (b : Nat) :
    IsAllocated mcu (edsDefragment mcu m) b ↔ IsAllocated mcu m b := by
  refine ⟨fun ⟨hhead, htype⟩ => ?_, fun hb => ?_⟩
  · have hh' := (edsDefragment_spec hh).1
    obtain ⟨s, hs⟩ := (hh'.isBlockHead_iff b).mp hhead
    rw [hh'.type_eq hs] at htype
    have hused : isFree s.tag = false := by simpa [isFree] using htype
    have hs' := (at_coalesce_iff hused bs).mp hs
    exact ⟨(hh.isBlockHead_iff b).mpr ⟨s, hs'⟩, by rwa [hh.type_eq hs']⟩
  · have hkept := edsDefragment_keeps hh hb
    exact ⟨hkept.head, by rw [hkept.type]; exact hb.2⟩

/-- **What `eds_defragment` leaves**: its loop ends; no two free neighbours are
left that fit into one block; the allocated blocks are the same, with their
addresses, types, sizes and data; a second call changes nothing. -/
theorem edsDefragment_postcondition (hh : EdsHeap mcu m bs) :
    (∃ n, (∀ k < n, (DefragmentState.turn^[k] ⟨edsDataStart, 0, m⟩).p < edsEnd mcu) ∧
      edsEnd mcu ≤ (DefragmentState.turn^[n] ⟨edsDataStart, 0, m⟩).p ∧
      edsDefragment mcu m = (DefragmentState.turn^[n] ⟨edsDataStart, 0, m⟩).eeprom) ∧
    let m' := edsDefragment mcu m
    (∀ a, IsBlockHead mcu m' a → IsBlockHead mcu m' (edsNextBlock m' a) →
      edsBlockIsFree m' a = true → edsBlockIsFree m' (edsNextBlock m' a) = true →
      255 < edsBlockSize m' a + 2 + edsBlockSize m' (edsNextBlock m' a)) ∧
    (∀ b, (IsAllocated mcu m' b ↔ IsAllocated mcu m b) ∧
      (IsAllocated mcu m b → KeepsBlock mcu m m' b)) ∧
    edsDefragment mcu m' = m' := by
  have hh' := (edsDefragment_spec hh).1
  refine ⟨edsDefragment_ends mcu m, fun a ha hb hfa hfb => ?_, fun b => ⟨?_, fun hb => ?_⟩, ?_⟩
  · exact hh'.of_settled (settled_coalesce bs) ha hb hfa hfb
  · exact isAllocated_edsDefragment hh b
  · exact edsDefragment_keeps hh hb
  · exact edsDefragment_of_settled hh' (settled_coalesce bs)

theorem edsDefragment_postcondition_format :
    let m := edsFormat .atmega32 fun _ => 255
    edsDefragment .atmega32 (edsDefragment .atmega32 m) = edsDefragment .atmega32 m := by
  obtain ⟨bs, hh, _⟩ := edsFormat_heap .atmega32 fun _ => 255
  exact (edsDefragment_postcondition hh).2.2.2

end OpenHcan.Eds
