import OpenHcan.Canix.Eds
import OpenHcan.Lib.Tiling

/-!
# EdsLayout — the EEPROM heap as a row of blocks

The abstract side of `canix/eds.c`: the heap is a list of blocks (type and
size), laid out without gaps from `EDS_DATA_START` to `EDS_END`. Each
operation gets its spec lemma here: which list the memory holds afterwards,
and which bytes it left alone.
-/

namespace OpenHcan.Eds

open OpenHcan.Lib OpenHcan.Lib.Tiling

/-- The abstract heap: type and size of each block, in address order. -/
abbrev Blocks := List (Seg UInt8)

/-- The block `s` of the heap `bs` starts at `a`. -/
abbrev BlockAt (bs : Blocks) (a : Nat) (s : Seg UInt8) : Prop := At 2 edsDataStart bs a s

/-- The EEPROM `m` holds the blocks `bs`, and they end behind `EDS_END`. -/
structure EdsHeap (mcu : Mcu) (m : Eeprom) (bs : Blocks) : Prop where
  lays : Lays (edsBlockType m) (edsBlockSize m) 2 edsDataStart bs
  ends : edsDataStart + span 2 bs = edsEnd mcu + 1

variable {mcu : Mcu} {m m' : Eeprom} {bs : Blocks}

theorem edsEnd_le (mcu : Mcu) : edsEnd mcu ≤ 2047 := by cases mcu <;> decide

/-! ## Bytes and headers -/

theorem edsBlockSize_eq {p : Nat} (hp : p < 65535) : edsBlockSize m p = (m (p + 1)).toNat := by
  rw [edsBlockSize, ptr_of_lt (by omega), eepromReadByte]

theorem edsBlockSize_lt (m : Eeprom) (p : Nat) : edsBlockSize m p < 256 :=
  UInt8.toNat_lt _

/-- Inside the data space no block address overflows. -/
theorem edsNextBlock_of_lt {p : Nat} (hp : p < edsEnd mcu) :
    edsNextBlock m p = p + 2 + edsBlockSize m p := by
  have hend := edsEnd_le mcu
  have hsize := edsBlockSize_lt m p
  rw [edsNextBlock, ptr_of_lt (by omega)]

theorem le_edsNextBlock (m : Eeprom) {p : Nat} (hp : p < edsEnd mcu) :
    p + 2 ≤ edsNextBlock m p := by
  rw [edsNextBlock_of_lt hp]
  exact Nat.le_add_right _ _

/-- Two memories that agree on the two header bytes agree on the header. -/
theorem header_congr {p : Nat} (hp : p < 65535) (h0 : m' p = m p) (h1 : m' (p + 1) = m (p + 1)) :
    edsBlockType m' p = edsBlockType m p ∧ edsBlockSize m' p = edsBlockSize m p := by
  refine ⟨h0, ?_⟩
  rw [edsBlockSize_eq hp, edsBlockSize_eq hp, h1]

/-- What `eds_alloc` writes when it splits the block at `p`. -/
theorem edsSplitBlock_apply {p : Nat} (hp : p < 65535) (size : UInt8) (q : Nat) :
    edsSplitBlock m p size q =
      if q = p + 1 then size
      else if q = p + 2 + size.toNat + 1 then UInt8.ofNat (edsBlockSize m p - size.toNat - 2)
      else if q = p + 2 + size.toNat then 0
      else m q := by
  have hread : edsBlockSize (eepromWriteByte m (p + 2 + size.toNat) 0) p = edsBlockSize m p := by
    rw [edsBlockSize_eq hp, edsBlockSize_eq hp, eepromWriteByte_of_ne m _ (by omega)]
  rw [edsSplitBlock, hread]
  rfl

namespace EdsHeap

theorem bounds (hh : EdsHeap mcu m bs) {a : Nat} {s : Seg UInt8} (hat : BlockAt bs a s) :
    edsDataStart ≤ a ∧ a + 2 + s.size ≤ edsEnd mcu + 1 := by
  have hb := hat.bounds
  have he := hh.ends
  omega

theorem lt_edsEnd (hh : EdsHeap mcu m bs) {a : Nat} {s : Seg UInt8} (hat : BlockAt bs a s) :
    a < edsEnd mcu := by
  have hb := hh.bounds hat
  omega

/-- Every header of the heap has an address below the 16-bit limit. -/
theorem addr_lt (hh : EdsHeap mcu m bs) {a : Nat} {s : Seg UInt8} (hat : BlockAt bs a s) :
    a < 65535 := by
  have hb := hh.bounds hat
  have he := edsEnd_le mcu
  omega

theorem type_eq (hh : EdsHeap mcu m bs) {a : Nat} {s : Seg UInt8} (hat : BlockAt bs a s) :
    edsBlockType m a = s.tag := (hh.lays.header hat).1

theorem size_eq (hh : EdsHeap mcu m bs) {a : Nat} {s : Seg UInt8} (hat : BlockAt bs a s) :
    edsBlockSize m a = s.size := (hh.lays.header hat).2

theorem next_eq (hh : EdsHeap mcu m bs) {a : Nat} {s : Seg UInt8} (hat : BlockAt bs a s) :
    edsNextBlock m a = a + (2 + s.size) := by
  have hb := hh.bounds hat
  have he := edsEnd_le mcu
  rw [edsNextBlock, hh.size_eq hat, ptr_of_lt (by omega), Nat.add_assoc]

/-- The heap has fewer blocks than any of the loops has fuel. -/
theorem length_le (hh : EdsHeap mcu m bs) : bs.length ≤ edsEnd mcu := by
  have hlen : ∀ cs : Blocks, 2 * cs.length ≤ span 2 cs := by
    intro cs
    induction cs with
    | nil => simp
    | cons s cs ih => simp only [List.length_cons, span_cons]; omega
  have := hlen bs
  have := hh.ends
  omega

/-- **The operation rule**: an operation that rewrites only the cells of the
run `mid`, and leaves `mid'` of the same span there, keeps the heap. -/
theorem replace {pre mid mid' post : Blocks} (hh : EdsHeap mcu m (pre ++ mid ++ post))
    (hspan : span 2 mid' = span 2 mid)
    (hmid : Lays (edsBlockType m') (edsBlockSize m') 2 (edsDataStart + span 2 pre) mid')
    (hag : ∀ q, edsDataStart ≤ q →
      q < edsDataStart + span 2 pre ∨ edsDataStart + span 2 pre + span 2 mid ≤ q → m' q = m q) :
    EdsHeap mcu m' (pre ++ mid' ++ post) := by
  refine ⟨hh.lays.replace hspan hmid fun b s hb hout => ?_, ?_⟩
  · have hbase := hb.bounds.1
    refine header_congr (hh.addr_lt hb) (hag b hbase ?_) (hag (b + 1) (by omega) ?_) <;> omega
  · rw [span_replace hspan]
    exact hh.ends

/-- Bytes that are no header byte do not matter. -/
theorem congr (hh : EdsHeap mcu m bs)
    (hag : ∀ b s, BlockAt bs b s → m' b = m b ∧ m' (b + 1) = m (b + 1)) : EdsHeap mcu m' bs :=
  ⟨hh.lays.congr fun b s hb => header_congr (hh.addr_lt hb) (hag b s hb).1 (hag b s hb).2,
    hh.ends⟩

end EdsHeap

/-! ## Formatting -/

/-- The formatting loop from `p`: the blocks it writes are free and end
behind `EDS_END`, if what is left is no rest of one to three bytes. -/
theorem edsFormatLoop_spec (mcu : Mcu) : ∀ (fuel p : Nat) (m : Eeprom),
    p ≤ edsEnd mcu + 1 → edsEnd mcu + 1 - p ≤ fuel →
    ((edsEnd mcu + 1 - p) % 130 = 0 ∨ 4 ≤ (edsEnd mcu + 1 - p) % 130) →
    ∃ bs : Blocks, Lays (edsBlockType (edsFormatLoop mcu fuel p m))
        (edsBlockSize (edsFormatLoop mcu fuel p m)) 2 p bs ∧
      p + span 2 bs = edsEnd mcu + 1 ∧ (∀ s ∈ bs, s.tag = 0) ∧
      ∀ q < p, edsFormatLoop mcu fuel p m q = m q := by
  intro fuel
  have hend := edsEnd_le mcu
  induction fuel with
  | zero =>
      intro p m hp hfuel _
      exact ⟨[], trivial, by simp only [span_nil]; omega, by simp, fun q _ => rfl⟩
  | succ fuel ih =>
      intro p m hp hfuel hrest
      rw [edsFormatLoop]
      split
      · rename_i hlt
        set size := if edsEnd mcu - (p + 1) > 128 then 128 else edsEnd mcu - (p + 1) with hsize
        have hsz : size ≤ 128 ∧ p + 2 + size ≤ edsEnd mcu + 1 ∧
            (size = 128 ∨ p + 2 + size = edsEnd mcu + 1) := by
          rw [hsize]; split <;> omega
        obtain ⟨bs, hl, hs, hfree, hfr⟩ := ih (p + 2 + size)
          (eepromWriteByte (eepromWriteByte m p 0) (p + 1) (UInt8.ofNat size))
          hsz.2.1 (by omega) (by omega)
        refine ⟨⟨0, size⟩ :: bs, ⟨?_, ?_, by rwa [← Nat.add_assoc]⟩, ?_, ?_, ?_⟩
        · rw [edsBlockType, eepromReadByte, hfr p (by omega),
            eepromWriteByte_of_ne _ _ (by omega), eepromWriteByte_self]
        · rw [edsBlockSize_eq (by omega), hfr (p + 1) (by omega), eepromWriteByte_self,
            UInt8.toNat_ofNat']
          exact Nat.mod_eq_of_lt (by omega)
        · rw [span_cons]
          dsimp only
          omega
        · simpa using hfree
        · intro q hq
          rw [hfr q (by omega), eepromWriteByte_of_ne _ _ (by omega),
            eepromWriteByte_of_ne _ _ (by omega)]
      · refine ⟨[], trivial, ?_, by simp, fun q _ => rfl⟩
        simp only [span_nil]
        omega

/-- **Formatting** leaves a heap of free blocks. -/
theorem edsFormat_heap (mcu : Mcu) (m : Eeprom) :
    ∃ bs, EdsHeap mcu (edsFormat mcu m) bs ∧ ∀ s ∈ bs, s.tag = 0 := by
  obtain ⟨bs, hl, hs, hfree, _⟩ := edsFormatLoop_spec mcu (edsEnd mcu) edsDataStart
    (eepromWriteByte (eepromWriteByte m edsStart edsMagic1) (edsStart + 1) edsMagic2)
    (by cases mcu <;> decide) (by cases mcu <;> decide) (by cases mcu <;> decide)
  exact ⟨bs, ⟨hl, hs⟩, hfree⟩

/-! ## Allocating -/

/-- A free block of exactly the size, or large enough to be split. -/
def Fits (size : Nat) (s : Seg UInt8) : Prop := s.tag = 0 ∧ (s.size = size ∨ size + 2 ≤ s.size)

instance (size : Nat) (s : Seg UInt8) : Decidable (Fits size s) :=
  inferInstanceAs (Decidable (_ ∧ _))

/-- The memory `eds_alloc` leaves when it takes the block `s` at `p`. -/
def takeBlock (m : Eeprom) (p : Nat) (s : Seg UInt8) (size : UInt8) : Eeprom :=
  if s.size = size.toNat then m else edsSplitBlock m p size

/-- What is left of the block `s` behind an allocation of `size` bytes. -/
def remainder (s : Seg UInt8) (size : Nat) : Blocks :=
  if s.size = size then [] else [⟨0, s.size - size - 2⟩]

theorem edsAllocLoop_take (hh : EdsHeap mcu m bs) {a : Nat} {s : Seg UInt8}
    (hat : BlockAt bs a s) {size : UInt8} (hfit : Fits size.toNat s) (fuel : Nat) :
    edsAllocLoop mcu size m (fuel + 1) a = (a, takeBlock m a s size) := by
  have hlt := hh.lt_edsEnd hat
  rw [edsAllocLoop, if_pos hlt, hh.type_eq hat, hh.size_eq hat, takeBlock,
    if_pos ⟨hfit.1, by rcases hfit.2 with h | h <;> omega⟩]
  by_cases heq : s.size = size.toNat
  · rw [if_pos heq, if_pos heq]
  · have hge : s.size ≥ size.toNat + 2 := hfit.2.resolve_left heq
    rw [if_neg heq, if_pos hge, if_neg heq]

theorem edsAllocLoop_skip (hh : EdsHeap mcu m bs) {a : Nat} {s : Seg UInt8}
    (hat : BlockAt bs a s) {size : UInt8} (hfit : ¬ Fits size.toNat s) (fuel : Nat) :
    edsAllocLoop mcu size m (fuel + 1) a = edsAllocLoop mcu size m fuel (a + (2 + s.size)) := by
  have hlt := hh.lt_edsEnd hat
  rw [edsAllocLoop, if_pos hlt, hh.type_eq hat, hh.size_eq hat, hh.next_eq hat]
  by_cases ht : s.tag = 0
  · rw [Fits, not_and, not_or] at hfit
    obtain ⟨hne, hge⟩ := hfit ht
    have hge' : ¬ s.size ≥ size.toNat + 2 := hge
    rw [if_neg hne, if_neg hge', ite_self]
  · rw [if_neg (by simp [ht])]

theorem edsAllocLoop_spec (size : UInt8) : ∀ (fuel : Nat) (pre cs : Blocks),
    EdsHeap mcu m (pre ++ cs) → cs.length ≤ fuel →
    (edsAllocLoop mcu size m fuel (edsDataStart + span 2 pre) = (0, m) ∧
      ∀ s ∈ cs, ¬ Fits size.toNat s) ∨
    ∃ mid s post, cs = mid ++ s :: post ∧ Fits size.toNat s ∧
      edsAllocLoop mcu size m fuel (edsDataStart + span 2 pre) =
        (edsDataStart + span 2 (pre ++ mid),
          takeBlock m (edsDataStart + span 2 (pre ++ mid)) s size) := by
  intro fuel
  induction fuel with
  | zero =>
      intro pre cs _ hfuel
      have hcs : cs = [] := List.eq_nil_of_length_eq_zero (by omega)
      exact .inl ⟨rfl, by simp [hcs]⟩
  | succ fuel ih =>
      intro pre cs hh hfuel
      cases cs with
      | nil =>
          have hend := hh.ends
          rw [List.append_nil] at hend
          rw [edsAllocLoop, if_neg (by omega)]
          exact .inl ⟨rfl, by simp⟩
      | cons s cs =>
          have hat : BlockAt (pre ++ s :: cs) (edsDataStart + span 2 pre) s :=
            ⟨pre, cs, rfl, rfl⟩
          by_cases hfit : Fits size.toNat s
          · refine .inr ⟨[], s, cs, rfl, hfit, ?_⟩
            rw [List.append_nil]
            exact edsAllocLoop_take hh hat hfit fuel
          · have hgo := edsAllocLoop_skip hh hat hfit fuel
            rw [Nat.add_assoc, ← span_snoc] at hgo
            rcases ih (pre ++ [s]) cs (by simpa using hh) (by simpa using hfuel) with
              ⟨hres, hnone⟩ | ⟨mid, t, post, hcs, hfit', hres⟩
            · exact .inl ⟨hgo.trans hres, by simpa using ⟨hfit, hnone⟩⟩
            · exact .inr ⟨s :: mid, t, post, by rw [hcs]; rfl, hfit',
                hgo.trans (by simpa using hres)⟩

/-- **Allocation** fails if no block fits; otherwise it takes a block that
does, splitting it if it is larger. -/
theorem edsAlloc_spec (hh : EdsHeap mcu m bs) (size : UInt8) :
    (edsAlloc mcu m size = (0, m) ∧ ∀ s ∈ bs, ¬ Fits size.toNat s) ∨
    ∃ pre s post, bs = pre ++ s :: post ∧ Fits size.toNat s ∧
      edsAlloc mcu m size = (edsDataStart + span 2 pre,
        takeBlock m (edsDataStart + span 2 pre) s size) := by
  have h := edsAllocLoop_spec size (edsEnd mcu) [] bs (by simpa using hh) hh.length_le
  simpa [edsAlloc] using h

/-! ## Freeing -/

theorem edsFreeLoop_spec (block : Nat) : ∀ (fuel : Nat) (pre cs : Blocks),
    EdsHeap mcu m (pre ++ cs) → cs.length ≤ fuel →
    ((edsFreeLoop mcu block m fuel (edsDataStart + span 2 pre) = (edsInvalidPointer, m) ∧
        ∀ s, ¬ At 2 (edsDataStart + span 2 pre) cs block s) ∨
      ∃ mid s post, cs = mid ++ s :: post ∧ block = edsDataStart + span 2 (pre ++ mid) ∧
        edsFreeLoop mcu block m fuel (edsDataStart + span 2 pre) =
          (edsOk, edsSetBlockType m block 0)) := by
  intro fuel
  induction fuel with
  | zero =>
      intro pre cs _ hfuel
      have hcs : cs = [] := List.eq_nil_of_length_eq_zero (by omega)
      exact .inl ⟨rfl, by simp [hcs, At]⟩
  | succ fuel ih =>
      intro pre cs hh hfuel
      cases cs with
      | nil =>
          have hend := hh.ends
          rw [List.append_nil] at hend
          rw [edsFreeLoop, if_neg (by omega)]
          exact .inl ⟨rfl, by simp [At]⟩
      | cons s cs =>
          have hat : BlockAt (pre ++ s :: cs) (edsDataStart + span 2 pre) s :=
            ⟨pre, cs, rfl, rfl⟩
          rw [edsFreeLoop, if_pos (hh.lt_edsEnd hat)]
          by_cases hblock : edsDataStart + span 2 pre = block
          · rw [if_pos hblock, hblock]
            exact .inr ⟨[], s, cs, rfl, by simpa using hblock.symm, rfl⟩
          · rw [if_neg hblock, hh.next_eq hat, Nat.add_assoc, ← span_snoc]
            rcases ih (pre ++ [s]) cs (by simpa using hh) (by simpa using hfuel) with
              ⟨hres, hnone⟩ | ⟨mid, t, post, hcs, hb, hres⟩
            · refine .inl ⟨hres, fun t ht => ?_⟩
              rcases at_cons.mp ht with ⟨hb, _⟩ | ht'
              · exact hblock hb.symm
              · rw [Nat.add_assoc, ← span_snoc] at ht'
                exact hnone t ht'
            · exact .inr ⟨s :: mid, t, post, by rw [hcs]; rfl, by simpa using hb, hres⟩

/-- **Freeing** sets the type of a block to 0; a pointer that is no block
head is refused. -/
theorem edsFree_spec (hh : EdsHeap mcu m bs) (block : Nat) :
    (edsFree mcu m block = (edsInvalidPointer, m) ∧ ∀ s, ¬ BlockAt bs block s) ∨
    ∃ pre s post, bs = pre ++ s :: post ∧ block = edsDataStart + span 2 pre ∧
      edsFree mcu m block = (edsOk, edsSetBlockType m block 0) := by
  have h := edsFreeLoop_spec block (edsEnd mcu) [] bs (by simpa using hh) hh.length_le
  simpa [edsFree] using h

/-! ## Defragmenting -/

/-- The free-block test the abstract heap is merged with. -/
def isFree (t : UInt8) : Bool := t == 0

theorem coalesceInto_of_used {s : Seg UInt8} (hs : s.tag ≠ 0) (bs : Blocks) :
    coalesceInto 2 isFree 255 s bs = s :: coalesce 2 isFree 255 bs := by
  cases bs with
  | nil => rfl
  | cons t bs => simp [coalesceInto, coalesce, mergeable, isFree, hs]

/-- The bytes `m'` took over from `m`: all but the size bytes of free blocks. -/
def SameButFreeSizes (bs : Blocks) (m m' : Eeprom) : Prop :=
  ∀ q, (∀ b s, BlockAt bs b s → s.tag = 0 → q ≠ b + 1) → m' q = m q

theorem mergeable_iff {s t : Seg UInt8} :
    mergeable 2 isFree 255 s t = true ↔ s.tag = 0 ∧ t.tag = 0 ∧ s.size + 2 + t.size ≤ 255 := by
  simp [mergeable, isFree, and_assoc]

theorem edsBlockIsFree_iff (hh : EdsHeap mcu m bs) {a : Nat} {s : Seg UInt8}
    (hat : BlockAt bs a s) : edsBlockIsFree m a = true ↔ s.tag = 0 := by
  have ht : m a = s.tag := hh.type_eq hat
  simp [edsBlockIsFree, eepromReadByte, ht]

/-- Enlarging the size byte merges a block with its right neighbour. -/
theorem edsSetBlockSize_merge {pre cs : Blocks} {s t : Seg UInt8}
    (hh : EdsHeap mcu m (pre ++ s :: t :: cs)) (hsize : s.size + 2 + t.size ≤ 255) :
    EdsHeap mcu (edsSetBlockSize m (edsDataStart + span 2 pre) (UInt8.ofNat (s.size + 2 + t.size)))
      (pre ++ merge 2 s t :: cs) := by
  have hat : BlockAt (pre ++ s :: t :: cs) (edsDataStart + span 2 pre) s := ⟨pre, t :: cs, rfl, rfl⟩
  have haddr := hh.addr_lt hat
  have hh' : EdsHeap mcu m (pre ++ [s, t] ++ cs) := by simpa using hh
  suffices hres : EdsHeap mcu
      (edsSetBlockSize m (edsDataStart + span 2 pre) (UInt8.ofNat (s.size + 2 + t.size)))
      (pre ++ [merge 2 s t] ++ cs) by simpa using hres
  refine hh'.replace ?_ ⟨?_, ?_, trivial⟩ ?_
  · simp only [merge, span_cons, span_nil]
    omega
  · rw [edsBlockType, eepromReadByte, edsSetBlockSize, eepromWriteByte_of_ne m _ (by omega)]
    exact (hh.type_eq hat :)
  · rw [edsBlockSize_eq haddr, edsSetBlockSize, eepromWriteByte_self, UInt8.toNat_ofNat']
    exact Nat.mod_eq_of_lt (by omega)
  · intro q _ hout
    simp only [span_cons, span_nil] at hout
    rw [edsSetBlockSize, eepromWriteByte_of_ne m _ (by omega)]

section Loop

variable {a : Nat} {s t : Seg UInt8}

/-- A used block ends the run of free blocks. -/
theorem edsDefragmentLoop_used (hh : EdsHeap mcu m bs) (hat : BlockAt bs a t) (ht : t.tag ≠ 0)
    (fuel lastFree : Nat) :
    edsDefragmentLoop mcu (fuel + 1) a lastFree m
      = edsDefragmentLoop mcu fuel (a + (2 + t.size)) 0 m := by
  have hfree : ¬ edsBlockIsFree m a = true := mt (edsBlockIsFree_iff hh hat).mp ht
  have hturn : edsDefragmentTurn m a lastFree = (a, m) := by
    rw [edsDefragmentTurn, if_neg (by simp [hfree])]
  rw [edsDefragmentLoop, if_pos (hh.lt_edsEnd hat), hturn]
  simp only [hfree, hh.next_eq hat, Bool.false_eq_true, if_false]

/-- A free block that is not merged is the next one to merge with. -/
theorem edsDefragmentLoop_free (hh : EdsHeap mcu m bs) (hat : BlockAt bs a t) (ht : t.tag = 0)
    (fuel lastFree : Nat)
    (hkeep : lastFree = 0 ∨ ¬ edsBlockSize m lastFree + 2 + t.size ≤ 255) :
    edsDefragmentLoop mcu (fuel + 1) a lastFree m
      = edsDefragmentLoop mcu fuel (a + (2 + t.size)) a m := by
  have hfree : edsBlockIsFree m a = true := (edsBlockIsFree_iff hh hat).mpr ht
  have hturn : edsDefragmentTurn m a lastFree = (a, m) := by
    rw [edsDefragmentTurn]
    rcases hkeep with h | h
    · rw [if_neg (by simp [h])]
    · simp only [hh.size_eq hat, if_neg h, ite_self]
  rw [edsDefragmentLoop, if_pos (hh.lt_edsEnd hat), hturn]
  simp only [hfree, hh.next_eq hat, if_true]

/-- A free block behind a free block is swallowed, if the sizes allow. -/
theorem edsDefragmentLoop_merge {pre cs : Blocks}
    (hh : EdsHeap mcu m (pre ++ s :: t :: cs)) (hs : s.tag = 0) (ht : t.tag = 0)
    (hsize : s.size + 2 + t.size ≤ 255) (fuel : Nat) :
    edsDefragmentLoop mcu (fuel + 1) (edsDataStart + span 2 (pre ++ [s]))
        (edsDataStart + span 2 pre) m
      = edsDefragmentLoop mcu fuel (edsDataStart + span 2 (pre ++ [merge 2 s t]))
          (edsDataStart + span 2 pre)
          (edsSetBlockSize m (edsDataStart + span 2 pre) (UInt8.ofNat (s.size + 2 + t.size))) := by
  have hats : BlockAt (pre ++ s :: t :: cs) (edsDataStart + span 2 pre) s :=
    ⟨pre, t :: cs, rfl, rfl⟩
  have hatt : BlockAt (pre ++ s :: t :: cs) (edsDataStart + span 2 (pre ++ [s])) t :=
    ⟨pre ++ [s], cs, by simp, rfl⟩
  have hpos : edsDataStart + span 2 pre ≠ 0 := by
    rw [edsDataStart, edsStart]
    omega
  have hfree := (edsBlockIsFree_iff hh hatt).mpr ht
  have hturn : edsDefragmentTurn m (edsDataStart + span 2 (pre ++ [s])) (edsDataStart + span 2 pre)
      = (edsDataStart + span 2 pre,
        edsSetBlockSize m (edsDataStart + span 2 pre) (UInt8.ofNat (s.size + 2 + t.size))) := by
    rw [edsDefragmentTurn, if_pos ⟨hpos, hfree⟩]
    simp only [hh.size_eq hats, hh.size_eq hatt, if_pos hsize]
  have hh' := edsSetBlockSize_merge hh hsize
  have hat' : BlockAt (pre ++ merge 2 s t :: cs) (edsDataStart + span 2 pre) (merge 2 s t) :=
    ⟨pre, cs, rfl, rfl⟩
  rw [edsDefragmentLoop, if_pos (hh.lt_edsEnd hatt), hturn]
  simp only [(edsBlockIsFree_iff hh' hat').mpr hs, hh'.next_eq hat', if_true]
  rw [span_snoc pre (merge 2 s t), Nat.add_assoc]

/-- Merging two free blocks adds no size byte to the ones that may change. -/
theorem SameButFreeSizes.merge {pre cs : Blocks} {m' : Eeprom} (hs : s.tag = 0)
    (hsize : SameButFreeSizes (pre ++ merge 2 s t :: cs)
      (edsSetBlockSize m (edsDataStart + span 2 pre) (UInt8.ofNat (s.size + 2 + t.size))) m') :
    SameButFreeSizes (pre ++ s :: t :: cs) m m' := by
  intro q hq
  have hhead : q ≠ edsDataStart + span 2 pre + 1 := hq _ s ⟨pre, t :: cs, rfl, rfl⟩ hs
  rw [hsize q ?_, edsSetBlockSize, eepromWriteByte_of_ne m _ hhead]
  intro b u hb hu
  rcases at_append.mp hb with hpre | hb'
  · exact hq b u (at_append.mpr (.inl hpre)) hu
  · rcases at_cons.mp hb' with ⟨rfl, _⟩ | hcs
    · exact hhead
    · refine hq b u (at_append.mpr (.inr (at_cons.mpr (.inr (at_cons.mpr (.inr ?_)))))) hu
      have haddr : edsDataStart + span 2 pre + (2 + (Tiling.merge 2 s t).size)
          = edsDataStart + span 2 pre + (2 + s.size) + (2 + t.size) := by
        simp only [Tiling.merge]
        omega
      rwa [haddr] at hcs

theorem edsDefragmentLoop_end {pre : Blocks} (hh : EdsHeap mcu m pre) (fuel lastFree : Nat) :
    edsDefragmentLoop mcu fuel (edsDataStart + span 2 pre) lastFree m = m := by
  have hend := hh.ends
  cases fuel with
  | zero => rfl
  | succ fuel => rw [edsDefragmentLoop, if_neg (by omega)]

/-- With this fuel the walk at the blocks `cs`, without a free block in front of
them, gives a heap of them defragmented. -/
def WalksBehindUsed (mcu : Mcu) (fuel : Nat) : Prop :=
  ∀ (pre cs : Blocks) (m : Eeprom), EdsHeap mcu m (pre ++ cs) → cs.length ≤ fuel →
    EdsHeap mcu (edsDefragmentLoop mcu fuel (edsDataStart + span 2 pre) 0 m)
        (pre ++ coalesce 2 isFree 255 cs) ∧
      SameButFreeSizes (pre ++ cs) m
        (edsDefragmentLoop mcu fuel (edsDataStart + span 2 pre) 0 m)

/-- The same with a free block `s` right in front of them. -/
def WalksBehindFree (mcu : Mcu) (fuel : Nat) : Prop :=
  ∀ (pre cs : Blocks) (s : Seg UInt8) (m : Eeprom), EdsHeap mcu m (pre ++ s :: cs) →
    s.tag = 0 → cs.length ≤ fuel →
    EdsHeap mcu (edsDefragmentLoop mcu fuel (edsDataStart + span 2 (pre ++ [s]))
          (edsDataStart + span 2 pre) m)
        (pre ++ coalesceInto 2 isFree 255 s cs) ∧
      SameButFreeSizes (pre ++ s :: cs) m
        (edsDefragmentLoop mcu fuel (edsDataStart + span 2 (pre ++ [s]))
          (edsDataStart + span 2 pre) m)

theorem WalksBehindUsed.succ {fuel : Nat} (hused : WalksBehindUsed mcu fuel)
    (hfree : WalksBehindFree mcu fuel) : WalksBehindUsed mcu (fuel + 1) := by
  intro pre cs m hh hfuel
  cases cs with
  | nil =>
      rw [List.append_nil] at hh
      rw [edsDefragmentLoop_end hh, coalesce, List.append_nil]
      exact ⟨hh, fun q _ => rfl⟩
  | cons t cs =>
      have hlen : cs.length ≤ fuel := by simpa using hfuel
      have hat : BlockAt (pre ++ t :: cs) (edsDataStart + span 2 pre) t := ⟨pre, cs, rfl, rfl⟩
      by_cases ht : t.tag = 0
      · rw [edsDefragmentLoop_free hh hat ht fuel 0 (.inl rfl), Nat.add_assoc, ← span_snoc]
        exact hfree pre cs t m hh ht hlen
      · rw [edsDefragmentLoop_used hh hat ht fuel 0, Nat.add_assoc, ← span_snoc, coalesce,
          coalesceInto_of_used ht]
        simpa using hused (pre ++ [t]) cs m (by simpa using hh) hlen

theorem WalksBehindFree.succ {fuel : Nat} (hused : WalksBehindUsed mcu fuel)
    (hfree : WalksBehindFree mcu fuel) : WalksBehindFree mcu (fuel + 1) := by
  intro pre cs s m hh hs hfuel
  cases cs with
  | nil =>
      rw [edsDefragmentLoop_end hh, coalesceInto]
      exact ⟨hh, fun q _ => rfl⟩
  | cons t cs =>
      have hlen : cs.length ≤ fuel := by simpa using hfuel
      have hats : BlockAt (pre ++ s :: t :: cs) (edsDataStart + span 2 pre) s :=
        ⟨pre, t :: cs, rfl, rfl⟩
      have hatt : BlockAt (pre ++ s :: t :: cs) (edsDataStart + span 2 (pre ++ [s])) t :=
        ⟨pre ++ [s], cs, by simp, rfl⟩
      have hh' : EdsHeap mcu m (pre ++ [s] ++ t :: cs) := by simpa using hh
      by_cases ht : t.tag = 0
      · by_cases hsize : s.size + 2 + t.size ≤ 255
        · -- `s` swallows `t` and stays the last free block
          rw [edsDefragmentLoop_merge hh hs ht hsize, coalesceInto,
            if_pos (mergeable_iff.mpr ⟨hs, ht, hsize⟩)]
          obtain ⟨hres, hsame⟩ :=
            hfree pre cs (merge 2 s t) _ (edsSetBlockSize_merge hh hsize) hs hlen
          exact ⟨hres, hsame.merge hs⟩
        · -- too large together: `t` is the last free block now
          rw [edsDefragmentLoop_free hh hatt ht fuel _
              (.inr (by rw [hh.size_eq hats]; exact hsize)),
            Nat.add_assoc, ← span_snoc, coalesceInto,
            if_neg (fun h => hsize (mergeable_iff.mp h).2.2)]
          simpa using hfree (pre ++ [s]) cs t m hh' ht hlen
      · rw [edsDefragmentLoop_used hh hatt ht fuel _, Nat.add_assoc, ← span_snoc,
          coalesceInto, if_neg (fun h => ht (mergeable_iff.mp h).2.1),
          coalesceInto_of_used ht]
        simpa using hused (pre ++ [s] ++ [t]) cs m (by simpa using hh) hlen

theorem edsDefragmentLoop_spec (mcu : Mcu) (fuel : Nat) :
    WalksBehindUsed mcu fuel ∧ WalksBehindFree mcu fuel := by
  induction fuel with
  | zero =>
      refine ⟨fun pre cs m hh hfuel => ?_, fun pre cs s m hh _ hfuel => ?_⟩
      · have hcs : cs = [] := List.eq_nil_of_length_eq_zero (by omega)
        subst hcs
        exact ⟨hh, fun q _ => rfl⟩
      · have hcs : cs = [] := List.eq_nil_of_length_eq_zero (by omega)
        subst hcs
        exact ⟨hh, fun q _ => rfl⟩
  | succ fuel ih => exact ⟨.succ ih.1 ih.2, .succ ih.1 ih.2⟩

end Loop

/-- **Defragmenting** merges neighbouring free blocks and writes size bytes
of free blocks only. -/
theorem edsDefragment_spec (hh : EdsHeap mcu m bs) :
    EdsHeap mcu (edsDefragment mcu m) (coalesce 2 isFree 255 bs) ∧
      SameButFreeSizes bs m (edsDefragment mcu m) := by
  have h := (edsDefragmentLoop_spec mcu (edsEnd mcu)).1 [] bs m hh hh.length_le
  simpa [edsDefragment] using h

/-! ## A memory for every row -/

/-- The memory `m` with the headers of the blocks laid out from `a`. -/
def layBlocks : Nat → Blocks → Eeprom → Eeprom
  | _, [], m => m
  | a, s :: bs, m =>
      eepromWriteByte (eepromWriteByte (layBlocks (a + (2 + s.size)) bs m) a s.tag) (a + 1)
        (UInt8.ofNat s.size)

theorem layBlocks_below (bs : Blocks) {a q : Nat} (hq : q < a) : layBlocks a bs m q = m q := by
  induction bs generalizing a with
  | nil => rfl
  | cons s bs ih =>
      rw [layBlocks, eepromWriteByte_of_ne _ _ (by omega), eepromWriteByte_of_ne _ _ (by omega),
        ih (by omega)]

theorem lays_layBlocks (m : Eeprom) (bs : Blocks) {a : Nat} (hsize : ∀ s ∈ bs, s.size < 256)
    (hend : a + span 2 bs ≤ 65535) :
    Lays (edsBlockType (layBlocks a bs m)) (edsBlockSize (layBlocks a bs m)) 2 a bs := by
  induction bs generalizing a with
  | nil => trivial
  | cons s bs ih =>
      rw [List.forall_mem_cons] at hsize
      rw [span_cons] at hend
      refine ⟨?_, ?_, (ih hsize.2 (by omega)).congr fun b t hb => ?_⟩
      · rw [edsBlockType, eepromReadByte, layBlocks, eepromWriteByte_of_ne _ _ (by omega),
          eepromWriteByte_self]
      · rw [edsBlockSize_eq (by omega), layBlocks, eepromWriteByte_self, UInt8.toNat_ofNat']
        exact Nat.mod_eq_of_lt hsize.1
      · -- the headers behind the block are not the one of the block
        have hbounds := hb.bounds
        refine header_congr (by omega) ?_ ?_
        · rw [layBlocks, eepromWriteByte_of_ne _ _ (by omega), eepromWriteByte_of_ne _ _ (by omega)]
        · rw [layBlocks, eepromWriteByte_of_ne _ _ (by omega), eepromWriteByte_of_ne _ _ (by omega)]

/-- Headers without a zero byte bring none into the memory. -/
theorem layBlocks_ne_zero {bs : Blocks} (hm : ∀ q, m q ≠ 0)
    (hbs : ∀ s ∈ bs, s.tag ≠ 0 ∧ UInt8.ofNat s.size ≠ 0) (a q : Nat) : layBlocks a bs m q ≠ 0 := by
  induction bs generalizing a with
  | nil => exact hm q
  | cons s bs ih =>
      rw [List.forall_mem_cons] at hbs
      rw [layBlocks, eepromWriteByte]
      split
      · exact hbs.1.2
      · rw [eepromWriteByte]
        split
        · exact hbs.1.1
        · exact ih hbs.2 _

end OpenHcan.Eds
