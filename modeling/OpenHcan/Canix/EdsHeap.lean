import OpenHcan.Canix.EdsLayout
import OpenHcan.Lib.Machine

/-!
# EdsHeap — the EEPROM heap over whole histories of requests

What the board's EEPROM holds after any sequence of EDS requests: an
abstract machine on lists of blocks (`BlockStep`), the refinement of the
frame handler to it (`edsCanCallback_refines`), the tiling of the chain of
blocks, and the stability of the allocated ones.
-/

namespace OpenHcan.Eds

open OpenHcan.Lib OpenHcan.Lib.Tiling

variable {mcu : Mcu} {selfaddr : UInt16} {m m' : Eeprom} {bs : Blocks}

/-! ## The abstract machine -/

/-- One request, on the list of blocks. -/
inductive BlockStep : Blocks → Blocks → Prop
  | keep (cs) : BlockStep cs cs
  | take (pre s post) (type : UInt8) (size : Nat) : Fits size s →
      BlockStep (pre ++ [s] ++ post) (pre ++ (⟨type, size⟩ :: remainder s size) ++ post)
  | release (pre s post) : BlockStep (pre ++ [s] ++ post) (pre ++ [⟨0, s.size⟩] ++ post)
  | defragment (cs) : BlockStep cs (coalesce 2 isFree 255 cs)
  | format (cs cs') : span 2 cs' = span 2 cs → (∀ s ∈ cs', s.tag = 0) → BlockStep cs cs'

theorem span_remainder {s : Seg UInt8} {size : Nat} (hfit : Fits size s) (type : UInt8) :
    span 2 (⟨type, size⟩ :: remainder s size) = span 2 [s] := by
  rw [remainder]
  split
  · rename_i heq
    simp [heq]
  · rename_i hne
    have := hfit.2.resolve_left hne
    simp only [span_cons, span_nil]
    omega

/-- No request changes the space the blocks cover. -/
theorem BlockStep.span_eq {bs cs : Blocks} (hstep : BlockStep bs cs) : span 2 cs = span 2 bs := by
  cases hstep with
  | keep => rfl
  | take pre s post type size hfit => exact span_replace (span_remainder hfit type)
  | release pre s post => exact span_replace (by simp)
  | defragment => exact refits_span (coalesce_refits bs)
  | format _ _ hspan _ => exact hspan

/-! ## What each operation does to the bytes -/

/-- The cells of the free block `s` at `a` after `eds_alloc` took it: the size
byte, the remainder behind the block, and nothing outside. -/
theorem takeBlock_spec {a : Nat} {s : Seg UInt8} {size : UInt8} (hfit : Fits size.toNat s)
    (hsize : edsBlockSize m a = s.size) (hbound : a + 2 + s.size < 65535) :
    edsBlockSize (takeBlock m a s size) a = size.toNat ∧
      Lays (edsBlockType (takeBlock m a s size)) (edsBlockSize (takeBlock m a s size)) 2
        (a + (2 + size.toNat)) (remainder s size.toNat) ∧
      ∀ q, q < a ∨ a + (2 + s.size) ≤ q → takeBlock m a s size q = m q := by
  rw [takeBlock, remainder]
  by_cases heq : s.size = size.toNat
  · rw [if_pos heq, if_pos heq]
    exact ⟨hsize.trans heq, trivial, fun q _ => rfl⟩
  · have hge := hfit.2.resolve_left heq
    have hlt : s.size < 256 := hsize ▸ edsBlockSize_lt m a
    have hap := edsSplitBlock_apply (m := m) (p := a) (by omega) size
    rw [if_neg heq, if_neg heq]
    refine ⟨?_, ⟨?_, ?_, trivial⟩, ?_⟩
    · rw [edsBlockSize_eq (by omega), hap, if_pos rfl]
    · rw [edsBlockType, eepromReadByte, hap, if_neg (by omega), if_neg (by omega),
        if_pos (by omega)]
    · rw [edsBlockSize_eq (by omega), hap, if_neg (by omega), if_pos (by omega), hsize,
        UInt8.toNat_ofNat']
      exact Nat.mod_eq_of_lt (by omega)
    · intro q hq
      rw [hap, if_neg (by omega), if_neg (by omega), if_neg (by omega)]

/-- **Allocation, on the bytes**: the block is laid out in the cells of the
free block it was cut from, and no other cell changes. -/
theorem allocate_heap {pre post : Blocks} {s : Seg UInt8} {size : UInt8} (type : UInt8)
    (hh : EdsHeap mcu m (pre ++ [s] ++ post)) (hfit : Fits size.toNat s) :
    EdsHeap mcu
        (edsSetBlockType (takeBlock m (edsDataStart + span 2 pre) s size)
          (edsDataStart + span 2 pre) type)
        (pre ++ (⟨type, size.toNat⟩ :: remainder s size.toNat) ++ post) ∧
      ∀ q, q < edsDataStart + span 2 pre ∨ edsDataStart + span 2 pre + (2 + s.size) ≤ q →
        edsSetBlockType (takeBlock m (edsDataStart + span 2 pre) s size)
          (edsDataStart + span 2 pre) type q = m q := by
  have hat : BlockAt (pre ++ [s] ++ post) (edsDataStart + span 2 pre) s := ⟨pre, post, by simp, rfl⟩
  have hbound := hh.bounds hat
  have hend := edsEnd_le mcu
  obtain ⟨hsz, hrem, hout⟩ := takeBlock_spec hfit (hh.size_eq hat) (by omega)
  have hne : ∀ q, q ≠ edsDataStart + span 2 pre →
      edsSetBlockType (takeBlock m (edsDataStart + span 2 pre) s size)
        (edsDataStart + span 2 pre) type q = takeBlock m (edsDataStart + span 2 pre) s size q :=
    fun q hq => eepromWriteByte_of_ne _ _ hq
  have hframe : ∀ q,
      q < edsDataStart + span 2 pre ∨ edsDataStart + span 2 pre + (2 + s.size) ≤ q →
      edsSetBlockType (takeBlock m (edsDataStart + span 2 pre) s size)
        (edsDataStart + span 2 pre) type q = m q := by
    intro q hq
    rw [hne q (by omega), hout q hq]
  refine ⟨hh.replace (span_remainder hfit type) ⟨?_, ?_, ?_⟩ fun q _ hq => hframe q ?_, hframe⟩
  · exact eepromReadByte_write_self _ _ _
  · rw [edsBlockSize_eq (by omega), hne _ (by omega), ← edsBlockSize_eq (by omega), hsz]
  · refine hrem.congr fun b t hb => ?_
    have hb' := hb.bounds
    have hspan := span_remainder hfit type
    simp only [span_cons, span_nil] at hspan
    exact header_congr (by omega) (hne b (by omega)) (hne (b + 1) (by omega))
  · simpa using hq

/-- **Freeing, on the bytes**: only the type byte of the block changes. -/
theorem release_heap {pre post : Blocks} {s : Seg UInt8}
    (hh : EdsHeap mcu m (pre ++ [s] ++ post)) :
    EdsHeap mcu (edsSetBlockType m (edsDataStart + span 2 pre) 0)
      (pre ++ [⟨0, s.size⟩] ++ post) := by
  have hat : BlockAt (pre ++ [s] ++ post) (edsDataStart + span 2 pre) s := ⟨pre, post, by simp, rfl⟩
  have haddr := hh.addr_lt hat
  have hne : ∀ q, q ≠ edsDataStart + span 2 pre →
      edsSetBlockType m (edsDataStart + span 2 pre) 0 q = m q :=
    fun q hq => eepromWriteByte_of_ne _ _ hq
  refine hh.replace (by simp) ⟨?_, ?_, trivial⟩ fun q _ hq => hne q ?_
  · exact eepromReadByte_write_self _ _ _
  · rw [edsBlockSize_eq haddr, hne _ (by omega), ← edsBlockSize_eq haddr]
    exact (hh.size_eq hat :)
  · simp only [span_cons, span_nil] at hq
    omega

/-- A data byte of a block may be overwritten. -/
theorem write_heap (hh : EdsHeap mcu m bs) {b i : Nat} {t : Seg UInt8} (hat : BlockAt bs b t)
    (hi : i < t.size) (v : UInt8) : EdsHeap mcu (eepromWriteByte m (b + 2 + i) v) bs := by
  refine hh.congr fun a s ha => ?_
  have hdis := ha.disjoint hat
  refine ⟨eepromWriteByte_of_ne m _ ?_, eepromWriteByte_of_ne m _ ?_⟩
  · rcases hdis with ⟨rfl, rfl⟩ | h | h <;> omega
  · rcases hdis with ⟨rfl, rfl⟩ | h | h <;> omega

/-! ## The refinement -/

/-- The EEPROM after a request, by its command. -/
theorem edsCanCallback_eeprom (mcu : Mcu) (selfaddr : UInt16) (m : Eeprom) (frame : CanixFrame) :
    (edsCanCallback mcu selfaddr m frame).1 =
      if frame.byte 1 = hcanEdsAllocateBlock then
        edsSetBlockType (edsAlloc mcu m (frame.byte 3)).2 (edsAlloc mcu m (frame.byte 3)).1
          (frame.byte 2)
      else if frame.byte 1 = hcanEdsFreeBlock then (edsFree mcu m (requestPtr frame)).2
      else if frame.byte 1 = hcanEdsDefragment then edsDefragment mcu m
      else if frame.byte 1 = hcanEdsWriteToBlock then
        eepromWriteByte m (ptr (requestPtr frame + (frame.byte 4).toNat)) (frame.byte 5)
      else if frame.byte 1 = hcanEdsFormat then edsFormat mcu m
      else m := by
  rw [edsCanCallback]
  split
  · rename_i h
    simp [h, hcanEdsGetNextBlock, hcanEdsAllocateBlock, hcanEdsFreeBlock, hcanEdsDefragment,
      hcanEdsWriteToBlock, hcanEdsFormat]
  · split
    · rfl
    · split
      · rfl
      · split
        · rfl
        · split
          · rename_i h
            simp [h, hcanEdsReadFromBlock, hcanEdsWriteToBlock, hcanEdsFormat]
          · split
            · rfl
            · split <;> rfl

theorem edsCanCallback_allocate {frame : CanixFrame}
    (hcmd : frame.byte 1 = hcanEdsAllocateBlock) :
    (edsCanCallback mcu selfaddr m frame).2 = some (edsAnswer selfaddr frame
      [hcanEdsAllocateBlockReplay, hiByte (edsAlloc mcu m (frame.byte 3)).1,
        loByte (edsAlloc mcu m (frame.byte 3)).1]) := by
  rw [edsCanCallback, if_neg (by rw [hcmd]; decide), if_pos hcmd]

theorem edsCanCallback_free {frame : CanixFrame} (hcmd : frame.byte 1 = hcanEdsFreeBlock) :
    edsCanCallback mcu selfaddr m frame = ((edsFree mcu m (requestPtr frame)).2,
      some (edsAnswer selfaddr frame
        [hcanEdsFreeBlockReplay, (edsFree mcu m (requestPtr frame)).1])) := by
  rw [edsCanCallback, if_neg (by rw [hcmd]; decide), if_neg (by rw [hcmd]; decide), if_pos hcmd]

theorem edsCanCallback_read {frame : CanixFrame} (hcmd : frame.byte 1 = hcanEdsReadFromBlock) :
    edsCanCallback mcu selfaddr m frame = (m, some (edsAnswer selfaddr frame
      [hcanEdsReadFromBlockReplay,
        eepromReadByte m (ptr (requestPtr frame + (frame.byte 4).toNat)),
        eepromReadByte m (ptr (requestPtr frame + (frame.byte 4).toNat + 1)),
        eepromReadByte m (ptr (requestPtr frame + (frame.byte 4).toNat + 2)),
        eepromReadByte m (ptr (requestPtr frame + (frame.byte 4).toNat + 3))])) := by
  rw [edsCanCallback, if_neg (by rw [hcmd]; decide), if_neg (by rw [hcmd]; decide),
    if_neg (by rw [hcmd]; decide), if_neg (by rw [hcmd]; decide), if_pos hcmd]

/-- A failed allocation writes the type to address 0, in front of the heap. -/
theorem write_zero_heap (hh : EdsHeap mcu m bs) (type : UInt8) :
    EdsHeap mcu (edsSetBlockType m 0 type) bs := by
  refine hh.congr fun b s hb => ?_
  have hbase := (hh.bounds hb).1
  rw [edsDataStart, edsStart] at hbase
  exact ⟨eepromWriteByte_of_ne m _ (by omega), eepromWriteByte_of_ne m _ (by omega)⟩

/-- **Every request but a raw write refines a step of the abstract machine.** -/
theorem edsCanCallback_refines (selfaddr : UInt16) (hh : EdsHeap mcu m bs) {frame : CanixFrame}
    (hw : frame.byte 1 ≠ hcanEdsWriteToBlock) :
    ∃ cs, BlockStep bs cs ∧ EdsHeap mcu (edsCanCallback mcu selfaddr m frame).1 cs := by
  rw [edsCanCallback_eeprom]
  split
  · rcases edsAlloc_spec hh (frame.byte 3) with ⟨hfail, _⟩ | ⟨pre, s, post, rfl, hfit, hres⟩
    · rw [hfail]
      exact ⟨bs, .keep bs, write_zero_heap hh _⟩
    · rw [hres]
      rw [List.append_cons] at hh ⊢
      exact ⟨_, .take pre s post _ _ hfit, (allocate_heap _ hh hfit).1⟩
  · split
    · rcases edsFree_spec hh (requestPtr frame) with ⟨hfail, _⟩ | ⟨pre, s, post, rfl, hptr, hres⟩
      · rw [hfail]
        exact ⟨bs, .keep bs, hh⟩
      · rw [hres, hptr]
        rw [List.append_cons] at hh ⊢
        exact ⟨_, .release pre s post, release_heap hh⟩
    · split
      · exact ⟨_, .defragment bs, (edsDefragment_spec hh).1⟩
      · split
        · obtain ⟨cs, hcs, hfree⟩ := edsFormat_heap mcu m
          have hspan : span 2 cs = span 2 bs := by
            have h1 := hcs.ends
            have h2 := hh.ends
            omega
          exact ⟨cs, .format bs cs hspan hfree, hcs⟩
        · exact ⟨bs, .keep bs, hh⟩

/-! ## The chain of blocks -/

/-- A block head: one of the addresses `for (p = EDS_DATA_START; p < EDS_END;
p = eds_next_block(p))` passes. -/
def IsBlockHead (mcu : Mcu) (m : Eeprom) (b : Nat) : Prop :=
  ∃ k, b = (edsNextBlock m)^[k] edsDataStart ∧
    ∀ j ≤ k, (edsNextBlock m)^[j] edsDataStart < edsEnd mcu

/-- After `k` steps the chain stands behind the first `k` blocks. -/
theorem EdsHeap.iterate_next (hh : EdsHeap mcu m bs) {k : Nat} (hk : k ≤ bs.length) :
    (edsNextBlock m)^[k] edsDataStart = edsDataStart + span 2 (bs.take k) :=
  Tiling.iterate_next (fun _ _ hat => hh.next_eq hat) k hk

theorem EdsHeap.iterate_length (hh : EdsHeap mcu m bs) :
    (edsNextBlock m)^[bs.length] edsDataStart = edsEnd mcu + 1 := by
  rw [hh.iterate_next le_rfl, List.take_length, hh.ends]

theorem EdsHeap.at_iterate (hh : EdsHeap mcu m bs) {k : Nat} (hk : k < bs.length) :
    BlockAt bs ((edsNextBlock m)^[k] edsDataStart) bs[k] := by
  rw [hh.iterate_next hk.le]
  exact at_take (List.getElem?_eq_getElem hk)

theorem EdsHeap.isBlockHead_iff (hh : EdsHeap mcu m bs) (b : Nat) :
    IsBlockHead mcu m b ↔ ∃ s, BlockAt bs b s := by
  constructor
  · rintro ⟨k, rfl, hk⟩
    have hlt : k < bs.length := by
      by_contra hge
      have := hk bs.length (by omega)
      rw [hh.iterate_length] at this
      omega
    exact ⟨bs[k], hh.at_iterate hlt⟩
  · rintro ⟨s, hat⟩
    obtain ⟨pre, post, rfl, rfl⟩ := id hat
    refine ⟨pre.length, ?_, fun j hj => ?_⟩
    · rw [hh.iterate_next (by simp), List.take_left']
      rfl
    · have hj' : j < (pre ++ s :: post).length := by
        rw [List.length_append, List.length_cons]
        omega
      exact hh.lt_edsEnd (hh.at_iterate hj')

/-- A request that is not a raw write keeps some heap in the EEPROM, whatever
the history of requests since formatting. -/
theorem edsCanCallback_run_heap (mcu : Mcu) (selfaddr : UInt16) (m0 : Eeprom)
    (frames : List CanixFrame) (hw : ∀ f ∈ frames, f.byte 1 ≠ hcanEdsWriteToBlock) :
    ∃ bs, EdsHeap mcu
      (run (fun m f => (edsCanCallback mcu selfaddr m f).1) (edsFormat mcu m0) frames) bs := by
  refine run_guarded (I := fun m => ∃ bs, EdsHeap mcu m bs)
    (G := fun _ f => f.byte 1 ≠ hcanEdsWriteToBlock) ?_ frames _ (guarded_of_forall frames _ hw) ?_
  · rintro m f hf ⟨bs, hh⟩
    obtain ⟨cs, _, hcs⟩ := edsCanCallback_refines selfaddr hh hf
    exact ⟨cs, hcs⟩
  · obtain ⟨bs, hh, _⟩ := edsFormat_heap mcu m0
    exact ⟨bs, hh⟩

/-- **The heap stays tiled**: after formatting and any sequence of requests
that allocate, free, defragment, format or read, the chain of blocks from
`EDS_DATA_START` stays inside the EEPROM and ends exactly behind `EDS_END`. -/
theorem edsChain_tiles (mcu : Mcu) (selfaddr : UInt16) (m0 : Eeprom) (frames : List CanixFrame)
    (hw : ∀ f ∈ frames, f.byte 1 ≠ hcanEdsWriteToBlock) :
    let m := run (fun m f => (edsCanCallback mcu selfaddr m f).1) (edsFormat mcu m0) frames
    ∃ n, (edsNextBlock m)^[n] edsDataStart = edsEnd mcu + 1 ∧
      (∀ k < n, edsDataStart ≤ (edsNextBlock m)^[k] edsDataStart ∧
        (edsNextBlock m)^[k] edsDataStart + 2 + edsBlockSize m ((edsNextBlock m)^[k] edsDataStart)
          ≤ edsEnd mcu + 1) ∧
      ∑ k ∈ Finset.range n, (edsBlockSize m ((edsNextBlock m)^[k] edsDataStart) + 2)
        = edsEnd mcu + 1 - edsDataStart := by
  intro m
  obtain ⟨bs, hh⟩ := edsCanCallback_run_heap mcu selfaddr m0 frames hw
  refine ⟨bs.length, hh.iterate_length, fun k hk => ?_, ?_⟩
  · have hat := hh.at_iterate hk
    rw [hh.size_eq hat]
    exact hh.bounds hat
  · have hsum : ∑ k ∈ Finset.range bs.length,
        (edsBlockSize m ((edsNextBlock m)^[k] edsDataStart) + 2) = span 2 bs := by
      refine sum_span fun k s hs => ?_
      obtain ⟨hlt, rfl⟩ := List.getElem?_eq_some_iff.mp hs
      rw [hh.size_eq (hh.at_iterate hlt)]
    have hend := hh.ends
    rw [hsum]
    omega

/-- A request to allocate `size` bytes under `type`, as a frame. -/
def allocateFrame (type size : UInt8) : CanixFrame where
  src := 40
  dst := 1
  proto := hcanProtoSfp
  size := 4
  data := payload [hcanSrvEds, hcanEdsAllocateBlock, type, size]

theorem edsChain_tiles_allocate :
    ∃ n, (edsNextBlock (edsCanCallback .atmega32 1 (edsFormat .atmega32 fun _ => 255)
        (allocateFrame 19 9)).1)^[n] edsDataStart = edsEnd .atmega32 + 1 := by
  obtain ⟨n, hn, _⟩ := edsChain_tiles .atmega32 1 (fun _ => 255) [allocateFrame 19 9]
    (by simp only [List.mem_singleton, forall_eq]; decide)
  exact ⟨n, hn⟩

/-! ## Allocated blocks are stable -/

/-- The heaps a board can reach: formatted, then served requests; a raw write
goes to a data byte of a block. -/
inductive EdsReachable (mcu : Mcu) (selfaddr : UInt16) : Eeprom → Prop
  | format (m : Eeprom) : EdsReachable mcu selfaddr (edsFormat mcu m)
  | request (m : Eeprom) (frame : CanixFrame) : EdsReachable mcu selfaddr m →
      frame.byte 1 ≠ hcanEdsWriteToBlock →
      EdsReachable mcu selfaddr (edsCanCallback mcu selfaddr m frame).1
  | write (m : Eeprom) (frame : CanixFrame) (b i : Nat) : EdsReachable mcu selfaddr m →
      frame.byte 1 = hcanEdsWriteToBlock → IsBlockHead mcu m b → i < edsBlockSize m b →
      ptr (requestPtr frame + (frame.byte 4).toNat) = b + 2 + i →
      EdsReachable mcu selfaddr (edsCanCallback mcu selfaddr m frame).1

theorem EdsReachable.heap (hr : EdsReachable mcu selfaddr m) : ∃ bs, EdsHeap mcu m bs := by
  induction hr with
  | format m =>
      obtain ⟨bs, hh, _⟩ := edsFormat_heap mcu m
      exact ⟨bs, hh⟩
  | request m frame _ hw ih =>
      obtain ⟨bs, hh⟩ := ih
      obtain ⟨cs, _, hcs⟩ := edsCanCallback_refines selfaddr hh hw
      exact ⟨cs, hcs⟩
  | write m frame b i _ hw hb hi hptr ih =>
      obtain ⟨bs, hh⟩ := ih
      obtain ⟨t, hat⟩ := (hh.isBlockHead_iff b).mp hb
      rw [hh.size_eq hat] at hi
      refine ⟨bs, ?_⟩
      rw [edsCanCallback_eeprom, if_neg (by rw [hw]; decide), if_neg (by rw [hw]; decide),
        if_neg (by rw [hw]; decide), if_pos hw, hptr]
      exact write_heap hh hat hi _

/-- An allocated block: a block head with a type other than 0. -/
def IsAllocated (mcu : Mcu) (m : Eeprom) (b : Nat) : Prop :=
  IsBlockHead mcu m b ∧ edsBlockType m b ≠ 0

/-- The block at `b` is still there, with its type, size and data. -/
structure KeepsBlock (mcu : Mcu) (m m' : Eeprom) (b : Nat) : Prop where
  head : IsBlockHead mcu m' b
  type : edsBlockType m' b = edsBlockType m b
  size : edsBlockSize m' b = edsBlockSize m b
  data : ∀ i < edsBlockSize m b, edsBlockData m' b i = edsBlockData m b i

/-- A block that is in both heaps keeps its contents, if its data bytes do. -/
theorem KeepsBlock.of_at {cs : Blocks} (hh : EdsHeap mcu m bs) (hh' : EdsHeap mcu m' cs) {b : Nat}
    {t : Seg UInt8} (hat : BlockAt bs b t) (hat' : BlockAt cs b t)
    (hdata : ∀ q, b + 2 ≤ q → q < b + 2 + t.size → m' q = m q) : KeepsBlock mcu m m' b where
  head := (hh'.isBlockHead_iff b).mpr ⟨t, hat'⟩
  type := (hh'.type_eq hat').trans (hh.type_eq hat).symm
  size := (hh'.size_eq hat').trans (hh.size_eq hat).symm
  data := by
    intro i hi
    have hb := hh.bounds hat
    have he := edsEnd_le mcu
    rw [hh.size_eq hat] at hi
    rw [edsBlockData, edsBlockData, ptr_of_lt (by omega)]
    exact hdata _ (by omega) (by omega)

/-- Replacing the block `s` keeps every other block whose cells it does not touch. -/
theorem KeepsBlock.of_replace {pre mid' post : Blocks} {s : Seg UInt8}
    (hh : EdsHeap mcu m (pre ++ [s] ++ post)) (hh' : EdsHeap mcu m' (pre ++ mid' ++ post))
    (hspan : span 2 mid' = span 2 [s])
    (hframe : ∀ q,
      q < edsDataStart + span 2 pre ∨ edsDataStart + span 2 pre + (2 + s.size) ≤ q → m' q = m q)
    {b : Nat} (hb : IsBlockHead mcu m b) (hne : b ≠ edsDataStart + span 2 pre) :
    KeepsBlock mcu m m' b := by
  obtain ⟨t, hat⟩ := (hh.isBlockHead_iff b).mp hb
  have hs : BlockAt (pre ++ [s] ++ post) (edsDataStart + span 2 pre) s := ⟨pre, post, by simp, rfl⟩
  refine .of_at hh hh' hat (hat.replace hspan fun hmid => ?_) fun q hq1 hq2 => hframe q ?_
  · rcases at_cons.mp hmid with ⟨h, _⟩ | ⟨_, _, h, _⟩
    · exact hne h
    · simp at h
  · rcases hat.disjoint hs with ⟨h, _⟩ | h | h
    · exact absurd h hne
    · omega
    · omega

/-- Defragmenting keeps every allocated block. -/
theorem edsDefragment_keeps (hh : EdsHeap mcu m bs) {b : Nat} (hb : IsAllocated mcu m b) :
    KeepsBlock mcu m (edsDefragment mcu m) b := by
  obtain ⟨hh', hsame⟩ := edsDefragment_spec hh
  obtain ⟨t, hat⟩ := (hh.isBlockHead_iff b).mp hb.1
  have ht : t.tag ≠ 0 := hh.type_eq hat ▸ hb.2
  have hused : isFree t.tag = false := by simpa [isFree] using ht
  have hat' : BlockAt (coalesce 2 isFree 255 bs) b t :=
    refits_at (coalesce_refits bs) hused hat
  refine .of_at hh hh' hat hat' fun q hq1 hq2 => hsame q fun a s ha hs => ?_
  rcases ha.disjoint hat with ⟨_, rfl⟩ | h | h
  · exact absurd hs ht
  · omega
  · omega

/-- What a successful allocation of a block at `p` promises. -/
structure AllocatedAt (mcu : Mcu) (m m' : Eeprom) (p : Nat) (type size : UInt8) : Prop where
  head : IsBlockHead mcu m' p
  type_eq : edsBlockType m' p = type
  size_eq : edsBlockSize m' p = size.toNat
  inside : ∃ c, IsBlockHead mcu m c ∧ edsBlockType m c = 0 ∧ c ≤ p ∧
    p + 2 + size.toNat ≤ c + 2 + edsBlockSize m c
  disjoint : ∀ b, IsAllocated mcu m b → b + 2 + edsBlockSize m b ≤ p ∨ p + 2 + size.toNat ≤ b

theorem edsAlloc_allocates (hh : EdsHeap mcu m bs) (type size : UInt8)
    (hok : (edsAlloc mcu m size).1 ≠ 0) :
    let p := (edsAlloc mcu m size).1
    let m' := edsSetBlockType (edsAlloc mcu m size).2 p type
    (∀ b, IsAllocated mcu m b → KeepsBlock mcu m m' b) ∧ AllocatedAt mcu m m' p type size := by
  rcases edsAlloc_spec hh size with ⟨hfail, _⟩ | ⟨pre, s, post, rfl, hfit, hres⟩
  · rw [hfail] at hok
    exact absurd rfl hok
  · rw [hres]
    dsimp only
    rw [List.append_cons] at hh
    obtain ⟨hh', hframe⟩ := allocate_heap type hh hfit
    have hat : BlockAt (pre ++ [s] ++ post) (edsDataStart + span 2 pre) s :=
      ⟨pre, post, by simp, rfl⟩
    have hat' : BlockAt (pre ++ (⟨type, size.toNat⟩ :: remainder s size.toNat) ++ post)
        (edsDataStart + span 2 pre) ⟨type, size.toNat⟩ :=
      ⟨pre, remainder s size.toNat ++ post, by simp, rfl⟩
    have hle : size.toNat ≤ s.size := by rcases hfit.2 with h | h <;> omega
    refine ⟨fun b hb => ?_, ⟨?_, hh'.type_eq hat', hh'.size_eq hat', ?_, fun b hb => ?_⟩⟩
    · refine .of_replace hh hh' (span_remainder hfit type) hframe hb.1 ?_
      rintro rfl
      exact hb.2 ((hh.type_eq hat).trans hfit.1)
    · exact (hh'.isBlockHead_iff _).mpr ⟨_, hat'⟩
    · exact ⟨_, (hh.isBlockHead_iff _).mpr ⟨s, hat⟩, (hh.type_eq hat).trans hfit.1, le_rfl,
        by rw [hh.size_eq hat]; omega⟩
    · obtain ⟨t, hatb⟩ := (hh.isBlockHead_iff b).mp hb.1
      rw [hh.size_eq hatb]
      rcases hatb.disjoint hat with ⟨_, rfl⟩ | h | h
      · exact absurd ((hh.type_eq hatb).trans hfit.1) hb.2
      · omega
      · omega

theorem edsFree_keeps (hh : EdsHeap mcu m bs) (block : Nat) :
    (∀ b, IsBlockHead mcu m b → b ≠ block → KeepsBlock mcu m (edsFree mcu m block).2 b) ∧
      (¬ IsBlockHead mcu m block → edsFree mcu m block = (edsInvalidPointer, m)) := by
  rcases edsFree_spec hh block with ⟨hfail, _⟩ | ⟨pre, s, post, rfl, rfl, hres⟩
  · refine ⟨fun b hb _ => ?_, fun _ => hfail⟩
    rw [hfail]
    exact ⟨hb, rfl, rfl, fun _ _ => rfl⟩
  · refine ⟨fun b hb hne => ?_, fun hno => ?_⟩
    · rw [hres]
      rw [List.append_cons] at hh
      exact .of_replace hh (release_heap hh) (by simp)
        (fun q hq => eepromWriteByte_of_ne m _ (by omega)) hb hne
    · exact absurd ((hh.isBlockHead_iff _).mpr ⟨s, ⟨pre, post, rfl, rfl⟩⟩) hno

/-- **Allocated blocks are stable** in every reachable heap: a successful
allocation, the freeing of another block or of a wild pointer, and
defragmenting all keep them; the new block lies in a formerly free one; a
wild pointer is refused and changes nothing. -/
theorem edsAllocated_stable (hr : EdsReachable mcu selfaddr m) (frame : CanixFrame) :
    (frame.byte 1 = hcanEdsAllocateBlock → (edsAlloc mcu m (frame.byte 3)).1 ≠ 0 →
      let p := (edsAlloc mcu m (frame.byte 3)).1
      let m' := (edsCanCallback mcu selfaddr m frame).1
      (edsCanCallback mcu selfaddr m frame).2 = some (edsAnswer selfaddr frame
        [hcanEdsAllocateBlockReplay, hiByte p, loByte p]) ∧
      (∀ b, IsAllocated mcu m b → KeepsBlock mcu m m' b) ∧
      AllocatedAt mcu m m' p (frame.byte 2) (frame.byte 3)) ∧
    (frame.byte 1 = hcanEdsFreeBlock →
      (∀ b, IsAllocated mcu m b → b ≠ requestPtr frame →
        KeepsBlock mcu m (edsCanCallback mcu selfaddr m frame).1 b) ∧
      (¬ IsBlockHead mcu m (requestPtr frame) →
        edsCanCallback mcu selfaddr m frame = (m, some (edsAnswer selfaddr frame
          [hcanEdsFreeBlockReplay, edsInvalidPointer])))) ∧
    (frame.byte 1 = hcanEdsDefragment →
      ∀ b, IsAllocated mcu m b → KeepsBlock mcu m (edsCanCallback mcu selfaddr m frame).1 b) := by
  obtain ⟨bs, hh⟩ := hr.heap
  refine ⟨fun hcmd hok => ?_, fun hcmd => ⟨fun b hb hne => ?_, fun hno => ?_⟩, fun hcmd b hb => ?_⟩
  · obtain ⟨hkeeps, hnew⟩ := edsAlloc_allocates hh (frame.byte 2) (frame.byte 3) hok
    simp only [edsCanCallback_eeprom, if_pos hcmd]
    exact ⟨edsCanCallback_allocate hcmd, hkeeps, hnew⟩
  · rw [edsCanCallback_free hcmd]
    exact (edsFree_keeps hh _).1 b hb.1 hne
  · rw [edsCanCallback_free hcmd, (edsFree_keeps hh _).2 hno]
  · rw [edsCanCallback_eeprom, if_neg (by rw [hcmd]; decide), if_neg (by rw [hcmd]; decide),
      if_pos hcmd]
    exact edsDefragment_keeps hh hb

theorem edsAllocated_stable_format :
    let m := edsFormat .atmega32 fun _ => 255
    AllocatedAt .atmega32 m (edsCanCallback .atmega32 1 m (allocateFrame 19 9)).1
      (edsAlloc .atmega32 m 9).1 19 9 :=
  ((edsAllocated_stable (.format _) (allocateFrame 19 9)).1 (by decide) (by decide)).2.2

/-! ## Failed allocations -/

/-- No free block can take `size` bytes: none has exactly that size or room
for the header of a remainder. -/
def NoBlockFits (mcu : Mcu) (m : Eeprom) (size : Nat) : Prop :=
  ∀ b, IsBlockHead mcu m b → edsBlockType m b = 0 →
    edsBlockSize m b ≠ size ∧ edsBlockSize m b < size + 2

/-- `eds_alloc` returns 0 exactly if no free block fits. -/
theorem edsAlloc_eq_zero_iff (hh : EdsHeap mcu m bs) (size : UInt8) :
    (edsAlloc mcu m size).1 = 0 ↔ NoBlockFits mcu m size.toNat := by
  rcases edsAlloc_spec hh size with ⟨hfail, hnone⟩ | ⟨pre, s, post, rfl, hfit, hres⟩
  · rw [hfail]
    refine iff_of_true rfl fun b hb hfree => ?_
    obtain ⟨s, hat⟩ := (hh.isBlockHead_iff b).mp hb
    rw [hh.size_eq hat]
    rw [hh.type_eq hat] at hfree
    obtain ⟨pre, post, rfl, _⟩ := hat
    have hno := hnone s (by simp)
    rw [Fits, not_and, not_or] at hno
    have := hno hfree
    omega
  · have hat : BlockAt (pre ++ s :: post) (edsDataStart + span 2 pre) s := ⟨pre, post, rfl, rfl⟩
    rw [hres]
    refine iff_of_false (by simp [edsDataStart, edsStart]) fun hno => ?_
    have := hno _ ((hh.isBlockHead_iff _).mpr ⟨s, hat⟩) ((hh.type_eq hat).trans hfit.1)
    rw [hh.size_eq hat] at this
    rcases hfit.2 with h | h <;> omega

/-- A failed allocation does not touch the EEPROM. -/
theorem edsAlloc_of_noBlockFits (hh : EdsHeap mcu m bs) {size : UInt8}
    (hno : NoBlockFits mcu m size.toNat) : edsAlloc mcu m size = (0, m) := by
  rcases edsAlloc_spec hh size with ⟨hfail, _⟩ | ⟨pre, s, post, rfl, _, hres⟩
  · exact hfail
  · have hzero := (edsAlloc_eq_zero_iff hh size).mpr hno
    rw [hres] at hzero
    simp [edsDataStart, edsStart] at hzero

/-- The frame handler then writes the type to address 0. -/
theorem edsCanCallback_of_noBlockFits (hh : EdsHeap mcu m bs) {frame : CanixFrame}
    (hcmd : frame.byte 1 = hcanEdsAllocateBlock)
    (hno : NoBlockFits mcu m (frame.byte 3).toNat) :
    edsCanCallback mcu selfaddr m frame = (eepromWriteByte m 0 (frame.byte 2),
      some (edsAnswer selfaddr frame [hcanEdsAllocateBlockReplay, 0, 0])) := by
  have halloc := edsAlloc_of_noBlockFits hh hno
  refine Prod.ext ?_ ?_
  · rw [edsCanCallback_eeprom, if_pos hcmd, halloc, edsSetBlockType]
  · rw [edsCanCallback_allocate hcmd, halloc]
    simp [hiByte, loByte]

end OpenHcan.Eds
