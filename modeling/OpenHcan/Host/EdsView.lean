import OpenHcan.Host.EdsConnection
import OpenHcan.Lib.Cursor

/-!
# EdsView — the host enumerates the blocks of a board

`update`, `space_free` and `space_used` of `libhcan++/eds_connection.cc` ask
the board for one block after the other, from address 0 on until address 0
comes back. The three loops are one loop with different bodies.
-/

namespace OpenHcan.Host

open OpenHcan.Eds OpenHcan.Lib OpenHcan.Lib.Tiling

/-- `send_GET_NEXT_BLOCK` -/
def EdsConnection.sendGetNextBlock (c : EdsConnection) (it : Nat) : CanixFrame :=
  c.request [hcanSrvEds, hcanEdsGetNextBlock, hiByte it, loByte it]

/-- What an answer to `send_GET_NEXT_BLOCK` carries: the address, the type and the
size of the next block. -/
abbrev BlockInfo := Nat × UInt8 × UInt8

/-- A request for the next block and its answer. -/
def getNextBlock (mcu : Mcu) (c : EdsConnection) (m : Eeprom) (it : Nat) :
    Except String BlockInfo :=
  let answer := (edsCanCallback mcu c.dst m (c.sendGetNextBlock it)).2
  match recvReplay c.dst hcanSrvEds hcanEdsGetNextBlockReplay 4 answer with
  | .error e => .error e
  | .ok f => .ok (word (f.byte 2) (f.byte 3), f.byte 4, f.byte 5)

/-- `do { … } while (it != 0)`, from `it = 0` on. -/
def blockLoop {σ : Type} (mcu : Mcu) (c : EdsConnection) (m : Eeprom)
    (body : σ → BlockInfo → σ) (fuel : Nat) (init : σ) : Option (Except String σ) :=
  cursorLoop (getNextBlock mcu c m) (fun it => it == 0) body fuel 0 init

/-- The body of `eds_connection::update`: a block whose constructor throws is left
out. -/
def updateBody (descs : List EdsBlockDesc) (mcu : Mcu) (c : EdsConnection) (m : Eeprom)
    (blocks : List EdsBlock) (b : BlockInfo) : List EdsBlock :=
  if b.1 ≠ 0 ∧ b.2.1 ≠ 0 then
    match edsBlock descs mcu c m b.1 with
    | .ok block => blocks ++ [block]
    | .error _ => blocks
  else blocks

/-- The connection with other blocks. -/
def EdsConnection.withBlocks (c : EdsConnection) (blocks : List EdsBlock) : EdsConnection :=
  { c with blocks := blocks }

/-- `eds_connection::update` -/
def update (descs : List EdsBlockDesc) (mcu : Mcu) (c : EdsConnection) (m : Eeprom)
    (fuel : Nat) : Option (Except String EdsConnection) :=
  (blockLoop mcu c m (updateBody descs mcu c m) fuel []).map fun r =>
    r.map c.withBlocks

/-- `eds_connection::space_free` -/
def spaceFree (mcu : Mcu) (c : EdsConnection) (m : Eeprom) (fuel : Nat) :
    Option (Except String Nat) :=
  blockLoop mcu c m (fun free b => if b.1 ≠ 0 ∧ b.2.1 = 0 then free + b.2.2.toNat else free) fuel 0

/-- `eds_connection::space_used` -/
def spaceUsed (mcu : Mcu) (c : EdsConnection) (m : Eeprom) (fuel : Nat) :
    Option (Except String Nat) :=
  blockLoop mcu c m (fun used b => if b.1 ≠ 0 ∧ b.2.1 ≠ 0 then used + b.2.2.toNat else used) fuel 0

/-- The addresses the loop comes by. -/
def visited (mcu : Mcu) (c : EdsConnection) (m : Eeprom) (fuel : Nat) :
    Option (Except String (List Nat)) :=
  blockLoop mcu c m (fun l b => if b.1 ≠ 0 then l ++ [b.1] else l) fuel []

/-! ## The replies of the board -/

variable {mcu : Mcu} {m : Eeprom} {bs : Blocks}

/-- Where the board is after the request for the block behind `it`. -/
def nextHead (mcu : Mcu) (m : Eeprom) (it : Nat) : Nat :=
  let h2 := if it = 0 then edsDataStart else edsNextBlock m it
  if h2 ≥ edsEnd mcu then 0 else h2

theorem nextHead_of_ne {it : Nat} (h : it ≠ 0) :
    nextHead mcu m it = if edsNextBlock m it ≥ edsEnd mcu then 0 else edsNextBlock m it := by
  unfold nextHead
  simp only [if_neg h]

/-- The answer about the block at `a`. -/
def blockInfo (m : Eeprom) (a : Nat) : BlockInfo := (a, m a, m (a + 1))

theorem nextHead_lt (it : Nat) : nextHead mcu m it < 65535 := by
  have hend := edsEnd_le mcu
  unfold nextHead
  generalize (if it = 0 then edsDataStart else edsNextBlock m it) = h2
  show (if h2 ≥ edsEnd mcu then 0 else h2) < 65535
  split <;> omega

theorem getNextBlock_eq (c : EdsConnection) {it : Nat} (hit : it < 65536) :
    getNextBlock mcu c m it = .ok (blockInfo m (nextHead mcu m it)) := by
  have hptr : requestPtr (c.sendGetNextBlock it) = it := word_hiByte_loByte hit
  have hlt : nextHead mcu m it < 65535 := nextHead_lt it
  have hsize : UInt8.ofNat (edsBlockSize m (nextHead mcu m it))
      = m (nextHead mcu m it + 1) := by
    rw [edsBlockSize_eq hlt, UInt8.ofNat_toNat]
  have hanswer : (edsCanCallback mcu c.dst m (c.sendGetNextBlock it)).2
      = some (edsAnswer c.dst (c.sendGetNextBlock it) [hcanEdsGetNextBlockReplay,
          hiByte (nextHead mcu m it), loByte (nextHead mcu m it), m (nextHead mcu m it),
          m (nextHead mcu m it + 1)]) := by
    have hcmd : (c.sendGetNextBlock it).byte 1 = hcanEdsGetNextBlock := rfl
    rw [edsCanCallback, if_pos hcmd, hptr, ← hsize]
    rfl
  have hbyte : ∀ i, i < 8 → (edsAnswer c.dst (c.sendGetNextBlock it) [hcanEdsGetNextBlockReplay,
      hiByte (nextHead mcu m it), loByte (nextHead mcu m it), m (nextHead mcu m it),
      m (nextHead mcu m it + 1)]).byte i = [hcanSrvEds, hcanEdsGetNextBlockReplay,
      hiByte (nextHead mcu m it), loByte (nextHead mcu m it), m (nextHead mcu m it),
      m (nextHead mcu m it + 1)].getD i 0 := fun i hi => byte_payload _ _ _ _ _ hi
  have hrecv := recvReplay_edsAnswer c.dst (c.sendGetNextBlock it) hcanEdsGetNextBlockReplay
    [hiByte (nextHead mcu m it), loByte (nextHead mcu m it), m (nextHead mcu m it),
      m (nextHead mcu m it + 1)] (by simp)
  rw [getNextBlock, hanswer]
  simp only [List.length_cons, List.length_nil] at hrecv
  simp only [hrecv, hbyte 2 (by omega), hbyte 3 (by omega), hbyte 4 (by omega),
    hbyte 5 (by omega)]
  show Except.ok (word (hiByte _) (loByte _), _, _) = _
  rw [word_hiByte_loByte (by omega)]
  rfl

/-- Behind a block comes the next one. -/
theorem nextHead_of_at {pre post : Blocks} {s t : Seg UInt8}
    (hh : EdsHeap mcu m (pre ++ s :: t :: post)) :
    nextHead mcu m (edsDataStart + span 2 pre)
      = edsDataStart + span 2 pre + (2 + s.size) := by
  have hats : BlockAt (pre ++ s :: t :: post) (edsDataStart + span 2 pre) s :=
    ⟨pre, t :: post, rfl, rfl⟩
  have hatt : BlockAt (pre ++ s :: t :: post) (edsDataStart + span 2 (pre ++ [s])) t :=
    ⟨pre ++ [s], post, by simp, rfl⟩
  have hlt := hh.lt_edsEnd hatt
  rw [span_snoc, ← Nat.add_assoc] at hlt
  have hpos : 0 < edsDataStart := by decide
  rw [nextHead_of_ne (by omega), hh.next_eq hats, if_neg (by omega)]

/-- Behind the last block comes 0. -/
theorem nextHead_last {pre : Blocks} {s : Seg UInt8} (hh : EdsHeap mcu m (pre ++ [s])) :
    nextHead mcu m (edsDataStart + span 2 pre) = 0 := by
  have hat : BlockAt (pre ++ [s]) (edsDataStart + span 2 pre) s := ⟨pre, [], rfl, rfl⟩
  have hends := hh.ends
  rw [span_snoc] at hends
  have hpos : 0 < edsDataStart := by decide
  rw [nextHead_of_ne (by omega), hh.next_eq hat, if_pos (by omega)]

/-- The host, at the block `s`, is led past all blocks behind it. -/
theorem yields_behind (c : EdsConnection) (post : Blocks) :
    ∀ (pre : Blocks) (s : Seg UInt8), EdsHeap mcu m (pre ++ s :: post) →
      Yields (getNextBlock mcu c m) (fun it => it == 0) (edsDataStart + span 2 pre)
        ((starts 2 (edsDataStart + span 2 pre + (2 + s.size)) post ++ [0]).map (blockInfo m)) := by
  induction post with
  | nil =>
      intro pre s hh
      have hlt := hh.addr_lt ⟨pre, [], rfl, rfl⟩
      have hnext : getNextBlock mcu c m (edsDataStart + span 2 pre) = .ok (blockInfo m 0) := by
        rw [getNextBlock_eq c (by omega), nextHead_last hh]
      exact .last hnext rfl
  | cons t post ih =>
      intro pre s hh
      have hlt := hh.addr_lt ⟨pre, t :: post, rfl, rfl⟩
      have hnext : getNextBlock mcu c m (edsDataStart + span 2 pre)
          = .ok (blockInfo m (edsDataStart + span 2 pre + (2 + s.size))) := by
        rw [getNextBlock_eq c (by omega), nextHead_of_at hh]
      refine .more hnext ?_ ?_
      · show (_ == 0) = false
        rw [beq_eq_false_iff_ne]
        have hpos : 0 < edsDataStart := by decide
        show edsDataStart + span 2 pre + (2 + s.size) ≠ 0
        omega
      · have htail := ih (pre ++ [s]) t (by simpa using hh)
        rw [span_snoc, ← Nat.add_assoc] at htail
        exact htail

/-- **The replies**: every block of the heap in the order of the addresses, and
the end. -/
theorem yields_heap (c : EdsConnection) (hh : EdsHeap mcu m bs) :
    Yields (getNextBlock mcu c m) (fun it => it == 0) 0
      ((starts 2 edsDataStart bs ++ [0]).map (blockInfo m)) := by
  cases bs with
  | nil =>
      have hends := hh.ends
      cases mcu <;> cases hends
  | cons s bs =>
      have hat : BlockAt (s :: bs) edsDataStart s := ⟨[], bs, rfl, rfl⟩
      have hlt := hh.lt_edsEnd hat
      have hnext : getNextBlock mcu c m 0 = .ok (blockInfo m edsDataStart) := by
        have hhead : nextHead mcu m 0 = edsDataStart := if_neg (by simpa using hlt)
        rw [getNextBlock_eq c (by omega), hhead]
      exact .more hnext rfl (yields_behind c bs [] s hh)

/-! ## The three loops -/

/-- What `update` makes of the block at `a`. -/
def hostBlock (descs : List EdsBlockDesc) (m : Eeprom) (a : Nat) : Option EdsBlock :=
  if m a = 0 then none
  else
    match getBlockDescByType descs (m a) with
    | .ok d => some ⟨a, m a, m (a + 1), d⟩
    | .error _ => none

theorem updateBody_blockInfo {descs : List EdsBlockDesc} (c : EdsConnection)
    (blocks : List EdsBlock) {a : Nat} (ha : a ≠ 0) (hlt : a < 65532) :
    updateBody descs mcu c m blocks (blockInfo m a)
      = blocks ++ (hostBlock descs m a).toList := by
  unfold updateBody hostBlock
  show (if a ≠ 0 ∧ m a ≠ 0 then _ else _) = _
  by_cases htype : m a = 0
  · rw [if_neg fun h => h.2 htype, if_pos htype]
    simp
  · rw [if_pos ⟨ha, htype⟩, if_neg htype]
    show (match edsBlock descs mcu c m a with
      | .ok block => blocks ++ [block]
      | .error _ => blocks) = _
    cases hd : getBlockDescByType descs (m a) with
    | ok d => rw [edsBlock_eq c hlt hd]; simp
    | error e => rw [edsBlock_undescribed c hlt hd]; simp

/-- The heads of a heap are addresses of the EEPROM behind the first ones. -/
theorem starts_bounds (hh : EdsHeap mcu m bs) {a : Nat} (ha : a ∈ starts 2 edsDataStart bs) :
    a ≠ 0 ∧ a < 65532 := by
  obtain ⟨s, hat⟩ := mem_starts.mp ha
  have hlt := hh.lt_edsEnd hat
  have hend := edsEnd_le mcu
  have hbase := (hh.bounds hat).1
  have hpos : 0 < edsDataStart := by decide
  omega

/-- **Every loop ends**, and its body has seen the blocks in their order. -/
theorem blockLoop_eq {σ : Type} (c : EdsConnection) (hh : EdsHeap mcu m bs)
    (body : σ → BlockInfo → σ) (hend : ∀ acc, body acc (blockInfo m 0) = acc)
    {fuel : Nat} (hfuel : bs.length < fuel) (init : σ) :
    blockLoop mcu c m body fuel init = some (.ok
      ((starts 2 edsDataStart bs).foldl (fun acc a => body acc (blockInfo m a)) init)) := by
  have hlen : ((starts 2 edsDataStart bs ++ [0]).map (blockInfo m)).length ≤ fuel := by
    rw [List.length_map, List.length_append, length_starts]
    exact hfuel
  have hloop := (yields_heap c hh).cursorLoop_eq body hlen init
  rw [List.foldl_map, List.foldl_append] at hloop
  rw [blockLoop, hloop, List.foldl_cons, List.foldl_nil, hend]

/-- `update` leaves the blocks of described types, in the order of their addresses. -/
theorem update_eq (c : EdsConnection) (descs : List EdsBlockDesc) (hh : EdsHeap mcu m bs)
    {fuel : Nat} (hfuel : bs.length < fuel) :
    update descs mcu c m fuel
      = some (.ok (c.withBlocks ((starts 2 edsDataStart bs).filterMap (hostBlock descs m)))) := by
  rw [update, blockLoop_eq c hh _ (fun _ => rfl) hfuel,
    foldl_collect (f := hostBlock descs m) [] fun a ha acc =>
      updateBody_blockInfo c acc (starts_bounds hh ha).1 (starts_bounds hh ha).2]
  rfl

/-- **The host's view refines the chain of blocks.** The three loops end after
they have come by every block head exactly once, in the order of the addresses;
`update` knows the allocated blocks of described types then, and the free and
the used space and the headers are all of the EEPROM behind `EDS_DATA_START`. -/
theorem hostView_refines (c : EdsConnection) (descs : List EdsBlockDesc)
    (hh : EdsHeap mcu m bs) :
    ∃ heads : List Nat,
      heads.Pairwise (· < ·) ∧ (∀ a, a ∈ heads ↔ IsBlockHead mcu m a) ∧
        ∀ fuel, heads.length < fuel →
          visited mcu c m fuel = some (.ok heads) ∧
            update descs mcu c m fuel
              = some (.ok (c.withBlocks (heads.filterMap (hostBlock descs m)))) ∧
            ∃ free used, spaceFree mcu c m fuel = some (.ok free) ∧
              spaceUsed mcu c m fuel = some (.ok used) ∧
              free + used + 2 * heads.length = edsEnd mcu + 1 - edsDataStart := by
  refine ⟨starts 2 edsDataStart bs, starts_pairwise (by decide) _ _, ?_, ?_⟩
  · intro a
    rw [mem_starts, hh.isBlockHead_iff]
  · intro fuel hfuel
    rw [length_starts] at hfuel
    refine ⟨?_, update_eq c descs hh hfuel, _, _, blockLoop_eq c hh _ (fun _ => rfl) hfuel 0,
      blockLoop_eq c hh _ (fun _ => rfl) hfuel 0, ?_⟩
    · have hcollect : (starts 2 edsDataStart bs).foldl
            (fun l a => if (blockInfo m a).1 ≠ 0 then l ++ [(blockInfo m a).1] else l) []
          = [] ++ (starts 2 edsDataStart bs).filterMap some :=
        foldl_collect [] fun a ha acc => if_pos (starts_bounds hh ha).1
      rw [visited, blockLoop_eq c hh _ (fun _ => rfl) hfuel, hcollect, List.filterMap_some,
        List.nil_append]
    · rw [foldl_share (f := edsBlockSize m) 0 0]
      · have hsum := hh.lays.sum_starts
        have hends := hh.ends
        rw [length_starts]
        omega
      · intro a ha x y
        have hne := (starts_bounds hh ha).1
        have hlt := (starts_bounds hh ha).2
        rw [edsBlockSize_eq (by omega)]
        show (if a ≠ 0 ∧ m a = 0 then x + (m (a + 1)).toNat else x)
          + (if a ≠ 0 ∧ m a ≠ 0 then y + (m (a + 1)).toNat else y) = _
        by_cases htype : m a = 0
        · rw [if_pos ⟨hne, htype⟩, if_neg fun h => h.2 htype]
          omega
        · rw [if_neg fun h => htype h.2, if_pos ⟨hne, htype⟩]
          omega

/-- A freshly formatted board. -/
theorem hostView_refines_format :
    ∃ heads, visited .atmega32 ⟨900, 1, []⟩ (edsFormat .atmega32 fun _ => 255) (heads.length + 1)
        = some (.ok heads) ∧
      ∀ a, a ∈ heads ↔ IsBlockHead .atmega32 (edsFormat .atmega32 fun _ => 255) a := by
  obtain ⟨bs, hh, _⟩ := edsFormat_heap .atmega32 fun _ => 255
  obtain ⟨heads, _, hmem, hloops⟩ := hostView_refines ⟨900, 1, []⟩ [] hh
  exact ⟨heads, (hloops _ (Nat.lt_succ_self _)).1, hmem⟩

end OpenHcan.Host
