import Mathlib.Data.Nat.Digits.Defs
import OpenHcan.Canix.EdsPlacement
import OpenHcan.Host.EdsTable

/-!
# ShowConf — a dumped configuration, executed on another board

`show conf` prints one line after the other, and `eds_exec_cmd` takes one line
after the other: what the lines of a block do to a session is proved first, and
from it what the whole dump does, block after block.
-/

namespace OpenHcan.Host

open Eds Lib Lib.Tiling

/-! ## Lines -/

/-- The line that sets a field to the value it has in the block at `address`. -/
def fieldLine (m : Eeprom) (address : Nat) (f : FieldDesc) : List Char :=
  setLine f.name (fieldValue m address f).print

def blockLines (m : Eeprom) (b : EdsBlock) (fs : List FieldDesc) : List (List Char) :=
  addressLine b.address :: createLine b.desc.name :: (fs.map (fieldLine m b.address) ++ [exitLine])

/-- The lines of `show conf`. -/
def confLines (table : List BlockDesc) (m : Eeprom) (blocks : List EdsBlock) : List (List Char) :=
  blocks.flatMap fun b => blockLines m b (fields table b)

/-- One line after the other through `eds_exec_cmd`. -/
def execLines (table : List BlockDesc) (mcu : Mcu) (s : EdsSession) (lines : List (List Char)) :
    EdsSession :=
  lines.foldl (fun s line => (edsExecCmd table mcu s line).2) s

variable {mcu : Mcu} {m : Eeprom} {s : EdsSession}

theorem execLines_cons (table : List BlockDesc) (line : List Char) (lines : List (List Char)) :
    execLines table mcu s (line :: lines)
      = execLines table mcu (edsExecCmd table mcu s line).2 lines := rfl

theorem execLines_append (table : List BlockDesc) (ls lines : List (List Char)) :
    execLines table mcu s (ls ++ lines)
      = execLines table mcu (execLines table mcu s ls) lines := List.foldl_append

/-- Behind a word there is a blank. -/
theorem isspace_of_blank {r : List Char} (ch : Char) (r' : List Char) (h : ' ' :: r = ch :: r') :
    isspace ch = true := by
  rw [← (List.cons.inj h).1]
  rfl

/-- A comment is no command. -/
theorem exec_address (table : List BlockDesc) (a : Nat) :
    (edsExecCmd table mcu s (addressLine a)).2 = s := by
  have hword : extract [] (addressLine a)
      = (['#'], ' ' :: ("EDS-Address: ".toList ++ printU a)) := by
    have hname : IsName ['#'] := by decide
    exact @extract_word [] ['#'] _ (by simp) hname.noSpace hname.ne_nil isspace_of_blank []
  rw [edsExecCmd, hword]
  obtain ⟨con, eeprom, mode, blockAddress⟩ := s
  cases mode <;> rfl

theorem exec_create (table : List BlockDesc) {name : String} (hname : IsName name.toList) :
    (edsExecCmd table mcu s (createLine name)).2 = edsCmdCreate table mcu s name.toList := by
  have hword : extract [] (createLine name) = ("create".toList, ' ' :: name.toList) := by
    have hcreate : IsName "create".toList := by decide
    exact @extract_word [] _ _ (by simp) hcreate.noSpace hcreate.ne_nil isspace_of_blank []
  have harg : extract "create".toList (' ' :: name.toList) = (name.toList, []) := by
    have := @extract_word [' '] name.toList [] (by simp [isspace]) hname.noSpace hname.ne_nil
      (fun _ _ h => (List.cons_ne_nil _ _ h.symm).elim) "create".toList
    rwa [List.append_nil] at this
  rw [edsExecCmd, hword]
  show edsCmdCreate table mcu s (extract "create".toList (' ' :: name.toList)).1 = _
  rw [harg]

theorem exec_exit (table : List BlockDesc) (hmode : s.mode = .edit) :
    (edsExecCmd table mcu s exitLine).2 = ⟨s.con, s.eeprom, .normal, s.blockAddress⟩ := by
  obtain ⟨con, eeprom, mode, blockAddress⟩ := s
  cases hmode
  rfl

theorem exec_set (table : List BlockDesc) (hmode : s.mode = .edit) {name : List Char}
    (hname : IsName name) (value : List Char) :
    (edsExecCmd table mcu s (setLine name value)).2
      = edsCmdSetField table mcu s s.blockAddress name (squeeze true value) := by
  have hword : extract [] (setLine name value) = ("set".toList, ' ' :: (name ++ ' ' :: value)) := by
    have hline : setLine name value
        = "  ".toList ++ ("set".toList ++ ' ' :: (name ++ ' ' :: value)) := rfl
    rw [hline]
    have hset : IsName "set".toList := by decide
    exact @extract_word "  ".toList _ _ (by simp [isspace]) hset.noSpace hset.ne_nil
      isspace_of_blank []
  have hkey : extract "set".toList (' ' :: (name ++ ' ' :: value)) = (name, ' ' :: value) :=
    @extract_word [' '] name (' ' :: value) (by simp [isspace]) hname.noSpace hname.ne_nil
      isspace_of_blank _
  have hvalue : unwords (restWords ((' ' :: value).length + 1) (' ' :: value))
      = squeeze true value := unwords_restWords _ _ (Nat.lt_succ_self _)
  rw [edsExecCmd, hword]
  obtain ⟨con, eeprom, mode, blockAddress⟩ := s
  cases hmode
  show edsCmdSetField table mcu _ blockAddress
    (extract "set".toList (' ' :: (name ++ ' ' :: value))).1
    (unwords (restWords ((extract "set".toList (' ' :: (name ++ ' ' :: value))).2.length + 1)
      (extract "set".toList (' ' :: (name ++ ' ' :: value))).2)) = _
  rw [hkey, hvalue]

/-! ## The lines of a block -/

/-- **The lines of the fields** store every value, and change nothing outside of the
fields. -/
theorem exec_fields (table : EdsTable) {b : EdsBlock} {d : BlockDesc} (hd : d ∈ table.blocks)
    (htype : b.type = d.type) (haddr : b.address < 65000) (m : Eeprom) (a : Nat) :
    ∀ (fs : List FieldDesc) (pos : Nat) (s : EdsSession), FieldDesc.Tiles pos fs d.size →
      (∀ f ∈ fs, f ∈ d.fields) → s.mode = .edit → s.blockAddress = b.address →
      blockByAddress s.con b.address = .ok b →
      ∃ m', execLines table.blocks mcu s (fs.map (fieldLine m a)) = s.withEeprom m' ∧
        (∀ f ∈ fs, Stored m' b.address f (fieldValue m a f)) ∧
        ∀ q, q < b.address + (pos + 2) ∨ b.address + (d.size + 2) ≤ q → m' q = s.eeprom q := by
  intro fs
  induction fs with
  | nil =>
      intro pos s _ _ _ _ _
      exact ⟨s.eeprom, rfl, fun f hf => (List.not_mem_nil hf).elim, fun q _ => rfl⟩
  | cons f fs ih =>
      intro pos s ht hfs hmode hblock hb
      rw [List.forall_mem_cons] at hfs
      have hbounds := ht.bounds List.mem_cons_self
      obtain ⟨hpos, hwidth, hrest⟩ := ht
      obtain ⟨m1, hset, hstored, hframe1⟩ :=
        edsCmdSetField_stores table mcu hb rfl hd htype hfs.1 haddr m a
      obtain ⟨m2, hrun, hall, hframe2⟩ :=
        ih (pos + f.width) (s.withEeprom m1) hrest hfs.2 hmode hblock hb
      refine ⟨m2, ?_, ?_, fun q hq => ?_⟩
      · rw [List.map_cons, execLines_cons, fieldLine,
          exec_set table.blocks hmode ((table.sound d hd).fieldName f hfs.1), hblock, hset, hrun]
        rfl
      · rw [List.forall_mem_cons]
        refine ⟨?_, hall⟩
        have hlen := length_setBytes_le hwidth m a
        refine (cells_congr fun q h1 h2 => hframe2 q (.inl ?_)).trans hstored
        omega
      · rw [hframe2 q (by omega)]
        exact hframe1 q (by omega)

/-! ## Creating a block -/

/-- The host knows `b`, and `d` describes it. -/
structure Known (table : EdsTable) (b : EdsBlock) (d : BlockDesc) : Prop where
  mem : d ∈ table.blocks
  type : b.type = d.type
  desc : b.desc = d.toEdsBlockDesc
  size : b.size.toNat = d.size

/-- The block at another address. -/
def EdsBlock.movedTo (b : EdsBlock) (a : Nat) : EdsBlock := ⟨a, b.type, b.size, b.desc⟩

theorem find?_name (table : EdsTable) {d : BlockDesc} (hd : d ∈ table.blocks) :
    (headers table.blocks).find? (fun e => e.name = d.name) = some d.toEdsBlockDesc := by
  refine find?_of_pairwise EdsBlockDesc.name ?_ (List.mem_map_of_mem hd)
  exact List.pairwise_map.mpr table.names

theorem getBlockDescByType_eq (table : EdsTable) {d : BlockDesc} (hd : d ∈ table.blocks) :
    getBlockDescByType (headers table.blocks) d.type = .ok d.toEdsBlockDesc := by
  have hfind : (headers table.blocks).find? (fun e => e.type = d.type) = some d.toEdsBlockDesc := by
    refine find?_of_pairwise EdsBlockDesc.type ?_ (List.mem_map_of_mem hd)
    exact List.pairwise_map.mpr table.types
  rw [getBlockDescByType, hfind]

/-- The board's answer to `send_ALLOCATE_BLOCK` carries the address of the new block. -/
theorem sendAllocateBlock_eq (mcu : Mcu) (c : EdsConnection) (m : Eeprom) (type : UInt8)
    (size : Nat) {a : Nat} (ha : (edsAlloc mcu m (UInt8.ofNat size)).1 = a) (hlt : a < 65536) :
    ∃ f, edsCanCallback mcu c.dst m (c.sendAllocateBlock type size)
        = (edsSetBlockType (edsAlloc mcu m (UInt8.ofNat size)).2 a type, some f) ∧
      recvReplay c.dst hcanSrvEds hcanEdsAllocateBlockReplay 2 (some f) = .ok f ∧
      word (f.byte 2) (f.byte 3) = a := by
  have hframe : (c.sendAllocateBlock type size).byte 1 = hcanEdsAllocateBlock := rfl
  have htype : (c.sendAllocateBlock type size).byte 2 = type := rfl
  have hsize : (c.sendAllocateBlock type size).byte 3 = UInt8.ofNat size := rfl
  refine ⟨edsAnswer c.dst (c.sendAllocateBlock type size)
    [hcanEdsAllocateBlockReplay, hiByte a, loByte a], Prod.ext ?_ ?_, ?_, ?_⟩
  · rw [edsCanCallback_eeprom, if_pos hframe, hsize, htype, ha]
  · rw [edsCanCallback_allocate hframe, hsize, ha]
  · exact recvReplay_edsAnswer c.dst _ _ [hiByte a, loByte a] (by simp)
  · have h2 : (edsAnswer c.dst (c.sendAllocateBlock type size)
        [hcanEdsAllocateBlockReplay, hiByte a, loByte a]).byte 2 = hiByte a :=
      byte_payload _ _ _ _ _ (by decide)
    have h3 : (edsAnswer c.dst (c.sendAllocateBlock type size)
        [hcanEdsAllocateBlockReplay, hiByte a, loByte a]).byte 3 = loByte a :=
      byte_payload _ _ _ _ _ (by decide)
    rw [h2, h3, word_hiByte_loByte hlt]

/-- A block at an address that no other has is found there. -/
theorem blockByAddress_new (c : EdsConnection) {b : EdsBlock}
    (h : ∀ b' ∈ c.blocks, b'.address ≠ b.address) :
    blockByAddress (c.withBlocks (c.blocks ++ [b])) b.address = .ok b := by
  have hfind : (c.blocks ++ [b]).find? (fun b' => b'.address = b.address) = some b := by
    rw [List.find?_append, List.find?_eq_none.mpr, Option.none_or]
    · exact List.find?_cons_of_pos (decide_eq_true rfl)
    · intro b' hb' heq
      exact h b' hb' (of_decide_eq_true heq)
  simp only [blockByAddress, EdsConnection.withBlocks, hfind]

/-- `create` in a memory that has room: the host knows the block the board has made. -/
theorem edsCmdCreate_eq (table : EdsTable) {b : EdsBlock} {d : BlockDesc} (hb : Known table b d)
    {a : Nat} (ha : (edsAlloc mcu s.eeprom b.size).1 = a) (hlt : a < 65532)
    (htype : edsSetBlockType (edsAlloc mcu s.eeprom b.size).2 a b.type a = b.type)
    (hsize : edsSetBlockType (edsAlloc mcu s.eeprom b.size).2 a b.type (a + 1) = b.size)
    (hnew : ∀ b' ∈ s.con.blocks, b'.address ≠ a) :
    edsCmdCreate table.blocks mcu s d.name.toList
      = ⟨s.con.withBlocks (s.con.blocks ++ [b.movedTo a]),
          edsSetBlockType (edsAlloc mcu s.eeprom b.size).2 a b.type, .edit, a⟩ := by
  have hbyte : UInt8.ofNat d.size = b.size := by rw [← hb.size, UInt8.ofNat_toNat]
  obtain ⟨f, hboard, hrecv, hword⟩ := sendAllocateBlock_eq mcu s.con s.eeprom d.type d.size
    (hbyte ▸ ha) (Nat.lt_trans hlt (by decide))
  have hmade : edsCanCallback mcu s.con.dst s.eeprom (s.con.sendAllocateBlock d.type d.size)
      = (edsSetBlockType (edsAlloc mcu s.eeprom b.size).2 a b.type, some f) := by
    rw [hboard, hbyte, hb.type]
  generalize edsSetBlockType (edsAlloc mcu s.eeprom b.size).2 a b.type = m' at *
  have hdesc : getBlockDescByType (headers table.blocks) (m' a) = .ok b.desc := by
    rw [htype, hb.type, hb.desc]
    exact getBlockDescByType_eq table hb.mem
  have hblock := @edsBlock_eq mcu _ _ s.con a hlt _ hdesc
  rw [htype, hsize] at hblock
  have hfound := @blockByAddress_new s.con (b.movedTo a) hnew
  rw [edsCmdCreate, createBlock, String.ofList_toList, find?_name table hb.mem]
  simp only [hmade, hrecv, hword, hblock]
  unfold EdsConnection.withBlocks EdsBlock.movedTo at hfound
  simp only [hfound]
  rfl

/-- **A new block**: the board finds room for it where a board without the data does, and
the host knows it there. -/
theorem edsCmdCreate_places (table : EdsTable) {b : EdsBlock} {d : BlockDesc}
    (hb : Known table b d) {bs : Blocks} {dry : Eeprom} (hm : EdsHeap mcu s.eeprom bs)
    (hdry : EdsHeap mcu dry bs) {a : Nat} (ha : (edsAlloc mcu dry b.size).1 = a) (hok : a ≠ 0)
    (hused : ∀ b' ∈ s.con.blocks, ∃ t, t.tag ≠ 0 ∧ BlockAt bs b'.address t) :
    ∃ m' cs, edsCmdCreate table.blocks mcu s d.name.toList
        = ⟨s.con.withBlocks (s.con.blocks ++ [b.movedTo a]), m', .edit, a⟩ ∧
      blockByAddress (s.con.withBlocks (s.con.blocks ++ [b.movedTo a])) a = .ok (b.movedTo a) ∧
      Placed mcu s.eeprom bs m' cs a b.type b.size ∧
      EdsHeap mcu (edsSetBlockType (edsAlloc mcu dry b.size).2 a b.type) cs := by
  subst ha
  obtain ⟨cs, hplaced, hdry'⟩ := @edsAlloc_placed mcu s.eeprom dry bs b.type b.size hm hdry hok
  have hsame := edsAlloc_congr hm hdry b.size
  have hlt := hplaced.heap.lt_edsEnd hplaced.blockAt
  have hend := edsEnd_le mcu
  have hsize := hplaced.heap.size_eq hplaced.blockAt
  rw [edsBlockSize_eq (by omega)] at hsize
  have hnew : ∀ b' ∈ s.con.blocks, b'.address ≠ (edsAlloc mcu dry b.size).1 := by
    intro b' hb' heq
    obtain ⟨t, ht, hat⟩ := hused b' hb'
    exact ht (hplaced.new t (heq ▸ hat))
  exact ⟨_, cs, edsCmdCreate_eq table hb hsame (by omega) (hplaced.heap.type_eq hplaced.blockAt)
    (UInt8.toNat_inj.mp hsize) hnew, blockByAddress_new s.con hnew, hplaced, hdry'⟩

/-! ## Block after block -/

/-- The blocks of `copies`, each with the address of its copy, are on the board of the
session, and nothing else is: the session knows them in this order, and every field holds
what was printed of it. `dry` is a memory with the same blocks but without their data. -/
structure Restored (table : EdsTable) (mcu : Mcu) (m : Eeprom) (s : EdsSession) (dry : Eeprom)
    (bs : Blocks) (copies : List (EdsBlock × Nat)) : Prop where
  heap : EdsHeap mcu s.eeprom bs
  dryHeap : EdsHeap mcu dry bs
  mode : s.mode = .normal
  blocks : s.con.blocks = copies.map fun p => p.1.movedTo p.2
  used : ∀ a t, t.tag ≠ 0 →
    (BlockAt bs a t ↔ ∃ p ∈ copies, p.2 = a ∧ t = ⟨p.1.type, p.1.size.toNat⟩)
  known : ∀ p ∈ copies, ∃ d, Known table p.1 d
  nodup : (copies.map Prod.snd).Nodup
  stored : ∀ p ∈ copies, ∀ f ∈ fields table.blocks p.1,
    Stored s.eeprom p.2 f (fieldValue m p.1.address f)

theorem Known.type_ne {table : EdsTable} {b : EdsBlock} {d : BlockDesc} (h : Known table b d) :
    b.type ≠ 0 := h.type ▸ (table.sound d h.mem).type_ne

variable {table : EdsTable} {dry : Eeprom} {bs : Blocks} {copies : List (EdsBlock × Nat)}

theorem Restored.blockAt (h : Restored table mcu m s dry bs copies) {p : EdsBlock × Nat}
    (hp : p ∈ copies) : BlockAt bs p.2 ⟨p.1.type, p.1.size.toNat⟩ := by
  obtain ⟨d, hd⟩ := h.known p hp
  exact (h.used p.2 ⟨p.1.type, p.1.size.toNat⟩ hd.type_ne).mpr ⟨p, hp, rfl, rfl⟩

/-- A stored value stays where the bytes of the block do not change. -/
theorem Stored.congr {m' m'' : Eeprom} {a : Nat} {f : FieldDesc} {d : BlockDesc} {a' : Nat}
    (hd : d.Sound) (hf : f ∈ d.fields) (h : Stored m' a f (fieldValue m a' f))
    (hag : ∀ q, a ≤ q → q < a + 2 + d.size → m'' q = m' q) :
    Stored m'' a f (fieldValue m a' f) := by
  have hbounds := hd.tiles.bounds hf
  have hlen := length_setBytes_le hbounds.1 m a'
  exact (cells_congr fun q h1 h2 => hag q (by omega) (by omega)).trans h

/-- What the lines of a block do: it is created, its fields are set, and the session is
where it was. -/
theorem exec_blockLines (h : Restored table mcu m s dry bs copies) {b : EdsBlock} {d : BlockDesc}
    (hb : Known table b d) {a : Nat} (ha : (edsAlloc mcu dry b.size).1 = a) (hok : a ≠ 0) :
    ∃ m1 m2 cs,
      execLines table.blocks mcu s (blockLines m b d.fields)
        = ⟨s.con.withBlocks (s.con.blocks ++ [b.movedTo a]), m2, .normal, a⟩ ∧
      Placed mcu s.eeprom bs m1 cs a b.type b.size ∧
      EdsHeap mcu (edsSetBlockType (edsAlloc mcu dry b.size).2 a b.type) cs ∧
      (∀ f ∈ d.fields, Stored m2 a f (fieldValue m b.address f)) ∧
      ∀ q, q < a + 2 ∨ a + 2 + b.size.toNat ≤ q → m2 q = m1 q := by
  have hused : ∀ b' ∈ s.con.blocks, ∃ t, t.tag ≠ 0 ∧ BlockAt bs b'.address t := by
    intro b' hb'
    rw [h.blocks] at hb'
    obtain ⟨p, hp, rfl⟩ := List.mem_map.mp hb'
    obtain ⟨d', hd'⟩ := h.known p hp
    exact ⟨_, hd'.type_ne, h.blockAt hp⟩
  obtain ⟨m1, cs, hcreate, hfound, hplaced, hdry⟩ :=
    edsCmdCreate_places table hb h.heap h.dryHeap ha hok hused
  have hsound := table.sound d hb.mem
  have hlt := hplaced.heap.lt_edsEnd hplaced.blockAt
  have hend := edsEnd_le mcu
  obtain ⟨m2, hrun, hstored, hframe⟩ := @exec_fields mcu table (b.movedTo a) d hb.mem
    hb.type (show a < 65000 by omega) m b.address d.fields 0
    ⟨s.con.withBlocks (s.con.blocks ++ [b.movedTo a]), m1, .edit, a⟩ hsound.tiles (fun f hf => hf)
    rfl rfl hfound
  refine ⟨m1, m2, cs, ?_, hplaced, hdry, hstored, fun q hq => ?_⟩
  · rw [blockLines, hb.desc, execLines_cons, exec_address, execLines_cons,
      exec_create table.blocks hsound.name, hcreate, execLines_append, hrun]
    exact exec_exit table.blocks rfl
  · have hsize := hb.size
    exact hframe q (by show q < a + (0 + 2) ∨ a + (d.size + 2) ≤ q; omega)

/-- **The lines of a block** put a copy of it on the board. -/
theorem exec_block (h : Restored table mcu m s dry bs copies) {b : EdsBlock} {d : BlockDesc}
    (hb : Known table b d) {a : Nat} (ha : (edsAlloc mcu dry b.size).1 = a) (hok : a ≠ 0) :
    ∃ cs, Restored table mcu m
      (execLines table.blocks mcu s (blockLines m b (fields table.blocks b)))
      (edsSetBlockType (edsAlloc mcu dry b.size).2 a b.type) cs (copies ++ [(b, a)]) := by
  obtain ⟨m1, m2, cs, hexec, hplaced, hdry, hstored, hframe⟩ := exec_blockLines h hb ha hok
  rw [fields_eq table hb.mem hb.type, hexec]
  have hne : ∀ p ∈ copies, p.2 ≠ a := by
    intro p hp heq
    obtain ⟨d', hd'⟩ := h.known p hp
    exact hd'.type_ne (hplaced.new _ (heq ▸ h.blockAt hp))
  refine ⟨cs, ⟨?_, hdry, rfl, ?_, ?_, ?_, ?_, ?_⟩⟩
  · refine hplaced.heap.congr fun b' t hat => ?_
    have hdis : (b' = a ∧ t = ⟨b.type, b.size.toNat⟩) ∨ b' + (2 + t.size) ≤ a ∨
        a + (2 + b.size.toNat) ≤ b' := hat.disjoint hplaced.blockAt
    exact ⟨hframe b' (by omega), hframe (b' + 1) (by omega)⟩
  · show s.con.blocks ++ [b.movedTo a] = _
    rw [h.blocks, List.map_append]
    rfl
  · intro a' t ht
    rw [hplaced.used a' t ht, h.used a' t ht]
    simp only [List.mem_append, List.mem_singleton, or_and_right, exists_or, exists_eq_left]
    rw [eq_comm (a := a')]
  · intro p hp
    rcases List.mem_append.mp hp with hp | hp
    · exact h.known p hp
    · rw [List.mem_singleton.mp hp]
      exact ⟨d, hb⟩
  · rw [List.map_append, List.nodup_append]
    refine ⟨h.nodup, List.nodup_singleton a, ?_⟩
    intro a' ha' a'' ha'' heq
    obtain ⟨p, hp, rfl⟩ := List.mem_map.mp ha'
    exact hne p hp (heq.trans (List.mem_singleton.mp ha''))
  · intro p hp f hf
    rcases List.mem_append.mp hp with hp | hp
    · obtain ⟨d', hd'⟩ := h.known p hp
      have hat := h.blockAt hp
      have hat' := (hplaced.used _ _ hd'.type_ne).mpr (.inl hat)
      have hfield := hf
      rw [fields_eq table hd'.mem hd'.type] at hfield
      refine (h.stored p hp f hf).congr (table.sound d' hd'.mem) hfield fun q h1 h2 => ?_
      rw [← hd'.size] at h2
      have hpa := hne p hp
      have hdis : (p.2 = a ∧ _) ∨ p.2 + (2 + p.1.size.toNat) ≤ a ∨ a + (2 + b.size.toNat) ≤ p.2 :=
        hat'.disjoint hplaced.blockAt
      exact (hframe q (by omega)).trans (hplaced.keeps _ _ hat hd'.type_ne q h1 h2)
    · rw [List.mem_singleton.mp hp] at hf ⊢
      rw [fields_eq table hb.mem hb.type] at hf
      exact hstored f hf

/-- Where first fit puts copies of the blocks. -/
def places (mcu : Mcu) (blocks : List EdsBlock) (dry : Eeprom) : List Nat :=
  allocAll mcu (blocks.map fun b => (b.type, b.size)) dry

theorem places_cons (b : EdsBlock) (blocks : List EdsBlock) :
    places mcu (b :: blocks) dry = (edsAlloc mcu dry b.size).1 ::
      places mcu blocks (edsSetBlockType (edsAlloc mcu dry b.size).2 (edsAlloc mcu dry b.size).1
        b.type) := rfl

theorem length_places (blocks : List EdsBlock) :
    ∀ dry, (places mcu blocks dry).length = blocks.length := by
  induction blocks with
  | nil => intro dry; rfl
  | cons b blocks ih => intro dry; rw [places_cons, List.length_cons, ih, List.length_cons]

/-- **The lines of the dump** copy block after block. -/
theorem exec_confLines (blocks : List EdsBlock) :
    ∀ (s : EdsSession) (dry : Eeprom) (bs : Blocks) (copies : List (EdsBlock × Nat)),
      Restored table mcu m s dry bs copies → (∀ b ∈ blocks, ∃ d, Known table b d) →
      0 ∉ places mcu blocks dry →
      ∃ dry' bs', Restored table mcu m
        (execLines table.blocks mcu s (confLines table.blocks m blocks)) dry' bs'
        (copies ++ blocks.zip (places mcu blocks dry)) := by
  induction blocks with
  | nil =>
      intro s dry bs copies h _ _
      refine ⟨dry, bs, ?_⟩
      rw [List.zip_nil_left, List.append_nil]
      exact h
  | cons b blocks ih =>
      intro s dry bs copies h hknown hspace
      rw [List.forall_mem_cons] at hknown
      rw [places_cons, List.mem_cons, not_or] at hspace
      obtain ⟨d, hb⟩ := hknown.1
      obtain ⟨cs, hstep⟩ := exec_block h hb rfl (Ne.symm hspace.1)
      obtain ⟨dry', bs', hrest⟩ := ih _ _ cs _ hstep hknown.2 hspace.2
      refine ⟨dry', bs', ?_⟩
      rw [confLines, List.flatMap_cons, execLines_append, places_cons, List.zip_cons_cons,
        List.append_cons]
      exact hrest

/-! ## The text of the dump -/

theorem printAll_eq {α : Type} {print : α → Except String (List Char)} {g : α → List Char} :
    ∀ {l : List α}, (∀ x ∈ l, print x = .ok (g x)) → printAll print l = .ok (l.flatMap g)
  | [], _ => rfl
  | x :: l, h => by
      rw [List.forall_mem_cons] at h
      rw [printAll, h.1, printAll_eq h.2]
      rfl

theorem unlines_cons (line : List Char) (lines : List (List Char)) :
    unlines (line :: lines) = line ++ '\n' :: unlines lines := by
  rw [unlines, List.flatMap_cons, List.append_assoc]
  rfl

theorem unlines_append (ls lines : List (List Char)) :
    unlines (ls ++ lines) = unlines ls ++ unlines lines := List.flatMap_append

theorem showBlock_eq {b : EdsBlock} {d : BlockDesc} (hb : Known table b d) (c : EdsConnection)
    (haddr : b.address < 65000) :
    showBlock table.blocks mcu c m b = .ok (unlines (blockLines m b (fields table.blocks b))) := by
  have hall : ∀ f ∈ d.fields, showField mcu c m b.address d.fields f
      = .ok (fieldLine m b.address f ++ ['\n']) := by
    intro f hf
    rw [showField, printField_eq (table.sound d hb.mem) mcu c m haddr hf]
    rfl
  rw [showBlock, fields_eq table hb.mem hb.type, printAll_eq hall, blockLines, unlines_cons,
    unlines_cons, unlines_append, unlines, List.flatMap_map]
  rfl

/-- **`show conf` prints the lines**, each with its newline. -/
theorem edsCmdShowConf_eq {c : EdsConnection}
    (hknown : ∀ b ∈ c.blocks, (∃ d, Known table b d) ∧ b.address < 65000) :
    edsCmdShowConf table.blocks mcu c m "" = .ok (unlines (confLines table.blocks m c.blocks)) := by
  have hall : c.blocks.filter (fun b => "" = "" ∨ b.desc.name = "") = c.blocks := by
    rw [List.filter_eq_self]
    intro b _
    exact decide_eq_true (.inl rfl)
  rw [edsCmdShowConf, hall, printAll_eq fun b hb => by
    obtain ⟨⟨d, hd⟩, haddr⟩ := hknown b hb
    exact showBlock_eq hd c haddr]
  rw [unlines, confLines, List.flatMap_assoc]
  rfl

/-- The texts of the fields have no newline in them. -/
def OneLine (table : List BlockDesc) (m : Eeprom) (b : EdsBlock) : Prop :=
  ∀ f ∈ fields table b, f.datatype = .char → '\n' ∉ (fieldValue m b.address f).print

theorem IsName.newline_notMem {w : List Char} (h : IsName w) : '\n' ∉ w := by
  intro hmem
  exact absurd (h.noSpace '\n' hmem) (by decide)

theorem length_print_le {d : BlockDesc} (hd : d.Sound) {f : FieldDesc} (hf : f ∈ d.fields)
    (m : Eeprom) (a : Nat) : (fieldValue m a f).print.length ≤ 256 := by
  have hnumber : ∀ n, n < 65536 → (printU n).length ≤ 256 := by
    intro n hn
    exact Nat.le_trans (Nat.toDigits_length 10 n 5 (by decide) (by omega)) (by decide)
  unfold fieldValue
  cases hdata : f.datatype with
  | char =>
      have hsize := hd.size_lt hf hdata
      have hcells := length_cells m (a + (f.pos + 2)) (4 * ((f.size + 3) / 4))
      have htake := (List.takeWhile_sublist (fun b => b != 0)
        (l := cells m (a + (f.pos + 2)) (4 * ((f.size + 3) / 4)))).length_le
      simp only [FieldValue.print, List.length_map, cellText]
      omega
  | uint16 => exact hnumber _ (word_lt _ _)
  | uint8 =>
      have h0 := (m (a + (f.pos + 2))).toNat_lt
      exact hnumber _ (by omega)
  | other name =>
      have h0 := (m (a + (f.pos + 2))).toNat_lt
      exact hnumber _ (by omega)

/-- The lines fit the buffer of `getline`. -/
theorem blockLines_short {b : EdsBlock} {d : BlockDesc} (hb : Known table b d)
    (haddr : b.address < 65000) (hone : OneLine table.blocks m b) :
    ∀ line ∈ blockLines m b (fields table.blocks b), '\n' ∉ line ∧ line.length < 512 := by
  have hsound := table.sound d hb.mem
  unfold OneLine at hone
  rw [fields_eq table hb.mem hb.type] at hone ⊢
  unfold blockLines
  rw [List.forall_mem_cons, List.forall_mem_cons, List.forall_mem_append]
  refine ⟨⟨?_, ?_⟩, ⟨?_, ?_⟩, ?_, ?_⟩
  · unfold addressLine
    rw [List.mem_append, not_or]
    exact ⟨by decide, notMem_printU (by decide) _⟩
  · have hdigits := Nat.toDigits_length 10 b.address 5 (by decide) (by omega)
    have hword : "# EDS-Address: ".toList.length = 15 := rfl
    unfold addressLine printU
    rw [List.length_append]
    omega
  · unfold createLine
    rw [hb.desc, List.mem_append, not_or]
    exact ⟨by decide, hsound.name.newline_notMem⟩
  · have hlen := hsound.name.length_le
    have hword : "create ".toList.length = 7 := rfl
    unfold createLine
    rw [hb.desc, List.length_append]
    omega
  · intro line hline
    obtain ⟨f, hf, rfl⟩ := List.mem_map.mp hline
    have hname := hsound.fieldName f hf
    have hprint : '\n' ∉ (fieldValue m b.address f).print := by
      by_cases hchar : f.datatype = .char
      · exact hone f hf hchar
      · unfold fieldValue
        cases hdata : f.datatype with
        | char => exact absurd hdata hchar
        | _ => exact notMem_printU (by decide) _
    have hlen := hname.length_le
    have hvalue := length_print_le hsound hf m b.address
    unfold fieldLine setLine
    refine ⟨?_, ?_⟩
    · simp only [List.mem_append, List.mem_cons, not_or]
      exact ⟨⟨by decide, hname.newline_notMem⟩, by decide, hprint⟩
    · have hword : "  set ".toList.length = 6 := rfl
      simp only [List.length_append, List.length_cons]
      omega
  · simp only [List.mem_singleton, forall_eq]
    decide

end OpenHcan.Host
