import Mathlib.Data.List.Forall2
import OpenHcan.Host.ShowConf

/-!
# ConfRoundTrip — what the dump of a configuration brings back

A board is dumped, and the text is executed on another board that was formatted
before. Numbers come back. A string comes back unless `set` loses blanks of it: it
puts the words of the line together with one blank between them. The session
knows the blocks in the order of the dump; a host that asks the board anew finds them in
the order of their addresses, and these are up to first fit.
-/

namespace OpenHcan.Host

open Eds Lib Lib.Tiling

set_option maxRecDepth 100000

/-! ## What is compared -/

/-- `update` on the connection makes it know `blocks`. -/
def Lists (table : EdsTable) (mcu : Mcu) (c : EdsConnection) (m : Eeprom)
    (blocks : List EdsBlock) : Prop :=
  update (headers table.blocks) mcu c m (edsEnd mcu + 1) = some (.ok (c.withBlocks blocks))

/-- A string that ends in its field, of printable characters. -/
def IsString (m : Eeprom) (address : Nat) (f : FieldDesc) : Prop :=
  0 ∈ cells m (address + (f.pos + 2)) f.size ∧
    ∀ b ∈ cellText m (address + (f.pos + 2)) f.size, 32 ≤ b ∧ b ≤ 126

/-- A number, or a string. -/
def IsValue (m : Eeprom) (address : Nat) (f : FieldDesc) : Prop :=
  f.datatype = .char → IsString m address f

/-- The block `b'` in `m'` has the type of `b` in `m`, and its values. -/
def SameBlock (table : List BlockDesc) (m m' : Eeprom) (b b' : EdsBlock) : Prop :=
  b'.type = b.type ∧ ∀ f ∈ fields table b, IsValue m b.address f →
    fieldValue m' b'.address f = fieldValue m b.address f

/-- What a dump keeps of `b'` has the type and the values of `b`. -/
def KeptAs (table : List BlockDesc) (m : Eeprom) (b b' : EdsBlock) : Prop :=
  b'.type = b.type ∧ ∀ f ∈ fields table b, IsValue m b.address f →
    kept f (fieldValue m b'.address f) = fieldValue m b.address f

/-- No string of the blocks begins with a blank or has two of them in a row. -/
def TidyStrings (table : List BlockDesc) (m : Eeprom) (blocks : List EdsBlock) : Prop :=
  ∀ b ∈ blocks, ∀ f ∈ fields table b, f.datatype = .char → IsString m b.address f →
    Tidy true (fieldValue m b.address f).print

/-- The blocks and their new addresses, in the order of these. -/
def inOrder (copies : List (EdsBlock × Nat)) : List (EdsBlock × Nat) :=
  copies.mergeSort fun p q => p.2 ≤ q.2

/-- A session with a board that was just formatted. -/
def freshSession (c : EdsConnection) (mcu : Mcu) (m : Eeprom) (blockAddress : Nat) : EdsSession :=
  ⟨c.withBlocks [], edsFormat mcu m, .normal, blockAddress⟩

/-! ## Values -/

variable {table : EdsTable} {mcu : Mcu} {m : Eeprom} {s : EdsSession} {dry : Eeprom} {bs : Blocks}
  {copies : List (EdsBlock × Nat)}

theorem length_cellText_lt {a size : Nat} (h : 0 ∈ cells m a size) :
    (cellText m a size).length < size := by
  have hsplit : 4 * ((size + 3) / 4) = size + (4 * ((size + 3) / 4) - size) := by omega
  have hle := (List.takeWhile_prefix (fun b : UInt8 => b != 0) (l := cells m a size)).length_le
  have hne : ((cells m a size).takeWhile fun b => b != 0).length ≠ (cells m a size).length := by
    intro heq
    have hself := (List.takeWhile_prefix (fun b : UInt8 => b != 0)).eq_of_length heq
    exact absurd (List.takeWhile_eq_self_iff.mp hself 0 h) (by decide)
  rw [cellText, hsplit, cells_add, List.takeWhile_append, if_neg hne]
  rw [length_cells] at hle hne
  omega

/-- **A string is kept** iff it is tidy. -/
theorem kept_eq_iff {a : Nat} {f : FieldDesc} (hchar : f.datatype = .char) (h : IsString m a f) :
    kept f (fieldValue m a f) = fieldValue m a f ↔ Tidy true (fieldValue m a f).print := by
  have hlen := length_cellText_lt h.1
  unfold fieldValue
  simp only [hchar, kept, FieldValue.print, FieldValue.text.injEq]
  rw [← squeeze_eq_self_iff, List.take_of_length_le]
  refine Nat.le_trans (length_squeeze_le _ true) ?_
  rw [List.length_map]
  omega

/-- A number is kept. -/
theorem kept_number {a : Nat} {f : FieldDesc} (hchar : f.datatype ≠ .char) :
    kept f (fieldValue m a f) = fieldValue m a f := by
  unfold fieldValue
  cases hdata : f.datatype with
  | char => exact absurd hdata hchar
  | _ => rfl

/-- **The blocks are kept** iff their strings are tidy. -/
theorem keptAs_self_iff (table : List BlockDesc) (m : Eeprom) (blocks : List EdsBlock) :
    (∀ b ∈ blocks, KeptAs table m b b) ↔ TidyStrings table m blocks := by
  constructor
  · intro h b hb f hf hchar hstring
    exact (kept_eq_iff hchar hstring).mp ((h b hb).2 f hf fun _ => hstring)
  · intro h b hb
    refine ⟨rfl, fun f hf hvalue => ?_⟩
    by_cases hchar : f.datatype = .char
    · exact (kept_eq_iff hchar (hvalue hchar)).mpr (h b hb f hf hchar (hvalue hchar))
    · exact kept_number hchar

/-! ## The blocks of the session -/

/-- A copy has what is kept of its block. -/
theorem Restored.sameBlock_iff (h : Restored table mcu m s dry bs copies) {p : EdsBlock × Nat}
    (hp : p ∈ copies) (b : EdsBlock) :
    SameBlock table.blocks m s.eeprom b (p.1.movedTo p.2) ↔ KeptAs table.blocks m b p.1 := by
  obtain ⟨d, hd⟩ := h.known p hp
  have hvalue : ∀ f ∈ fields table.blocks p.1,
      fieldValue s.eeprom p.2 f = kept f (fieldValue m p.1.address f) := by
    intro f hf
    have hstored := h.stored p hp f hf
    rw [fields_eq table hd.mem hd.type] at hf
    exact hstored.fieldValue_eq ((table.sound d hd.mem).tiles.bounds hf).1
  have hfields : p.1.type = b.type → fields table.blocks b = fields table.blocks p.1 := by
    intro htype
    rw [fields, fields, htype]
  constructor
  · rintro ⟨htype, hsame⟩
    refine ⟨htype, fun f hf hval => ?_⟩
    rw [← hvalue f (hfields htype ▸ hf)]
    exact hsame f hf hval
  · rintro ⟨htype, hkept⟩
    refine ⟨htype, fun f hf hval => ?_⟩
    rw [← hkept f hf hval]
    exact hvalue f (hfields htype ▸ hf)

/-- **The session knows copies** that are what is kept of the blocks. -/
theorem Restored.known_iff (h : Restored table mcu m s dry bs copies) :
    List.Forall₂ (SameBlock table.blocks m s.eeprom) (copies.map Prod.fst) s.con.blocks
      ↔ TidyStrings table.blocks m (copies.map Prod.fst) := by
  rw [h.blocks, List.forall₂_map_left_iff, List.forall₂_map_right_iff, List.forall₂_same,
    ← keptAs_self_iff, List.forall_mem_map]
  exact forall₂_congr fun p hp => h.sameBlock_iff hp p.1

/-! ## The blocks of the board -/

/-- The host finds a copy where it was put. -/
theorem Restored.hostBlock_eq (h : Restored table mcu m s dry bs copies) {p : EdsBlock × Nat}
    (hp : p ∈ copies) :
    hostBlock (headers table.blocks) s.eeprom p.2 = some (p.1.movedTo p.2) := by
  obtain ⟨d, hd⟩ := h.known p hp
  have hat := h.blockAt hp
  have htype : s.eeprom p.2 = p.1.type := h.heap.type_eq hat
  have hsize := h.heap.size_eq hat
  rw [edsBlockSize_eq (h.heap.addr_lt hat)] at hsize
  have hdesc := getBlockDescByType_eq table hd.mem
  rw [← hd.type, ← hd.desc] at hdesc
  rw [hostBlock, htype, if_neg hd.type_ne, hdesc, UInt8.toNat_inj.mp hsize]
  rfl

theorem hostBlock_address {descs : List EdsBlockDesc} {a : Nat} {b : EdsBlock}
    (h : hostBlock descs m a = some b) : b.address = a := by
  unfold hostBlock at h
  split at h
  · cases h
  · split at h
    · cases h
      rfl
    · cases h

theorem inOrder_perm (copies : List (EdsBlock × Nat)) : (inOrder copies).Perm copies :=
  List.mergeSort_perm copies _

theorem inOrder_sorted (copies : List (EdsBlock × Nat)) :
    (inOrder copies).Pairwise fun p q => p.2 ≤ q.2 := by
  refine (List.pairwise_mergeSort ?_ ?_ copies).imp fun h => of_decide_eq_true h
  · intro p q r hpq hqr
    exact decide_eq_true (Nat.le_trans (of_decide_eq_true hpq) (of_decide_eq_true hqr))
  · intro p q
    simpa using Nat.le_total p.2 q.2

/-- **The board lists the copies** in the order of their addresses. -/
theorem Restored.lists (h : Restored table mcu m s dry bs copies) :
    Lists table mcu s.con s.eeprom ((inOrder copies).map fun p => p.1.movedTo p.2) := by
  have hlen := h.heap.length_le
  have hmem : ∀ b, b ∈ (starts 2 edsDataStart bs).filterMap
      (hostBlock (headers table.blocks) s.eeprom) ↔ b ∈ copies.map fun p => p.1.movedTo p.2 := by
    intro b
    rw [List.mem_filterMap, List.mem_map]
    constructor
    · rintro ⟨a, ha, hhost⟩
      obtain ⟨t, hat⟩ := mem_starts.mp ha
      have ht : t.tag ≠ 0 := by
        intro hfree
        have htype : s.eeprom a = t.tag := h.heap.type_eq hat
        rw [hostBlock, if_pos (htype.trans hfree)] at hhost
        cases hhost
      obtain ⟨p, hp, rfl, -⟩ := (h.used a t ht).mp hat
      rw [h.hostBlock_eq hp] at hhost
      exact ⟨p, hp, Option.some.inj hhost⟩
    · rintro ⟨p, hp, rfl⟩
      exact ⟨p.2, mem_starts.mpr ⟨_, h.blockAt hp⟩, h.hostBlock_eq hp⟩
  have hsorted : ((starts 2 edsDataStart bs).filterMap
      (hostBlock (headers table.blocks) s.eeprom)).Pairwise fun b b' => b.address < b'.address := by
    refine (starts_pairwise (by decide) _ _).filterMap _ fun a a' hlt b hb b' hb' => ?_
    rw [hostBlock_address hb, hostBlock_address hb']
    exact hlt
  have hnodup : (copies.map fun p => p.1.movedTo p.2).Nodup := by
    refine List.Nodup.of_map EdsBlock.address ?_
    rw [List.map_map]
    exact h.nodup
  rw [Lists, update_eq s.con (headers table.blocks) h.heap (by omega)]
  refine congrArg (fun l => some (Except.ok (s.con.withBlocks l))) ?_
  -- both lists are sorted by the address, and a block is found by its address
  refine @List.Perm.eq_of_pairwise _ (fun b b' => b.address ≤ b'.address) _ _ ?_
    (hsorted.imp Nat.le_of_lt) ?_ ?_
  · intro b b' hb hb' hle hge
    rw [((inOrder_perm copies).map _).mem_iff, ← hmem, List.mem_filterMap] at hb'
    obtain ⟨a, -, hhost⟩ := List.mem_filterMap.mp hb
    obtain ⟨a', -, hhost'⟩ := hb'
    have heq := Nat.le_antisymm hle hge
    rw [hostBlock_address hhost, hostBlock_address hhost'] at heq
    rw [heq, hhost'] at hhost
    exact (Option.some.inj hhost).symm
  · exact List.pairwise_map.mpr (inOrder_sorted copies)
  · refine List.Perm.trans ?_ ((inOrder_perm copies).symm.map _)
    refine (List.perm_ext_iff_of_nodup (hsorted.imp fun hlt heq => ?_) hnodup).mpr hmem
    rw [heq] at hlt
    exact Nat.lt_irrefl _ hlt

/-- **The board lists copies** that are, in the order of their addresses, what is kept of
the blocks. -/
theorem Restored.listed_iff (h : Restored table mcu m s dry bs copies) (blocks : List EdsBlock) :
    List.Forall₂ (SameBlock table.blocks m s.eeprom) blocks
        ((inOrder copies).map fun p => p.1.movedTo p.2)
      ↔ List.Forall₂ (KeptAs table.blocks m) blocks ((inOrder copies).map Prod.fst) := by
  rw [List.forall₂_map_right_iff, List.forall₂_map_right_iff]
  have hmem : ∀ p ∈ inOrder copies, p ∈ copies := fun p hp => (inOrder_perm copies).mem_iff.mp hp
  generalize inOrder copies = l at hmem
  induction l generalizing blocks with
  | nil => simp
  | cons p l ih =>
      rw [List.forall_mem_cons] at hmem
      cases blocks with
      | nil => simp
      | cons b blocks =>
          rw [List.forall₂_cons, List.forall₂_cons]
          exact and_congr (h.sameBlock_iff hmem.1 b) (ih blocks hmem.2)

/-! ## The round trip -/

/-- The host knows the blocks that are described. -/
theorem known_of_lists {c : EdsConnection} (hh : EdsHeap mcu m bs)
    (hlists : Lists table mcu c m c.blocks) (hsize : ∀ b ∈ c.blocks, b.size.toNat = b.desc.size) :
    ∀ b ∈ c.blocks, (∃ d, Known table b d) ∧ b.address < 65000 := by
  have hlen := hh.length_le
  have hend := edsEnd_le mcu
  have hblocks : c.blocks
      = (starts 2 edsDataStart bs).filterMap (hostBlock (headers table.blocks) m) := by
    have hupdate := update_eq c (headers table.blocks) hh (show bs.length < edsEnd mcu + 1 by omega)
    have heq := Except.ok.inj (Option.some.inj (hlists.symm.trans hupdate))
    exact congrArg EdsConnection.blocks heq
  intro b hb
  have hfit := hsize b hb
  rw [hblocks, List.mem_filterMap] at hb
  obtain ⟨a, ha, hhost⟩ := hb
  obtain ⟨t, hat⟩ := mem_starts.mp ha
  have hlt := hh.lt_edsEnd hat
  have haddr := hostBlock_address hhost
  refine ⟨?_, by omega⟩
  unfold hostBlock at hhost
  split at hhost
  · cases hhost
  · split at hhost
    · next e he =>
        cases hhost
        unfold getBlockDescByType at he
        split at he
        · next e' hfind =>
            cases he
            obtain ⟨d, hd, rfl⟩ := List.mem_map.mp (List.mem_of_find?_eq_some hfind)
            have htype := List.find?_some hfind
            exact ⟨d, hd, (of_decide_eq_true htype).symm, rfl, hfit⟩
        · cases he
    · cases hhost

/-- **The execution of a dump.** -/
theorem execFile_restores {mcu' : Mcu} {c : EdsConnection} (hh : EdsHeap mcu m bs)
    (hlists : Lists table mcu c m c.blocks) (hsize : ∀ b ∈ c.blocks, b.size.toNat = b.desc.size)
    (hline : ∀ b ∈ c.blocks, OneLine table.blocks m b) (c' : EdsConnection) (m' : Eeprom)
    (a : Nat) (hspace : 0 ∉ places mcu' c.blocks (edsFormat mcu' m')) :
    ∃ text, edsCmdShowConf table.blocks mcu c m "" = .ok text ∧
      ∃ dry bs', Restored table mcu' m
        (execFile table.blocks mcu' (freshSession c' mcu' m' a) text) dry bs'
        (c.blocks.zip (places mcu' c.blocks (edsFormat mcu' m'))) := by
  have hknown := known_of_lists hh hlists hsize
  obtain ⟨bs', hfresh, hfree⟩ := edsFormat_heap mcu' m'
  refine ⟨_, edsCmdShowConf_eq hknown, ?_⟩
  have hlines : getlines 512 (unlines (confLines table.blocks m c.blocks))
      = confLines table.blocks m c.blocks := by
    refine getlines_unlines fun line hmem => ?_
    obtain ⟨b, hb, hmem⟩ := List.mem_flatMap.mp hmem
    obtain ⟨⟨d, hd⟩, haddr⟩ := hknown b hb
    exact blockLines_short hd haddr (hline b hb) line hmem
  have hstart : Restored table mcu' m (freshSession c' mcu' m' a) (edsFormat mcu' m') bs' [] := by
    refine ⟨hfresh, hfresh, rfl, rfl, ?_, ?_, List.nodup_nil, ?_⟩
    · intro a' t ht
      refine iff_of_false ?_ ?_
      · rintro ⟨pre, post, rfl, -⟩
        exact ht (hfree t (by simp))
      · rintro ⟨p, hp, -⟩
        cases hp
    · intro p hp
      cases hp
    · intro p hp
      cases hp
  have hrun := exec_confLines c.blocks _ _ bs' [] hstart (fun b hb => (hknown b hb).1) hspace
  rw [List.nil_append] at hrun
  rw [execFile, hlines]
  exact hrun

/-- **The round trip** is exact for numbers and for strings without a blank in front or
two in a row: the session has a block of the same type and the same values for each
block, in their order, iff all strings are so. The board lists them in that order iff
first fit puts them in that order, up to blocks that are kept alike. -/
theorem showConf_roundTrip (table : EdsTable) {mcu mcu' : Mcu} {c : EdsConnection} {m : Eeprom}
    {bs : Blocks} (hh : EdsHeap mcu m bs) (hlists : Lists table mcu c m c.blocks)
    (hsize : ∀ b ∈ c.blocks, b.size.toNat = b.desc.size)
    (hline : ∀ b ∈ c.blocks, OneLine table.blocks m b) (c' : EdsConnection) (m' : Eeprom)
    (a : Nat) (hspace : 0 ∉ places mcu' c.blocks (edsFormat mcu' m')) :
    ∃ text s, edsCmdShowConf table.blocks mcu c m "" = .ok text ∧
      s = execFile table.blocks mcu' (freshSession c' mcu' m' a) text ∧
      (List.Forall₂ (SameBlock table.blocks m s.eeprom) c.blocks s.con.blocks
        ↔ TidyStrings table.blocks m c.blocks) ∧
      ∃ blocks', Lists table mcu' s.con s.eeprom blocks' ∧
        (List.Forall₂ (SameBlock table.blocks m s.eeprom) c.blocks blocks'
          ↔ List.Forall₂ (KeptAs table.blocks m) c.blocks ((inOrder (c.blocks.zip
            (places mcu' c.blocks (edsFormat mcu' m')))).map Prod.fst)) := by
  obtain ⟨text, hshow, dry, bs', hrun⟩ := execFile_restores hh hlists hsize hline c' m' a hspace
  refine ⟨text, _, hshow, rfl, ?_, _, hrun.lists, hrun.listed_iff c.blocks⟩
  have hknown := hrun.known_iff
  rw [List.map_fst_zip (Nat.le_of_eq (length_places _ _).symm)] at hknown
  exact hknown

/-! ## A page of the user panel -/

/-- Block type 102. -/
def heizPage : BlockDesc where
  type := 102
  name := "heiz_page"
  size := 13
  fields := [⟨.uint8, "page_id".toList, 0, 0⟩, ⟨.uint8, "parent_id".toList, 1, 0⟩,
    ⟨.uint8, "next_id".toList, 2, 0⟩, ⟨.uint8, "prev_id".toList, 3, 0⟩,
    ⟨.char, "name".toList, 4, 8⟩, ⟨.uint8, "heiz_id".toList, 12, 0⟩]

theorem heizPage_sound : heizPage.Sound where
  type_ne := by decide
  size_le := by decide
  name := by decide
  tiles := by simp [heizPage, FieldDesc.Tiles, FieldDesc.width]
  distinct := by decide
  fieldName := by decide
  datatype := by simp [heizPage]

def heizTable : EdsTable where
  blocks := [heizPage]
  types := List.pairwise_singleton _ _
  names := List.pairwise_singleton _ _
  sound := by
    intro d hd
    rw [List.mem_singleton.mp hd]
    exact heizPage_sound

/-- A board with one such page, of this name. -/
def heizEeprom (name : List UInt8) : Eeprom := fun q =>
  if 36 ≤ q ∧ q < 49 then ([1, 0, 0, 0] ++ name ++ [7]).getD (q - 36) 0
  else (edsSetBlockType (edsAlloc .atmega32 (edsFormat .atmega32 fun _ => 255) 13).2 34 102) q

def heizCon : EdsConnection := ⟨900, 1, [⟨34, 102, 13, ⟨102, "heiz_page", 13⟩⟩]⟩

theorem heizEeprom_heap (name : List UInt8) :
    EdsHeap .atmega32 (heizEeprom name)
      (⟨102, 13⟩ :: ⟨0, 113⟩ :: List.replicate 6 ⟨0, 128⟩ ++ [⟨0, 78⟩]) where
  lays := by repeat' first | exact trivial | rfl | constructor
  ends := rfl

theorem heizEeprom_lists (name : List UInt8) :
    Lists heizTable .atmega32 heizCon (heizEeprom name) heizCon.blocks := by
  rw [Lists, update_eq heizCon _ (heizEeprom_heap name) (by decide)]
  rfl

theorem heizEeprom_space :
    0 ∉ places .atmega32 heizCon.blocks (edsFormat .atmega32 fun _ => 255) := by
  decide

/-- The page "a b" comes back. -/
theorem showConf_roundTrip_heizPage :
    ∃ text s, edsCmdShowConf heizTable.blocks .atmega32 heizCon
        (heizEeprom [97, 32, 98, 0, 0, 0, 0, 0]) "" = .ok text ∧
      s = execFile heizTable.blocks .atmega32
        (freshSession heizCon .atmega32 (fun _ => 255) 0) text ∧
      List.Forall₂ (SameBlock heizTable.blocks (heizEeprom [97, 32, 98, 0, 0, 0, 0, 0]) s.eeprom)
        heizCon.blocks s.con.blocks := by
  obtain ⟨text, s, hshow, hs, hknown, -⟩ := showConf_roundTrip heizTable (heizEeprom_heap _)
    (heizEeprom_lists [97, 32, 98, 0, 0, 0, 0, 0]) (by decide) (by unfold OneLine; decide) heizCon
    (fun _ => 255) 0 heizEeprom_space
  have htidy : ∀ b ∈ heizCon.blocks, ∀ f ∈ fields heizTable.blocks b, f.datatype = .char →
      squeeze true (fieldValue (heizEeprom [97, 32, 98, 0, 0, 0, 0, 0]) b.address f).print
        = (fieldValue (heizEeprom [97, 32, 98, 0, 0, 0, 0, 0]) b.address f).print := by decide
  exact ⟨text, s, hshow, hs, hknown.mpr fun b hb f hf hchar _ =>
    (squeeze_eq_self_iff _ true).mp (htidy b hb f hf hchar)⟩

/-- **The failing string**: of the page "a  b" a blank is lost. -/
theorem showConf_loses_blank :
    ¬ ∀ (table : EdsTable) (mcu : Mcu) (c : EdsConnection) (m : Eeprom) (bs : Blocks),
      EdsHeap mcu m bs → Lists table mcu c m c.blocks →
      (∀ b ∈ c.blocks, b.size.toNat = b.desc.size) →
      ∀ (mcu' : Mcu) (c' : EdsConnection) (m' : Eeprom) (a : Nat),
      0 ∉ places mcu' c.blocks (edsFormat mcu' m') →
      ∀ text, edsCmdShowConf table.blocks mcu c m "" = .ok text →
        ∀ s, s = execFile table.blocks mcu' (freshSession c' mcu' m' a) text →
          List.Forall₂ (SameBlock table.blocks m s.eeprom) c.blocks s.con.blocks := by
  intro hall
  obtain ⟨text, hshow, dry, bs', hrun⟩ := execFile_restores (heizEeprom_heap _)
    (heizEeprom_lists [97, 32, 32, 98, 0, 0, 0, 0]) (by decide) (by unfold OneLine; decide) heizCon
    (fun _ => 255) 0 heizEeprom_space
  have hsame := hall heizTable .atmega32 heizCon _ _ (heizEeprom_heap _)
    (heizEeprom_lists [97, 32, 32, 98, 0, 0, 0, 0]) (by decide) .atmega32 heizCon (fun _ => 255) 0
    heizEeprom_space text hshow _ rfl
  have htidy := hrun.known_iff.mp hsame ⟨34, 102, 13, ⟨102, "heiz_page", 13⟩⟩ (by decide)
    ⟨.char, "name".toList, 4, 8⟩ (by decide) rfl ⟨by decide, by decide⟩
  rw [← squeeze_eq_self_iff] at htidy
  revert htidy
  decide

end OpenHcan.Host
