import OpenHcan.Host.EdsCommands

/-!
# EdsTable — the described blocks, and the values in their fields

What the table of descriptions has to be like for the host to find a block or a
field by its name. It is generated from `eds.xml`, where all of this holds.

A value that is printed and set again comes back as `kept` says: a number as it
was, a text with its blanks squeezed.
-/

namespace OpenHcan.Host

open Eds Lib

/-- A word of a command. -/
structure IsName (w : List Char) : Prop where
  ne_nil : w ≠ []
  length_le : w.length ≤ 200
  noSpace : ∀ ch ∈ w, isspace ch = false

instance (w : List Char) : Decidable (IsName w) :=
  decidable_of_iff (w ≠ [] ∧ w.length ≤ 200 ∧ w.all (fun ch => !isspace ch) = true)
    ⟨fun h => ⟨h.1, h.2.1, by simpa using h.2.2⟩,
      fun h => ⟨h.ne_nil, h.length_le, by simpa using h.noSpace⟩⟩

/-- The fields of a block follow each other and end with it; they have names of their
own and one of the three datatypes. -/
structure BlockDesc.Sound (d : BlockDesc) : Prop where
  type_ne : d.type ≠ 0
  size_le : d.size ≤ 253
  name : IsName d.name.toList
  tiles : FieldDesc.Tiles 0 d.fields d.size
  distinct : d.fields.Pairwise fun f g => f.name ≠ g.name
  fieldName : ∀ f ∈ d.fields, IsName f.name
  datatype : ∀ f ∈ d.fields, ∀ name, f.datatype ≠ .other name

/-- The descriptions of `eds.xml`: no type and no name occurs twice. -/
structure EdsTable where
  blocks : List BlockDesc
  types : blocks.Pairwise fun d e => d.type ≠ e.type
  names : blocks.Pairwise fun d e => d.name ≠ e.name
  sound : ∀ d ∈ blocks, d.Sound

/-! ## Looking up -/

/-- Where no key occurs twice, an element is found by its own. -/
theorem find?_of_pairwise {α β : Type} [DecidableEq β] (key : α → β) {l : List α}
    (hl : l.Pairwise fun x y => key x ≠ key y) {x : α} (hx : x ∈ l) :
    l.find? (fun y => key y = key x) = some x := by
  induction hl with
  | nil => cases hx
  | cons hne _ ih =>
      rcases List.mem_cons.mp hx with rfl | hmem
      · exact List.find?_cons_of_pos (decide_eq_true rfl)
      · rw [List.find?_cons_of_neg, ih hmem]
        simpa using hne x hmem

theorem fields_eq (table : EdsTable) {d : BlockDesc} (hd : d ∈ table.blocks) {b : EdsBlock}
    (htype : b.type = d.type) : fields table.blocks b = d.fields := by
  rw [fields, htype, find?_of_pairwise (fun d : BlockDesc => d.type) table.types hd]

/-- A field lies in its block. -/
theorem FieldDesc.Tiles.bounds {pos size : Nat} {fs : List FieldDesc}
    (ht : FieldDesc.Tiles pos fs size) {f : FieldDesc} (hf : f ∈ fs) :
    0 < f.width ∧ pos ≤ f.pos ∧ f.pos + f.width ≤ size := by
  have hend : ∀ {p : Nat} {l : List FieldDesc}, FieldDesc.Tiles p l size → p ≤ size := by
    intro p l hl
    induction l generalizing p with
    | nil => exact Nat.le_of_eq hl
    | cons g l ih => exact Nat.le_trans (Nat.le_add_right _ _) (ih hl.2.2)
  induction fs generalizing pos with
  | nil => cases hf
  | cons g fs ih =>
      obtain ⟨hpos, hwidth, hrest⟩ := ht
      have hsize := hend hrest
      rcases List.mem_cons.mp hf with rfl | hmem
      · omega
      · have := ih hrest hmem
        omega

/-- Every byte of a field has an index the host can send. -/
theorem BlockDesc.Sound.pos_lt {d : BlockDesc} (hd : d.Sound) {f : FieldDesc} (hf : f ∈ d.fields) :
    f.pos + 2 < 256 := by
  have hbounds := hd.tiles.bounds hf
  have hsize := hd.size_le
  omega

theorem BlockDesc.Sound.size_lt {d : BlockDesc} (hd : d.Sound) {f : FieldDesc} (hf : f ∈ d.fields)
    (hchar : f.datatype = .char) : f.pos + 2 + f.size < 256 := by
  have hbounds := hd.tiles.bounds hf
  have hsize := hd.size_le
  have hwidth : f.width = f.size := by rw [FieldDesc.width, hchar]
  omega

/-! ## Values -/

/-- What a field holds. -/
inductive FieldValue
  | number (n : Nat)
  | text (s : List Char)
deriving DecidableEq, Repr

/-- The value in the EEPROM, for the block at `address`. -/
def fieldValue (m : Eeprom) (address : Nat) (f : FieldDesc) : FieldValue :=
  let a := address + (f.pos + 2)
  match f.datatype with
  | .char => .text ((cellText m a f.size).map byteChar)
  | .uint16 => .number (word (m (a + 1)) (m a))
  | _ => .number (m a).toNat

def FieldValue.print : FieldValue → List Char
  | .number n => printU n
  | .text s => s

/-- What is left of a value that is printed and set again. -/
def kept (f : FieldDesc) : FieldValue → FieldValue
  | .number n => .number n
  | .text s => .text ((squeeze true s).take (f.size - 1))

/-- The bytes that are written then. -/
def setBytes (f : FieldDesc) : FieldValue → List UInt8
  | .number n =>
      match f.datatype with
      | .uint16 => [loByte n, hiByte n]
      | _ => [UInt8.ofNat n]
  | .text s => ((squeeze true s).take (f.size - 1)).map charByte ++ [0]

/-- The bytes of `v` are in the field. -/
def Stored (m : Eeprom) (address : Nat) (f : FieldDesc) (v : FieldValue) : Prop :=
  cells m (address + (f.pos + 2)) (setBytes f v).length = setBytes f v

variable {m m' : Eeprom} {a a' : Nat} {f : FieldDesc}

theorem toNat_byteChar (b : UInt8) : (byteChar b).toNat = b.toNat := by
  have hlt := b.toNat_lt
  have hvalid : b.toNat.isValidChar := .inl (by omega)
  rw [byteChar, Char.ofNat, dif_pos hvalid]
  rfl

theorem charByte_byteChar (b : UInt8) : charByte (byteChar b) = b := by
  rw [charByte, toNat_byteChar, UInt8.ofNat_toNat]

theorem mem_squeeze {ch : Char} {s : List Char} :
    ∀ {blank : Bool}, ch ∈ squeeze blank s → ch = ' ' ∨ ch ∈ s := by
  induction s with
  | nil => intro blank h; cases h
  | cons c s ih =>
      intro blank h
      rw [squeeze] at h
      split at h
      · split at h
        · exact (ih h).imp_right (List.mem_cons_of_mem c)
        · rcases List.mem_cons.mp h with rfl | h
          · exact .inl rfl
          · exact (ih h).imp_right (List.mem_cons_of_mem c)
      · rcases List.mem_cons.mp h with rfl | h
        · exact .inr List.mem_cons_self
        · exact (ih h).imp_right (List.mem_cons_of_mem c)

/-- The characters of a text are bytes other than zero, and so are those that are
written for it. -/
theorem byteChar_of_mem_kept {n k : Nat} {ch : Char}
    (h : ch ∈ (squeeze true ((cellText m n k).map byteChar)).take (f.size - 1)) :
    charByte ch ≠ 0 ∧ byteChar (charByte ch) = ch := by
  rcases mem_squeeze (List.mem_of_mem_take h) with rfl | hmem
  · decide
  · obtain ⟨b, hb, rfl⟩ := List.mem_map.mp hmem
    rw [charByte_byteChar]
    exact ⟨by simpa using List.mem_takeWhile_imp hb, rfl⟩

theorem length_setBytes_le (hwidth : 0 < f.width) (m : Eeprom) (a : Nat) :
    (setBytes f (fieldValue m a f)).length ≤ f.width := by
  unfold FieldDesc.width at hwidth ⊢
  unfold fieldValue setBytes
  cases hdata : f.datatype with
  | char =>
      rw [hdata] at hwidth
      simp only [List.length_append, List.length_map, List.length_take, List.length_singleton]
      simp only at hwidth
      omega
  | uint16 => rfl
  | uint8 => rfl
  | other name => rfl

/-- Bytes with a terminator behind them are read as a text. -/
theorem cellText_of_cells {n size : Nat} {bytes : List UInt8}
    (h : cells m n (bytes.length + 1) = bytes ++ [0]) (hne : ∀ b ∈ bytes, b ≠ 0)
    (hsize : bytes.length < size) : cellText m n size = bytes := by
  have hsplit : 4 * ((size + 3) / 4)
      = (bytes.length + 1) + (4 * ((size + 3) / 4) - (bytes.length + 1)) := by omega
  rw [cellText, hsplit, cells_add, h, List.append_assoc, List.takeWhile_append_of_pos]
  · exact List.append_nil _
  · intro b hb
    simpa using hne b hb

/-- **A stored value** is read as what was kept of it. -/
theorem Stored.fieldValue_eq (hwidth : 0 < f.width) (h : Stored m' a' f (fieldValue m a f)) :
    fieldValue m' a' f = kept f (fieldValue m a f) := by
  unfold Stored at h
  unfold FieldDesc.width at hwidth
  unfold fieldValue at h ⊢
  cases hdata : f.datatype with
  | char =>
      rw [hdata] at h hwidth
      simp only [setBytes, List.length_append, List.length_singleton] at h hwidth
      generalize hs : (squeeze true ((cellText m (a + (f.pos + 2)) f.size).map byteChar)).take
        (f.size - 1) = s at h
      have hch : ∀ ch ∈ s, charByte ch ≠ 0 ∧ byteChar (charByte ch) = ch := by
        intro ch hmem
        rw [← hs] at hmem
        exact byteChar_of_mem_kept hmem
      have htext : cellText m' (a' + (f.pos + 2)) f.size = s.map charByte := by
        have hlen : s.length ≤ f.size - 1 := hs ▸ List.length_take_le _ _
        refine cellText_of_cells h ?_ (by rw [List.length_map]; omega)
        intro b hb
        obtain ⟨ch, hmem, rfl⟩ := List.mem_map.mp hb
        exact (hch ch hmem).1
      simp only [kept, hs]
      have hback : s.map (byteChar ∘ charByte) = s := by
        conv_rhs => rw [← List.map_id s]
        exact List.map_congr_left fun ch hmem => (hch ch hmem).2
      rw [htext, List.map_map, hback]
  | uint16 =>
      rw [hdata] at h
      simp only [setBytes, hdata] at h
      obtain ⟨hlo, hhi⟩ : m' (a' + (f.pos + 2)) = _ ∧ m' (a' + (f.pos + 2) + 1) = _ := by
        simpa [cells] using h
      simp only [kept, hlo, hhi]
      rw [word_hiByte_loByte (word_lt _ _)]
  | uint8 =>
      simp only [setBytes, hdata] at h
      have hbyte : m' (a' + (f.pos + 2)) = m (a + (f.pos + 2)) := by
        simpa [cells] using h
      simp only [kept, hbyte]
  | other name =>
      simp only [setBytes, hdata] at h
      have hbyte : m' (a' + (f.pos + 2)) = m (a + (f.pos + 2)) := by
        simpa [cells] using h
      simp only [kept, hbyte]

/-! ## Printing and setting -/

theorem printField_eq {d : BlockDesc} (hd : d.Sound) (mcu : Mcu) (c : EdsConnection) (m : Eeprom)
    {address : Nat} (haddr : address < 65000) {f : FieldDesc} (hf : f ∈ d.fields) :
    printField mcu c m address d.fields f = .ok (fieldValue m address f).print := by
  have hfind := find?_of_pairwise FieldDesc.name hd.distinct hf
  have hpos := hd.pos_lt hf
  unfold printField fieldValue
  cases hdata : f.datatype with
  | char =>
      simp only
      rw [strfield_eq c hfind hdata (hd.size_lt hf hdata) haddr]
      rfl
  | uint16 =>
      simp only
      rw [uint16Field_eq c hfind (by simp [hdata]) hpos haddr]
      rfl
  | uint8 =>
      simp only
      rw [field_eq c hfind (by simp [hdata]) hpos haddr]
      rfl
  | other name => exact absurd hdata (hd.datatype f hf name)

theorem squeeze_printU (n : Nat) : squeeze true (printU n) = printU n := by
  have hword := squeeze_word (fun ch hch => isspace_of_isDigit (isDigit_of_mem_printU hch))
    (Nat.toDigits_ne_nil : printU n ≠ []) true []
  simpa [squeeze] using hword

/-- A number that is printed is read as an `uint16_t` again. -/
theorem streamInt_printU {n : Nat} (h : n < 65536) :
    (UInt16.ofInt (streamInt (printU n))).toNat = n := by
  rw [streamInt, strtol_printU (by omega), UInt16.ofInt, UInt16.toNat_ofNat']
  omega

/-- A number that is printed is read as an `uint8_t` again: there is no comment, and
no `b`, in its digits. -/
theorem parseUint8_printU {n : Nat} (h : n < 256) :
    parseUint8 (printU n) = some (UInt8.ofNat n) := by
  have hdigit : ∀ ch ∈ printU n, ch.isDigit = true := fun ch hch => isDigit_of_mem_printU hch
  have htake : (printU n).takeWhile (fun ch => ch ≠ '#') = printU n := by
    rw [List.takeWhile_eq_self_iff]
    intro ch hch
    have hne : ch ≠ '#' := fun heq => notMem_printU (by decide) n (heq ▸ hch)
    simpa using hne
  have hfilter : (printU n).filter (fun ch => !isspace ch) = printU n := by
    rw [List.filter_eq_self]
    intro ch hch
    rw [isspace_of_isDigit (hdigit ch hch)]
    rfl
  have hbits : ¬ ((printU n).take 2 = ['0', 'b'] ∧ (printU n).length = 10) := by
    rintro ⟨htwo, -⟩
    have hb : 'b' ∈ (printU n).take 2 := by
      rw [htwo]
      decide
    exact notMem_printU (by decide) n (List.mem_of_mem_take hb)
  have hb : ¬ ('b' ∈ printU n ∨ 'B' ∈ printU n) :=
    not_or.mpr ⟨notMem_printU (by decide) n, notMem_printU (by decide) n⟩
  unfold parseUint8
  simp only [htake, hfilter, if_neg hbits, if_neg hb]
  rw [streamInt, strtol_printU (by omega), UInt8.ofInt]
  congr 2
  omega

/-- A text is cut off so that it fits the field with its terminator. -/
theorem setFieldStr_eq {mcu : Mcu} {c : EdsConnection} {fs : List FieldDesc} {key : List Char}
    (hf : fs.find? (fun f => f.name = key) = some f) (htype : f.datatype = .char)
    (v : List Char) : setFieldStr mcu c m a fs key v
      = writeBytes mcu c a (f.pos + 2) ((v.take (f.size - 1)).map charByte ++ [0]) m := by
  have hcut : (if v.length + 1 > f.size then v.take (f.size - 1) else v) = v.take (f.size - 1) := by
    split
    · rfl
    · rw [List.take_of_length_le (by omega)]
  rw [setFieldStr, getBlockFieldDescByKey_eq hf]
  simp only [if_neg (not_not.mpr htype), hcut]

/-- The session with another EEPROM. -/
def EdsSession.withEeprom (s : EdsSession) (m : Eeprom) : EdsSession := { s with eeprom := m }

/-- What `set` writes for a printed value. -/
theorem edsCmdSetField_writes (table : EdsTable) (mcu : Mcu) {s : EdsSession} {b : EdsBlock}
    {d : BlockDesc} (hb : blockByAddress s.con a = .ok b) (haddr : b.address = a)
    (hd : d ∈ table.blocks) (htype : b.type = d.type) (hf : f ∈ d.fields) (m : Eeprom) (a' : Nat) :
    edsCmdSetField table.blocks mcu s a f.name (squeeze true (fieldValue m a' f).print)
      = s.withEeprom (writeBytes mcu s.con a (f.pos + 2) (setBytes f (fieldValue m a' f))
          s.eeprom).2 := by
  have hsound := table.sound d hd
  have hkey := getBlockFieldDescByKey_eq (find?_of_pairwise FieldDesc.name
    hsound.distinct hf)
  rw [edsCmdSetField, hb]
  simp only [fields_eq table hd htype, hkey, haddr]
  unfold fieldValue
  cases hdata : f.datatype with
  | char =>
      simp only [FieldValue.print]
      rw [setFieldStr_eq (find?_of_pairwise FieldDesc.name hsound.distinct hf) hdata]
      rfl
  | uint16 =>
      have hlt := word_lt (m (a' + (f.pos + 2) + 1)) (m (a' + (f.pos + 2)))
      simp only [FieldValue.print, squeeze_printU, setBytes, hdata]
      rw [setFieldUint16, hkey]
      simp only [if_neg (show f.datatype ≠ .char by simp [hdata])]
      rw [streamInt_printU hlt]
      rfl
  | uint8 =>
      simp only [FieldValue.print, squeeze_printU, setBytes, hdata,
        parseUint8_printU (m (a' + (f.pos + 2))).toNat_lt]
      rw [setFieldUint8, hkey]
      simp only [if_neg (show f.datatype ≠ .char by simp [hdata])]
      rfl
  | other name => exact absurd hdata (hsound.datatype f hf name)

/-- **Setting a field** to a printed value stores it, and changes nothing outside of the
field. -/
theorem edsCmdSetField_stores (table : EdsTable) (mcu : Mcu) {s : EdsSession} {b : EdsBlock}
    {d : BlockDesc} (hb : blockByAddress s.con a = .ok b) (haddr : b.address = a)
    (hd : d ∈ table.blocks) (htype : b.type = d.type) (hf : f ∈ d.fields) (ha : a < 65000)
    (m : Eeprom) (a' : Nat) :
    ∃ m', edsCmdSetField table.blocks mcu s a f.name (squeeze true (fieldValue m a' f).print)
        = s.withEeprom m' ∧ Stored m' a f (fieldValue m a' f) ∧
      ∀ q, q < a + (f.pos + 2) ∨ a + (f.pos + 2) + f.width ≤ q → m' q = s.eeprom q := by
  have hsound := table.sound d hd
  have hbounds := hsound.tiles.bounds hf
  have hsize := hsound.size_le
  have hlen := length_setBytes_le hbounds.1 m a'
  obtain ⟨m', hrun, hcells, hframe⟩ := writeBytes_spec mcu s.con a
    (setBytes f (fieldValue m a' f)) (f.pos + 2) s.eeprom (by omega) (by omega)
  refine ⟨m', ?_, hcells, fun q hq => hframe q (by omega)⟩
  rw [edsCmdSetField_writes table mcu hb haddr hd htype hf, hrun]

end OpenHcan.Host
