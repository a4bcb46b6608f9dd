import Mathlib.Data.List.TakeWhile
import OpenHcan.Host.EdsView

/-!
# EdsFields — the fields of a block, read and set by the host

The accessors of `eds_block` in `libhcan++/eds_connection.cc`. A field is read
four bytes at a time and written one byte at a time.

The description of a block with its fields comes from `eds.xml`; fields that
follow each other and fill the block are `FieldDesc.Tiles`. Texts are lists of
characters, a byte being the character with its number.
-/

namespace OpenHcan.Host

open OpenHcan.Eds

/-! ## Descriptions -/

/-- `eds_block_field_desc_t::datatype` -/
inductive Datatype
  | char
  | uint16
  | uint8
  | other (name : String)
deriving DecidableEq, Repr

/-- `eds_block_field_desc_t`. The size is that of a `char` field. -/
structure FieldDesc where
  datatype : Datatype
  name : List Char
  pos : Nat
  size : Nat
deriving DecidableEq, Repr

/-- `eds_block_desc_t` with its fields. -/
structure BlockDesc extends EdsBlockDesc where
  fields : List FieldDesc
deriving DecidableEq, Repr

/-- The descriptions without their fields. -/
def headers (table : List BlockDesc) : List EdsBlockDesc := table.map BlockDesc.toEdsBlockDesc

/-- `eds_block::fields` -/
def fields (table : List BlockDesc) (b : EdsBlock) : List FieldDesc :=
  match table.find? (fun d => d.type = b.type) with
  | some d => d.fields
  | none => []

/-- The bytes a field takes. -/
def FieldDesc.width (f : FieldDesc) : Nat :=
  match f.datatype with
  | .char => f.size
  | .uint16 => 2
  | .uint8 => 1
  | .other _ => 1

/-- The fields lie one behind the other, from `pos` up to `size`. -/
def FieldDesc.Tiles : Nat → List FieldDesc → Nat → Prop
  | pos, [], size => pos = size
  | pos, f :: fs, size => f.pos = pos ∧ 0 < f.width ∧ FieldDesc.Tiles (pos + f.width) fs size

/-- `get_block_field_desc_by_key` -/
def getBlockFieldDescByKey (fs : List FieldDesc) (key : List Char) : Except String FieldDesc :=
  match fs.find? (fun f => f.name = key) with
  | some f => .ok f
  | none => .error ("eds block field desc of '" ++ String.ofList key ++ "' not found")

/-! ## Reading -/

/-- `send_READ_FROM_BLOCK` and the checks on its answer. -/
def readFromBlock (mcu : Mcu) (c : EdsConnection) (m : Eeprom) (address index : Nat) :
    Except String CanixFrame :=
  recvReplay c.dst hcanSrvEds hcanEdsReadFromBlockReplay 4
    (edsCanCallback mcu c.dst m (c.sendReadFromBlock address (UInt8.ofNat index))).2

/-- `eds_block::field` -/
def field (mcu : Mcu) (c : EdsConnection) (m : Eeprom) (address : Nat) (fs : List FieldDesc)
    (key : List Char) : Except String UInt8 := do
  let f ← getBlockFieldDescByKey fs key
  if f.datatype = .char then
    throw ("eds_block::field: eds block field '" ++ String.ofList key ++
      "' is type char[], not uint8_t")
  let d ← readFromBlock mcu c m address (f.pos + 2)
  return d.byte 2

/-- `eds_block::uint16_field` -/
def uint16Field (mcu : Mcu) (c : EdsConnection) (m : Eeprom) (address : Nat)
    (fs : List FieldDesc) (key : List Char) : Except String Nat := do
  let f ← getBlockFieldDescByKey fs key
  if f.datatype = .char then
    throw ("eds_block::field: eds block field '" ++ String.ofList key ++
      "' is type char[], not uint8_t")
  let d ← readFromBlock mcu c m address (f.pos + 2)
  return word (d.byte 3) (d.byte 2)

/-- The `for` loop of `eds_block::strfield`, for the field at `index` of the block,
from byte `j` on. -/
def strfieldLoop (mcu : Mcu) (c : EdsConnection) (m : Eeprom) (address index size : Nat) :
    Nat → Nat → List UInt8 → Except String (List UInt8)
  | 0, _, s => .ok s
  | fuel + 1, j, s =>
      if j < size then do
        let d ← readFromBlock mcu c m address (index + j)
        let bytes := [d.byte 2, d.byte 3, d.byte 4, d.byte 5]
        let s := s ++ bytes.takeWhile fun b => b != 0
        if bytes.all fun b => b != 0 then
          strfieldLoop mcu c m address index size fuel (j + 4) s
        else .ok s
      else .ok s

/-- The character with the number of the byte. -/
def byteChar (b : UInt8) : Char := Char.ofNat b.toNat

def charByte (ch : Char) : UInt8 := UInt8.ofNat ch.toNat

/-- `eds_block::strfield` -/
def strfield (mcu : Mcu) (c : EdsConnection) (m : Eeprom) (address : Nat) (fs : List FieldDesc)
    (key : List Char) : Except String (List Char) := do
  let f ← getBlockFieldDescByKey fs key
  if f.datatype ≠ .char then
    throw ("eds_block::strfield: eds block field '" ++ String.ofList key ++
      "' is not type char[]")
  let s ← strfieldLoop mcu c m address (f.pos + 2) f.size f.size 0 []
  return s.map byteChar

/-! ## Writing -/

/-- `send_WRITE_TO_BLOCK` -/
def EdsConnection.sendWriteToBlock (c : EdsConnection) (address : Nat) (index v : UInt8) :
    CanixFrame :=
  c.request [hcanSrvEds, hcanEdsWriteToBlock, hiByte address, loByte address, index, v]

/-- The bytes are written one behind the other, from `index` on. The first answer
that fails the checks ends it. -/
def writeBytes (mcu : Mcu) (c : EdsConnection) (address : Nat) :
    Nat → List UInt8 → Eeprom → Except String Unit × Eeprom
  | _, [], m => (.ok (), m)
  | index, v :: vs, m =>
      let reply := edsCanCallback mcu c.dst m (c.sendWriteToBlock address (UInt8.ofNat index) v)
      match recvReplay c.dst hcanSrvEds hcanEdsWriteToBlockReplay 0 reply.2 with
      | .error e => (.error e, reply.1)
      | .ok _ => writeBytes mcu c address (index + 1) vs reply.1

/-- `eds_block::set_field_uint8` -/
def setFieldUint8 (mcu : Mcu) (c : EdsConnection) (m : Eeprom) (address : Nat)
    (fs : List FieldDesc) (key : List Char) (v : UInt8) : Except String Unit × Eeprom :=
  match getBlockFieldDescByKey fs key with
  | .error e => (.error e, m)
  | .ok f =>
      if f.datatype = .char then
        (.error ("eds_block::set_field: eds block field '" ++ String.ofList key ++
          "' is type char[], not uint8_t"), m)
      else writeBytes mcu c address (f.pos + 2) [v] m

/-- `eds_block::set_field_uint16` -/
def setFieldUint16 (mcu : Mcu) (c : EdsConnection) (m : Eeprom) (address : Nat)
    (fs : List FieldDesc) (key : List Char) (v : UInt16) : Except String Unit × Eeprom :=
  match getBlockFieldDescByKey fs key with
  | .error e => (.error e, m)
  | .ok f =>
      if f.datatype = .char then
        (.error ("eds_block::set_field: eds block field '" ++ String.ofList key ++
          "' is type char[], not uint8_t"), m)
      else writeBytes mcu c address (f.pos + 2) [loByte v.toNat, hiByte v.toNat] m

/-- `eds_block::set_field_str`. A field of size 0, whose `resize` fails, is not
described. -/
def setFieldStr (mcu : Mcu) (c : EdsConnection) (m : Eeprom) (address : Nat)
    (fs : List FieldDesc) (key v : List Char) : Except String Unit × Eeprom :=
  match getBlockFieldDescByKey fs key with
  | .error e => (.error e, m)
  | .ok f =>
      if f.datatype ≠ .char then
        (.error ("eds_block::set_field: eds block field '" ++ String.ofList key ++
          "' is not type char[]"), m)
      else
        let s := if v.length + 1 > f.size then v.take (f.size - 1) else v
        writeBytes mcu c address (f.pos + 2) (s.map charByte ++ [0]) m

/-! ## What is read and written -/

/-- The cells from `a` on. -/
def cells (m : Eeprom) : Nat → Nat → List UInt8
  | _, 0 => []
  | a, n + 1 => m a :: cells m (a + 1) n

/-- The text in a field of `size` bytes at `a`, as it is read: in pieces of four
bytes, up to the first zero. -/
def cellText (m : Eeprom) (a size : Nat) : List UInt8 :=
  (cells m a (4 * ((size + 3) / 4))).takeWhile fun b => b != 0

variable {mcu : Mcu} {m m' : Eeprom}

theorem cells_add (m : Eeprom) (a k n : Nat) :
    cells m a (k + n) = cells m a k ++ cells m (a + k) n := by
  induction k generalizing a with
  | zero => rw [Nat.zero_add]; rfl
  | succ k ih =>
      rw [Nat.succ_add, cells, cells, ih, List.cons_append, Nat.add_right_comm, Nat.add_assoc]

theorem length_cells (m : Eeprom) (a n : Nat) : (cells m a n).length = n := by
  induction n generalizing a with
  | zero => rfl
  | succ n ih => rw [cells, List.length_cons, ih]

theorem cells_congr {a n : Nat} (h : ∀ q, a ≤ q → q < a + n → m' q = m q) :
    cells m' a n = cells m a n := by
  induction n generalizing a with
  | zero => rfl
  | succ n ih =>
      rw [cells, cells, h a (Nat.le_refl a) (by omega), ih fun q h1 h2 => h q (by omega) (by omega)]

/-- Four bytes of the block come back. -/
theorem readFromBlock_eq (mcu : Mcu) (c : EdsConnection) (m : Eeprom) {address index : Nat}
    (hindex : index < 256) (hend : address + index + 3 < 65536) :
    ∃ d, readFromBlock mcu c m address index = .ok d ∧ d.byte 2 = m (address + index) ∧
      d.byte 3 = m (address + index + 1) ∧ d.byte 4 = m (address + index + 2) ∧
      d.byte 5 = m (address + index + 3) := by
  have hptr : requestPtr (c.sendReadFromBlock address (UInt8.ofNat index)) = address :=
    word_hiByte_loByte (by omega)
  have hidx : ((c.sendReadFromBlock address (UInt8.ofNat index)).byte 4).toNat = index := by
    show (UInt8.ofNat index).toNat = index
    rw [UInt8.toNat_ofNat']
    exact Nat.mod_eq_of_lt hindex
  rw [readFromBlock, edsCanCallback_read rfl, hptr, hidx, ptr_of_lt (by omega),
    ptr_of_lt (by omega), ptr_of_lt (by omega), ptr_of_lt (by omega)]
  exact ⟨_, recvReplay_edsAnswer c.dst _ _
    [m (address + index), m (address + index + 1), m (address + index + 2),
      m (address + index + 3)] (by simp),
    byte_payload _ _ _ _ _ (by decide), byte_payload _ _ _ _ _ (by decide),
    byte_payload _ _ _ _ _ (by decide), byte_payload _ _ _ _ _ (by decide)⟩

/-- One byte of the block is written. -/
theorem sendWriteToBlock_eq (mcu : Mcu) (c : EdsConnection) (m : Eeprom) (v : UInt8)
    {address index : Nat} (hindex : index < 256) (hend : address + index < 65536) :
    edsCanCallback mcu c.dst m (c.sendWriteToBlock address (UInt8.ofNat index) v)
      = (eepromWriteByte m (address + index) v,
          some (edsAnswer c.dst (c.sendWriteToBlock address (UInt8.ofNat index) v)
            [hcanEdsWriteToBlockReplay])) := by
  have hptr : requestPtr (c.sendWriteToBlock address (UInt8.ofNat index) v) = address :=
    word_hiByte_loByte (by omega)
  have hidx : ((c.sendWriteToBlock address (UInt8.ofNat index) v).byte 4).toNat = index := by
    show (UInt8.ofNat index).toNat = index
    rw [UInt8.toNat_ofNat']
    exact Nat.mod_eq_of_lt hindex
  have hcmd : (c.sendWriteToBlock address (UInt8.ofNat index) v).byte 1 = hcanEdsWriteToBlock := rfl
  have hval : (c.sendWriteToBlock address (UInt8.ofNat index) v).byte 5 = v := rfl
  rw [edsCanCallback, hcmd, hptr, hidx, hval]
  show (eepromWriteByte m (ptr (address + index)) v, _) = _
  rw [ptr_of_lt hend]

/-- **Bytes are written** where they belong, and nowhere else. -/
theorem writeBytes_spec (mcu : Mcu) (c : EdsConnection) (address : Nat) (vs : List UInt8) :
    ∀ (index : Nat) (m : Eeprom), index + vs.length ≤ 256 → address + index + vs.length ≤ 65536 →
      ∃ m', writeBytes mcu c address index vs m = (.ok (), m') ∧
        cells m' (address + index) vs.length = vs ∧
        ∀ q, q < address + index ∨ address + index + vs.length ≤ q → m' q = m q := by
  induction vs with
  | nil => intro index m _ _; exact ⟨m, rfl, rfl, fun q _ => rfl⟩
  | cons v vs ih =>
      intro index m hindex hend
      rw [List.length_cons] at hindex hend
      obtain ⟨m', hrun, hcells, hframe⟩ :=
        ih (index + 1) (eepromWriteByte m (address + index) v) (by omega) (by omega)
      have hrecv := recvReplay_edsAnswer c.dst
        (c.sendWriteToBlock address (UInt8.ofNat index) v) hcanEdsWriteToBlockReplay []
        (Nat.zero_le _)
      refine ⟨m', ?_, ?_, fun q hq => ?_⟩
      · rw [writeBytes, sendWriteToBlock_eq mcu c m v (by omega) (by omega)]
        rw [List.length_nil] at hrecv
        simp only [hrecv]
        exact hrun
      · rw [List.length_cons, cells, Nat.add_assoc, hcells, hframe _ (by omega),
          eepromWriteByte_self]
      · rw [List.length_cons] at hq
        rw [hframe q (by omega), eepromWriteByte_of_ne m v (by omega)]

/-! ## The accessors -/

variable {fs : List FieldDesc} {key : List Char} {f : FieldDesc} {address : Nat}

theorem getBlockFieldDescByKey_eq (hf : fs.find? (fun f => f.name = key) = some f) :
    getBlockFieldDescByKey fs key = .ok f := by
  rw [getBlockFieldDescByKey, hf]

theorem field_eq (c : EdsConnection) (hf : fs.find? (fun f => f.name = key) = some f)
    (htype : f.datatype ≠ .char) (hpos : f.pos + 2 < 256) (haddr : address < 65000) :
    field mcu c m address fs key = .ok (m (address + (f.pos + 2))) := by
  obtain ⟨d, hread, h2, -⟩ := readFromBlock_eq mcu c m hpos (show address + _ + 3 < 65536 by omega)
  rw [field, getBlockFieldDescByKey_eq hf]
  show (if f.datatype = .char then _ else _) = _
  rw [if_neg htype]
  show (readFromBlock mcu c m address (f.pos + 2)).bind _ = _
  rw [hread, ← h2]
  rfl

theorem uint16Field_eq (c : EdsConnection) (hf : fs.find? (fun f => f.name = key) = some f)
    (htype : f.datatype ≠ .char) (hpos : f.pos + 2 < 256) (haddr : address < 65000) :
    uint16Field mcu c m address fs key
      = .ok (word (m (address + (f.pos + 2) + 1)) (m (address + (f.pos + 2)))) := by
  obtain ⟨d, hread, h2, h3, -⟩ :=
    readFromBlock_eq mcu c m hpos (show address + _ + 3 < 65536 by omega)
  rw [uint16Field, getBlockFieldDescByKey_eq hf]
  show (if f.datatype = .char then _ else _) = _
  rw [if_neg htype]
  show (readFromBlock mcu c m address (f.pos + 2)).bind _ = _
  rw [hread, ← h2, ← h3]
  rfl

/-- A text is its first piece, and the rest if there is no zero in that. -/
theorem cellText_split {a size : Nat} (h : 0 < size) :
    cellText m a size
      = if (cells m a 4).all (fun b => b != 0) then cells m a 4 ++ cellText m (a + 4) (size - 4)
        else (cells m a 4).takeWhile fun b => b != 0 := by
  have hpieces : 4 * ((size + 3) / 4) = 4 + 4 * ((size - 4 + 3) / 4) := by omega
  rw [cellText, hpieces, cells_add]
  split
  · next hall =>
      rw [List.takeWhile_append_of_pos (List.all_eq_true.mp hall)]
      rfl
  · next hall =>
      rw [List.takeWhile_append, if_neg]
      intro hlen
      apply hall
      rw [List.all_eq_true]
      exact List.takeWhile_eq_self_iff.mp
        ((List.takeWhile_prefix _).eq_of_length hlen)

/-- The loop reads the text piece by piece. -/
theorem strfieldLoop_eq (c : EdsConnection) {index size : Nat} (hindex : index + size < 256)
    (haddr : address < 65000) :
    ∀ (fuel j : Nat) (s : List UInt8), size ≤ j + fuel →
      strfieldLoop mcu c m address index size fuel j s
        = .ok (s ++ cellText m (address + index + j) (size - j)) := by
  intro fuel
  induction fuel with
  | zero =>
      intro j s hj
      rw [show size - j = 0 by omega]
      exact congrArg Except.ok (List.append_nil s).symm
  | succ fuel ih =>
      intro j s hj
      rw [strfieldLoop]
      by_cases hlt : j < size
      · obtain ⟨d, hread, h2, h3, h4, h5⟩ := readFromBlock_eq mcu c m
          (show index + j < 256 by omega) (show address + (index + j) + 3 < 65536 by omega)
        rw [if_pos hlt]
        show (readFromBlock mcu c m address (index + j)).bind _ = _
        rw [hread]
        have hfour : cells m (address + index + j) 4
            = [d.byte 2, d.byte 3, d.byte 4, d.byte 5] := by
          rw [h2, h3, h4, h5, ← Nat.add_assoc]
          rfl
        rw [cellText_split (show 0 < size - j by omega), hfour,
          show size - j - 4 = size - (j + 4) by omega]
        show (if [d.byte 2, d.byte 3, d.byte 4, d.byte 5].all (fun b => b != 0) then _ else _) = _
        split
        · next hall =>
            rw [ih (j + 4) _ (by omega), List.takeWhile_eq_self_iff.mpr (List.all_eq_true.mp hall),
              List.append_assoc, ← Nat.add_assoc (address + index) j 4]
        · rfl
      · rw [if_neg hlt, show size - j = 0 by omega]
        exact congrArg Except.ok (List.append_nil s).symm

theorem strfield_eq (c : EdsConnection) (hf : fs.find? (fun f => f.name = key) = some f)
    (htype : f.datatype = .char) (hpos : f.pos + 2 + f.size < 256) (haddr : address < 65000) :
    strfield mcu c m address fs key
      = .ok ((cellText m (address + (f.pos + 2)) f.size).map byteChar) := by
  rw [strfield, getBlockFieldDescByKey_eq hf]
  show (if f.datatype ≠ .char then _ else _) = _
  rw [if_neg (not_not.mpr htype)]
  show (strfieldLoop mcu c m address (f.pos + 2) f.size f.size 0 []).bind _ = _
  rw [strfieldLoop_eq c hpos haddr _ _ _ (by omega)]
  rfl

end OpenHcan.Host
