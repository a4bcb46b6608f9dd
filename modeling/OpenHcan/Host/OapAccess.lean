import OpenHcan.Lib.BitField
import OpenHcan.Lib.CString

/-!
# OapAccess — fields of board objects as texts (`libhcan++/oap_access.cc`)

A board keeps a 16-bit value for every index of a field. `set_value` reads a
text and writes the value, `value_as_string` reads the value and writes a text
in the class of the field. The class is fetched when it is first asked for,
which `value_as_string` does not do, and a time is written to index 0 whatever
the index is (`oap_roundTrip_iff`).
-/

namespace OpenHcan.Host

open OpenHcan.Lib

def oapTypeBool : UInt8 := 1
def oapTypeInt : UInt8 := 2
def oapTypeTime : UInt8 := 3

/-! ## The board -/

/-- The answer to `FIELD_ATTRIBUTE_REQUEST`. -/
structure FieldAttributes where
  fclass : UInt8
  flags : UInt8
  arraysize : UInt8
deriving DecidableEq, Repr

/-- A board with OAP objects: the values by object, field and index, and the
attributes of the fields. -/
structure OapBoard where
  values : UInt8 → UInt8 → UInt8 → UInt16
  attributes : UInt8 → UInt8 → FieldAttributes

namespace OapBoard

/-- `FIELD_READ_REQUEST` and its answer, `value_hi` and `value_lo`. -/
def fieldRead (b : OapBoard) (oid fid idx : UInt8) : UInt8 × UInt8 :=
  ((b.values oid fid idx >>> 8).toUInt8, (b.values oid fid idx).toUInt8)

/-- `FIELD_WRITE_REQUEST` -/
def fieldWrite (b : OapBoard) (oid fid idx hi lo : UInt8) : OapBoard :=
  { b with
    values := fun o f i =>
      if o = oid ∧ f = fid ∧ i = idx then (hi.toUInt16 <<< 8) ||| lo.toUInt16
      else b.values o f i }

end OapBoard

/-! ## The field -/

/-- `oap_field`, apart from the connection. -/
structure OapField where
  oid : UInt8
  ocid : UInt8
  fid : UInt8
  fcid : UInt8
  flags : UInt8
  arraysize : UInt8
  detailsLoaded : Bool
deriving DecidableEq, Repr

/-- `oap_time` -/
structure OapTime where
  hour : UInt8
  minute : UInt8
deriving DecidableEq, Repr

/-- The exceptions of `oap_field`. -/
inductive OapError
  | unknownFieldClass
  | invalidValueFormat (value : List Char)
  | badLexicalCast
deriving DecidableEq, Repr

namespace OapField

/-- The constructor. -/
def new (oid ocid fid : UInt8) : OapField := ⟨oid, ocid, fid, 255, 255, 0, false⟩

/-- `load_details` -/
def loadDetails (b : OapBoard) (f : OapField) : OapField :=
  if f.detailsLoaded = false then
    let a := b.attributes f.oid f.fid
    { f with
      fcid := a.fclass
      flags := a.flags
      arraysize := a.arraysize
      detailsLoaded := true }
  else f

/-- `value` -/
def value (b : OapBoard) (f : OapField) (idx : UInt8) : UInt16 :=
  let (hi, lo) := b.fieldRead f.oid f.fid idx
  (hi.toUInt16 <<< 8) ||| lo.toUInt16

/-- `value_as_time` -/
def valueAsTime (b : OapBoard) (f : OapField) (idx : UInt8) : OapTime :=
  let v := f.value b idx
  ⟨(v >>> 8).toUInt8, (v &&& 0xff).toUInt8⟩

/-- `setw(2) << setfill('0') << n` -/
def setw2 (n : Nat) : List Char := List.replicate (2 - (printU n).length) '0' ++ printU n

/-- `value_as_string` -/
def valueAsString (b : OapBoard) (f : OapField) (idx : UInt8) : Except OapError (List Char) :=
  if f.fcid = oapTypeBool then
    .ok (if f.value b idx > 0 then "true".toList else "false".toList)
  else if f.fcid = oapTypeInt then .ok (printU (f.value b idx).toNat)
  else if f.fcid = oapTypeTime then
    let t := f.valueAsTime b idx
    .ok (setw2 t.hour.toNat ++ ':' :: setw2 t.minute.toNat)
  else .error .unknownFieldClass

/-- `set_value` for a number. -/
def setValue (b : OapBoard) (f : OapField) (value : UInt16) (idx : UInt8) : OapBoard :=
  b.fieldWrite f.oid f.fid idx (value >>> 8).toUInt8 (value &&& 0xff).toUInt8

/-- `set_value` for a time. The index is not passed on: the one written is the
default of the parameter. -/
def setValueTime (b : OapBoard) (f : OapField) (time : OapTime) (_idx : UInt8) : OapBoard :=
  let v := (time.hour.toUInt16 <<< 8) ||| (time.minute.toUInt16 &&& 0xff)
  f.setValue b v 0

/-- `regex_match` with `(\d+)` -/
def matchInt (s : List Char) : Bool := !s.isEmpty && s.all Char.isDigit

/-- `regex_match` with `(\d+):(\d+)`: the two groups. -/
def matchTime (s : List Char) : Option (List Char × List Char) :=
  let hour := s.takeWhile Char.isDigit
  match s.dropWhile Char.isDigit with
  | ':' :: minute => if !hour.isEmpty && matchInt minute then some (hour, minute) else none
  | _ => none

/-- `lexical_cast<uint16_t>` of a row of digits. -/
def lexicalCastU16 (digits : List Char) : Except OapError UInt16 :=
  if decimal digits < 2 ^ 16 then .ok (UInt16.ofNat (decimal digits)) else .error .badLexicalCast

/-- `set_value` for a text: its form decides on what is written, not the class of
the field. -/
def setValueText (b : OapBoard) (f : OapField) (value : List Char) (idx : UInt8) :
    Except OapError OapBoard :=
  let s := text value
  if s = "true".toList then .ok (f.setValue b 1 idx)
  else if s = "false".toList then .ok (f.setValue b 0 idx)
  else
    match matchTime s with
    | some (hour, minute) => do
        let hour ← lexicalCastU16 hour
        let minute ← lexicalCastU16 minute
        return f.setValueTime b ⟨hour.toUInt8, minute.toUInt8⟩ idx
    | none =>
        if matchInt s then do
          let v ← lexicalCastU16 s
          return f.setValue b v idx
        else .error (.invalidValueFormat value)

end OapField

/-- The public methods of a field. -/
inductive FieldMethod
  | name | oid | fid | fcid | arraysize | value | valueAsTime | valueAsString | classAsString
  | setValue | bcon
deriving DecidableEq, Repr

/-- The method calls `load_details`. -/
def FieldMethod.loadsDetails : FieldMethod → Bool
  | .name => true
  | .fcid => true
  | .arraysize => true
  | _ => false

/-- What a call of the method does to the object. -/
def FieldMethod.call (b : OapBoard) (f : OapField) (m : FieldMethod) : OapField :=
  if m.loadsDetails then f.loadDetails b else f

/-- An object of a field after the calls `ms`. -/
def fieldObject (b : OapBoard) (oid ocid fid : UInt8) (ms : List FieldMethod) : OapField :=
  ms.foldl (FieldMethod.call b) (OapField.new oid ocid fid)

/-! ## The round trip -/

/-- A value that has a canonical text. -/
inductive OapValue
  | bool (v : Bool)
  | int (n : UInt16)
  | time (hour minute : Fin 100)
deriving DecidableEq, Repr

namespace OapValue

/-- The class of the fields with such values. -/
def fclass : OapValue → UInt8
  | .bool _ => oapTypeBool
  | .int _ => oapTypeInt
  | .time _ _ => oapTypeTime

/-- A number below 100 with two digits. -/
def zweiZiffern (n : Fin 100) : List Char :=
  [Nat.digitChar (n.val / 10), Nat.digitChar (n.val % 10)]

/-- The canonical text. -/
def text : OapValue → List Char
  | .bool v => if v then "true".toList else "false".toList
  | .int n => printU n.toNat
  | .time hour minute => zweiZiffern hour ++ ':' :: zweiZiffern minute

/-- What the board stores for the value. -/
def word : OapValue → UInt16
  | .bool v => if v then 1 else 0
  | .int n => n
  | .time hour minute => UInt16.ofNat (hour.val * 256 + minute.val)

end OapValue

/-- The text `v` written through `f` at `idx` is read through `g`, and no other
index of any field has changed. -/
def ReadsBack (b : OapBoard) (f g : OapField) (v : List Char) (idx : UInt8) : Prop :=
  ∃ b', f.setValueText b v idx = .ok b' ∧ g.valueAsString b' idx = .ok v ∧
    ∀ oid fid i, ¬ (oid = f.oid ∧ fid = f.fid ∧ i = idx) →
      b'.values oid fid i = b.values oid fid i

/-! ## Bytes and words -/

theorem toNat_word (hi lo : UInt8) :
    ((hi.toUInt16 <<< 8) ||| lo.toUInt16).toNat = hi.toNat * 256 + lo.toNat := by
  have hhi := hi.toNat_lt
  have hlo := lo.toNat_lt
  rw [UInt16.toNat_or, UInt16.toNat_shiftLeft, UInt8.toNat_toUInt16, UInt8.toNat_toUInt16,
    Nat.or_comm]
  show lo.toNat ||| hi.toNat <<< 8 % 2 ^ 16 = _
  rw [or_field_mod (k := 8) (by omega) (by omega)]
  omega

theorem toNat_hi (v : UInt16) : (v >>> 8).toUInt8.toNat = v.toNat / 256 := by
  have hv := v.toNat_lt
  rw [UInt16.toNat_toUInt8, UInt16.toNat_shiftRight]
  show v.toNat >>> 8 % 2 ^ 8 = _
  rw [Nat.shiftRight_eq_div_pow]
  omega

theorem and_lowByte (v : UInt16) : (v &&& 0xff).toUInt8 = v.toUInt8 := by
  apply UInt8.toNat_inj.mp
  rw [UInt16.toNat_toUInt8, UInt16.toNat_toUInt8, UInt16.toNat_and]
  show (v.toNat &&& 2 ^ 8 - 1) % 2 ^ 8 = _
  rw [and_lowMask, Nat.mod_mod]

/-- A word is put together from its bytes. -/
theorem word_bytes (v : UInt16) :
    ((v >>> 8).toUInt8.toUInt16 <<< 8) ||| v.toUInt8.toUInt16 = v := by
  apply UInt16.toNat_inj.mp
  rw [toNat_word, toNat_hi, UInt16.toNat_toUInt8]
  omega

namespace OapField

variable {b : OapBoard} {f : OapField} {idx : UInt8}

@[simp] theorem value_eq : f.value b idx = b.values f.oid f.fid idx := word_bytes _

theorem setValue_values (v : UInt16) (o g i : UInt8) :
    (f.setValue b v idx).values o g i =
      if o = f.oid ∧ g = f.fid ∧ i = idx then v else b.values o g i := by
  rw [setValue, and_lowByte, OapBoard.fieldWrite, word_bytes]

/-- A time is written as the word of its two bytes. -/
theorem setValueTime_eq (t : OapTime) :
    f.setValueTime b t idx =
      f.setValue b (UInt16.ofNat (t.hour.toNat * 256 + t.minute.toNat)) 0 := by
  have hlow : t.minute.toUInt16 &&& 0xff = t.minute.toUInt16 := by
    apply UInt16.toNat_inj.mp
    have hlt := t.minute.toNat_lt
    rw [UInt16.toNat_and, UInt8.toNat_toUInt16]
    show t.minute.toNat &&& 2 ^ 8 - 1 = _
    rw [and_lowMask]
    omega
  have hword : (t.hour.toUInt16 <<< 8) ||| t.minute.toUInt16 =
      UInt16.ofNat (t.hour.toNat * 256 + t.minute.toNat) := by
    apply UInt16.toNat_inj.mp
    have hhour := t.hour.toNat_lt
    have hminute := t.minute.toNat_lt
    rw [toNat_word, UInt16.toNat_ofNat']
    omega
  rw [setValueTime, hlow, hword]

/-! ## Texts of numbers -/

theorem decimal_zeros (k : Nat) (ds : List Char) :
    decimal (List.replicate k '0' ++ ds) = decimal ds := by
  induction k with
  | zero => rfl
  | succ k ih =>
      rw [List.replicate_succ, List.cons_append]
      exact ih

theorem decimal_setw2 (n : Nat) : decimal (setw2 n) = n := by
  rw [setw2, decimal_zeros, decimal_printU]

theorem isDigit_setw2 (n : Nat) : ∀ ch ∈ setw2 n, ch.isDigit = true := by
  intro ch hch
  rw [setw2, List.mem_append, List.mem_replicate] at hch
  rcases hch with ⟨-, rfl⟩ | hch
  · rfl
  · exact isDigit_of_mem_printU hch

theorem takeWhile_setw2 (n : Nat) (s : List Char) :
    (setw2 n ++ ':' :: s).takeWhile Char.isDigit = setw2 n := by
  rw [List.takeWhile_append_of_pos (isDigit_setw2 n)]
  simp

theorem dropWhile_setw2 (n : Nat) (s : List Char) :
    (setw2 n ++ ':' :: s).dropWhile Char.isDigit = ':' :: s := by
  rw [List.dropWhile_append_of_pos (isDigit_setw2 n)]
  simp

/-- The text of a time determines its numbers. -/
theorem setw2_injective {h m h' m' : Nat}
    (heq : setw2 h ++ ':' :: setw2 m = setw2 h' ++ ':' :: setw2 m') : h = h' ∧ m = m' := by
  have hhour := congrArg (List.takeWhile Char.isDigit) heq
  have hminute := congrArg (List.dropWhile Char.isDigit) heq
  rw [takeWhile_setw2, takeWhile_setw2] at hhour
  rw [dropWhile_setw2, dropWhile_setw2, List.cons_inj_right] at hminute
  constructor
  · rw [← decimal_setw2 h, hhour, decimal_setw2]
  · rw [← decimal_setw2 m, hminute, decimal_setw2]

theorem zweiZiffern_eq : ∀ n : Fin 100, OapValue.zweiZiffern n = setw2 n.val := by decide

/-! ## Writing a text -/

theorem text_printU (n : Nat) : Lib.text (printU n) = printU n := by
  have := text_append (notMem_printU rfl n) []
  simpa using this

/-- A number is neither of the truth values, and no time. -/
theorem setValueText_int (n : UInt16) :
    f.setValueText b (printU n.toNat) idx = .ok (f.setValue b n idx) := by
  have hdigits : ∀ ch ∈ printU n.toNat, ch.isDigit = true := fun ch => isDigit_of_mem_printU
  have hnotrue : printU n.toNat ≠ "true".toList := by
    intro h
    have := hdigits 't' (by rw [h]; decide)
    simp at this
  have hnofalse : printU n.toNat ≠ "false".toList := by
    intro h
    have := hdigits 'f' (by rw [h]; decide)
    simp at this
  have hdrop : (printU n.toNat).dropWhile Char.isDigit = [] := List.dropWhile_eq_nil_iff.mpr hdigits
  have hmatch : matchInt (printU n.toNat) = true := by
    have hne : printU n.toNat ≠ [] := Nat.toDigits_ne_nil
    have hall : (printU n.toNat).all Char.isDigit = true := List.all_eq_true.mpr hdigits
    simp [matchInt, hne, hall]
  have hcast : lexicalCastU16 (printU n.toNat) = .ok n := by
    rw [lexicalCastU16, decimal_printU, if_pos n.toNat_lt, UInt16.ofNat_toNat]
  rw [setValueText, text_printU, matchTime, hdrop]
  simp only [if_neg hnotrue, if_neg hnofalse, hmatch, hcast, if_true]
  rfl

/-- The text of a time. -/
def zeitText (h m : Fin 100) : List Char := setw2 h.val ++ ':' :: setw2 m.val

theorem colon_mem_zeitText (h m : Fin 100) : ':' ∈ zeitText h m := by simp [zeitText]

theorem text_zeitText (h m : Fin 100) : Lib.text (zeitText h m) = zeitText h m := by
  have hnul : nul ∉ zeitText h m := by
    intro hmem
    simp only [zeitText, List.mem_append, List.mem_cons] at hmem
    rcases hmem with hmem | heq | hmem
    · exact absurd (isDigit_setw2 _ _ hmem) (by decide)
    · exact absurd heq (by decide)
    · exact absurd (isDigit_setw2 _ _ hmem) (by decide)
  have := text_append hnul []
  simpa using this

theorem setw2_ne_nil (n : Nat) : setw2 n ≠ [] := by
  intro hnil
  have hprint : printU n ≠ [] := Nat.toDigits_ne_nil
  rw [setw2, List.append_eq_nil_iff] at hnil
  exact hprint hnil.2

theorem matchTime_zeitText (h m : Fin 100) :
    matchTime (zeitText h m) = some (setw2 h.val, setw2 m.val) := by
  have hall : (setw2 m.val).all Char.isDigit = true := List.all_eq_true.mpr (isDigit_setw2 _)
  simp only [matchTime, zeitText, takeWhile_setw2, dropWhile_setw2]
  simp [matchInt, setw2_ne_nil, hall]

theorem lexicalCastU16_setw2 (n : Fin 100) :
    lexicalCastU16 (setw2 n.val) = .ok (UInt16.ofNat n.val) := by
  have hlt := n.isLt
  rw [lexicalCastU16, decimal_setw2, if_pos (by omega)]

/-- A time is read as its two numbers, and written to index 0. -/
theorem setValueText_time (h m : Fin 100) :
    f.setValueText b (setw2 h.val ++ ':' :: setw2 m.val) idx =
      .ok (f.setValue b (UInt16.ofNat (h.val * 256 + m.val)) 0) := by
  have hnotrue : zeitText h m ≠ "true".toList := by
    intro heq
    exact absurd (heq ▸ colon_mem_zeitText h m) (by decide)
  have hnofalse : zeitText h m ≠ "false".toList := by
    intro heq
    exact absurd (heq ▸ colon_mem_zeitText h m) (by decide)
  have hbyte : ∀ n : Fin 100, (UInt16.ofNat n.val).toUInt8.toNat = n.val := by
    intro n
    have hlt := n.isLt
    rw [UInt16.toNat_toUInt8, UInt16.toNat_ofNat']
    omega
  show f.setValueText b (zeitText h m) idx = _
  rw [setValueText, text_zeitText]
  simp only [if_neg hnotrue, if_neg hnofalse, matchTime_zeitText, lexicalCastU16_setw2]
  show Except.ok (f.setValueTime b ⟨_, _⟩ idx) = _
  rw [setValueTime_eq]
  simp only [hbyte]

/-- The index a canonical text is written to. -/
def schreibIndex (x : OapValue) (idx : UInt8) : UInt8 :=
  match x with
  | .time _ _ => 0
  | _ => idx

theorem setValueText_text (x : OapValue) :
    f.setValueText b x.text idx = .ok (f.setValue b x.word (schreibIndex x idx)) := by
  cases x with
  | bool v => cases v <;> rfl
  | int n => exact setValueText_int n
  | time h m =>
      rw [OapValue.text, zweiZiffern_eq, zweiZiffern_eq]
      exact setValueText_time h m

/-! ## Reading a text -/

theorem valueAsString_time (h : f.fcid = oapTypeTime) :
    f.valueAsString b idx =
      .ok (setw2 ((b.values f.oid f.fid idx).toNat / 256) ++
        ':' :: setw2 ((b.values f.oid f.fid idx).toNat % 256)) := by
  rw [valueAsString, if_neg (by rw [h]; decide), if_neg (by rw [h]; decide), if_pos h, valueAsTime]
  simp only [value_eq, toNat_hi, and_lowByte]
  rw [UInt16.toNat_toUInt8]

/-- The text of the value that is stored. -/
theorem valueAsString_word {x : OapValue} (hclass : f.fcid = x.fclass)
    (hword : b.values f.oid f.fid idx = x.word) : f.valueAsString b idx = .ok x.text := by
  cases x with
  | bool v =>
      have hbool : f.fcid = oapTypeBool := hclass
      rw [valueAsString, if_pos hbool, value_eq, hword]
      cases v <;> rfl
  | int n =>
      have hint : f.fcid = oapTypeInt := hclass
      rw [valueAsString, if_neg (by rw [hint]; decide), if_pos hint, value_eq, hword]
      rfl
  | time h m =>
      have hh := h.isLt
      have hm := m.isLt
      rw [valueAsString_time hclass, hword, OapValue.word, UInt16.toNat_ofNat', OapValue.text,
        zweiZiffern_eq, zweiZiffern_eq]
      congr <;> omega

/-- The text of a time is the one of no other value. -/
theorem word_of_valueAsString {h m : Fin 100} (hclass : f.fcid = oapTypeTime)
    (htext : f.valueAsString b idx = .ok (OapValue.time h m).text) :
    b.values f.oid f.fid idx = (OapValue.time h m).word := by
  rw [valueAsString_time hclass, OapValue.text, zweiZiffern_eq, zweiZiffern_eq] at htext
  obtain ⟨hhour, hminute⟩ := setw2_injective (Except.ok.inj htext)
  apply UInt16.toNat_inj.mp
  have hlt := (b.values f.oid f.fid idx).toNat_lt
  rw [OapValue.word, UInt16.toNat_ofNat']
  omega

theorem valueAsString_unloaded (h : f.fcid = 255) :
    f.valueAsString b idx = .error .unknownFieldClass := by
  rw [valueAsString, if_neg (by rw [h]; decide), if_neg (by rw [h]; decide),
    if_neg (by rw [h]; decide)]

end OapField

/-! ## The objects of a field -/

/-- What is known of an object: its class is fetched or still 255. -/
structure IstObjekt (b : OapBoard) (oid fid : UInt8) (loaded : Bool) (f : OapField) : Prop where
  object : f.oid = oid
  field : f.fid = fid
  details : f.detailsLoaded = loaded
  fieldClass : f.fcid = if loaded then (b.attributes oid fid).fclass else 255

theorem IstObjekt.call {b : OapBoard} {oid fid : UInt8} {loaded : Bool} {f : OapField}
    (h : IstObjekt b oid fid loaded f) (m : FieldMethod) :
    IstObjekt b oid fid (loaded || m.loadsDetails) (m.call b f) := by
  rw [FieldMethod.call]
  cases hm : m.loadsDetails with
  | false => simpa using h
  | true =>
      obtain ⟨hoid, hfid, hloaded, hfcid⟩ := h
      rw [Bool.or_true, if_pos rfl, OapField.loadDetails]
      split_ifs with hfirst
      · exact ⟨hoid, hfid, rfl, by simp [hoid, hfid]⟩
      · have hdone : loaded = true := by
          rw [← hloaded]
          simpa using hfirst
        subst hdone
        exact ⟨hoid, hfid, hloaded, hfcid⟩

theorem IstObjekt.calls {b : OapBoard} {oid fid : UInt8} {loaded : Bool} {f : OapField}
    (h : IstObjekt b oid fid loaded f) (ms : List FieldMethod) :
    IstObjekt b oid fid (loaded || ms.any (·.loadsDetails)) (ms.foldl (FieldMethod.call b) f) := by
  induction ms generalizing loaded f with
  | nil => simpa using h
  | cons m ms ih =>
      rw [List.any_cons, ← Bool.or_assoc]
      exact ih (h.call m)

theorem istObjekt_fieldObject (b : OapBoard) (oid ocid fid : UInt8) (ms : List FieldMethod) :
    IstObjekt b oid fid (ms.any (·.loadsDetails)) (fieldObject b oid ocid fid ms) := by
  have hnew : IstObjekt b oid fid false (OapField.new oid ocid fid) := ⟨rfl, rfl, rfl, rfl⟩
  exact hnew.calls ms

section

variable {b : OapBoard} {f g : OapField} {x : OapValue} {idx : UInt8}

/-- A text that is written to the index it is read from. -/
theorem roundTrips_direct (hoid : g.oid = f.oid) (hfid : g.fid = f.fid) (hclass : g.fcid = x.fclass)
    (hindex : OapField.schreibIndex x idx = idx) : ReadsBack b f g x.text idx := by
  refine ⟨_, OapField.setValueText_text x, ?_, ?_⟩
  · apply OapField.valueAsString_word hclass
    rw [OapField.setValue_values, if_pos ⟨hoid, hfid, hindex.symm⟩]
  · intro o g' i hother
    rw [OapField.setValue_values, hindex, if_neg hother]

/-- A time at another index: index 0 is written, the other one is read as it was. -/
theorem roundTrips_time_iff (hoid : g.oid = f.oid) (hfid : g.fid = f.fid)
    (hclass : g.fcid = oapTypeTime) (hidx : idx ≠ 0) (h m : Fin 100) :
    ReadsBack b f g (OapValue.time h m).text idx ↔
      b.values f.oid f.fid 0 = (OapValue.time h m).word ∧
        b.values f.oid f.fid idx = (OapValue.time h m).word := by
  have hread : (f.setValue b (OapValue.time h m).word 0).values g.oid g.fid idx =
      b.values f.oid f.fid idx := by
    rw [OapField.setValue_values, if_neg fun heq => hidx heq.2.2, hoid, hfid]
  constructor
  · rintro ⟨b', hwritten, htext, hothers⟩
    rw [OapField.setValueText_text] at hwritten
    obtain rfl := Except.ok.inj hwritten
    have hzero := hothers f.oid f.fid 0 fun heq => hidx heq.2.2.symm
    rw [OapField.setValue_values, if_pos ⟨rfl, rfl, rfl⟩] at hzero
    exact ⟨hzero.symm, hread.symm.trans (OapField.word_of_valueAsString hclass htext)⟩
  · rintro ⟨hzero, hold⟩
    refine ⟨_, OapField.setValueText_text _, ?_, ?_⟩
    · exact OapField.valueAsString_word hclass (hread.trans hold)
    · intro o g' i _
      rw [OapField.setValue_values]
      split_ifs with hwritten
      · obtain ⟨rfl, rfl, rfl⟩ := hwritten
        exact hzero.symm
      · rfl

theorem not_readsBack_unloaded (h : g.fcid = 255) : ¬ ReadsBack b f g x.text idx := by
  rintro ⟨b', -, htext, -⟩
  rw [OapField.valueAsString_unloaded h] at htext
  cases htext

end

/-- **The round trip** through two objects of a field: it goes through exactly if the
object that is read has fetched the class of the field, and for a time at another
index than 0 the board has held the value already. -/
theorem oap_roundTrip_iff (b : OapBoard) (oid ocid fid idx : UInt8) (ms ms' : List FieldMethod)
    (x : OapValue) (hclass : (b.attributes oid fid).fclass = x.fclass) :
    ReadsBack b (fieldObject b oid ocid fid ms) (fieldObject b oid ocid fid ms') x.text idx ↔
      (∃ m ∈ ms', m.loadsDetails = true) ∧
        (x.fclass = oapTypeTime →
          idx = 0 ∨ (b.values oid fid 0 = x.word ∧ b.values oid fid idx = x.word)) := by
  have hf := istObjekt_fieldObject b oid ocid fid ms
  have hg := istObjekt_fieldObject b oid ocid fid ms'
  have hoid := hg.object.trans hf.object.symm
  have hfid := hg.field.trans hf.field.symm
  have hfcid := hg.fieldClass
  rw [← List.any_eq_true]
  cases hloads : ms'.any (·.loadsDetails) with
  | false =>
      rw [hloads] at hfcid
      exact iff_of_false (not_readsBack_unloaded hfcid) (by simp)
  | true =>
      rw [hloads, if_pos rfl, hclass] at hfcid
      rw [and_iff_right rfl]
      cases x with
      | bool v =>
          refine iff_of_true (roundTrips_direct hoid hfid hfcid rfl) fun htime => ?_
          exact absurd (show oapTypeBool = oapTypeTime from htime) (by decide)
      | int n =>
          refine iff_of_true (roundTrips_direct hoid hfid hfcid rfl) fun htime => ?_
          exact absurd (show oapTypeInt = oapTypeTime from htime) (by decide)
      | time h m =>
          rw [imp_iff_right (show (OapValue.time h m).fclass = oapTypeTime from rfl)]
          by_cases hidx : idx = 0
          · exact iff_of_true (roundTrips_direct hoid hfid hfcid hidx.symm) (Or.inl hidx)
          · rw [roundTrips_time_iff hoid hfid hfcid hidx, hf.object, hf.field, or_iff_right hidx]

/-- A board whose only field is the time 00:00. -/
private def uhrBoard : OapBoard := ⟨fun _ _ _ => 0, fun _ _ => ⟨oapTypeTime, 0, 4⟩⟩

theorem oap_roundTrip_iff_uhr :
    ReadsBack uhrBoard (fieldObject uhrBoard 0 22 5 []) (fieldObject uhrBoard 0 22 5 [.name])
        "12:30".toList 0 ↔
      (∃ m ∈ [FieldMethod.name], m.loadsDetails = true) ∧
        ((OapValue.time 12 30).fclass = oapTypeTime →
          (0 : UInt8) = 0 ∨ (uhrBoard.values 0 5 0 = (OapValue.time 12 30).word ∧
            uhrBoard.values 0 5 0 = (OapValue.time 12 30).word)) :=
  oap_roundTrip_iff uhrBoard 0 22 5 0 [] [.name] (.time 12 30) rfl

/-- At index 1 the text 12:30 does not come back. -/
theorem oap_time_indexLost :
    ¬ ReadsBack uhrBoard (fieldObject uhrBoard 0 22 5 []) (fieldObject uhrBoard 0 22 5 [.name])
      "12:30".toList 1 := by
  intro h
  have hg : (fieldObject uhrBoard 0 22 5 [.name]).fcid = oapTypeTime := rfl
  have hstored := ((roundTrips_time_iff rfl rfl hg (by decide) 12 30).mp h).1
  exact absurd hstored (by decide)

end OpenHcan.Host
