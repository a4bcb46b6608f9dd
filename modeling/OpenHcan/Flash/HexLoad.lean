import OpenHcan.Flash.CmdFlash

/-!
# HexLoad — `ihexfile::load`, from the text of a file

`load` reads a file line by line into a buffer of 512 bytes, takes the length,
the type and the data of each record from fixed columns, and fills the last
page up. Addresses and checksums are not looked at. Three of its limits show:
a line that does not fit into the buffer ends the loop without an error, the
counter of the padding loop has 8 bits, and `size()` has 16.
-/

namespace OpenHcan.Flash

set_option maxRecDepth 100000

/-! ## The function -/

/-- `std::out_of_range`, thrown by `substr`. -/
inductive LoadError
  | outOfRange
deriving DecidableEq, Repr

/-- `sizeof(buf)` -/
def lineBuffer : Nat := 512

def hexDigit (c : Char) : Option Nat :=
  if '0' ≤ c ∧ c ≤ '9' then some (c.toNat - 48)
  else if 'A' ≤ c ∧ c ≤ 'F' then some (c.toNat - 55)
  else if 'a' ≤ c ∧ c ≤ 'f' then some (c.toNat - 87)
  else none

/-- What a stream in base 16 reads of the digits at its start. -/
def readHex : Nat → List Char → Nat
  | value, [] => value
  | value, c :: cs =>
      match hexDigit c with
      | some d => readHex (16 * value + d) cs
      | none => value

/-- `str2hex` -/
def str2hex (s : List Char) : UInt8 := UInt8.ofNat (readHex 0 s)

/-- `string::substr` -/
def substr (s : List Char) (pos n : Nat) : Except LoadError (List Char) :=
  if pos ≤ s.length then .ok ((s.drop pos).take n) else .error .outOfRange

/-- `in.getline(buf, sizeof(buf))`: the line and the rest of the file; `none` at
its end and for a line that does not fit. -/
def getline (file : List Char) : Option (List Char × List Char) :=
  let line := file.takeWhile (· ≠ '\n')
  if file = [] ∨ lineBuffer ≤ line.length then none
  else some (line, (file.drop line.length).tail)

/-- The loop over the bytes of a data record: `n` are left, `i` is the next. -/
def pushData (dataline : List Char) : Nat → Nat → List UInt8 → Except LoadError (List UInt8)
  | 0, _, mData => .ok mData
  | n + 1, i, mData => do
      let s ← substr dataline (i * 2) 2
      pushData dataline n (i + 1) (mData ++ [str2hex s])

/-- What `load` does with a line. -/
def loadLine (line : List Char) (mData : List UInt8) : Except LoadError (List UInt8) := do
  if line = [] then return mData
  let length := (str2hex (← substr line 1 2)).toNat
  let rectype := str2hex (← substr line 7 2)
  if rectype = 0 then pushData (← substr line 9 (length * 2)) length 0 mData
  else return mData

/-- The loop over the lines; every line takes a character of the file at least. -/
def loadLines : Nat → List Char → List UInt8 → Except LoadError (List UInt8)
  | 0, _, mData => .ok mData
  | n + 1, file, mData =>
      match getline file with
      | none => .ok mData
      | some (line, rest) => do
          let mData ← loadLine line mData
          loadLines n rest mData

/-- The padding loop with its 8-bit counter; `none` if it does not end within
`rounds` tests of its condition. -/
def padLoop (missing : Nat) : Nat → UInt8 → List UInt8 → Option (List UInt8)
  | 0, _, _ => none
  | rounds + 1, i, mData =>
      if i.toNat < missing then padLoop missing rounds (i + 1) (mData ++ [0xff]) else some mData

/-- `ihexfile::load` -/
def ihexfileLoad (rounds : Nat) (file : List Char) (pageSize : Nat) :
    Except LoadError (Option (List UInt8)) := do
  let mData ← loadLines file.length file []
  return padLoop (pageSize - mData.length % pageSize) rounds 0 mData

/-- `ihexfile::size` -/
def ihexfileSize (mData : List UInt8) : UInt16 := UInt16.ofNat mData.length

/-- The size check of `cmd_flash` against a known limit. -/
def tooLarge (mData : List UInt8) (arch : UInt8) : Bool :=
  maxsize arch ≠ 0 ∧ maxsize arch < (ihexfileSize mData).toNat

/-! ## Intel-HEX files -/

/-- A record: address, type and at most 255 bytes of data. -/
structure HexRecord where
  addr : UInt16
  rectype : UInt8
  data : List UInt8
  fits : data.length ≤ 255

/-- The bytes of a record in front of its checksum. -/
def HexRecord.body (r : HexRecord) : List UInt8 :=
  UInt8.ofNat r.data.length :: hiByte r.addr.toNat :: loByte r.addr.toNat :: r.rectype :: r.data

/-- All bytes; their sum is 0. -/
def HexRecord.bytes (r : HexRecord) : List UInt8 :=
  r.body ++ [r.body.foldl (fun sum b => sum - b) 0]

/-- The digits `cs` stand for the bytes `bs`, in upper or lower case. -/
inductive HexText : List UInt8 → List Char → Prop
  | nil : HexText [] []
  | cons {b : UInt8} {hi lo : Char} {bs : List UInt8} {cs : List Char} {h l : Nat} :
      hexDigit hi = some h → hexDigit lo = some l → b.toNat = 16 * h + l → HexText bs cs →
        HexText (b :: bs) (hi :: lo :: cs)

/-- The line of a record, which may end in a carriage return. -/
def IsRecordLine (r : HexRecord) (line : List Char) : Prop :=
  ∃ cs, HexText r.bytes cs ∧ (line = ':' :: cs ∨ line = ':' :: cs ++ ['\r'])

/-- A line of an Intel-HEX file: empty, or a record. -/
structure HexLine where
  text : List Char
  record : Option HexRecord
  right : match record with
    | none => text = []
    | some r => IsRecordLine r text

/-- The data bytes of a line: those of a data record. -/
def HexLine.data (l : HexLine) : List UInt8 :=
  match l.record with
  | none => []
  | some r => if r.rectype = 0 then r.data else []

/-- The concatenation of the data bytes of all data records. -/
def dataOf (lines : List HexLine) : List UInt8 := lines.flatMap HexLine.data

/-- The file consists of these lines; the last one may lack its newline. -/
def IsHexFile (lines : List HexLine) (file : List Char) : Prop :=
  file = lines.flatMap (fun l => l.text ++ ['\n']) ∨
    ∃ front last, lines = front ++ [last] ∧ last.text ≠ [] ∧
      file = front.flatMap (fun l => l.text ++ ['\n']) ++ last.text

/-! ## One record -/

section

variable {bs : List UInt8} {cs : List Char}

theorem hexDigit_newline : hexDigit '\n' = none := by decide

theorem HexText.length (h : HexText bs cs) : cs.length = 2 * bs.length := by
  induction h with
  | nil => rfl
  | cons _ _ _ _ ih =>
      simp only [List.length_cons, ih]
      omega

theorem HexText.no_newline (h : HexText bs cs) : ∀ c ∈ cs, c ≠ '\n' := by
  induction h with
  | nil => simp
  | cons hhi hlo _ _ ih =>
      intro c hc heq
      subst heq
      rcases List.mem_cons.mp hc with rfl | hc
      · rw [hexDigit_newline] at hhi
        cases hhi
      rcases List.mem_cons.mp hc with rfl | hc
      · rw [hexDigit_newline] at hlo
        cases hlo
      · exact ih _ hc rfl

/-- Two digits are read back as their byte, whatever follows the text. -/
theorem HexText.str2hex_eq (h : HexText bs cs) (tail : List Char) {i : Nat} (hi : i < bs.length) :
    str2hex (((cs ++ tail).drop (2 * i)).take 2) = bs[i] := by
  induction h generalizing i with
  | nil => simp at hi
  | @cons b hi' lo bs cs d e hhi hlo hb _ ih =>
      cases i with
      | zero =>
          have hread : readHex 0 [hi', lo] = b.toNat := by
            rw [hb]
            simp only [readHex, hhi, hlo]
            omega
          show UInt8.ofNat (readHex 0 [hi', lo]) = b
          rw [hread, UInt8.ofNat_toNat]
      | succ i =>
          rw [List.length_cons] at hi
          rw [List.getElem_cons_succ]
          exact ih (by omega)

end

theorem substr_ok {s : List Char} {pos : Nat} (h : pos ≤ s.length) (n : Nat) :
    substr s pos n = .ok ((s.drop pos).take n) := by
  unfold substr
  rw [if_pos h]

/-- The loop over the bytes takes what the digits from `i` on stand for. -/
theorem pushData_eq {dataline : List Char} (xs : List UInt8) (i : Nat) (mData : List UInt8)
    (hlength : (i + xs.length) * 2 ≤ dataline.length)
    (hdigits : ∀ j (h : j < xs.length),
      str2hex ((dataline.drop ((i + j) * 2)).take 2) = xs[j]) :
    pushData dataline xs.length i mData = .ok (mData ++ xs) := by
  induction xs generalizing i mData with
  | nil => rw [List.append_nil]; rfl
  | cons x xs ih =>
      have hfirst : str2hex ((dataline.drop (i * 2)).take 2) = x :=
        hdigits 0 (by simp)
      rw [List.length_cons] at hlength
      rw [List.length_cons, pushData, substr_ok (by omega)]
      show pushData dataline xs.length (i + 1) (mData ++ [str2hex _]) = _
      rw [hfirst, ih (i + 1) (mData ++ [x]) (by omega)]
      · rw [List.append_assoc, List.singleton_append]
      · intro j hj
        have hnext := hdigits (j + 1) (by rw [List.length_cons]; omega)
        rw [List.getElem_cons_succ] at hnext
        rw [← hnext]
        congr 4
        omega

theorem HexRecord.length_bytes (r : HexRecord) : r.bytes.length = r.data.length + 5 := by
  simp [HexRecord.bytes, HexRecord.body]

/-- The fixed columns of a record. -/
theorem HexRecord.getElem_bytes (r : HexRecord) {j : Nat} (h : j < r.data.length)
    (h' : 4 + j < r.bytes.length) : r.bytes[4 + j] = r.data[j] := by
  have hj : 4 + j = j + 4 := Nat.add_comm 4 j
  simp only [HexRecord.bytes, HexRecord.body, hj, List.cons_append, List.getElem_cons_succ]
  exact List.getElem_append_left h

/-- **A record is taken apart right**, whatever follows its digits in the line. -/
theorem loadLine_record {r : HexRecord} {cs : List Char} (h : HexText r.bytes cs)
    (tail : List Char) (mData : List UInt8) :
    loadLine (':' :: (cs ++ tail)) mData =
      .ok (mData ++ if r.rectype = 0 then r.data else []) := by
  have hfits := r.fits
  have hlength : (cs ++ tail).length = 2 * (r.data.length + 5) + tail.length := by
    rw [List.length_append, h.length, r.length_bytes]
  have hlen : str2hex (((cs ++ tail).drop 0).take 2) = UInt8.ofNat r.data.length :=
    h.str2hex_eq tail (i := 0) (by rw [r.length_bytes]; omega)
  have htype : str2hex (((cs ++ tail).drop 6).take 2) = r.rectype :=
    h.str2hex_eq tail (i := 3) (by rw [r.length_bytes]; omega)
  have hcount : (UInt8.ofNat r.data.length).toNat = r.data.length := by
    rw [UInt8.toNat_ofNat']
    omega
  have hcolumn : ∀ pos n, pos ≤ 8 →
      substr (':' :: (cs ++ tail)) (pos + 1) n = .ok (((cs ++ tail).drop pos).take n) := by
    intro pos n hpos
    rw [substr_ok (by rw [List.length_cons]; omega), List.drop_succ_cons]
  have h1 : substr (':' :: (cs ++ tail)) 1 2 = _ := hcolumn 0 2 (by omega)
  have h7 : substr (':' :: (cs ++ tail)) 7 2 = _ := hcolumn 6 2 (by omega)
  have h9 : ∀ n, substr (':' :: (cs ++ tail)) 9 n = .ok (((cs ++ tail).drop 8).take n) :=
    fun n => hcolumn 8 n (Nat.le_refl 8)
  unfold loadLine
  rw [if_neg (List.cons_ne_nil _ _), h1, h7]
  simp only [h9, bind, Except.bind, hlen, htype, hcount]
  by_cases hdata : r.rectype = 0
  · rw [if_pos hdata, if_pos hdata]
    apply pushData_eq
    · rw [List.length_take, List.length_drop]
      omega
    · intro j hj
      have hbyte := h.str2hex_eq tail (i := 4 + j) (by rw [r.length_bytes]; omega)
      rw [r.getElem_bytes hj] at hbyte
      rw [← hbyte, List.drop_take, List.drop_drop, List.take_take]
      congr 2
      · omega
      · congr 1
        omega
  · rw [if_neg hdata, if_neg hdata, List.append_nil]
    rfl

/-! ## The lines of a file -/

theorem HexLine.no_newline (l : HexLine) : ∀ c ∈ l.text, c ≠ '\n' := by
  have hright := l.right
  cases hrecord : l.record with
  | none =>
      rw [hrecord] at hright
      rw [hright]
      simp
  | some r =>
      rw [hrecord] at hright
      obtain ⟨cs, hcs, htext⟩ := hright
      intro c hc heq
      rcases htext with htext | htext
      · rw [htext] at hc
        rcases List.mem_cons.mp hc with rfl | hc
        · revert heq
          decide
        · exact hcs.no_newline c hc heq
      · rw [htext, List.cons_append] at hc
        rcases List.mem_cons.mp hc with rfl | hc
        · revert heq
          decide
        rcases List.mem_append.mp hc with hc | hc
        · exact hcs.no_newline c hc heq
        · rw [List.mem_singleton.mp hc] at heq
          revert heq
          decide

theorem loadLine_eq (l : HexLine) (mData : List UInt8) :
    loadLine l.text mData = .ok (mData ++ l.data) := by
  have hright := l.right
  unfold HexLine.data
  cases hrecord : l.record with
  | none =>
      rw [hrecord] at hright
      rw [hright, List.append_nil]
      rfl
  | some r =>
      rw [hrecord] at hright
      obtain ⟨cs, hcs, htext⟩ := hright
      have htail : ∃ tail, l.text = ':' :: (cs ++ tail) := by
        rcases htext with htext | htext
        · exact ⟨[], by rw [htext, List.append_nil]⟩
        · exact ⟨['\r'], htext⟩
      obtain ⟨tail, htail⟩ := htail
      rw [htail]
      exact loadLine_record hcs tail mData

theorem takeWhile_line (l : HexLine) (rest : List Char)
    (hrest : rest = [] ∨ ∃ cs, rest = '\n' :: cs) :
    (l.text ++ rest).takeWhile (· ≠ '\n') = l.text := by
  rw [List.takeWhile_append_of_pos fun c hc => by simpa using l.no_newline c hc]
  rcases hrest with rfl | ⟨cs, rfl⟩
  · simp
  · simp

/-- The line fits into the buffer. -/
def HexLine.Short (l : HexLine) : Prop := l.text.length < lineBuffer

instance (l : HexLine) : Decidable l.Short := inferInstanceAs (Decidable (_ < _))

theorem getline_line (l : HexLine) (rest : List Char) :
    getline (l.text ++ '\n' :: rest) = if l.Short then some (l.text, rest) else none := by
  have hnil : l.text ++ '\n' :: rest ≠ [] := by simp
  unfold getline
  dsimp only
  rw [takeWhile_line l _ (.inr ⟨rest, rfl⟩), List.drop_left, List.tail_cons]
  by_cases hshort : l.Short
  · rw [if_neg (not_or.mpr ⟨hnil, Nat.not_le_of_lt hshort⟩), if_pos hshort]
  · rw [if_pos (.inr (Nat.le_of_not_lt hshort)), if_neg hshort]

theorem getline_last (l : HexLine) (hne : l.text ≠ []) :
    getline l.text = if l.Short then some (l.text, []) else none := by
  have htake := takeWhile_line l [] (.inl rfl)
  rw [List.append_nil] at htake
  unfold getline
  dsimp only
  rw [htake, List.drop_length, List.tail_nil]
  by_cases hshort : l.Short
  · rw [if_neg (not_or.mpr ⟨hne, Nat.not_le_of_lt hshort⟩), if_pos hshort]
  · rw [if_pos (.inr (Nat.le_of_not_lt hshort)), if_neg hshort]

/-- The lines in front of the first that does not fit. -/
def linesRead (lines : List HexLine) : List HexLine := lines.takeWhile fun l => decide l.Short

/-- That line and the ones behind it. -/
def linesLeft (lines : List HexLine) : List HexLine := lines.dropWhile fun l => decide l.Short

theorem loadLines_nil (n : Nat) (mData : List UInt8) : loadLines n [] mData = .ok mData := by
  cases n with
  | zero => rfl
  | succ n => rfl

theorem loadLines_some {n : Nat} {file rest : List Char} {l : HexLine} {mData : List UInt8}
    (h : getline file = some (l.text, rest)) :
    loadLines (n + 1) file mData = loadLines n rest (mData ++ l.data) := by
  rw [loadLines, h]
  dsimp only
  rw [loadLine_eq]
  rfl

theorem loadLines_none {n : Nat} {file : List Char} {mData : List UInt8}
    (h : getline file = none) : loadLines (n + 1) file mData = .ok mData := by
  rw [loadLines, h]

/-- The lines with a newline in front of what is known to be read right. -/
theorem loadLines_front (front : List HexLine) {tailLines : List HexLine} {file : List Char}
    (htail : ∀ n mData, file.length ≤ n →
      loadLines n file mData = .ok (mData ++ dataOf (linesRead tailLines)))
    (n : Nat) (mData : List UInt8)
    (hn : (front.flatMap (fun l => l.text ++ ['\n']) ++ file).length ≤ n) :
    loadLines n (front.flatMap (fun l => l.text ++ ['\n']) ++ file) mData =
      .ok (mData ++ dataOf (linesRead (front ++ tailLines))) := by
  induction front generalizing n mData with
  | nil => exact htail n mData hn
  | cons l front ih =>
      have hfile : (l :: front).flatMap (fun l => l.text ++ ['\n']) ++ file =
          l.text ++ '\n' :: (front.flatMap (fun l => l.text ++ ['\n']) ++ file) := by
        simp [List.flatMap_cons]
      rw [hfile] at hn ⊢
      rw [List.length_append, List.length_cons] at hn
      obtain ⟨k, rfl⟩ : ∃ k, n = k + 1 := ⟨n - 1, by omega⟩
      have hget := getline_line l (front.flatMap (fun l => l.text ++ ['\n']) ++ file)
      unfold linesRead at ih ⊢
      rw [List.cons_append, List.takeWhile_cons]
      by_cases hshort : l.Short
      · rw [if_pos hshort] at hget
        rw [loadLines_some hget, ih k (mData ++ l.data) (by omega), if_pos (decide_eq_true hshort),
          dataOf, dataOf, List.flatMap_cons, List.append_assoc]
      · rw [if_neg hshort] at hget
        rw [loadLines_none hget, if_neg (by simp [hshort]), dataOf, List.flatMap_nil,
          List.append_nil]

/-- **What is read of a file**: the data of the lines in front of the first that
does not fit. -/
theorem loadLines_file {lines : List HexLine} {file : List Char} (h : IsHexFile lines file) :
    loadLines file.length file [] = .ok (dataOf (linesRead lines)) := by
  rcases h with rfl | ⟨front, last, rfl, hne, rfl⟩
  · have hend : ∀ n (mData : List UInt8), ([] : List Char).length ≤ n →
        loadLines n [] mData = .ok (mData ++ dataOf (linesRead [])) := by
      intro n mData _
      rw [loadLines_nil]
      exact congrArg Except.ok (List.append_nil mData).symm
    have hall := loadLines_front lines hend _ [] (Nat.le_refl _)
    rw [List.append_nil, List.append_nil, List.nil_append] at hall
    exact hall
  · have hend : ∀ n (mData : List UInt8), last.text.length ≤ n →
        loadLines n last.text mData = .ok (mData ++ dataOf (linesRead [last])) := by
      intro n mData hn
      have hpos := List.length_pos_iff.mpr hne
      obtain ⟨k, rfl⟩ : ∃ k, n = k + 1 := ⟨n - 1, by omega⟩
      have hget := getline_last last hne
      unfold linesRead
      rw [List.takeWhile_cons, List.takeWhile_nil]
      by_cases hshort : last.Short
      · rw [if_pos hshort] at hget
        rw [loadLines_some hget, loadLines_nil, if_pos (decide_eq_true hshort), dataOf,
          List.flatMap_cons, List.flatMap_nil, List.append_nil]
      · rw [if_neg hshort] at hget
        rw [loadLines_none hget, if_neg (by simp [hshort]), dataOf, List.flatMap_nil,
          List.append_nil]
    exact loadLines_front front hend _ [] (Nat.le_refl _)

/-! ## The padding -/

/-- The loop ends behind its last round, if the counter can get there. -/
theorem padLoop_eq {missing : Nat} (h : missing ≤ 255) (rounds : Nat) {i : Nat} (hi : i ≤ missing)
    (mData : List UInt8) :
    padLoop missing rounds (UInt8.ofNat i) mData =
      if missing - i < rounds then some (mData ++ List.replicate (missing - i) 0xff) else none := by
  induction rounds generalizing i mData with
  | zero => rfl
  | succ rounds ih =>
      have hcounter : (UInt8.ofNat i).toNat = i := by
        rw [UInt8.toNat_ofNat']
        omega
      rw [padLoop, hcounter]
      by_cases hlt : i < missing
      · have hnext : UInt8.ofNat i + 1 = UInt8.ofNat (i + 1) := by
          rw [UInt8.ofNat_add]
          rfl
        have hmore : missing - i = missing - (i + 1) + 1 := by omega
        rw [if_pos hlt, hnext, ih hlt, hmore, List.replicate_succ, List.append_assoc,
          List.singleton_append]
        simp only [Nat.add_lt_add_iff_right]
      · have hend : missing - i = 0 := by omega
        rw [if_neg hlt, hend, if_pos (Nat.succ_pos rounds), List.replicate_zero, List.append_nil]

/-- A bound of 256 or more is never reached. -/
theorem padLoop_never {missing : Nat} (h : 256 ≤ missing) (rounds : Nat) (i : UInt8)
    (mData : List UInt8) : padLoop missing rounds i mData = none := by
  induction rounds generalizing i mData with
  | zero => rfl
  | succ rounds ih =>
      have hi := i.toNat_lt
      rw [padLoop, if_pos (by omega)]
      exact ih _ _

/-! ## What `load` leaves -/

section

variable {pageSize : Nat} {lines : List HexLine} {file : List Char}

theorem ihexfileLoad_eq (h : IsHexFile lines file) (rounds : Nat) :
    ihexfileLoad rounds file pageSize =
      .ok (padLoop (padding pageSize (dataOf (linesRead lines)).length) rounds 0
        (dataOf (linesRead lines))) := by
  unfold ihexfileLoad
  rw [loadLines_file h]
  rfl

/-- **What `load` returns**, if it does: the data of the lines that fit, padded. -/
theorem ihexfileLoad_some_iff (h : IsHexFile lines file) (mData : List UInt8) :
    (∃ rounds, ihexfileLoad rounds file pageSize = .ok (some mData)) ↔
      padding pageSize (dataOf (linesRead lines)).length ≤ 255 ∧
        mData = dataOf (linesRead lines) ++
          List.replicate (padding pageSize (dataOf (linesRead lines)).length) 0xff := by
  have hloop : ∀ rounds, ihexfileLoad rounds file pageSize = _ := ihexfileLoad_eq h
  generalize dataOf (linesRead lines) = read at hloop ⊢
  by_cases hends : padding pageSize read.length ≤ 255
  · have hpad : ∀ rounds, padLoop (padding pageSize read.length) rounds 0 read = _ :=
      fun rounds => padLoop_eq hends rounds (Nat.zero_le _) read
    constructor
    · rintro ⟨rounds, hresult⟩
      rw [hloop, hpad] at hresult
      have hsome := Except.ok.inj hresult
      split at hsome
      · exact ⟨hends, (Option.some.inj hsome).symm⟩
      · cases hsome
    · rintro ⟨-, rfl⟩
      refine ⟨256, ?_⟩
      rw [hloop, hpad, if_pos (by omega), Nat.sub_zero]
  · refine iff_of_false ?_ fun hright => hends hright.1
    rintro ⟨rounds, hresult⟩
    rw [hloop, padLoop_never (by omega)] at hresult
    cases Except.ok.inj hresult

/-- The loaded file of the other modules is what `load` makes of the data it has read. -/
theorem loadIhexfile_eq (h : IsHexFile lines file) (mData : List UInt8) :
    (∃ rounds, ihexfileLoad rounds file pageSize = .ok (some mData)) ↔
      (loadIhexfile pageSize (dataOf (linesRead lines))).map Ihexfile.data = some mData := by
  rw [ihexfileLoad_some_iff h]
  unfold loadIhexfile
  by_cases hends : padding pageSize (dataOf (linesRead lines)).length ≤ 255
  · rw [dif_pos hends]
    constructor
    · rintro ⟨-, rfl⟩
      rfl
    · intro hsome
      exact ⟨hends, (Option.some.inj hsome).symm⟩
  · rw [dif_neg hends]
    exact iff_of_false (fun hright => hends hright.1) (fun hnone => by cases hnone)

/-- What should come out of a file: `load` ends with the data of all data
records and one to `pageSize` bytes 0xff behind them, in whole pages; `size()`
is the length, and no image above a known limit passes the check. -/
def LoadsRight (pageSize : Nat) (lines : List HexLine) (file : List Char) : Prop :=
  ∃ mData, (∃ rounds, ihexfileLoad rounds file pageSize = .ok (some mData)) ∧
    (∃ n, 1 ≤ n ∧ n ≤ pageSize ∧ mData = dataOf lines ++ List.replicate n 0xff) ∧
    pageSize ∣ mData.length ∧ (ihexfileSize mData).toNat = mData.length ∧
    ∀ arch, maxsize arch ≠ 0 → maxsize arch < mData.length → tooLarge mData arch = true

/-- The limits are kept: the counter gets to the end of the page, the padded
length has 16 bits, and behind the lines that fit there are only bytes 0xff,
fewer than are missing in the page. -/
structure WithinLimits (pageSize : Nat) (lines : List HexLine) : Prop where
  ends : padding pageSize (dataOf (linesRead lines)).length ≤ 255
  size : (dataOf (linesRead lines)).length +
    padding pageSize (dataOf (linesRead lines)).length < 65536
  blank : ∀ b ∈ dataOf (linesLeft lines), b = 0xff
  few : (dataOf (linesLeft lines)).length < padding pageSize (dataOf (linesRead lines)).length

theorem dataOf_read_left (lines : List HexLine) :
    dataOf (linesRead lines) ++ dataOf (linesLeft lines) = dataOf lines := by
  unfold dataOf linesRead linesLeft
  rw [← List.flatMap_append, List.takeWhile_append_dropWhile]

theorem padded_dvd (hpage : 0 < pageSize) (n : Nat) : pageSize ∣ n + padding pageSize n := by
  refine ⟨n / pageSize + 1, ?_⟩
  have hmod := Nat.mod_lt n hpage
  have hdiv := Nat.div_add_mod n pageSize
  rw [Nat.mul_add, Nat.mul_one]
  unfold padding
  omega

theorem LoadsRight.within (h : IsHexFile lines file) (hright : LoadsRight pageSize lines file) :
    WithinLimits pageSize lines := by
  have hsplit := dataOf_read_left lines
  obtain ⟨mData, hload, ⟨n, h1, hn, hdata⟩, -, hsize, -⟩ := hright
  obtain ⟨hends, heq⟩ := (ihexfileLoad_some_iff h mData).mp hload
  have hrest : List.replicate (padding pageSize (dataOf (linesRead lines)).length) 0xff =
      dataOf (linesLeft lines) ++ List.replicate n 0xff := by
    refine List.append_cancel_left
      (?_ : dataOf (linesRead lines) ++ _ = dataOf (linesRead lines) ++ _)
    rw [← heq, hdata, ← hsplit, List.append_assoc]
  have hlength := congrArg List.length hrest
  rw [List.length_append, List.length_replicate, List.length_replicate] at hlength
  have hall := congrArg List.length heq
  rw [List.length_append, List.length_replicate] at hall
  refine ⟨hends, ?_, fun b hb => ?_, by omega⟩
  · rw [← hall, ← hsize]
    exact UInt16.toNat_lt _
  · exact List.eq_of_mem_replicate (hrest ▸ List.mem_append_left _ hb)

theorem WithinLimits.loads (hpage : 0 < pageSize) (h : IsHexFile lines file)
    (hlimits : WithinLimits pageSize lines) : LoadsRight pageSize lines file := by
  have hsplit := dataOf_read_left lines
  have hroom : padding pageSize (dataOf (linesRead lines)).length ≤ pageSize := Nat.sub_le _ _
  have hwhole := padded_dvd hpage (dataOf (linesRead lines)).length
  obtain ⟨hends, hsize, hblank, hfew⟩ := hlimits
  have hleft : dataOf (linesLeft lines) =
      List.replicate (dataOf (linesLeft lines)).length 0xff :=
    List.eq_replicate_of_mem hblank
  have hlength : (dataOf (linesRead lines) ++ List.replicate
      (padding pageSize (dataOf (linesRead lines)).length) (0xff : UInt8)).length =
        (dataOf (linesRead lines)).length +
          padding pageSize (dataOf (linesRead lines)).length := by
    rw [List.length_append, List.length_replicate]
  refine ⟨_, (ihexfileLoad_some_iff h _).mpr ⟨hends, rfl⟩,
    ⟨padding pageSize (dataOf (linesRead lines)).length - (dataOf (linesLeft lines)).length,
      by omega, by omega, ?_⟩, ?_, ?_, ?_⟩
  · rw [← hsplit, List.append_assoc]
    congr 1
    rw [hleft, List.length_replicate, List.replicate_append_replicate]
    congr 1
    omega
  · rw [hlength]
    exact hwhole
  · unfold ihexfileSize
    rw [hlength, UInt16.toNat_ofNat']
    omega
  · intro arch hknown hlarge
    unfold tooLarge ihexfileSize
    rw [hlength] at hlarge ⊢
    rw [UInt16.toNat_ofNat', decide_eq_true_eq]
    exact ⟨hknown, by omega⟩

/-- **Loading a file** comes out right exactly within the limits. -/
theorem load_iff (hpage : 0 < pageSize) (h : IsHexFile lines file) :
    LoadsRight pageSize lines file ↔ WithinLimits pageSize lines := by
  constructor
  · intro hright
    exact hright.within h
  · intro hlimits
    exact hlimits.loads hpage h

end

/-! ### A file of one page -/

section Example

/-- A hexadecimal digit. -/
private def hexChar (d : Nat) : Char := "0123456789ABCDEF".toList.getD d '0'

private def hexBytes (bs : List UInt8) : List Char :=
  bs.flatMap fun b => [hexChar (b.toNat / 16), hexChar (b.toNat % 16)]

private theorem hexDigit_hexChar : ∀ d < 16, hexDigit (hexChar d) = some d := by decide

private theorem hexBytes_text (bs : List UInt8) : HexText bs (hexBytes bs) := by
  induction bs with
  | nil => exact .nil
  | cons b bs ih =>
      have hb := b.toNat_lt
      exact .cons (hexDigit_hexChar _ (by omega)) (hexDigit_hexChar _ (by omega)) (by omega) ih

private def lineOf (r : HexRecord) : HexLine :=
  ⟨':' :: hexBytes r.bytes, some r, hexBytes r.bytes, hexBytes_text _, .inl rfl⟩

/-- `n` data records of 16 zeros, one behind the other, and the end record. -/
private def zeroLines (n : Nat) : List HexLine :=
  ((List.range n).map fun i =>
    lineOf ⟨UInt16.ofNat (16 * i), 0, List.replicate 16 0, by decide⟩) ++
      [lineOf ⟨0, 1, [], by decide⟩]

private def zeroFile (n : Nat) : List Char := (zeroLines n).flatMap (fun l => l.text ++ ['\n'])

/-- 240 bytes are loaded right for pages of 256. -/
theorem load_iff_240 :
    LoadsRight 256 (zeroLines 15) (zeroFile 15) ↔ WithinLimits 256 (zeroLines 15) :=
  load_iff (by decide) (.inl rfl)

/-- The data records of a file follow one another. -/
def Contiguous (lines : List HexLine) : Prop :=
  ((lines.filterMap HexLine.record).filter (·.rectype = 0)).IsChain
    (fun r r' => r'.addr = r.addr + UInt16.ofNat r.data.length)

/-- **A full page of 256 bytes**: the padding loop never ends. -/
theorem load_never_ends :
    ¬ ∀ (pageSize : Nat) (lines : List HexLine) (file : List Char),
      pageSize = 128 ∨ pageSize = 256 → IsHexFile lines file → Contiguous lines →
        LoadsRight pageSize lines file := by
  intro hall
  have hchain : Contiguous (zeroLines 16) := by
    unfold Contiguous
    decide
  have hright := hall 256 (zeroLines 16) (zeroFile 16) (.inr rfl) (.inl rfl) hchain
  have hends := (hright.within (.inl rfl)).ends
  revert hends
  decide

end Example

end OpenHcan.Flash
