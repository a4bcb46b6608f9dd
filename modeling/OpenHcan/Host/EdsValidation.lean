import OpenHcan.Host.EdsFields

/-!
# EdsValidation — the check of the block descriptions

`eds_check_block_descriptions` of `libhcan++/eds_validation.cc`, over what
`eds.xml` holds of each block. The end of the last field is kept in an
`int8_t`, which is -1 as long as there is none.
-/

namespace OpenHcan.Host

/-- A `field` element with the attributes `no` of its `bit` elements. -/
structure FieldElement where
  desc : FieldDesc
  bits : List UInt8
deriving DecidableEq, Repr

/-- A `block` element. -/
structure BlockElement where
  name : String
  size : Nat
  fields : List FieldElement
deriving DecidableEq, Repr

/-- The value an `int8_t` takes. -/
def int8 (x : Int) : Int := x.bmod 256

/-- Where an error is. -/
def fieldPlace (block : String) (f : FieldDesc) : String :=
  "(Block: " ++ block ++ " Field: " ++ String.ofList f.name

/-- The loop over the bits of a field. -/
def checkBits (block : String) (f : FieldDesc) : Int → List UInt8 → Except String Unit
  | _, [] => .ok ()
  | lastposbits, no :: nos =>
      if lastposbits = -1 ∧ no ≠ 0 then
        .error ("/usr/share/hcan/eds.xml: Attribut no startet nicht bei 0. " ++ fieldPlace block f
          ++ " Bit: " ++ toString no.toNat ++ ")")
      else if lastposbits ≠ -1 ∧ lastposbits ≠ (no.toNat : Int) - 1 then
        .error ("/usr/share/hcan/eds.xml: Attribut no nicht aufsteigend. " ++ fieldPlace block f
          ++ " Bit: " ++ toString no.toNat ++ ")")
      else checkBits block f (int8 no.toNat) nos

/-- What `lastpos` becomes behind a field. -/
def lastposOf (f : FieldDesc) : Int :=
  match f.datatype with
  | .uint16 => int8 (f.pos + 1)
  | .char => int8 (f.pos + f.size - 1)
  | _ => int8 f.pos

/-- The loop over the fields of a block: `lastpos` behind the last of them. -/
def checkFields (block : String) : Int → List FieldElement → Except String Int
  | lastpos, [] => .ok lastpos
  | lastpos, f :: fs =>
      if lastpos = -1 ∧ f.desc.pos ≠ 0 then
        .error ("/usr/share/hcan/eds.xml: Attribut pos startet nicht bei 0. "
          ++ fieldPlace block f.desc ++ ")")
      else if lastpos ≠ -1 ∧ lastpos ≠ (f.desc.pos : Int) - 1 then
        .error ("/usr/share/hcan/eds.xml: Attribut pos nicht aufsteigend. Bzw. Groeße von vorherigem "
          ++ "Field stimmt nicht. " ++ fieldPlace block f.desc ++ ")")
      else
        match checkBits block f.desc (-1) f.bits with
        | .error e => .error e
        | .ok () => checkFields block (lastposOf f.desc) fs

/-- The check of one block. -/
def checkBlock (b : BlockElement) : Except String Unit :=
  match checkFields b.name (-1) b.fields with
  | .error e => .error e
  | .ok lastpos =>
      if lastpos ≠ (b.size : Int) - 1 then
        .error ("/usr/share/hcan/eds.xml: Block Groeße und Felder Anzahl bzw. Groeßen stimmen nicht "
          ++ "ueberein. (Block: " ++ b.name ++ ")")
      else .ok ()

/-- `eds_check_block_descriptions` -/
def edsCheckBlockDescriptions : List BlockElement → Except String Unit
  | [] => .ok ()
  | b :: bs =>
      match checkBlock b with
      | .error e => .error e
      | .ok () => edsCheckBlockDescriptions bs

/-- A file is accepted if each of its blocks is. -/
theorem edsCheckBlockDescriptions_iff (bs : List BlockElement) :
    edsCheckBlockDescriptions bs = .ok () ↔ ∀ b ∈ bs, checkBlock b = .ok () := by
  induction bs with
  | nil => exact iff_of_true rfl (by simp)
  | cons b bs ih =>
      rw [List.forall_mem_cons, edsCheckBlockDescriptions]
      cases hb : checkBlock b with
      | error e => exact iff_of_false (by simp) fun h => by simp at h
      | ok u => exact ih.trans (by simp)

/-! ## What is accepted -/

/-- The bits of the field are numbered from 0 on. -/
def FieldElement.BitsInOrder (block : String) (f : FieldElement) : Prop :=
  checkBits block f.desc (-1) f.bits = .ok ()

/-- Each field stands where the sizes of the fields in front of it say, modulo 256,
which is nowhere behind 128; so does the end of the block. -/
def FieldDesc.WrapTiles : Nat → List FieldDesc → Nat → Prop
  | pos, [], size => pos % 256 = size ∧ size ≤ 128
  | pos, f :: fs, size =>
      f.pos = pos % 256 ∧ f.pos ≤ 128 ∧ FieldDesc.WrapTiles (pos + f.width) fs size

/-- The bytes of the fields together. -/
def totalWidth (fs : List FieldDesc) : Nat := (fs.map FieldDesc.width).sum

/-- Whatever the datatype, `lastpos` is the last byte of the field. -/
theorem lastposOf_eq (f : FieldDesc) : lastposOf f = int8 (f.pos + f.width - 1) := by
  obtain ⟨datatype, name, pos, size⟩ := f
  cases datatype with
  | char => rfl
  | uint16 => exact congrArg int8 (by simp only [FieldDesc.width]; omega)
  | uint8 => exact congrArg int8 (by simp only [FieldDesc.width]; omega)
  | other => exact congrArg int8 (by simp only [FieldDesc.width]; omega)

theorem int8_sub_one (n : Nat) :
    int8 ((n : Int) - 1) = if n % 256 ≤ 128 then ((n % 256 : Nat) : Int) - 1
      else ((n % 256 : Nat) : Int) - 257 := by
  rw [int8, Int.bmod_def]
  split <;> split <;> omega

/-- The tests on the position of a field behind `n` bytes of fields. -/
theorem fieldFollows_iff (n pos : Nat) :
    (¬ (int8 ((n : Int) - 1) = -1 ∧ pos ≠ 0) ∧
      ¬ (int8 ((n : Int) - 1) ≠ -1 ∧ int8 ((n : Int) - 1) ≠ (pos : Int) - 1)) ↔
      pos = n % 256 ∧ pos ≤ 128 := by
  rw [int8_sub_one]
  split <;> omega

/-- The test on the size of a block behind `n` bytes of fields. -/
theorem blockEnds_iff (n size : Nat) :
    int8 ((n : Int) - 1) = (size : Int) - 1 ↔ n % 256 = size ∧ size ≤ 128 := by
  rw [int8_sub_one]
  split <;> omega

/-- The loop over the fields, from behind `n` bytes on, followed by the test on the
size. -/
theorem checkFields_iff (block : String) (size : Nat) (fs : List FieldElement) : ∀ n : Nat,
    (∃ lastpos, checkFields block (int8 ((n : Int) - 1)) fs = .ok lastpos ∧
        lastpos = (size : Int) - 1) ↔
      FieldDesc.WrapTiles n (fs.map FieldElement.desc) size ∧ ∀ f ∈ fs, f.BitsInOrder block := by
  induction fs with
  | nil =>
      intro n
      rw [checkFields, List.map_nil, FieldDesc.WrapTiles, ← blockEnds_iff]
      constructor
      · rintro ⟨lastpos, hok, hsize⟩
        exact ⟨(Except.ok.inj hok).trans hsize, by simp⟩
      · exact fun h => ⟨_, rfl, h.1⟩
  | cons f fs ih =>
      intro n
      have hnext : f.desc.pos = n % 256 →
          lastposOf f.desc = int8 (((n + f.desc.width : Nat) : Int) - 1) := by
        intro hpos
        rw [lastposOf_eq, int8, int8, Int.bmod_def, Int.bmod_def]
        omega
      rw [List.map_cons, FieldDesc.WrapTiles, List.forall_mem_cons,
        ← and_assoc (a := f.desc.pos = n % 256), and_assoc (a := f.desc.pos = n % 256 ∧ _),
        ← fieldFollows_iff]
      unfold checkFields
      by_cases h1 : int8 ((n : Int) - 1) = -1 ∧ f.desc.pos ≠ 0
      · rw [if_pos h1]
        exact iff_of_false (fun ⟨_, h, _⟩ => by cases h) fun h => h.1.1 h1
      · rw [if_neg h1]
        by_cases h2 : int8 ((n : Int) - 1) ≠ -1 ∧ int8 ((n : Int) - 1) ≠ (f.desc.pos : Int) - 1
        · rw [if_pos h2]
          exact iff_of_false (fun ⟨_, h, _⟩ => by cases h) fun h => h.1.2 h2
        · have hpos := ((fieldFollows_iff n f.desc.pos).mp ⟨h1, h2⟩).1
          rw [if_neg h2, and_iff_right ⟨h1, h2⟩]
          cases hbits : checkBits block f.desc (-1) f.bits with
          | error e =>
              refine iff_of_false (fun ⟨_, h, _⟩ => by cases h) fun h => ?_
              have hok := hbits.symm.trans h.2.1
              cases hok
          | ok u =>
              have hrest := ih (n + f.desc.width)
              rw [← hnext hpos] at hrest
              exact hrest.trans (and_congr_right fun _ => (and_iff_right hbits).symm)

/-- **What the check accepts**: blocks whose fields follow each other, where a
position is only known modulo 256 and lies nowhere behind 128. -/
theorem checkBlock_iff (b : BlockElement) :
    checkBlock b = .ok () ↔ FieldDesc.WrapTiles 0 (b.fields.map FieldElement.desc) b.size ∧
      ∀ f ∈ b.fields, f.BitsInOrder b.name := by
  rw [← checkFields_iff b.name b.size b.fields 0, checkBlock]
  show (match checkFields b.name (-1) b.fields with | .error e => _ | .ok lastpos => _) = _ ↔
    ∃ lastpos, checkFields b.name (-1) b.fields = .ok lastpos ∧ _
  cases hres : checkFields b.name (-1) b.fields with
  | error e => exact iff_of_false (fun h => by cases h) fun ⟨_, h, _⟩ => by cases h
  | ok lastpos =>
      by_cases hsize : lastpos = (b.size : Int) - 1
      · exact iff_of_true (if_neg (not_not.mpr hsize)) ⟨lastpos, rfl, hsize⟩
      · refine iff_of_false (fun h => ?_) fun ⟨_, hok, h⟩ => hsize ((Except.ok.inj hok).trans h)
        simp only [ne_eq, hsize, not_false_eq_true, if_true] at h
        cases h

theorem accepts_iff (b : BlockElement) :
    edsCheckBlockDescriptions [b] = .ok () ↔
      FieldDesc.WrapTiles 0 (b.fields.map FieldElement.desc) b.size ∧
        ∀ f ∈ b.fields, f.BitsInOrder b.name := by
  rw [edsCheckBlockDescriptions_iff, List.forall_mem_singleton, checkBlock_iff]

/-! ## Tilings -/

theorem FieldDesc.Tiles.total {n size : Nat} {fs : List FieldDesc}
    (h : FieldDesc.Tiles n fs size) : n + totalWidth fs = size := by
  induction fs generalizing n with
  | nil => exact h
  | cons f fs ih =>
      have hrest := ih h.2.2
      simp only [totalWidth, List.map_cons, List.sum_cons] at hrest ⊢
      omega

theorem BlockElement.width_pos {b : BlockElement}
    (hchar : ∀ f ∈ b.fields, f.desc.datatype = .char → 1 ≤ f.desc.size) :
    ∀ f ∈ b.fields.map FieldElement.desc, 0 < f.width := by
  intro f hf
  obtain ⟨e, he, rfl⟩ := List.mem_map.mp hf
  have hpos := hchar e he
  unfold FieldDesc.width
  cases hd : e.desc.datatype with
  | char => exact hpos hd
  | uint16 => exact Nat.two_pos
  | uint8 => exact Nat.one_pos
  | other => exact Nat.one_pos

/-- Below 256 bytes nothing wraps. -/
theorem FieldDesc.wrapTiles_iff {n size : Nat} {fs : List FieldDesc}
    (hwidth : ∀ f ∈ fs, 0 < f.width) (hsum : n + totalWidth fs < 256) :
    FieldDesc.WrapTiles n fs size ↔ FieldDesc.Tiles n fs size ∧ size ≤ 128 := by
  induction fs generalizing n with
  | nil =>
      have hn : n < 256 := hsum
      rw [WrapTiles, Tiles, Nat.mod_eq_of_lt hn]
  | cons f fs ih =>
      rw [List.forall_mem_cons] at hwidth
      simp only [totalWidth, List.map_cons, List.sum_cons] at hsum
      have hrest := ih (n := n + f.width) hwidth.2 (by unfold totalWidth; omega)
      rw [WrapTiles, Tiles, hrest, Nat.mod_eq_of_lt (by omega)]
      constructor
      · rintro ⟨hpos, -, htiles, hsize⟩
        exact ⟨⟨hpos, hwidth.1, htiles⟩, hsize⟩
      · rintro ⟨⟨hpos, -, htiles⟩, hsize⟩
        have htotal := htiles.total
        exact ⟨hpos, by omega, htiles, hsize⟩

/-- **When the check is exact.** It rejects every tiling of a block of more than 128
bytes, and it accepts fields of 256 bytes and more that wrap around to the size of
the block; of all other descriptions it accepts exactly the tilings. -/
theorem checkBlock_exact_iff (b : BlockElement) (hbits : ∀ f ∈ b.fields, f.BitsInOrder b.name)
    (hchar : ∀ f ∈ b.fields, f.desc.datatype = .char → 1 ≤ f.desc.size)
    (hsize : 1 ≤ b.size ∧ b.size ≤ 253) :
    (edsCheckBlockDescriptions [b] = .ok () ↔
        FieldDesc.Tiles 0 (b.fields.map FieldElement.desc) b.size) ↔
      ¬ (FieldDesc.Tiles 0 (b.fields.map FieldElement.desc) b.size ∧ 128 < b.size) ∧
      ¬ (FieldDesc.WrapTiles 0 (b.fields.map FieldElement.desc) b.size ∧
        256 ≤ totalWidth (b.fields.map FieldElement.desc)) := by
  have hwidth := BlockElement.width_pos hchar
  rw [accepts_iff, and_iff_left hbits]
  by_cases hsum : totalWidth (b.fields.map FieldElement.desc) < 256
  · rw [FieldDesc.wrapTiles_iff hwidth (by omega)]
    constructor
    · intro h
      exact ⟨fun ht => by have := (h.mpr ht.1).2; omega, fun hw => by omega⟩
    · rintro ⟨hsmall, -⟩
      exact ⟨fun h => h.1, fun h => ⟨h, Nat.not_lt.mp fun hlt => hsmall ⟨h, hlt⟩⟩⟩
  · -- the fields are longer than any block
    have hno : ¬ FieldDesc.Tiles 0 (b.fields.map FieldElement.desc) b.size := by
      intro h
      have htotal := h.total
      omega
    constructor
    · intro h
      exact ⟨fun ht => hno ht.1, fun hw => hno (h.mp hw.1)⟩
    · rintro ⟨-, hwrap⟩
      exact ⟨fun h => absurd ⟨h, Nat.not_lt.mp hsum⟩ hwrap, fun h => absurd h hno⟩

/-- A field without bits. -/
def plainField (datatype : Datatype) (name : String) (pos size : Nat) : FieldElement :=
  ⟨⟨datatype, name.toList, pos, size⟩, []⟩

theorem plainField_bitsInOrder (block : String) (datatype : Datatype) (name : String)
    (pos size : Nat) : (plainField datatype name pos size).BitsInOrder block := rfl

theorem checkBlock_exact_small :
    edsCheckBlockDescriptions [⟨"reed", 3, [plainField .uint16 "gruppe" 0 0,
      plainField .uint8 "typ" 2 0]⟩] = .ok () := by
  refine ((checkBlock_exact_iff _ ?_ ?_ (by decide)).mpr ⟨?_, ?_⟩).mpr ?_
  · simp [plainField_bitsInOrder]
  · simp [plainField]
  · exact fun h => absurd h.2 (by decide)
  · exact fun h => absurd h.2 (by decide)
  · exact ⟨rfl, by decide, rfl, by decide, rfl⟩

/-- A text that fills a block of 129 bytes. -/
def longBlock : BlockElement := ⟨"lang", 129, [plainField .char "text" 0 129]⟩

/-- A text of 256 bytes in front of another field at 0, in a block of one byte. -/
def wrappedBlock : BlockElement :=
  ⟨"kurz", 1, [plainField .char "text" 0 256, plainField .uint8 "typ" 0 0]⟩

theorem wrappedBlock_accepted : edsCheckBlockDescriptions [wrappedBlock] = .ok () := by
  rw [accepts_iff]
  refine ⟨⟨rfl, by decide, rfl, by decide, rfl, by decide⟩, ?_⟩
  simp [wrappedBlock, plainField_bitsInOrder]

/-- The first is a tiling and is rejected, the second is none and is accepted. -/
theorem checkBlock_wrong :
    (FieldDesc.Tiles 0 (longBlock.fields.map FieldElement.desc) longBlock.size ∧
      edsCheckBlockDescriptions [longBlock] ≠ .ok ()) ∧
    (¬ FieldDesc.Tiles 0 (wrappedBlock.fields.map FieldElement.desc) wrappedBlock.size ∧
      edsCheckBlockDescriptions [wrappedBlock] = .ok ()) := by
  refine ⟨⟨⟨rfl, by decide, rfl⟩, fun h => ?_⟩, fun h => ?_, wrappedBlock_accepted⟩
  · exact absurd ((accepts_iff longBlock).mp h).1.2.2.2 (by decide)
  · exact absurd h.2.2.1 (by decide)

end OpenHcan.Host
