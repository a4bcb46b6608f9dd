import OpenHcan.Host.EdsTable
import OpenHcan.Host.EdsValidation

/-!
# EdsFieldRoundTrip — a field is set and read back

Every field of a block that the check of the descriptions accepts, set by the
setter of its datatype and read by the matching getter. The host finds a field by
its name and sends the position of a byte, with the two bytes of the header in
front of it, as one byte.
-/

namespace OpenHcan.Host

open OpenHcan.Lib OpenHcan.Lib.Tiling OpenHcan.Eds

variable {mcu : Mcu} {m m' : Eeprom} {bs : Blocks} {fs : List FieldDesc} {f g : FieldDesc}
  {a size : Nat} {type : UInt8}

/-! ## What is asked for -/

/-- Outside of the field `f` of the block at `a`: its header, its other fields and
the other blocks are as they were. -/
structure Untouched (m m' : Eeprom) (bs : Blocks) (fs : List FieldDesc) (a : Nat)
    (f : FieldDesc) : Prop where
  header : m' a = m a ∧ m' (a + 1) = m (a + 1)
  fields : ∀ g ∈ fs, g ≠ f → ∀ i < g.width, m' (a + (g.pos + 2) + i) = m (a + (g.pos + 2) + i)
  blocks : ∀ b s, BlockAt bs b s → b ≠ a → ∀ q, b ≤ q → q < b + 2 + s.size → m' q = m q

/-- A setter that ends with `m'` and a getter that then returns the value. -/
structure Stores {α : Type} (set : Except String Unit × Eeprom)
    (get : Eeprom → Except String α) (v : α) (m : Eeprom) (bs : Blocks) (fs : List FieldDesc)
    (a : Nat) (f : FieldDesc) : Prop where
  done : set.1 = .ok ()
  value : get set.2 = .ok v
  rest : Untouched m set.2 bs fs a f

/-- The round trip of the field `f`, by its datatype. -/
def RoundTrips (mcu : Mcu) (c : EdsConnection) (m : Eeprom) (bs : Blocks) (fs : List FieldDesc)
    (a : Nat) (f : FieldDesc) : Prop :=
  match f.datatype with
  | .char => ∀ bytes : List UInt8, (∀ b ∈ bytes, b ≠ 0) →
      Stores (setFieldStr mcu c m a fs f.name (bytes.map byteChar))
        (fun m' => strfield mcu c m' a fs f.name) ((bytes.take (f.size - 1)).map byteChar)
        m bs fs a f
  | .uint16 => ∀ v : UInt16,
      Stores (setFieldUint16 mcu c m a fs f.name v)
        (fun m' => uint16Field mcu c m' a fs f.name) v.toNat m bs fs a f
  | _ => ∀ v : UInt8,
      Stores (setFieldUint8 mcu c m a fs f.name v) (fun m' => field mcu c m' a fs f.name) v
        m bs fs a f

/-! ## Blocks without wrapped fields -/

/-- Two fields of a tiling do not overlap. -/
theorem FieldDesc.Tiles.disjoint {n : Nat} (ht : FieldDesc.Tiles n fs size) (hf : f ∈ fs)
    (hg : g ∈ fs) (hne : g ≠ f) : g.pos + g.width ≤ f.pos ∨ f.pos + f.width ≤ g.pos := by
  induction fs generalizing n with
  | nil => cases hf
  | cons e fs ih =>
      obtain ⟨hpos, -, hrest⟩ := ht
      rcases List.mem_cons.mp hf with rfl | hf'
      · rcases List.mem_cons.mp hg with rfl | hg'
        · exact absurd rfl hne
        · right
          have := (hrest.bounds hg').2.1
          omega
      · rcases List.mem_cons.mp hg with rfl | hg'
        · left
          have := (hrest.bounds hf').2.1
          omega
        · exact ih hrest hf' hg'

/-- Bytes that are written inside of the field touch nothing else. -/
theorem untouched_of_frame (ht : FieldDesc.Tiles 0 fs size) (hf : f ∈ fs)
    (hat : BlockAt bs a ⟨type, size⟩)
    (hframe : ∀ q, q < a + (f.pos + 2) ∨ a + (f.pos + 2) + f.width ≤ q → m' q = m q) :
    Untouched m m' bs fs a f := by
  refine ⟨⟨hframe a (by omega), hframe (a + 1) (by omega)⟩, fun g hg hne i hi => ?_,
    fun b s hb hne q hlo hhi => ?_⟩
  · have hdis := ht.disjoint hf hg hne
    exact hframe _ (by omega)
  · have hend := (ht.bounds hf).2.2
    rcases hb.disjoint hat with ⟨h, -⟩ | h | h
    · exact absurd h hne
    · exact hframe q (by omega)
    · dsimp only at h
      exact hframe q (by omega)

/-- The bytes of a write end where they begin, and nothing else is touched. -/
def Written (m m' : Eeprom) (bs : Blocks) (fs : List FieldDesc) (a : Nat) (f : FieldDesc)
    (vs : List UInt8) : Prop :=
  cells m' (a + (f.pos + 2)) vs.length = vs ∧ Untouched m m' bs fs a f

/-- A write that fits into the field stays in it. -/
theorem writeBytes_written (mcu : Mcu) (c : EdsConnection) (m : Eeprom)
    (ht : FieldDesc.Tiles 0 fs size) (hsize : size ≤ 253) (hf : f ∈ fs)
    (hat : BlockAt bs a ⟨type, size⟩) (ha : a < 65000) {vs : List UInt8}
    (hvs : vs.length ≤ f.width) :
    ∃ m', writeBytes mcu c a (f.pos + 2) vs m = (.ok (), m') ∧ Written m m' bs fs a f vs := by
  obtain ⟨-, -, hend⟩ := ht.bounds hf
  obtain ⟨m', hrun, hcells, hframe⟩ := writeBytes_spec mcu c a vs (f.pos + 2) m (by omega)
    (by omega)
  exact ⟨m', hrun, hcells, untouched_of_frame ht hf hat fun q hq => hframe q (by omega)⟩

section

variable (c : EdsConnection) (hfind : fs.find? (fun e => e.name = f.name) = some f)
  (hend : f.pos + f.width ≤ 253) (ha : a < 65000)

include hfind hend ha

theorem stores_uint8 (htype : f.datatype ≠ .char) (v : UInt8)
    (hrun : writeBytes mcu c a (f.pos + 2) [v] m = (.ok (), m'))
    (hw : Written m m' bs fs a f [v]) :
    Stores (setFieldUint8 mcu c m a fs f.name v) (fun m' => field mcu c m' a fs f.name) v m bs fs
      a f := by
  have hset : setFieldUint8 mcu c m a fs f.name v = (.ok (), m') := by
    rw [setFieldUint8, getBlockFieldDescByKey_eq hfind]
    simp only [if_neg htype]
    exact hrun
  have hv : m' (a + (f.pos + 2)) = v := by simpa [cells] using hw.1
  rw [hset]
  refine ⟨rfl, ?_, hw.2⟩
  show field mcu c m' a fs f.name = .ok v
  rw [field_eq c hfind htype (by omega) ha, hv]

theorem stores_uint16 (htype : f.datatype ≠ .char) (v : UInt16)
    (hrun : writeBytes mcu c a (f.pos + 2) [loByte v.toNat, hiByte v.toNat] m = (.ok (), m'))
    (hw : Written m m' bs fs a f [loByte v.toNat, hiByte v.toNat]) :
    Stores (setFieldUint16 mcu c m a fs f.name v) (fun m' => uint16Field mcu c m' a fs f.name)
      v.toNat m bs fs a f := by
  have hset : setFieldUint16 mcu c m a fs f.name v = (.ok (), m') := by
    rw [setFieldUint16, getBlockFieldDescByKey_eq hfind]
    simp only [if_neg htype]
    exact hrun
  obtain ⟨hlo, hhi⟩ : m' (a + (f.pos + 2)) = loByte v.toNat ∧
      m' (a + (f.pos + 2) + 1) = hiByte v.toNat := by
    simpa [cells] using hw.1
  rw [hset]
  refine ⟨rfl, ?_, hw.2⟩
  show uint16Field mcu c m' a fs f.name = _
  rw [uint16Field_eq c hfind htype (by omega) ha, hlo, hhi, word_hiByte_loByte v.toNat_lt]

/-- A text is cut to the field and ends with a zero. -/
theorem stores_char (htype : f.datatype = .char) (hwidth : 0 < f.width) {bytes : List UInt8}
    (hne : ∀ b ∈ bytes, b ≠ 0)
    (hrun : writeBytes mcu c a (f.pos + 2) (bytes.take (f.size - 1) ++ [0]) m = (.ok (), m'))
    (hw : Written m m' bs fs a f (bytes.take (f.size - 1) ++ [0])) :
    Stores (setFieldStr mcu c m a fs f.name (bytes.map byteChar))
      (fun m' => strfield mcu c m' a fs f.name) ((bytes.take (f.size - 1)).map byteChar) m bs fs
      a f := by
  have hchar : f.width = f.size := by rw [FieldDesc.width, htype]
  rw [hchar] at hwidth hend
  have hchars : ((bytes.map byteChar).take (f.size - 1)).map charByte
      = bytes.take (f.size - 1) := by
    rw [← List.map_take, List.map_map]
    conv_rhs => rw [← List.map_id (bytes.take (f.size - 1))]
    exact List.map_congr_left fun b _ => charByte_byteChar b
  have hset : setFieldStr mcu c m a fs f.name (bytes.map byteChar) = (.ok (), m') := by
    rw [setFieldStr_eq hfind htype, hchars]
    exact hrun
  obtain ⟨hcells, hrest⟩ := hw
  have htext : cellText m' (a + (f.pos + 2)) f.size = bytes.take (f.size - 1) := by
    rw [List.length_append, List.length_singleton] at hcells
    refine cellText_of_cells hcells (fun b hb => hne b (List.mem_of_mem_take hb)) ?_
    have := List.length_take_le (f.size - 1) bytes
    omega
  rw [hset]
  refine ⟨rfl, ?_, hrest⟩
  show strfield mcu c m' a fs f.name = _
  rw [strfield_eq c hfind htype (by omega) ha, htext]

end

/-- **A field of a tiling makes the round trip**, if its name finds it. -/
theorem roundTrips_of_tiles (mcu : Mcu) (c : EdsConnection) (m : Eeprom)
    (ht : FieldDesc.Tiles 0 fs size) (hsize : size ≤ 253) (hf : f ∈ fs)
    (hfind : fs.find? (fun e => e.name = f.name) = some f)
    (hat : BlockAt bs a ⟨type, size⟩) (ha : a < 65000) : RoundTrips mcu c m bs fs a f := by
  obtain ⟨hwidth, -, hend⟩ := ht.bounds hf
  have hend : f.pos + f.width ≤ 253 := by omega
  have hwrite {vs : List UInt8} (hvs : vs.length ≤ f.width) :=
    writeBytes_written mcu c m ht hsize hf hat ha hvs
  have hnumber (htype : f.datatype ≠ .char) (v : UInt8) :
      Stores (setFieldUint8 mcu c m a fs f.name v) (fun m' => field mcu c m' a fs f.name) v m bs
        fs a f := by
    obtain ⟨m', hrun, hw⟩ := hwrite (show [v].length ≤ f.width from hwidth)
    exact stores_uint8 c hfind hend ha htype v hrun hw
  rw [RoundTrips]
  cases hdata : f.datatype with
  | char =>
      intro bytes hne
      have hchar : f.width = f.size := by rw [FieldDesc.width, hdata]
      obtain ⟨m', hrun, hw⟩ := hwrite (by
        show (bytes.take (f.size - 1) ++ [0]).length ≤ f.width
        rw [hchar] at hwidth
        rw [hchar, List.length_append, List.length_take, List.length_singleton]
        omega)
      exact stores_char c hfind hend ha hdata hwidth hne hrun hw
  | uint16 =>
      intro v
      obtain ⟨m', hrun, hw⟩ := hwrite
        (show [loByte v.toNat, hiByte v.toNat].length ≤ f.width by simp [FieldDesc.width, hdata])
      exact stores_uint16 c hfind hend ha (by simp [hdata]) v hrun hw
  | uint8 => exact hnumber (by simp [hdata])
  | other => exact hnumber (by simp [hdata])

/-! ## Fields that wrap around -/

/-- The byte at `index`, which goes over the wire modulo 256, is written. -/
theorem sendWriteToBlock_wrap (mcu : Mcu) (c : EdsConnection) (m : Eeprom) (v : UInt8)
    (index : Nat) (ha : a < 65000) :
    edsCanCallback mcu c.dst m (c.sendWriteToBlock a (UInt8.ofNat index) v)
      = (eepromWriteByte m (a + index % 256) v,
          some (edsAnswer c.dst (c.sendWriteToBlock a (UInt8.ofNat index) v)
            [hcanEdsWriteToBlockReplay])) := by
  have hmod : UInt8.ofNat index = UInt8.ofNat (index % 256) := by
    rw [← UInt8.toNat_inj, UInt8.toNat_ofNat', UInt8.toNat_ofNat', Nat.mod_mod]
  have hlt : index % 256 < 256 := Nat.mod_lt _ (by decide)
  rw [hmod]
  exact sendWriteToBlock_eq mcu c m v hlt (by omega)

theorem writeBytes_cons (mcu : Mcu) (c : EdsConnection) (m : Eeprom) (v : UInt8)
    (vs : List UInt8) (index : Nat) (ha : a < 65000) :
    writeBytes mcu c a index (v :: vs) m
      = writeBytes mcu c a (index + 1) vs (eepromWriteByte m (a + index % 256) v) := by
  have hrecv := recvReplay_edsAnswer c.dst (c.sendWriteToBlock a (UInt8.ofNat index) v)
    hcanEdsWriteToBlockReplay [] (Nat.zero_le _)
  rw [List.length_nil] at hrecv
  rw [writeBytes, sendWriteToBlock_wrap mcu c m v index ha]
  simp only [hrecv]

/-- The bytes that are written, index by index. -/
def wrapWrites (a : Nat) : Nat → List UInt8 → Eeprom → Eeprom
  | _, [], m => m
  | index, v :: vs, m => wrapWrites a (index + 1) vs (eepromWriteByte m (a + index % 256) v)

theorem writeBytes_eq (mcu : Mcu) (c : EdsConnection) (ha : a < 65000) (vs : List UInt8) :
    ∀ (index : Nat) (m : Eeprom),
      writeBytes mcu c a index vs m = (.ok (), wrapWrites a index vs m) := by
  induction vs with
  | nil => exact fun _ _ => rfl
  | cons v vs ih =>
      intro index m
      rw [writeBytes_cons mcu c m v vs index ha, ih]
      rfl

theorem wrapWrites_append (a : Nat) (vs ws : List UInt8) : ∀ (index : Nat) (m : Eeprom),
    wrapWrites a index (vs ++ ws) m
      = wrapWrites a (index + vs.length) ws (wrapWrites a index vs m) := by
  induction vs with
  | nil => exact fun _ _ => rfl
  | cons v vs ih =>
      intro index m
      rw [List.cons_append, wrapWrites, ih, List.length_cons, Nat.add_right_comm, Nat.add_assoc,
        wrapWrites]

/-- A place no index comes by keeps its byte. -/
theorem wrapWrites_frame (a : Nat) {k : Nat} (vs : List UInt8) : ∀ (index : Nat) (m : Eeprom),
    (∀ j < vs.length, (index + j) % 256 ≠ k) → wrapWrites a index vs m (a + k) = m (a + k) := by
  induction vs with
  | nil => exact fun _ _ _ => rfl
  | cons v vs ih =>
      intro index m hno
      rw [List.length_cons] at hno
      have h0 := hno 0 (Nat.succ_pos _)
      rw [wrapWrites, ih _ _ fun j hj hk => hno (j + 1) (by omega) (by rw [← hk]; congr 1; omega)]
      exact eepromWriteByte_of_ne m v (by simpa using fun h => h0 h.symm)

/-- The first byte stays, if the others do not come around to it. -/
theorem wrapWrites_head (a : Nat) (v : UInt8) (vs : List UInt8) (m : Eeprom) {index : Nat}
    (hindex : index < 256) (hlen : vs.length < 256) :
    wrapWrites a index (v :: vs) m (a + index) = v := by
  rw [wrapWrites, wrapWrites_frame a vs _ _ fun j hj hk => by omega, Nat.mod_eq_of_lt hindex]
  exact eepromWriteByte_self _ _ _

/-- Where the same byte is written again and again, it is in all places it has come
by. -/
theorem wrapWrites_replicate (a : Nat) (v : UInt8) {k : Nat} (n : Nat) :
    ∀ (index : Nat) (m : Eeprom), (∃ j < n, (index + j) % 256 = k) →
      wrapWrites a index (List.replicate n v) m (a + k) = v := by
  induction n with
  | zero => exact fun _ _ ⟨_, h, _⟩ => absurd h (Nat.not_lt_zero _)
  | succ n ih =>
      rintro index m ⟨j, hj, hk⟩
      rw [List.replicate_succ, wrapWrites]
      by_cases hlater : ∃ j < n, (index + 1 + j) % 256 = k
      · exact ih _ _ hlater
      · -- the first byte is the last one that comes by
        rw [wrapWrites_frame a _ _ _ fun j hj hk => hlater ⟨j, by simpa using hj, hk⟩]
        cases j with
        | zero =>
            rw [← hk]
            exact eepromWriteByte_self _ _ _
        | succ j => exact absurd ⟨j, by omega, by rw [← hk]; congr 1; omega⟩ hlater

/-- **A text that wraps around** overwrites the header of its block: one of the two
bytes is the character the text is made of. -/
theorem wrapped_header (a : Nat) (v : UInt8) (m : Eeprom) {pos n : Nat} (hpos : pos ≤ 128)
    (hlong : 255 ≤ pos + n) :
    wrapWrites a (pos + 2) (List.replicate n v ++ [0]) m a = v ∨
      wrapWrites a (pos + 2) (List.replicate n v ++ [0]) m (a + 1) = v := by
  rw [wrapWrites_append, List.length_replicate]
  show eepromWriteByte _ (a + (pos + 2 + n) % 256) 0 a = v ∨
    eepromWriteByte _ (a + (pos + 2 + n) % 256) 0 (a + 1) = v
  by_cases hlast : (pos + 2 + n) % 256 = 0
  · right
    rw [eepromWriteByte_of_ne _ _ (by omega)]
    exact wrapWrites_replicate a v n (pos + 2) m ⟨255 - pos, by omega, by omega⟩
  · left
    rw [eepromWriteByte_of_ne _ _ (by omega)]
    exact wrapWrites_replicate a v (k := 0) n (pos + 2) m ⟨254 - pos, by omega, by omega⟩

/-- The fields of a description stand in the first 129 bytes. -/
theorem FieldDesc.WrapTiles.pos_le {n : Nat} (h : FieldDesc.WrapTiles n fs size) (hf : f ∈ fs) :
    f.pos ≤ 128 := by
  induction fs generalizing n with
  | nil => cases hf
  | cons e fs ih =>
      rcases List.mem_cons.mp hf with rfl | hf'
      · exact h.2.1
      · exact ih h.2.2 hf'

theorem FieldDesc.WrapTiles.size_le {n : Nat} (h : FieldDesc.WrapTiles n fs size) :
    size ≤ 128 := by
  induction fs generalizing n with
  | nil => exact h.2
  | cons e fs ih => exact ih h.2.2

/-- Where the fields are longer than 255 bytes, one of them crosses the 256th. -/
theorem FieldDesc.WrapTiles.exists_crossing {n : Nat} (h : FieldDesc.WrapTiles n fs size)
    (hn : n < 256) (hsum : 256 ≤ n + totalWidth fs) : ∃ f ∈ fs, 256 ≤ f.pos + f.width := by
  induction fs generalizing n with
  | nil => exact absurd hsum (Nat.not_le.mpr hn)
  | cons e fs ih =>
      obtain ⟨hpos, -, hrest⟩ := h
      rw [Nat.mod_eq_of_lt hn] at hpos
      by_cases hcross : 256 ≤ e.pos + e.width
      · exact ⟨e, List.mem_cons_self, hcross⟩
      · have hsum' : 256 ≤ n + e.width + totalWidth fs := by
          simp only [totalWidth, List.map_cons, List.sum_cons] at hsum ⊢
          omega
        obtain ⟨f, hf, hfc⟩ := ih hrest (by omega) hsum'
        exact ⟨f, List.mem_cons_of_mem e hf, hfc⟩

/-- A field that crosses the 256th byte does not make the round trip. -/
theorem not_roundTrips_of_crossing (mcu : Mcu) (c : EdsConnection)
    (hfind : fs.find? (fun e => e.name = f.name) = some f) (hpos : f.pos ≤ 128)
    (hcross : 256 ≤ f.pos + f.width) (ha : a < 65000) : ¬ RoundTrips mcu c m bs fs a f := by
  intro hround
  have hdata : f.datatype = .char := by
    unfold FieldDesc.width at hcross
    cases hd : f.datatype with
    | char => rfl
    | _ =>
        simp only [hd] at hcross
        omega
  have hsize : 256 ≤ f.pos + f.size := by
    rw [FieldDesc.width, hdata] at hcross
    exact hcross
  rw [RoundTrips, hdata] at hround
  obtain ⟨v, hv, hv0, hv1⟩ : ∃ v : UInt8, v ≠ 0 ∧ v ≠ m a ∧ v ≠ m (a + 1) := by
    by_cases h1 : m a ≠ 1 ∧ m (a + 1) ≠ 1
    · exact ⟨1, by decide, h1.1.symm, h1.2.symm⟩
    · by_cases h2 : m a ≠ 2 ∧ m (a + 1) ≠ 2
      · exact ⟨2, by decide, h2.1.symm, h2.2.symm⟩
      · refine ⟨3, by decide, fun h => ?_, fun h => ?_⟩ <;> rw [← h] at h1 h2 <;> grind
  have hstores := hround (List.replicate (f.size - 1) v)
    fun b hb => (List.eq_of_mem_replicate hb).symm ▸ hv
  have hset : setFieldStr mcu c m a fs f.name ((List.replicate (f.size - 1) v).map byteChar)
      = (.ok (), wrapWrites a (f.pos + 2) (List.replicate (f.size - 1) v ++ [0]) m) := by
    rw [setFieldStr_eq hfind hdata, List.map_replicate, List.take_replicate, Nat.min_self,
      List.map_replicate, charByte_byteChar, writeBytes_eq mcu c ha]
  rw [hset] at hstores
  obtain ⟨h0, h1⟩ := hstores.rest.header
  rcases wrapped_header a v m (n := f.size - 1) hpos (by omega) with h | h
  · exact hv0 (h.symm.trans h0)
  · exact hv1 (h.symm.trans h1)

theorem exists_other (b : UInt8) : ∃ v : UInt8, v ≠ 0 ∧ v ≠ b := by
  by_cases h : b = 1
  · exact ⟨2, by decide, by rw [h]; decide⟩
  · exact ⟨1, by decide, fun h' => h h'.symm⟩

/-! ## A field whose name finds another one -/

section

variable (c : EdsConnection) (hfind : fs.find? (fun e => e.name = f.name) = some g) (hne : g ≠ f)
  (hwidth : 0 < g.width) (hpos : g.pos ≤ 128) (ha : a < 65000)

include hfind hne hwidth hpos

/-- A setter that writes another byte into the field that is found does not
leave it alone. -/
theorem not_stores_of_head {set : Except String Unit × Eeprom} {v : UInt8} {l : List UInt8}
    {α : Type} {get : Eeprom → Except String α} {x : α} (hlen : l.length < 256)
    (hv : v ≠ m (a + (g.pos + 2))) (hset : set = (.ok (), wrapWrites a (g.pos + 2) (v :: l) m)) :
    ¬ Stores set get x m bs fs a f := by
  subst hset
  intro h
  have hkept := h.rest.fields g (List.mem_of_find?_eq_some hfind) hne 0 hwidth
  exact hv ((wrapWrites_head a v l m (by omega) hlen).symm.trans hkept)

include ha

theorem not_stores_uint8 {w : UInt8} (hw : w ≠ m (a + (g.pos + 2))) :
    ¬ Stores (setFieldUint8 mcu c m a fs f.name w) (fun m' => field mcu c m' a fs f.name) w m bs
      fs a f := by
  intro h
  by_cases htype : g.datatype = .char
  · have hdone := h.done
    rw [setFieldUint8, getBlockFieldDescByKey_eq hfind] at hdone
    simp only [htype, if_true] at hdone
    cases hdone
  · refine not_stores_of_head hfind hne hwidth hpos (l := []) (by decide) hw ?_ h
    rw [setFieldUint8, getBlockFieldDescByKey_eq hfind]
    simp only [if_neg htype]
    exact writeBytes_eq mcu c ha _ _ _

theorem not_stores_uint16 {w : UInt8} (hw : w ≠ m (a + (g.pos + 2))) :
    ¬ Stores (setFieldUint16 mcu c m a fs f.name (UInt16.ofNat w.toNat))
      (fun m' => uint16Field mcu c m' a fs f.name) (UInt16.ofNat w.toNat).toNat m bs fs a f := by
  intro h
  by_cases htype : g.datatype = .char
  · have hdone := h.done
    rw [setFieldUint16, getBlockFieldDescByKey_eq hfind] at hdone
    simp only [htype, if_true] at hdone
    cases hdone
  · have hlo : loByte (UInt16.ofNat w.toNat).toNat = w := by
      have hlt := w.toNat_lt
      rw [UInt16.toNat_ofNat', Nat.mod_eq_of_lt (by omega), loByte, UInt8.ofNat_toNat]
    refine not_stores_of_head hfind hne hwidth hpos (l := [hiByte (UInt16.ofNat w.toNat).toNat])
      (show 1 < 256 by decide) hw ?_ h
    rw [setFieldUint16, getBlockFieldDescByKey_eq hfind]
    simp only [if_neg htype, hlo]
    exact writeBytes_eq mcu c ha _ _ _

/-- A text of one byte, or of none where the field that is found has no room for
it. -/
theorem not_stores_char {w : UInt8} (hw : w ≠ m (a + (g.pos + 2)))
    (hbyte : m (a + (g.pos + 2)) ≠ 0) {x : List Char} :
    ¬ Stores (setFieldStr mcu c m a fs f.name ([w].map byteChar))
      (fun m' => strfield mcu c m' a fs f.name) x m bs fs a f := by
  intro h
  by_cases htype : g.datatype = .char
  · have hset : setFieldStr mcu c m a fs f.name ([w].map byteChar) = _ :=
      setFieldStr_eq hfind htype _
    rw [writeBytes_eq mcu c ha] at hset
    by_cases hone : g.size - 1 = 0
    · rw [hone] at hset
      exact not_stores_of_head hfind hne hwidth hpos (v := 0) (by decide) hbyte.symm hset h
    · obtain ⟨k, hk⟩ := Nat.exists_eq_succ_of_ne_zero hone
      rw [hk, List.map_singleton, List.take_succ_cons, List.take_nil, List.map_singleton,
        charByte_byteChar] at hset
      exact not_stores_of_head hfind hne hwidth hpos (by decide) hw hset h
  · have hdone := h.done
    rw [setFieldStr, getBlockFieldDescByKey_eq hfind] at hdone
    simp only [if_pos htype] at hdone
    cases hdone

end

/-- A field whose name finds another one does not make the round trip where that one
does not begin with a zero: it is the other one that is set. -/
theorem not_roundTrips_of_shadowed (mcu : Mcu) (c : EdsConnection)
    (hfind : fs.find? (fun e => e.name = f.name) = some g) (hne : g ≠ f)
    (hwidth : 0 < g.width) (hpos : g.pos ≤ 128) (hbyte : m (a + (g.pos + 2)) ≠ 0)
    (ha : a < 65000) : ¬ RoundTrips mcu c m bs fs a f := by
  obtain ⟨w, hw0, hw⟩ := exists_other (m (a + (g.pos + 2)))
  rw [RoundTrips]
  cases hdata : f.datatype with
  | char =>
      intro hround
      exact not_stores_char c hfind hne hwidth hpos ha hw hbyte (hround [w] (by simpa using hw0))
  | uint16 =>
      intro hround
      exact not_stores_uint16 c hfind hne hwidth hpos ha hw (hround _)
  | uint8 => exact fun hround => not_stores_uint8 c hfind hne hwidth hpos ha hw (hround w)
  | other => exact fun hround => not_stores_uint8 c hfind hne hwidth hpos ha hw (hround w)

/-! ## A heap for every block -/

/-- A heap that begins with the block, and has no zero byte behind its header. -/
theorem exists_heap (type : UInt8) (hsize : size ≤ 128) :
    ∃ m bs, EdsHeap .atmega32 m bs ∧ BlockAt bs edsDataStart ⟨type, size⟩ ∧
      ∀ q, edsDataStart + 2 ≤ q → m q ≠ 0 := by
  let rest : Blocks := [⟨1, 254⟩, ⟨1, 254⟩, ⟨1, 254⟩, ⟨1, 218 - size⟩]
  have hspan : span 2 (⟨type, size⟩ :: rest) = 990 := by
    simp only [rest, span_cons, span_nil]
    omega
  have hdata : edsDataStart = 34 := rfl
  refine ⟨layBlocks edsDataStart (⟨type, size⟩ :: rest) fun _ => 1, ⟨type, size⟩ :: rest,
    ⟨lays_layBlocks _ _ ?_ ?_, ?_⟩, ⟨[], rest, rfl, rfl⟩, fun q hq => ?_⟩
  · simp only [rest, List.forall_mem_cons, List.not_mem_nil, false_imp_iff, implies_true, and_true]
    omega
  · omega
  · rw [hspan]
    rfl
  · rw [layBlocks, eepromWriteByte_of_ne _ _ (by omega), eepromWriteByte_of_ne _ _ (by omega)]
    refine layBlocks_ne_zero (fun _ => by decide) ?_ _ q
    have hlast : UInt8.ofNat (218 - size) ≠ 0 := by
      rw [Ne, ← UInt8.toNat_inj, UInt8.toNat_ofNat']
      show ¬ (218 - size) % 256 = 0
      omega
    simp only [rest, List.forall_mem_cons, List.not_mem_nil, false_imp_iff, implies_true, and_true]
    exact ⟨by decide, by decide, by decide, by decide, hlast⟩

/-! ## The descriptions whose fields all make the round trip -/

/-- A tiling has no field twice. -/
theorem FieldDesc.Tiles.nodup {n : Nat} (ht : FieldDesc.Tiles n fs size) : fs.Nodup := by
  induction fs generalizing n with
  | nil => exact List.nodup_nil
  | cons e fs ih =>
      obtain ⟨hpos, hwidth, hrest⟩ := ht
      refine List.nodup_cons.mpr ⟨fun he => ?_, ih hrest⟩
      have := (hrest.bounds he).2.1
      omega

/-- **Which accepted descriptions keep their fields.** Every field of every block of
the description makes the round trip, and leaves everything else alone, exactly if
no two fields have the same name and the fields are not longer than 255 bytes. -/
theorem fieldRoundTrip_iff (b : BlockElement) (type : UInt8)
    (hacc : edsCheckBlockDescriptions [b] = .ok ())
    (hchar : ∀ f ∈ b.fields, f.desc.datatype = .char → 1 ≤ f.desc.size) :
    (∀ mcu c m bs a, EdsHeap mcu m bs → BlockAt bs a ⟨type, b.size⟩ →
        ∀ f ∈ b.fields.map FieldElement.desc,
          RoundTrips mcu c m bs (b.fields.map FieldElement.desc) a f) ↔
      (b.fields.map FieldElement.desc).Pairwise (fun f g => f.name ≠ g.name) ∧
        totalWidth (b.fields.map FieldElement.desc) < 256 := by
  have hwrap := ((accepts_iff b).mp hacc).1
  have hwidth := BlockElement.width_pos hchar
  generalize b.fields.map FieldElement.desc = fs at *
  constructor
  · intro hround
    obtain ⟨m, bs, hh, hat, hbytes⟩ := exists_heap type hwrap.size_le
    have hfield := hround .atmega32 ⟨1, 2, []⟩ m bs edsDataStart hh hat
    have hfind : ∀ f ∈ fs, fs.find? (fun e => e.name = f.name) = some f := by
      intro f hf
      cases hg : fs.find? (fun e => e.name = f.name) with
      | none => exact absurd (List.find?_eq_none.mp hg f hf) (by simp)
      | some g =>
          have hmem := List.mem_of_find?_eq_some hg
          by_contra hne
          refine not_roundTrips_of_shadowed .atmega32 ⟨1, 2, []⟩ hg (fun h => hne (congrArg some h))
            (hwidth g hmem) (hwrap.pos_le hmem) (hbytes _ (by omega)) (by decide) (hfield f hf)
    have hsum : totalWidth fs < 256 := by
      by_contra hlong
      obtain ⟨f, hf, hcross⟩ := hwrap.exists_crossing (by decide) (by omega)
      exact not_roundTrips_of_crossing .atmega32 ⟨1, 2, []⟩ (hfind f hf) (hwrap.pos_le hf) hcross
        (by decide) (hfield f hf)
    have htiles := ((FieldDesc.wrapTiles_iff hwidth (by omega)).mp hwrap).1
    refine ⟨htiles.nodup.pairwise_of_forall_ne fun f hf g hg hne hname => ?_, hsum⟩
    have hfg := (hfind f hf).symm.trans (hname ▸ hfind g hg)
    exact hne (Option.some.inj hfg)
  · rintro ⟨hnames, hsum⟩ mcu c m bs a hh hat f hf
    obtain ⟨htiles, hsize⟩ := (FieldDesc.wrapTiles_iff hwidth (by omega)).mp hwrap
    have haddr := (hh.bounds hat).2
    have hend := edsEnd_le mcu
    exact roundTrips_of_tiles mcu c m htiles (by omega) hf
      (find?_of_pairwise FieldDesc.name hnames hf) hat (by omega)

/-- A block with a number of two bytes, a number of one byte and a text. -/
def mixedBlock : BlockElement :=
  ⟨"taster", 8, [plainField .uint16 "gruppe" 0 0, plainField .uint8 "typ" 2 0,
    plainField .char "name" 3 5]⟩

theorem mixedBlock_accepted : edsCheckBlockDescriptions [mixedBlock] = .ok () := by
  rw [accepts_iff]
  refine ⟨⟨rfl, by decide, rfl, by decide, rfl, by decide, rfl, by decide⟩, ?_⟩
  simp [mixedBlock, plainField_bitsInOrder]

theorem fieldRoundTrip_mixedBlock :
    ∃ m bs, EdsHeap .atmega32 m bs ∧ BlockAt bs edsDataStart ⟨19, 8⟩ ∧
      ∀ f ∈ mixedBlock.fields.map FieldElement.desc, RoundTrips .atmega32 ⟨1, 2, []⟩ m bs
        (mixedBlock.fields.map FieldElement.desc) edsDataStart f := by
  obtain ⟨m, bs, hh, hat, -⟩ := exists_heap 19 (show 8 ≤ 128 by decide)
  refine ⟨m, bs, hh, hat, ?_⟩
  refine (fieldRoundTrip_iff mixedBlock 19 mixedBlock_accepted ?_).mpr ⟨?_, ?_⟩ _ _ _ _ _ hh hat
  · simp [mixedBlock, plainField]
  · simp [mixedBlock, plainField]
  · decide

/-- The text of 256 bytes in an accepted block of one byte overwrites the header. -/
theorem fieldRoundTrip_wrappedBlock :
    edsCheckBlockDescriptions [wrappedBlock] = .ok () ∧
      ∃ m bs, EdsHeap .atmega32 m bs ∧ BlockAt bs edsDataStart ⟨19, wrappedBlock.size⟩ ∧
        ∃ f ∈ wrappedBlock.fields.map FieldElement.desc,
          ¬ RoundTrips .atmega32 ⟨1, 2, []⟩ m bs (wrappedBlock.fields.map FieldElement.desc)
            edsDataStart f := by
  obtain ⟨m, bs, hh, hat, -⟩ := exists_heap 19 (show 1 ≤ 128 by decide)
  refine ⟨wrappedBlock_accepted, m, bs, hh, hat, (plainField .char "text" 0 256).desc,
    List.mem_cons_self, ?_⟩
  refine not_roundTrips_of_crossing .atmega32 ⟨1, 2, []⟩ ?_ (by decide) (by decide) (by decide)
  simp [wrappedBlock, plainField]

end OpenHcan.Host
