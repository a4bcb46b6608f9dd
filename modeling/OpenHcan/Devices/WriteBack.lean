import OpenHcan.Canix.EdsHeap
import OpenHcan.Devices.LoadConfig
import OpenHcan.Lib.Machine

/-!
# WriteBack — devices that write their configuration back

A `heizung` and a `zeitzone` know the EEPROM address of the block they were
loaded from and write changed settings there. All they look at is the type byte
at that address, while requests to the EEPROM heap may have freed the block and
given its bytes to others.

The board is its EEPROM and its devices. Two parts of the state are the model's
own: whether the block of a device has been freed since it was loaded, and the
log of the bytes written back. A frame that reaches several devices is handled
by one after the other, so these are events of their own.

Left out: the other messages of the two devices, none of which writes to the
EEPROM, and formatting.
-/

namespace OpenHcan.WriteBack

open Eds Lib

set_option maxRecDepth 100000

def edsHeizungBlockId : UInt8 := 13
def edsZeitzoneBlockId : UInt8 := 18

def hcanHesHeizungSolltempWriteLine : UInt8 := 68
def hcanHesHeizungSolltempWriteLineAck : UInt8 := 69
def hcanHesZeitzoneWriteDetails : UInt8 := 112
def hcanHesZeitzoneWriteDetailsAck : UInt8 := 113

/-- `device_data_heizung`, as far as writing back goes. -/
structure HeizungData where
  id : UInt8
  temps : Vector Nat 8
  it : Nat

/-- `device_data_zeitzone` -/
structure ZeitzoneData where
  gruppe : UInt8
  dayPattern : UInt8
  fromHour : UInt8
  fromMinute : UInt8
  toHour : UInt8
  toMinute : UInt8
  it : Nat

inductive Device
  | heizung (p : HeizungData)
  | zeitzone (p : ZeitzoneData)

namespace Device

/-- `p->it` -/
def it : Device → Nat
  | heizung p => p.it
  | zeitzone p => p.it

def type : Device → UInt8
  | heizung _ => edsHeizungBlockId
  | zeitzone _ => edsZeitzoneBlockId

/-- The size of the configuration block. -/
def configSize : Device → Nat
  | heizung _ => 38
  | zeitzone _ => 6

end Device

/-- What handling a frame gives: the device, the bytes for the EEPROM and the
answer. -/
structure Handled where
  device : Device
  writes : List (Nat × UInt8)
  answer : Option CanixFrame

/-- The acknowledgement with the payload `bytes`. -/
def hesAnswer (selfaddr : UInt16) (frame : CanixFrame) (bytes : List UInt8) : CanixFrame where
  src := selfaddr
  dst := frame.src
  proto := hcanProtoSfp
  size := UInt8.ofNat (bytes.length + 1)
  data := payload (hcanSrvHes :: bytes)

/-- The tests in front of the write: the frame is for this device, and the byte
at the address of its block is still its type. -/
def WritesBack (m : Eeprom) (f : CanixFrame) : Device → Prop
  | .heizung p =>
      f.byte 1 = hcanHesHeizungSolltempWriteLine ∧ f.byte 2 = p.id ∧ f.byte 3 ≤ 7 ∧
        p.it ≠ 0 ∧ edsBlockType m p.it = edsHeizungBlockId
  | .zeitzone p =>
      f.byte 1 = hcanHesZeitzoneWriteDetails ∧ f.byte 2 = p.gruppe ∧
        p.it ≠ 0 ∧ edsBlockType m p.it = edsZeitzoneBlockId

instance (m : Eeprom) (f : CanixFrame) (d : Device) : Decidable (WritesBack m f d) :=
  match d with
  | .heizung _ => inferInstanceAs (Decidable (_ ∧ _))
  | .zeitzone _ => inferInstanceAs (Decidable (_ ∧ _))

/-- `heizung_can_callback`, `HCAN_HES_HEIZUNG_SOLLTEMP_WRITE_LINE`: the word behind
the zone number of the line is written, the low byte first. -/
def heizungWriteLine (selfaddr : UInt16) (f : CanixFrame) (p : HeizungData) : Handled :=
  let idx := (f.byte 3).toNat
  let temp := word (f.byte 4) (f.byte 5)
  let address := ptr (p.it + 6 + idx * 3 + 1)
  { device := .heizung { p with temps := p.temps.setIfInBounds idx temp }
    writes := [(address, loByte temp), (ptr (address + 1), hiByte temp)]
    answer := some (hesAnswer selfaddr f [hcanHesHeizungSolltempWriteLineAck, p.id, f.byte 3]) }

/-- `zeitzone_can_callback`, `HCAN_HES_ZEITZONE_WRITE_DETAILS` -/
def zeitzoneWriteDetails (selfaddr : UInt16) (f : CanixFrame) (p : ZeitzoneData) : Handled :=
  { device := .zeitzone
      { p with
        dayPattern := f.byte 3
        fromHour := f.byte 4
        fromMinute := f.byte 5
        toHour := f.byte 6
        toMinute := f.byte 7 }
    writes := [(ptr (p.it + 3), f.byte 3), (ptr (p.it + 4), f.byte 4), (ptr (p.it + 5), f.byte 5),
      (ptr (p.it + 6), f.byte 6), (ptr (p.it + 7), f.byte 7)]
    answer := some (hesAnswer selfaddr f [hcanHesZeitzoneWriteDetailsAck, p.gruppe]) }

/-- The two messages, at the device they reach. -/
def canCallback (selfaddr : UInt16) (m : Eeprom) (f : CanixFrame) (d : Device) : Handled :=
  if WritesBack m f d then
    match d with
    | .heizung p => heizungWriteLine selfaddr f p
    | .zeitzone p => zeitzoneWriteDetails selfaddr f p
  else ⟨d, [], none⟩

/-! ## The board -/

/-- A device; `freed` tells if its block has been freed since. -/
structure Loaded where
  device : Device
  freed : Bool

/-- A byte that was written back: the EEPROM before, the device and the address. -/
structure Written where
  eeprom : Eeprom
  loaded : Loaded
  address : Nat

structure Board where
  eeprom : Eeprom
  devices : List Loaded
  log : List Written

/-- A request that changes the heap. -/
structure EdsRequest where
  frame : CanixFrame
  command : frame.byte 1 ∈ [hcanEdsAllocateBlock, hcanEdsFreeBlock, hcanEdsDefragment,
    hcanEdsWriteToBlock]

/-- The board serves a request, or its device number `i` takes a frame. -/
inductive Event
  | eds (r : EdsRequest)
  | hes (i : Nat) (f : CanixFrame)

/-- The EEPROM after several `eeprom_write_byte`. -/
def eepromWriteAll (m : Eeprom) (ws : List (Nat × UInt8)) : Eeprom :=
  ws.foldl (fun m w => eepromWriteByte m w.1 w.2) m

/-- A device whose block is freed by the request. -/
def Loaded.after (r : EdsRequest) (l : Loaded) : Loaded :=
  if r.frame.byte 1 = hcanEdsFreeBlock ∧ requestPtr r.frame = l.device.it then
    { l with freed := true }
  else l

/-- `hauselektrik_callback` passes on what is meant for the board. -/
def ForBoard (selfaddr : UInt16) (f : CanixFrame) : Prop :=
  f.byte 0 = hcanSrvHes ∧
    (f.dst = selfaddr ∨ f.dst = hcanMulticastControl ∨ f.dst = hcanMulticastInfo)

instance (selfaddr : UInt16) (f : CanixFrame) : Decidable (ForBoard selfaddr f) :=
  inferInstanceAs (Decidable (_ ∧ _))

/-- The board after its device `l`, number `i`, took a frame. -/
def takeFrame (selfaddr : UInt16) (s : Board) (i : Nat) (l : Loaded) (f : CanixFrame) : Board :=
  let handled := canCallback selfaddr s.eeprom f l.device
  { eeprom := eepromWriteAll s.eeprom handled.writes
    devices := s.devices.set i ⟨handled.device, l.freed⟩
    log := s.log ++ handled.writes.map fun w => ⟨s.eeprom, l, w.1⟩ }

/-- The board after an event. -/
def boardStep (mcu : Mcu) (selfaddr : UInt16) (s : Board) : Event → Board
  | .eds r =>
      { s with
        eeprom := (edsCanCallback mcu selfaddr s.eeprom r.frame).1
        devices := s.devices.map (Loaded.after r) }
  | .hes i f =>
      match s.devices[i]? with
      | some l => if ForBoard selfaddr f then takeFrame selfaddr s i l f else s
      | none => s

/-! ## What is asked of the requests -/

/-- The block a device was loaded from stands at its address. -/
structure Holds (mcu : Mcu) (m : Eeprom) (d : Device) : Prop where
  head : IsBlockHead mcu m d.it
  type : edsBlockType m d.it = d.type
  size : edsBlockSize m d.it = d.configSize

/-- The devices have been loaded from blocks of a heap. -/
structure Start (mcu : Mcu) (s : Board) : Prop where
  heap : ∃ bs, EdsHeap mcu s.eeprom bs
  loaded : ∀ l ∈ s.devices, l.freed = false ∧ Holds mcu s.eeprom l.device
  log : s.log = []

/-- A raw write leaves the headers of the blocks as they are. A frame that makes
a device write back comes only while its block has not been freed. -/
def Harmless (mcu : Mcu) (selfaddr : UInt16) (s : Board) : Event → Prop
  | .eds r =>
      r.frame.byte 1 = hcanEdsWriteToBlock → ∀ b, IsBlockHead mcu s.eeprom b →
        ∀ q, (q = b ∨ q = b + 1) → ptr (requestPtr r.frame + (r.frame.byte 4).toNat) = q →
          r.frame.byte 5 = s.eeprom q
  | .hes i f =>
      ForBoard selfaddr f → ∀ l, s.devices[i]? = some l → WritesBack s.eeprom f l.device →
        l.freed = false

/-- A byte that may be written: a data byte of the block the device was loaded
from, which is allocated, and nothing of another block. -/
structure InOwnBlock (mcu : Mcu) (w : Written) : Prop where
  alive : w.loaded.freed = false
  allocated : IsAllocated mcu w.eeprom w.loaded.device.it
  type : edsBlockType w.eeprom w.loaded.device.it = w.loaded.device.type
  data : w.loaded.device.it + 2 ≤ w.address ∧
    w.address < w.loaded.device.it + 2 + edsBlockSize w.eeprom w.loaded.device.it
  header : ∀ b, IsBlockHead mcu w.eeprom b → w.address ≠ b ∧ w.address ≠ b + 1
  others : ∀ b, IsBlockHead mcu w.eeprom b → b ≠ w.loaded.device.it →
    w.address < b ∨ b + 2 + edsBlockSize w.eeprom b ≤ w.address

variable {mcu : Mcu} {selfaddr : UInt16} {m m' : Eeprom} {bs : Blocks}

/-! ## What a device writes -/

/-- A device keeps its address and its type. -/
theorem canCallback_it (selfaddr : UInt16) (m : Eeprom) (f : CanixFrame) (d : Device) :
    (canCallback selfaddr m f d).device.it = d.it ∧
      (canCallback selfaddr m f d).device.type = d.type ∧
      (canCallback selfaddr m f d).device.configSize = d.configSize := by
  unfold canCallback
  split
  · cases d <;> exact ⟨rfl, rfl, rfl⟩
  · exact ⟨rfl, rfl, rfl⟩

theorem ptr_ptr_add (p q : Nat) : ptr (ptr p + q) = ptr (p + q) := by
  unfold ptr
  omega

/-- **What is written lies in the configuration** behind the address of the
block. -/
theorem canCallback_writes {f : CanixFrame} {d : Device} {w : Nat × UInt8}
    (hw : w ∈ (canCallback selfaddr m f d).writes) :
    WritesBack m f d ∧ ∃ i, i < d.configSize ∧ w.1 = ptr (d.it + 2 + i) := by
  unfold canCallback at hw
  split at hw
  · next hback =>
      refine ⟨hback, ?_⟩
      cases d with
      | heizung p =>
          have hidx : (f.byte 3).toNat ≤ 7 := UInt8.le_iff_toNat_le.mp hback.2.2.1
          have hsize : (Device.heizung p).configSize = 38 := rfl
          rcases List.mem_cons.mp hw with rfl | hw
          · refine ⟨5 + (f.byte 3).toNat * 3, by omega, congrArg ptr ?_⟩
            show p.it + 6 + _ + 1 = p.it + 2 + _
            omega
          · rcases List.mem_singleton.mp hw with rfl
            refine ⟨6 + (f.byte 3).toNat * 3, by omega, ?_⟩
            show ptr (ptr _ + 1) = _
            rw [ptr_ptr_add]
            refine congrArg ptr ?_
            show p.it + 6 + _ + 1 + 1 = p.it + 2 + _
            omega
      | zeitzone p =>
          have hsize : (Device.zeitzone p).configSize = 6 := rfl
          simp only [zeitzoneWriteDetails, List.mem_cons, List.not_mem_nil, or_false] at hw
          rcases hw with rfl | rfl | rfl | rfl | rfl
          · exact ⟨1, by omega, rfl⟩
          · exact ⟨2, by omega, rfl⟩
          · exact ⟨3, by omega, rfl⟩
          · exact ⟨4, by omega, rfl⟩
          · exact ⟨5, by omega, rfl⟩
  · cases hw

theorem eepromWriteAll_of_ne (ws : List (Nat × UInt8)) {q : Nat} :
    ∀ m : Eeprom, (∀ w ∈ ws, w.1 ≠ q) → eepromWriteAll m ws q = m q := by
  induction ws with
  | nil => intro m _; rfl
  | cons w ws ih =>
      intro m h
      have hrest := ih (eepromWriteByte m w.1 w.2) fun v hv => h v (List.mem_cons_of_mem w hv)
      show eepromWriteAll (eepromWriteByte m w.1 w.2) ws q = m q
      rw [hrest, eepromWriteByte_of_ne m _ (Ne.symm (h w List.mem_cons_self))]

/-! ## Blocks that stay -/

/-- The headers of all blocks are the same in both. -/
def SameHeaders (mcu : Mcu) (m m' : Eeprom) : Prop :=
  ∀ b, IsBlockHead mcu m b → m' b = m b ∧ m' (b + 1) = m (b + 1)

theorem SameHeaders.heap (h : SameHeaders mcu m m') (hh : EdsHeap mcu m bs) :
    EdsHeap mcu m' bs :=
  hh.congr fun b s hat => h b ((hh.isBlockHead_iff b).mpr ⟨s, hat⟩)

theorem Device.type_ne_zero (d : Device) : d.type ≠ 0 := by
  cases d with
  | heizung p => exact (by decide : edsHeizungBlockId ≠ 0)
  | zeitzone p => exact (by decide : edsZeitzoneBlockId ≠ 0)

theorem Holds.isAllocated {d : Device} (h : Holds mcu m d) : IsAllocated mcu m d.it :=
  ⟨h.head, h.type ▸ d.type_ne_zero⟩

theorem Holds.of_sameHeaders {d : Device} (h : Holds mcu m d) (hh : EdsHeap mcu m bs)
    (hsame : SameHeaders mcu m m') : Holds mcu m' d := by
  obtain ⟨s, hat⟩ := (hh.isBlockHead_iff _).mp h.head
  have hheader := header_congr (hh.addr_lt hat) (hsame _ h.head).1 (hsame _ h.head).2
  refine ⟨?_, hheader.1.trans h.type, hheader.2.trans h.size⟩
  exact ((hsame.heap hh).isBlockHead_iff _).mpr ⟨s, hat⟩

theorem Holds.of_keepsBlock {d : Device} (h : Holds mcu m d) (hk : KeepsBlock mcu m m' d.it) :
    Holds mcu m' d :=
  ⟨hk.head, hk.type.trans h.type, hk.size.trans h.size⟩

/-- A device that answers for the same block. -/
theorem Holds.of_it {d d' : Device} (h : Holds mcu m d)
    (heq : d'.it = d.it ∧ d'.type = d.type ∧ d'.configSize = d.configSize) : Holds mcu m d' := by
  obtain ⟨hit, htype, hsize⟩ := heq
  exact ⟨hit ▸ h.head, by rw [hit, htype, h.type], by rw [hit, hsize, h.size]⟩

/-- A data byte of a block is in no header and in no other block. -/
theorem inOwnBlock_of_holds {l : Loaded} (hh : EdsHeap mcu m bs) (halive : l.freed = false)
    (hl : Holds mcu m l.device) {i : Nat} (hi : i < l.device.configSize) :
    InOwnBlock mcu ⟨m, l, ptr (l.device.it + 2 + i)⟩ := by
  obtain ⟨s, hat⟩ := (hh.isBlockHead_iff _).mp hl.head
  have hsize : s.size = l.device.configSize := (hh.size_eq hat).symm.trans hl.size
  have hbounds := hh.bounds hat
  have hend := edsEnd_le mcu
  have hptr : ptr (l.device.it + 2 + i) = l.device.it + 2 + i := ptr_of_lt (by omega)
  rw [hptr]
  refine ⟨halive, hl.isAllocated, hl.type, ⟨?_, ?_⟩, ?_, ?_⟩
  · exact Nat.le_add_right _ i
  · show l.device.it + 2 + i < l.device.it + 2 + edsBlockSize m l.device.it
    rw [hl.size]
    omega
  · intro b hb
    obtain ⟨t, hatb⟩ := (hh.isBlockHead_iff b).mp hb
    show l.device.it + 2 + i ≠ b ∧ l.device.it + 2 + i ≠ b + 1
    rcases hatb.disjoint hat with ⟨rfl, _⟩ | h | h <;> omega
  · intro b hb hne
    obtain ⟨t, hatb⟩ := (hh.isBlockHead_iff b).mp hb
    have hsizeb : edsBlockSize m b = t.size := hh.size_eq hatb
    show l.device.it + 2 + i < b ∨ b + 2 + edsBlockSize m b ≤ l.device.it + 2 + i
    rw [hsizeb]
    rcases hatb.disjoint hat with ⟨h, _⟩ | h | h
    · exact absurd h hne
    · omega
    · omega

/-! ## What is loaded -/

/-- The device that the block at `it` is loaded into: `eeprom_read_block` fills
the configuration, `…_init` keeps the address. -/
def deviceAt (m : Eeprom) (it : Nat) (type : UInt8) : Option Device :=
  let data := fun i => edsBlockData m it i
  if type = edsHeizungBlockId then
    some (.heizung
      ⟨data 0, Vector.ofFn fun i => word (data (6 + 3 * i.val)) (data (5 + 3 * i.val)), it⟩)
  else if type = edsZeitzoneBlockId then
    some (.zeitzone ⟨data 0, data 1, data 2, data 3, data 4, data 5, it⟩)
  else none

theorem deviceAt_it {it : Nat} {type : UInt8} {d : Device} (h : deviceAt m it type = some d) :
    d.it = it ∧ d.type = type := by
  unfold deviceAt at h
  dsimp only at h
  split at h
  · next htype =>
      cases h
      exact ⟨rfl, htype.symm⟩
  · split at h
    · next htype =>
        cases h
        exact ⟨rfl, htype.symm⟩
    · cases h

/-- **Loading starts a board**: the devices that `devices_load_config` loads have
their blocks in the heap, for a firmware with the sizes of the two
configurations. -/
theorem holds_of_loadable {kinds : List Devices.DeviceKind} (hh : EdsHeap mcu m bs)
    (hend : m (edsEnd mcu + 1) = 0)
    (hsizes : ∀ k ∈ kinds, ∀ d : Device, k.type = d.type → k.configSize.toNat = d.configSize)
    {it : Nat} {k : Devices.DeviceKind}
    (hmem : (it, k) ∈ Devices.loadable kinds m (Devices.deviceBlocks mcu m bs)) {d : Device}
    (hd : deviceAt m it k.type = some d) : Holds mcu m d := by
  obtain ⟨hit, hk, htype, hsize⟩ := Devices.mem_loadable hmem
  obtain ⟨rfl, hdtype⟩ := deviceAt_it hd
  refine ⟨Devices.isBlockHead_of_mem_deviceBlocks hh hend hit, ?_, ?_⟩
  · rw [← htype, hdtype]
  · rw [← hsize, hsizes k hk d hdtype.symm]

/-! ## One event -/

/-- **A request keeps an allocated block** that it does not free. -/
theorem edsCanCallback_keeps (selfaddr : UInt16) (hh : EdsHeap mcu m bs) (r : EdsRequest)
    (hwrite : r.frame.byte 1 ≠ hcanEdsWriteToBlock) {b : Nat} (hb : IsAllocated mcu m b)
    (hfree : r.frame.byte 1 = hcanEdsFreeBlock → requestPtr r.frame ≠ b) :
    KeepsBlock mcu m (edsCanCallback mcu selfaddr m r.frame).1 b := by
  rw [edsCanCallback_eeprom]
  have hcommand := r.command
  simp only [List.mem_cons, List.not_mem_nil, or_false] at hcommand
  rcases hcommand with hcmd | hcmd | hcmd | hcmd
  · rw [if_pos hcmd]
    by_cases hok : (edsAlloc mcu m (r.frame.byte 3)).1 = 0
    · -- a failed allocation writes in front of the heap
      have hfail := edsAlloc_of_noBlockFits hh ((edsAlloc_eq_zero_iff hh _).mp hok)
      rw [hfail]
      obtain ⟨t, hat⟩ := (hh.isBlockHead_iff b).mp hb.1
      have hpos : 2 ≤ edsDataStart := by decide
      have hlow := (hh.bounds hat).1
      exact .of_at hh (write_zero_heap hh _) hat hat fun q hq _ =>
        eepromWriteByte_of_ne m _ (by omega)
    · exact (edsAlloc_allocates hh (r.frame.byte 2) (r.frame.byte 3) hok).1 b hb
  · rw [if_neg (by rw [hcmd]; decide), if_pos hcmd]
    exact (edsFree_keeps hh _).1 b hb.1 (Ne.symm (hfree hcmd))
  · rw [if_neg (by rw [hcmd]; decide), if_neg (by rw [hcmd]; decide), if_pos hcmd]
    exact edsDefragment_keeps hh hb
  · exact absurd hcmd hwrite

/-- A raw write that is harmless leaves the headers alone. -/
theorem sameHeaders_of_write (selfaddr : UInt16) (r : EdsRequest)
    (hwrite : r.frame.byte 1 = hcanEdsWriteToBlock)
    (h : ∀ b, IsBlockHead mcu m b → ∀ q, (q = b ∨ q = b + 1) →
      ptr (requestPtr r.frame + (r.frame.byte 4).toNat) = q → r.frame.byte 5 = m q) :
    SameHeaders mcu m (edsCanCallback mcu selfaddr m r.frame).1 := by
  rw [edsCanCallback_eeprom, if_neg (by rw [hwrite]; decide), if_neg (by rw [hwrite]; decide),
    if_neg (by rw [hwrite]; decide), if_pos hwrite]
  have hcell : ∀ b, IsBlockHead mcu m b → ∀ q, (q = b ∨ q = b + 1) →
      eepromWriteByte m (ptr (requestPtr r.frame + (r.frame.byte 4).toNat)) (r.frame.byte 5) q
        = m q := by
    intro b hb q hq
    by_cases heq : q = ptr (requestPtr r.frame + (r.frame.byte 4).toNat)
    · rw [← heq, eepromWriteByte_self]
      exact h b hb q hq heq.symm
    · exact eepromWriteByte_of_ne m _ heq
  intro b hb
  exact ⟨hcell b hb b (Or.inl rfl), hcell b hb (b + 1) (Or.inr rfl)⟩

/-- What holds all the time: the EEPROM holds a heap, in which every device that
has not lost its block finds it, and all bytes that were written back were the
device's own. -/
structure BoardInv (mcu : Mcu) (s : Board) : Prop where
  heap : ∃ bs, EdsHeap mcu s.eeprom bs
  loaded : ∀ l ∈ s.devices, l.freed = false → Holds mcu s.eeprom l.device
  log : ∀ w ∈ s.log, InOwnBlock mcu w

theorem Loaded.after_alive {r : EdsRequest} {l : Loaded} (h : (l.after r).freed = false) :
    l.after r = l ∧ ¬ (r.frame.byte 1 = hcanEdsFreeBlock ∧ requestPtr r.frame = l.device.it) := by
  unfold Loaded.after at h ⊢
  split at h
  · cases h
  · next hnot => exact ⟨if_neg hnot, hnot⟩

/-- **A request keeps the invariant.** -/
theorem boardInv_eds (selfaddr : UInt16) {s : Board} (r : EdsRequest)
    (hg : Harmless mcu selfaddr s (.eds r)) (h : BoardInv mcu s) :
    BoardInv mcu (boardStep mcu selfaddr s (.eds r)) := by
  obtain ⟨bs, hh⟩ := h.heap
  by_cases hwrite : r.frame.byte 1 = hcanEdsWriteToBlock
  · have hsame := sameHeaders_of_write selfaddr r hwrite (hg hwrite)
    refine ⟨⟨bs, hsame.heap hh⟩, ?_, h.log⟩
    intro l' hl' halive
    obtain ⟨l, hl, rfl⟩ := List.mem_map.mp hl'
    obtain ⟨heq, _⟩ := Loaded.after_alive halive
    rw [heq] at halive ⊢
    exact (h.loaded l hl halive).of_sameHeaders hh hsame
  · obtain ⟨cs, _, hcs⟩ := edsCanCallback_refines selfaddr hh hwrite
    refine ⟨⟨cs, hcs⟩, ?_, h.log⟩
    intro l' hl' halive
    obtain ⟨l, hl, rfl⟩ := List.mem_map.mp hl'
    obtain ⟨heq, hnot⟩ := Loaded.after_alive halive
    rw [heq] at halive ⊢
    have hholds := h.loaded l hl halive
    exact hholds.of_keepsBlock (edsCanCallback_keeps selfaddr hh r hwrite hholds.isAllocated
      fun hcmd hptr => hnot ⟨hcmd, hptr⟩)

/-- **A frame that makes a device write back keeps the invariant**: only data
bytes of its own block change. -/
theorem boardInv_takeFrame (selfaddr : UInt16) {s : Board} {i : Nat} {l : Loaded} {f : CanixFrame}
    (hi : s.devices[i]? = some l) (hg : WritesBack s.eeprom f l.device → l.freed = false)
    (h : BoardInv mcu s) : BoardInv mcu (takeFrame selfaddr s i l f) := by
  obtain ⟨bs, hh⟩ := h.heap
  have hl : l ∈ s.devices := List.mem_of_getElem? hi
  have hown : ∀ w ∈ (canCallback selfaddr s.eeprom f l.device).writes,
      InOwnBlock mcu ⟨s.eeprom, l, w.1⟩ := by
    intro w hw
    obtain ⟨hback, k, hk, haddr⟩ := canCallback_writes hw
    rw [haddr]
    exact inOwnBlock_of_holds hh (hg hback) (h.loaded l hl (hg hback)) hk
  have hsame : SameHeaders mcu s.eeprom
      (eepromWriteAll s.eeprom (canCallback selfaddr s.eeprom f l.device).writes) := by
    intro b hb
    constructor
    · exact eepromWriteAll_of_ne _ _ fun w hw => ((hown w hw).header b hb).1
    · exact eepromWriteAll_of_ne _ _ fun w hw => ((hown w hw).header b hb).2
  refine ⟨⟨bs, hsame.heap hh⟩, ?_, ?_⟩
  · intro l' hl' halive
    have hholds : Holds mcu s.eeprom l'.device := by
      rcases List.mem_or_eq_of_mem_set hl' with hmem | rfl
      · exact h.loaded l' hmem halive
      · exact (h.loaded l hl halive).of_it (canCallback_it selfaddr s.eeprom f l.device)
    exact hholds.of_sameHeaders hh hsame
  · intro w hw
    rcases List.mem_append.mp hw with hold | hnew
    · exact h.log w hold
    · obtain ⟨v, hv, rfl⟩ := List.mem_map.mp hnew
      exact hown v hv

/-- **The step lemma.** -/
theorem boardInv_step (selfaddr : UInt16) (s : Board) (e : Event)
    (hg : Harmless mcu selfaddr s e) (h : BoardInv mcu s) :
    BoardInv mcu (boardStep mcu selfaddr s e) := by
  cases e with
  | eds r => exact boardInv_eds selfaddr r hg h
  | hes i f =>
      cases hi : s.devices[i]? with
      | none =>
          have hstep : boardStep mcu selfaddr s (.hes i f) = s := by simp only [boardStep, hi]
          rw [hstep]
          exact h
      | some l =>
          by_cases hfor : ForBoard selfaddr f
          · have hstep : boardStep mcu selfaddr s (.hes i f) = takeFrame selfaddr s i l f := by
              simp only [boardStep, hi, if_pos hfor]
            rw [hstep]
            exact boardInv_takeFrame selfaddr hi (hg hfor l hi) h
          · have hstep : boardStep mcu selfaddr s (.hes i f) = s := by
              simp only [boardStep, hi, if_neg hfor]
            rw [hstep]
            exact h

/-- **What is written back stays in the device's own block**, in every run of
requests and frames, as long as no frame makes a device write whose block has
been freed and no raw write changes a block header. -/
theorem writeBack_inOwnBlock (mcu : Mcu) (selfaddr : UInt16) (s : Board) (hs : Start mcu s)
    (es : List Event)
    (hg : Guarded (boardStep mcu selfaddr) (Harmless mcu selfaddr) s es) :
    ∀ w ∈ (run (boardStep mcu selfaddr) s es).log, InOwnBlock mcu w := by
  have hinv : BoardInv mcu s := by
    refine ⟨hs.heap, fun l hl _ => (hs.loaded l hl).2, ?_⟩
    intro w hw
    rw [hs.log] at hw
    cases hw
  exact (run_guarded (boardInv_step selfaddr) es s hg hinv).log

/-! ## A board with one heating -/

/-- A heating at address 34 and the rest of the EEPROM free. -/
def heizungBlocks : Blocks :=
  [⟨13, 38⟩, ⟨0, 255⟩, ⟨0, 255⟩, ⟨0, 255⟩, ⟨0, 177⟩]

def heizungEeprom : Eeprom := fun q =>
  if q = 34 then 13
  else if q = 35 then 38
  else if q = 36 then 5
  else if q = 75 ∨ q = 332 ∨ q = 589 then 255
  else if q = 846 then 177
  else 0

theorem heizungEeprom_heap : EdsHeap .atmega32 heizungEeprom heizungBlocks := by
  constructor
  · decide
  · decide

def heizungBoard : Board where
  eeprom := heizungEeprom
  devices := [⟨.heizung ⟨5, Vector.replicate 8 0, 34⟩, false⟩]
  log := []

theorem heizungBoard_start : Start .atmega32 heizungBoard := by
  refine ⟨⟨heizungBlocks, heizungEeprom_heap⟩, ?_, rfl⟩
  intro l hl
  rcases List.mem_singleton.mp hl with rfl
  refine ⟨rfl, ?_, by decide, by decide⟩
  exact (heizungEeprom_heap.isBlockHead_iff 34).mpr ⟨⟨13, 38⟩, [], _, rfl, rfl⟩

/-- The temperature of line 0 of the heating 5 is set. -/
def writeLine : CanixFrame where
  src := 900
  dst := hcanMulticastControl
  proto := hcanProtoSfp
  size := 7
  data := payload [hcanSrvHes, hcanHesHeizungSolltempWriteLine, 5, 0, 1, 80, 1]

/-- Writing back before anything was freed. -/
theorem writeBack_inOwnBlock_line :
    (run (boardStep .atmega32 1) heizungBoard [.hes 0 writeLine]).log ≠ [] ∧
      ∀ w ∈ (run (boardStep .atmega32 1) heizungBoard [.hes 0 writeLine]).log,
        InOwnBlock .atmega32 w := by
  refine ⟨by decide, ?_⟩
  apply writeBack_inOwnBlock .atmega32 1 heizungBoard heizungBoard_start
  refine ⟨?_, trivial⟩
  intro _ l hl _
  cases hl
  rfl

/-- A request with the given payload. -/
def edsFrame (bytes : List UInt8) : CanixFrame where
  src := 900
  dst := 1
  proto := hcanProtoSfp
  size := UInt8.ofNat bytes.length
  data := payload bytes

/-- The block of the heating is freed, a smaller one of the same type takes its
place, and the heating writes. -/
def heizungEvents : List Event :=
  [.eds ⟨edsFrame [hcanSrvEds, hcanEdsFreeBlock, 0, 34], by decide⟩,
    .eds ⟨edsFrame [hcanSrvEds, hcanEdsAllocateBlock, 13, 5], by decide⟩,
    .hes 0 writeLine]

/-- **The header of the next block is overwritten.** -/
theorem writeBack_other_block :
    ¬ ∀ (mcu : Mcu) (selfaddr : UInt16) (s : Board), Start mcu s →
      ∀ (es : List Event), ∀ w ∈ (run (boardStep mcu selfaddr) s es).log,
        InOwnBlock mcu w := by
  intro hall
  have hrun := hall .atmega32 1 heizungBoard heizungBoard_start heizungEvents
  have hfailing : ∃ w ∈ (run (boardStep .atmega32 1) heizungBoard heizungEvents).log,
      w.address = 41 ∧ w.loaded.device.it = 34 ∧ edsBlockSize w.eeprom 34 = 5 := by decide
  obtain ⟨w, hw, haddr, hit, hsize⟩ := hfailing
  have hdata := (hrun w hw).data.2
  rw [haddr, hit, hsize] at hdata
  exact absurd hdata (by decide)

end OpenHcan.WriteBack
