import OpenHcan.Canix.EdsHeap

/-!
# EdsConnection — the host's view of a board's EEPROM heap

`libhcan++/eds_connection.cc` over the generated transport functions
(`mk_transport_cc.xsl`), against the board's own frame handler. The bus
loses nothing here: every request meets `eds_can_callback` and its answer
is what `recv_…` checks. Block descriptions are read from `eds.xml` at run
time, so they are a parameter; their field lists are left out.
-/

namespace OpenHcan.Host

open OpenHcan.Eds

/-- `eds_block_desc_t` -/
structure EdsBlockDesc where
  type : UInt8
  name : String
  size : Nat
deriving DecidableEq, Repr

/-- `eds_block` -/
structure EdsBlock where
  address : Nat
  type : UInt8
  size : UInt8
  desc : EdsBlockDesc
deriving DecidableEq, Repr

/-- `eds_connection`: the addresses of its board connection and the blocks it
knows. -/
structure EdsConnection where
  src : UInt16
  dst : UInt16
  blocks : List EdsBlock
deriving DecidableEq, Repr

/-- `get_block_desc_by_type` -/
def getBlockDescByType (descs : List EdsBlockDesc) (type : UInt8) : Except String EdsBlockDesc :=
  match descs.find? (fun d => d.type = type) with
  | some d => .ok d
  | none => .error ("eds block desc of type id " ++ toString type.toNat ++ " not found")

/-! ## The transport -/

/-- The request frame of `send_…` with the service, command and parameters
`bytes`. -/
def EdsConnection.request (c : EdsConnection) (bytes : List UInt8) : CanixFrame where
  src := c.src
  dst := c.dst
  proto := hcanProtoSfp
  size := UInt8.ofNat bytes.length
  data := payload bytes

/-- `send_READ_FROM_BLOCK` -/
def EdsConnection.sendReadFromBlock (c : EdsConnection) (address : Nat) (index : UInt8) :
    CanixFrame :=
  c.request [hcanSrvEds, hcanEdsReadFromBlock, hiByte address, loByte address, index]

/-- `send_ALLOCATE_BLOCK` -/
def EdsConnection.sendAllocateBlock (c : EdsConnection) (type : UInt8) (size : Nat) : CanixFrame :=
  c.request [hcanSrvEds, hcanEdsAllocateBlock, type, UInt8.ofNat size]

/-- The checks of `recv_…` on the frame that arrived, `src` being the sender
that is expected and `params` the number of parameters. -/
def recvReplay (src : UInt16) (service command : UInt8) (params : Nat) :
    Option CanixFrame → Except String CanixFrame
  | none => .error "timeout while waiting for packet"
  | some f =>
      if src ≠ 0 ∧ f.src ≠ src then .error "unexpected packet received: src is wrong"
      else if f.size.toNat ≠ params + 2 then .error "unexpected size in packet received"
      else if f.byte 0 ≠ service then
        .error "unexpected packet received: service id is wrong"
      else if f.byte 1 ≠ command then
        .error "unexpected packet received: commmand id is wrong"
      else .ok f

/-- A well-formed answer of the board passes the checks. -/
theorem recvReplay_edsAnswer (selfaddr : UInt16) (frame : CanixFrame) (command : UInt8)
    (params : List UInt8) (hlen : params.length ≤ 6) :
    recvReplay selfaddr hcanSrvEds command params.length
        (some (edsAnswer selfaddr frame (command :: params)))
      = .ok (edsAnswer selfaddr frame (command :: params)) := by
  have hsize : (UInt8.ofNat (params.length + 1 + 1)).toNat = params.length + 2 := by
    rw [UInt8.toNat_ofNat']
    exact Nat.mod_eq_of_lt (by omega)
  have h0 : (edsAnswer selfaddr frame (command :: params)).byte 0 = hcanSrvEds :=
    byte_payload _ _ _ _ _ (by decide)
  have h1 : (edsAnswer selfaddr frame (command :: params)).byte 1 = command :=
    byte_payload _ _ _ _ _ (by decide)
  rw [recvReplay, h0, h1, if_neg (fun h => h.2 rfl), if_neg (fun h => h hsize),
    if_neg (fun h => h rfl), if_neg (fun h => h rfl)]

/-! ## Blocks -/

/-- The constructor `eds_block(econ, address)`: type and size are the first two
bytes the board reads there, the description is looked up by that type. -/
def edsBlock (descs : List EdsBlockDesc) (mcu : Mcu) (c : EdsConnection) (m : Eeprom)
    (address : Nat) : Except String EdsBlock :=
  let answer := (edsCanCallback mcu c.dst m (c.sendReadFromBlock address 0)).2
  match recvReplay c.dst hcanSrvEds hcanEdsReadFromBlockReplay 4 answer with
  | .error e => .error e
  | .ok f =>
      match getBlockDescByType descs (f.byte 2) with
      | .error e => .error e
      | .ok d => .ok ⟨address, f.byte 2, f.byte 3, d⟩

/-- `eds_connection::block_by_address` -/
def blockByAddress (c : EdsConnection) (address : Nat) : Except String EdsBlock :=
  match c.blocks.find? (fun b => b.address = address) with
  | some b => .ok b
  | none => .error ("no eds block with address = " ++ toString address ++ " found")

/-- What a call leaves: its result (or the text of its exception), the
connection and the board's EEPROM. -/
structure Outcome where
  result : Except String EdsBlock
  con : EdsConnection
  eeprom : Eeprom

/-- `eds_connection::create_block` -/
def createBlock (descs : List EdsBlockDesc) (mcu : Mcu) (c : EdsConnection) (m : Eeprom)
    (typeName : String) : Outcome :=
  match descs.find? (fun d => d.name = typeName) with
  | none => ⟨.error ("no eds block type with name '" ++ typeName ++ "' found"), c, m⟩
  | some d =>
      let reply := edsCanCallback mcu c.dst m (c.sendAllocateBlock d.type d.size)
      let m := reply.1
      match recvReplay c.dst hcanSrvEds hcanEdsAllocateBlockReplay 2 reply.2 with
      | .error e => ⟨.error e, c, m⟩
      | .ok f =>
          let address := word (f.byte 2) (f.byte 3)
          match edsBlock descs mcu c m address with
          | .error e => ⟨.error e, c, m⟩
          | .ok b =>
              let c := { c with blocks := c.blocks ++ [b] }
              ⟨blockByAddress c address, c, m⟩

/-! ## Failed allocations -/

variable {mcu : Mcu} {m : Eeprom} {descs : List EdsBlockDesc}

/-- A call that changed nothing: it reports failure, the connection knows no
more blocks than before and the board's EEPROM is as it was. -/
def FailsAtomically (c : EdsConnection) (m : Eeprom) (o : Outcome) : Prop :=
  (∃ text, o.result = .error text) ∧ o.con.blocks = c.blocks ∧ o.eeprom = m

/-- A described type is found again. -/
theorem getBlockDescByType_of_mem {d : EdsBlockDesc} (hd : d ∈ descs) :
    ∃ d', getBlockDescByType descs d.type = .ok d' := by
  rw [getBlockDescByType]
  cases hf : descs.find? (fun d' => d'.type = d.type) with
  | some d' => exact ⟨d', rfl⟩
  | none =>
      have := List.find?_eq_none.mp hf d hd
      simp at this

/-- The answer to `send_READ_FROM_BLOCK`: four bytes from the address on. -/
theorem recvReplay_readFromBlock (c : EdsConnection) {address : Nat} (ha : address < 65532) :
    recvReplay c.dst hcanSrvEds hcanEdsReadFromBlockReplay 4
        (edsCanCallback mcu c.dst m (c.sendReadFromBlock address 0)).2
      = .ok (edsAnswer c.dst (c.sendReadFromBlock address 0) [hcanEdsReadFromBlockReplay,
          m address, m (address + 1), m (address + 2), m (address + 3)]) := by
  have hptr : requestPtr (c.sendReadFromBlock address 0) = address :=
    word_hiByte_loByte (by omega)
  have hindex : ((c.sendReadFromBlock address 0).byte 4).toNat = 0 := rfl
  rw [edsCanCallback_read rfl, hptr, hindex, Nat.add_zero, ptr_of_lt (by omega),
    ptr_of_lt (by omega), ptr_of_lt (by omega), ptr_of_lt (by omega)]
  exact recvReplay_edsAnswer c.dst _ _
    [m address, m (address + 1), m (address + 2), m (address + 3)] (by simp)

/-- **The constructor of `eds_block`**: what the board holds at the address,
if its type is described. -/
theorem edsBlock_eq (c : EdsConnection) {address : Nat} (ha : address < 65532)
    {d : EdsBlockDesc} (hd : getBlockDescByType descs (m address) = .ok d) :
    edsBlock descs mcu c m address = .ok ⟨address, m address, m (address + 1), d⟩ := by
  rw [edsBlock, recvReplay_readFromBlock c ha]
  have h2 : (edsAnswer c.dst (c.sendReadFromBlock address 0) [hcanEdsReadFromBlockReplay,
      m address, m (address + 1), m (address + 2), m (address + 3)]).byte 2 = m address :=
    byte_payload _ _ _ _ _ (by decide)
  have h3 : (edsAnswer c.dst (c.sendReadFromBlock address 0) [hcanEdsReadFromBlockReplay,
      m address, m (address + 1), m (address + 2), m (address + 3)]).byte 3
        = m (address + 1) := byte_payload _ _ _ _ _ (by decide)
  simp only [h2, h3, hd]

/-- The constructor throws for a type that is not described. -/
theorem edsBlock_undescribed (c : EdsConnection) {address : Nat} (ha : address < 65532)
    {e : String} (hd : getBlockDescByType descs (m address) = .error e) :
    edsBlock descs mcu c m address = .error e := by
  rw [edsBlock, recvReplay_readFromBlock c ha]
  have h2 : (edsAnswer c.dst (c.sendReadFromBlock address 0) [hcanEdsReadFromBlockReplay,
      m address, m (address + 1), m (address + 2), m (address + 3)]).byte 2 = m address :=
    byte_payload _ _ _ _ _ (by decide)
  simp only [h2, hd]

/-- A block that is in the list has an address that is found. -/
theorem blockByAddress_append (c : EdsConnection) (b : EdsBlock) :
    ∃ r, blockByAddress { c with blocks := c.blocks ++ [b] } b.address = .ok r := by
  rw [blockByAddress]
  cases hf : (c.blocks ++ [b]).find? (fun b' => b'.address = b.address) with
  | some r => exact ⟨r, rfl⟩
  | none =>
      have := List.find?_eq_none.mp hf b (by simp)
      simp at this

/-- **`create_block` after a failed allocation** adopts a block at address 0:
the board has left the type there, so the block has a description. -/
theorem createBlock_of_noBlockFits {bs : Blocks} (c : EdsConnection) (hh : EdsHeap mcu m bs)
    {name : String} {d : EdsBlockDesc} (hd : descs.find? (fun d => d.name = name) = some d)
    (hno : NoBlockFits mcu m (UInt8.ofNat d.size).toNat) :
    ∃ b r, b.address = 0 ∧ createBlock descs mcu c m name =
      ⟨.ok r, { c with blocks := c.blocks ++ [b] }, eepromWriteByte m 0 d.type⟩ := by
  obtain ⟨d', hd'⟩ := getBlockDescByType_of_mem (List.mem_of_find?_eq_some hd)
  have hreply : edsCanCallback mcu c.dst m (c.sendAllocateBlock d.type d.size)
      = (eepromWriteByte m 0 d.type, some (edsAnswer c.dst (c.sendAllocateBlock d.type d.size)
          [hcanEdsAllocateBlockReplay, 0, 0])) := edsCanCallback_of_noBlockFits hh rfl hno
  have hrecv : recvReplay c.dst hcanSrvEds hcanEdsAllocateBlockReplay 2
      (some (edsAnswer c.dst (c.sendAllocateBlock d.type d.size)
        [hcanEdsAllocateBlockReplay, 0, 0])) = .ok _ :=
    recvReplay_edsAnswer c.dst _ _ [0, 0] (by simp)
  have h2 : (edsAnswer c.dst (c.sendAllocateBlock d.type d.size)
      [hcanEdsAllocateBlockReplay, 0, 0]).byte 2 = 0 := byte_payload _ _ _ _ _ (by decide)
  have h3 : (edsAnswer c.dst (c.sendAllocateBlock d.type d.size)
      [hcanEdsAllocateBlockReplay, 0, 0]).byte 3 = 0 := byte_payload _ _ _ _ _ (by decide)
  have hzero : eepromWriteByte m 0 d.type 0 = d.type := eepromWriteByte_self m 0 d.type
  have hblock : edsBlock descs mcu c (eepromWriteByte m 0 d.type) 0
      = .ok ⟨0, eepromWriteByte m 0 d.type 0, eepromWriteByte m 0 d.type 1, d'⟩ :=
    edsBlock_eq c (by omega) (by rw [hzero, hd'])
  obtain ⟨r, hr⟩ := blockByAddress_append c
    ⟨0, eepromWriteByte m 0 d.type 0, eepromWriteByte m 0 d.type 1, d'⟩
  refine ⟨⟨0, eepromWriteByte m 0 d.type 0, eepromWriteByte m 0 d.type 1, d'⟩, r, rfl, ?_⟩
  rw [createBlock, hd]
  simp only [hreply, hrecv, h2, h3, word,
    UInt8.toNat_zero, Nat.zero_mul, Nat.add_zero, hblock, hr]

/-- **A failed allocation is never atomic.** On the board the type is written
to EEPROM address 0, which is harmless only if it is there already; on the
host `create_block` reports success and adopts a block at that address. -/
theorem failedAllocation_not_atomic {selfaddr : UInt16} (hr : EdsReachable mcu selfaddr m) :
    (∀ frame : CanixFrame, frame.byte 1 = hcanEdsAllocateBlock →
      NoBlockFits mcu m (frame.byte 3).toNat →
      ((edsCanCallback mcu selfaddr m frame).1 = m ↔ m 0 = frame.byte 2)) ∧
    ∀ (descs : List EdsBlockDesc) (c : EdsConnection) (name : String) (d : EdsBlockDesc),
      c.dst = selfaddr → descs.find? (fun d => d.name = name) = some d →
      NoBlockFits mcu m (UInt8.ofNat d.size).toNat →
      ¬ FailsAtomically c m (createBlock descs mcu c m name) ∧
      ∃ b r, b.address = 0 ∧ (createBlock descs mcu c m name).result = .ok r ∧
        (createBlock descs mcu c m name).con.blocks = c.blocks ++ [b] := by
  obtain ⟨bs, hh⟩ := hr.heap
  refine ⟨fun frame hcmd hno => ?_, fun descs c name d _ hd hno => ?_⟩
  · rw [edsCanCallback_of_noBlockFits hh hcmd hno]
    exact eepromWriteByte_eq_self_iff m 0 (frame.byte 2)
  · obtain ⟨b, r, hb, hres⟩ := createBlock_of_noBlockFits c hh hd hno
    rw [hres]
    refine ⟨?_, b, r, hb, rfl, rfl⟩
    rintro ⟨⟨text, htext⟩, _⟩
    simp at htext

/-- A freshly formatted board has no room for 255 bytes. -/
theorem noBlockFits_format :
    NoBlockFits .atmega32 (edsFormat .atmega32 fun _ => 255) (255 : UInt8).toNat := by
  obtain ⟨bs, hh, _⟩ := edsFormat_heap .atmega32 fun _ => 255
  exact (edsAlloc_eq_zero_iff hh 255).mp (by decide)

theorem failedAllocation_not_atomic_format :
    ¬ FailsAtomically ⟨900, 1, []⟩ (edsFormat .atmega32 fun _ => 255)
      (createBlock [⟨12, "rolladen", 255⟩] .atmega32 ⟨900, 1, []⟩
        (edsFormat .atmega32 fun _ => 255) "rolladen") :=
  ((failedAllocation_not_atomic (.format _)).2 _ ⟨900, 1, []⟩ "rolladen" ⟨12, "rolladen", 255⟩
    rfl (by decide) noBlockFits_format).1

/-- **The failing request**: 255 bytes under type 12 on a freshly formatted
board change EEPROM byte 0. -/
theorem failedAllocation_writes_byte_zero :
    ¬ ∀ (m : Eeprom) (frame : CanixFrame), EdsReachable .atmega32 1 m →
      frame.byte 1 = hcanEdsAllocateBlock → NoBlockFits .atmega32 m (frame.byte 3).toNat →
      (edsCanCallback .atmega32 1 m frame).1 = m := by
  intro hall
  have heq := hall (edsFormat .atmega32 fun _ => 255) (allocateFrame 12 255) (.format _)
    (by decide) noBlockFits_format
  have hbyte : (edsCanCallback .atmega32 1 (edsFormat .atmega32 fun _ => 255)
      (allocateFrame 12 255)).1 0 ≠ edsFormat .atmega32 (fun _ => 255) 0 := by decide
  exact hbyte (congrFun heq 0)

end OpenHcan.Host
