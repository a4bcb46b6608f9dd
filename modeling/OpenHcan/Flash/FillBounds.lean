import OpenHcan.Flash.Transfer
import OpenHcan.Lib.Machine

/-!
# FillBounds — where a FLASH_BUFFER_FILL writes

The main loop of the bootloader over whole runs, with a log of the stores into
`flash_buffer`. The offset of a fill is a byte from the bus and is added to the
index of the loop; the four bytes it stores are taken from `data`, whether the
message had them or not.

A message that says that it has more than 8 bytes is read beyond `data`; nothing
is known after that. A restart leaves anything in the two arrays.
-/

namespace OpenHcan.Flash

open Lib

/-- `flash_buffer[index] = data[source]`, for a message of `size` bytes. -/
structure FillStore where
  index : Nat
  source : Nat
  size : Nat
deriving DecidableEq, Repr

/-- The store is inside the buffer, and what it stores was in the message. -/
structure FillStore.Safe (mcu : Mcu) (st : FillStore) : Prop where
  index_lt : st.index < sizeOfFlashbuffer mcu
  source_lt : st.source < st.size

/-- The message is for the board, and for its management service. -/
def BootAccepts (s : Bootloader) (f : CanixFrame) : Prop :=
  (f.dst = s.selfAddr ∨ f.dst = hcanMulticastPing) ∧ 2 ≤ f.size.toNat ∧
    readMessage s.data f 0 = hcanSrvHms

instance (s : Bootloader) (f : CanixFrame) : Decidable (BootAccepts s f) :=
  inferInstanceAs (Decidable (_ ∧ _ ∧ _))

/-- The stores of `for (i = 0; i < 4; i++) flash_buffer[data[2]+i] = data[3+i];` -/
def fillStores (s : Bootloader) (f : CanixFrame) : List FillStore :=
  let data := readMessage s.data f
  if BootAccepts s f ∧ data 1 = hmsFlashBufferFill then
    (List.range 4).map fun i => ⟨(data 2).toNat + i, 3 + i, f.size.toNat⟩
  else []

/-- `flash_buffer` after some stores from `data`. -/
def applyStores (data : Nat → UInt8) (buffer : Nat → UInt8) (sts : List FillStore) :
    Nat → UInt8 :=
  sts.foldl (fun b st x => if x = st.index then data st.source else b x) buffer

/-! ## The loop -/

/-- The bootloader, whether it has not jumped to the application and does not
wait for the watchdog, and all stores so far. -/
structure BootRun where
  boot : Bootloader
  running : Bool
  stores : List FillStore

/-- What a pass of the loop finds: a message, or none; or the board restarts,
with the reset flags and what the stack holds. -/
inductive BootEvent where
  | message (f : CanixFrame)
  | idle
  | restart (mcusr : UInt8) (data flashBuffer : Nat → UInt8)

/-- The start of `main`. -/
def bootStart (boot : Bootloader) (mcusr : UInt8) (data flashBuffer : Nat → UInt8) :
    Bootloader :=
  { boot with
    selfAddr := UInt16.ofNat (eepromReadWord boot.eeprom eeprSelfAddr) &&& 0x3ff
    bootCounter := 1
    lineCounter := 0
    data := fun i => if i = 0 then 4 else if i = 1 then 1 else if i = 2 then mcusr else data i
    flashBuffer := flashBuffer }

/-- The end of a pass: the boot counter, and after 50 passes the application or,
with a wrong checksum, a reset. -/
def countBoot (r : BootRun) : BootRun :=
  if r.boot.bootCounter > 0 then
    { r with
      boot := { r.boot with bootCounter := r.boot.bootCounter + 1 }
      running := decide (r.boot.bootCounter + 1 ≤ 50) }
  else r

/-- One pass of the loop. -/
def bootPass (mcu : Mcu) (r : BootRun) : BootEvent → Option BootRun
  | .restart mcusr data flashBuffer =>
      some { r with boot := bootStart r.boot mcusr data flashBuffer, running := true }
  | .idle => some (if r.running then countBoot r else r)
  | .message f =>
      if !r.running then some r
      -- the copy of the message into `data` goes by the size the controller reports
      else if f.size.toNat > 8 then none
      else
        let result := bootReceive mcu r.boot f
        let r := { r with boot := result.boot, stores := r.stores ++ fillStores r.boot f }
        match result.next with
        | .loop => some (countBoot r)
        | .reset => some { r with running := false }
        | .app => some { r with running := false }

/-! ## The log is complete -/

/-- The loop of a fill, store by store. -/
theorem fillBuffer_eq (buffer data : Nat → UInt8) (size : Nat) :
    fillBuffer buffer data = applyStores data buffer
      ((List.range 4).map fun i => ⟨(data 2).toNat + i, 3 + i, size⟩) := by
  funext x
  show fillBuffer buffer data x =
    if x = (data 2).toNat + 3 then data (3 + 3)
    else if x = (data 2).toNat + 2 then data (3 + 2)
    else if x = (data 2).toNat + 1 then data (3 + 1)
    else if x = (data 2).toNat + 0 then data (3 + 0)
    else buffer x
  unfold fillBuffer
  by_cases hin : (data 2).toNat ≤ x ∧ x < (data 2).toNat + 4
  · obtain ⟨i, rfl⟩ := Nat.exists_eq_add_of_le hin.1
    rw [if_pos hin, Nat.add_sub_cancel_left]
    have hi : i = 0 ∨ i = 1 ∨ i = 2 ∨ i = 3 := by omega
    rcases hi with rfl | rfl | rfl | rfl <;> simp
  · rw [if_neg hin, if_neg (by omega), if_neg (by omega), if_neg (by omega), if_neg (by omega)]

theorem ite_flashBuffer {c : Prop} [Decidable c] {r r' : BootResult} {buffer : Nat → UInt8}
    (h : r.boot.flashBuffer = buffer) (h' : r'.boot.flashBuffer = buffer) :
    (if c then r else r').boot.flashBuffer = buffer := by
  split
  · exact h
  · exact h'

/-- Only a fill writes into the buffer. -/
theorem bootSwitch_flashBuffer (mcu : Mcu) {s : Bootloader} (f : CanixFrame)
    (h : s.data 1 ≠ hmsFlashBufferFill) :
    (bootSwitch mcu s f).boot.flashBuffer = s.flashBuffer := by
  unfold bootSwitch
  dsimp only
  rw [if_neg h]
  repeat' apply ite_flashBuffer
  all_goals rfl

/-- **The log is complete**: what a message does to the buffer are its stores. -/
theorem bootReceive_flashBuffer (mcu : Mcu) (s : Bootloader) (f : CanixFrame) :
    (bootReceive mcu s f).boot.flashBuffer =
      applyStores (readMessage s.data f) s.flashBuffer (fillStores s f) := by
  unfold bootReceive fillStores
  dsimp only
  by_cases hacc : BootAccepts s f
  · have hacc' := hacc
    unfold BootAccepts at hacc'
    rw [if_pos hacc']
    by_cases hcmd : readMessage s.data f 1 = hmsFlashBufferFill
    · rw [if_pos ⟨hacc, hcmd⟩, ← fillBuffer_eq]
      have hswitch : bootSwitch mcu { s with data := readMessage s.data f } f =
          flashBufferFill { s with data := readMessage s.data f } f := by
        unfold bootSwitch
        dsimp only
        rw [hcmd]
        rfl
      obtain ⟨-, -, -, hbuffer, -⟩ :=
        flashBufferFill_spec { s with data := readMessage s.data f } f
      rw [hswitch, hbuffer]
    · rw [if_neg fun h => hcmd h.2]
      exact bootSwitch_flashBuffer mcu f hcmd
  · have hacc' := hacc
    unfold BootAccepts at hacc'
    rw [if_neg hacc', if_neg fun h => hacc h.1]
    rfl

/-! ## When the stores are safe -/

/-- A fill that the board takes. -/
structure IsFill (s : Bootloader) (f : CanixFrame) : Prop where
  dst : f.dst = s.selfAddr ∨ f.dst = hcanMulticastPing
  size : 2 ≤ f.size.toNat
  service : f.byte 0 = hcanSrvHms
  command : f.byte 1 = hmsFlashBufferFill

theorem isFill_iff (s : Bootloader) (f : CanixFrame) :
    BootAccepts s f ∧ readMessage s.data f 1 = hmsFlashBufferFill ↔ IsFill s f := by
  have hread : ∀ {i}, i < 2 → 2 ≤ f.size.toNat → readMessage s.data f i = f.byte i :=
    fun hi hsize => if_pos (Nat.lt_of_lt_of_le hi hsize)
  constructor
  · rintro ⟨⟨hdst, hsize, hsrv⟩, hcmd⟩
    rw [hread (by omega) hsize] at hsrv hcmd
    exact ⟨hdst, hsize, hsrv, hcmd⟩
  · rintro ⟨hdst, hsize, hsrv, hcmd⟩
    refine ⟨⟨hdst, hsize, ?_⟩, ?_⟩
    · rw [hread (by omega) hsize, hsrv]
    · rw [hread (by omega) hsize, hcmd]

/-- The message fits `data`, and a fill has all its bytes and ends in the
buffer. -/
structure FillOk (mcu : Mcu) (s : Bootloader) (f : CanixFrame) : Prop where
  size_le : f.size.toNat ≤ 8
  fill : IsFill s f → 7 ≤ f.size.toNat ∧ (f.byte 2).toNat + 4 ≤ sizeOfFlashbuffer mcu

/-- **The stores of one message** are safe exactly if a fill has all its bytes
and ends in the buffer. -/
theorem fillStores_safe_iff (mcu : Mcu) (s : Bootloader) (f : CanixFrame) :
    (∀ st ∈ fillStores s f, st.Safe mcu) ↔
      (IsFill s f → 7 ≤ f.size.toNat ∧ (f.byte 2).toNat + 4 ≤ sizeOfFlashbuffer mcu) := by
  unfold fillStores
  dsimp only
  by_cases hfill : IsFill s f
  · rw [if_pos ((isFill_iff s f).mpr hfill)]
    constructor
    · -- the last of the four stores decides
      intro hsafe _
      have hlast := hsafe _ (List.mem_map.mpr ⟨3, List.mem_range.mpr (by omega), rfl⟩)
      have hsize : 7 ≤ f.size.toNat := hlast.source_lt
      have hindex : (readMessage s.data f 2).toNat + 3 < sizeOfFlashbuffer mcu := hlast.index_lt
      have hread : readMessage s.data f 2 = f.byte 2 := if_pos (by omega)
      rw [hread] at hindex
      exact ⟨hsize, hindex⟩
    · intro hok st hst
      obtain ⟨hsize, hindex⟩ := hok hfill
      obtain ⟨i, hi, rfl⟩ := List.mem_map.mp hst
      have hi4 := List.mem_range.mp hi
      have hread : readMessage s.data f 2 = f.byte 2 := if_pos (by omega)
      rw [hread]
      have hlt : (f.byte 2).toNat + i < sizeOfFlashbuffer mcu := by omega
      have hsrc : 3 + i < f.size.toNat := by omega
      exact ⟨hlt, hsrc⟩
  · rw [if_neg fun h => hfill ((isFill_iff s f).mp h)]
    exact ⟨fun _ h => absurd h hfill, fun _ _ h => absurd h List.not_mem_nil⟩

/-! ## Runs -/

/-- A pass of a program of which nothing is known after a read out of bounds. -/
def bootLoop (mcu : Mcu) (r : Option BootRun) (e : BootEvent) : Option BootRun :=
  r.bind fun r => bootPass mcu r e

/-- Something is known, and all stores were safe. -/
def StoresSafe (mcu : Mcu) (r : Option BootRun) : Prop :=
  ∃ r', r = some r' ∧ ∀ st ∈ r'.stores, st.Safe mcu

/-- What the loop takes is all right. -/
def TakesOk (mcu : Mcu) (r : Option BootRun) (e : BootEvent) : Prop :=
  ∀ r' f, r = some r' → r'.running → e = .message f → FillOk mcu r'.boot f

theorem storesSafe_start (mcu : Mcu) (boot : Bootloader) :
    StoresSafe mcu (some ⟨boot, true, []⟩) :=
  ⟨_, rfl, fun _ h => absurd h List.not_mem_nil⟩

@[simp] theorem countBoot_stores (r : BootRun) : (countBoot r).stores = r.stores := by
  unfold countBoot
  split <;> rfl

/-- What a pass logs. -/
theorem bootPass_stores (mcu : Mcu) {r : BootRun} {f : CanixFrame} (hrun : r.running = true)
    (hsize : f.size.toNat ≤ 8) :
    ∃ r', bootPass mcu r (.message f) = some r' ∧ r'.stores = r.stores ++ fillStores r.boot f := by
  have hle : ¬ f.size.toNat > 8 := by omega
  simp only [bootPass, hrun, Bool.not_true, Bool.false_eq_true, if_false, if_neg hle]
  split
  · exact ⟨_, rfl, countBoot_stores _⟩
  · exact ⟨_, rfl, rfl⟩
  · exact ⟨_, rfl, rfl⟩

/-- **One pass** keeps the stores safe exactly if what it takes is all right. -/
theorem bootLoop_safe_iff (mcu : Mcu) {r : Option BootRun} (hr : StoresSafe mcu r)
    (e : BootEvent) : StoresSafe mcu (bootLoop mcu r e) ↔ TakesOk mcu r e := by
  obtain ⟨r, rfl, hsafe⟩ := hr
  cases e with
  | restart mcusr data flashBuffer =>
      exact iff_of_true ⟨_, rfl, hsafe⟩ fun _ _ _ _ h => absurd h nofun
  | idle =>
      refine iff_of_true ⟨_, rfl, ?_⟩ fun _ _ _ _ h => absurd h nofun
      split
      · rw [countBoot_stores]
        exact hsafe
      · exact hsafe
  | message f =>
      by_cases hrun : r.running = true
      · by_cases hsize : f.size.toNat ≤ 8
        · obtain ⟨r', hpass, hstores⟩ := bootPass_stores mcu hrun hsize
          have hone := fillStores_safe_iff mcu r.boot f
          constructor
          · rintro ⟨r₁, hr₁, hall⟩ r₀ g hr₀ _ hg
            obtain rfl := Option.some.inj hr₀
            obtain rfl := BootEvent.message.inj hg
            obtain rfl := Option.some.inj (hpass.symm.trans hr₁)
            rw [hstores] at hall
            exact ⟨hsize, hone.mp fun st hst => hall st (List.mem_append_right _ hst)⟩
          · intro hok
            refine ⟨r', hpass, fun st hst => ?_⟩
            rw [hstores] at hst
            rcases List.mem_append.mp hst with hst | hst
            · exact hsafe st hst
            · exact hone.mpr (hok r f rfl hrun rfl).fill st hst
        · have hnone : bootLoop mcu (some r) (.message f) = none := by
            show bootPass mcu r (.message f) = none
            simp only [bootPass, hrun, Bool.not_true, Bool.false_eq_true, if_false,
              if_pos (Nat.lt_of_not_le hsize)]
          refine iff_of_false ?_ fun hok => hsize (hok r f rfl hrun rfl).size_le
          rintro ⟨r', hr', -⟩
          rw [hnone] at hr'
          exact absurd hr' nofun
      · have hsame : bootLoop mcu (some r) (.message f) = some r := by
          show bootPass mcu r (.message f) = some r
          simp [bootPass, hrun]
        refine iff_of_true ⟨r, hsame, hsafe⟩ fun r₀ _ hr₀ hr _ => ?_
        obtain rfl := Option.some.inj hr₀
        exact absurd hr hrun

/-- **When a board is safe from its bus.** In every run of the bootloader,
whatever the messages and the restarts, the stores into `flash_buffer` are
inside it and store bytes of their message exactly if every fill it takes has 7
bytes and an offset that leaves room for four bytes, and no message says that it
has more than 8. The stores are all that a message does to the buffer. -/
theorem fillStores_iff (mcu : Mcu) :
    (∀ boot es,
      (∀ pre, pre <+: es → StoresSafe mcu (run (bootLoop mcu) (some ⟨boot, true, []⟩) pre)) ↔
        Guarded (bootLoop mcu) (TakesOk mcu) (some ⟨boot, true, []⟩) es) ∧
    ∀ s f, (bootReceive mcu s f).boot.flashBuffer =
      applyStores (readMessage s.data f) s.flashBuffer (fillStores s f) := by
  refine ⟨fun boot es => ?_, bootReceive_flashBuffer mcu⟩
  exact always_iff_guarded (I := StoresSafe mcu) (fun _ h => h)
    (fun r e hr => (bootLoop_safe_iff mcu hr e).mpr)
    (fun r e hr => (bootLoop_safe_iff mcu hr e).mp) es _ (storesSafe_start mcu boot)

/-- A board with address 2, before its first message. -/
def freshBoot : Bootloader where
  selfAddr := 2
  bootCounter := 0
  lineCounter := 0
  data := fun _ => 0
  flashBuffer := fun _ => 0
  flash := fun _ => 0xff
  eeprom := fun _ => 0xff

/-- A fill for that board with four bytes at `offset`. -/
def fillAt (offset : UInt8) : CanixFrame :=
  ⟨1, 2, hcanProtoSfp, 7, payload [hcanSrvHms, hmsFlashBufferFill, offset, 1, 2, 3, 4]⟩

/-- The last offset on a board with 128 bytes. -/
theorem fillStores_lastOffset :
    StoresSafe .atmega328p
      (run (bootLoop .atmega328p) (some ⟨freshBoot, true, []⟩) [.message (fillAt 124)]) := by
  refine ((fillStores_iff .atmega328p).1 freshBoot [.message (fillAt 124)]).mpr
    ⟨?_, trivial⟩ _ (List.prefix_refl _)
  intro r f _ _ hf
  obtain rfl := BootEvent.message.inj hf
  exact ⟨by decide, fun _ => by decide⟩

/-- **One byte past the page**: the offset 125 on a board with 128 bytes. -/
theorem fillStores_beyond :
    ¬ ∀ mcu boot es, ∀ pre, pre <+: es →
      StoresSafe mcu (run (bootLoop mcu) (some ⟨boot, true, []⟩) pre) := by
  intro hall
  have hsafe := hall .atmega328p freshBoot [.message (fillAt 125)] _ (List.prefix_refl _)
  have hok := (bootLoop_safe_iff .atmega328p (storesSafe_start _ freshBoot)
    (.message (fillAt 125))).mp hsafe _ _ rfl rfl rfl
  have hfill : IsFill freshBoot (fillAt 125) := ⟨.inl rfl, by decide, rfl, rfl⟩
  exact absurd (hok.fill hfill).2 (by decide)

end OpenHcan.Flash
