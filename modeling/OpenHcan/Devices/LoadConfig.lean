import OpenHcan.Canix.EdsFind
import OpenHcan.Canix.EdsHeap
import OpenHcan.Lib.BoundedArray

/-!
# LoadConfig — the devices of a board are built from its EEPROM

`devices_load_config`, as `mk_devices_c.xsl` generates it for the devices of a
firmware. Every allocated block of a device type gets the next struct in
`device_data` and the next pointer in `pdevice_data`; the type byte, the
configuration and what the device's own `…_init` sets are stored in the struct.

The two arrays are as large as they are on the part, and `none` is a write
behind one of them. The device types of the firmware are a parameter: what the
generated `switch` knows of them is their number, the size of their
configuration and of their struct, and their `…_init`.

Left out: the `canix_syslog_P` messages and `portsDeviceCreated`, which nothing
here reads.
-/

namespace OpenHcan.Devices

open Eds Lib

set_option maxRecDepth 100000

def hcanSrvSls : UInt8 := 4
def hcanSlsFirmwareConfigCompatError : UInt8 := 3

/-- `HCAN_MULTICAST_SYSLOG` -/
def hcanMulticastSyslog : UInt16 := 970

/-- `MAX_PDEVICE_DATA` -/
def maxPdeviceData : Mcu → Nat
  | .atmega328p | .atmega32 => 64
  | .atmega644p => 128

/-- `MAX_DEVICE_DATA` -/
def maxDeviceData : Mcu → Nat
  | .atmega328p | .atmega32 => 768
  | .atmega644p => 2048

/-- A device of the firmware. `init` gives the fields `…_init` sets, by their
place in the struct, for a block and its address. -/
structure DeviceKind where
  type : UInt8
  configSize : UInt8
  dataSize : UInt8
  init : Eeprom → Nat → List (Nat × UInt8)

/-- `pdevice_data`, `device_data`, `device_data_ram_usage` and
`unknown_device_found`. A pointer is an index of `device_data`. -/
structure DeviceRam (mcu : Mcu) where
  pdeviceData : Vector (Option Nat) (maxPdeviceData mcu)
  deviceData : Vector UInt8 (maxDeviceData mcu)
  ramUsage : Nat
  unknownDeviceFound : Bool

/-- `devices_init` -/
def devicesInit {mcu : Mcu} (d : DeviceRam mcu) : DeviceRam mcu :=
  { d with
    pdeviceData := Vector.replicate _ none
    deviceData := Vector.replicate _ 0 }

/-- The variables of `devices_load_config` between two turns of its loop. -/
structure Loading (mcu : Mcu) where
  devices : DeviceRam mcu
  pdeviceDataAllocated : Nat
  deviceDataAllocated : Nat

/-- How a turn of the loop ends: the next one comes, or the function returns. -/
inductive Turn (mcu : Mcu)
  | next (l : Loading mcu)
  | stop (d : DeviceRam mcu) (message : Option CanixFrame)

/-- The message about a block whose size is not the firmware's. -/
def compatError (selfaddr : UInt16) (m : Eeprom) (it : Nat) (configSize : UInt8) : CanixFrame where
  src := selfaddr
  dst := hcanMulticastSyslog
  proto := hcanProtoSfp
  size := 7
  data := payload [hcanSrvSls, hcanSlsFirmwareConfigCompatError, edsBlockType m it,
    hiByte it, loByte it, UInt8.ofNat (edsBlockSize m it), configSize]

/-- What loading the block at `it` stores in the struct, by place: the
configuration behind the type byte, the type, what `…_init` sets. -/
def DeviceKind.writes (k : DeviceKind) (m : Eeprom) (it : Nat) : List (Nat × UInt8) :=
  ((List.range k.configSize.toNat).map fun i => (1 + i, eepromReadByte m (ptr (it + 2 + i))))
    ++ (0, edsBlockType m it) :: k.init m it

/-- A block of the device type `k` is loaded. -/
def loadDevice {mcu : Mcu} (m : Eeprom) (it : Nat) (k : DeviceKind) (l : Loading mcu) :
    Option (Turn mcu) :=
  let p := l.deviceDataAllocated
  match write l.devices.pdeviceData l.pdeviceDataAllocated (some p) with
  | none => none
  | some pdeviceData =>
      let devices := { l.devices with pdeviceData := pdeviceData }
      if l.pdeviceDataAllocated + 1 > maxDeviceData mcu then some (.stop devices none)
      else
        (writeAll ((k.writes m it).map fun w => (p + w.1, w.2)) devices.deviceData).map
          fun deviceData => .next
            ⟨{ devices with deviceData := deviceData }, l.pdeviceDataAllocated + 1,
              p + k.dataSize.toNat⟩

/-- One turn of the loop, for the block at `it`. -/
def loadTurn {mcu : Mcu} (kinds : List DeviceKind) (selfaddr : UInt16) (m : Eeprom) (it : Nat)
    (l : Loading mcu) : Option (Turn mcu) :=
  match kinds.find? (fun k => k.type == edsBlockType m it) with
  | none =>
      if edsBlockType m it ≠ 255 then
        some (.next { l with devices := { l.devices with unknownDeviceFound := true } })
      else some (.next l)
  | some k =>
      if k.configSize.toNat ≠ edsBlockSize m it then
        some (.stop { devicesInit l.devices with ramUsage := 0 }
          (some (compatError selfaddr m it k.configSize)))
      else loadDevice m it k l

/-- The loop over the blocks. -/
def loadLoop {mcu : Mcu} (kinds : List DeviceKind) (selfaddr : UInt16) (m : Eeprom) :
    List Nat → Loading mcu → Option (DeviceRam mcu × Option CanixFrame)
  | [], l => some ({ l.devices with ramUsage := l.deviceDataAllocated }, none)
  | it :: its, l =>
      match loadTurn kinds selfaddr m it l with
      | none => none
      | some (.stop d message) => some (d, message)
      | some (.next l) => loadLoop kinds selfaddr m its l

/-- `devices_load_config`: the devices and the message about an incompatible
block, if there is one. -/
def devicesLoadConfig {mcu : Mcu} (kinds : List DeviceKind) (selfaddr : UInt16) (m : Eeprom)
    (d : DeviceRam mcu) : Option (DeviceRam mcu × Option CanixFrame) :=
  loadLoop kinds selfaddr m (edsForeachBlockBetween mcu m 1 255)
    ⟨{ devicesInit d with unknownDeviceFound := false }, 0, 0⟩

/-! ## When loading stays in bounds -/

/-- The blocks that are loaded, with their device types: those of known types,
up to the first one of a wrong size. -/
def loadable (kinds : List DeviceKind) (m : Eeprom) : List Nat → List (Nat × DeviceKind)
  | [] => []
  | it :: its =>
      match kinds.find? (fun k => k.type == edsBlockType m it) with
      | none => loadable kinds m its
      | some k =>
          if k.configSize.toNat ≠ edsBlockSize m it then [] else (it, k) :: loadable kinds m its

/-- The structs of the devices, laid out one behind the other from `p` on, are
written to inside the first `limit` bytes only. -/
def StructsFit (m : Eeprom) (limit : Nat) : Nat → List (Nat × DeviceKind) → Prop
  | _, [] => True
  | p, (it, k) :: ds =>
      p + extent (k.writes m it) ≤ limit ∧ StructsFit m limit (p + k.dataSize.toNat) ds

/-- There are pointers and bytes for all the devices. -/
structure FitsRam (mcu : Mcu) (m : Eeprom) (ds : List (Nat × DeviceKind)) : Prop where
  pointers : ds.length ≤ maxPdeviceData mcu
  structs : StructsFit m (maxDeviceData mcu) 0 ds

variable {mcu : Mcu} {m : Eeprom} {kinds : List DeviceKind}

theorem maxPdeviceData_le (mcu : Mcu) : maxPdeviceData mcu ≤ maxDeviceData mcu := by
  cases mcu <;> decide

theorem writes_ne_nil (k : DeviceKind) (m : Eeprom) (it : Nat) : k.writes m it ≠ [] := by
  unfold DeviceKind.writes
  simp

/-- **A block is loaded in bounds** exactly if there is a pointer left for it
and its struct is written to inside the array. The test for a full RAM never
fires: behind a store in bounds there are not that many pointers. -/
theorem loadDevice_cases (m : Eeprom) (it : Nat) (k : DeviceKind) (l : Loading mcu) :
    (loadDevice m it k l = none ∧ ¬ (l.pdeviceDataAllocated < maxPdeviceData mcu ∧
        l.deviceDataAllocated + extent (k.writes m it) ≤ maxDeviceData mcu)) ∨
      ∃ l' : Loading mcu, loadDevice m it k l = some (.next l') ∧
        l.pdeviceDataAllocated < maxPdeviceData mcu ∧
        l.deviceDataAllocated + extent (k.writes m it) ≤ maxDeviceData mcu ∧
        l'.pdeviceDataAllocated = l.pdeviceDataAllocated + 1 ∧
        l'.deviceDataAllocated = l.deviceDataAllocated + k.dataSize.toNat := by
  have hmax := maxPdeviceData_le mcu
  have hbytes : (∀ w ∈ (k.writes m it).map (fun w => (l.deviceDataAllocated + w.1, w.2)),
      w.1 < maxDeviceData mcu) ↔
      l.deviceDataAllocated + extent (k.writes m it) ≤ maxDeviceData mcu := by
    rw [List.forall_mem_map]
    exact forall_add_lt_iff (writes_ne_nil k m it) l.deviceDataAllocated
  unfold loadDevice
  by_cases hlt : l.pdeviceDataAllocated < maxPdeviceData mcu
  · simp only [write_of_lt _ hlt]
    rw [if_neg (by omega)]
    cases hw : writeAll ((k.writes m it).map fun w => (l.deviceDataAllocated + w.1, w.2))
        l.devices.deviceData with
    | none =>
        left
        refine ⟨rfl, fun h => ?_⟩
        have hsome := (writeAll_isSome_iff _ l.devices.deviceData).mpr (hbytes.mpr h.2)
        rw [hw] at hsome
        cases hsome
    | some deviceData =>
        right
        have hfit := hbytes.mp ((writeAll_isSome_iff _ l.devices.deviceData).mp (by rw [hw]; rfl))
        exact ⟨_, rfl, hlt, hfit, rfl, rfl⟩
  · simp only [write_of_ge _ (Nat.not_lt.mp hlt)]
    exact Or.inl ⟨trivial, fun h => hlt h.1⟩

/-- **The loop stays in bounds** exactly if the rest of the devices fits behind
what is allocated. -/
theorem loadLoop_isSome_iff (selfaddr : UInt16) (its : List Nat) :
    ∀ l : Loading mcu, l.pdeviceDataAllocated ≤ maxPdeviceData mcu →
      ((loadLoop kinds selfaddr m its l).isSome ↔
        l.pdeviceDataAllocated + (loadable kinds m its).length ≤ maxPdeviceData mcu ∧
          StructsFit m (maxDeviceData mcu) l.deviceDataAllocated (loadable kinds m its)) := by
  induction its with
  | nil =>
      intro l hl
      exact iff_of_true rfl ⟨hl, trivial⟩
  | cons it its ih =>
      intro l hl
      rw [loadLoop, loadTurn, loadable]
      cases hk : kinds.find? (fun k => k.type == edsBlockType m it) with
      | none =>
          by_cases h255 : edsBlockType m it = 255
          · simp only [h255, ne_eq, not_true_eq_false, if_false]
            exact ih l hl
          · simp only [ne_eq, h255, not_false_eq_true, if_true]
            exact ih _ hl
      | some k =>
          by_cases hsize : k.configSize.toNat = edsBlockSize m it
          · simp only [hsize, ne_eq, not_true_eq_false, if_false]
            rcases loadDevice_cases m it k l with ⟨hnone, hnot⟩ | ⟨l', hsome, hlt, hfit, hp, hd⟩
            · rw [hnone]
              refine iff_of_false Bool.false_ne_true fun h => hnot ⟨?_, h.2.1⟩
              have hlen := h.1
              rw [List.length_cons] at hlen
              omega
            · rw [hsome]
              show (loadLoop kinds selfaddr m its l').isSome ↔ _ ∧ _ ∧ _
              rw [ih l' (by omega), hp, hd, List.length_cons, and_iff_right hfit, Nat.add_assoc,
                Nat.add_comm 1]
          · simp only [ne_eq, hsize, not_false_eq_true, if_true]
            exact iff_of_true rfl ⟨hl, trivial⟩

/-- The blocks the loop comes by: the allocated ones, and the address behind the
heap if the byte there is not 0. -/
def deviceBlocks (mcu : Mcu) (m : Eeprom) (bs : Blocks) : List Nat :=
  wantedFrom mcu m (fun t => t ≥ 1 && t ≤ 255) edsDataStart bs

/-- A block that is loaded has the type of its device and the size of its
configuration. -/
theorem mem_loadable {its : List Nat} {it : Nat} {k : DeviceKind}
    (h : (it, k) ∈ loadable kinds m its) :
    it ∈ its ∧ k ∈ kinds ∧ k.type = edsBlockType m it ∧
      k.configSize.toNat = edsBlockSize m it := by
  induction its with
  | nil => cases h
  | cons a its ih =>
      rw [loadable] at h
      cases hk : kinds.find? (fun k => k.type == edsBlockType m a) with
      | none =>
          rw [hk] at h
          obtain ⟨hmem, hrest⟩ := ih h
          exact ⟨List.mem_cons_of_mem a hmem, hrest⟩
      | some k' =>
          rw [hk] at h
          by_cases hsize : k'.configSize.toNat = edsBlockSize m a
          · simp only [hsize, ne_eq, not_true_eq_false, if_false] at h
            rcases List.mem_cons.mp h with heq | h
            · cases heq
              have htype := List.find?_some hk
              exact ⟨List.mem_cons_self, List.mem_of_find?_eq_some hk, eq_of_beq htype, hsize⟩
            · obtain ⟨hmem, hrest⟩ := ih h
              exact ⟨List.mem_cons_of_mem a hmem, hrest⟩
          · simp only [ne_eq, hsize, not_false_eq_true, if_true] at h
            cases h

/-- The loop comes by block heads only, if the byte behind the heap is 0. -/
theorem isBlockHead_of_mem_deviceBlocks {bs : Blocks} (hh : EdsHeap mcu m bs)
    (hend : m (edsEnd mcu + 1) = 0) {it : Nat} (h : it ∈ deviceBlocks mcu m bs) :
    IsBlockHead mcu m it := by
  unfold deviceBlocks wantedFrom at h
  obtain ⟨hmem, hwanted⟩ := List.mem_filter.mp h
  rcases List.mem_append.mp hmem with hstart | hlast
  · exact (hh.isBlockHead_iff it).mpr (Lib.Tiling.mem_starts.mp hstart)
  · rw [List.mem_singleton.mp hlast, hend] at hwanted
    exact absurd hwanted (by decide)

theorem devicesLoadConfig_eq {bs : Blocks} (hh : EdsHeap mcu m bs) (selfaddr : UInt16)
    (d : DeviceRam mcu) :
    devicesLoadConfig kinds selfaddr m d
      = loadLoop kinds selfaddr m (deviceBlocks mcu m bs)
          ⟨{ devicesInit d with unknownDeviceFound := false }, 0, 0⟩ := by
  rw [devicesLoadConfig, edsForeachBlockBetween_eq hh]
  rfl

/-- **Loading stays in bounds exactly if the devices fit**: no block is ever
skipped because the RAM is full. -/
theorem devicesLoadConfig_isSome_iff {bs : Blocks} (hh : EdsHeap mcu m bs)
    (kinds : List DeviceKind) (selfaddr : UInt16) (d : DeviceRam mcu) :
    (devicesLoadConfig kinds selfaddr m d).isSome ↔
      FitsRam mcu m (loadable kinds m (deviceBlocks mcu m bs)) := by
  rw [devicesLoadConfig_eq hh, loadLoop_isSome_iff _ _ _ (Nat.zero_le _), Nat.zero_add]
  exact ⟨fun h => ⟨h.1, h.2⟩, fun h => ⟨h.pointers, h.structs⟩⟩

/-- The device `taster`: three bytes of configuration in a struct of five. -/
def tasterKind : DeviceKind := ⟨10, 3, 5, fun _ _ => []⟩

/-- 65 tasters and the rest of the EEPROM free. -/
def tasterBlocks : Blocks :=
  List.replicate 65 ⟨10, 3⟩ ++ [⟨0, 255⟩, ⟨0, 255⟩, ⟨0, 149⟩]

def tasterEeprom : Eeprom := fun q =>
  if q < 34 then 255
  else if q < 359 then [10, 3, 1, 0, 7].getD ((q - 34) % 5) 0
  else if q = 360 then 255
  else if q = 617 then 255
  else if q = 874 then 149
  else 0

theorem tasterEeprom_heap : EdsHeap .atmega32 tasterEeprom tasterBlocks := by
  constructor
  · decide
  · decide

def emptyRam : DeviceRam .atmega32 where
  pdeviceData := Vector.replicate _ none
  deviceData := Vector.replicate _ 0
  ramUsage := 0
  unknownDeviceFound := false

theorem devicesLoadConfig_isSome_iff_tasters :
    ¬ (devicesLoadConfig [tasterKind] 1 tasterEeprom emptyRam).isSome := by
  intro hsome
  have hfits := (devicesLoadConfig_isSome_iff tasterEeprom_heap [tasterKind] 1 emptyRam).mp hsome
  exact absurd hfits.pointers (by decide)

/-- **65 tasters need one pointer more than there are**: it is stored behind
`pdevice_data`. -/
theorem devicesLoadConfig_out_of_bounds :
    ¬ ∀ (mcu : Mcu) (m : Eeprom) (bs : Blocks) (kinds : List DeviceKind) (selfaddr : UInt16)
      (d : DeviceRam mcu), EdsHeap mcu m bs →
        (devicesLoadConfig kinds selfaddr m d).isSome := by
  intro hall
  have hsome := hall .atmega32 tasterEeprom tasterBlocks [tasterKind] 1 emptyRam tasterEeprom_heap
  rw [devicesLoadConfig_eq tasterEeprom_heap, loadLoop_isSome_iff _ _ _ (Nat.zero_le _)] at hsome
  have hlength : (loadable [tasterKind] tasterEeprom
      (deviceBlocks .atmega32 tasterEeprom tasterBlocks)).length = 65 := by decide
  have hpointers := hsome.1
  rw [hlength] at hpointers
  exact absurd hpointers (by decide)

end OpenHcan.Devices
