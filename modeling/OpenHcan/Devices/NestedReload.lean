import OpenHcan.Devices.ConfigReload
import OpenHcan.Lib.Machine

/-!
# NestedReload — handlers under way when the devices are loaded anew

A controllerboard with its call stack. A handler that sleeps in
`canix_sleep_100th` has frames delivered and idle handlers run above it, and a
frame that a handler sends is delivered to the board's own handlers first; a
second sleep returns at once. The handlers of the devices are a parameter:
programs that compute, send and sleep.

The record at a pointer is what `devices_load_config` has built there: a type
and the block of its configuration. `devicesLoadConfig_holds` connects the
records with the arrays of the code.

Loading is one step here, and so is an EDS request. Both may sleep themselves, in
`canix_syslog_P`, but not while a handler sleeps, and no device sends a frame
that asks for them. With nothing under way, what such a load or request leaves
is left open (`relaid`).

Left out: the watchdog, and what is sent to the bus.
-/

namespace OpenHcan.NestedReload

open Eds Lib Devices Controllerboard Powerport

set_option maxRecDepth 100000

/-! ## The records of a configuration -/

/-- A device in RAM: its pointer, its type byte, and the block it was built from. -/
structure DeviceRecord where
  p : Nat
  type : UInt8
  block : Nat
deriving DecidableEq, Repr

/-- The records `devices_load_config` builds from the blocks `its`, with `p` bytes
in use; none at all if a block does not fit the firmware. -/
def loadRecords (kinds : List DeviceKind) (m : Eeprom) :
    List Nat → Nat → Option (List DeviceRecord)
  | [], _ => some []
  | it :: its, p =>
      match kinds.find? (fun k => k.type == edsBlockType m it) with
      | none => loadRecords kinds m its p
      | some k =>
          if k.configSize.toNat ≠ edsBlockSize m it then none
          else (loadRecords kinds m its (p + k.dataSize.toNat)).map fun rs =>
            ⟨p, edsBlockType m it, it⟩ :: rs

/-- The blocks `devices_load_config` comes by. -/
def configBlocks (mcu : Mcu) (m : Eeprom) : List Nat := edsForeachBlockBetween mcu m 1 255

/-- The bytes the structs of some devices take. -/
def structBytes (ds : List (Nat × DeviceKind)) : Nat :=
  ds.foldl (fun n d => n + d.2.dataSize.toNat) 0

/-- The configuration builds the record `r` again: all its blocks fit the firmware,
the block of `r` is loaded, has the type of `r`, and the devices in front of it
take as many bytes as the pointer says. -/
structure Reloads (kinds : List DeviceKind) (m : Eeprom) (its : List Nat) (r : DeviceRecord) :
    Prop where
  compatible : Compatible kinds m its
  type : edsBlockType m r.block = r.type
  placed : ∃ pre k post, loadable kinds m its = pre ++ (r.block, k) :: post ∧ structBytes pre = r.p

variable {kinds : List DeviceKind} {m : Eeprom}

theorem structBytes_add (ds : List (Nat × DeviceKind)) (n : Nat) :
    ds.foldl (fun n d => n + d.2.dataSize.toNat) n = n + structBytes ds := by
  induction ds generalizing n with
  | nil => rfl
  | cons d ds ih =>
      show ds.foldl _ (n + d.2.dataSize.toNat) = n + ds.foldl _ (0 + d.2.dataSize.toNat)
      rw [ih, ih, Nat.zero_add, Nat.add_assoc]

theorem structBytes_cons (d : Nat × DeviceKind) (ds : List (Nat × DeviceKind)) :
    structBytes (d :: ds) = d.2.dataSize.toNat + structBytes ds := by
  show ds.foldl _ (0 + d.2.dataSize.toNat) = _
  rw [structBytes_add, Nat.zero_add]

/-- What is built where, block by block. -/
theorem loadRecords_spec (its : List Nat) :
    ∀ p, (Compatible kinds m its →
        ∃ rs, loadRecords kinds m its p = some rs ∧ ∀ r, r ∈ rs ↔
          edsBlockType m r.block = r.type ∧ ∃ pre k post,
            loadable kinds m its = pre ++ (r.block, k) :: post ∧ p + structBytes pre = r.p) ∧
      (¬ Compatible kinds m its → loadRecords kinds m its p = none) := by
  induction its with
  | nil =>
      intro p
      refine ⟨fun _ => ⟨[], rfl, fun r => ?_⟩, fun h => absurd (fun _ h => absurd h nofun) h⟩
      refine iff_of_false List.not_mem_nil ?_
      rintro ⟨-, pre, k, post, heq, -⟩
      cases pre <;> cases heq
  | cons it its ih =>
      intro p
      rw [loadRecords, loadable]
      cases hk : kinds.find? (fun k => k.type == edsBlockType m it) with
      | none =>
          simp only [compatible_cons_of_none hk]
          exact ih p
      | some k =>
          simp only [compatible_cons_of_some hk]
          by_cases hsize : k.configSize.toNat = edsBlockSize m it
          · simp only [hsize, ne_eq, not_true_eq_false, if_false, true_and]
            obtain ⟨hsome, hnone⟩ := ih (p + k.dataSize.toNat)
            refine ⟨fun h => ?_, fun h => by rw [hnone h]; rfl⟩
            obtain ⟨rs, hrs, hmem⟩ := hsome h
            refine ⟨_, by rw [hrs]; rfl, fun r => ?_⟩
            rw [List.mem_cons, hmem]
            constructor
            · rintro (rfl | ⟨htype, pre, k', post, heq, hp⟩)
              · exact ⟨rfl, [], k, _, rfl, rfl⟩
              · refine ⟨htype, (it, k) :: pre, k', post, by rw [heq]; rfl, ?_⟩
                rw [structBytes_cons, ← hp, Nat.add_assoc]
            · rintro ⟨htype, pre, k', post, heq, hp⟩
              cases pre with
              | nil =>
                  obtain ⟨hhead, -⟩ := List.cons.inj heq
                  obtain ⟨hblock, -⟩ := Prod.mk.inj hhead
                  obtain ⟨rp, rtype, rblock⟩ := r
                  subst hblock
                  exact .inl (DeviceRecord.mk.injEq .. ▸ ⟨hp.symm, htype.symm, rfl⟩)
              | cons d pre =>
                  obtain ⟨rfl, hrest⟩ := List.cons.inj heq
                  rw [structBytes_cons, ← Nat.add_assoc] at hp
                  exact .inr ⟨htype, pre, k', post, hrest, hp⟩
          · simp only [ne_eq, hsize, not_false_eq_true, if_true, false_and]
            exact ⟨False.elim, fun _ => trivial⟩

/-- **A record is there after a load** exactly if the configuration builds it. -/
theorem mem_loadRecords_iff (its : List Nat) (r : DeviceRecord) :
    r ∈ (loadRecords kinds m its 0).getD [] ↔ Reloads kinds m its r := by
  obtain ⟨hsome, hnone⟩ := @loadRecords_spec kinds m its 0
  by_cases hc : Compatible kinds m its
  · obtain ⟨rs, hrs, hmem⟩ := hsome hc
    rw [hrs, Option.getD_some, hmem]
    constructor
    · rintro ⟨htype, pre, k, post, heq, hp⟩
      exact ⟨hc, htype, pre, k, post, heq, by rwa [Nat.zero_add] at hp⟩
    · rintro ⟨-, htype, pre, k, post, heq, hp⟩
      exact ⟨htype, pre, k, post, heq, by rwa [Nat.zero_add]⟩
  · rw [hnone hc]
    exact iff_of_false List.not_mem_nil fun h => hc h.compatible

/-! ## The records in the arrays -/

/-- The arrays hold the records: `pdevice_data` points to them in their order, and
the byte at the pointer is the type. -/
structure Holds {mcu : Mcu} (d : DeviceRam mcu) (rs : List DeviceRecord) : Prop where
  pointers : ∀ i < maxPdeviceData mcu, d.pdeviceData[i]? = some (rs[i]?.map DeviceRecord.p)
  types : ∀ r ∈ rs, d.deviceData[r.p]? = some r.type

/-- Between two turns of the loop: the records so far are in the arrays, in front of
what comes next. -/
structure Loaded {mcu : Mcu} (l : Loading mcu) (rs : List DeviceRecord) : Prop where
  holds : Holds l.devices rs
  length : rs.length = l.pdeviceDataAllocated
  below : ∀ r ∈ rs, r.p < l.deviceDataAllocated

/-- No `…_init` sets the type byte, and no struct is empty. -/
def KeepType (kinds : List DeviceKind) : Prop :=
  ∀ k ∈ kinds, 0 < k.dataSize.toNat ∧ ∀ m it, ∀ w ∈ k.init m it, 0 < w.1

variable {mcu : Mcu}

theorem holds_devicesInit (d : DeviceRam mcu) (n : Nat) :
    Holds { devicesInit d with ramUsage := n } [] where
  pointers i hi := by simp [devicesInit, hi]
  types _ hr := absurd hr List.not_mem_nil

/-- A block that is loaded gets the next pointer, and its bytes are stored behind it. -/
theorem loadDevice_stores {k : DeviceKind} {it : Nat} {l : Loading mcu} {t : Turn mcu}
    (h : loadDevice m it k l = some t) :
    ∃ (hlt : l.pdeviceDataAllocated < maxPdeviceData mcu) (deviceData : _),
      writeAll ((k.writes m it).map fun w => (l.deviceDataAllocated + w.1, w.2))
          l.devices.deviceData = some deviceData ∧
        t = .next ⟨⟨l.devices.pdeviceData.set l.pdeviceDataAllocated (some l.deviceDataAllocated),
            deviceData, l.devices.ramUsage, l.devices.unknownDeviceFound⟩,
          l.pdeviceDataAllocated + 1, l.deviceDataAllocated + k.dataSize.toNat⟩ := by
  have hmax := maxPdeviceData_le mcu
  unfold loadDevice at h
  by_cases hlt : l.pdeviceDataAllocated < maxPdeviceData mcu
  · simp only [write_of_lt _ hlt] at h
    rw [if_neg (by omega)] at h
    obtain ⟨deviceData, hwrite, rfl⟩ := Option.map_eq_some_iff.mp h
    exact ⟨hlt, deviceData, hwrite, rfl⟩
  · simp only [write_of_ge _ (Nat.not_lt.mp hlt)] at h
    cases h

/-- **A turn that loads a block** adds its record to those in the arrays. -/
theorem Loaded.loadDevice {k : DeviceKind} {it : Nat} {l l' : Loading mcu}
    {rs : List DeviceRecord} (hl : Loaded l rs) (hsize : 0 < k.dataSize.toNat)
    (hinit : ∀ w ∈ k.init m it, 0 < w.1) (h : loadDevice m it k l = some (.next l')) :
    Loaded l' (rs ++ [⟨l.deviceDataAllocated, edsBlockType m it, it⟩]) ∧
      l'.deviceDataAllocated = l.deviceDataAllocated + k.dataSize.toNat := by
  obtain ⟨hlt, deviceData, hwrite, hnext⟩ := loadDevice_stores h
  cases hnext
  refine ⟨⟨⟨fun i hi => ?_, fun r hr => ?_⟩, ?_, fun r hr => ?_⟩, rfl⟩
  · -- the pointers: those so far, the new one, nothing behind it
    rw [← hl.length] at hlt
    by_cases heq : i = rs.length
    · subst heq
      simp [← hl.length, hlt]
    · simp only [← hl.length]
      rw [Vector.getElem?_set_ne hlt (Ne.symm heq), hl.holds.pointers i hi]
      rcases Nat.lt_or_gt_of_ne heq with hbefore | hbehind
      · rw [List.getElem?_append_left hbefore]
      · rw [List.getElem?_eq_none (Nat.le_of_lt hbehind), List.getElem?_eq_none]
        rw [List.length_append]
        exact hbehind
  · -- the new struct is behind all type bytes so far, and its own one is set last
    rcases List.mem_append.mp hr with hmem | hmem
    · rw [← hl.holds.types r hmem]
      refine getElem?_writeAll_of_ne (fun w hw => ?_) hwrite
      obtain ⟨v, -, rfl⟩ := List.mem_map.mp hw
      have hbelow := hl.below r hmem
      show l.deviceDataAllocated + v.1 ≠ r.p
      omega
    · rw [List.mem_singleton.mp hmem]
      rw [DeviceKind.writes, List.map_append, List.map_cons] at hwrite
      refine getElem?_writeAll_last (fun w hw => ?_) hwrite
      obtain ⟨v, hv, rfl⟩ := List.mem_map.mp hw
      have hpos := hinit v hv
      show l.deviceDataAllocated + v.1 ≠ l.deviceDataAllocated
      omega
  · rw [List.length_append, hl.length]
    rfl
  · rcases List.mem_append.mp hr with hmem | hmem
    · exact Nat.lt_add_right _ (hl.below r hmem)
    · rw [List.mem_singleton.mp hmem]
      exact Nat.lt_add_of_pos_right hsize

/-- **The loop** leaves the records in the arrays, or none. -/
theorem loadLoop_holds (hkinds : KeepType kinds) (selfaddr : UInt16) (its : List Nat) :
    ∀ (l : Loading mcu) (rs : List DeviceRecord), Loaded l rs →
      ∀ d message, loadLoop kinds selfaddr m its l = some (d, message) →
        Holds d (((loadRecords kinds m its l.deviceDataAllocated).map (rs ++ ·)).getD []) := by
  induction its with
  | nil =>
      intro l rs hl d message h
      cases h
      rw [loadRecords, Option.map_some, Option.getD_some, List.append_nil]
      exact ⟨hl.holds.pointers, hl.holds.types⟩
  | cons it its ih =>
      intro l rs hl d message h
      rw [loadLoop, loadTurn] at h
      rw [loadRecords]
      cases hk : kinds.find? (fun k => k.type == edsBlockType m it) with
      | none =>
          rw [hk] at h
          by_cases h255 : edsBlockType m it = 255
          · simp only [h255, ne_eq, not_true_eq_false, if_false] at h
            exact ih l rs hl d message h
          · simp only [ne_eq, h255, not_false_eq_true, if_true] at h
            have hl' : Loaded { l with devices := { l.devices with unknownDeviceFound := true } }
                rs := ⟨⟨hl.holds.pointers, hl.holds.types⟩, hl.length, hl.below⟩
            exact ih _ rs hl' d message h
      | some k =>
          rw [hk] at h
          by_cases hsize : k.configSize.toNat = edsBlockSize m it
          · simp only [hsize, ne_eq, not_true_eq_false, if_false] at h ⊢
            cases hload : Devices.loadDevice m it k l with
            | none =>
                rw [hload] at h
                cases h
            | some t =>
                obtain ⟨hlt, deviceData, hwrite, rfl⟩ := loadDevice_stores hload
                obtain ⟨hpos, hinit⟩ := hkinds k (List.mem_of_find?_eq_some hk)
                obtain ⟨hl', hnext⟩ := hl.loadDevice hpos (hinit m it) hload
                rw [hload] at h
                have hrest := ih _ _ hl' d message h
                rw [hnext] at hrest
                rw [Option.map_map]
                simpa only [Function.comp_def, List.append_assoc, List.singleton_append]
                  using hrest
          · simp only [ne_eq, hsize, not_false_eq_true, if_true] at h ⊢
            cases h
            exact holds_devicesInit l.devices 0

/-- **`devices_load_config` builds the records**: where it stays inside its arrays,
they hold what the configuration says. -/
theorem devicesLoadConfig_holds (hkinds : KeepType kinds) {selfaddr : UInt16} {d d' : DeviceRam mcu}
    {message : Option CanixFrame}
    (h : devicesLoadConfig kinds selfaddr m d = some (d', message)) :
    Holds d' ((loadRecords kinds m (configBlocks mcu m) 0).getD []) := by
  have hstart : Loaded (⟨{ devicesInit d with unknownDeviceFound := false }, 0, 0⟩ : Loading mcu)
      [] := by
    refine ⟨⟨fun i hi => by simp [devicesInit, hi], ?_⟩, rfl, ?_⟩
    · exact fun r hr => absurd hr List.not_mem_nil
    · exact fun r hr => absurd hr List.not_mem_nil
  have hloop := loadLoop_holds hkinds selfaddr _ _ _ hstart d' message h
  simpa [configBlocks] using hloop

/-! ## Handlers and the call stack -/

/-- A function under way, by what it still does: it returns, it changes the
state, it sends a frame, or it sleeps. The rest is chosen by the state it finds
when it goes on. -/
inductive Handler (σ : Type)
  | ret
  | act (next : σ → σ) (rest : σ → Handler σ)
  | send (frame : CanixFrame) (rest : σ → Handler σ)
  | sleep (rest : σ → Handler σ)

/-- A firmware whose devices keep `μ` in RAM beside their records. The handlers
of a device get the type byte and the pointer, as the generated `switch` calls
them. -/
structure Firmware (μ : Type) where
  mcu : Mcu
  selfaddr : UInt16
  kinds : List DeviceKind
  canCallback : UInt8 → Nat → CanixFrame → Handler (Eeprom × μ)
  timerHandler : UInt8 → Nat → UInt8 → Handler (Eeprom × μ)
  /-- The other commands of `controllerboard_callback`. -/
  controllerboard : CanixFrame → Handler (Eeprom × μ)
  /-- The callbacks of the other services. -/
  other : CanixFrame → Handler (Eeprom × μ)
  /-- What `idle_handler` does in front of a round, and behind the last one. -/
  roundBegin : UInt8 → Handler (Eeprom × μ)
  idleEnd : Handler (Eeprom × μ)
  /-- What the `…_init` functions make of the RAM. -/
  init : Eeprom → List DeviceRecord → μ → μ

/-- An entry of the call stack. `frames` is the loop of `hauselektrik_callback`
with `controllerboard_callback` behind it, `round` a loop of `idle_handler` with
the rounds that come after it. A `handler` is that of a device, or other code. -/
inductive Activation (μ : Type)
  | handler (r : Option DeviceRecord) (h : Handler (Eeprom × μ))
  | frames (frame : CanixFrame) (i : Nat)
  | idle (zyklen : List UInt8)
  | round (zyklus : UInt8) (i : Nat) (zyklen : List UInt8)
  | sleep

/-- A board: `table` holds the records that `pdevice_data` points to, `running` is
that of `canix_sleep_100th`. -/
structure BoardStack (μ : Type) where
  eeprom : Eeprom
  mem : μ
  table : List DeviceRecord
  running : Bool
  stack : List (Activation μ)

/-- What can happen next. `relaid` is a load or a format that has slept itself, with
nothing under way. -/
inductive Event (μ : Type)
  | go
  | frame (f : CanixFrame)
  | idle (zyklen : List UInt8)
  | wake
  | relaid (eeprom : Eeprom) (mem : μ) (table : List DeviceRecord)

section Step

variable {μ : Type}

/-- The device whose handler this is. -/
def Activation.record : Activation μ → Option DeviceRecord
  | .handler r _ => r
  | _ => none

/-- The devices whose handlers are under way. -/
def underWay (stack : List (Activation μ)) : List DeviceRecord :=
  stack.filterMap Activation.record

/-- `canix_process_messages` is what runs: in the main loop or in a sleep. -/
def BoardStack.Processes (b : BoardStack μ) : Prop :=
  match b.stack with
  | [] | .sleep :: _ => True
  | _ => False

instance (b : BoardStack μ) : Decidable b.Processes :=
  match h : b.stack with
  | [] | .sleep :: _ => isTrue (by unfold BoardStack.Processes; rw [h]; trivial)
  | .handler _ _ :: _ | .frames _ _ :: _ | .idle _ :: _ | .round _ _ _ :: _ =>
      isFalse (by unfold BoardStack.Processes; rw [h]; exact id)

/-- The answer of `eds_can_callback` is sent. -/
def sendAnswer : Option CanixFrame → Handler (Eeprom × μ)
  | none => .ret
  | some answer => .send answer fun _ => .ret

/-- `canix_deliver_frame` -/
def deliver (fw : Firmware μ) (f : CanixFrame) (b : BoardStack μ) : BoardStack μ :=
  -- both callbacks for the house electrics filter by destination themselves
  if f.proto = hcanProtoSfp ∧ f.byte 0 = hcanSrvHes then
    if Betrifft fw.selfaddr f then { b with stack := .frames f 0 :: b.stack } else b
  else if f.proto = hcanProtoSfp ∧ f.byte 0 = hcanSrvEds ∧ f.dst = fw.selfaddr then
    let a := edsCanCallback fw.mcu fw.selfaddr b.eeprom f
    { b with eeprom := a.1, stack := .handler none (sendAnswer a.2) :: b.stack }
  else { b with stack := .handler none (fw.other f) :: b.stack }

/-- A function goes on, above `stack`. A frame it sends is delivered to the board
itself first; in a sleep that finds another one running it goes straight on. -/
def proceed (fw : Firmware μ) (r : Option DeviceRecord) (stack : List (Activation μ))
    (b : BoardStack μ) : Handler (Eeprom × μ) → BoardStack μ
  | .ret => { b with stack := stack }
  | .act next rest =>
      let s := next (b.eeprom, b.mem)
      { b with eeprom := s.1, mem := s.2, stack := .handler r (rest s) :: stack }
  | .send f rest => deliver fw f { b with stack := .handler r (.act id rest) :: stack }
  | .sleep rest =>
      -- the static `running`: a sleep inside a sleep does not wait
      if b.running then { b with stack := .handler r (.act id rest) :: stack }
      else { b with running := true, stack := .sleep :: .handler r (.act id rest) :: stack }

/-- The handler of the device number `i` is called above `stack`, if there is one. -/
def callDevice (h : DeviceRecord → Handler (Eeprom × μ)) (i : Nat) (stack : List (Activation μ))
    (b : BoardStack μ) : BoardStack μ :=
  match b.table[i]? with
  | none => { b with stack := stack }
  | some r => { b with stack := .handler (some r) (h r) :: stack }

/-- `pdevice_data` and `device_data` before anything is loaded. -/
def emptyDevices (mcu : Mcu) : DeviceRam mcu where
  pdeviceData := Vector.replicate _ none
  deviceData := Vector.replicate _ 0
  ramUsage := 0
  unknownDeviceFound := false

/-- `devices_load_config`. Nothing is known of a board that has written behind its
arrays. -/
def load (fw : Firmware μ) (stack : List (Activation μ)) (b : BoardStack μ) :
    Option (BoardStack μ) :=
  (devicesLoadConfig fw.kinds fw.selfaddr b.eeprom (emptyDevices fw.mcu)).map fun _ =>
    let table := (loadRecords fw.kinds b.eeprom (configBlocks fw.mcu b.eeprom) 0).getD []
    { b with table := table, mem := fw.init b.eeprom table b.mem, stack := stack }

/-- What is on top of the stack goes on. A sleep only waits. -/
def go (fw : Firmware μ) (b : BoardStack μ) : Option (BoardStack μ) :=
  match b.stack with
  | [] | .sleep :: _ => some b
  | .handler r h :: stack => some (proceed fw r stack b h)
  | .frames f i :: stack =>
      -- `pdevice_data[i]` is read only now: a load in between has changed it
      if i < maxPdeviceData fw.mcu then
        some (callDevice (fun r => fw.canCallback r.type r.p f) i (.frames f (i + 1) :: stack) b)
      else if f.byte 1 = hcanHesConfigReload then load fw stack b
      else some { b with stack := .handler none (fw.controllerboard f) :: stack }
  | .idle [] :: stack => some { b with stack := .handler none fw.idleEnd :: stack }
  | .idle (z :: zs) :: stack =>
      some { b with stack := .handler none (fw.roundBegin z) :: .round z 0 zs :: stack }
  | .round z i zs :: stack =>
      if i < maxPdeviceData fw.mcu then
        some (callDevice (fun r => fw.timerHandler r.type r.p z) i (.round z (i + 1) zs :: stack) b)
      else some { b with stack := .idle zs :: stack }

def boardStep (fw : Firmware μ) (b : BoardStack μ) : Event μ → Option (BoardStack μ)
  | .go => go fw b
  | .frame f => some (if b.Processes then deliver fw f b else b)
  | .idle zyklen =>
      some (if b.Processes then { b with stack := .idle zyklen :: b.stack } else b)
  | .wake =>
      match b.stack with
      | .sleep :: stack => some { b with running := false, stack := stack }
      | _ => some b
  | .relaid eeprom mem table =>
      if b.stack = [] then some ⟨eeprom, mem, table, b.running, []⟩ else some b

/-! ## Runs -/

/-- The board in its main loop. -/
def mainloop (eeprom : Eeprom) (mem : μ) (table : List DeviceRecord) : BoardStack μ :=
  ⟨eeprom, mem, table, false, []⟩

/-- A step of a board something is known of. -/
def tryStep (fw : Firmware μ) (s : Option (BoardStack μ)) (e : Event μ) : Option (BoardStack μ) :=
  s.bind fun b => boardStep fw b e

/-- The next step is `devices_load_config`. -/
def Loads (fw : Firmware μ) (b : BoardStack μ) (e : Event μ) : Prop :=
  ∃ f i stack, e = .go ∧ b.stack = .frames f i :: stack ∧ maxPdeviceData fw.mcu ≤ i ∧
    f.byte 1 = hcanHesConfigReload

/-- The configuration in the EEPROM has room in the RAM, and builds the records of
all handlers under way again. -/
structure KeepsRecords (fw : Firmware μ) (b : BoardStack μ) : Prop where
  fits : FitsRam fw.mcu b.eeprom (loadable fw.kinds b.eeprom (configBlocks fw.mcu b.eeprom))
  reloads : ∀ r ∈ underWay b.stack,
    Reloads fw.kinds b.eeprom (configBlocks fw.mcu b.eeprom) r

/-- If devices are loaded now, the handlers under way keep their records. -/
def LoadKeeps (fw : Firmware μ) (s : Option (BoardStack μ)) (e : Event μ) : Prop :=
  ∀ b, s = some b → Loads fw b e → KeepsRecords fw b

/-- No handler under way has lost its record. -/
def Intact (s : Option (BoardStack μ)) : Prop :=
  ∃ b, s = some b ∧ ∀ r ∈ underWay b.stack, r ∈ b.table

/-- The device whose handler goes on next. -/
def BoardStack.goesOn (b : BoardStack μ) : Option DeviceRecord :=
  b.stack.head?.bind Activation.record

/-- What a step other than a load does: handlers come to an end, or that of a
device in the table is called. -/
def Follows (b b' : BoardStack μ) : Prop :=
  underWay b'.stack = [] ∨
    b'.table = b.table ∧ ∀ r ∈ underWay b'.stack, r ∈ underWay b.stack ∨ r ∈ b.table

variable {fw : Firmware μ} {b b' : BoardStack μ}

@[simp] theorem underWay_handler (r : Option DeviceRecord) (h : Handler (Eeprom × μ))
    (stack : List (Activation μ)) :
    underWay (.handler r h :: stack) = r.toList ++ underWay stack := by
  cases r <;> rfl

@[simp] theorem underWay_frames (f : CanixFrame) (i : Nat) (stack : List (Activation μ)) :
    underWay (.frames f i :: stack) = underWay stack := rfl

@[simp] theorem underWay_idle (zs : List UInt8) (stack : List (Activation μ)) :
    underWay (.idle zs :: stack) = underWay stack := rfl

@[simp] theorem underWay_round (z : UInt8) (i : Nat) (zs : List UInt8)
    (stack : List (Activation μ)) : underWay (.round z i zs :: stack) = underWay stack := rfl

@[simp] theorem underWay_sleep (stack : List (Activation μ)) :
    underWay (.sleep :: stack) = underWay stack := rfl

/-- The handler that goes on is among those under way. -/
theorem Intact.goesOn {r : DeviceRecord} (h : Intact (some b)) (hr : b.goesOn = some r) :
    r ∈ b.table := by
  obtain ⟨b', heq, hall⟩ := h
  cases heq
  refine hall r ?_
  unfold BoardStack.goesOn at hr
  cases hstack : b.stack with
  | nil =>
      rw [hstack] at hr
      cases hr
  | cons a stack =>
      rw [hstack] at hr
      exact List.mem_filterMap.mpr ⟨a, List.mem_cons_self, hr⟩

theorem Follows.of_subset (htable : b'.table = b.table)
    (hsub : ∀ r ∈ underWay b'.stack, r ∈ underWay b.stack) : Follows b b' :=
  .inr ⟨htable, fun r hr => .inl (hsub r hr)⟩

theorem Follows.refl (b : BoardStack μ) : Follows b b := .of_subset rfl fun _ h => h

theorem deliver_table (f : CanixFrame) : (deliver fw f b).table = b.table := by
  unfold deliver
  split
  · split <;> rfl
  · split <;> rfl

theorem deliver_underWay (f : CanixFrame) :
    underWay (deliver fw f b).stack = underWay b.stack := by
  unfold deliver
  split
  · split <;> rfl
  · split <;> rfl

theorem proceed_follows {r : Option DeviceRecord} {stack : List (Activation μ)}
    {h : Handler (Eeprom × μ)} (hstack : b.stack = .handler r h :: stack) :
    Follows b (proceed fw r stack b h) := by
  have hold : underWay b.stack = r.toList ++ underWay stack := by rw [hstack, underWay_handler]
  cases h with
  | ret =>
      refine Follows.of_subset rfl fun r' hr' => ?_
      rw [hold]
      exact List.mem_append_right _ hr'
  | act next rest =>
      refine Follows.of_subset rfl fun r' hr' => ?_
      rw [hold, ← underWay_handler r (rest (next (b.eeprom, b.mem)))]
      exact hr'
  | send f rest =>
      refine Follows.of_subset (deliver_table f) fun r' hr' => ?_
      rw [proceed, deliver_underWay, underWay_handler] at hr'
      rw [hold]
      exact hr'
  | sleep rest =>
      rw [proceed]
      split
      · refine Follows.of_subset rfl fun r' hr' => ?_
        rw [hold, ← underWay_handler r (.act id rest)]
        exact hr'
      · refine Follows.of_subset rfl fun r' hr' => ?_
        rw [hold, ← underWay_handler r (.act id rest)]
        exact hr'

theorem callDevice_follows {h : DeviceRecord → Handler (Eeprom × μ)} {i : Nat}
    {stack : List (Activation μ)} (hsub : ∀ r ∈ underWay stack, r ∈ underWay b.stack) :
    Follows b (callDevice h i stack b) := by
  unfold callDevice
  cases hr : b.table[i]? with
  | none => exact .of_subset rfl hsub
  | some r =>
      refine .inr ⟨rfl, fun r' hr' => ?_⟩
      rcases List.mem_cons.mp hr' with rfl | hmem
      · exact .inr (List.mem_of_getElem? hr)
      · exact .inl (hsub r' hmem)

theorem not_loads_of_ne {e : Event μ} (h : e ≠ .go) : ¬ Loads fw b e :=
  fun ⟨_, _, _, hgo, _⟩ => h hgo

theorem not_loads_of_stack {e : Event μ}
    (h : ∀ f i stack, b.stack = .frames f i :: stack →
      maxPdeviceData fw.mcu ≤ i → f.byte 1 ≠ hcanHesConfigReload) : ¬ Loads fw b e :=
  fun ⟨f, i, stack, _, hstack, hi, hreload⟩ => h f i stack hstack hi hreload

/-- **What goes on** is a load, or follows the table. -/
theorem go_cases (fw : Firmware μ) (b : BoardStack μ) :
    (∃ stack, Loads fw b .go ∧ underWay b.stack = underWay stack ∧ go fw b = load fw stack b) ∨
      (¬ Loads fw b .go ∧ ∃ b', go fw b = some b' ∧ Follows b b') := by
  unfold go
  split
  · rename_i hstack
    exact .inr ⟨not_loads_of_stack (by simp [hstack]), b, rfl, .refl b⟩
  · rename_i stack hstack
    exact .inr ⟨not_loads_of_stack (by simp [hstack]), b, rfl, .refl b⟩
  · rename_i r h stack hstack
    exact .inr ⟨not_loads_of_stack (by simp [hstack]), _, rfl, proceed_follows hstack⟩
  · rename_i f i stack hstack
    have hold : underWay b.stack = underWay stack := by rw [hstack, underWay_frames]
    by_cases hi : i < maxPdeviceData fw.mcu
    · rw [if_pos hi]
      refine .inr ⟨not_loads_of_stack ?_, _, rfl, callDevice_follows fun r hr => hold ▸ hr⟩
      intro f' i' stack' hstack' hi'
      cases hstack.symm.trans hstack'
      exact absurd hi (Nat.not_lt.mpr hi')
    · by_cases hreload : f.byte 1 = hcanHesConfigReload
      · rw [if_neg hi, if_pos hreload]
        exact .inl ⟨stack, ⟨f, i, stack, rfl, hstack, Nat.not_lt.mp hi, hreload⟩, hold, rfl⟩
      · rw [if_neg hi, if_neg hreload]
        refine .inr ⟨not_loads_of_stack ?_, _, rfl, .of_subset rfl fun r hr => hold ▸ hr⟩
        intro f' i' stack' hstack' hi'
        cases hstack.symm.trans hstack'
        exact hreload
  · rename_i stack hstack
    have hold : underWay b.stack = underWay stack := by rw [hstack, underWay_idle]
    exact .inr ⟨not_loads_of_stack (by simp [hstack]), _, rfl,
      .of_subset rfl fun r hr => hold ▸ hr⟩
  · rename_i z zs stack hstack
    have hold : underWay b.stack = underWay stack := by rw [hstack, underWay_idle]
    exact .inr ⟨not_loads_of_stack (by simp [hstack]), _, rfl,
      .of_subset rfl fun r hr => hold ▸ hr⟩
  · rename_i z i zs stack hstack
    have hold : underWay b.stack = underWay stack := by rw [hstack, underWay_round]
    refine .inr ⟨not_loads_of_stack (by simp [hstack]), ?_⟩
    by_cases hi : i < maxPdeviceData fw.mcu
    · rw [if_pos hi]
      exact ⟨_, rfl, callDevice_follows fun r hr => hold ▸ hr⟩
    · rw [if_neg hi]
      exact ⟨_, rfl, .of_subset rfl fun r hr => hold ▸ hr⟩

/-- **A step is a load, or it leaves the table** to the handlers under way. -/
theorem boardStep_cases (fw : Firmware μ) (b : BoardStack μ) (e : Event μ) :
    (∃ stack, Loads fw b e ∧ underWay b.stack = underWay stack ∧
        boardStep fw b e = load fw stack b) ∨
      (¬ Loads fw b e ∧ ∃ b', boardStep fw b e = some b' ∧ Follows b b') := by
  cases e with
  | go => exact go_cases fw b
  | frame f =>
      refine .inr ⟨not_loads_of_ne nofun, _, rfl, ?_⟩
      split
      · exact .of_subset (deliver_table f) fun r hr => by rwa [deliver_underWay] at hr
      · exact .refl b
  | idle zyklen =>
      refine .inr ⟨not_loads_of_ne nofun, _, rfl, ?_⟩
      split
      · exact .of_subset rfl fun r hr => hr
      · exact .refl b
  | wake =>
      refine .inr ⟨not_loads_of_ne nofun, ?_⟩
      simp only [boardStep]
      split
      · rename_i stack hstack
        refine ⟨_, rfl, .of_subset rfl fun r hr => ?_⟩
        rw [hstack, underWay_sleep]
        exact hr
      · exact ⟨b, rfl, .refl b⟩
  | relaid eeprom mem table =>
      refine .inr ⟨not_loads_of_ne nofun, ?_⟩
      simp only [boardStep]
      split
      · exact ⟨_, rfl, .inl rfl⟩
      · exact ⟨b, rfl, .refl b⟩

/-- After a load the arrays hold the records of the table. -/
theorem load_holds (hkinds : KeepType fw.kinds) {stack : List (Activation μ)}
    (h : load fw stack b = some b') :
    ∃ d message, devicesLoadConfig fw.kinds fw.selfaddr b.eeprom (emptyDevices fw.mcu)
        = some (d, message) ∧ Holds d b'.table := by
  obtain ⟨⟨d, message⟩, hload, rfl⟩ := Option.map_eq_some_iff.mp h
  exact ⟨d, message, hload, devicesLoadConfig_holds hkinds hload⟩

/-- **Loading keeps the records** exactly if the configuration has room and builds
them again. -/
theorem load_intact_iff {stack : List (Activation μ)} (hold : underWay b.stack = underWay stack) :
    Intact (load fw stack b) ↔ KeepsRecords fw b := by
  have hsome : (devicesLoadConfig fw.kinds fw.selfaddr b.eeprom (emptyDevices fw.mcu)).isSome ↔
      FitsRam fw.mcu b.eeprom (loadable fw.kinds b.eeprom (configBlocks fw.mcu b.eeprom)) := by
    rw [devicesLoadConfig, loadLoop_isSome_iff _ _ _ (Nat.zero_le _), Nat.zero_add]
    exact ⟨fun h => ⟨h.1, h.2⟩, fun h => ⟨h.pointers, h.structs⟩⟩
  unfold load Intact
  cases hload : devicesLoadConfig fw.kinds fw.selfaddr b.eeprom (emptyDevices fw.mcu) with
  | none =>
      rw [hload] at hsome
      refine iff_of_false ?_ fun h => Bool.false_ne_true (hsome.mpr h.fits)
      rintro ⟨b', hb', -⟩
      cases hb'
  | some d =>
      rw [hload] at hsome
      constructor
      · rintro ⟨b', hb', hall⟩
        cases hb'
        refine ⟨hsome.mp rfl, fun r hr => ?_⟩
        exact (mem_loadRecords_iff _ r).mp (hall r (hold ▸ hr))
      · intro h
        refine ⟨_, rfl, fun r hr => ?_⟩
        exact (mem_loadRecords_iff _ r).mpr (h.reloads r (hold ▸ hr))

theorem tryStep_intact {s : Option (BoardStack μ)} {e : Event μ} (hs : Intact s) :
    Intact (tryStep fw s e) ↔ LoadKeeps fw s e := by
  obtain ⟨b, rfl, hb⟩ := hs
  show Intact (boardStep fw b e) ↔ _
  rcases boardStep_cases fw b e with ⟨stack, hloads, hold, hstep⟩ | ⟨hnot, b', hstep, hfollows⟩
  · rw [hstep, load_intact_iff hold]
    constructor
    · rintro h b' ⟨⟩ -
      exact h
    · intro h
      exact h b rfl hloads
  · rw [hstep]
    refine iff_of_true ⟨b', rfl, fun r hr => ?_⟩ ?_
    · rcases hfollows with hnil | ⟨htable, hsub⟩
      · rw [hnil] at hr
        exact absurd hr List.not_mem_nil
      · rw [htable]
        rcases hsub r hr with hmem | hmem
        · exact hb r hmem
        · exact hmem
    · rintro b'' ⟨⟩ hloads
      exact absurd hloads hnot

/-- **Handlers survive nested reloads exactly if** no load under them moves or drops
a record: in a run from the main loop all handlers under way have their records
in every state just if every load has room and builds those records again. -/
theorem handlers_survive_iff (fw : Firmware μ) (eeprom : Eeprom) (mem : μ)
    (table : List DeviceRecord) (es : List (Event μ)) :
    (∀ pre, pre <+: es → Intact (run (tryStep fw) (some (mainloop eeprom mem table)) pre)) ↔
      Guarded (tryStep fw) (LoadKeeps fw) (some (mainloop eeprom mem table)) es := by
  refine always_iff_guarded (fun _ h => h) (fun s e hs hg => ?_) (fun s e hs hp => ?_) es _ ?_
  · exact (tryStep_intact hs).mpr hg
  · exact (tryStep_intact hs).mp hp
  · exact ⟨_, rfl, fun r hr => absurd hr List.not_mem_nil⟩

end Step

/-! ## A board with powerports -/

/-- A function of a part of the state. -/
def Handler.ofResumption {σ τ : Type} (get : τ → σ) (put : τ → σ → τ) : Resumption σ → Handler τ
  | .done s => .act (fun t => put t s) fun _ => .ret
  | .sleep s rest =>
      .act (fun t => put t s) fun _ => .sleep fun t => ofResumption get put (rest (get t))

/-- The RAM of a board with powerports: their data by pointer, the outputs, and the
frames sent. No powerport handles a frame that a powerport sends. -/
structure PowerportRam where
  dev : Nat → DeviceDataPowerport
  outputs : Outputs
  sent : List CanixFrame

def powerportAt (p : Nat) (s : Eeprom × PowerportRam) : PowerportIO :=
  ⟨s.2.dev p, s.2.outputs, s.2.sent⟩

def putPowerport (p : Nat) (s : Eeprom × PowerportRam) (io : PowerportIO) :
    Eeprom × PowerportRam :=
  (s.1, ⟨fun q => if q = p then io.dev else s.2.dev q, io.outputs, io.sent⟩)

/-- A handler of the powerport at `p`. -/
def powerportHandler (type : UInt8) (p : Nat) (h : PowerportIO → Resumption PowerportIO) :
    Handler (Eeprom × PowerportRam) :=
  if type = edsPowerportBlockId then
    .act id fun s => .ofResumption (powerportAt p) (putPowerport p) (h (powerportAt p s))
  else .ret

/-- A firmware with powerports as its only devices. -/
def powerportFirmware (mcu : Mcu) (selfaddr : UInt16) : Firmware PowerportRam where
  mcu := mcu
  selfaddr := selfaddr
  kinds := [powerportKind]
  canCallback type p f := powerportHandler type p (powerportCanCallback selfaddr f)
  timerHandler type p zyklus :=
    powerportHandler type p fun s => powerportTimerHandler selfaddr s zyklus
  controllerboard _ := .ret
  other _ := .ret
  roundBegin _ := .ret
  idleEnd := .ret
  init m table ram :=
    { ram with
      dev := fun p =>
        match table.find? (fun r => r.p == p) with
        | none => ram.dev p
        | some r => powerportInit ⟨powerportConfig m r.block, false, 0, false⟩ }

/-- Two powerports with bistable relays, in the groups 5 and 6, and the rest of the
EEPROM free. -/
def relaisEeprom : Eeprom := fun q =>
  if q < 34 then 255
  else if q < 52 then
    [11, 7, 0, 1, 5, 255, 255, 0, 255, 11, 7, 1, 1, 6, 255, 255, 0, 255].getD (q - 34) 0
  else if q = 53 ∨ q = 310 ∨ q = 567 then 255
  else if q = 824 then 198
  else 0

/-- The RAM before the devices are loaded. -/
def relaisRam : PowerportRam where
  dev _ := ⟨powerportConfig relaisEeprom 34, false, 0, false⟩
  outputs _ := false
  sent := []

/-- A frame with the bytes `bytes`. -/
def frameOf (dst : UInt16) (bytes : List UInt8) : CanixFrame :=
  ⟨2, dst, hcanProtoSfp, UInt8.ofNat bytes.length, payload bytes⟩

/-- Group 5 is switched on. While the handler of its powerport sleeps the block
becomes one of no device, and the board reloads its configuration. -/
def reloadInSleep : List (Event PowerportRam) :=
  .frame (frameOf hcanMulticastControl [hcanSrvHes, hcanHesSchalterOn, 5]) :: .go :: .go :: .go ::
    .go :: .frame (frameOf 1 [hcanSrvEds, hcanEdsWriteToBlock, 0, 34, 0, 255]) :: .go :: .go ::
    .go :: .go :: .frame (frameOf 1 [hcanSrvHes, hcanHesConfigReload]) ::
    (List.replicate 71 .go ++ [.wake])

/-- **A handler goes on with another device's bytes**: the second powerport has
moved to the pointer of the first one. -/
theorem handler_goes_on_elsewhere :
    ¬ ∀ (fw : Firmware PowerportRam) (eeprom : Eeprom) (mem : PowerportRam)
      (es : List (Event PowerportRam)) (b : BoardStack PowerportRam) (r : DeviceRecord),
      run (tryStep fw) (load fw [] (mainloop eeprom mem [])) es = some b →
        b.goesOn = some r → r ∈ b.table := by
  intro hall
  -- the last step ends the sleep: the handler of the first powerport is on top again
  have hrun : (run (tryStep (powerportFirmware .atmega32 1))
      (load (powerportFirmware .atmega32 1) [] (mainloop relaisEeprom relaisRam []))
      reloadInSleep).map (fun b => (b.goesOn, b.table))
        = some (some ⟨0, edsPowerportBlockId, 34⟩, [⟨0, edsPowerportBlockId, 43⟩]) := by decide
  obtain ⟨b, hb, heq⟩ := Option.map_eq_some_iff.mp hrun
  have hgoes : b.goesOn = some ⟨0, edsPowerportBlockId, 34⟩ := congrArg Prod.fst heq
  have htable : b.table = [⟨0, edsPowerportBlockId, 43⟩] := congrArg Prod.snd heq
  have hmem := hall _ _ _ _ b _ hb hgoes
  rw [htable] at hmem
  exact absurd hmem (by decide)

end OpenHcan.NestedReload
