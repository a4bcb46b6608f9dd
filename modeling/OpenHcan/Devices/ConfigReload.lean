import OpenHcan.Devices.LoadConfig
import OpenHcan.Devices.Powerport
import OpenHcan.Devices.Rolladen

/-!
# ConfigReload — the actuators of a board when its configuration is reloaded

A controllerboard with its EEPROM, its devices and its outputs. `CONFIG_RELOAD`
builds the devices anew: their data starts from zeros, the outputs keep what
they had. Only the outputs of the expander boards are switched off, when the
configuration has a `ports` device.

A frame comes from the bus or from another device of the board. The frames that
a `rolladen` or a `powerport` sends come back to the board's own handlers as
well; none of the two handles such a frame. The other devices of a board are
seen as far as they switch outputs.

Left out: the RAM the devices need, the messages for the RAM usage and for the
1-wire bus, and `canix_syslog_P`. A sleeping handler that finds another device
in the place of its own does nothing more.
-/

namespace OpenHcan.Controllerboard

open Eds Lib Devices Rolladen Powerport

set_option maxRecDepth 100000

def hcanHesConfigReload : UInt8 := 100

def edsPowerportBlockId : UInt8 := 11
def edsRolladenBlockId : UInt8 := 12
def edsPortsBlockId : UInt8 := 50

inductive Device
  | rolladen (p : DeviceDataRolladen)
  | powerport (p : DeviceDataPowerport)
  | other (type : UInt8)
deriving DecidableEq, Repr

/-- The EEPROM, the devices in the order of `pdevice_data`, the outputs, and the
frames the board has sent. -/
structure Board where
  eeprom : Eeprom
  devices : List Device
  outputs : Outputs
  sent : List CanixFrame

/-! ## Loading -/

/-- Byte `i` of the configuration of the block at `it`. -/
def configByte (m : Eeprom) (it i : Nat) : UInt8 := eepromReadByte m (ptr (it + 2 + i))

def configWord (m : Eeprom) (it i : Nat) : UInt16 :=
  UInt16.ofNat (word (configByte m it (i + 1)) (configByte m it i))

/-- The configuration of a `rolladen`, as it is in the EEPROM. -/
def rolladenConfig (m : Eeprom) (it : Nat) : EdsRolladenBlock where
  portPower := configByte m it 0
  portDir := configByte m it 1
  taster := configByte m it 2
  feature := configByte m it 4
  laufzeit := configWord m it 5
  maxRekalib := configWord m it 7
  gruppe0 := configByte m it 9
  gruppe1 := configByte m it 10
  gruppe2 := configByte m it 11
  gruppe3 := configByte m it 12
  mute := configByte m it 13

/-- The configuration of a `powerport`, as it is in the EEPROM. -/
def powerportConfig (m : Eeprom) (it : Nat) : EdsPowerportBlock where
  port := configByte m it 0
  feature := configByte m it 1
  gruppe0 := configByte m it 2
  gruppe1 := configByte m it 3
  gruppe2 := configByte m it 4
  timer := configByte m it 5
  mute := configByte m it 6

/-- The struct of a `rolladen` in RAM that is all zeros, but for the
configuration. -/
def rolladenZero (config : EdsRolladenBlock) : DeviceDataRolladen where
  config := config
  mute := false
  kalibrieren := false
  summeLaufzeit := 0
  laufzeit := 0
  sollLaufzeit := 0
  stoppuhr := 0
  dir := .auf
  sollDir := .auf
  exeDir := false
  lastDir := .auf
  sollPower := false
  power := false
  exePower := false
  blockingTimer := 0
  changeDirCounter := 0
  longPressedCounter := 0

/-- The device of the block at `it`, with its `…_init` done. -/
def deviceOf (m : Eeprom) (it : Nat) : Device :=
  if edsBlockType m it = edsRolladenBlockId then
    .rolladen (rolladenInit (rolladenZero (rolladenConfig m it)))
  else if edsBlockType m it = edsPowerportBlockId then
    .powerport (powerportInit ⟨powerportConfig m it, false, 0, false⟩)
  else .other (edsBlockType m it)

/-- The number of outputs of the board itself. The outputs behind them are those
of the expander boards. -/
def ownOutputs : Mcu → Nat
  | .atmega32 | .atmega644p => 12
  | .atmega328p => 0

/-- `ports_init`: the outputs of the expander boards are off. -/
def portsInit (mcu : Mcu) (o : Outputs) : Outputs :=
  fun n => if ownOutputs mcu ≤ n.toNat then false else o n

/-- What `rolladen_init` sets, by place in the struct: four 32-bit numbers behind
the two flags, then the relays and the counters. -/
def rolladenInitWrites (m : Eeprom) (it : Nat) : List (Nat × UInt8) :=
  let rekalib := configWord m it 7 + 1
  let mitte := configWord m it 5 / 2
  [(15, 0), (16, 1), (17, rekalib.toUInt8), (18, (rekalib >>> 8).toUInt8), (19, 0), (20, 0),
    (21, mitte.toUInt8), (22, (mitte >>> 8).toUInt8), (23, 0), (24, 0), (25, 255), (26, 255),
    (27, 255), (28, 255), (29, 0), (30, 0), (31, 0), (32, 0), (34, 0), (36, 0), (33, 0), (37, 0),
    (38, 0), (41, 255), (42, 255)]

def rolladenKind : DeviceKind := ⟨edsRolladenBlockId, 14, 43, rolladenInitWrites⟩

/-- What `powerport_init` sets, by place in the struct. -/
def powerportKind : DeviceKind :=
  ⟨edsPowerportBlockId, 7, 12, fun _ _ => [(8, 0), (9, 0), (10, 0)]⟩

def portsKind : DeviceKind := ⟨edsPortsBlockId, 5, 8, fun _ _ => []⟩

/-- The devices of a firmware: the two actuators, `ports`, and `others`. -/
def boardKinds (others : List DeviceKind) : List DeviceKind :=
  rolladenKind :: powerportKind :: portsKind :: others

/-- A device is built from the block at `it`. -/
def Board.load (mcu : Mcu) (b : Board) (it : Nat) : Board :=
  { b with
    devices := b.devices ++ [deviceOf b.eeprom it]
    outputs := if edsBlockType b.eeprom it = edsPortsBlockId then portsInit mcu b.outputs
      else b.outputs }

/-- The loop of `devices_load_config` over the blocks. -/
def loadBlocks (mcu : Mcu) (kinds : List DeviceKind) (selfaddr : UInt16) :
    List Nat → Board → Board
  | [], b => b
  | it :: its, b =>
      match kinds.find? (fun k => k.type == edsBlockType b.eeprom it) with
      | none => loadBlocks mcu kinds selfaddr its b
      | some k =>
          if k.configSize.toNat ≠ edsBlockSize b.eeprom it then
            { b with
              devices := []
              sent := b.sent ++ [compatError selfaddr b.eeprom it k.configSize] }
          else loadBlocks mcu kinds selfaddr its (b.load mcu it)

/-- `devices_load_config` -/
def loadConfig (mcu : Mcu) (kinds : List DeviceKind) (selfaddr : UInt16) (b : Board) : Board :=
  loadBlocks mcu kinds selfaddr (edsForeachBlockBetween mcu b.eeprom 1 255) { b with devices := [] }

/-! ## Frames and ticks -/

def Board.rolladenAt (i : Nat) (b : Board) : Option (DeviceDataRolladen × List CanixFrame) :=
  match b.devices[i]? with
  | some (.rolladen p) => some (p, b.sent)
  | _ => none

def Board.putRolladen (i : Nat) (b : Board) (s : DeviceDataRolladen × List CanixFrame) : Board :=
  { b with devices := b.devices.set i (.rolladen s.1), sent := s.2 }

def Board.powerportAt (i : Nat) (b : Board) : Option PowerportIO :=
  match b.devices[i]? with
  | some (.powerport p) => some ⟨p, b.outputs, b.sent⟩
  | _ => none

def Board.putPowerport (i : Nat) (b : Board) (s : PowerportIO) : Board :=
  { b with devices := b.devices.set i (.powerport s.dev), outputs := s.outputs, sent := s.sent }

/-- `rolladen_can_callback` without its sleep. -/
def rolladenAwake (selfaddr : UInt16) (frame : CanixFrame)
    (s : DeviceDataRolladen × List CanixFrame) : DeviceDataRolladen × List CanixFrame :=
  let r := rolladenCanCallback selfaddr s.1 frame
  (r.1, s.2 ++ r.2)

/-- `rolladen_can_callback`, with its sleep in front of the answer to
`DEVICE_STATES_REQUEST`. The test for the button is made again behind it. -/
def rolladenCallback (selfaddr : UInt16) (frame : CanixFrame)
    (s : DeviceDataRolladen × List CanixFrame) :
    Resumption (DeviceDataRolladen × List CanixFrame) :=
  if frame.byte 1 = hcanHesDeviceStatesRequest ∧ s.1.config.taster ≠ 255 then
    .sleep s fun s => .done (rolladenAwake selfaddr frame s)
  else .done (rolladenAwake selfaddr frame s)

/-- The frame handler of the device with number `i`. -/
def canCallbackAt (selfaddr : UInt16) (frame : CanixFrame) (i : Nat) (b : Board) :
    Resumption Board :=
  match b.devices[i]? with
  | some (.rolladen p) =>
      (rolladenCallback selfaddr frame (p, b.sent)).focus (Board.rolladenAt i)
        (Board.putRolladen i) b
  | some (.powerport p) =>
      (powerportCanCallback selfaddr frame ⟨p, b.outputs, b.sent⟩).focus (Board.powerportAt i)
        (Board.putPowerport i) b
  | some (.other _) => .done b
  | none => .done b

/-- The timer handler of the device with number `i`. -/
def timerHandlerAt (selfaddr : UInt16) (zyklus : UInt8) (i : Nat) (b : Board) :
    Resumption Board :=
  match b.devices[i]? with
  | some (.rolladen p) =>
      let r := rolladenTimerHandler selfaddr p zyklus
      .done
        { b with
          devices := b.devices.set i (.rolladen r.dev)
          outputs := r.writes.foldl (fun o w => darlingtonoutputSetpin o w.port w.value) b.outputs
          sent := b.sent ++ r.frames }
  | some (.powerport p) =>
      (powerportTimerHandler selfaddr ⟨p, b.outputs, b.sent⟩ zyklus).focus (Board.powerportAt i)
        (Board.putPowerport i) b
  | some (.other _) => .done b
  | none => .done b

/-- A loop over `n` entries of `pdevice_data`, from entry `i` on. -/
def forDevices (h : Nat → Board → Resumption Board) : Nat → Nat → Board → Resumption Board
  | 0, _, b => .done b
  | n + 1, i, b => (h i b).bind (forDevices h n (i + 1))

/-- The frame is for this board ("was uns betrifft"). -/
def Betrifft (selfaddr : UInt16) (frame : CanixFrame) : Prop :=
  frame.byte 0 = hcanSrvHes ∧
    (frame.dst = selfaddr ∨ frame.dst = hcanMulticastControl ∨ frame.dst = hcanMulticastInfo)

instance (selfaddr : UInt16) (frame : CanixFrame) : Decidable (Betrifft selfaddr frame) :=
  inferInstanceAs (Decidable (_ ∧ _))

/-- `hauselektrik_callback` -/
def hauselektrikCallback (mcu : Mcu) (selfaddr : UInt16) (frame : CanixFrame) (b : Board) :
    Resumption Board :=
  if Betrifft selfaddr frame then
    forDevices (canCallbackAt selfaddr frame) (maxPdeviceData mcu) 0 b
  else .done b

/-- `controllerboard_callback` -/
def controllerboardCallback (mcu : Mcu) (others : List DeviceKind) (selfaddr : UInt16)
    (frame : CanixFrame) (b : Board) : Board :=
  if Betrifft selfaddr frame ∧ frame.byte 1 = hcanHesConfigReload then
    loadConfig mcu (boardKinds others) selfaddr b
  else b

/-- `canix_deliver_frame`: the two callbacks for the house electrics. -/
def canixDeliverFrame (mcu : Mcu) (others : List DeviceKind) (selfaddr : UInt16)
    (frame : CanixFrame) (b : Board) : Resumption Board :=
  if frame.proto = hcanProtoSfp ∧ frame.byte 0 = hcanSrvHes then
    (hauselektrikCallback mcu selfaddr frame b).map
      (controllerboardCallback mcu others selfaddr frame)
  else .done b

/-- A frame comes, a cycle of the timer is over, the sleep of a handler is over,
a byte of the EEPROM is written, or another device switches an output. -/
inductive Event
  | frame (f : CanixFrame)
  | timer (zyklus : UInt8)
  | wake
  | eeprom (q : Nat) (v : UInt8)
  | output (n : UInt8) (state : Bool)

def boardStep (mcu : Mcu) (others : List DeviceKind) (selfaddr : UInt16) (c : Sleeper Board) :
    Event → Sleeper Board
  | .frame f => c.handle (canixDeliverFrame mcu others selfaddr f)
  | .timer zyklus =>
      c.handle (forDevices (timerHandlerAt selfaddr zyklus) (maxPdeviceData mcu) 0)
  | .wake => c.wake
  | .eeprom q v => c.handle fun b => .done { b with eeprom := eepromWriteByte b.eeprom q v }
  | .output n state =>
      c.handle fun b => .done { b with outputs := darlingtonoutputSetpin b.outputs n state }

/-- The board after `main` has loaded its devices, all outputs off. -/
def boot (mcu : Mcu) (others : List DeviceKind) (selfaddr : UInt16) (m : Eeprom) :
    Sleeper Board where
  state := loadConfig mcu (boardKinds others) selfaddr ⟨m, [], fun _ => false, []⟩
  asleep := none

/-! ## What a reload leaves -/

/-- The software state of a device agrees with its outputs: a rolladen whose
power relay is on knows it, its direction is that of the relay, and the timer of
an output that switches itself off is running. -/
def Device.Agrees (o : Outputs) : Device → Prop
  | .rolladen p =>
      (darlingtonoutputGetpin o p.config.portPower = true → p.power = true) ∧
        darlingtonoutputGetpin o p.config.portDir = p.dir.pin
  | .powerport p =>
      p.config.has .autoAus → darlingtonoutputGetpin o p.config.port = true →
        0 < p.countDownTimer
  | .other _ => True

def Agree (b : Board) : Prop := ∀ d ∈ b.devices, d.Agrees b.outputs

/-- The blocks that a reload comes by. -/
def Board.blocks (mcu : Mcu) (b : Board) : List Nat :=
  edsForeachBlockBetween mcu b.eeprom 1 255

/-- Every block of a known type has the size the firmware expects. -/
def Compatible (kinds : List DeviceKind) (m : Eeprom) (its : List Nat) : Prop :=
  ∀ it ∈ its, ∀ k, kinds.find? (fun k => k.type == edsBlockType m it) = some k →
    k.configSize.toNat = edsBlockSize m it

/-- A `ports` device is among the blocks that are loaded. -/
def HasPorts (kinds : List DeviceKind) (m : Eeprom) (its : List Nat) : Prop :=
  ∃ d ∈ loadable kinds m its, edsBlockType m d.1 = edsPortsBlockId

/-- The output `n` is off, or belongs to an expander board and a `ports` device
is going to switch it off. -/
def PinOff (mcu : Mcu) (kinds : List DeviceKind) (b : Board) (n : UInt8) : Prop :=
  b.outputs n = false ∨
    (HasPorts kinds b.eeprom (b.blocks mcu) ∧ ownOutputs mcu ≤ n.toNat)

/-- The outputs of a device are off: both relays of a rolladen, the output of a
powerport that switches itself off. -/
def Device.Off (off : UInt8 → Prop) : Device → Prop
  | .rolladen p => off p.config.portPower ∧ off p.config.portDir
  | .powerport p => p.config.has .autoAus → off p.config.port
  | .other _ => True

/-- The outputs of all devices in the EEPROM are off, unless its configuration is
not one for this firmware. -/
def Quiet (mcu : Mcu) (kinds : List DeviceKind) (b : Board) : Prop :=
  Compatible kinds b.eeprom (b.blocks mcu) →
    ∀ d ∈ loadable kinds b.eeprom (b.blocks mcu), (deviceOf b.eeprom d.1).Off (PinOff mcu kinds b)

/-- `CONFIG_RELOAD` for this board. -/
def IsReload (selfaddr : UInt16) (frame : CanixFrame) : Prop :=
  frame.proto = hcanProtoSfp ∧ Betrifft selfaddr frame ∧ frame.byte 1 = hcanHesConfigReload

variable {mcu : Mcu} {kinds others : List DeviceKind} {selfaddr : UInt16} {frame : CanixFrame}

theorem deviceOf_agrees_iff (o : Outputs) (m : Eeprom) (it : Nat) :
    (deviceOf m it).Agrees o ↔ (deviceOf m it).Off fun n => o n = false := by
  unfold deviceOf
  split
  · show (o _ = true → false = true) ∧ o _ = Dir.auf.pin ↔ o _ = false ∧ o _ = false
    simp [Dir.pin, rolladenInit, rolladenZero]
  · split
    · show (_ → o _ = true → (0 : UInt16) < 0) ↔ (_ → o _ = false)
      simp [powerportInit]
    · exact Iff.rfl

theorem Device.off_congr {off off' : UInt8 → Prop} (h : ∀ n, off n ↔ off' n) (d : Device) :
    d.Off off ↔ d.Off off' := by
  cases d with
  | rolladen p => exact and_congr (h _) (h _)
  | powerport p => exact imp_congr Iff.rfl (h _)
  | other type => exact Iff.rfl

/-! ## The loop over the blocks -/

/-- The outputs after the `ports` devices among the blocks `its` are loaded. -/
def portsOutputs (mcu : Mcu) (m : Eeprom) (its : List Nat) (o : Outputs) : Outputs :=
  its.foldl (fun o it => if edsBlockType m it = edsPortsBlockId then portsInit mcu o else o) o

theorem portsOutputs_eq_false_iff (m : Eeprom) (n : UInt8) (its : List Nat) :
    ∀ o : Outputs, portsOutputs mcu m its o n = false ↔
      o n = false ∨
        ((∃ it ∈ its, edsBlockType m it = edsPortsBlockId) ∧ ownOutputs mcu ≤ n.toNat) := by
  induction its with
  | nil => intro o; simp [portsOutputs]
  | cons it its ih =>
      intro o
      show portsOutputs mcu m its _ n = false ↔ _
      rw [ih, List.exists_mem_cons_iff]
      by_cases hports : edsBlockType m it = edsPortsBlockId
      · by_cases hn : ownOutputs mcu ≤ n.toNat
        · simp [hports, hn, portsInit]
        · simp [hports, hn, portsInit]
      · simp [hports]

/-- A block of no device does not matter. -/
theorem compatible_cons_of_none {m : Eeprom} {it : Nat} {its : List Nat}
    (hk : kinds.find? (fun k => k.type == edsBlockType m it) = none) :
    Compatible kinds m (it :: its) ↔ Compatible kinds m its := by
  unfold Compatible
  rw [List.forall_mem_cons]
  simp [hk]

/-- A block of a device has to have the size of its configuration. -/
theorem compatible_cons_of_some {m : Eeprom} {it : Nat} {its : List Nat} {k : DeviceKind}
    (hk : kinds.find? (fun k => k.type == edsBlockType m it) = some k) :
    Compatible kinds m (it :: its) ↔
      k.configSize.toNat = edsBlockSize m it ∧ Compatible kinds m its := by
  unfold Compatible
  rw [List.forall_mem_cons]
  simp [hk]

/-- **The loop** builds the devices of the blocks that are loadable, or none if
there is a block that does not fit the firmware. -/
theorem loadBlocks_spec (its : List Nat) :
    ∀ b : Board,
      (loadBlocks mcu kinds selfaddr its b).outputs
          = portsOutputs mcu b.eeprom ((loadable kinds b.eeprom its).map Prod.fst) b.outputs ∧
        (Compatible kinds b.eeprom its →
          (loadBlocks mcu kinds selfaddr its b).devices
            = b.devices ++ (loadable kinds b.eeprom its).map fun d => deviceOf b.eeprom d.1) ∧
        (¬ Compatible kinds b.eeprom its →
          (loadBlocks mcu kinds selfaddr its b).devices = []) := by
  induction its with
  | nil =>
      intro b
      refine ⟨rfl, fun _ => (List.append_nil _).symm, fun h => absurd ?_ h⟩
      intro it hit
      cases hit
  | cons it its ih =>
      intro b
      rw [loadBlocks, loadable]
      cases hk : kinds.find? (fun k => k.type == edsBlockType b.eeprom it) with
      | none =>
          simp only [compatible_cons_of_none hk]
          exact ih b
      | some k =>
          simp only [compatible_cons_of_some hk]
          by_cases hsize : k.configSize.toNat = edsBlockSize b.eeprom it
          · simp only [hsize, ne_eq, not_true_eq_false, if_false, true_and]
            obtain ⟨houtputs, hdevices, hnone⟩ := ih (b.load mcu it)
            refine ⟨houtputs, fun h => ?_, hnone⟩
            rw [hdevices h, List.map_cons]
            exact (List.append_assoc _ _ _)
          · simp only [ne_eq, hsize, not_false_eq_true, if_true, false_and]
            exact ⟨rfl, False.elim, fun _ => trivial⟩

/-- **After a reload the software agrees with the outputs exactly if the outputs
were off.** -/
theorem agree_loadConfig_iff (b : Board) :
    Agree (loadConfig mcu kinds selfaddr b) ↔ Quiet mcu kinds b := by
  obtain ⟨houtputs, hdevices, hnone⟩ :=
    @loadBlocks_spec mcu kinds selfaddr (b.blocks mcu) { b with devices := [] }
  unfold Agree Quiet
  by_cases hc : Compatible kinds b.eeprom (b.blocks mcu)
  · have hoff : ∀ n, (loadConfig mcu kinds selfaddr b).outputs n = false ↔
        PinOff mcu kinds b n := by
      intro n
      show (loadBlocks mcu kinds selfaddr (b.blocks mcu) { b with devices := [] }).outputs n
        = false ↔ _
      rw [houtputs, portsOutputs_eq_false_iff]
      unfold PinOff HasPorts
      simp only [List.mem_map, exists_exists_and_eq_and]
    show (∀ d ∈ (loadBlocks mcu kinds selfaddr (b.blocks mcu) { b with devices := [] }).devices,
      d.Agrees _) ↔ _
    rw [hdevices hc, List.nil_append, List.forall_mem_map, imp_iff_right hc]
    refine forall₂_congr fun d _ => ?_
    rw [deviceOf_agrees_iff]
    exact Device.off_congr hoff _
  · show (∀ d ∈ (loadBlocks mcu kinds selfaddr (b.blocks mcu) { b with devices := [] }).devices,
      d.Agrees _) ↔ _
    rw [hnone hc]
    exact iff_of_true (List.forall_mem_nil _) fun h => absurd h hc

/-! ## Runs -/

theorem rolladenCanCallback_reload (p : DeviceDataRolladen)
    (h : frame.byte 1 = hcanHesConfigReload) : rolladenCanCallback selfaddr p frame = (p, []) := by
  unfold rolladenCanCallback rolladenSwitch
  rw [h]
  simp only [show hcanHesConfigReload ≠ hcanHesRolladenPositionSet by decide,
    show hcanHesConfigReload ≠ hcanHesTasterDown by decide,
    show hcanHesConfigReload ≠ hcanHesTasterUp by decide,
    show hcanHesConfigReload ≠ hcanHesRolladenDefinePosition by decide,
    show hcanHesConfigReload ≠ hcanHesDeviceStatesRequest by decide,
    show hcanHesConfigReload ≠ hcanHesRolladenPositionRequest by decide,
    show hcanHesConfigReload ≠ hcanHesDevicesConfigsRequest by decide,
    show hcanHesConfigReload ≠ hcanHesRolladenConfigRq by decide,
    show hcanHesConfigReload ≠ hcanHesMuteOff by decide,
    show hcanHesConfigReload ≠ hcanHesMuteOn by decide, or_self, if_false, ite_self]

theorem powerportCanCallback_reload (s : PowerportIO) (h : frame.byte 1 = hcanHesConfigReload) :
    powerportCanCallback selfaddr frame s = .done s := by
  have hswitch : powerportSwitch selfaddr frame s = .done s := by
    unfold powerportSwitch
    rw [h]
    rfl
  have hmute : s.update (muteGruppe frame) = s := by
    unfold PowerportIO.update muteGruppe
    rw [h]
    simp only [show hcanHesConfigReload ≠ hcanHesMuteOff by decide,
      show hcanHesConfigReload ≠ hcanHesMuteOn by decide, if_false, ite_self]
  unfold powerportCanCallback
  rw [hswitch, h, if_neg (show hcanHesConfigReload ≠ hcanHesDeviceStatesRequest by decide),
    if_neg (show hcanHesConfigReload ≠ hcanHesDevicesConfigsRequest by decide), ite_self,
    Resumption.map_done, hmute]

/-- No device handles `CONFIG_RELOAD`. -/
theorem canCallbackAt_reload (i : Nat) (b : Board) (h : frame.byte 1 = hcanHesConfigReload) :
    canCallbackAt selfaddr frame i b = .done b := by
  unfold canCallbackAt
  cases hd : b.devices[i]? with
  | none => rfl
  | some d =>
      have hset : b.devices.set i d = b.devices := by
        obtain ⟨hi, rfl⟩ := List.getElem?_eq_some_iff.mp hd
        exact List.set_getElem_self hi
      cases d with
      | rolladen p =>
          dsimp only
          unfold rolladenCallback rolladenAwake
          rw [rolladenCanCallback_reload p h, h,
            if_neg fun h => absurd h.1 (by decide), Resumption.focus_done]
          unfold Board.putRolladen
          dsimp only
          rw [List.append_nil]
          rw [hset]
      | powerport p =>
          dsimp only
          rw [powerportCanCallback_reload _ h, Resumption.focus_done]
          unfold Board.putPowerport
          rw [hset]
      | other type => rfl

theorem forDevices_done {h : Nat → Board → Resumption Board} {b : Board}
    (hdone : ∀ i, h i b = .done b) (n : Nat) : ∀ i, forDevices h n i b = .done b := by
  induction n with
  | zero => intro i; rfl
  | succ n ih =>
      intro i
      rw [forDevices, hdone, Resumption.done_bind, ih]

/-- **A reload is one step**: the devices do not see the frame, and nothing
sleeps. -/
theorem boardStep_reload (c : Sleeper Board) (h : IsReload selfaddr frame) :
    boardStep mcu others selfaddr c (.frame frame)
      = ⟨loadConfig mcu (boardKinds others) selfaddr c.state, c.asleep⟩ := by
  apply Sleeper.handle_of_done
  obtain ⟨hproto, hbetrifft, hcmd⟩ := h
  unfold canixDeliverFrame
  rw [if_pos ⟨hproto, hbetrifft.1⟩]
  unfold hauselektrikCallback
  rw [if_pos hbetrifft, forDevices_done fun i => canCallbackAt_reload i _ hcmd,
    Resumption.map_done]
  unfold controllerboardCallback
  rw [if_pos ⟨hbetrifft, hcmd⟩]

/-- **The actuators survive the reloads of a run exactly if all outputs are off
whenever one comes.** -/
theorem agree_after_reload_iff (mcu : Mcu) (others : List DeviceKind) (selfaddr : UInt16)
    (c : Sleeper Board) (es : List Event) :
    (∀ pre f post, es = pre ++ .frame f :: post → IsReload selfaddr f →
        Agree (run (boardStep mcu others selfaddr) c (pre ++ [.frame f])).state) ↔
      Guarded (boardStep mcu others selfaddr)
        (fun c e => ∀ f, e = .frame f → IsReload selfaddr f →
          Quiet mcu (boardKinds others) c.state) c es := by
  rw [guarded_iff_split]
  constructor
  · rintro h pre e post hes f rfl hf
    have hagree := h pre f post hes hf
    rw [run_append, run_cons, run_nil, boardStep_reload _ hf] at hagree
    exact (agree_loadConfig_iff _).mp hagree
  · intro h pre f post hes hf
    rw [run_append, run_cons, run_nil, boardStep_reload _ hf]
    exact (agree_loadConfig_iff _).mpr (h pre _ post hes f rfl hf)

/-- The devices `main` loads agree with the outputs it has switched off. -/
theorem agree_boot (mcu : Mcu) (others : List DeviceKind) (selfaddr : UInt16) (m : Eeprom) :
    Agree (boot mcu others selfaddr m).state := by
  refine (agree_loadConfig_iff _).mpr fun _ d _ => ?_
  have hoff : ∀ n, PinOff mcu (boardKinds others) ⟨m, [], fun _ => false, []⟩ n := fun n => .inl rfl
  cases deviceOf m d.1 with
  | rolladen p => exact ⟨hoff _, hoff _⟩
  | powerport p => exact fun _ => hoff _
  | other type => trivial

/-- One rolladen: the power relay at output 0, the direction relay at output 1,
ten seconds from end to end. The rest of the EEPROM is free. -/
def rolladenEeprom : Eeprom := fun q =>
  if q < 34 then 255
  else if q < 50 then [12, 14, 0, 1, 7, 0, 0, 100, 0, 50, 0, 255, 255, 255, 255, 255].getD (q - 34) 0
  else if q = 51 then 255
  else if q = 308 then 255
  else if q = 565 then 255
  else if q = 822 then 201
  else 0

/-- `TASTER_DOWN` for the group 7. -/
def tasterFrame : CanixFrame :=
  ⟨5, hcanMulticastControl, hcanProtoSfp, 3, payload [hcanSrvHes, hcanHesTasterDown, 7]⟩

def reloadFrame : CanixFrame :=
  ⟨5, hcanMulticastControl, hcanProtoSfp, 2, payload [hcanSrvHes, hcanHesConfigReload]⟩

/-- **A rolladen that drives does not survive a reload**: its power relay stays
on, and it does not know. -/
theorem agree_after_reload_driving :
    ¬ ∀ (mcu : Mcu) (others : List DeviceKind) (selfaddr : UInt16) (m : Eeprom)
      (pre : List Event) (f : CanixFrame), IsReload selfaddr f →
        Agree (run (boardStep mcu others selfaddr) (boot mcu others selfaddr m)
          (pre ++ [.frame f])).state := by
  intro hall
  have hagree := hall .atmega32 [] 1 rolladenEeprom [.frame tasterFrame, .timer 10] reloadFrame
    ⟨by decide, by decide, by decide⟩
  have hdevice : (run (boardStep .atmega32 [] 1) (boot .atmega32 [] 1 rolladenEeprom)
      [.frame tasterFrame, .timer 10, .frame reloadFrame]).state.devices[0]?
        = some (deviceOf rolladenEeprom 34) := by decide
  have hoff := (deviceOf_agrees_iff _ _ _).mp (hagree _ (List.mem_of_getElem? hdevice))
  have hpower : (run (boardStep .atmega32 [] 1) (boot .atmega32 [] 1 rolladenEeprom)
      [.frame tasterFrame, .timer 10, .frame reloadFrame]).state.outputs 0 = true := by decide
  exact Bool.false_ne_true (hoff.1.symm.trans hpower)

end OpenHcan.Controllerboard
