import Mathlib.Logic.Function.Basic
import OpenHcan.Canix.Frame
import OpenHcan.Lib.Machine

/-!
# Timeservice — who sends the time

The time services of an installation. Each counts the seconds since it has
received a time frame of a lower level than its own; when it has waited for
its takeover time it sends the time itself, once in every interval.

Services are devices of boards. A board that sends a frame delivers it to its
own devices at once and puts it into the receive queues of all other boards,
which take it out in the order it came. The loop of a board looks at its queue
first: the second of its devices runs only in a pass that finds no frame.
Frames of the same kind may also come from elsewhere.

Left out: the clock, which only fills the frames, and the reload of the
configuration.
-/

namespace OpenHcan.Timeservice

open Lib

set_option maxRecDepth 100000
set_option linter.unusedSectionVars false

def hcanSrvRts : UInt8 := 6
def hcanRtsTimeInfo : UInt8 := 1
def hcanRtsDateInfo : UInt8 := 2

/-- `eds_timeservice_block_t` -/
structure Config where
  level : UInt8
  takeoverTime : UInt8
  interval : UInt8
deriving DecidableEq, Repr

/-- `device_data_timeservice` -/
structure DeviceData where
  config : Config
  lastTimeFrameReceived : UInt8
  lastTimeFrameSent : UInt8
deriving DecidableEq, Repr

/-- `canix_rtc_clock`, as far as the frames carry it. -/
structure RtcClock where
  dayOfWeek : UInt8
  hour : UInt8
  minute : UInt8
  second : UInt8
  dayOfMonth : UInt8
  monthOfYear : UInt8
  year : UInt8
deriving DecidableEq, Repr

/-- The time frame of the board `self`. -/
def timeInfo (self : UInt16) (level : UInt8) (clock : RtcClock) : CanixFrame where
  src := self
  dst := hcanMulticastInfo
  proto := hcanProtoSfp
  size := 7
  data := payload [hcanSrvRts, hcanRtsTimeInfo, level, clock.dayOfWeek, clock.hour,
    clock.minute, clock.second]

/-- The date frame that follows it. -/
def dateInfo (self : UInt16) (level : UInt8) (clock : RtcClock) : CanixFrame where
  src := self
  dst := hcanMulticastInfo
  proto := hcanProtoSfp
  size := 6
  data := payload [hcanSrvRts, hcanRtsDateInfo, level, clock.dayOfMonth, clock.monthOfYear,
    clock.year]

/-- The counter of the seconds without a better time frame stays at 255. -/
def countReceived (p : DeviceData) : UInt8 :=
  if p.lastTimeFrameReceived < 255 then p.lastTimeFrameReceived + 1 else p.lastTimeFrameReceived

/-- `timeservice_timer_handler` in the cycle of one second: the device afterwards
and the frames it sends. -/
def timeserviceTimerHandler (self : UInt16) (clock : RtcClock) (p : DeviceData) :
    DeviceData × List CanixFrame :=
  let p := { p with lastTimeFrameReceived := countReceived p }
  if p.lastTimeFrameReceived ≥ p.config.takeoverTime then
    if p.lastTimeFrameSent = p.config.interval then
      ({ p with lastTimeFrameSent := 0 },
        [timeInfo self p.config.level clock, dateInfo self p.config.level clock])
    else ({ p with lastTimeFrameSent := p.lastTimeFrameSent + 1 }, [])
  else (p, [])

/-- `timeservice_can_callback`, for one device. -/
def timeserviceCanCallback (f : CanixFrame) (p : DeviceData) : DeviceData :=
  if f.byte 1 = hcanRtsTimeInfo then
    if f.byte 2 < p.config.level then { p with lastTimeFrameReceived := 0 } else p
  else p

/-- `canix_deliver_frame`, as far as it reaches the callback of the time services. -/
def canixDeliverFrame (f : CanixFrame) (p : DeviceData) : DeviceData :=
  if f.dst = hcanMulticastInfo ∧ f.proto = hcanProtoSfp ∧ f.byte 0 = hcanSrvRts then
    timeserviceCanCallback f p
  else p

/-- A time frame of a lower level than `level`. -/
structure Better (level : UInt8) (f : CanixFrame) : Prop where
  dst : f.dst = hcanMulticastInfo
  proto : f.proto = hcanProtoSfp
  srv : f.byte 0 = hcanSrvRts
  msg : f.byte 1 = hcanRtsTimeInfo
  level : f.byte 2 < level

/-! ## The boards on their bus -/

/-- Which devices a board has, in the order of its `pdevice_data`. -/
structure Layout (β ι : Type) where
  board : ι → β
  devices : β → List ι
  mem_devices : ∀ i b, i ∈ devices b ↔ board i = b
  nodup : ∀ b, (devices b).Nodup

/-- The devices, the receive queues of the boards, how many seconds each device
has had, and what was sent by whom, oldest first. -/
structure Bus (β ι : Type) where
  device : ι → DeviceData
  queue : β → List CanixFrame
  ticks : ι → Nat
  sent : List (ι × CanixFrame)

/-- A pass of the loop of a board, with the clock when its second has come, or a
frame from elsewhere. -/
inductive Event (β : Type) where
  | pass (b : β) (second : Option RtcClock)
  | foreign (f : CanixFrame)

variable {β ι : Type} [DecidableEq β] [DecidableEq ι]

/-- `canix_frame_send`: the frame goes to the other boards and is delivered here. -/
def send (lo : Layout β ι) (i : ι) (s : Bus β ι) (f : CanixFrame) : Bus β ι where
  device j := if lo.board j = lo.board i then canixDeliverFrame f (s.device j) else s.device j
  queue b := if b = lo.board i then s.queue b else s.queue b ++ [f]
  ticks := s.ticks
  sent := s.sent ++ [(i, f)]

/-- The second of one device; `self` are the addresses of the boards. -/
def second (lo : Layout β ι) (self : β → UInt16) (clock : RtcClock) (s : Bus β ι) (i : ι) :
    Bus β ι :=
  let (p, frames) := timeserviceTimerHandler (self (lo.board i)) clock (s.device i)
  frames.foldl (send lo i)
    { s with
      device := Function.update s.device i p
      ticks := Function.update s.ticks i (s.ticks i + 1) }

/-- The part of `idle_handler` that runs once a second. -/
def idleHandler (lo : Layout β ι) (self : β → UInt16) (clock : RtcClock) (s : Bus β ι) (b : β) :
    Bus β ι :=
  (lo.devices b).foldl (second lo self clock) s

/-- The board delivers the oldest frame of its queue to its devices. -/
def receive (lo : Layout β ι) (s : Bus β ι) (b : β) (f : CanixFrame) (rest : List CanixFrame) :
    Bus β ι :=
  { s with
    device := fun j => if lo.board j = b then canixDeliverFrame f (s.device j) else s.device j
    queue := Function.update s.queue b rest }

/-- The bus after an event. A pass is the one of `canix_process_messages`. -/
def busStep (lo : Layout β ι) (self : β → UInt16) (s : Bus β ι) : Event β → Bus β ι
  | .pass b clock =>
      match s.queue b, clock with
      | f :: rest, _ => receive lo s b f rest
      | [], some clock => idleHandler lo self clock s b
      | [], none => s
  | .foreign f => { s with queue := fun b => s.queue b ++ [f] }

/-- The seconds have the same rate: nobody has one more often than once more
than the others. -/
def SameRate (lo : Layout β ι) (s : Bus β ι) (e : Event β) : Prop :=
  ∀ b clock, e = .pass b (some clock) → s.queue b = [] →
    ∀ i j, lo.board i = b → s.ticks i ≤ s.ticks j

/-- The board of the service `master` does not take a frame of a lower level
out of its queue. -/
def Unbeaten (lo : Layout β ι) (master : ι) (s : Bus β ι) (e : Event β) : Prop :=
  ∀ clock f, e = .pass (lo.board master) clock → (s.queue (lo.board master)).head? = some f →
    ¬ Better (s.device master).config.level f

/-- Nothing has been sent, and the services have their configurations and about
the same number of seconds behind them. -/
structure Start (config : ι → Config) (s : Bus β ι) : Prop where
  config : ∀ i, (s.device i).config = config i
  ticks : ∀ i j, s.ticks i ≤ s.ticks j + 1
  sent : s.sent = []

/-- The service has sent. -/
def Bus.HasSent (s : Bus β ι) (i : ι) : Prop := ∃ f, (i, f) ∈ s.sent

/-! ## One device -/

theorem countReceived_le (p : DeviceData) :
    (countReceived p).toNat ≤ p.lastTimeFrameReceived.toNat + 1 := by
  unfold countReceived
  split
  · rw [UInt8.toNat_add]
    exact Nat.mod_le _ _
  · omega

theorem le_countReceived (p : DeviceData) :
    p.lastTimeFrameReceived.toNat ≤ (countReceived p).toNat := by
  unfold countReceived
  split
  · next h =>
      have hlt : p.lastTimeFrameReceived.toNat < 255 := UInt8.lt_iff_toNat_lt.mp h
      rw [UInt8.toNat_add]
      show _ ≤ (p.lastTimeFrameReceived.toNat + 1) % 256
      omega
  · exact Nat.le_refl _

/-- What a second does: a service that waits counts, a master counts the
interval or sends. -/
theorem timerHandler_cases (self : UInt16) (clock : RtcClock) (p : DeviceData) :
    let q := { p with lastTimeFrameReceived := countReceived p }
    (countReceived p < p.config.takeoverTime ∧
        timeserviceTimerHandler self clock p = (q, [])) ∨
      (p.config.takeoverTime ≤ countReceived p ∧ p.lastTimeFrameSent ≠ p.config.interval ∧
        timeserviceTimerHandler self clock p
          = ({ q with lastTimeFrameSent := p.lastTimeFrameSent + 1 }, [])) ∨
      (p.config.takeoverTime ≤ countReceived p ∧ p.lastTimeFrameSent = p.config.interval ∧
        timeserviceTimerHandler self clock p
          = ({ q with lastTimeFrameSent := 0 },
            [timeInfo self p.config.level clock, dateInfo self p.config.level clock])) := by
  unfold timeserviceTimerHandler
  by_cases htake : p.config.takeoverTime ≤ countReceived p
  · right
    by_cases hsent : p.lastTimeFrameSent = p.config.interval
    · exact Or.inr ⟨htake, hsent, by simp only [ge_iff_le, if_pos htake, if_pos hsent]⟩
    · exact Or.inl ⟨htake, hsent, by simp only [ge_iff_le, if_pos htake, if_neg hsent]⟩
  · exact Or.inl ⟨UInt8.not_le.mp htake, by simp only [ge_iff_le, if_neg htake]⟩

/-- A second keeps the configuration. -/
theorem timerHandler_config (self : UInt16) (clock : RtcClock) (p : DeviceData) :
    (timeserviceTimerHandler self clock p).1.config = p.config := by
  rcases timerHandler_cases self clock p with ⟨_, h⟩ | ⟨_, _, h⟩ | ⟨_, _, h⟩ <;> rw [h]

theorem deliver_better {f : CanixFrame} {p : DeviceData} (h : Better p.config.level f) :
    canixDeliverFrame f p = { p with lastTimeFrameReceived := 0 } := by
  unfold canixDeliverFrame timeserviceCanCallback
  rw [if_pos ⟨h.dst, h.proto, h.srv⟩, if_pos h.msg, if_pos h.level]

theorem deliver_other {f : CanixFrame} {p : DeviceData} (h : ¬ Better p.config.level f) :
    canixDeliverFrame f p = p := by
  unfold canixDeliverFrame timeserviceCanCallback
  split
  · next hreg =>
      split
      · next hmsg => exact if_neg fun hlevel => h ⟨hreg.1, hreg.2.1, hreg.2.2, hmsg, hlevel⟩
      · rfl
  · rfl

/-- A frame keeps the configuration. -/
theorem deliver_config (f : CanixFrame) (p : DeviceData) :
    (canixDeliverFrame f p).config = p.config := by
  by_cases h : Better p.config.level f
  · rw [deliver_better h]
  · rw [deliver_other h]

/-- The time frame of a service is better for the services of a higher level. -/
theorem better_timeInfo (self : UInt16) (clock : RtcClock) {level level' : UInt8} :
    Better level' (timeInfo self level clock) ↔ level < level' := by
  have hbyte : ∀ i, i < 8 → (timeInfo self level clock).byte i
      = [hcanSrvRts, hcanRtsTimeInfo, level, clock.dayOfWeek, clock.hour, clock.minute,
        clock.second].getD i 0 :=
    fun i hi => byte_payload self hcanMulticastInfo hcanProtoSfp 7 _ hi
  constructor
  · intro h
    rw [← show (timeInfo self level clock).byte 2 = level from hbyte 2 (by omega)]
    exact h.level
  · intro h
    exact ⟨rfl, rfl, hbyte 0 (by omega), hbyte 1 (by omega),
      (show (timeInfo self level clock).byte 2 = level from hbyte 2 (by omega)) ▸ h⟩

theorem not_better_dateInfo (self : UInt16) (clock : RtcClock) (level level' : UInt8) :
    ¬ Better level' (dateInfo self level clock) := by
  intro h
  have hbyte : (dateInfo self level clock).byte 1 = hcanRtsDateInfo :=
    byte_payload self hcanMulticastInfo hcanProtoSfp 6 _ (i := 1) (by omega)
  exact absurd (hbyte.symm.trans h.msg) (by decide)

/-! ## The master and the others -/

section Master

variable (lo : Layout β ι) (self : β → UInt16) (config : ι → Config) (master : ι)

/-- How a service stands that is not the master: a time frame of the master
waits for its board, or it has counted no more seconds than it has had since
the master sent last, which the master has counted as well. -/
def Follows (s : Bus β ι) (i : ι) : Prop :=
  (∃ f ∈ s.queue (lo.board i), Better (config i).level f) ∨
    (s.device i).lastTimeFrameReceived.toNat + s.ticks master
      ≤ s.ticks i + (s.device master).lastTimeFrameSent.toNat + 1

/-- What holds once the master has sent. -/
structure Rules (s : Bus β ι) : Prop where
  received : (config master).takeoverTime ≤ (s.device master).lastTimeFrameReceived
  interval : (s.device master).lastTimeFrameSent.toNat ≤ (config master).interval.toNat
  follows : ∀ i, i ≠ master → Follows lo config master s i

/-- What holds in every run: the configuration stays, the seconds keep their
rate, the master rules from its first frame on, and nobody sends after it. -/
structure BusInv (s : Bus β ι) : Prop where
  configs : ∀ i, (s.device i).config = config i
  rate : ∀ i j, s.ticks i ≤ s.ticks j + 1
  rules : s.HasSent master → Rules lo config master s
  sole : s.sent.Pairwise fun x y => x.1 = master → y.1 = master

variable {lo config master} {s : Bus β ι}

theorem follows_of_reset {i : ι} (hrate : s.ticks master ≤ s.ticks i + 1)
    (hzero : (s.device i).lastTimeFrameReceived = 0) : Follows lo config master s i := by
  right
  rw [hzero]
  show 0 + s.ticks master ≤ _
  omega

/-- What a frame does to a device that is not the master and takes it. -/
theorem deliver_received_le (f : CanixFrame) (p : DeviceData) :
    (canixDeliverFrame f p).lastTimeFrameReceived.toNat ≤ p.lastTimeFrameReceived.toNat := by
  by_cases h : Better p.config.level f
  · rw [deliver_better h]
    exact Nat.zero_le _
  · exact Nat.le_of_eq (by rw [deliver_other h])

/-! ### A frame of the master -/

/-- The master does not take its own frames for better ones. -/
theorem send_device_master {f : CanixFrame} (hf : ¬ Better (s.device master).config.level f) :
    (send lo master s f).device master = s.device master := by
  show (if lo.board master = lo.board master then _ else _) = _
  rw [if_pos rfl, deliver_other hf]

theorem send_config (i : ι) (f : CanixFrame) (j : ι) :
    ((send lo i s f).device j).config = (s.device j).config := by
  show (if lo.board j = lo.board i then _ else _ : DeviceData).config = _
  split
  · exact deliver_config f _
  · rfl

/-- Who follows goes on to follow. -/
theorem follows_send {f : CanixFrame} {i : ι} (hf : ¬ Better (s.device master).config.level f)
    (h : Follows lo config master s i) : Follows lo config master (send lo master s f) i := by
  rcases h with ⟨g, hg, hbetter⟩ | hle
  · left
    refine ⟨g, ?_, hbetter⟩
    show g ∈ (if lo.board i = lo.board master then _ else _ : List CanixFrame)
    split
    · exact hg
    · exact List.mem_append_left _ hg
  · right
    rw [send_device_master hf]
    refine Nat.le_trans (Nat.add_le_add_right ?_ _) hle
    show (if lo.board i = lo.board master then _ else _ : DeviceData).lastTimeFrameReceived.toNat
      ≤ _
    split
    · exact deliver_received_le f _
    · exact Nat.le_refl _

/-- Whoever a frame is better for follows from then on. -/
theorem follows_send_better {f : CanixFrame} {i : ι} (hrate : s.ticks master ≤ s.ticks i + 1)
    (hconfig : (s.device i).config = config i) (hf : Better (config i).level f) :
    Follows lo config master (send lo master s f) i := by
  by_cases hboard : lo.board i = lo.board master
  · apply follows_of_reset (s := send lo master s f) hrate
    show (if lo.board i = lo.board master then _ else _ : DeviceData).lastTimeFrameReceived = 0
    rw [if_pos hboard, deliver_better (hconfig ▸ hf)]
  · left
    refine ⟨f, ?_, hf⟩
    show f ∈ (if lo.board i = lo.board master then _ else _ : List CanixFrame)
    rw [if_neg hboard]
    exact List.mem_append_right _ (List.mem_singleton_self f)

/-! ### The second of a device -/

variable (lo master)

/-- The second of a device before its frames go out. -/
def counted (clock : RtcClock) (s : Bus β ι) (i : ι) : Bus β ι :=
  { s with
    device := Function.update s.device i
      (timeserviceTimerHandler (self (lo.board i)) clock (s.device i)).1
    ticks := Function.update s.ticks i (s.ticks i + 1) }

variable {lo master}

theorem second_eq (clock : RtcClock) (s : Bus β ι) (i : ι) :
    second lo self clock s i
      = (timeserviceTimerHandler (self (lo.board i)) clock (s.device i)).2.foldl (send lo i)
          (counted lo self clock s i) := rfl

theorem counted_configs (clock : RtcClock) (i : ι) (h : ∀ j, (s.device j).config = config j) :
    ∀ j, ((counted lo self clock s i).device j).config = config j := by
  intro j
  show (Function.update s.device i _ j).config = config j
  by_cases hj : j = i
  · rw [hj, Function.update_self, timerHandler_config, h]
  · rw [Function.update_of_ne hj, h]

/-- A second that is nobody else's last keeps the rate. -/
theorem counted_rate (clock : RtcClock) (i : ι) (h : ∀ j k, s.ticks j ≤ s.ticks k + 1)
    (hi : ∀ j, s.ticks i ≤ s.ticks j) :
    ∀ j k, (counted lo self clock s i).ticks j ≤ (counted lo self clock s i).ticks k + 1 := by
  intro j k
  show Function.update s.ticks i _ j ≤ Function.update s.ticks i _ k + 1
  have hjk := h j k
  have hik := hi k
  by_cases hj : j = i
  · by_cases hk : k = i
    · rw [hj, hk]
      omega
    · rw [hj, Function.update_self, Function.update_of_ne hk]
      omega
  · by_cases hk : k = i
    · rw [hk, Function.update_self, Function.update_of_ne hj]
      have hji := h j i
      omega
    · rw [Function.update_of_ne hj, Function.update_of_ne hk]
      exact hjk

/-- Where nothing waits for the board, the count of seconds speaks. -/
theorem Rules.count_le {i : ι} (h : Rules lo config master s) (hne : i ≠ master)
    (hqueue : s.queue (lo.board i) = []) :
    (s.device i).lastTimeFrameReceived.toNat + s.ticks master
      ≤ s.ticks i + (s.device master).lastTimeFrameSent.toNat + 1 := by
  rcases h.follows i hne with ⟨f, hf, _⟩ | hle
  · rw [hqueue] at hf
    cases hf
  · exact hle

/-- A follower only counts the second. -/
theorem follower_handler (clock : RtcClock) {i : ι} (hne : i ≠ master)
    (hconfig : (s.device i).config = config i)
    (htake : (config master).interval.toNat + 2 < (config i).takeoverTime.toNat)
    (hqueue : s.queue (lo.board i) = []) (hrate : s.ticks i ≤ s.ticks master)
    (h : Rules lo config master s) :
    timeserviceTimerHandler (self (lo.board i)) clock (s.device i)
      = ({ s.device i with lastTimeFrameReceived := countReceived (s.device i) }, []) := by
  have hcount := h.count_le hne hqueue
  have hle := countReceived_le (s.device i)
  have hinterval := h.interval
  have hlow : countReceived (s.device i) < (s.device i).config.takeoverTime := by
    rw [UInt8.lt_iff_toNat_lt, hconfig]
    omega
  rcases timerHandler_cases (self (lo.board i)) clock (s.device i) with
    ⟨_, heq⟩ | ⟨hge, _⟩ | ⟨hge, _⟩
  · exact heq
  · exact absurd hlow (UInt8.not_lt.mpr hge)
  · exact absurd hlow (UInt8.not_lt.mpr hge)

/-- **A service that follows does not send** in its second, and follows on. -/
theorem second_follower (clock : RtcClock) {i : ι} (hne : i ≠ master)
    (hconfig : (s.device i).config = config i)
    (htake : (config master).interval.toNat + 2 < (config i).takeoverTime.toNat)
    (hqueue : s.queue (lo.board i) = []) (hrate : s.ticks i ≤ s.ticks master)
    (h : Rules lo config master s) :
    second lo self clock s i = counted lo self clock s i ∧
      Rules lo config master (counted lo self clock s i) := by
  have hhandler := follower_handler self clock hne hconfig htake hqueue hrate h
  have hcount := h.count_le hne hqueue
  have hle := countReceived_le (s.device i)
  have hmaster : (counted lo self clock s i).device master = s.device master :=
    Function.update_of_ne (Ne.symm hne) _ _
  have hticks : (counted lo self clock s i).ticks master = s.ticks master :=
    Function.update_of_ne (Ne.symm hne) _ _
  constructor
  · rw [second_eq, hhandler]
    rfl
  · constructor
    · rw [hmaster]
      exact h.received
    · rw [hmaster]
      exact h.interval
    · intro j hj
      by_cases hji : j = i
      · right
        rw [hji, hmaster, hticks]
        have hdev : (counted lo self clock s i).device i
            = { s.device i with lastTimeFrameReceived := countReceived (s.device i) } := by
          show Function.update s.device i _ i = _
          rw [Function.update_self, hhandler]
        have hticksi : (counted lo self clock s i).ticks i = s.ticks i + 1 :=
          Function.update_self _ _ _
        rw [hdev, hticksi]
        show (countReceived (s.device i)).toNat + _ ≤ _
        omega
      · rcases h.follows j hj with hwait | hcount
        · exact Or.inl hwait
        · right
          rw [hmaster, hticks,
            show (counted lo self clock s i).device j = s.device j from
              Function.update_of_ne hji _ _,
            show (counted lo self clock s i).ticks j = s.ticks j from
              Function.update_of_ne hji _ _]
          exact hcount

/-- A master that counts its interval keeps the others in step with it. -/
theorem counted_master (clock : RtcClock)
    (hsent : (s.device master).lastTimeFrameSent ≠ (config master).interval)
    (hhandler : (timeserviceTimerHandler (self (lo.board master)) clock (s.device master)).1
      = { s.device master with
          lastTimeFrameReceived := countReceived (s.device master)
          lastTimeFrameSent := (s.device master).lastTimeFrameSent + 1 })
    (h : Rules lo config master s) : Rules lo config master (counted lo self clock s master) := by
  have hdev : (counted lo self clock s master).device master
      = { s.device master with
          lastTimeFrameReceived := countReceived (s.device master)
          lastTimeFrameSent := (s.device master).lastTimeFrameSent + 1 } := by
    show Function.update s.device master _ master = _
    rw [Function.update_self, hhandler]
  have hticks : (counted lo self clock s master).ticks master = s.ticks master + 1 :=
    Function.update_self _ _ _
  -- below the interval the counter does not wrap
  have hlt : (s.device master).lastTimeFrameSent.toNat < (config master).interval.toNat :=
    Nat.lt_of_le_of_ne h.interval fun heq => hsent (UInt8.toNat_inj.mp heq)
  have hnext : ((s.device master).lastTimeFrameSent + 1).toNat
      = (s.device master).lastTimeFrameSent.toNat + 1 := by
    have hle : (config master).interval.toNat < 256 := (config master).interval.toNat_lt
    rw [UInt8.toNat_add]
    show (_ + 1) % 256 = _
    omega
  constructor
  · rw [hdev]
    exact UInt8.le_trans h.received (UInt8.le_iff_toNat_le.mpr (le_countReceived _))
  · rw [hdev]
    show ((s.device master).lastTimeFrameSent + 1).toNat ≤ _
    omega
  · intro j hj
    rcases h.follows j hj with hwait | hcount
    · exact Or.inl hwait
    · right
      rw [hdev, hticks,
        show (counted lo self clock s master).device j = s.device j from
          Function.update_of_ne hj _ _,
        show (counted lo self clock s master).ticks j = s.ticks j from
          Function.update_of_ne hj _ _]
      show _ ≤ _ + ((s.device master).lastTimeFrameSent + 1).toNat + 1
      omega

/-- **A master that sends rules**, whatever the others have counted. -/
theorem rules_of_sends (clock : RtcClock)
    (hlevel : ∀ i, i ≠ master → (config master).level < (config i).level)
    (hconfigs : ∀ i, (s.device i).config = config i)
    (hrate : ∀ i, s.ticks master ≤ s.ticks i + 1)
    (hreceived : (config master).takeoverTime ≤ (s.device master).lastTimeFrameReceived)
    (hsent : (s.device master).lastTimeFrameSent = 0) (addr : UInt16) :
    Rules lo config master
      (send lo master (send lo master s (timeInfo addr (config master).level clock))
        (dateInfo addr (config master).level clock)) := by
  have htime : ¬ Better (s.device master).config.level
      (timeInfo addr (config master).level clock) := by
    rw [better_timeInfo, hconfigs]
    exact UInt8.lt_irrefl _
  have hdate : ¬ Better ((send lo master s
        (timeInfo addr (config master).level clock)).device master).config.level
      (dateInfo addr (config master).level clock) := not_better_dateInfo _ _ _ _
  have hmaster : (send lo master (send lo master s (timeInfo addr (config master).level clock))
      (dateInfo addr (config master).level clock)).device master = s.device master := by
    rw [send_device_master hdate, send_device_master htime]
  constructor
  · rw [hmaster]
    exact hreceived
  · rw [hmaster, hsent]
    exact Nat.zero_le _
  · intro i hi
    apply follows_send hdate
    apply follows_send_better (hrate i) (hconfigs i)
    exact (better_timeInfo _ _).mpr (hlevel i hi)

/-! ### The invariant -/

theorem foldl_send_ticks (i : ι) (frames : List CanixFrame) :
    ∀ s : Bus β ι, (frames.foldl (send lo i) s).ticks = s.ticks := by
  induction frames with
  | nil => intro s; rfl
  | cons f frames ih => intro s; exact ih _

theorem foldl_send_configs (i : ι) (frames : List CanixFrame) :
    ∀ s : Bus β ι, (∀ j, (s.device j).config = config j) →
      ∀ j, ((frames.foldl (send lo i) s).device j).config = config j := by
  induction frames with
  | nil => intro s h; exact h
  | cons f frames ih => intro s h; exact ih _ fun j => (send_config i f j).trans (h j)

theorem foldl_send_sent (i : ι) (frames : List CanixFrame) :
    ∀ s : Bus β ι,
      (frames.foldl (send lo i) s).sent = s.sent ++ frames.map fun f => (i, f) := by
  induction frames with
  | nil => intro s; simp
  | cons f frames ih =>
      intro s
      rw [List.foldl_cons, ih, List.map_cons]
      show (s.sent ++ [(i, f)]) ++ _ = _
      simp

theorem foldl_send_queue (i : ι) (frames : List CanixFrame) :
    ∀ s : Bus β ι, (frames.foldl (send lo i) s).queue (lo.board i) = s.queue (lo.board i) := by
  induction frames with
  | nil => intro s; rfl
  | cons f frames ih =>
      intro s
      rw [List.foldl_cons, ih]
      exact if_pos rfl

/-- Nobody but the master is behind the master, as long as only the master
sends or the master has not. -/
theorem sole_append (i : ι) (frames : List CanixFrame)
    (hsole : s.sent.Pairwise fun x y => x.1 = master → y.1 = master)
    (hi : i = master ∨ ¬ s.HasSent master) :
    (s.sent ++ frames.map fun f => (i, f)).Pairwise fun x y => x.1 = master → y.1 = master := by
  rw [List.pairwise_append]
  refine ⟨hsole, ?_, ?_⟩
  · rw [List.pairwise_map]
    exact List.pairwise_of_forall fun _ _ h => h
  · rintro ⟨j, f⟩ hx y hy hj
    obtain ⟨g, _, rfl⟩ := List.mem_map.mp hy
    rcases hi with hi | hnot
    · exact hi
    · have hjm : j = master := hj
      exact absurd ⟨f, hjm ▸ hx⟩ hnot

/-- What a second keeps of the invariant, whoever has it. -/
theorem busInv_second_of_rules (clock : RtcClock) (i : ι) (hrate : ∀ j, s.ticks i ≤ s.ticks j)
    (h : BusInv lo config master s)
    (hi : i = master ∨ ¬ s.HasSent master ∨ second lo self clock s i = counted lo self clock s i)
    (hrules : (second lo self clock s i).HasSent master →
      Rules lo config master (second lo self clock s i)) :
    BusInv lo config master (second lo self clock s i) := by
  refine ⟨?_, ?_, hrules, ?_⟩
  · rw [second_eq]
    exact foldl_send_configs i _ _ (counted_configs self clock i h.configs)
  · rw [second_eq, foldl_send_ticks]
    exact counted_rate self clock i h.rate hrate
  · rcases hi with hm | hnot | hcounted
    · rw [second_eq, foldl_send_sent]
      exact sole_append i _ h.sole (Or.inl hm)
    · rw [second_eq, foldl_send_sent]
      exact sole_append i _ h.sole (Or.inr hnot)
    · rw [hcounted]
      exact h.sole

/-- Only the master's own second makes it the first sender. -/
theorem hasSent_second_other (clock : RtcClock) {i : ι} (hne : i ≠ master)
    (h : (second lo self clock s i).HasSent master) : s.HasSent master := by
  obtain ⟨f, hf⟩ := h
  rw [second_eq, foldl_send_sent, List.mem_append] at hf
  rcases hf with hf | hf
  · exact ⟨f, hf⟩
  · obtain ⟨g, _, heq⟩ := List.mem_map.mp hf
    exact absurd (congrArg Prod.fst heq) hne

/-- **A second keeps the invariant**, if no frame waits for the board. -/
theorem busInv_second (clock : RtcClock) (i : ι)
    (hlevel : ∀ i, i ≠ master → (config master).level < (config i).level)
    (htake : ∀ i, i ≠ master →
      (config master).interval.toNat + 2 < (config i).takeoverTime.toNat)
    (hqueue : s.queue (lo.board i) = []) (hrate : ∀ j, s.ticks i ≤ s.ticks j)
    (h : BusInv lo config master s) : BusInv lo config master (second lo self clock s i) := by
  by_cases hi : i = master
  · subst hi
    apply busInv_second_of_rules self clock i hrate h (Or.inl rfl)
    rcases timerHandler_cases (self (lo.board i)) clock (s.device i) with
      ⟨hlow, heq⟩ | ⟨_, hsent, heq⟩ | ⟨hhigh, _, heq⟩
    · intro hsent
      rw [second_eq, heq] at hsent
      -- who has sent has waited long enough, and goes on counting
      have hreceived := (h.rules hsent).received
      rw [h.configs] at hlow
      exact absurd (UInt8.le_trans hreceived (UInt8.le_iff_toNat_le.mpr (le_countReceived _)))
        (UInt8.not_le.mpr hlow)
    · intro hsent'
      rw [h.configs] at hsent
      rw [second_eq, heq] at hsent' ⊢
      exact counted_master self clock hsent (congrArg Prod.fst heq) (h.rules hsent')
    · intro _
      rw [second_eq, heq, h.configs]
      have hdev : (counted lo self clock s i).device i
          = { s.device i with
              lastTimeFrameReceived := countReceived (s.device i)
              lastTimeFrameSent := 0 } := by
        show Function.update s.device i _ i = _
        rw [Function.update_self, heq]
      refine rules_of_sends clock hlevel (counted_configs self clock i h.configs)
        (counted_rate self clock i h.rate hrate i) ?_ ?_ _
      · rw [hdev, ← h.configs i]
        exact hhigh
      · rw [hdev]
  · by_cases hmaster : s.HasSent master
    · obtain ⟨heq, hrules⟩ := second_follower self clock hi (h.configs i) (htake i hi) hqueue
        (hrate master) (h.rules hmaster)
      apply busInv_second_of_rules self clock i hrate h (Or.inr (Or.inr heq))
      intro _
      rw [heq]
      exact hrules
    · apply busInv_second_of_rules self clock i hrate h (Or.inr (Or.inl hmaster))
      intro hsent
      exact absurd (hasSent_second_other self clock hi hsent) hmaster

/-! ### The events -/

theorem second_queue (clock : RtcClock) (i : ι) :
    (second lo self clock s i).queue (lo.board i) = s.queue (lo.board i) := by
  rw [second_eq, foldl_send_queue]
  rfl

theorem second_ticks_of_ne (clock : RtcClock) {i j : ι} (h : j ≠ i) :
    (second lo self clock s i).ticks j = s.ticks j := by
  rw [second_eq, foldl_send_ticks]
  exact Function.update_of_ne h _ _

theorem le_second_ticks (clock : RtcClock) (i j : ι) :
    s.ticks j ≤ (second lo self clock s i).ticks j := by
  by_cases hj : j = i
  · rw [hj, second_eq, foldl_send_ticks]
    show _ ≤ Function.update s.ticks i _ i
    rw [Function.update_self]
    omega
  · exact Nat.le_of_eq (second_ticks_of_ne self clock hj).symm

/-- The devices of a board have their second one after the other: who has not
had it yet is still not ahead of anybody. -/
theorem busInv_idleHandler (clock : RtcClock) (b : β)
    (hlevel : ∀ i, i ≠ master → (config master).level < (config i).level)
    (htake : ∀ i, i ≠ master →
      (config master).interval.toNat + 2 < (config i).takeoverTime.toNat)
    (hqueue : s.queue b = []) (hrate : ∀ i j, lo.board i = b → s.ticks i ≤ s.ticks j)
    (h : BusInv lo config master s) : BusInv lo config master (idleHandler lo self clock s b) := by
  have hloop : ∀ (l : List ι) (s : Bus β ι), l.Nodup → (∀ i ∈ l, lo.board i = b) →
      s.queue b = [] → (∀ i ∈ l, ∀ j, s.ticks i ≤ s.ticks j) → BusInv lo config master s →
      BusInv lo config master (l.foldl (second lo self clock) s) := by
    intro l
    induction l with
    | nil => intro s _ _ _ _ h; exact h
    | cons i l ih =>
        intro s hnodup hboard hqueue hrate h
        have hi : lo.board i = b := hboard i List.mem_cons_self
        have hnot : i ∉ l := (List.nodup_cons.mp hnodup).1
        apply ih _ (List.nodup_cons.mp hnodup).2 fun k hk => hboard k (List.mem_cons_of_mem i hk)
        · rw [← hi, second_queue, hi, hqueue]
        · intro k hk j
          have hki : k ≠ i := fun heq => hnot (heq ▸ hk)
          rw [second_ticks_of_ne self clock hki]
          exact Nat.le_trans (hrate k (List.mem_cons_of_mem i hk) j)
            (le_second_ticks self clock i j)
        · exact busInv_second self clock i hlevel htake (hi ▸ hqueue)
            (hrate i List.mem_cons_self) h
  have hboard : ∀ i ∈ lo.devices b, lo.board i = b := fun i hi => (lo.mem_devices i b).mp hi
  exact hloop (lo.devices b) s (lo.nodup b) hboard hqueue
    (fun i hi j => hrate i j (hboard i hi)) h

/-- A frame that waits longer, or more frames that wait, change nothing. -/
theorem busInv_foreign (f : CanixFrame) (h : BusInv lo config master s) :
    BusInv lo config master { s with queue := fun b => s.queue b ++ [f] } := by
  refine ⟨h.configs, h.rate, ?_, h.sole⟩
  intro hsent
  have hrules := h.rules hsent
  refine ⟨hrules.received, hrules.interval, ?_⟩
  intro i hi
  rcases hrules.follows i hi with ⟨g, hg, hbetter⟩ | hcount
  · exact Or.inl ⟨g, List.mem_append_left _ hg, hbetter⟩
  · exact Or.inr hcount

/-- **A frame that is taken out of the queue keeps the invariant**, unless it
beats the master. -/
theorem busInv_receive (b : β) (f : CanixFrame) (rest : List CanixFrame)
    (hqueue : s.queue b = f :: rest)
    (hbeat : b = lo.board master → ¬ Better (s.device master).config.level f)
    (h : BusInv lo config master s) : BusInv lo config master (receive lo s b f rest) := by
  have hmaster : (receive lo s b f rest).device master = s.device master := by
    show (if lo.board master = b then _ else _) = _
    split
    · next hb => exact deliver_other (hbeat hb.symm)
    · rfl
  refine ⟨?_, h.rate, ?_, h.sole⟩
  · intro i
    show (if lo.board i = b then _ else _ : DeviceData).config = _
    split
    · rw [deliver_config, h.configs]
    · exact h.configs i
  · intro hsent
    have hrules := h.rules hsent
    refine ⟨hmaster ▸ hrules.received, hmaster ▸ hrules.interval, ?_⟩
    intro i hi
    by_cases hb : lo.board i = b
    · have hdev : (receive lo s b f rest).device i = canixDeliverFrame f (s.device i) := if_pos hb
      rcases hrules.follows i hi with ⟨g, hg, hbetter⟩ | hcount
      · rw [hb, hqueue] at hg
        rcases List.mem_cons.mp hg with rfl | hg
        · -- the frame that was waited for has come
          apply follows_of_reset (s := receive lo s b g rest) (h.rate master i)
          rw [hdev, deliver_better ((h.configs i).symm ▸ hbetter)]
        · left
          refine ⟨g, ?_, hbetter⟩
          show g ∈ Function.update s.queue b rest (lo.board i)
          rw [hb, Function.update_self]
          exact hg
      · right
        rw [hdev, hmaster]
        exact Nat.le_trans (Nat.add_le_add_right (deliver_received_le f _) _) hcount
    · rcases hrules.follows i hi with ⟨g, hg, hbetter⟩ | hcount
      · left
        refine ⟨g, ?_, hbetter⟩
        show g ∈ Function.update s.queue b rest (lo.board i)
        rw [Function.update_of_ne hb]
        exact hg
      · right
        rw [hmaster, show (receive lo s b f rest).device i = s.device i from if_neg hb]
        exact hcount

/-- **The step lemma**: an event keeps the invariant. -/
theorem busInv_step (hlevel : ∀ i, i ≠ master → (config master).level < (config i).level)
    (htake : ∀ i, i ≠ master →
      (config master).interval.toNat + 2 < (config i).takeoverTime.toNat)
    (s : Bus β ι) (e : Event β) (hg : SameRate lo s e ∧ Unbeaten lo master s e)
    (h : BusInv lo config master s) : BusInv lo config master (busStep lo self s e) := by
  cases e with
  | foreign f => exact busInv_foreign f h
  | pass b clock =>
      cases hq : s.queue b with
      | cons f rest =>
          have hstep : busStep lo self s (.pass b clock) = receive lo s b f rest := by
            simp only [busStep, hq]
          rw [hstep]
          apply busInv_receive b f rest hq _ h
          intro hb
          exact hg.2 clock f (hb ▸ rfl) (by rw [← hb, hq]; rfl)
      | nil =>
          cases clock with
          | none =>
              have hstep : busStep lo self s (.pass b none) = s := by simp only [busStep, hq]
              rw [hstep]
              exact h
          | some clock =>
              have hstep : busStep lo self s (.pass b (some clock))
                  = idleHandler lo self clock s b := by
                simp only [busStep, hq]
              rw [hstep]
              exact busInv_idleHandler self clock b hlevel htake hq (hg.1 b clock rfl hq) h

end Master

/-- **Once the time service of the lowest level has sent, nobody else does**:
behind its first frame there are only frames of its own. The others must have a
takeover time of more than its interval and two seconds, and it must not see a
frame of a lower level. -/
theorem single_time_master (lo : Layout β ι) (self : β → UInt16) (config : ι → Config)
    (master : ι) (hlevel : ∀ i, i ≠ master → (config master).level < (config i).level)
    (htake : ∀ i, i ≠ master →
      (config master).interval.toNat + 2 < (config i).takeoverTime.toNat)
    (s : Bus β ι) (hs : Start config s) (es : List (Event β))
    (hg : Guarded (busStep lo self) (fun s e => SameRate lo s e ∧ Unbeaten lo master s e) s es) :
    (run (busStep lo self) s es).sent.Pairwise fun x y => x.1 = master → y.1 = master := by
  have hinv : BusInv lo config master s := by
    refine ⟨hs.config, hs.ticks, ?_, ?_⟩
    · rintro ⟨f, hf⟩
      rw [hs.sent] at hf
      cases hf
    · rw [hs.sent]
      exact List.Pairwise.nil
  exact (run_guarded (busInv_step self hlevel htake) es s hg hinv).sole

/-- Two boards with a time service each. -/
def twoBoards : Layout Bool Bool where
  board i := i
  devices b := [b]
  mem_devices _ _ := List.mem_singleton
  nodup b := List.pairwise_singleton _ b

/-- The first sends in every second, the other takes over after three. -/
def twoConfigs : Bool → Config
  | false => ⟨1, 1, 0⟩
  | true => ⟨2, 3, 0⟩

def twoServices : Bus Bool Bool where
  device i := ⟨twoConfigs i, 0, 0⟩
  queue _ := []
  ticks _ := 0
  sent := []

def noon : RtcClock := ⟨1, 12, 0, 0, 1, 1, 20⟩

/-- The first has its second and sends, then the other takes the time frame. -/
theorem single_time_master_two :
    (run (busStep twoBoards fun _ => 100) twoServices
      [.pass false (some noon), .pass true (some noon)]).sent.Pairwise
        fun x y => x.1 = false → y.1 = false := by
  apply single_time_master twoBoards (fun _ => 100) twoConfigs false (by decide) (by decide)
    twoServices ⟨fun _ => rfl, fun _ _ => Nat.zero_le 1, rfl⟩
  refine ⟨⟨?_, ?_⟩, ⟨?_, ?_⟩, trivial⟩
  · intro b clock _ _ i j _
    exact Nat.le_refl 0
  · intro clock f _ hf
    cases hf
  · intro b clock he hq
    cases he
    cases hq
  · intro clock f he
    cases he

end OpenHcan.Timeservice
