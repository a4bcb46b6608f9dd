import OpenHcan.Devices.Powerport
import OpenHcan.Devices.Zeitzone
import OpenHcan.Lib.Countdown

/-!
# Zeitschaltuhr — a timer switch (`devices/zeitschaltuhr.c`)

A timer switch turns a power group on while one of its zones matches. It sends
a message when its state changes, and repeats its state after
`ZEITSCHALTUHR_UPDATE_INTERVAL` seconds without a change. A frame that turns
the automation off switches the group off and leaves the state as it is, so
only the repetition brings the group back.
-/

namespace OpenHcan.Zeitschaltuhr

open Lib Powerport Zeitzone

set_option maxRecDepth 100000

/-- `ZEITSCHALTUHR_UPDATE_INTERVAL` -/
def zeitschaltuhrUpdateInterval : UInt16 := 173

/-- `eds_zeitschaltuhr_block_t`: the zones are `zeitzone0_id` to `zeitzone7_id`. -/
structure EdsZeitschaltuhrBlock where
  powerGruppe : UInt8
  automatikEinSchalterGruppe : UInt8
  zeitzonenIds : Vector UInt8 8
deriving DecidableEq, Repr

/-- `device_data_zeitschaltuhr` -/
structure DeviceDataZeitschaltuhr where
  config : EdsZeitschaltuhrBlock
  state : Bool
  updateCounter : UInt16
  automatikEin : Bool
deriving DecidableEq, Repr

/-- What the functions of a timer switch read and write: its data and the frames
the board has sent. -/
structure ZeitschaltuhrIO where
  dev : DeviceDataZeitschaltuhr
  sent : List CanixFrame
deriving DecidableEq, Repr

/-- `zeitschaltuhr_init` -/
def zeitschaltuhrInit (p : DeviceDataZeitschaltuhr) : DeviceDataZeitschaltuhr :=
  { p with
    state := false
    updateCounter := 1 + (p.config.powerGruppe &&& 0x0f).toUInt16
    automatikEin := true }

/-- The frame that `sendMessage` sends: the group is to be on, or off. -/
def powerFrame (selfaddr : UInt16) (c : EdsZeitschaltuhrBlock) (on : Bool) : CanixFrame :=
  sfpFrame selfaddr hcanMulticastControl
    [hcanSrvHes, if on then hcanHesPowerGroupOn else hcanHesPowerGroupOff, c.powerGruppe]

/-- `sendMessage` -/
def sendMessage (selfaddr : UInt16) (on : Bool) (s : ZeitschaltuhrIO) : ZeitschaltuhrIO :=
  { s with sent := s.sent ++ [powerFrame selfaddr s.dev.config on] }

/-- The state changes, and the group is told. -/
def umschalten (selfaddr : UInt16) (on : Bool) (s : ZeitschaltuhrIO) : ZeitschaltuhrIO :=
  sendMessage selfaddr on { s with dev := { s.dev with state := on } }

/-- `if (update_counter == 0) …; update_counter--` -/
def update (selfaddr : UInt16) (s : ZeitschaltuhrIO) : ZeitschaltuhrIO :=
  let s : ZeitschaltuhrIO :=
    if s.dev.updateCounter = 0 then
      sendMessage selfaddr s.dev.state
        { s with dev := { s.dev with updateCounter := zeitschaltuhrUpdateInterval } }
    else s
  { s with dev := { s.dev with updateCounter := s.dev.updateCounter - 1 } }

/-- `zeitschaltuhr_timer_handler` -/
def zeitschaltuhrTimerHandler (selfaddr : UInt16) (u : Uhrzeit) (s : ZeitschaltuhrIO)
    (zyklus : UInt8) : ZeitschaltuhrIO :=
  if zyklus ≠ 1 then s
  else if s.dev.automatikEin = false then s
  else
    let found := zeitzoneMatch u s.dev.config.zeitzonenIds.toList
    if s.dev.state = false then
      if found then umschalten selfaddr true s else update selfaddr s
    else if found = false then umschalten selfaddr false s
    else update selfaddr s

/-- `zeitschaltuhr_can_callback` -/
def zeitschaltuhrCanCallback (selfaddr : UInt16) (frame : CanixFrame) (s : ZeitschaltuhrIO) :
    ZeitschaltuhrIO :=
  if frame.byte 1 = hcanHesSchalterOn then
    if frame.byte 2 = s.dev.config.automatikEinSchalterGruppe then
      { s with dev := { s.dev with automatikEin := true } }
    else s
  else if frame.byte 1 = hcanHesSchalterOff then
    if frame.byte 2 = s.dev.config.automatikEinSchalterGruppe then
      sendMessage selfaddr false { s with dev := { s.dev with automatikEin := false } }
    else s
  else s

/-! ## The machine -/

/-- A HES frame, or a call of the one-second timer handler at a time of day. -/
inductive ZeitschaltuhrEvent
  | frame (f : CanixFrame)
  | tick (u : Uhrzeit)
deriving DecidableEq, Repr

def zeitschaltuhrStep (selfaddr : UInt16) (s : ZeitschaltuhrIO) :
    ZeitschaltuhrEvent → ZeitschaltuhrIO
  | .frame f => zeitschaltuhrCanCallback selfaddr f s
  | .tick u => zeitschaltuhrTimerHandler selfaddr u s 1

/-- A timer switch after a start of the board. -/
def zeitschaltuhrStart (c : EdsZeitschaltuhrBlock) : ZeitschaltuhrIO :=
  ⟨zeitschaltuhrInit ⟨c, false, 0, false⟩, []⟩

/-- The frame turns the automation off. -/
def SchaltetAus (c : EdsZeitschaltuhrBlock) (f : CanixFrame) : Prop :=
  f.byte 1 = hcanHesSchalterOff ∧ f.byte 2 = c.automatikEinSchalterGruppe

/-- An event that leaves the automation on, and whether a zone matches as it is. -/
def Bleibt (c : EdsZeitschaltuhrBlock) (found : Bool) : ZeitschaltuhrEvent → Prop
  | .frame f => ¬ SchaltetAus c f
  | .tick u => zeitzoneMatch u c.zeitzonenIds.toList = found

/-- The seconds of a run. -/
def ticks : List ZeitschaltuhrEvent → Nat
  | [] => 0
  | .frame _ :: es => ticks es
  | .tick _ :: es => ticks es + 1

/-! ## The counter -/

section

variable {selfaddr : UInt16} {c : EdsZeitschaltuhrBlock} {s : ZeitschaltuhrIO}

/-- The counter is always below the interval. -/
def CounterKlein (c : EdsZeitschaltuhrBlock) (s : ZeitschaltuhrIO) : Prop :=
  s.dev.config = c ∧ s.dev.updateCounter.toNat < 173

theorem counterKlein_start : CounterKlein c (zeitschaltuhrStart c) := by
  refine ⟨rfl, ?_⟩
  show (1 + (c.powerGruppe &&& 0x0f).toUInt16).toNat < 173
  have hmask : (c.powerGruppe &&& 0x0f).toNat ≤ 15 := by
    rw [UInt8.toNat_and]
    exact Nat.and_le_right
  rw [UInt16.toNat_add, UInt8.toNat_toUInt16]
  show (1 + (c.powerGruppe &&& 0x0f).toNat) % 65536 < 173
  omega

/-- The repetition: what is sent at 0, and the counter one less otherwise. -/
theorem update_eq (selfaddr : UInt16) (s : ZeitschaltuhrIO) :
    update selfaddr s =
      if s.dev.updateCounter = 0 then
        ⟨⟨s.dev.config, s.dev.state, 172, s.dev.automatikEin⟩,
          s.sent ++ [powerFrame selfaddr s.dev.config s.dev.state]⟩
      else ⟨⟨s.dev.config, s.dev.state, s.dev.updateCounter - 1, s.dev.automatikEin⟩, s.sent⟩ := by
  have hload : zeitschaltuhrUpdateInterval - 1 = 172 := by decide
  unfold update
  split
  · rw [← hload]
    rfl
  · rfl

theorem CounterKlein.update (h : CounterKlein c s) : CounterKlein c (update selfaddr s) := by
  obtain ⟨hconfig, hcounter⟩ := h
  rw [update_eq]
  split
  · exact ⟨hconfig, by show (172 : UInt16).toNat < 173; decide⟩
  · rename_i hzero
    refine ⟨hconfig, ?_⟩
    show (s.dev.updateCounter - 1).toNat < 173
    rw [toNat_sub_one hzero]
    omega

theorem CounterKlein.step (h : CounterKlein c s) (e : ZeitschaltuhrEvent) :
    CounterKlein c (zeitschaltuhrStep selfaddr s e) := by
  cases e with
  | frame f =>
      show CounterKlein c (zeitschaltuhrCanCallback selfaddr f s)
      unfold zeitschaltuhrCanCallback
      split
      · split <;> exact h
      · split
        · split <;> exact h
        · exact h
  | tick u =>
      show CounterKlein c (zeitschaltuhrTimerHandler selfaddr u s 1)
      unfold zeitschaltuhrTimerHandler
      rw [if_neg (by decide)]
      split
      · exact h
      · dsimp only
        split
        · split
          · exact h
          · exact h.update
        · split
          · exact h
          · exact h.update

/-! ## The way to the right message -/

/-- The last message says `on`. -/
def LetzteNachricht (selfaddr : UInt16) (c : EdsZeitschaltuhrBlock) (on : Bool)
    (s : ZeitschaltuhrIO) : Prop :=
  s.sent.getLast? = some (powerFrame selfaddr c on)

/-- The last message says `found` after at most `n` more ticks. -/
structure Ziel (selfaddr : UInt16) (c : EdsZeitschaltuhrBlock) (found : Bool) (n : Nat)
    (s : ZeitschaltuhrIO) : Prop where
  config : s.dev.config = c
  automatikEin : s.dev.automatikEin = true
  rest : s.dev.state = found ∧ LetzteNachricht selfaddr c found s ∨
    s.dev.state = found ∧ s.dev.updateCounter.toNat < n ∨ s.dev.state ≠ found ∧ 0 < n

theorem letzteNachricht_append (sent : List CanixFrame) (d : DeviceDataZeitschaltuhr) (on : Bool) :
    LetzteNachricht selfaddr c on ⟨d, sent ++ [powerFrame selfaddr c on]⟩ := by
  unfold LetzteNachricht
  rw [List.getLast?_append, List.getLast?_singleton]
  rfl

/-- A frame that does not turn the automation off. -/
theorem Ziel.frame {found : Bool} {n : Nat} (h : Ziel selfaddr c found n s) {f : CanixFrame}
    (hf : ¬ SchaltetAus c f) : Ziel selfaddr c found n (zeitschaltuhrCanCallback selfaddr f s) := by
  obtain ⟨rfl, hein, hrest⟩ := h
  unfold zeitschaltuhrCanCallback
  split
  · split
    · exact ⟨rfl, rfl, hrest⟩
    · exact ⟨rfl, hein, hrest⟩
  · split
    · rename_i hoff
      rw [if_neg fun hgruppe => hf ⟨hoff, hgruppe⟩]
      exact ⟨rfl, hein, hrest⟩
    · exact ⟨rfl, hein, hrest⟩

/-- The repetition brings the message nearer. -/
theorem Ziel.update {found : Bool} {n : Nat} (h : Ziel selfaddr c found n s)
    (hstate : s.dev.state = found) : Ziel selfaddr c found (n - 1) (update selfaddr s) := by
  obtain ⟨rfl, hein, hrest⟩ := h
  rw [update_eq]
  split
  · refine ⟨rfl, hein, Or.inl ⟨hstate, ?_⟩⟩
    rw [hstate]
    exact letzteNachricht_append _ _ _
  · rename_i hzero
    have hne := toNat_ne_zero hzero
    refine ⟨rfl, hein, ?_⟩
    rcases hrest with hdone | ⟨-, hlt⟩ | ⟨hother, -⟩
    · exact Or.inl hdone
    · refine Or.inr (Or.inl ⟨hstate, ?_⟩)
      show (s.dev.updateCounter - 1).toNat < n - 1
      rw [toNat_sub_one hzero]
      omega
    · exact absurd hstate hother

/-- A change of the state tells the group. -/
theorem Ziel.umschalten {found : Bool} {n m : Nat} (h : Ziel selfaddr c found n s) :
    Ziel selfaddr c found m (umschalten selfaddr found s) := by
  obtain ⟨rfl, hein, -⟩ := h
  exact ⟨rfl, hein, Or.inl ⟨rfl, letzteNachricht_append _ _ _⟩⟩

/-- **One second** brings the message nearer. -/
theorem Ziel.tick {found : Bool} {n : Nat} (h : Ziel selfaddr c found n s) {u : Uhrzeit}
    (hu : zeitzoneMatch u c.zeitzonenIds.toList = found) :
    Ziel selfaddr c found (n - 1) (zeitschaltuhrTimerHandler selfaddr u s 1) := by
  have hfound : zeitzoneMatch u s.dev.config.zeitzonenIds.toList = found := by
    rw [h.config]
    exact hu
  have hein : ¬ s.dev.automatikEin = false := by
    rw [h.automatikEin]
    exact Bool.noConfusion
  unfold zeitschaltuhrTimerHandler
  rw [if_neg (by decide), if_neg hein]
  dsimp only
  rw [hfound]
  cases hstate : s.dev.state with
  | false =>
      rw [if_pos rfl]
      cases found with
      | false => exact h.update hstate
      | true => exact h.umschalten
  | true =>
      rw [if_neg Bool.noConfusion]
      cases found with
      | false => exact h.umschalten
      | true => exact h.update hstate

/-- The seconds of a run bring the message nearer, one by one. -/
theorem Ziel.run {found : Bool} (es : List ZeitschaltuhrEvent) {n : Nat}
    (h : Ziel selfaddr c found n s) (hes : ∀ e ∈ es, Bleibt c found e) :
    Ziel selfaddr c found (n - ticks es) (run (zeitschaltuhrStep selfaddr) s es) := by
  induction es generalizing n s with
  | nil => exact h
  | cons e es ih =>
      have hrest : ∀ e' ∈ es, Bleibt c found e' := fun e' he' => hes e' (List.mem_cons_of_mem e he')
      have hfirst : Bleibt c found e := hes e List.mem_cons_self
      cases e with
      | frame f => exact ih (h.frame hfirst) hrest
      | tick u =>
          have htail := ih (h.tick hfirst) hrest
          rwa [Nat.sub_sub, Nat.add_comm 1] at htail

end

/-- **Convergence**: whatever a timer switch has been through, when its automation is on
and the zones stay as they are for `ZEITSCHALTUHR_UPDATE_INTERVAL` + 2 seconds, the last
message to the power group says whether a zone matches. -/
theorem zeitschaltuhr_konvergiert (selfaddr : UInt16) (c : EdsZeitschaltuhrBlock)
    (vorher nachher : List ZeitschaltuhrEvent) (found : Bool)
    (hein : (run (zeitschaltuhrStep selfaddr) (zeitschaltuhrStart c) vorher).dev.automatikEin = true)
    (hbleibt : ∀ e ∈ nachher, Bleibt c found e)
    (hticks : zeitschaltuhrUpdateInterval.toNat + 2 ≤ ticks nachher) :
    (run (zeitschaltuhrStep selfaddr) (zeitschaltuhrStart c) (vorher ++ nachher)).sent.getLast? =
      some (powerFrame selfaddr c found) := by
  obtain ⟨hconfig, hcounter⟩ := run_invariant (fun s e (h : CounterKlein c s) => h.step e) vorher
    (zeitschaltuhrStart c) (counterKlein_start (c := c))
  have hstart : Ziel selfaddr c found 173
      (run (zeitschaltuhrStep selfaddr) (zeitschaltuhrStart c) vorher) := by
    refine ⟨hconfig, hein, ?_⟩
    by_cases hstate : (run (zeitschaltuhrStep selfaddr) (zeitschaltuhrStart c) vorher).dev.state = found
    · exact Or.inr (Or.inl ⟨hstate, hcounter⟩)
    · exact Or.inr (Or.inr ⟨hstate, by decide⟩)
  have hend := hstart.run nachher hbleibt
  have hzero : 173 - ticks nachher = 0 := by
    have hval : zeitschaltuhrUpdateInterval.toNat = 173 := rfl
    omega
  rw [hzero, ← run_append] at hend
  rcases hend.rest with ⟨-, hlast⟩ | ⟨-, hlt⟩ | ⟨-, hlt⟩
  · exact hlast
  · exact absurd hlt (Nat.not_lt_zero _)
  · exact absurd hlt (Nat.not_lt_zero _)

/-- A pump that runs in the evening: zone 1, switched off by hand with group 60. -/
private def abendPumpe : EdsZeitschaltuhrBlock := ⟨40, 60, #v[1, 255, 255, 255, 255, 255, 255, 255]⟩

/-- Eight o'clock in the evening, in zone 1. -/
private def abends : Uhrzeit :=
  ⟨[none, some ⟨1, 0xfe, 18, 0, 23, 30⟩], ⟨3, 20, 0, 0, 15, 5, 24⟩⟩

/-- The automation is turned off and on again in the evening. -/
theorem zeitschaltuhr_konvergiert_abends :
    (run (zeitschaltuhrStep 7) (zeitschaltuhrStart abendPumpe)
      ([.tick abends, .frame (sfpFrame 9 hcanMulticastControl [hcanSrvHes, hcanHesSchalterOff, 60]),
        .frame (sfpFrame 9 hcanMulticastControl [hcanSrvHes, hcanHesSchalterOn, 60])] ++
        List.replicate 175 (.tick abends))).sent.getLast? =
      some (powerFrame 7 abendPumpe true) := by
  refine zeitschaltuhr_konvergiert 7 abendPumpe _ _ true (by decide) (fun e he => ?_) (by decide)
  rw [List.eq_of_mem_replicate he]
  show zeitzoneMatch abends _ = true
  decide

end OpenHcan.Zeitschaltuhr
