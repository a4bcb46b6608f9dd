import OpenHcan.Host.Frame

/-!
# Hcansocketd — between the hub and the CAN bus

`hcansocketd` turns the datagrams of `hcand` into frames of the CAN socket
and back. The identifier goes over with a flag of the socket, the size and
the payload as they are; both copies of the payload are checked here. A frame
is stored in a slot of a ring buffer, so behind a short payload there is what
an earlier frame has left in the slot.

Left out: the ring buffers themselves and the sockets.
-/

namespace OpenHcan.Daemon

open Lib Host

/-- `struct can_frame` -/
structure CanFrame where
  canId : UInt32
  canDlc : UInt8
  data : Vector UInt8 8
deriving DecidableEq, Repr

/-- `CAN_EFF_FLAG` -/
def canEffFlag : UInt32 := 0x80000000

/-- `CAN_EFF_MASK` -/
def canEffMask : UInt32 := 0x1FFFFFFF

/-- What `rxFromHcan` stores in the slot `canTxBuf[canBufWIdx]`. -/
def storeCan (slot : CanFrame) (hcanFrame : CANFrame) : Option CanFrame := do
  let data ← copyLoop (fun i => hcanFrame.data[i]?) hcanFrame.size.toNat slot.data
  return ⟨hcanFrame.id ||| canEffFlag, hcanFrame.size.toUInt8, data⟩

/-- What `rxFromCb` stores in the slot `hcanTxBuf[hcanBufWIdx]`. -/
def storeHcan (slot : CANFrame) (canFrame : CanFrame) : Option CANFrame := do
  let data ← copyLoop (fun i => canFrame.data[i]?) canFrame.canDlc.toNat slot.data
  return ⟨canFrame.canId &&& canEffMask, canFrame.canDlc.toUInt32, data⟩

theorem storeCan_isSome_iff (slot : CanFrame) (hcanFrame : CANFrame) :
    (storeCan slot hcanFrame).isSome ↔ hcanFrame.size.toNat ≤ 8 := by
  rw [← copyLoop_vector_isSome_iff hcanFrame.data slot.data]
  simp only [storeCan]
  cases copyLoop (fun i => hcanFrame.data[i]?) hcanFrame.size.toNat slot.data <;> exact Iff.rfl

theorem storeHcan_isSome_iff (slot : CANFrame) (canFrame : CanFrame) :
    (storeHcan slot canFrame).isSome ↔ canFrame.canDlc.toNat ≤ 8 := by
  rw [← copyLoop_vector_isSome_iff canFrame.data slot.data]
  simp only [storeHcan]
  cases copyLoop (fun i => canFrame.data[i]?) canFrame.canDlc.toNat slot.data <;> exact Iff.rfl

/-- The frame that goes to the bus. -/
theorem storeCan_spec {slot c : CanFrame} {hcanFrame : CANFrame}
    (h : storeCan slot hcanFrame = some c) :
    c.canId = hcanFrame.id ||| canEffFlag ∧ c.canDlc.toNat = hcanFrame.size.toNat ∧
      c.data.toList.take c.canDlc.toNat = hcanFrame.data.toList.take hcanFrame.size.toNat := by
  have hsize : hcanFrame.size.toNat ≤ 8 :=
    (storeCan_isSome_iff slot hcanFrame).mp (by rw [h]; rfl)
  simp only [storeCan, Option.bind_eq_bind, Option.pure_def, Option.bind_eq_some_iff] at h
  obtain ⟨data, hdata, h⟩ := h
  cases h
  have hdlc : hcanFrame.size.toUInt8.toNat = hcanFrame.size.toNat := by
    rw [UInt32.toNat_toUInt8]
    omega
  exact ⟨rfl, hdlc, by rw [hdlc]; exact copyLoop_vector_take hdata⟩

/-- The datagram that goes to the hub. -/
theorem storeHcan_spec {slot f : CANFrame} {canFrame : CanFrame}
    (h : storeHcan slot canFrame = some f) :
    f.id = canFrame.canId &&& canEffMask ∧ f.size.toNat = canFrame.canDlc.toNat ∧
      f.data.toList.take f.size.toNat = canFrame.data.toList.take canFrame.canDlc.toNat := by
  simp only [storeHcan, Option.bind_eq_bind, Option.pure_def, Option.bind_eq_some_iff] at h
  obtain ⟨data, hdata, h⟩ := h
  cases h
  exact ⟨rfl, UInt8.toNat_toUInt32 _, copyLoop_vector_take hdata⟩

/-! ## The payload length on the host -/

/-- What a host program can be given: a frame to make and to work with, a
datagram from the hub, or a frame from the CAN socket. -/
inductive HostInput where
  | program (c : Construct) (ops : List FrameOp)
  | fromHcan (slot : CanFrame) (hcanFrame : CANFrame)
  | fromCb (slot : CANFrame) (canFrame : CanFrame)
deriving DecidableEq, Repr

/-- No payload is accessed at 8 or above, and what goes out says that it has at
most 8 bytes. -/
def HostInput.Disciplined : HostInput → Prop
  | .program c ops => SessionOk c ops
  | .fromHcan slot f => ∃ c, storeCan slot f = some c ∧ c.canDlc.toNat ≤ 8
  | .fromCb slot c => ∃ f, storeHcan slot c = some f ∧ f.size.toNat ≤ 8

/-- The sizes in the input: of a vector, of the indices of `set_data` before a
copy, of a datagram, of a frame from the socket. -/
def HostInput.SizesOk : HostInput → Prop
  | .program c ops => c.SizeOk ∧ OpsOk none ops
  | .fromHcan _ f => f.size.toNat ≤ 8
  | .fromCb _ c => c.canDlc.toNat ≤ 8

/-- **The payload length on the host**: nothing is accessed at 8 or above and
nothing larger is sent exactly if the sizes in the input are at most 8. -/
theorem payload_disciplined_iff (input : HostInput) : input.Disciplined ↔ input.SizesOk := by
  cases input with
  | program c ops => exact sessionOk_iff c ops
  | fromHcan slot f =>
      show (∃ c, _) ↔ f.size.toNat ≤ 8
      rw [← storeCan_isSome_iff slot f, Option.isSome_iff_exists]
      refine exists_congr fun c => ?_
      constructor
      · exact fun h => h.1
      · intro h
        have hsize := (storeCan_isSome_iff slot f).mp (by rw [h]; rfl)
        exact ⟨h, Nat.le_trans (Nat.le_of_eq (storeCan_spec h).2.1) hsize⟩
  | fromCb slot c =>
      show (∃ f, _) ↔ c.canDlc.toNat ≤ 8
      rw [← storeHcan_isSome_iff slot c, Option.isSome_iff_exists]
      refine exists_congr fun f => ?_
      constructor
      · exact fun h => h.1
      · intro h
        have hdlc := (storeHcan_isSome_iff slot c).mp (by rw [h]; rfl)
        exact ⟨h, Nat.le_trans (Nat.le_of_eq (storeHcan_spec h).2.1) hdlc⟩

/-- **Nine numbers** after the `send` command leave the payload in the
constructor. -/
theorem payload_undisciplined : ¬ ∀ input : HostInput, input.Disciplined := by
  intro hall
  obtain ⟨s, hrun, _⟩ := hall (.program (.vector 0 1 1 [1, 2, 3, 4, 5, 6, 7, 8, 9]) [])
  revert hrun
  have hnone : frameRun (.vector 0 1 1 [1, 2, 3, 4, 5, 6, 7, 8, 9]) [] = none := by decide
  rw [hnone]
  exact nofun

end OpenHcan.Daemon
