import OpenHcan.Canix.Mcp2515
import OpenHcan.Lib.Machine

/-!
# TxAccounting — sent and dropped frames

`canix_frame_send_with_prio` looks for a free transmit buffer twice: with
`can_any_sendable` before it packs the frame, and in `can_send_message` to
find out which buffer it is. Every status read is a read of its own from the
controller, which may have finished a buffer in between; what it does before
each of the up to six reads is part of the call here. The counting is in
`can_send_message` only, behind the first look.

A callback that sends a frame itself makes a call of its own, behind the
counters of the call it is run from.
-/

namespace OpenHcan.Mcp2515

open OpenHcan.Lib

set_option maxRecDepth 100000

/-! ## The two looks at the buffers -/

/-- `can_sendable`, with what the controller does before the read. -/
def canSendable (chip : Registers → Registers) (txIndex : Nat) (regs : Registers) :
    Bool × Registers :=
  let regs := chip regs
  (regs (txb0ctrl + 16 * txIndex) &&& txreqBit == 0, regs)

/-- `can_any_sendable`; its reads are the reads 0 to 2. -/
def canAnySendable (chip : Nat → Registers → Registers) (regs : Registers) : Bool × Registers :=
  let (free, regs) := canSendable (chip 0) 0 regs
  if free then (true, regs)
  else
    let (free, regs) := canSendable (chip 1) 1 regs
    if free then (true, regs) else canSendable (chip 2) 2 regs

/-- The search of `can_send_message` for a free buffer; its reads are the
reads 3 to 5. -/
def searchBuffer (chip : Nat → Registers → Registers) (regs : Registers) :
    Option Nat × Registers :=
  let (free, regs) := canSendable (chip 3) 0 regs
  if free then (some 0, regs)
  else
    let (free, regs) := canSendable (chip 4) 1 regs
    if free then (some 1, regs)
    else
      let (free, regs) := canSendable (chip 5) 2 regs
      (if free then some 2 else none, regs)

/-! ## Sending with counters -/

/-- The controller, the two counters, the log of requested transmissions (the
buffer and the frame in it) and the log of local deliveries. -/
structure TxState where
  regs : Registers
  txSent : UInt32
  txDropped : UInt32
  requested : List (Nat × BusFrame)
  delivered : List CanixFrame

/-- `can_send_message` -/
def sendMessage (chip : Nat → Registers → Registers) (s : TxState) (id : UInt32)
    (data : List UInt8) (length : UInt8) : TxState :=
  match searchBuffer chip s.regs with
  | (none, regs) => { s with regs := regs, txDropped := s.txDropped + 1 }
  | (some txIndex, regs) =>
      { s with
        regs := loadBuffer regs txIndex id data length
        requested := s.requested ++ [(txIndex, ⟨id, data.take length.toNat⟩)]
        txSent := s.txSent + 1 }

/-- A call of `canix_frame_send_with_prio`, with what the controller does before
each status read. -/
structure SendCall where
  frame : CanixFrame
  prio : UInt8
  chip : Nat → Registers → Registers

/-- `canix_frame_send_with_prio` -/
def frameSendWithPrio (s : TxState) (call : SendCall) : TxState :=
  let (any, regs) := canAnySendable call.chip s.regs
  let s := { s with regs := regs }
  let s :=
    if any then
      sendMessage call.chip s (extId call.frame call.prio) call.frame.data.toList call.frame.size
    else s
  -- `canix_deliver_frame`
  { s with delivered := s.delivered ++ [call.frame] }

def hcanPrioLow : UInt8 := 3

/-- `canix_frame_send` -/
def frameSend (s : TxState) (frame : CanixFrame) (chip : Nat → Registers → Registers) : TxState :=
  frameSendWithPrio s ⟨frame, hcanPrioLow, chip⟩

/-! ## One call -/

/-- What a call should do: one of the two counters goes up by one, the counter
of sent frames exactly when a transmission of the frame was requested, and the
frame is delivered locally once. -/
structure Accounted (s : TxState) (call : SendCall) : Prop where
  once :
    ((frameSendWithPrio s call).txSent = s.txSent + 1 ∧
        (frameSendWithPrio s call).txDropped = s.txDropped) ∨
      ((frameSendWithPrio s call).txSent = s.txSent ∧
        (frameSendWithPrio s call).txDropped = s.txDropped + 1)
  sent :
    ((frameSendWithPrio s call).txSent = s.txSent + 1 ∧
        ∃ txIndex, (frameSendWithPrio s call).requested = s.requested ++
          [(txIndex, ⟨extId call.frame call.prio, call.frame.bytes⟩)]) ∨
      ((frameSendWithPrio s call).txSent = s.txSent ∧
        (frameSendWithPrio s call).requested = s.requested)
  delivered : (frameSendWithPrio s call).delivered = s.delivered ++ [call.frame]

/-- One of the reads of `can_any_sendable` shows a free buffer. -/
def FindsFree (s : TxState) (call : SendCall) : Prop :=
  (canAnySendable call.chip s.regs).1 = true

section

variable {s : TxState} {call : SendCall}

/-- `can_send_message` sends and counts, or drops and counts. -/
theorem sendMessage_cases (chip : Nat → Registers → Registers) (s : TxState) (id : UInt32)
    (data : List UInt8) (length : UInt8) :
    (∃ txIndex, sendMessage chip s id data length =
        { s with
          regs := loadBuffer (searchBuffer chip s.regs).2 txIndex id data length
          requested := s.requested ++ [(txIndex, ⟨id, data.take length.toNat⟩)]
          txSent := s.txSent + 1 }) ∨
      ((searchBuffer chip s.regs).1 = none ∧ sendMessage chip s id data length =
        { s with regs := (searchBuffer chip s.regs).2, txDropped := s.txDropped + 1 }) := by
  unfold sendMessage
  rcases searchBuffer chip s.regs with ⟨found, regs⟩
  cases found with
  | none => exact .inr ⟨rfl, rfl⟩
  | some txIndex => exact .inl ⟨txIndex, rfl⟩

theorem frameSendWithPrio_busy (h : ¬ FindsFree s call) :
    frameSendWithPrio s call =
      { s with
        regs := (canAnySendable call.chip s.regs).2
        delivered := s.delivered ++ [call.frame] } := by
  unfold FindsFree at h
  unfold frameSendWithPrio
  dsimp only
  rw [if_neg h]

theorem frameSendWithPrio_free (h : FindsFree s call) :
    frameSendWithPrio s call =
      let s' := sendMessage call.chip { s with regs := (canAnySendable call.chip s.regs).2 }
        (extId call.frame call.prio) call.frame.data.toList call.frame.size
      { s' with delivered := s'.delivered ++ [call.frame] } := by
  unfold FindsFree at h
  unfold frameSendWithPrio
  dsimp only
  rw [if_pos h]

/-- **A call is accounted for exactly if it finds a free buffer**: what the first
look rejects is counted nowhere. -/
theorem accounted_iff : Accounted s call ↔ FindsFree s call := by
  constructor
  · intro h
    by_contra hbusy
    have hone : (1 : UInt32) ≠ 0 := by decide
    have honce := h.once
    rw [frameSendWithPrio_busy hbusy] at honce
    rcases honce with ⟨hsent, -⟩ | ⟨-, hdropped⟩
    · exact hone (UInt32.left_eq_add.mp hsent)
    · exact hone (UInt32.left_eq_add.mp hdropped)
  · intro hfree
    have hsend := frameSendWithPrio_free hfree
    dsimp only at hsend
    rcases sendMessage_cases call.chip { s with regs := (canAnySendable call.chip s.regs).2 }
      (extId call.frame call.prio) call.frame.data.toList call.frame.size with
      ⟨txIndex, heq⟩ | ⟨-, heq⟩
    · rw [heq] at hsend
      constructor
      · exact .inl (by rw [hsend]; exact ⟨rfl, rfl⟩)
      · exact .inl (by rw [hsend]; exact ⟨rfl, txIndex, rfl⟩)
      · rw [hsend]
    · rw [heq] at hsend
      constructor
      · exact .inr (by rw [hsend]; exact ⟨rfl, rfl⟩)
      · exact .inr (by rw [hsend]; exact ⟨rfl, rfl⟩)
      · rw [hsend]

end

/-! ## The registers -/

/-- The search takes the buffer `freeBuffer` takes. -/
theorem searchBuffer_eq (chip : Nat → Registers → Registers) (regs : Registers) :
    freeBuffer (fun txIndex => (searchBuffer chip regs).1 == some txIndex) =
      (searchBuffer chip regs).1 := by
  unfold searchBuffer
  dsimp only
  split
  · rfl
  · split
    · rfl
    · split
      · rfl
      · rfl

/-- The registers after a call are those `canixFrameSendWithPrio` makes of what
the controller has left of them after the last read. -/
theorem frameSendWithPrio_regs (s : TxState) (call : SendCall) :
    (frameSendWithPrio s call).regs =
      let first := canAnySendable call.chip s.regs
      let second := searchBuffer call.chip first.2
      canixFrameSendWithPrio first.1 (fun txIndex => second.1 == some txIndex)
        (if first.1 then second.2 else first.2) call.frame call.prio := by
  by_cases hfree : FindsFree s call
  · have hany : (canAnySendable call.chip s.regs).1 = true := hfree
    rw [frameSendWithPrio_free hfree]
    unfold canixFrameSendWithPrio canSendMessage sendMessage
    dsimp only
    rw [if_pos hany, if_pos hany, searchBuffer_eq]
    rcases searchBuffer call.chip (canAnySendable call.chip s.regs).2 with ⟨found, regs⟩
    cases found with
    | none => rfl
    | some txIndex => rfl
  · have hany : ¬ (canAnySendable call.chip s.regs).1 = true := hfree
    rw [frameSendWithPrio_busy hfree]
    unfold canixFrameSendWithPrio
    dsimp only
    rw [if_neg hany, if_neg hany]

/-! ## Runs -/

/-- The accounting of a sequence of calls: every single call is accounted for,
the counter of sent frames is the number of requested transmissions, and every
frame is delivered once, in order. The counters are 32 bits wide. -/
structure TransmitAccounting (s : TxState) (calls : List SendCall) : Prop where
  each : Guarded frameSendWithPrio Accounted s calls
  sent :
    (run frameSendWithPrio s calls).txSent =
      s.txSent +
        UInt32.ofNat ((run frameSendWithPrio s calls).requested.length - s.requested.length)
  delivered :
    (run frameSendWithPrio s calls).delivered = s.delivered ++ calls.map SendCall.frame

/-- What holds of every call: the counter follows the requests, and the frame is
delivered. -/
theorem frameSendWithPrio_follows (s : TxState) (call : SendCall) :
    (∃ n, (frameSendWithPrio s call).requested.length = s.requested.length + n ∧
        (frameSendWithPrio s call).txSent = s.txSent + UInt32.ofNat n) ∧
      (frameSendWithPrio s call).delivered = s.delivered ++ [call.frame] := by
  by_cases hfree : FindsFree s call
  · have h := accounted_iff.mpr hfree
    refine ⟨?_, h.delivered⟩
    rcases h.sent with ⟨hsent, txIndex, hreq⟩ | ⟨hsent, hreq⟩
    · exact ⟨1, by rw [hreq, List.length_append]; rfl, hsent⟩
    · exact ⟨0, by rw [hreq]; rfl, by rw [hsent]; exact (UInt32.add_zero _).symm⟩
  · rw [frameSendWithPrio_busy hfree]
    exact ⟨⟨0, rfl, (UInt32.add_zero _).symm⟩, rfl⟩

theorem run_follows (calls : List SendCall) (s : TxState) :
    (∃ n, (run frameSendWithPrio s calls).requested.length = s.requested.length + n ∧
        (run frameSendWithPrio s calls).txSent = s.txSent + UInt32.ofNat n) ∧
      (run frameSendWithPrio s calls).delivered = s.delivered ++ calls.map SendCall.frame := by
  induction calls generalizing s with
  | nil =>
      rw [run_nil, List.map_nil, List.append_nil]
      exact ⟨⟨0, rfl, (UInt32.add_zero _).symm⟩, rfl⟩
  | cons call calls ih =>
      obtain ⟨⟨m, hreq, hsent⟩, hdel⟩ := frameSendWithPrio_follows s call
      obtain ⟨⟨n, hreqs, hsents⟩, hdels⟩ := ih (frameSendWithPrio s call)
      rw [run_cons]
      refine ⟨⟨m + n, ?_, ?_⟩, ?_⟩
      · rw [hreqs, hreq, Nat.add_assoc]
      · rw [hsents, hsent, UInt32.add_assoc, UInt32.ofNat_add]
      · rw [hdels, hdel, List.append_assoc, List.map_cons, List.singleton_append]

/-- **Transmit accounting**: a sequence of calls is accounted for exactly if
every call of it finds a free buffer in its first look. -/
theorem transmitAccounting_iff (calls : List SendCall) (s : TxState) :
    TransmitAccounting s calls ↔ Guarded frameSendWithPrio FindsFree s calls := by
  obtain ⟨⟨n, hreq, hsent⟩, hdel⟩ := run_follows calls s
  have heach : Guarded frameSendWithPrio Accounted s calls ↔
      Guarded frameSendWithPrio FindsFree s calls :=
    guarded_congr (fun _ _ => accounted_iff) calls s
  constructor
  · intro h
    exact heach.mp h.each
  · intro h
    refine ⟨heach.mpr h, ?_, hdel⟩
    rw [hsent, hreq, Nat.add_sub_cancel_left]

/-! ## The second look -/

/-- Buffer `txIndex` has nothing to send. -/
def Free (regs : Registers) (txIndex : Nat) : Prop :=
  regs (txb0ctrl + 16 * txIndex) &&& txreqBit = 0

/-- The controller may finish a transmission at any time, but starts none by
itself. -/
def OnlyFinishes (chip : Nat → Registers → Registers) : Prop :=
  ∀ k regs txIndex, Free regs txIndex → Free (chip k regs) txIndex

section

variable {chip : Nat → Registers → Registers}

theorem canSendable_fst (chip : Registers → Registers) (txIndex : Nat) (regs : Registers) :
    (canSendable chip txIndex regs).1 = true ↔ Free (chip regs) txIndex := by
  unfold canSendable Free
  simp

theorem canAnySendable_free {regs : Registers} (h : (canAnySendable chip regs).1 = true) :
    ∃ txIndex < 3, Free (canAnySendable chip regs).2 txIndex := by
  unfold canAnySendable at h ⊢
  dsimp only at h ⊢
  by_cases h0 : (canSendable (chip 0) 0 regs).1 = true
  · rw [if_pos h0]
    exact ⟨0, by decide, (canSendable_fst _ _ _).mp h0⟩
  rw [if_neg h0] at h ⊢
  by_cases h1 : (canSendable (chip 1) 1 (canSendable (chip 0) 0 regs).2).1 = true
  · rw [if_pos h1]
    exact ⟨1, by decide, (canSendable_fst _ _ _).mp h1⟩
  rw [if_neg h1] at h ⊢
  exact ⟨2, by decide, (canSendable_fst _ _ _).mp h⟩

/-- What the first look has found free is free in the search. -/
theorem searchBuffer_of_free (hchip : OnlyFinishes chip) {regs : Registers} {txIndex : Nat}
    (hlt : txIndex < 3) (hfree : Free regs txIndex) : (searchBuffer chip regs).1 ≠ none := by
  unfold searchBuffer
  dsimp only
  by_cases h0 : (canSendable (chip 3) 0 regs).1 = true
  · rw [if_pos h0]
    exact Option.some_ne_none 0
  rw [if_neg h0]
  by_cases h1 : (canSendable (chip 4) 1 (canSendable (chip 3) 0 regs).2).1 = true
  · rw [if_pos h1]
    exact Option.some_ne_none 1
  rw [if_neg h1]
  have h3 := hchip 3 regs txIndex hfree
  have h4 := hchip 4 _ txIndex h3
  rw [canSendable_fst] at h0 h1
  -- the two reads before have shown 0 and 1 busy
  have htwo : txIndex = 2 := by
    have hne0 : txIndex ≠ 0 := fun heq => h0 (heq ▸ h3)
    have hne1 : txIndex ≠ 1 := fun heq => h1 (heq ▸ h4)
    omega
  subst htwo
  have h5 : (canSendable (chip 5) 2
      (canSendable (chip 4) 1 (canSendable (chip 3) 0 regs).2).2).1 = true :=
    (canSendable_fst _ _ _).mpr (hchip 5 _ 2 h4)
  rw [if_pos h5]
  exact Option.some_ne_none 2

/-- **The counter of dropped frames never moves**: a frame that is not sent has
been rejected by the first look. -/
theorem txDropped_const (calls : List SendCall) (s : TxState)
    (hchip : ∀ call ∈ calls, OnlyFinishes call.chip) :
    (run frameSendWithPrio s calls).txDropped = s.txDropped := by
  have hstep : ∀ s' call, OnlyFinishes call.chip → s'.txDropped = s.txDropped →
      (frameSendWithPrio s' call).txDropped = s.txDropped := by
    intro s' call hcall hsame
    by_cases hfree : FindsFree s' call
    · obtain ⟨txIndex, hlt, hregs⟩ := canAnySendable_free hfree
      have hfound := searchBuffer_of_free hcall hlt hregs
      have hsend := frameSendWithPrio_free hfree
      dsimp only at hsend
      rcases sendMessage_cases call.chip { s' with regs := (canAnySendable call.chip s'.regs).2 }
        (extId call.frame call.prio) call.frame.data.toList call.frame.size with
        ⟨txIndex, heq⟩ | ⟨hnone, -⟩
      · rw [hsend, heq]
        exact hsame
      · exact absurd hnone hfound
    · rw [frameSendWithPrio_busy hfree]
      exact hsame
  exact run_guarded (I := fun s' => s'.txDropped = s.txDropped) hstep calls s
    (guarded_of_forall calls s hchip) rfl

end

/-! ### Four frames in a row -/

section Example

/-- A controller after its reset: all buffers are free. -/
private def nachReset : TxState where
  regs := fun _ => 0
  txSent := 0
  txDropped := 0
  requested := []
  delivered := []

/-- A call during which the bus is busy: the controller finishes nothing. -/
private def busBesetzt : SendCall where
  frame := ⟨2, hcanMulticastControl, hcanProtoSfp, 2, payload [hcanSrvHms, 1]⟩
  prio := hcanPrioLow
  chip := fun _ regs => regs

/-- **The fourth frame is counted nowhere**: three frames wait in the buffers, and
the first look rejects the next one. -/
theorem fourth_frame_not_counted :
    ¬ ∀ (s : TxState) (calls : List SendCall), (∀ call ∈ calls, OnlyFinishes call.chip) →
      TransmitAccounting s calls := by
  intro hall
  have hkeeps : ∀ call ∈ List.replicate 4 busBesetzt, OnlyFinishes call.chip := by
    intro call hcall
    rw [List.eq_of_mem_replicate hcall]
    intro k regs txIndex hfree
    exact hfree
  have hfourth := (hall nachReset (List.replicate 4 busBesetzt) hkeeps).each.2.2.2.1
  rw [accounted_iff] at hfourth
  revert hfourth
  unfold FindsFree
  decide

end Example

end OpenHcan.Mcp2515
