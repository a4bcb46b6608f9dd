import OpenHcan.Canix.Mcp2515

/-!
# RxBounds — the size of a received frame on the board

The size of a frame is the low half of the controller's DLC register, which a
foreign node may set to anything up to 15. It travels through five loops that
copy data bytes: from the controller into the interrupt's local array, from
there into a queue entry, from the entry into the frame of the main loop, and
in the boot loader from the controller into the frame. All arrays have eight
cells. The machine below is the receive path with every access checked; as
long as no frame says that it has more than eight bytes it does what the
machine of `RxQueue` does.
-/

namespace OpenHcan.Mcp2515

open OpenHcan.Lib OpenHcan.Lib.SlotPool OpenHcan.Rx

/-- `can_read_message` of the boot loader, which reads the data registers one
by one. -/
def blCanReadMessage (regs : Registers) (data : Vector UInt8 8) : Option ReadMessage := do
  let extended := collectId fun i => regs (rxb0sidh + i)
  let size := dlcSize (regs rxb0dlc)
  let data ← copyLoop (fun i => some (regs (rxb0d0 + i))) size.toNat data
  return ⟨extended, size, data⟩

/-- The receive branch of `ISR(TIMER0_OVF_vect)`, `data` being its local array. -/
def checkedIsr (s : RxState) (regs : Registers) (data : Vector UInt8 8) : Option RxState :=
  if mcp2515MessageAvailable regs then do
    let m ← mcp2515ReadMessage regs data
    if canixRxqSize s.queue < canixQueueSize then do
      let idx := canixRxqPutOne s.queue
      let cells ← copyLoop (fun i => m.data[i]?) m.size.toNat (s.queue.get idx).data
      return { s with
        queue := s.queue.set idx ⟨true, m.extended, m.size, cells⟩
        rxReceived := s.rxReceived + 1
        stored := s.stored ++ [m.message] }
    else
      return { s with rxLost := s.rxLost + 1, dropped := s.dropped ++ [m.message] }
  else some s

/-- `can_read_message` -/
def checkedReadMessage (q : RxQueue) (extended : UInt32) (data : Vector UInt8 8) :
    Option ReadResult :=
  if canixRxqSize q ≠ 0 then do
    let idx := canixRxqFetchOne q
    let e := q.get idx
    let cells ← copyLoop (fun i => e.data[i]?) e.size.toNat data
    return ⟨e.size, e.extended, cells, q.set idx { e with used := false }⟩
  else
    return ⟨0, extended, data, q⟩

/-- One step of `canix_process_messages`. -/
def checkedProcess (s : RxState) (extid : UInt32) (frame : CanixFrame) : Option RxState :=
  if s.reading then do
    let r ← checkedReadMessage s.queue extid frame.data
    return { s with
      queue := r.queue
      reading := false
      delivered := s.delivered ++ [⟨r.extended, decodeFrame r.extended r.size r.data⟩] }
  else
    some { s with reading := decide (canixRxqSize s.queue > 0) }

/-- An interrupt, with the registers of the controller and what is in its local
array, or the next step of the main loop, with the contents of its local
variables. -/
inductive BoardEvent where
  | isr (regs : Registers) (data : Vector UInt8 8)
  | main (extid : UInt32) (frame : CanixFrame)

def boardStep (s : RxState) : BoardEvent → Option RxState
  | .isr regs data => checkedIsr s regs data
  | .main extid frame => checkedProcess s extid frame

/-- A frame that waits in the controller says that it has at most 8 bytes. -/
def BoardEvent.SizeOk : BoardEvent → Prop
  | .isr regs _ => mcp2515MessageAvailable regs = true → (regs rxb0dlc).toNat % 16 ≤ 8
  | .main _ _ => True

/-- The event of the unchecked machine. -/
def BoardEvent.rxEvent : BoardEvent → RxEvent
  | .isr regs data =>
      .isr (if mcp2515MessageAvailable regs then
        (mcp2515ReadMessage regs data).map ReadMessage.message else none)
  | .main extid frame => .main extid frame

/-! ## The copies -/

theorem dlcSize_toNat (dlc : UInt8) : (dlcSize dlc).toNat = dlc.toNat % 16 := by
  unfold dlcSize
  rw [UInt8.toNat_and]
  exact and_lowMask dlc.toNat 4

/-- Reading from the controller stays inside exactly for at most 8 bytes. -/
theorem mcp2515ReadMessage_isSome_iff (regs : Registers) (data : Vector UInt8 8) :
    (mcp2515ReadMessage regs data).isSome ↔ (regs rxb0dlc).toNat % 16 ≤ 8 := by
  have hcopy := copyLoop_isSome_iff (fun i => some (regs (rxb0d0 + i)))
    (k := (dlcSize (regs rxb0dlc)).toNat) (fun i _ _ => rfl) data
  rw [← dlcSize_toNat, ← hcopy]
  simp only [mcp2515ReadMessage]
  cases copyLoop (fun i => some (regs (rxb0d0 + i))) (dlcSize (regs rxb0dlc)).toNat data <;>
    exact Iff.rfl

/-- The boot loader reads as the interrupt does. -/
theorem blCanReadMessage_eq : blCanReadMessage = mcp2515ReadMessage := rfl

/-- The first cells of an array, read one after the other. -/
theorem getElem?_cell (src : Vector UInt8 8) {k i : Nat} (hk : k ≤ 8) (hi : i < k) :
    src[i]? = some (src.toList.getD i 0) := by
  have hi8 : i < 8 := Nat.lt_of_lt_of_le hi hk
  simp [hi8]

/-- Copying the first cells of one array into another. -/
theorem copyLoop_cells {src dst : Vector UInt8 8} {k : Nat} (hk : k ≤ 8) :
    copyLoop (fun i => src[i]?) k dst = some (copyBytes dst (src.toList.take k)) := by
  rw [copyLoop_inside (fun i hi => getElem?_cell src hk hi) hk]
  congr 1
  ext i hi
  by_cases hik : i < k
  · simp [copyBytes, hik, hi, List.getElem?_take]
  · simp [copyBytes, hik, List.getElem?_take]

/-- A message that was read into the local array has its bytes there. -/
theorem mcp2515ReadMessage_eq {regs : Registers} (h : (regs rxb0dlc).toNat % 16 ≤ 8)
    (data : Vector UInt8 8) :
    ∃ m, mcp2515ReadMessage regs data = some m ∧ m.size.toNat ≤ 8 := by
  obtain ⟨m, hm⟩ := Option.isSome_iff_exists.mp ((mcp2515ReadMessage_isSome_iff regs data).mpr h)
  refine ⟨m, hm, ?_⟩
  simp only [mcp2515ReadMessage, Option.bind_eq_bind, Option.pure_def,
    Option.bind_eq_some_iff] at hm
  obtain ⟨cells, _, hm⟩ := hm
  cases hm
  rw [dlcSize_toNat]
  exact h

/-! ## The steps -/

theorem readMessage_length {m : ReadMessage} (h : m.size.toNat ≤ 8) :
    m.message.data.length = m.size.toNat := by
  show (m.data.toList.take m.size.toNat).length = m.size.toNat
  rw [List.length_take, Vector.length_toList]
  omega

/-- The interrupt's copy into a queue entry. -/
theorem store_message {m : ReadMessage} (h : m.size.toNat ≤ 8) (e : RxQueueEntry) :
    (copyLoop (fun i => m.data[i]?) m.size.toNat e.data).map
      (fun cells => (⟨true, m.extended, m.size, cells⟩ : RxQueueEntry))
      = some (e.store m.message) := by
  rw [copyLoop_cells h, Option.map_some]
  congr 1
  unfold RxQueueEntry.store
  rw [readMessage_length h, UInt8.ofNat_toNat]
  rfl

/-- **An interrupt** that finds no frame with more than 8 bytes does what the
machine does. -/
theorem checkedIsr_eq {regs : Registers} {data : Vector UInt8 8}
    (h : (BoardEvent.isr regs data).SizeOk) (s : RxState) :
    checkedIsr s regs data = some (rxStep s (BoardEvent.isr regs data).rxEvent) := by
  unfold checkedIsr
  by_cases havail : mcp2515MessageAvailable regs = true
  · obtain ⟨m, hm, hsize⟩ := mcp2515ReadMessage_eq (h havail) data
    have hevent : (BoardEvent.isr regs data).rxEvent = .isr (some m.message) := by
      simp [BoardEvent.rxEvent, havail, hm]
    rw [hevent, if_pos havail, hm]
    simp only [Option.bind_eq_bind, Option.bind_some, rxStep]
    by_cases hroom : canixRxqSize s.queue < canixQueueSize
    · have hstore := store_message hsize (s.queue.get (canixRxqPutOne s.queue))
      rw [copyLoop_cells hsize, Option.map_some, Option.some.injEq] at hstore
      rw [if_pos hroom, timerIsr_room hroom, ← hstore, copyLoop_cells hsize]
      rfl
    · rw [if_neg hroom, timerIsr_full hroom]
      rfl
  · have hevent : (BoardEvent.isr regs data).rxEvent = .isr none := by
      simp [BoardEvent.rxEvent, havail]
    rw [hevent, if_neg havail]
    rfl

/-- An interrupt that finds a larger frame leaves its local array. -/
theorem checkedIsr_none {regs : Registers} {data : Vector UInt8 8}
    (h : ¬ (BoardEvent.isr regs data).SizeOk) (s : RxState) : checkedIsr s regs data = none := by
  obtain ⟨havail, hsize⟩ := Classical.not_imp.mp h
  have hread : mcp2515ReadMessage regs data = none := by
    rw [← Option.not_isSome_iff_eq_none, mcp2515ReadMessage_isSome_iff]
    exact hsize
  unfold checkedIsr
  rw [if_pos havail, hread]
  rfl

/-- The entry that is read next holds at most 8 bytes. -/
theorem get_fetchOne_size {q : RxQueue} (hok : q.SizesOk) (hne : canixRxqSize q ≠ 0) :
    (q.get (canixRxqFetchOne q)).size.toNat ≤ 8 := by
  obtain ⟨pre, b, post, hl, hidx, hb, _⟩ := exists_fetchOne hne
  unfold RxQueue.get
  rw [hidx, hl, getD_first]
  exact hok b (by rw [hl]; simp) hb

/-- **A step of the main loop** stays inside its arrays: the entries hold at
most 8 bytes. -/
theorem checkedProcess_eq {s : RxState} (hi : RxInv s) (extid : UInt32) (frame : CanixFrame) :
    checkedProcess s extid frame = some (processStep s extid frame) := by
  unfold checkedProcess
  by_cases hreading : s.reading = true
  · have hne := hi.reading hreading
    have hread : checkedReadMessage s.queue extid frame.data
        = some (canReadMessage s.queue extid frame.data) := by
      unfold checkedReadMessage canReadMessage
      rw [if_pos hne, if_pos hne]
      simp only [copyLoop_cells (get_fetchOne_size hi.sizes hne), Option.bind_eq_bind,
        Option.bind_some, Option.pure_def]
    rw [if_pos hreading, hread]
    exact congrArg some (if_pos hreading).symm
  · rw [if_neg hreading, processStep_testing hreading]

theorem boardStep_eq {s : RxState} (hi : RxInv s) {e : BoardEvent} (h : e.SizeOk) :
    boardStep s e = some (rxStep s e.rxEvent) := by
  cases e with
  | isr regs data => exact checkedIsr_eq h s
  | main extid frame => exact checkedProcess_eq hi extid frame

theorem boardStep_none {s : RxState} {e : BoardEvent} (h : ¬ e.SizeOk) : boardStep s e = none := by
  cases e with
  | isr regs data => exact checkedIsr_none h s
  | main extid frame => exact absurd trivial h

/-- **As long as no frame has more than 8 bytes** the checked machine is the
machine of the queue. -/
theorem boardRun_eq {es : List BoardEvent} (h : ∀ e ∈ es, e.SizeOk) :
    tryRun boardStep rxInit es = some (run rxStep rxInit (es.map BoardEvent.rxEvent)) :=
  tryRun_follows (I := RxInv) (P := BoardEvent.SizeOk) (f := BoardEvent.rxEvent) rxInv_step
    (fun _ _ hi hP => boardStep_eq hi hP) es rxInit rxInv_init h

/-- **A received frame stays inside the arrays** in the interrupt, the queue
and the main loop, and in the boot loader, exactly if the DLC registers of the
frames that are read say at most 8. -/
theorem rx_in_bounds_iff (es : List BoardEvent) (regs : Registers) (data : Vector UInt8 8) :
    ((tryRun boardStep rxInit es).isSome ↔ ∀ e ∈ es, e.SizeOk) ∧
      ((blCanReadMessage regs data).isSome ↔ (regs rxb0dlc).toNat % 16 ≤ 8) :=
  ⟨tryRun_isSome_iff (I := RxInv) (P := BoardEvent.SizeOk) (f := BoardEvent.rxEvent) rxInv_step
      (fun _ _ hi hP => boardStep_eq hi hP) (fun _ _ _ hP => boardStep_none hP) es rxInit
      rxInv_init,
    mcp2515ReadMessage_isSome_iff regs data⟩

section LargeFrame

/-- A controller that has received an extended frame whose DLC is 9. -/
def largeDlc : Registers := fun a => if a = canintf then 1 else if a = rxb0dlc then 9 else 0

/-- **Nine bytes**: a frame with DLC 9 leaves the arrays, in the interrupt and
in the boot loader. -/
theorem rx_out_of_bounds :
    ¬ ∀ (es : List BoardEvent) (regs : Registers) (data : Vector UInt8 8),
      (tryRun boardStep rxInit es).isSome ∧ (blCanReadMessage regs data).isSome := by
  intro hall
  have hrun := hall [.isr largeDlc (Vector.replicate 8 0)] largeDlc (Vector.replicate 8 0)
  revert hrun
  decide

end LargeFrame

end OpenHcan.Mcp2515
