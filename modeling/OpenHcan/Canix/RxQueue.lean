import Mathlib.Data.Multiset.AddSub
import OpenHcan.Canix.Frame
import OpenHcan.Lib.Machine
import OpenHcan.Lib.SlotPool

/-!
# RxQueue — from the receive interrupt to the frame callbacks

The RX queue of `canix/canix.c` and its two users: the timer interrupt,
which stores what `mcp2515_read_message` returned, and the main loop, which
takes frames out with `can_read_message` and hands them to
`canix_deliver_frame`. Both run with interrupts off, so the machine below
interleaves them freely; the test `can_message_available` and the read that
follows it are two steps of the main loop, with room for interrupts in
between.

Left out: the clock half of the interrupt and the callbacks themselves.
-/

namespace OpenHcan.Rx

open OpenHcan.Lib OpenHcan.Lib.SlotPool

/-- What `mcp2515_read_message` returns: identifier and at most 8 data bytes. -/
structure CanMessage where
  extended : UInt32
  data : List UInt8
  length_le : data.length ≤ 8
deriving DecidableEq, Repr

/-! ## The queue -/

/-- `canix_rx_queue_entry_t` -/
structure RxQueueEntry where
  used : Bool
  extended : UInt32
  size : UInt8
  data : Vector UInt8 8
deriving DecidableEq, Repr

def canixQueueSize : Nat := 12

/-- `canix_rx_queue` -/
structure RxQueue where
  slots : List RxQueueEntry
  length_eq : slots.length = canixQueueSize

/-- A zeroed entry. -/
def emptyEntry : RxQueueEntry := ⟨false, 0, 0, Vector.replicate 8 0⟩

/-- The queue as the startup code leaves it. -/
def emptyQueue : RxQueue := ⟨List.replicate canixQueueSize emptyEntry, List.length_replicate⟩

def RxQueue.get (q : RxQueue) (idx : Nat) : RxQueueEntry := q.slots.getD idx emptyEntry

def RxQueue.set (q : RxQueue) (idx : Nat) (e : RxQueueEntry) : RxQueue :=
  ⟨q.slots.set idx e, List.length_set.trans q.length_eq⟩

/-- `canix_rxq_size` -/
def canixRxqSize (q : RxQueue) : Nat := q.slots.countP fun e => e.used

/-- `canix_rxq_fetch_one` -/
def canixRxqFetchOne (q : RxQueue) : Nat := (q.slots.findIdx? fun e => e.used).getD 0

/-- `canix_rxq_put_one` -/
def canixRxqPutOne (q : RxQueue) : Nat := (q.slots.findIdx? fun e => !e.used).getD 0

/-- The copying loop `for (i = 0; i < size; i++) dst[i] = src[i]`. -/
def copyBytes (dst : Vector UInt8 8) (src : List UInt8) : Vector UInt8 8 :=
  Vector.ofFn fun i => src.getD i dst[i]

/-- The entry after the interrupt has stored `msg` in it. -/
def RxQueueEntry.store (e : RxQueueEntry) (msg : CanMessage) : RxQueueEntry where
  used := true
  extended := msg.extended
  size := UInt8.ofNat msg.data.length
  data := copyBytes e.data msg.data

/-- What `can_read_message` returns, writes through its pointers and leaves in
the queue. -/
structure ReadResult where
  size : UInt8
  extended : UInt32
  data : Vector UInt8 8
  queue : RxQueue

/-- `can_read_message`, `extended` and `data` being the caller's variables. -/
def canReadMessage (q : RxQueue) (extended : UInt32) (data : Vector UInt8 8) : ReadResult :=
  if canixRxqSize q ≠ 0 then
    let idx := canixRxqFetchOne q
    let e := q.get idx
    { size := e.size
      extended := e.extended
      data := copyBytes data (e.data.toList.take e.size.toNat)
      queue := q.set idx { e with used := false } }
  else
    { size := 0, extended := extended, data := data, queue := q }

/-! ## The machine -/

/-- One call of `canix_deliver_frame`: the frame, and the identifier it was
decoded from. -/
structure Delivery where
  extid : UInt32
  frame : CanixFrame

/-- The board between two atomic steps. `reading` says that the main loop has
seen `can_message_available` and will read next; the last three components
are logs, oldest entry first. -/
structure RxState where
  queue : RxQueue
  rxReceived : UInt32
  rxLost : UInt32
  reading : Bool
  stored : List CanMessage
  dropped : List CanMessage
  delivered : List Delivery

def rxInit : RxState := ⟨emptyQueue, 0, 0, false, [], [], []⟩

/-- An interrupt, with the message the controller holds, or the next step of
the main loop, with the contents of its uninitialised variables. -/
inductive RxEvent
  | isr (message : Option CanMessage)
  | main (extid : UInt32) (frame : CanixFrame)

/-- The receive branch of `ISR(TIMER0_OVF_vect)`. -/
def timerIsr (s : RxState) : Option CanMessage → RxState
  | none => s
  | some msg =>
      if canixRxqSize s.queue < canixQueueSize then
        let idx := canixRxqPutOne s.queue
        { s with
          queue := s.queue.set idx ((s.queue.get idx).store msg)
          rxReceived := s.rxReceived + 1
          stored := s.stored ++ [msg] }
      else
        { s with rxLost := s.rxLost + 1, dropped := s.dropped ++ [msg] }

def addrMask : UInt32 := 0x3ff
def protoMask : UInt32 := 0x7

/-- The frame `canix_process_messages` builds from what it has read. -/
def decodeFrame (extid : UInt32) (size : UInt8) (data : Vector UInt8 8) : CanixFrame where
  src := (extid &&& addrMask).toUInt16
  dst := ((extid >>> 10) &&& addrMask).toUInt16
  proto := ((extid >>> 20) &&& protoMask).toUInt8
  size := size
  data := data

/-- One step of `canix_process_messages`: the test, or reading and delivering. -/
def processStep (s : RxState) (extid : UInt32) (frame : CanixFrame) : RxState :=
  if s.reading then
    let r := canReadMessage s.queue extid frame.data
    { s with
      queue := r.queue
      reading := false
      delivered := s.delivered ++ [⟨r.extended, decodeFrame r.extended r.size r.data⟩] }
  else
    { s with reading := decide (canixRxqSize s.queue > 0) }

def rxStep (s : RxState) : RxEvent → RxState
  | .isr message => timerIsr s message
  | .main extid frame => processStep s extid frame

/-- The messages the interrupts of a run have read from the controller. -/
def received (es : List RxEvent) : List CanMessage :=
  es.filterMap fun e =>
    match e with
    | .isr message => message
    | .main _ _ => none

/-! ## The queue as a pool of messages -/

theorem length_take_cells (v : Vector UInt8 8) (n : Nat) : (v.toList.take n).length ≤ 8 := by
  rw [List.length_take, Vector.length_toList]
  exact Nat.min_le_right n 8

/-- The message in an entry. -/
def RxQueueEntry.message? (e : RxQueueEntry) : Option CanMessage :=
  if e.used then
    some ⟨e.extended, e.data.toList.take e.size.toNat, length_take_cells _ _⟩
  else none

/-- The messages in the queue, lowest index first. -/
def RxQueue.contents (q : RxQueue) : List CanMessage :=
  SlotPool.contents RxQueueEntry.message? q.slots

/-- The message a delivered frame carries. -/
def Delivery.message (d : Delivery) : CanMessage :=
  ⟨d.extid, d.frame.bytes, length_take_cells _ _⟩

theorem message?_isSome (e : RxQueueEntry) : e.message?.isSome = e.used := by
  unfold RxQueueEntry.message?
  cases e.used <;> rfl

theorem message?_eq_none {e : RxQueueEntry} (h : e.used = false) : e.message? = none := by
  simp [RxQueueEntry.message?, h]

theorem canixRxqSize_eq (q : RxQueue) : canixRxqSize q = q.contents.length := by
  unfold canixRxqSize RxQueue.contents
  rw [length_contents]
  exact List.countP_congr fun e _ => by rw [message?_isSome]

/-- The queue has room exactly if some entry is not used. -/
theorem canixRxqSize_lt_iff (q : RxQueue) :
    canixRxqSize q < canixQueueSize ↔ ∃ e ∈ q.slots, e.used = false := by
  have hle : q.slots.countP (fun e => e.used) ≤ q.slots.length := List.countP_le_length
  have hfull : q.slots.countP (fun e => e.used) = q.slots.length ↔ ∀ e ∈ q.slots, e.used = true :=
    List.countP_eq_length
  rw [q.length_eq] at hle hfull
  unfold canixRxqSize
  constructor
  · intro hlt
    by_contra hno
    simp only [not_exists, not_and, Bool.not_eq_false] at hno
    have := hfull.mpr hno
    omega
  · rintro ⟨e, he, hfree⟩
    by_contra hge
    have := hfull.mp (by omega) e he
    rw [hfree] at this
    exact Bool.noConfusion this

theorem copyBytes_take {src : List UInt8} (hlen : src.length ≤ 8) (dst : Vector UInt8 8) :
    (copyBytes dst src).toList.take src.length = src := by
  apply List.ext_getElem
  · simp [hlen]
  · intro i h1 h2
    simp [copyBytes, h2]

/-- What the interrupt stores is the message in the entry. -/
theorem store_message? (e : RxQueueEntry) (msg : CanMessage) :
    (e.store msg).message? = some msg := by
  have hsize : (UInt8.ofNat msg.data.length).toNat = msg.data.length := by
    rw [UInt8.toNat_ofNat']
    exact Nat.mod_eq_of_lt (by have := msg.length_le; omega)
  simp only [RxQueueEntry.message?, RxQueueEntry.store, hsize, if_true,
    copyBytes_take msg.length_le]

/-- Storing at `canix_rxq_put_one` overwrites the first free entry. -/
theorem exists_putOne {q : RxQueue} (hroom : canixRxqSize q < canixQueueSize) (msg : CanMessage) :
    ∃ pre b post, q.slots = pre ++ b :: post ∧ b.used = false ∧
      (q.set (canixRxqPutOne q) ((q.get (canixRxqPutOne q)).store msg)).slots
        = pre ++ b.store msg :: post := by
  obtain ⟨e, he, hfree⟩ := (canixRxqSize_lt_iff q).mp hroom
  obtain ⟨pre, b, post, hl, hidx, hb, _⟩ :=
    exists_first (l := q.slots) (p := fun e => !e.used) ⟨e, he, by simp [hfree]⟩
  have hput : canixRxqPutOne q = pre.length := by
    rw [canixRxqPutOne, hidx, Option.getD_some]
  refine ⟨pre, b, post, hl, by simpa using hb, ?_⟩
  show q.slots.set (canixRxqPutOne q)
    ((q.slots.getD (canixRxqPutOne q) emptyEntry).store msg) = _
  rw [hput, hl, getD_first, set_first]

/-- The entry `canix_rxq_fetch_one` picks: the first used one. -/
theorem exists_fetchOne {q : RxQueue} (hne : canixRxqSize q ≠ 0) :
    ∃ pre b post, q.slots = pre ++ b :: post ∧ canixRxqFetchOne q = pre.length ∧
      b.used = true ∧ ∀ e ∈ pre, e.used = false := by
  have hpos : 0 < q.slots.countP fun e => e.used := Nat.pos_of_ne_zero hne
  obtain ⟨pre, b, post, hl, hidx, hb, hpre⟩ := exists_first (List.countP_pos_iff.mp hpos)
  exact ⟨pre, b, post, hl, by rw [canixRxqFetchOne, hidx, Option.getD_some], hb, hpre⟩

/-! ## What one step does -/

/-- A stored message joins the pool. -/
theorem contents_put_perm {q : RxQueue} (hroom : canixRxqSize q < canixQueueSize)
    (msg : CanMessage) :
    (q.set (canixRxqPutOne q) ((q.get (canixRxqPutOne q)).store msg)).contents.Perm
      (msg :: q.contents) := by
  obtain ⟨pre, b, post, hl, hb, hput⟩ := exists_putOne hroom msg
  unfold RxQueue.contents
  rw [hput, hl]
  exact SlotPool.contents_put_perm (message?_eq_none hb) (store_message? b msg)

/-- No used entry lies behind a free one. -/
def RxQueue.Packed (q : RxQueue) : Prop :=
  q.slots.Pairwise fun e e' => e'.used = true → e.used = true

/-- If no used entry lies behind a free one, it joins at the back. -/
theorem contents_put_packed {q : RxQueue} (hpacked : q.Packed)
    (hroom : canixRxqSize q < canixQueueSize) (msg : CanMessage) :
    (q.set (canixRxqPutOne q) ((q.get (canixRxqPutOne q)).store msg)).contents
      = q.contents ++ [msg] := by
  have hpool : SlotPool.Packed RxQueueEntry.message? q.slots := by
    refine hpacked.imp fun {e e'} himp => ?_
    rw [message?_isSome, message?_isSome]
    exact himp
  obtain ⟨pre, b, post, hl, hb, hput⟩ := exists_putOne hroom msg
  unfold RxQueue.contents
  rw [hl] at hpool
  rw [hput, hl]
  exact SlotPool.contents_put_packed hpool (message?_eq_none hb) (store_message? b msg)

/-- Used entries hold at most 8 bytes. -/
def RxQueue.SizesOk (q : RxQueue) : Prop := ∀ e ∈ q.slots, e.used = true → e.size.toNat ≤ 8

theorem sizesOk_put {q : RxQueue} (hok : q.SizesOk) (idx : Nat) (e : RxQueueEntry)
    (msg : CanMessage) : (q.set idx (e.store msg)).SizesOk := by
  intro e' he' hused
  rcases List.mem_or_eq_of_mem_set he' with hmem | rfl
  · exact hok e' hmem hused
  · have hlen := msg.length_le
    show (UInt8.ofNat msg.data.length).toNat ≤ 8
    rw [UInt8.toNat_ofNat']
    omega

/-- **A read takes the first message out of the pool**, with its identifier,
its size and its bytes. -/
theorem canReadMessage_spec {q : RxQueue} (hok : q.SizesOk) (hne : canixRxqSize q ≠ 0)
    (extended : UInt32) (data : Vector UInt8 8) :
    let r := canReadMessage q extended data
    ∃ msg, q.contents = msg :: r.queue.contents ∧ r.queue.SizesOk ∧ r.extended = msg.extended ∧
      r.size.toNat = msg.data.length ∧ r.data.toList.take r.size.toNat = msg.data := by
  obtain ⟨pre, b, post, hl, hidx, hb, hpre⟩ := exists_fetchOne hne
  have hsize : b.size.toNat ≤ 8 := hok b (by rw [hl]; simp) hb
  have hlen : (b.data.toList.take b.size.toNat).length = b.size.toNat := by
    rw [List.length_take, Vector.length_toList]
    omega
  have hget : q.get (canixRxqFetchOne q) = b := by
    unfold RxQueue.get
    rw [hidx, hl, getD_first]
  have hset : (q.set (canixRxqFetchOne q) { b with used := false }).slots
      = pre ++ { b with used := false } :: post := by
    show q.slots.set _ _ = _
    rw [hidx, hl, set_first]
  unfold canReadMessage
  rw [if_pos hne]
  simp only [hget]
  refine ⟨⟨b.extended, b.data.toList.take b.size.toNat, length_take_cells _ _⟩, ?_, ?_, rfl,
    hlen.symm, ?_⟩
  · unfold RxQueue.contents
    rw [hset, hl]
    refine contents_fetch (fun e he => message?_eq_none (hpre e he)) ?_ (message?_eq_none rfl)
    simp [RxQueueEntry.message?, hb]
  · intro e he hused
    rw [hset] at he
    rcases List.mem_append.mp he with hmem | hmem
    · exact hok e (by rw [hl]; simp [hmem]) hused
    · rcases List.mem_cons.mp hmem with rfl | hmem'
      · exact absurd hused Bool.false_ne_true
      · exact hok e (by rw [hl]; simp [hmem']) hused
  · have hcopy := copyBytes_take (length_take_cells b.data b.size.toNat) data
    rwa [hlen] at hcopy

/-! ## Conservation -/

/-- What holds between any two atomic steps. -/
structure RxInv (s : RxState) : Prop where
  sizes : s.queue.SizesOk
  reading : s.reading = true → canixRxqSize s.queue ≠ 0
  conserve : (s.delivered.map Delivery.message ++ s.queue.contents).Perm s.stored
  decoded : ∀ d ∈ s.delivered, d.frame = decodeFrame d.extid d.frame.size d.frame.data ∧
    d.frame.size.toNat = d.message.data.length
  counted : s.rxReceived = UInt32.ofNat s.stored.length
  lost : s.rxLost = UInt32.ofNat s.dropped.length

theorem rxInv_init : RxInv rxInit where
  sizes := by
    intro e he hused
    rw [List.eq_of_mem_replicate he] at hused
    exact absurd hused Bool.false_ne_true
  reading := by simp [rxInit]
  conserve := by decide
  decoded := by simp [rxInit]
  counted := rfl
  lost := rfl

theorem counter_succ {α : Type} (l : List α) (a : α) :
    UInt32.ofNat l.length + 1 = UInt32.ofNat (l ++ [a]).length := by
  rw [List.length_append, List.length_singleton, UInt32.ofNat_add]
  rfl

theorem timerIsr_room {s : RxState} (hroom : canixRxqSize s.queue < canixQueueSize)
    (msg : CanMessage) :
    timerIsr s (some msg) =
      { s with
        queue := s.queue.set (canixRxqPutOne s.queue)
          ((s.queue.get (canixRxqPutOne s.queue)).store msg)
        rxReceived := s.rxReceived + 1
        stored := s.stored ++ [msg] } := if_pos hroom

theorem timerIsr_full {s : RxState} (hfull : ¬ canixRxqSize s.queue < canixQueueSize)
    (msg : CanMessage) :
    timerIsr s (some msg) = { s with rxLost := s.rxLost + 1, dropped := s.dropped ++ [msg] } :=
  if_neg hfull

theorem rxInv_isr {s : RxState} (hi : RxInv s) (message : Option CanMessage) :
    RxInv (timerIsr s message) := by
  cases message with
  | none => exact hi
  | some msg =>
      by_cases hroom : canixRxqSize s.queue < canixQueueSize
      · have hput := contents_put_perm hroom msg
        rw [timerIsr_room hroom]
        refine ⟨sizesOk_put hi.sizes _ _ msg, fun _ => ?_, ?_, hi.decoded, ?_, hi.lost⟩
        · rw [canixRxqSize_eq, hput.length_eq, List.length_cons]
          exact Nat.succ_ne_zero _
        · have hfront := (hput.append_left (s.delivered.map Delivery.message)).trans
            List.perm_middle
          have hback := (hi.conserve.cons msg).trans (List.perm_append_singleton msg s.stored).symm
          exact hfront.trans hback
        · show s.rxReceived + 1 = _
          rw [hi.counted, counter_succ]
      · rw [timerIsr_full hroom]
        refine ⟨hi.sizes, hi.reading, hi.conserve, hi.decoded, hi.counted, ?_⟩
        show s.rxLost + 1 = _
        rw [hi.lost, counter_succ]

/-- **The main loop's read** delivers the first message of the pool. -/
theorem processStep_reading {s : RxState} (hi : RxInv s) (hreading : s.reading = true)
    (extid : UInt32) (frame : CanixFrame) :
    ∃ (d : Delivery) (q : RxQueue),
      processStep s extid frame =
        { s with queue := q, reading := false, delivered := s.delivered ++ [d] } ∧
      s.queue.contents = d.message :: q.contents ∧ q.SizesOk ∧
      d.frame = decodeFrame d.extid d.frame.size d.frame.data ∧
      d.frame.size.toNat = d.message.data.length := by
  obtain ⟨msg, hcont, hsizes, hext, hsize, hbytes⟩ :=
    canReadMessage_spec hi.sizes (hi.reading hreading) extid frame.data
  have hmsg : Delivery.message ⟨(canReadMessage s.queue extid frame.data).extended,
      decodeFrame (canReadMessage s.queue extid frame.data).extended
        (canReadMessage s.queue extid frame.data).size
        (canReadMessage s.queue extid frame.data).data⟩ = msg := by
    cases msg
    simp only [Delivery.message, CanixFrame.bytes, decodeFrame, hbytes, hext]
  refine ⟨_, _, if_pos hreading, ?_, hsizes, rfl, ?_⟩
  · rw [hmsg, hcont]
  · rw [hmsg]
    exact hsize

theorem processStep_testing {s : RxState} (hreading : ¬ s.reading = true) (extid : UInt32)
    (frame : CanixFrame) :
    processStep s extid frame = { s with reading := decide (canixRxqSize s.queue > 0) } :=
  if_neg hreading

theorem rxInv_process {s : RxState} (hi : RxInv s) (extid : UInt32) (frame : CanixFrame) :
    RxInv (processStep s extid frame) := by
  by_cases hreading : s.reading = true
  · obtain ⟨d, q, hstep, hcont, hsizes, hdec⟩ := processStep_reading hi hreading extid frame
    rw [hstep]
    refine ⟨hsizes, by simp, ?_, ?_, hi.counted, hi.lost⟩
    · have hcons := hi.conserve
      rw [hcont] at hcons
      simpa [List.map_append] using hcons
    · intro d' hd'
      rcases List.mem_append.mp hd' with hold | hnew
      · exact hi.decoded d' hold
      · rw [List.mem_singleton] at hnew
        subst hnew
        exact hdec
  · rw [processStep_testing hreading]
    refine ⟨hi.sizes, fun h => ?_, hi.conserve, hi.decoded, hi.counted, hi.lost⟩
    have hpos : canixRxqSize s.queue > 0 := of_decide_eq_true h
    exact Nat.pos_iff_ne_zero.mp hpos

theorem rxInv_step (s : RxState) (e : RxEvent) (hi : RxInv s) : RxInv (rxStep s e) := by
  cases e with
  | isr message => exact rxInv_isr hi message
  | main extid frame => exact rxInv_process hi extid frame

theorem rxInv_run (es : List RxEvent) : RxInv (run rxStep rxInit es) :=
  run_invariant rxInv_step es rxInit rxInv_init

/-- Every message read from the controller is logged once, as stored or as
dropped. -/
theorem rxStep_logs (s : RxState) (e : RxEvent) :
    ((rxStep s e).stored ++ (rxStep s e).dropped).Perm
      (s.stored ++ s.dropped ++ received [e]) := by
  cases e with
  | main extid frame =>
      have hlogs : (processStep s extid frame).stored = s.stored ∧
          (processStep s extid frame).dropped = s.dropped := by
        unfold processStep
        split <;> exact ⟨rfl, rfl⟩
      simp [rxStep, received, hlogs.1, hlogs.2]
  | isr message =>
      cases message with
      | none => simp [rxStep, timerIsr, received]
      | some msg =>
          by_cases hroom : canixRxqSize s.queue < canixQueueSize
          · simp only [rxStep, timerIsr_room hroom, received, List.filterMap_cons,
              List.filterMap_nil, List.append_assoc]
            exact List.perm_append_comm.append_left s.stored
          · simp [rxStep, timerIsr_full hroom, received]

theorem run_logs (es : List RxEvent) (s : RxState) :
    ((run rxStep s es).stored ++ (run rxStep s es).dropped).Perm
      (s.stored ++ s.dropped ++ received es) := by
  induction es generalizing s with
  | nil => simp [received]
  | cons e es ih =>
      have hsplit : received (e :: es) = received [e] ++ received es := by
        unfold received
        rw [← List.filterMap_append]
        rfl
      rw [run_cons, hsplit, ← List.append_assoc]
      exact (ih (rxStep s e)).trans ((rxStep_logs s e).append_right _)

/-- The interrupt drops a message exactly when every entry is used. -/
theorem timerIsr_drops_iff (s : RxState) (msg : CanMessage) :
    (timerIsr s (some msg)).dropped = s.dropped ++ [msg] ↔ ∀ e ∈ s.queue.slots, e.used = true := by
  by_cases hroom : canixRxqSize s.queue < canixQueueSize
  · obtain ⟨e, he, hfree⟩ := (canixRxqSize_lt_iff s.queue).mp hroom
    rw [timerIsr_room hroom]
    refine iff_of_false (by simp) fun hall => ?_
    rw [hall e he] at hfree
    exact Bool.noConfusion hfree
  · rw [timerIsr_full hroom]
    refine iff_of_true rfl fun e he => ?_
    by_contra hfree
    exact hroom ((canixRxqSize_lt_iff s.queue).mpr ⟨e, he, by simpa using hfree⟩)

/-- **No message is lost, invented or delivered twice**: what the controller
handed over is what was delivered, what is still queued and what was dropped
for want of a free entry, and the two counters count it. -/
theorem rx_conservation (es : List RxEvent) :
    let s := run rxStep rxInit es
    (received es : Multiset CanMessage)
        = (s.delivered.map Delivery.message : Multiset CanMessage) + s.queue.contents + s.dropped ∧
      (∀ d ∈ s.delivered, d.frame = decodeFrame d.extid d.frame.size d.frame.data ∧
        d.frame.size.toNat = d.message.data.length) ∧
      (∀ msg, (timerIsr s (some msg)).dropped = s.dropped ++ [msg] ↔
        ∀ e ∈ s.queue.slots, e.used = true) ∧
      s.rxReceived = UInt32.ofNat (s.delivered.length + s.queue.contents.length) ∧
      s.rxLost = UInt32.ofNat s.dropped.length := by
  intro s
  have hi := rxInv_run es
  have hlogs := run_logs es rxInit
  refine ⟨?_, hi.decoded, timerIsr_drops_iff s, ?_, hi.lost⟩
  · rw [Multiset.coe_add, Multiset.coe_add, Multiset.coe_eq_coe]
    have hread : (s.stored ++ s.dropped).Perm (received es) := hlogs
    exact hread.symm.trans (hi.conserve.symm.append_right s.dropped)
  · have hlen := hi.conserve.length_eq
    rw [List.length_append, List.length_map] at hlen
    rw [hlen]
    exact hi.counted

/-! ## Order -/

/-- The deliveries and the queue are what was stored, in that order. -/
def RxFifo (s : RxState) : Prop :=
  RxInv s ∧ s.delivered.map Delivery.message ++ s.queue.contents = s.stored

/-- An interrupt that stores a message finds no used entry behind a free one. -/
def StoresBehind (s : RxState) (e : RxEvent) : Prop :=
  ∀ msg, e = .isr (some msg) → canixRxqSize s.queue < canixQueueSize → s.queue.Packed

theorem rxFifo_step (s : RxState) (e : RxEvent) (hg : StoresBehind s e) (hf : RxFifo s) :
    RxFifo (rxStep s e) := by
  obtain ⟨hi, horder⟩ := hf
  refine ⟨rxInv_step s e hi, ?_⟩
  cases e with
  | isr message =>
      cases message with
      | none => exact horder
      | some msg =>
          by_cases hroom : canixRxqSize s.queue < canixQueueSize
          · have hput := contents_put_packed (hg msg rfl hroom) hroom msg
            simp only [rxStep, timerIsr_room hroom]
            rw [hput, ← List.append_assoc, horder]
          · simp only [rxStep, timerIsr_full hroom]
            exact horder
  | main extid frame =>
      by_cases hreading : s.reading = true
      · obtain ⟨d, q, hstep, hcont, _⟩ := processStep_reading hi hreading extid frame
        simp only [rxStep, hstep]
        rw [← horder, hcont, List.map_append, List.append_assoc]
        rfl
      · simp only [rxStep, processStep_testing hreading]
        exact horder

/-- **First in, first out**, as long as every interrupt that stores a message
finds no used entry behind a free one: what has been delivered is what was
stored first. -/
theorem rx_fifo (es : List RxEvent) (hg : Guarded rxStep StoresBehind rxInit es) :
    (run rxStep rxInit es).delivered.map Delivery.message <+: (run rxStep rxInit es).stored := by
  have hinit : RxFifo rxInit := ⟨rxInv_init, by decide⟩
  have hf := run_guarded rxFifo_step es rxInit hg hinit
  exact ⟨_, hf.2⟩

section Reordering

/-- A message with one data byte. -/
def oneByte (extended : UInt32) (byte : UInt8) : CanMessage := ⟨extended, [byte], by simp⟩

/-- What the local variables of `canix_process_messages` hold before a read. -/
def stackFrame : CanixFrame := ⟨0, 0, 0, 0, Vector.replicate 8 0⟩

theorem rx_fifo_two :
    (run rxStep rxInit [.isr (some (oneByte 1 1)), .isr (some (oneByte 2 2)),
        .main 0 stackFrame, .main 0 stackFrame]).delivered.map Delivery.message <+:
      (run rxStep rxInit [.isr (some (oneByte 1 1)), .isr (some (oneByte 2 2)),
        .main 0 stackFrame, .main 0 stackFrame]).stored :=
  rx_fifo _ ⟨fun _ _ _ => by unfold RxQueue.Packed; decide,
    fun _ _ _ => by unfold RxQueue.Packed; decide, fun _ h => by simp at h,
    fun _ h => by simp at h, trivial⟩

/-- **The reordering**: two messages, a read, a third message, two reads. The
third takes the entry the first has left and overtakes the second. -/
theorem rx_reorders :
    ¬ ∀ es : List RxEvent, ((run rxStep rxInit es).delivered.map Delivery.message).Sublist
      (run rxStep rxInit es).stored := by
  intro hall
  have hrun := hall [.isr (some (oneByte 1 1)), .isr (some (oneByte 2 2)),
    .main 0 stackFrame, .main 0 stackFrame, .isr (some (oneByte 3 3)),
    .main 0 stackFrame, .main 0 stackFrame, .main 0 stackFrame, .main 0 stackFrame]
  revert hrun
  decide

end Reordering

end OpenHcan.Rx
