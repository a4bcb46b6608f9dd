import OpenHcan.Daemon.Hcansocketd
import OpenHcan.Lib.RingBuffer

/-!
# SocketRings — the ring buffers of hcansocketd

The main loop of `hcansocketd`. A turn reads at most one datagram of `hcand`
and one frame of the CAN socket into a ring buffer for the other side, and
writes at most one frame out of each. `initHcan`, which an error on the socket
of `hcand` calls again, stores a frame without a look at the read index.

What `select` and `recv` return is arbitrary. A frame counts as sent when it is
handed to the socket. Left out: addresses, options, and the traces.
-/

namespace OpenHcan.Daemon

open Lib Host

/-! ## A ring buffer -/

/-- `(idx + 1) & (BUFFERSIZE - 1)` -/
def nextSlot (idx : UInt8) : UInt8 := (idx + 1) &&& 15

theorem nextSlot_toNat (idx : UInt8) (h : idx.toNat < 16) :
    (nextSlot idx).toNat = ringSlot 16 idx.toNat 1 :=
  toNat_maskedSucc (k := 4) (by omega) h

theorem nextSlot_lt {idx : UInt8} (h : idx.toNat < 16) : (nextSlot idx).toNat < 16 :=
  next_toNat_lt nextSlot_toNat (by omega) h

/-- `canTxBuf` or `hcanTxBuf` with its two indices. -/
structure TxRing (α : Type) where
  buf : UInt8 → α
  wIdx : UInt8
  rIdx : UInt8
  wIdx_lt : wIdx.toNat < 16
  rIdx_lt : rIdx.toNat < 16

namespace TxRing

variable {α : Type}

/-- The slot at the write index. -/
def slot (r : TxRing α) : α := r.buf r.wIdx

/-- No buffer left. -/
def full (r : TxRing α) : Bool := nextSlot r.wIdx == r.rIdx

/-- `wIdx != rIdx` -/
def waiting (r : TxRing α) : Bool := r.wIdx != r.rIdx

/-- The slot at the write index is `x`, and the write index goes on. -/
def put (r : TxRing α) (x : α) : TxRing α :=
  ⟨Function.update r.buf r.wIdx x, nextSlot r.wIdx, r.rIdx, nextSlot_lt r.wIdx_lt, r.rIdx_lt⟩

/-- The read index goes on. -/
def next (r : TxRing α) : TxRing α :=
  ⟨r.buf, r.wIdx, nextSlot r.rIdx, r.wIdx_lt, nextSlot_lt r.rIdx_lt⟩

/-- The frames between the indices, oldest first. -/
def contents (r : TxRing α) : List α := byteContents 16 r.buf r.wIdx r.rIdx

theorem full_iff (r : TxRing α) : r.full = true ↔ r.contents.length = 15 := by
  have hcount : nextSlot r.wIdx = r.rIdx ↔ r.contents.length + 1 = 16 :=
    byteContents_full_iff nextSlot_toNat r.wIdx_lt r.rIdx_lt
  unfold full
  rw [beq_iff_eq, hcount]
  omega

theorem length_contents_le (r : TxRing α) : r.contents.length ≤ 15 :=
  Nat.le_of_lt_succ (length_byteContents_lt r.wIdx_lt r.rIdx_lt)

theorem contents_put {r : TxRing α} (hroom : r.contents.length < 15) (x : α) :
    (r.put x).contents = r.contents ++ [x] := by
  have hne : nextSlot r.wIdx ≠ r.rIdx := by
    intro heq
    have hfull := (full_iff r).mp (beq_iff_eq.mpr heq)
    omega
  exact byteContents_push nextSlot_toNat (by omega) (by omega) r.wIdx_lt r.rIdx_lt hne x

theorem contents_next {r : TxRing α} (h : r.waiting = true) :
    r.contents = r.buf r.rIdx :: r.next.contents :=
  byteContents_pop nextSlot_toNat r.wIdx_lt r.rIdx_lt (bne_iff_ne.mp h)

theorem contents_eq_nil {r : TxRing α} (h : ¬ r.waiting = true) : r.contents = [] := by
  have heq : r.wIdx = r.rIdx := by simpa [waiting] using h
  unfold contents
  rw [heq]
  exact byteContents_self r.rIdx_lt

end TxRing

/-! ## What goes in and what goes out -/

/-- A ring buffer with the frames that were stored in it and the frames that
were sent, both in order. -/
structure TxQueue (α : Type) where
  ring : TxRing α
  stored : List α
  sent : List α

namespace TxQueue

variable {α : Type} {q q' q'' : TxQueue α} {n m : Nat}

def store (q : TxQueue α) (x : α) : TxQueue α := ⟨q.ring.put x, q.stored ++ [x], q.sent⟩

/-- A frame is sent, if there is one. -/
def transmit (q : TxQueue α) : TxQueue α :=
  if q.ring.waiting then ⟨q.ring.next, q.stored, q.sent ++ [q.ring.buf q.ring.rIdx]⟩ else q

/-- What was stored was sent or is still to be sent, unchanged and in order. -/
def Lossless (q : TxQueue α) : Prop := q.sent ++ q.ring.contents = q.stored

/-- `n` frames were stored, none was sent, and none that was there is gone. -/
def Grows (q q' : TxQueue α) (n : Nat) : Prop :=
  ∃ added, added.length = n ∧ q'.stored = q.stored ++ added ∧ q'.sent = q.sent ∧
    q'.ring.contents = q.ring.contents ++ added

theorem Grows.refl (q : TxQueue α) : Grows q q 0 :=
  ⟨[], rfl, (List.append_nil _).symm, rfl, (List.append_nil _).symm⟩

theorem Grows.trans : Grows q q' n → Grows q' q'' m → Grows q q'' (n + m) := by
  rintro ⟨a, ha, hstored, hsent, hring⟩ ⟨b, hb, hstored', hsent', hring'⟩
  refine ⟨a ++ b, ?_, ?_, ?_, ?_⟩
  · rw [List.length_append, ha, hb]
  · rw [hstored', hstored, List.append_assoc]
  · rw [hsent', hsent]
  · rw [hring', hring, List.append_assoc]

theorem Grows.length : Grows q q' n → q'.ring.contents.length = q.ring.contents.length + n := by
  rintro ⟨a, ha, -, -, hring⟩
  rw [hring, List.length_append, ha]

theorem Grows.lossless : Grows q q' n → q.Lossless → q'.Lossless := by
  rintro ⟨a, -, hstored, hsent, hring⟩ hq
  unfold Lossless at *
  rw [hsent, hring, hstored, ← hq, List.append_assoc]

/-- Everything stored stays, and `n` more frames are sent unless all are. -/
def Sends (q q' : TxQueue α) (n : Nat) : Prop :=
  q.stored <+: q'.stored ∧ min q.stored.length (q.sent.length + n) ≤ q'.sent.length

theorem Sends.refl (q : TxQueue α) : Sends q q 0 := ⟨List.prefix_refl _, Nat.min_le_right _ _⟩

theorem Sends.trans : Sends q q' n → Sends q' q'' m → Sends q q'' (n + m) := by
  rintro ⟨hpre, hsent⟩ ⟨hpre', hsent'⟩
  have hlen := hpre.length_le
  exact ⟨hpre.trans hpre', by omega⟩

/-- **A frame is stored** where a slot is free. -/
theorem grows_store (hroom : q.ring.contents.length < 15) (x : α) : Grows q (q.store x) 1 :=
  ⟨[x], rfl, rfl, rfl, TxRing.contents_put hroom x⟩

/-- **The oldest frame is sent.** -/
theorem transmit_spec (q : TxQueue α) (hq : q.Lossless) :
    q.transmit.Lossless ∧ q.transmit.ring.contents.length = q.ring.contents.length - 1 ∧
      Sends q q.transmit 1 := by
  have hlog := congrArg List.length hq
  rw [List.length_append] at hlog
  unfold transmit
  by_cases hwaiting : q.ring.waiting = true
  · have hpop := TxRing.contents_next hwaiting
    rw [if_pos hwaiting]
    refine ⟨?_, ?_, List.prefix_refl _, ?_⟩
    · show (q.sent ++ [q.ring.buf q.ring.rIdx]) ++ q.ring.next.contents = q.stored
      rw [List.append_assoc, List.singleton_append, ← hpop]
      exact hq
    · rw [hpop, List.length_cons, Nat.add_sub_cancel]
    · show _ ≤ (q.sent ++ [q.ring.buf q.ring.rIdx]).length
      rw [List.length_append, List.length_singleton]
      exact Nat.min_le_right _ _
  · have hnil := TxRing.contents_eq_nil hwaiting
    rw [hnil, List.length_nil] at hlog
    rw [if_neg hwaiting, hnil]
    exact ⟨hq, rfl, List.prefix_refl _, by omega⟩

/-- What was stored meanwhile is sent after it. -/
theorem Grows.transmit (h : Grows q q' n) (hq : q.Lossless) :
    q'.transmit.Lossless ∧
      q'.transmit.ring.contents.length = q.ring.contents.length + n - 1 ∧
      Sends q q'.transmit 1 := by
  obtain ⟨hlossless, hlen, hpre, hsent⟩ := transmit_spec q' (h.lossless hq)
  have hcount := h.length
  obtain ⟨added, -, hstored, hsame, -⟩ := h
  rw [hstored, List.length_append, hsame] at hsent
  rw [hstored] at hpre
  refine ⟨hlossless, by omega, (List.prefix_append _ _).trans hpre, by omega⟩

end TxQueue

/-! ## The loop -/

/-- `make_id` -/
def makeId (src dst : UInt16) (proto prio : UInt8) : UInt32 :=
  (src.toUInt32 &&& (0x3ff : UInt32)) ||| ((dst.toUInt32 &&& (0x3ff : UInt32)) <<< 10) |||
    ((proto.toUInt32 &&& (0x07 : UInt32)) <<< 20) ||| (prio.toUInt32 <<< 24)

/-- The two ring buffers, how many frames a ring held each time a frame was
dropped, and whether the program has not called `exit`. -/
structure Hcansocketd where
  canTx : TxQueue CanFrame
  hcanTx : TxQueue CANFrame
  dropped : List Nat
  running : Bool

/-- What the socket of `hcand` has: nothing, a datagram as long as a frame, an
error, after which `socket` may find a new socket, or a datagram of another
length. -/
inductive HcanRx where
  | none
  | frame (hcanFrame : CANFrame)
  | error (reopened : Bool)
  | short
deriving DecidableEq, Repr

/-- The same for the CAN socket, where an error changes nothing. -/
inductive CbRx where
  | none
  | frame (canFrame : CanFrame)
  | error
  | short
deriving DecidableEq, Repr

/-- A turn: whether `select` has returned a positive number, and what there is
to read. -/
structure LoopTurn where
  selected : Bool
  hcan : HcanRx
  cb : CbRx
deriving DecidableEq, Repr

namespace Hcansocketd

/-- `initHcan`, when there is a socket. -/
def initHcan (s : Hcansocketd) : Hcansocketd :=
  { s with hcanTx := s.hcanTx.store ⟨makeId 0 0 0 0, 0, s.hcanTx.ring.slot.data⟩ }

/-- `initSocketcan`, when there is a socket. -/
def initSocketcan (s : Hcansocketd) : Hcansocketd :=
  let data := (s.canTx.ring.slot.data.set 0 0x11).set 1 0x22
  { s with canTx := s.canTx.store ⟨makeId 35 35 1 0 ||| canEffFlag, 2, data⟩ }

/-- `rxFromHcan` and what the loop does after it; `none` is a copy out of
bounds. -/
def rxFromHcan (s : Hcansocketd) : HcanRx → Option Hcansocketd
  | .none => some s
  | .frame hcanFrame =>
      if s.canTx.ring.full then
        some { s with dropped := s.dropped ++ [s.canTx.ring.contents.length] }
      else do
        let c ← storeCan s.canTx.ring.slot hcanFrame
        return { s with canTx := s.canTx.store c }
  | .error reopened => if reopened then some s.initHcan else some { s with running := false }
  | .short => some { s with running := false }

/-- `rxFromCb` -/
def rxFromCb (s : Hcansocketd) : CbRx → Option Hcansocketd
  | .none => some s
  | .frame canFrame =>
      if s.hcanTx.ring.full then
        some { s with dropped := s.dropped ++ [s.hcanTx.ring.contents.length] }
      else do
        let f ← storeHcan s.hcanTx.ring.slot canFrame
        return { s with hcanTx := s.hcanTx.store f }
  | .error => some s
  | .short => some { s with running := false }

/-- A frame goes out on each side, if there is one. -/
def tx (s : Hcansocketd) : Hcansocketd :=
  { s with canTx := s.canTx.transmit, hcanTx := s.hcanTx.transmit }

/-- A turn of the loop of `main`. -/
def turn (s : Hcansocketd) (t : LoopTurn) : Option Hcansocketd := do
  -- a timeout of `select` or an error skips the reads and the writes alike
  if !(s.running && t.selected) then return s
  let s ← s.rxFromHcan t.hcan
  if !s.running then return s
  let s ← s.rxFromCb t.cb
  if !s.running then return s
  return s.tx

/-- An empty ring; the buffers are global variables. -/
def emptyQueue {α : Type} (zero : α) : TxQueue α :=
  ⟨⟨fun _ => zero, 0, 0, Nat.zero_lt_succ 15, Nat.zero_lt_succ 15⟩, [], []⟩

/-- What the loop starts with. -/
def start : Hcansocketd :=
  initSocketcan (initHcan
    ⟨emptyQueue ⟨0, 0, zeroData⟩, emptyQueue ⟨0, 0, zeroData⟩, [], true⟩)

/-- Both rings lose nothing, and a frame was dropped only where 15 were held. -/
structure RingsOk (s : Hcansocketd) : Prop where
  can : s.canTx.Lossless
  hcan : s.hcanTx.Lossless
  dropped : ∀ n ∈ s.dropped, n = 15

/-- What holds between two turns as long as the program runs. The ring for the bus
was emptied to one frame; in the ring for the hub there is a free slot besides
the one that is always free: a turn stores two frames at most, looks before it
stores the second and then sends one, so `initHcan` need not look. -/
structure Inv (s : Hcansocketd) : Prop extends RingsOk s where
  can_le : s.running → s.canTx.ring.contents.length ≤ 1
  hcan_le : s.running → s.hcanTx.ring.contents.length ≤ 14

end Hcansocketd

/-- How many frames `initHcan` stores. -/
def HcanRx.inits : HcanRx → Nat
  | .error true => 1
  | _ => 0

/-- The program does not call `exit`. -/
def HcanRx.goesOn : HcanRx → Bool
  | .short => false
  | .error reopened => reopened
  | _ => true

namespace Hcansocketd

/-- The sizes of the frames that are stored: of a datagram, and of a frame from
the CAN socket if the ring for the hub is not full. -/
structure SizesOk (s : Hcansocketd) (t : LoopTurn) : Prop where
  hcan : ∀ f, t.hcan = .frame f → f.size.toNat ≤ 8
  cb : ∀ c, t.cb = .frame c → t.hcan.goesOn →
    s.hcanTx.ring.contents.length + t.hcan.inits < 15 → c.canDlc.toNat ≤ 8

theorem inv_start : Inv start where
  can := rfl
  hcan := rfl
  dropped := nofun
  can_le _ := Nat.le_refl 1
  hcan_le _ := by
    show 1 ≤ 14
    omega

/-! ## What a turn does -/

/-- **Reading from the hub**: a datagram finds a free slot, and so does what
`initHcan` stores. -/
theorem rxFromHcan_spec {s s' : Hcansocketd} {rx : HcanRx} (hi : Inv s) (hrun : s.running = true)
    (h : s.rxFromHcan rx = some s') :
    (∀ f, rx = .frame f → f.size.toNat ≤ 8) ∧ (∃ n ≤ 1, s.canTx.Grows s'.canTx n) ∧
      s.hcanTx.Grows s'.hcanTx rx.inits ∧ s'.dropped = s.dropped ∧ s'.running = rx.goesOn := by
  have hcan := hi.can_le hrun
  have hhcan := hi.hcan_le hrun
  cases rx with
  | none =>
      obtain rfl := Option.some.inj h
      exact ⟨nofun, ⟨0, Nat.zero_le 1, .refl _⟩, .refl _, rfl, hrun⟩
  | frame f =>
      -- the ring for the bus holds one frame at most, so nothing is dropped here
      have hroom : ¬ s.canTx.ring.full = true := by
        rw [TxRing.full_iff]
        omega
      simp only [rxFromHcan, if_neg hroom, Option.bind_eq_bind, Option.bind_eq_some_iff,
        Option.pure_def, Option.some.injEq] at h
      obtain ⟨c, hc, rfl⟩ := h
      refine ⟨fun g hg => ?_, ⟨1, Nat.le_refl 1, TxQueue.grows_store (by omega) c⟩, .refl _, rfl,
        hrun⟩
      obtain rfl := HcanRx.frame.inj hg
      exact (storeCan_isSome_iff _ f).mp (by rw [hc]; rfl)
  | error reopened =>
      cases reopened with
      | true =>
          obtain rfl := Option.some.inj h
          exact ⟨nofun, ⟨0, Nat.zero_le 1, .refl _⟩, TxQueue.grows_store (by omega) _, rfl, hrun⟩
      | false =>
          obtain rfl := Option.some.inj h
          exact ⟨nofun, ⟨0, Nat.zero_le 1, .refl _⟩, .refl _, rfl, rfl⟩
  | short =>
      obtain rfl := Option.some.inj h
      exact ⟨nofun, ⟨0, Nat.zero_le 1, .refl _⟩, .refl _, rfl, rfl⟩

theorem rxFromHcan_isSome (s : Hcansocketd) {rx : HcanRx}
    (h : ∀ f, rx = .frame f → f.size.toNat ≤ 8) : ∃ s', s.rxFromHcan rx = some s' := by
  cases rx with
  | none => exact ⟨_, rfl⟩
  | frame f =>
      unfold rxFromHcan
      dsimp only
      split
      · exact ⟨_, rfl⟩
      · have hsome := (storeCan_isSome_iff s.canTx.ring.slot f).mpr (h f rfl)
        obtain ⟨c, hc⟩ := Option.isSome_iff_exists.mp hsome
        exact ⟨_, by rw [hc]; rfl⟩
  | error reopened => cases reopened <;> exact ⟨_, rfl⟩
  | short => exact ⟨_, rfl⟩

/-- **Reading from the bus**: a frame is stored, or dropped when the ring holds
15 frames. -/
theorem rxFromCb_spec {s s' : Hcansocketd} {rx : CbRx} (h : s.rxFromCb rx = some s') :
    (∀ c, rx = .frame c → s.hcanTx.ring.contents.length < 15 → c.canDlc.toNat ≤ 8) ∧
      s'.canTx = s.canTx ∧ (∃ n, s.hcanTx.Grows s'.hcanTx n) ∧
      ((∀ n ∈ s.dropped, n = 15) → ∀ n ∈ s'.dropped, n = 15) ∧
      (s'.running = true → s.running = true) := by
  cases rx with
  | none =>
      obtain rfl := Option.some.inj h
      exact ⟨nofun, rfl, ⟨0, .refl _⟩, id, id⟩
  | frame c =>
      by_cases hfull : s.hcanTx.ring.full = true
      · rw [rxFromCb, if_pos hfull] at h
        obtain rfl := Option.some.inj h
        have hlen := (TxRing.full_iff _).mp hfull
        refine ⟨fun _ _ hroom => absurd hlen (by omega), rfl, ⟨0, .refl _⟩, fun hd n hn => ?_, id⟩
        rcases List.mem_append.mp hn with hn | hn
        · exact hd n hn
        · rw [List.mem_singleton.mp hn, hlen]
      · simp only [rxFromCb, if_neg hfull, Option.bind_eq_bind, Option.bind_eq_some_iff,
          Option.pure_def, Option.some.injEq] at h
        obtain ⟨f, hf, rfl⟩ := h
        have hle := TxRing.length_contents_le s.hcanTx.ring
        have hlen := (TxRing.full_iff s.hcanTx.ring).not.mp hfull
        refine ⟨fun g hg _ => ?_, rfl, ⟨1, TxQueue.grows_store (by omega) f⟩, id, id⟩
        obtain rfl := CbRx.frame.inj hg
        exact (storeHcan_isSome_iff _ c).mp (by rw [hf]; rfl)
  | error =>
      obtain rfl := Option.some.inj h
      exact ⟨nofun, rfl, ⟨0, .refl _⟩, id, id⟩
  | short =>
      obtain rfl := Option.some.inj h
      exact ⟨nofun, rfl, ⟨0, .refl _⟩, id, nofun⟩

theorem rxFromCb_isSome (s : Hcansocketd) {rx : CbRx}
    (h : ∀ c, rx = .frame c → s.hcanTx.ring.contents.length < 15 → c.canDlc.toNat ≤ 8) :
    ∃ s', s.rxFromCb rx = some s' := by
  cases rx with
  | none => exact ⟨_, rfl⟩
  | frame c =>
      by_cases hfull : s.hcanTx.ring.full = true
      · exact ⟨_, by rw [rxFromCb, if_pos hfull]⟩
      · have hle := TxRing.length_contents_le s.hcanTx.ring
        have hlen := (TxRing.full_iff s.hcanTx.ring).not.mp hfull
        have hsome := (storeHcan_isSome_iff s.hcanTx.ring.slot c).mpr (h c rfl (by omega))
        obtain ⟨f, hf⟩ := Option.isSome_iff_exists.mp hsome
        exact ⟨_, by rw [rxFromCb, if_neg hfull, hf]; rfl⟩
  | error => exact ⟨_, rfl⟩
  | short => exact ⟨_, rfl⟩

theorem turn_idle {s : Hcansocketd} {t : LoopTurn} (h : (s.running && t.selected) = false) :
    s.turn t = some s := by
  simp [turn, h]

theorem turn_busy {s : Hcansocketd} {t : LoopTurn} (h : (s.running && t.selected) = true) :
    s.turn t = (s.rxFromHcan t.hcan).bind fun s₁ =>
      if s₁.running then (s₁.rxFromCb t.cb).bind fun s₂ =>
        if s₂.running then some s₂.tx else some s₂
      else some s₁ := by
  simp only [turn, h, Bool.not_true, Bool.false_eq_true, if_false, Option.bind_eq_bind]
  congr 1
  funext s₁
  cases s₁.running <;> simp only [Bool.not_true, Bool.not_false, if_true, Bool.false_eq_true,
    if_false, Option.pure_def]
  congr 1
  funext s₂
  cases s₂.running <;> rfl

/-- **One turn** stores and drops as it should and sends a frame out of each
ring, unless the program ends. -/
theorem turn_spec {s s' : Hcansocketd} {t : LoopTurn} (hi : Inv s) (h : s.turn t = some s') :
    (s.running → t.selected → SizesOk s t) ∧ Inv s' ∧
      (s'.running → s.running ∧ s.canTx.Sends s'.canTx (if t.selected then 1 else 0) ∧
        s.hcanTx.Sends s'.hcanTx (if t.selected then 1 else 0)) := by
  by_cases hbusy : (s.running && t.selected) = true
  · obtain ⟨hrun, hselected⟩ := Bool.and_eq_true_iff.mp hbusy
    rw [turn_busy hbusy, Option.bind_eq_some_iff] at h
    obtain ⟨s₁, h₁, h⟩ := h
    obtain ⟨hsize, ⟨n, hn, hcan₁⟩, hhcan₁, hdropped₁, hrun₁⟩ := rxFromHcan_spec hi hrun h₁
    have hcanLen := hi.can_le hrun
    have hlen₁ := hhcan₁.length
    by_cases hgoes : s₁.running = true
    · rw [if_pos hgoes, Option.bind_eq_some_iff] at h
      obtain ⟨s₂, h₂, h⟩ := h
      obtain ⟨hdlc, hcan₂, ⟨m, hhcan₂⟩, hdropped₂, -⟩ := rxFromCb_spec h₂
      rw [hlen₁] at hdlc
      have hsizes : SizesOk s t := ⟨hsize, fun c hc _ hroom => hdlc c hc hroom⟩
      have hhcan := hhcan₁.trans hhcan₂
      rw [← hcan₂] at hcan₁
      have hdropped : ∀ k ∈ s₂.dropped, k = 15 := hdropped₂ (hdropped₁ ▸ hi.dropped)
      refine ⟨fun _ _ => hsizes, ?_⟩
      split at h
      · obtain rfl := Option.some.inj h
        obtain ⟨hc, hcl, hcs⟩ := hcan₁.transmit hi.can
        obtain ⟨hh, hhl, hhs⟩ := hhcan.transmit hi.hcan
        have hle := TxRing.length_contents_le s₂.hcanTx.ring
        have hall := hhcan.length
        have hcanLe : s₂.canTx.transmit.ring.contents.length ≤ 1 := by omega
        have hhcanLe : s₂.hcanTx.transmit.ring.contents.length ≤ 14 := by omega
        refine ⟨⟨⟨hc, hh, hdropped⟩, fun _ => hcanLe, fun _ => hhcanLe⟩, fun _ => ⟨hrun, ?_⟩⟩
        rw [if_pos hselected]
        exact ⟨hcs, hhs⟩
      · next hends =>
          obtain rfl := Option.some.inj h
          exact ⟨⟨⟨hcan₁.lossless hi.can, hhcan.lossless hi.hcan, hdropped⟩,
            fun hr => absurd hr hends, fun hr => absurd hr hends⟩, fun hr => absurd hr hends⟩
    · rw [if_neg hgoes] at h
      obtain rfl := Option.some.inj h
      have hdropped : ∀ k ∈ s₁.dropped, k = 15 := hdropped₁ ▸ hi.dropped
      refine ⟨fun _ _ => ⟨hsize, fun _ _ hgo => absurd (hrun₁.trans hgo) hgoes⟩, ?_⟩
      exact ⟨⟨⟨hcan₁.lossless hi.can, hhcan₁.lossless hi.hcan, hdropped⟩,
        fun hr => absurd hr hgoes, fun hr => absurd hr hgoes⟩, fun hr => absurd hr hgoes⟩
  · rw [turn_idle (Bool.eq_false_iff.mpr hbusy)] at h
    obtain rfl := Option.some.inj h
    refine ⟨fun hr hs => absurd (Bool.and_eq_true_iff.mpr ⟨hr, hs⟩) hbusy, hi, fun hr => ⟨hr, ?_⟩⟩
    have hnot : ¬ t.selected = true := fun hs => hbusy (Bool.and_eq_true_iff.mpr ⟨hr, hs⟩)
    rw [if_neg hnot]
    exact ⟨.refl _, .refl _⟩

/-- A turn whose sizes are right copies nothing out of bounds. -/
theorem turn_isSome {s : Hcansocketd} {t : LoopTurn} (hi : Inv s)
    (h : s.running → t.selected → SizesOk s t) : ∃ s', s.turn t = some s' := by
  by_cases hbusy : (s.running && t.selected) = true
  · obtain ⟨hrun, hselected⟩ := Bool.and_eq_true_iff.mp hbusy
    obtain ⟨hsize, hdlc⟩ := h hrun hselected
    obtain ⟨s₁, h₁⟩ := rxFromHcan_isSome s hsize
    obtain ⟨-, -, hhcan₁, -, hrun₁⟩ := rxFromHcan_spec hi hrun h₁
    rw [turn_busy hbusy, h₁, Option.bind_some]
    split
    · next hgoes =>
        have hcb : ∀ c, t.cb = .frame c → s₁.hcanTx.ring.contents.length < 15 →
            c.canDlc.toNat ≤ 8 := by
          intro c hc hroom
          rw [hhcan₁.length] at hroom
          exact hdlc c hc (hrun₁ ▸ hgoes) hroom
        obtain ⟨s₂, h₂⟩ := rxFromCb_isSome s₁ hcb
        rw [h₂, Option.bind_some]
        split
        · exact ⟨_, rfl⟩
        · exact ⟨_, rfl⟩
    · exact ⟨_, rfl⟩
  · exact ⟨s, turn_idle (Bool.eq_false_iff.mpr hbusy)⟩

/-! ## Runs -/

/-- A turn of a program of which nothing is known after a copy out of bounds. -/
def loopTurn (s : Option Hcansocketd) (t : LoopTurn) : Option Hcansocketd :=
  s.bind fun s => s.turn t

/-- Something is known, and the rings are as they should be. -/
def RingsHold (s : Option Hcansocketd) : Prop := ∃ s', s = some s' ∧ RingsOk s'

/-- What a turn stores has sizes of at most 8. -/
def StoresSizes (s : Option Hcansocketd) (t : LoopTurn) : Prop :=
  ∀ s', s = some s' → s'.running → t.selected → SizesOk s' t

theorem run_none (ts : List LoopTurn) : run loopTurn none ts = none := by
  induction ts with
  | nil => rfl
  | cons t ts ih => exact ih

theorem run_spec (ts : List LoopTurn) :
    ∀ {s s' : Hcansocketd}, Inv s → run loopTurn (some s) ts = some s' →
      Inv s' ∧ (s'.running → s.running ∧
        s.canTx.Sends s'.canTx (ts.countP fun t => t.selected) ∧
        s.hcanTx.Sends s'.hcanTx (ts.countP fun t => t.selected)) := by
  induction ts with
  | nil =>
      intro s s' hi h
      obtain rfl := Option.some.inj h
      exact ⟨hi, fun hr => ⟨hr, .refl _, .refl _⟩⟩
  | cons t ts ih =>
      intro s s' hi h
      rw [run_cons] at h
      cases hturn : s.turn t with
      | none =>
          have hnone : loopTurn (some s) t = none := hturn
          rw [hnone, run_none] at h
          exact absurd h nofun
      | some s₁ =>
          have hsome : loopTurn (some s) t = some s₁ := hturn
          rw [hsome] at h
          obtain ⟨-, hi₁, hfirst⟩ := turn_spec hi hturn
          obtain ⟨hi', hrest⟩ := ih hi₁ h
          refine ⟨hi', fun hr => ?_⟩
          obtain ⟨hr₁, hcan', hhcan'⟩ := hrest hr
          obtain ⟨hr₀, hcan, hhcan⟩ := hfirst hr₁
          rw [List.countP_cons, Nat.add_comm]
          exact ⟨hr₀, hcan.trans hcan', hhcan.trans hhcan'⟩

/-- **The rings lose nothing exactly if the sizes are right.** Whatever `select`
finds in whatever order, in every state of a run the frames sent followed by
those in the ring are the frames stored, and a frame was dropped only where the
ring held 15, exactly if what is stored never has a size above 8. As long as the
program runs, every frame stored is sent once `select` has found something often
enough. -/
theorem socketRings_iff (ts : List LoopTurn) :
    ((∀ pre, pre <+: ts → RingsHold (run loopTurn (some start) pre)) ↔
      Guarded loopTurn StoresSizes (some start) ts) ∧
    ∀ ts' s s', run loopTurn (some start) ts = some s → run loopTurn (some s) ts' = some s' →
      s'.running →
      s.canTx.Sends s'.canTx (ts'.countP fun t => t.selected) ∧
        s.hcanTx.Sends s'.hcanTx (ts'.countP fun t => t.selected) := by
  constructor
  · refine always_iff_guarded (I := fun o => ∃ s, o = some s ∧ Inv s) ?_ ?_ ?_ ts _
      ⟨start, rfl, inv_start⟩
    · rintro _ ⟨s, rfl, hi⟩
      exact ⟨s, rfl, hi.toRingsOk⟩
    · rintro _ t ⟨s, rfl, hi⟩ hsizes
      obtain ⟨s', hturn⟩ := turn_isSome hi (hsizes s rfl)
      exact ⟨s', hturn, (turn_spec hi hturn).2.1⟩
    · rintro _ t ⟨s, rfl, hi⟩ ⟨s', hturn, -⟩ s₀ hs
      obtain rfl := Option.some.inj hs
      exact (turn_spec hi hturn).1
  · intro ts' s s' h h' hr
    exact ((run_spec ts' (run_spec ts inv_start h).1 h').2 hr).2

/-- A frame from the bus is in its ring until a second turn. -/
theorem socketRings_twoTurns :
    (∀ pre, pre <+: [⟨true, .none, .frame ⟨0, 8, zeroData⟩⟩, ⟨true, .error true, .none⟩] →
      RingsHold (run loopTurn (some start) pre)) ∧
    start.hcanTx.Sends start.tx.hcanTx 1 := by
  constructor
  · refine (socketRings_iff _).1.mpr ⟨?_, ?_, trivial⟩
    · intro s _ _ _
      refine ⟨nofun, fun c hc _ _ => ?_⟩
      obtain rfl := CbRx.frame.inj hc
      decide
    · exact fun s _ _ _ => ⟨nofun, nofun⟩
  · exact ((socketRings_iff []).2 [⟨true, .none, .none⟩] start start.tx rfl rfl rfl).2

/-- A datagram whose size is 9. -/
theorem socketRings_longDatagram :
    ¬ ∀ ts pre, pre <+: ts → RingsHold (run loopTurn (some start) pre) := by
  intro hall
  obtain ⟨s, hs, -⟩ := hall [⟨true, .frame ⟨0, 9, zeroData⟩, .none⟩] _ (List.prefix_refl _)
  have hnone : run loopTurn (some start) [⟨true, .frame ⟨0, 9, zeroData⟩, .none⟩] = none := rfl
  rw [hnone] at hs
  exact absurd hs nofun

end Hcansocketd

end OpenHcan.Daemon
