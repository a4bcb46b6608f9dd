import OpenHcan.Lib.Machine
import OpenHcan.Daemon.Hcand

/-!
# HcandForward — what the hub sends is what it received

The hub neither looks at the result of `recvfrom` nor clears its buffer. A
turn that forwards anything sends the 16 bytes of the buffer, which are the
datagram only if the datagram has 16 bytes: a shorter one is completed from
earlier datagrams, a longer one is cut off, and a failed receive sends the
last frame again. So all that is sent was just received exactly in the runs
whose other datagrams are not forwarded (`forwards_received_iff`).
-/

namespace OpenHcan.Daemon

open Lib (run Guarded)

set_option maxRecDepth 100000

/-- Everything that is sent in the event is, byte for byte, the datagram
received in it. -/
def ForwardsReceived (h : Hcand) : Event → Prop
  | .datagram peer bytes => ∀ s ∈ (hcandEvent h (.datagram peer bytes)).2, s.bytes = bytes
  | .recvFailed => (hcandEvent h .recvFailed).2 = []
  | .alarm => (hcandEvent h .alarm).2 = []

/-- A turn with this sender and datagram forwards the buffer: the sender gets
or has a slot, the id in the buffer is not zero, and there is another peer. -/
def Forwards (h : Hcand) (peer : SockAddrIn) (bytes : List UInt8) : Prop :=
  (enroll h.peers peer).2 ≠ none ∧ frameId (recvfrom h.f bytes) ≠ 0
    ∧ ∃ p ∈ (enroll h.peers peer).1, p.live = true ∧ p.addr ≠ peer

/-- The datagram has the size of a frame, or it is not forwarded; a failed
receive is not forwarded. -/
def WholeFrame (h : Hcand) : Event → Prop
  | .datagram peer bytes => bytes.length = 16 ∨ ¬ Forwards h peer bytes
  | .recvFailed => ¬ Forwards h .zero []
  | .alarm => True

/-- Resetting a timeout does not change whom a frame is sent to. -/
theorem sendToPeers_resetTimeout (peers : List Peer) (i : Nat) (f : Vector UInt8 16)
    (peer : SockAddrIn) :
    sendToPeers (peers.modify i fun p => { p with timeout := 0 }) f peer
      = sendToPeers peers f peer := by
  simp only [sendToPeers]
  induction peers generalizing i with
  | nil => cases i <;> rfl
  | cons p peers ih =>
      cases i with
      | zero =>
          rw [List.modify_zero_cons]
          simp only [List.filter_cons, Peer.live]
          split <;> rfl
      | succ i =>
          rw [List.modify_succ_cons]
          simp only [List.filter_cons]
          split
          · rw [List.map_cons, List.map_cons, ih]
          · exact ih i

/-- What a turn sends. -/
theorem loopTurn_sent (h : Hcand) (peer : SockAddrIn) (bytes : List UInt8) :
    (loopTurn h peer bytes).2
      = if (enroll h.peers peer).2 ≠ none ∧ frameId (recvfrom h.f bytes) ≠ 0 then
          sendToPeers (enroll h.peers peer).1 (recvfrom h.f bytes) peer
        else [] := by
  rw [loopTurn]
  cases henroll : enroll h.peers peer with
  | mk peers slot =>
      cases slot with
      | none => simp
      | some i =>
          by_cases hid : frameId (recvfrom h.f bytes) = 0
          · simp [hid]
          · simp [hid, sendToPeers_resetTimeout]

theorem sendToPeers_eq_nil_iff (peers : List Peer) (f : Vector UInt8 16) (peer : SockAddrIn) :
    sendToPeers peers f peer = [] ↔ ¬ ∃ p ∈ peers, p.live = true ∧ p.addr ≠ peer := by
  rw [sendToPeers, List.map_eq_nil_iff, List.filter_eq_nil_iff]
  simp [addrCmp]

/-- A turn sends something exactly if it forwards. -/
theorem loopTurn_sent_eq_nil_iff (h : Hcand) (peer : SockAddrIn) (bytes : List UInt8) :
    (loopTurn h peer bytes).2 = [] ↔ ¬ Forwards h peer bytes := by
  rw [loopTurn_sent, Forwards]
  split
  · next hsend =>
      rw [sendToPeers_eq_nil_iff]
      constructor
      · intro hnone hall
        exact hnone hall.2.2
      · intro hnone hany
        exact hnone ⟨hsend.1, hsend.2, hany⟩
  · next hsend =>
      constructor
      · intro _ hall
        exact hsend ⟨hall.1, hall.2.1⟩
      · intro _
        rfl

/-- Whatever a turn sends is the buffer. -/
theorem loopTurn_sent_bytes {h : Hcand} {peer : SockAddrIn} {bytes : List UInt8} {s : Sent}
    (hs : s ∈ (loopTurn h peer bytes).2) : s.bytes = (recvfrom h.f bytes).toList := by
  rw [loopTurn_sent] at hs
  split at hs
  · rw [sendToPeers] at hs
    obtain ⟨p, _, hp⟩ := List.mem_map.1 hs
    rw [← hp]
  · cases hs

/-- One event. -/
theorem forwardsReceived_iff (h : Hcand) (e : Event) : ForwardsReceived h e ↔ WholeFrame h e := by
  cases e with
  | alarm => exact iff_of_true rfl trivial
  | recvFailed => exact loopTurn_sent_eq_nil_iff h .zero []
  | datagram peer bytes =>
      show (∀ s ∈ (loopTurn h peer bytes).2, s.bytes = bytes)
        ↔ bytes.length = 16 ∨ ¬ Forwards h peer bytes
      rw [← loopTurn_sent_eq_nil_iff]
      constructor
      · intro hall
        cases hsent : (loopTurn h peer bytes).2 with
        | nil => exact Or.inr rfl
        | cons s rest =>
            left
            have hs : s ∈ (loopTurn h peer bytes).2 := by
              rw [hsent]
              exact List.mem_cons_self
            rw [← hall s hs, loopTurn_sent_bytes hs, Vector.length_toList]
      · intro hcase s hs
        rcases hcase with hlen | hnil
        · rw [loopTurn_sent_bytes hs, recvfrom_whole h.f hlen]
        · rw [hnil] at hs
          cases hs

/-- **What is sent was just received**: in the run from any state, exactly if
every datagram that is forwarded has the size of a frame and no failed receive
is forwarded. -/
theorem forwards_received_iff (h : Hcand) (es : List Event) :
    Guarded hcandStep ForwardsReceived h es ↔ Guarded hcandStep WholeFrame h es :=
  Lib.guarded_congr forwardsReceived_iff es h

/-- A peer sends a whole frame, then another one an empty datagram: the frame
goes back to the first. -/
theorem emptyDatagram_replays :
    ¬ Guarded hcandStep ForwardsReceived (hcandStart (Vector.replicate 16 0))
      [.datagram ⟨2, 3600, 1, 0⟩ (List.replicate 16 7), .datagram ⟨2, 3600, 2, 0⟩ []] := by
  rintro ⟨_, hsecond, _⟩
  have hsent : (⟨⟨2, 3600, 1, 0⟩, List.replicate 16 7⟩ : Sent)
      ∈ (hcandEvent (hcandStep (hcandStart (Vector.replicate 16 0))
        (.datagram ⟨2, 3600, 1, 0⟩ (List.replicate 16 7))) (.datagram ⟨2, 3600, 2, 0⟩ [])).2 := by
    decide
  have hbytes := hsecond _ hsent
  revert hbytes
  decide

end OpenHcan.Daemon
