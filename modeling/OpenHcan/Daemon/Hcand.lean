import OpenHcan.Lib.Bytes

/-!
# Hcand — the HCAN hub

`hcand` receives CAN frames as UDP datagrams and sends each one to every
other peer. A peer is a sender it has heard of in the last minute: a datagram
registers its sender in the first free slot, and once a second the alarm
handler ages the slots and frees those that are too old.

The frame buffer `f` and the slots persist over the loop turns. A datagram is
copied into the buffer up to its length, so what is behind a short one is
left from earlier datagrams; `recvfrom` may fail and copy nothing. A turn of
the loop and a call of the handler are atomic.
-/

namespace OpenHcan.Daemon

open Lib (fieldLE)

/-- `MAX_PEERS` -/
def maxPeers : Nat := 1024

/-- `TIMEOUT` -/
def timeoutTicks : Int := 60

/-- `struct sockaddr_in` -/
structure SockAddrIn where
  sinFamily : UInt16
  sinPort : UInt16
  sinAddr : UInt32
  sinZero : UInt64
deriving DecidableEq, Repr

/-- The zeroed structure. -/
def SockAddrIn.zero : SockAddrIn := ⟨0, 0, 0, 0⟩

/-- `peer_addr[i]` and `peer_timeout[i]` -/
structure Peer where
  addr : SockAddrIn
  timeout : Int
deriving DecidableEq, Repr

/-- The slot is in use. -/
def Peer.live (p : Peer) : Bool := p.addr.sinAddr != 0

/-- The slots and the frame buffer. -/
structure Hcand where
  peers : List Peer
  f : Vector UInt8 16
deriving DecidableEq, Repr

/-- A datagram that is sent, and to whom. -/
structure Sent where
  dest : SockAddrIn
  bytes : List UInt8
deriving DecidableEq, Repr

/-- What `main` starts with. The buffer is not initialised. -/
def hcandStart (f : Vector UInt8 16) : Hcand where
  peers := List.replicate maxPeers ⟨.zero, timeoutTicks⟩
  f := f

/-- `addr_cmp` -/
def addrCmp (a b : SockAddrIn) : Bool := a == b

/-- `does_peer_exist` -/
def doesPeerExist (peers : List Peer) (peer : SockAddrIn) : Option Nat :=
  peers.findIdx? fun p => addrCmp peer p.addr

/-- `add_peer` -/
def addPeer (peers : List Peer) (peer : SockAddrIn) : List Peer × Option Nat :=
  match peers.findIdx? fun p => p.addr.sinAddr == 0 with
  | some i => (peers.modify i fun p => { p with addr := peer }, some i)
  | none => (peers, none)

/-- The slot of the sender, an old one or a new one. -/
def enroll (peers : List Peer) (peer : SockAddrIn) : List Peer × Option Nat :=
  match doesPeerExist peers peer with
  | some i => (peers, some i)
  | none => addPeer peers peer

/-- `sig_alarm` for one slot. -/
def Peer.age (p : Peer) : Peer :=
  if p.live then
    if p.timeout + 1 > timeoutTicks then
      { addr := { p.addr with sinAddr := 0 }, timeout := 0 }
    else { p with timeout := p.timeout + 1 }
  else p

/-- `sig_alarm` -/
def sigAlarm (h : Hcand) : Hcand := { h with peers := h.peers.map Peer.age }

/-- `recvfrom` into the buffer: a longer datagram is cut off. -/
def recvfrom (f : Vector UInt8 16) (datagram : List UInt8) : Vector UInt8 16 :=
  Vector.ofFn fun i => datagram.getD i (f.toList.getD i 0)

/-- `f.id` -/
def frameId (f : Vector UInt8 16) : Nat := fieldLE f.toList 0 4

/-- The loop over all peers that sends the frame. -/
def sendToPeers (peers : List Peer) (f : Vector UInt8 16) (peer : SockAddrIn) : List Sent :=
  (peers.filter fun p => p.live && !addrCmp p.addr peer).map fun p => ⟨p.addr, f.toList⟩

/-- One turn of the loop of `main`. -/
def loopTurn (h : Hcand) (peer : SockAddrIn) (datagram : List UInt8) : Hcand × List Sent :=
  let f := recvfrom h.f datagram
  match enroll h.peers peer with
  | (peers, some i) =>
      let peers := peers.modify i fun p => { p with timeout := 0 }
      if frameId f = 0 then (⟨peers, f⟩, [])
      else (⟨peers, f⟩, sendToPeers peers f peer)
  | (peers, none) => (⟨peers, f⟩, [])

/-- What can happen: a datagram arrives, `recvfrom` fails, the alarm goes off. -/
inductive Event where
  | datagram (peer : SockAddrIn) (bytes : List UInt8)
  | recvFailed
  | alarm
deriving DecidableEq, Repr

/-- One event, and what is sent in it. A failed `recvfrom` leaves the zeroed
`peer` and the buffer as they were. -/
def hcandEvent (h : Hcand) : Event → Hcand × List Sent
  | .datagram peer bytes => loopTurn h peer bytes
  | .recvFailed => loopTurn h .zero []
  | .alarm => (sigAlarm h, [])

/-- The state after an event. -/
def hcandStep (h : Hcand) (e : Event) : Hcand := (hcandEvent h e).1

/-- A datagram of the size of a frame replaces the buffer. -/
theorem recvfrom_whole (f : Vector UInt8 16) {datagram : List UInt8} (h : datagram.length = 16) :
    (recvfrom f datagram).toList = datagram := by
  apply List.ext_getElem
  · rw [Vector.length_toList, h]
  · intro i hi hi'
    simp [recvfrom, hi']

/-- A datagram that has an id brings it into the buffer. -/
theorem frameId_recvfrom (f : Vector UInt8 16) {datagram : List UInt8} (h : 4 ≤ datagram.length) :
    frameId (recvfrom f datagram) = fieldLE datagram 0 4 := by
  have htake : (recvfrom f datagram).toList.take 4 = datagram.take 4 := by
    apply List.ext_getElem
    · simp
      omega
    · intro i hi hi'
      rw [List.length_take] at hi'
      have hlt : i < datagram.length := by omega
      simp [recvfrom, hlt]
  rw [frameId, fieldLE, fieldLE, List.drop_zero, List.drop_zero, htake]

end OpenHcan.Daemon
