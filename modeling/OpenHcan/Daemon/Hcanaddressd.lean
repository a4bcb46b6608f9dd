import Mathlib.Data.List.Basic

/-!
# Hcanaddressd — the address daemon

`hcanaddressd` hands out HCAN addresses. A client that connects gets the
address of the first free slot and keeps it as long as the connection stands;
a slot is freed when `read` reports the end of the connection. The number of
the socket is all that links a slot to a client.

A turn of the main loop is a function of what the kernel answers in it. The
answers are arbitrary: nothing is assumed about the descriptors `accept` gives,
the sockets `select` reports or the results of `read`.
-/

namespace OpenHcan.Addressd

/-- `MAX_PEER` -/
def maxPeer : Nat := 32

/-- `START_PEER` -/
def startPeerDefault : UInt16 := 512

/-- `peer_t` -/
structure Peer where
  socket : Int
  address : Int
deriving DecidableEq, Repr

/-- `init_peer_array` -/
def initPeerArray (startPeer : UInt16) : List Peer :=
  (List.range maxPeer).map fun i : Nat => ⟨-1, startPeer.toNat + i⟩

/-- `assign_address` -/
def assignAddress (sock : Int) : List Peer → List Peer × Int
  | [] => ([], -1)
  | p :: peers =>
      if p.socket = -1 then (⟨sock, p.address⟩ :: peers, p.address)
      else
        let (peers, address) := assignAddress sock peers
        (p :: peers, address)

/-- What the kernel answers in a turn of the loop: whether `select` reports
anything, the listening socket among it, what `accept` returns, the sockets
reported, and what `read` returns on them. -/
structure Answers where
  res : Bool
  listening : Bool
  accepted : Int
  ready : Int → Bool
  nread : Int → Int

/-- `FD_ISSET(socket, &rfd)`: only sockets that were asked for are reported. -/
def fdIsset (peers : List Peer) (t : Answers) (socket : Int) : Bool :=
  (peers.any fun p => p.socket == socket) && t.ready socket

/-- The part of the turn that serves the listening socket, and the client that
got an address. With all slots in use the client is closed. -/
def acceptClient (peers : List Peer) (t : Answers) : List Peer × Option (Int × Int) :=
  if t.listening && t.accepted ≠ -1 then
    let (peers, newAddress) := assignAddress t.accepted peers
    if newAddress = -1 then (peers, none) else (peers, some (t.accepted, newAddress))
  else (peers, none)

/-- The part of the turn for one slot. -/
def readPeer (rfd : Int → Bool) (nread : Int → Int) (p : Peer) : Peer :=
  if p.socket ≠ -1 ∧ rfd p.socket = true then
    -- `nread` is a `size_t`: a failed read is a large number, not 0
    if nread p.socket = 0 then { p with socket := -1 } else p
  else p

/-- A turn of the main loop. -/
def mainTurn (peers : List Peer) (t : Answers) : List Peer × Option (Int × Int) :=
  if t.res then
    let rfd := fdIsset peers t
    let (peers, assigned) := acceptClient peers t
    (peers.map (readPeer rfd t.nread), assigned)
  else (peers, none)

end OpenHcan.Addressd
