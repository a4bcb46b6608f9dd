import OpenHcan.Lib.Machine
import OpenHcan.Daemon.Hcand

/-!
# HcandPeers — the peer table of the hub

Datagrams from senders with an address and alarms, in any order: no two live
slots hold the same sender, a peer that sends often enough keeps its slot,
and a frame goes once to every other live peer (`peer_table`).

A slot is only filled when no slot holds the sender, so the senders in live
slots stay distinct. Because of that the slot that a datagram of a peer resets
is the peer's own one, and its timeout counts the alarms since then.
-/

namespace OpenHcan.Daemon

open Lib (run Guarded)

set_option maxRecDepth 100000

/-- A datagram from a sender with an address, or an alarm. -/
def Event.Addressed : Event → Prop
  | .datagram peer _ => peer.sinAddr ≠ 0
  | .recvFailed => False
  | .alarm => True

/-- No two live slots hold the same sender. -/
def DistinctPeers (peers : List Peer) : Prop :=
  ∀ (i j : Nat) (p q : Peer), peers[i]? = some p → peers[j]? = some q → p.live = true →
    p.addr = q.addr → i = j

/-- A live slot holds `peer`. -/
def Registered (peers : List Peer) (peer : SockAddrIn) : Prop :=
  ∃ p ∈ peers, p.live = true ∧ p.addr = peer

theorem live_iff (p : Peer) : p.live = true ↔ p.addr.sinAddr ≠ 0 := by
  rw [Peer.live, bne_iff_ne]

theorem addrCmp_iff (a b : SockAddrIn) : addrCmp a b = true ↔ a = b := by
  rw [addrCmp, beq_iff_eq]

/-! ## The table operations -/

theorem resetTimeout_get (peers : List Peer) (i j : Nat) {p : Peer}
    (h : (peers.modify i fun p => { p with timeout := 0 })[j]? = some p) :
    ∃ q, peers[j]? = some q ∧ p.addr = q.addr := by
  rw [List.getElem?_modify] at h
  cases hq : peers[j]? with
  | none => simp [hq] at h
  | some q =>
      refine ⟨q, rfl, ?_⟩
      rw [hq] at h
      simp only [Option.map_eq_map, Option.map_some, Option.some.injEq] at h
      rw [← h]
      split <;> rfl

/-- Resetting a timeout does not touch the senders. -/
theorem DistinctPeers.resetTimeout {peers : List Peer} (h : DistinctPeers peers) (i : Nat) :
    DistinctPeers (peers.modify i fun p => { p with timeout := 0 }) := by
  intro j k p q hp hq hlive haddr
  obtain ⟨p', hp', hpa⟩ := resetTimeout_get peers i j hp
  obtain ⟨q', hq', hqa⟩ := resetTimeout_get peers i k hq
  rw [live_iff, hpa, ← live_iff] at hlive
  exact h j k p' q' hp' hq' hlive (by rw [← hpa, haddr, hqa])

theorem age_live {p : Peer} (h : p.age.live = true) : p.live = true ∧ p.age.addr = p.addr := by
  rw [Peer.age] at h ⊢
  split at h
  · next hlive =>
      refine ⟨hlive, ?_⟩
      rw [if_pos hlive]
      split at h
      · simp [Peer.live] at h
      · next hyoung => rw [if_neg hyoung]
  · next hdead => exact absurd h hdead

/-- The alarm handler frees slots and fills none. -/
theorem DistinctPeers.age {peers : List Peer} (h : DistinctPeers peers) :
    DistinctPeers (peers.map Peer.age) := by
  intro i j p q hp hq hlive haddr
  rw [List.getElem?_map, Option.map_eq_some_iff] at hp hq
  obtain ⟨p', hp', rfl⟩ := hp
  obtain ⟨q', hq', rfl⟩ := hq
  obtain ⟨hplive, hpa⟩ := age_live hlive
  have hqlive : q'.age.live = true := by
    rw [live_iff] at hlive ⊢
    rwa [← haddr]
  have hqa := (age_live hqlive).2
  exact h i j p' q' hp' hq' hplive (by rw [← hpa, haddr, hqa])

/-- What `does_peer_exist` finds. -/
theorem doesPeerExist_some {peers : List Peer} {peer : SockAddrIn} {i : Nat}
    (h : doesPeerExist peers peer = some i) : ∃ p, peers[i]? = some p ∧ p.addr = peer := by
  rw [doesPeerExist, List.findIdx?_eq_some_iff_getElem] at h
  obtain ⟨hi, hp, _⟩ := h
  refine ⟨peers[i], List.getElem?_eq_getElem hi, ?_⟩
  exact ((addrCmp_iff _ _).1 hp).symm

theorem doesPeerExist_none {peers : List Peer} {peer : SockAddrIn}
    (h : doesPeerExist peers peer = none) : ∀ p ∈ peers, p.addr ≠ peer := by
  rw [doesPeerExist, List.findIdx?_eq_none_iff] at h
  intro p hp heq
  have := h p hp
  rw [heq] at this
  simp [addrCmp] at this

/-- `add_peer` fills a free slot. -/
theorem addPeer_some {peers peers' : List Peer} {peer : SockAddrIn} {i : Nat}
    (h : addPeer peers peer = (peers', some i)) :
    peers' = peers.modify i (fun p => { p with addr := peer })
      ∧ ∃ p, peers[i]? = some p ∧ p.live = false := by
  rw [addPeer] at h
  split at h
  · next k hk =>
      cases h
      rw [List.findIdx?_eq_some_iff_getElem] at hk
      obtain ⟨hi, hp, _⟩ := hk
      refine ⟨rfl, peers[i], List.getElem?_eq_getElem hi, ?_⟩
      rw [beq_iff_eq] at hp
      simp [Peer.live, hp]
  · cases h

theorem addPeer_none {peers peers' : List Peer} {peer : SockAddrIn}
    (h : addPeer peers peer = (peers', none)) : peers' = peers := by
  rw [addPeer] at h
  split at h
  · cases h
  · cases h
    rfl

/-- What the admission of a sender with an address gives: its slot, with every
other live slot as it was. -/
structure Admitted (peers peers' : List Peer) (peer : SockAddrIn) (i : Nat) : Prop where
  slot : ∃ p, peers'[i]? = some p ∧ p.addr = peer
  keeps : ∀ (j : Nat) (p : Peer), peers[j]? = some p → p.live = true → peers'[j]? = some p
  distinct : DistinctPeers peers → DistinctPeers peers'

theorem enroll_some {peers peers' : List Peer} {peer : SockAddrIn} {i : Nat}
    (hpeer : peer.sinAddr ≠ 0) (h : enroll peers peer = (peers', some i)) :
    Admitted peers peers' peer i := by
  rw [enroll] at h
  split at h
  · next k hk =>
      cases h
      exact ⟨doesPeerExist_some hk, fun _ _ hp _ => hp, fun hd => hd⟩
  · next hnew =>
      obtain ⟨rfl, old, hold, hdead⟩ := addPeer_some h
      have hslot : (peers.modify i fun p => { p with addr := peer })[i]?
          = some { old with addr := peer } := by
        rw [List.getElem?_modify, hold]
        simp
      have hother : ∀ j, j ≠ i →
          (peers.modify i fun p => { p with addr := peer })[j]? = peers[j]? := by
        intro j hj
        rw [List.getElem?_modify]
        simp [Ne.symm hj]
      have hnone := doesPeerExist_none hnew
      refine ⟨⟨_, hslot, rfl⟩, ?_, ?_⟩
      · intro j p hp hlive
        have hj : j ≠ i := by
          rintro rfl
          rw [hold] at hp
          cases hp
          rw [hdead] at hlive
          cases hlive
        rw [hother j hj, hp]
      · -- no live slot holds the new sender
        intro hd j k p q hp hq hlive haddr
        by_cases hj : j = i
        · subst hj
          rw [hslot] at hp
          cases hp
          by_contra hk
          rw [hother k (fun h => hk h.symm)] at hq
          exact hnone q (List.mem_of_getElem? hq) haddr.symm
        · rw [hother j hj] at hp
          by_cases hk : k = i
          · subst hk
            rw [hslot] at hq
            cases hq
            exact absurd haddr (hnone p (List.mem_of_getElem? hp))
          · rw [hother k hk] at hq
            exact hd j k p q hp hq hlive haddr

theorem enroll_none {peers peers' : List Peer} {peer : SockAddrIn}
    (h : enroll peers peer = (peers', none)) : peers' = peers := by
  rw [enroll] at h
  split at h
  · cases h
  · exact addPeer_none h

/-! ## One event -/

/-- A turn of the loop with a sender that is admitted, or with a full table. -/
theorem loopTurn_cases (h : Hcand) (peer : SockAddrIn) (datagram : List UInt8) :
    (∃ peers i, enroll h.peers peer = (peers, some i)
        ∧ (loopTurn h peer datagram).1.peers
          = peers.modify i (fun p => { p with timeout := 0 }))
      ∨ (∃ peers, enroll h.peers peer = (peers, none)
        ∧ loopTurn h peer datagram = (⟨peers, recvfrom h.f datagram⟩, [])) := by
  rw [loopTurn]
  cases henroll : enroll h.peers peer with
  | mk peers slot =>
      cases slot with
      | none => exact Or.inr ⟨peers, rfl, rfl⟩
      | some i =>
          refine Or.inl ⟨peers, i, rfl, ?_⟩
          simp only
          split <;> rfl

/-- An event keeps the senders in live slots distinct. -/
theorem DistinctPeers.event {h : Hcand} {e : Event} (he : e.Addressed)
    (hd : DistinctPeers h.peers) : DistinctPeers (hcandStep h e).peers := by
  cases e with
  | datagram peer bytes =>
      show DistinctPeers (loopTurn h peer bytes).1.peers
      rcases loopTurn_cases h peer bytes with ⟨peers, i, henroll, hturn⟩ | ⟨peers, henroll, hturn⟩
      · rw [hturn]
        exact ((enroll_some he henroll).distinct hd).resetTimeout i
      · rw [hturn, enroll_none henroll]
        exact hd
  | recvFailed => exact absurd he id
  | alarm => exact hd.age

/-! ## The slot of a peer -/

/-- The alarms since the last datagram of `peer`. -/
def ticksSince (peer : SockAddrIn) (ticks : Nat) : Event → Nat
  | .datagram p _ => if p = peer then 0 else ticks
  | .recvFailed => ticks
  | .alarm => ticks + 1

theorem resetTimeout_self {peers : List Peer} {i : Nat} {p : Peer} (h : peers[i]? = some p) :
    (peers.modify i fun p => { p with timeout := 0 })[i]? = some { p with timeout := 0 } := by
  rw [List.getElem?_modify, h]
  simp

theorem resetTimeout_other (peers : List Peer) {i j : Nat} (h : j ≠ i) :
    (peers.modify i fun p => { p with timeout := 0 })[j]? = peers[j]? := by
  rw [List.getElem?_modify]
  simp [Ne.symm h]

theorem enroll_ne_none {peers peers' : List Peer} {peer : SockAddrIn}
    (hin : ∃ p ∈ peers, p.addr = peer) : enroll peers peer ≠ (peers', none) := by
  intro h
  rw [enroll] at h
  split at h
  · cases h
  · next hnone =>
      obtain ⟨p, hp, haddr⟩ := hin
      exact doesPeerExist_none hnone p hp haddr

/-- A sender that has a slot behind the turn was admitted. -/
theorem admitted_of_registered {h : Hcand} {peer : SockAddrIn} {bytes : List UInt8}
    (hreg : Registered (hcandStep h (.datagram peer bytes)).peers peer) :
    ∃ peers i, enroll h.peers peer = (peers, some i) := by
  replace hreg : Registered (loopTurn h peer bytes).1.peers peer := hreg
  rcases loopTurn_cases h peer bytes with ⟨peers, i, henroll, _⟩ | ⟨peers, henroll, hturn⟩
  · exact ⟨peers, i, henroll⟩
  · obtain ⟨p, hp, _, haddr⟩ := hreg
    rw [hturn] at hp
    rw [enroll_none henroll] at hp
    exact absurd henroll (enroll_ne_none ⟨p, hp, haddr⟩)

/-- An admitted sender has a fresh slot behind the turn. -/
theorem registered_slot {h : Hcand} {peer : SockAddrIn} {bytes : List UInt8}
    (hpeer : peer.sinAddr ≠ 0) (hreg : Registered (hcandStep h (.datagram peer bytes)).peers peer) :
    ∃ i : Nat, (hcandStep h (.datagram peer bytes)).peers[i]? = some ⟨peer, 0⟩ := by
  obtain ⟨peers, i, henroll⟩ := admitted_of_registered hreg
  show ∃ i : Nat, (loopTurn h peer bytes).1.peers[i]? = some ⟨peer, 0⟩
  rcases loopTurn_cases h peer bytes with ⟨peers', j, henroll', hturn⟩ | ⟨peers', henroll', _⟩
  · obtain ⟨p, hp, rfl⟩ := (enroll_some hpeer henroll').slot
    exact ⟨j, by rw [hturn, resetTimeout_self hp]⟩
  · rw [henroll] at henroll'
    cases henroll'

/-- A datagram of the peer resets the timeout of its slot. -/
theorem slot_datagram_own {h : Hcand} {peer : SockAddrIn} {bytes : List UInt8} {i : Nat} {t : Int}
    (hpeer : peer.sinAddr ≠ 0) (hd : DistinctPeers h.peers)
    (hi : h.peers[i]? = some ⟨peer, t⟩) :
    (hcandStep h (.datagram peer bytes)).peers[i]? = some ⟨peer, 0⟩ := by
  show (loopTurn h peer bytes).1.peers[i]? = some ⟨peer, 0⟩
  have hlive : (Peer.mk peer t).live = true := (live_iff _).2 hpeer
  rcases loopTurn_cases h peer bytes with ⟨peers, k, henroll, hturn⟩ | ⟨peers, henroll, hturn⟩
  · have hadm := enroll_some hpeer henroll
    obtain ⟨p, hk, haddr⟩ := hadm.slot
    have hkeep := hadm.keeps i _ hi hlive
    -- the slot that is reset is the one that holds the peer
    have hik : i = k := hadm.distinct hd i k _ p hkeep hk hlive haddr.symm
    subst hik
    rw [hturn, resetTimeout_self hkeep]
  · exact absurd henroll (enroll_ne_none ⟨_, List.mem_of_getElem? hi, rfl⟩)

/-- A datagram of another sender leaves the slot alone. -/
theorem slot_datagram_other {h : Hcand} {peer other : SockAddrIn} {bytes : List UInt8} {i : Nat}
    {t : Int} (hpeer : peer.sinAddr ≠ 0) (hother : other.sinAddr ≠ 0) (hne : other ≠ peer)
    (hi : h.peers[i]? = some ⟨peer, t⟩) :
    (hcandStep h (.datagram other bytes)).peers[i]? = some ⟨peer, t⟩ := by
  show (loopTurn h other bytes).1.peers[i]? = some ⟨peer, t⟩
  have hlive : (Peer.mk peer t).live = true := (live_iff _).2 hpeer
  rcases loopTurn_cases h other bytes with ⟨peers, k, henroll, hturn⟩ | ⟨peers, henroll, hturn⟩
  · have hadm := enroll_some hother henroll
    obtain ⟨p, hk, haddr⟩ := hadm.slot
    have hkeep := hadm.keeps i _ hi hlive
    have hik : i ≠ k := by
      rintro rfl
      rw [hkeep] at hk
      cases hk
      exact hne haddr.symm
    rw [hturn, resetTimeout_other _ hik, hkeep]
  · rw [hturn, enroll_none henroll]
    exact hi

/-- The alarm ages the slot, and frees it behind the sixtieth one. -/
theorem slot_alarm {h : Hcand} {peer : SockAddrIn} {i t : Nat} (hpeer : peer.sinAddr ≠ 0)
    (ht : t + 1 ≤ 60) (hi : h.peers[i]? = some ⟨peer, t⟩) :
    (hcandStep h .alarm).peers[i]? = some ⟨peer, (t + 1 : Nat)⟩ := by
  show (h.peers.map Peer.age)[i]? = _
  have hlive : (Peer.mk peer t).live = true := (live_iff _).2 hpeer
  rw [List.getElem?_map, hi, Option.map_some, Peer.age, if_pos hlive,
    if_neg (by rw [timeoutTicks]; simp only; omega)]
  rfl

/-- One event: the timeout of the slot of a peer counts the alarms since its
last datagram, as long as there are at most 60. -/
theorem slot_event {h : Hcand} {e : Event} {peer : SockAddrIn} {i t : Nat}
    (hpeer : peer.sinAddr ≠ 0) (he : e.Addressed) (hd : DistinctPeers h.peers)
    (hi : h.peers[i]? = some ⟨peer, t⟩) (ht : ticksSince peer t e ≤ 60) :
    (hcandStep h e).peers[i]? = some ⟨peer, ticksSince peer t e⟩ := by
  cases e with
  | datagram p bytes =>
      rw [ticksSince]
      split
      · next hp =>
          subst hp
          exact slot_datagram_own hpeer hd hi
      · next hp => exact slot_datagram_other hpeer he hp hi
  | recvFailed => exact absurd he id
  | alarm => exact slot_alarm hpeer ht hi

/-- `peer` never lets more than 60 alarms go by without a datagram. -/
def SendsEveryMinute (peer : SockAddrIn) (es : List Event) : Prop :=
  ∀ es', es' <+: es → run (ticksSince peer) 0 es' ≤ 60

/-- The run: the slot of such a peer stays its slot. -/
theorem slot_run {peer : SockAddrIn} (hpeer : peer.sinAddr ≠ 0) (es : List Event) (h : Hcand)
    {i t : Nat} (hes : ∀ e ∈ es, e.Addressed) (hd : DistinctPeers h.peers)
    (hi : h.peers[i]? = some ⟨peer, t⟩)
    (hoften : ∀ es', es' <+: es → run (ticksSince peer) t es' ≤ 60) :
    (run hcandStep h es).peers[i]? = some ⟨peer, (run (ticksSince peer) t es : Nat)⟩ := by
  induction es generalizing h t with
  | nil => exact hi
  | cons e es ih =>
      have he : e.Addressed := hes e (by simp)
      have hnow : ticksSince peer t e ≤ 60 := hoften [e] ⟨es, rfl⟩
      have hslot := slot_event hpeer he hd hi hnow
      apply ih (hcandStep h e) (fun e' he' => hes e' (by simp [he'])) (hd.event he) hslot
      intro es' hes'
      exact hoften (e :: es') (List.cons_prefix_cons.2 ⟨rfl, hes'⟩)

/-! ## What is sent -/

theorem pairwise_addr {peers : List Peer} (h : DistinctPeers peers) :
    peers.Pairwise fun p q => p.live = true → p.addr ≠ q.addr := by
  rw [List.pairwise_iff_getElem]
  intro i j hi hj hij hlive haddr
  have := h i j _ _ (List.getElem?_eq_getElem hi) (List.getElem?_eq_getElem hj) hlive haddr
  omega

/-- The frame goes to every registered sender but the one it came from. -/
theorem mem_sendToPeers (peers : List Peer) (f : Vector UInt8 16) (peer q : SockAddrIn) :
    q ∈ (sendToPeers peers f peer).map Sent.dest ↔ q ≠ peer ∧ Registered peers q := by
  simp only [sendToPeers, List.map_map, List.mem_map, List.mem_filter, Function.comp,
    Bool.and_eq_true, Bool.not_eq_true', Registered]
  constructor
  · rintro ⟨p, ⟨hp, hlive, hne⟩, rfl⟩
    refine ⟨?_, p, hp, hlive, rfl⟩
    intro heq
    rw [(addrCmp_iff _ _).2 heq] at hne
    cases hne
  · rintro ⟨hne, p, hp, hlive, rfl⟩
    refine ⟨p, ⟨hp, hlive, ?_⟩, rfl⟩
    rw [← Bool.not_eq_true]
    exact fun h => hne ((addrCmp_iff _ _).1 h)

/-- It goes to nobody twice. -/
theorem nodup_sendToPeers {peers : List Peer} (h : DistinctPeers peers) (f : Vector UInt8 16)
    (peer : SockAddrIn) : ((sendToPeers peers f peer).map Sent.dest).Nodup := by
  rw [sendToPeers, List.map_map]
  apply List.Pairwise.map
  · exact fun _ _ hne => hne
  · rw [List.pairwise_filter]
    apply (pairwise_addr h).imp
    intro p q himp hp _
    exact himp (Bool.and_eq_true_iff.1 hp).1

/-- All of them get the frame in the buffer. -/
theorem bytes_sendToPeers {peers : List Peer} {f : Vector UInt8 16} {peer : SockAddrIn} {s : Sent}
    (hs : s ∈ sendToPeers peers f peer) : s.bytes = f.toList := by
  obtain ⟨p, _, rfl⟩ := List.mem_map.1 hs
  rfl

/-- What a turn with an admitted sender and a non-zero id sends. -/
theorem loopTurn_sends {h : Hcand} {peer : SockAddrIn} {bytes : List UInt8}
    (hid : frameId (recvfrom h.f bytes) ≠ 0)
    (hreg : Registered (hcandStep h (.datagram peer bytes)).peers peer) :
    (hcandEvent h (.datagram peer bytes)).2
      = sendToPeers (hcandStep h (.datagram peer bytes)).peers (recvfrom h.f bytes) peer := by
  obtain ⟨peers, i, henroll⟩ := admitted_of_registered hreg
  simp only [hcandStep, hcandEvent, loopTurn, henroll, if_neg hid]

/-- In the state `h`, the frame a datagram has brought is sent once to every
live peer but the sender, and to nobody else. -/
def DeliversOnce (h : Hcand) (peer : SockAddrIn) (bytes : List UInt8) : Prop :=
  let peers := (hcandStep h (.datagram peer bytes)).peers
  let sent := (hcandEvent h (.datagram peer bytes)).2
  (∀ q, ((q ≠ peer ∧ Registered peers q) → (sent.map Sent.dest).count q = 1)
      ∧ (¬ (q ≠ peer ∧ Registered peers q) → (sent.map Sent.dest).count q = 0))
    ∧ ∀ s ∈ sent, s.bytes = (recvfrom h.f bytes).toList

/-- In all runs from `h`, the sender keeps the slot it has in `h`. -/
def KeepsSlot (h : Hcand) (peer : SockAddrIn) (es : List Event) : Prop :=
  ∃ i : Nat, ∀ es', es' <+: es → ∃ t, (run hcandStep h es').peers[i]? = some ⟨peer, t⟩

theorem distinct_start (f : Vector UInt8 16) : DistinctPeers (hcandStart f).peers := by
  intro i j p q hp _ hlive
  rw [List.eq_of_mem_replicate (List.mem_of_getElem? hp)] at hlive
  cases hlive

theorem distinct_run (f : Vector UInt8 16) (es : List Event) (hes : ∀ e ∈ es, e.Addressed) :
    DistinctPeers (run hcandStep (hcandStart f) es).peers :=
  Lib.run_guarded (I := fun h : Hcand => DistinctPeers h.peers)
    (fun _ _ he hd => DistinctPeers.event he hd) es _
    (Lib.guarded_of_forall es _ hes) (distinct_start f)

/-- **The peer table.** After any datagrams from senders with an address and
any alarms: the senders in live slots are distinct; a sender that gets a slot
keeps it as long as it sends often enough; and the frame of a datagram goes
once to every other live peer, never back to its sender. -/
theorem peer_table (f : Vector UInt8 16) (es : List Event) (hes : ∀ e ∈ es, e.Addressed) :
    DistinctPeers (run hcandStep (hcandStart f) es).peers
      ∧ (∀ peer bytes, peer.sinAddr ≠ 0 →
          Registered (hcandStep (run hcandStep (hcandStart f) es) (.datagram peer bytes)).peers peer →
          (∀ post, (∀ e ∈ post, e.Addressed) → SendsEveryMinute peer post →
            KeepsSlot (hcandStep (run hcandStep (hcandStart f) es) (.datagram peer bytes)) peer post)
          ∧ (frameId (recvfrom (run hcandStep (hcandStart f) es).f bytes) ≠ 0 →
            DeliversOnce (run hcandStep (hcandStart f) es) peer bytes)) := by
  have hd := distinct_run f es hes
  refine ⟨hd, ?_⟩
  generalize run hcandStep (hcandStart f) es = h at hd ⊢
  intro peer bytes hpeer hreg
  have hd' : DistinctPeers (hcandStep h (.datagram peer bytes)).peers :=
    DistinctPeers.event (e := .datagram peer bytes) hpeer hd
  constructor
  · intro post hpost hoften
    obtain ⟨i, hi⟩ := registered_slot hpeer hreg
    refine ⟨i, ?_⟩
    intro es' hes'
    refine ⟨_, slot_run (t := 0) hpeer es' _ (fun e he => hpost e (hes'.subset he)) hd' hi ?_⟩
    intro es'' hes''
    exact hoften es'' (hes''.trans hes')
  · intro hid
    rw [DeliversOnce, loopTurn_sends hid hreg]
    refine ⟨?_, fun s hs => bytes_sendToPeers hs⟩
    intro q
    rw [(nodup_sendToPeers hd' _ peer).count]
    constructor
    · intro hq
      rw [if_pos ((mem_sendToPeers _ _ _ _).2 hq)]
    · intro hq
      rw [if_neg fun hmem => hq ((mem_sendToPeers _ _ _ _).1 hmem)]

/-- A frame with the id 1. -/
def frameOne : List UInt8 := 1 :: List.replicate 15 0

/-- Two peers, an alarm in between: the frame of the second goes to the first. -/
theorem peer_table_two :
    DeliversOnce (run hcandStep (hcandStart (Vector.replicate 16 0))
      [.datagram ⟨2, 3600, 1, 0⟩ frameOne, .alarm]) ⟨2, 3600, 2, 0⟩ frameOne := by
  have hes : ∀ e ∈ [Event.datagram ⟨2, 3600, 1, 0⟩ frameOne, .alarm], e.Addressed := by
    intro e he
    rcases List.mem_pair.1 he with rfl | rfl
    · show (1 : UInt32) ≠ 0
      decide
    · trivial
  have hreg : Registered (hcandStep (run hcandStep (hcandStart (Vector.replicate 16 0))
      [.datagram ⟨2, 3600, 1, 0⟩ frameOne, .alarm]) (.datagram ⟨2, 3600, 2, 0⟩ frameOne)).peers
      ⟨2, 3600, 2, 0⟩ := ⟨⟨⟨2, 3600, 2, 0⟩, 0⟩, by decide, by decide, rfl⟩
  exact ((peer_table (Vector.replicate 16 0) _ hes).2 ⟨2, 3600, 2, 0⟩ frameOne (by decide) hreg).2
    (by decide)

end OpenHcan.Daemon
