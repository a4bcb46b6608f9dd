import Mathlib.Data.List.Nodup
import OpenHcan.Daemon.Hcanaddressd
import OpenHcan.Lib.Machine

/-!
# AddressPool — who holds which address

The state of the daemon with the connections that hold an address: a
connection holds the address it got until `read` has reported its end, as 0
(closed) or -1 (reset). No two of them ever hold the same address, and the
slots in use are those of the connections that hold one, as long as no
connection is reset.
-/

namespace OpenHcan.Addressd

open Lib

/-- The slots, and the connections (socket and address) whose end has not been
reported. -/
structure Pool where
  peers : List Peer
  held : List (Int × Int)
deriving DecidableEq, Repr

/-- Before the first client. -/
def poolStart (startPeer : UInt16) : Pool := ⟨initPeerArray startPeer, []⟩

/-- `read` reports the end of the connection. -/
def endReported (peers : List Peer) (t : Answers) (c : Int × Int) : Bool :=
  t.res && fdIsset peers t c.1 && decide (t.nread c.1 ≤ 0)

/-- A turn: a new client is connected, and the connections reported as ended
hold nothing any more. -/
def poolTurn (s : Pool) (t : Answers) : Pool where
  peers := (mainTurn s.peers t).1
  held := (s.held ++ (mainTurn s.peers t).2.toList).filter fun c => !endReported s.peers t c

/-- A reset is reported: `read` fails on a connection. -/
def ResetReported (s : Pool) (t : Answers) : Prop :=
  t.res = true ∧ ∃ p ∈ s.peers, p.socket ≠ -1 ∧ t.ready p.socket = true ∧ t.nread p.socket < 0

/-- Every slot in use is that of a connection. -/
def NoneLost (s : Pool) : Prop :=
  ∀ p ∈ s.peers, p.socket ≠ -1 → (p.socket, p.address) ∈ s.held

/-- After the turn no two connections hold the same address, the address handed
out was held by none, the slots have their addresses, and every slot in use is
that of a connection. -/
structure TurnSound (s : Pool) (t : Answers) : Prop where
  unique : ((poolTurn s t).held.map Prod.snd).Nodup
  handedOut : ∀ c ∈ (mainTurn s.peers t).2, c.2 ∉ s.held.map Prod.snd
  slots : (poolTurn s t).peers.map Peer.address = s.peers.map Peer.address
  noneLost : NoneLost (poolTurn s t)

/-- The addresses are different and none is -1, and a connection has the slot
with its address. -/
structure PoolOk (s : Pool) : Prop where
  addresses : (s.peers.map Peer.address).Nodup
  valid : ∀ p ∈ s.peers, p.address ≠ -1
  inSlot : ∀ c ∈ s.held, c.1 ≠ -1 ∧ (⟨c.1, c.2⟩ : Peer) ∈ s.peers
  unique : (s.held.map Prod.snd).Nodup

theorem poolOk_start (startPeer : UInt16) : PoolOk (poolStart startPeer) where
  addresses := by
    rw [poolStart, initPeerArray, List.map_map]
    apply List.Nodup.map _ List.nodup_range
    intro i j h
    have hij : (i : Int) = j := by simpa using h
    omega
  valid := by
    intro p hp
    simp only [poolStart, initPeerArray, List.mem_map] at hp
    obtain ⟨i, _, rfl⟩ := hp
    show (startPeer.toNat : Int) + i ≠ -1
    omega
  inSlot := by simp [poolStart]
  unique := by simp [poolStart]

theorem noneLost_start (startPeer : UInt16) : NoneLost (poolStart startPeer) := by
  intro p hp hused
  simp only [poolStart, initPeerArray, List.mem_map] at hp
  obtain ⟨i, _, rfl⟩ := hp
  exact absurd rfl hused

/-! ## A new client -/

/-- The first free slot, or none. -/
theorem assignAddress_cases (sock : Int) (peers : List Peer) :
    (∃ pre p post, peers = pre ++ p :: post ∧ p.socket = -1 ∧
      assignAddress sock peers = (pre ++ ⟨sock, p.address⟩ :: post, p.address)) ∨
    ((∀ p ∈ peers, p.socket ≠ -1) ∧ assignAddress sock peers = (peers, -1)) := by
  induction peers with
  | nil => exact .inr ⟨by simp, rfl⟩
  | cons p peers ih =>
      rw [assignAddress]
      by_cases hfree : p.socket = -1
      · rw [if_pos hfree]
        exact .inl ⟨[], p, peers, rfl, hfree, rfl⟩
      · rw [if_neg hfree]
        obtain ⟨pre, q, post, rfl, hq, heq⟩ | ⟨hall, heq⟩ := ih
        · exact .inl ⟨p :: pre, q, post, rfl, hq, by rw [heq]; rfl⟩
        · refine .inr ⟨?_, by rw [heq]⟩
          intro q hq
          obtain rfl | hq := List.mem_cons.mp hq
          · exact hfree
          · exact hall q hq

/-- Serving the listening socket: nothing changes, or a client gets a free
slot. -/
theorem acceptClient_cases {peers : List Peer} (hvalid : ∀ p ∈ peers, p.address ≠ -1)
    (t : Answers) :
    acceptClient peers t = (peers, none) ∨
    ∃ pre p post, peers = pre ++ p :: post ∧ p.socket = -1 ∧ t.accepted ≠ -1 ∧
      acceptClient peers t =
        (pre ++ ⟨t.accepted, p.address⟩ :: post, some (t.accepted, p.address)) := by
  rw [acceptClient]
  split
  · next hc =>
      have hacc : t.accepted ≠ -1 := by simp_all
      obtain ⟨pre, p, post, rfl, hp, heq⟩ | ⟨_, heq⟩ := assignAddress_cases t.accepted peers
      · have hne : p.address ≠ -1 := hvalid p (by simp)
        simp only [heq, if_neg hne]
        exact .inr ⟨pre, p, post, rfl, hp, hacc, rfl⟩
      · -- all slots are in use
        rw [heq]
        exact .inl rfl
  · exact .inl rfl

/-- A slot keeps its address. -/
theorem readPeer_address (rfd : Int → Bool) (nread : Int → Int) (p : Peer) :
    (readPeer rfd nread p).address = p.address := by
  rw [readPeer]
  split
  · split <;> rfl
  · rfl

/-- A slot in use after the reads was in use before, and no end of its
connection was reported by a 0. -/
theorem readPeer_used {rfd : Int → Bool} {nread : Int → Int} {p : Peer}
    (h : (readPeer rfd nread p).socket ≠ -1) :
    readPeer rfd nread p = p ∧ (rfd p.socket = true → nread p.socket ≠ 0) := by
  rw [readPeer] at h ⊢
  split at h
  · next hr =>
      split at h
      · exact absurd rfl h
      · next hn => exact ⟨by rw [if_pos hr, if_neg hn], fun _ => hn⟩
  · next hr => exact ⟨by rw [if_neg hr], fun hrfd => absurd ⟨h, hrfd⟩ hr⟩

/-- Only a 0 frees a slot in use. -/
theorem readPeer_kept {rfd : Int → Bool} {nread : Int → Int} {p : Peer}
    (h : rfd p.socket = true → nread p.socket ≠ 0) : readPeer rfd nread p = p := by
  rw [readPeer]
  split
  · next hr => rw [if_neg (h hr.2)]
  · rfl

/-! ## The state between the client and the reads -/

/-- The pool after the listening socket is served. -/
def served (s : Pool) (t : Answers) : Pool where
  peers := (acceptClient s.peers t).1
  held := s.held ++ (acceptClient s.peers t).2.toList

/-- No connection holds the address of a free slot. -/
theorem PoolOk.free {s : Pool} (h : PoolOk s) {p : Peer} (hp : p ∈ s.peers)
    (hfree : p.socket = -1) :
    p.address ∉ s.held.map Prod.snd := by
  intro hmem
  obtain ⟨c, hc, hca⟩ := List.mem_map.mp hmem
  obtain ⟨hc1, hslot⟩ := h.inSlot c hc
  -- the slot of that connection has the same address, so it is the free one
  have heq := List.inj_on_of_nodup_map h.addresses hslot hp hca
  rw [← heq] at hfree
  exact hc1 hfree

theorem handedOut_free {s : Pool} (h : PoolOk s) (t : Answers) :
    ∀ c ∈ (acceptClient s.peers t).2, c.2 ∉ s.held.map Prod.snd := by
  obtain heq | ⟨pre, p, post, hpeers, hfree, hacc, heq⟩ := acceptClient_cases h.valid t
  · rw [heq]
    simp
  · rw [heq]
    intro c hc
    cases hc
    exact h.free (by simp [hpeers]) hfree

theorem served_addresses {s : Pool} (h : PoolOk s) (t : Answers) :
    (served s t).peers.map Peer.address = s.peers.map Peer.address := by
  obtain heq | ⟨pre, p, post, hpeers, hfree, hacc, heq⟩ := acceptClient_cases h.valid t
  · rw [served, heq]
  · rw [served, heq, hpeers]
    simp

/-- A slot in use stays as it is. -/
theorem served_used {s : Pool} (h : PoolOk s) (t : Answers) {p : Peer} (hp : p ∈ s.peers)
    (hused : p.socket ≠ -1) : p ∈ (served s t).peers := by
  obtain heq | ⟨pre, q, post, hpeers, hfree, hacc, heq⟩ := acceptClient_cases h.valid t
  · simpa [served, heq] using hp
  · have hne : p ≠ q := by
      intro heq
      rw [heq] at hused
      exact hused hfree
    rw [hpeers] at hp
    simp only [served, heq]
    simp only [List.mem_append, List.mem_cons] at hp ⊢
    obtain hp | rfl | hp := hp
    · exact .inl hp
    · exact absurd rfl hne
    · exact .inr (.inr hp)

theorem poolOk_served {s : Pool} (h : PoolOk s) (t : Answers) : PoolOk (served s t) where
  addresses := by
    rw [served_addresses h]
    exact h.addresses
  valid := by
    intro p hp
    have hmem : p.address ∈ s.peers.map Peer.address := by
      rw [← served_addresses h t]
      exact List.mem_map_of_mem hp
    obtain ⟨q, hq, hqa⟩ := List.mem_map.mp hmem
    rw [← hqa]
    exact h.valid q hq
  inSlot := by
    intro c hc
    obtain hold | hnew := List.mem_append.mp hc
    · obtain ⟨hc1, hslot⟩ := h.inSlot c hold
      exact ⟨hc1, served_used h t hslot hc1⟩
    · obtain heq | ⟨pre, p, post, hpeers, hfree, hacc, heq⟩ := acceptClient_cases h.valid t
      · simp [heq] at hnew
      · simp only [heq, Option.toList_some, List.mem_singleton] at hnew
        subst hnew
        refine ⟨hacc, ?_⟩
        simp [served, heq]
  unique := by
    have hout := handedOut_free h t
    cases hc : (acceptClient s.peers t).2 with
    | none => simpa [served, hc] using h.unique
    | some c =>
        have hfree := hout c hc
        simp only [served, hc, Option.toList_some, List.map_append, List.map_cons, List.map_nil]
        rw [List.nodup_append]
        refine ⟨h.unique, by simp, ?_⟩
        intro a ha b hb
        obtain rfl := List.mem_singleton.mp hb
        intro hab
        exact hfree (hab ▸ ha)

theorem noneLost_served {s : Pool} (h : PoolOk s) (hlost : NoneLost s) (t : Answers) :
    NoneLost (served s t) := by
  intro p hp hused
  obtain heq | ⟨pre, q, post, hpeers, hfree, hacc, heq⟩ := acceptClient_cases h.valid t
  · simp only [served, heq] at hp ⊢
    simpa using hlost p hp hused
  · simp only [served, heq, List.mem_append, List.mem_cons] at hp
    simp only [served, heq, List.mem_append, Option.toList_some, List.mem_singleton]
    obtain hp | rfl | hp := hp
    · exact .inl (hlost p (by simp [hpeers, hp]) hused)
    · exact .inr rfl
    · exact .inl (hlost p (by simp [hpeers, hp]) hused)

/-! ## The reads -/

/-- A turn in which `select` reports something, in terms of the served pool. -/
theorem poolTurn_res {s : Pool} {t : Answers} (h : t.res = true) :
    poolTurn s t = ⟨(served s t).peers.map (readPeer (fdIsset s.peers t) t.nread),
      (served s t).held.filter fun c => !(fdIsset s.peers t c.1 && decide (t.nread c.1 ≤ 0))⟩ := by
  simp [poolTurn, mainTurn, served, endReported, h]

/-- A turn in which it reports nothing. -/
theorem poolTurn_timeout {s : Pool} {t : Answers} (h : t.res = false) : poolTurn s t = s := by
  simp [poolTurn, mainTurn, endReported, h]

theorem poolTurn_addresses {s : Pool} (h : PoolOk s) (t : Answers) :
    (poolTurn s t).peers.map Peer.address = s.peers.map Peer.address := by
  cases hres : t.res with
  | false => rw [poolTurn_timeout hres]
  | true =>
      rw [poolTurn_res hres, ← served_addresses h t, List.map_map]
      apply List.map_congr_left
      intro p _
      exact readPeer_address _ _ p

theorem handedOut_turn {s : Pool} (h : PoolOk s) (t : Answers) :
    ∀ c ∈ (mainTurn s.peers t).2, c.2 ∉ s.held.map Prod.snd := by
  rw [mainTurn]
  split
  · exact handedOut_free h t
  · intro c hc
    cases hc

theorem poolOk_turn {s : Pool} (h : PoolOk s) (t : Answers) : PoolOk (poolTurn s t) := by
  cases hres : t.res with
  | false => rwa [poolTurn_timeout hres]
  | true =>
      have hserved := poolOk_served h t
      constructor
      · rw [poolTurn_addresses h]
        exact h.addresses
      · intro p hp
        rw [poolTurn_res hres] at hp
        obtain ⟨q, hq, rfl⟩ := List.mem_map.mp hp
        rw [readPeer_address]
        exact hserved.valid q hq
      · intro c hc
        rw [poolTurn_res hres] at hc ⊢
        simp only [List.mem_filter] at hc
        obtain ⟨hc1, hslot⟩ := hserved.inSlot c hc.1
        refine ⟨hc1, List.mem_map.mpr ⟨_, hslot, ?_⟩⟩
        apply readPeer_kept
        intro hr hn
        -- a connection that is still held was not reported as closed
        simp [show fdIsset s.peers t c.1 = true from hr, show t.nread c.1 = 0 from hn] at hc
      · rw [poolTurn_res hres]
        exact hserved.unique.sublist (List.filter_sublist.map Prod.snd)

/-! ## The claim -/

/-- No address is lost in a turn iff no reset is reported in it. -/
theorem noneLost_turn_iff {s : Pool} (h : PoolOk s) (hlost : NoneLost s) (t : Answers) :
    NoneLost (poolTurn s t) ↔ ¬ ResetReported s t := by
  constructor
  · rintro hnone ⟨hres, p, hp, hused, hready, hreset⟩
    have hset : fdIsset s.peers t p.socket = true := by
      simp only [fdIsset, Bool.and_eq_true, List.any_eq_true]
      exact ⟨⟨p, hp, by simp⟩, hready⟩
    have hkept : readPeer (fdIsset s.peers t) t.nread p = p := readPeer_kept fun _ => by omega
    -- the slot stays in use, and the connection is gone
    have hmem : p ∈ (poolTurn s t).peers := by
      rw [poolTurn_res hres]
      exact List.mem_map.mpr ⟨p, served_used h t hp hused, hkept⟩
    have hheld := hnone p hmem hused
    rw [poolTurn_res hres] at hheld
    simp only [List.mem_filter] at hheld
    simp [hset] at hheld
    omega
  · intro hreset
    cases hres : t.res with
    | false => rwa [poolTurn_timeout hres]
    | true =>
        intro p hp hused
        rw [poolTurn_res hres] at hp ⊢
        obtain ⟨q, hq, rfl⟩ := List.mem_map.mp hp
        obtain ⟨hkept, hread⟩ := readPeer_used hused
        rw [hkept] at hused ⊢
        refine List.mem_filter.mpr ⟨noneLost_served h hlost t q hq hused, ?_⟩
        cases hset : fdIsset s.peers t q.socket with
        | false => simp
        | true =>
            have hn := hread hset
            have hpos : ¬ t.nread q.socket < 0 := by
              intro hneg
              simp only [fdIsset, Bool.and_eq_true, List.any_eq_true, beq_iff_eq] at hset
              obtain ⟨⟨r, hr, hrs⟩, hready⟩ := hset
              apply hreset
              exact ⟨hres, r, hr, by rwa [hrs], by rwa [hrs], by rwa [hrs]⟩
            simp
            omega

/-- A turn is sound iff no reset is reported in it. -/
theorem turnSound_iff {s : Pool} (h : PoolOk s) (hlost : NoneLost s) (t : Answers) :
    TurnSound s t ↔ ¬ ResetReported s t := by
  rw [← noneLost_turn_iff h hlost t]
  constructor
  · exact TurnSound.noneLost
  · intro hnone
    exact ⟨(poolOk_turn h t).unique, handedOut_turn h t, poolTurn_addresses h t, hnone⟩

/-- In every run, resets among its events or not, no two connections hold the
same address. -/
theorem held_unique (startPeer : UInt16) (turns : List Answers) :
    ((run poolTurn (poolStart startPeer) turns).held.map Prod.snd).Nodup := by
  have hok : PoolOk (run poolTurn (poolStart startPeer) turns) :=
    run_invariant (I := PoolOk) (fun _ t h => poolOk_turn h t) turns _ (poolOk_start startPeer)
  exact hok.unique

/-- **The address pool**: a run is sound in every turn iff no `read` fails in
it. -/
theorem pool_sound_iff (startPeer : UInt16) (turns : List Answers) :
    Guarded poolTurn TurnSound (poolStart startPeer) turns ↔
      Guarded poolTurn (fun s t => ¬ ResetReported s t) (poolStart startPeer) turns := by
  have hstep : ∀ s t, TurnSound s t → PoolOk s ∧ NoneLost s →
      PoolOk (poolTurn s t) ∧ NoneLost (poolTurn s t) := by
    intro s t hsound hok
    exact ⟨poolOk_turn hok.1 t, hsound.noneLost⟩
  apply guarded_congr_of_invariant hstep
  · intro s t hok
    exact turnSound_iff hok.1 hok.2 t
  · exact ⟨poolOk_start startPeer, noneLost_start startPeer⟩

/-- A client connects on socket 5. -/
def clientConnects : Answers := ⟨true, true, 5, fun _ => false, fun _ => 0⟩

/-- `read` on socket 5 returns -1. -/
def clientReset : Answers := ⟨true, false, -1, fun socket => socket == 5, fun _ => -1⟩

/-- After a reset the address 512 stays assigned to a connection that is gone. -/
theorem reset_loses_address :
    ¬ Guarded poolTurn TurnSound (poolStart startPeerDefault) [clientConnects, clientReset] := by
  rintro ⟨_, hsound, _⟩
  have hslot : (⟨5, 512⟩ : Peer) ∈ (poolTurn (poolTurn (poolStart startPeerDefault) clientConnects)
      clientReset).peers := by decide
  have hgone : ((5, 512) : Int × Int) ∉ (poolTurn (poolTurn (poolStart startPeerDefault)
      clientConnects) clientReset).held := by decide
  exact hgone (hsound.noneLost _ hslot (by decide))

end OpenHcan.Addressd
