import OpenHcan.Canix.Mcp2515
import OpenHcan.Daemon.Hcansocketd

/-!
# WireFormat — one frame in three programs

A frame of a board goes over the bus to another board, or through
`hcansocketd` and the hub to the host library, and back. Each program packs
and splits the identifier with code of its own; this module puts the ways
together. The hub passes datagrams on as they are, and the CAN socket hands
over the frames of the bus as its interface says (`Carries`).
-/

namespace OpenHcan.Daemon

open Lib Host Mcp2515 Rx

/-- What a frame says, in whichever program. -/
structure FrameContent where
  src : UInt16
  dst : UInt16
  proto : UInt8
  size : Nat
  data : List UInt8
deriving DecidableEq, Repr

/-- Addresses and protocol fit the identifier, the payload fits a frame. -/
structure FrameContent.Valid (x : FrameContent) : Prop where
  src : x.src.toNat < 1024
  dst : x.dst.toNat < 1024
  proto : x.proto.toNat < 8
  size : x.size ≤ 8

/-- A frame of a board. -/
def boardContent (f : CanixFrame) : FrameContent := ⟨f.src, f.dst, f.proto, f.size.toNat, f.bytes⟩

/-- A frame of the host library. -/
def hostContent (g : Frame) : FrameContent := ⟨g.src, g.dst, g.proto, g.size.toNat, g.bytes⟩

/-- The frame `c` of the CAN socket is the frame `w` of the bus, in either
direction. -/
structure CanFrame.Carries (c : CanFrame) (w : BusFrame) : Prop where
  id_lt : w.id.toNat < 2 ^ 29
  canId : c.canId = w.id ||| canEffFlag
  canDlc : c.canDlc.toNat = w.data.length
  length_le : w.data.length ≤ 8
  data : c.data.toList.take w.data.length = w.data

/-- A board with `rx` in its controller reads the frame without leaving its
arrays, delivers it if nothing else is queued, and whenever it delivers the
message it has read, the frame says `x`. -/
def DeliveredAs (rx : Registers) (x : FrameContent) : Prop :=
  ∀ data, ∃ m, mcp2515ReadMessage rx data = some m ∧
    (∀ extid extid' frame frame', ∃ d, (run rxStep rxInit [.isr (some m.message),
        .main extid frame, .main extid' frame']).delivered = [d] ∧ d.message = m.message) ∧
    ∀ es, ∀ d ∈ (run rxStep rxInit es).delivered, d.message = m.message →
      boardContent d.frame = x

/-- The host reads the datagram as a frame that says `x`. -/
def ReadAs (cf : CANFrame) (x : FrameContent) : Prop :=
  ∃ g, Frame.readFrom cf = some g ∧ hostContent g = x

/-! ## The board's side -/

/-- Of a single message that comes in, the main loop makes one frame. -/
theorem rx_single (msg : CanMessage) (extid extid' : UInt32) (frame frame' : CanixFrame) :
    ∃ d, (run rxStep rxInit [.isr (some msg), .main extid frame, .main extid' frame']).delivered
      = [d] ∧ d.message = msg := by
  have hroom : canixRxqSize rxInit.queue < canixQueueSize := by decide
  have hempty : rxInit.queue.contents = [] := by decide
  have hpacked : rxInit.queue.Packed := by
    unfold RxQueue.Packed
    decide
  have hput := contents_put_packed hpacked hroom msg
  rw [hempty, List.nil_append] at hput
  -- after the interrupt the message is alone in the queue
  let s₁ := rxStep rxInit (.isr (some msg))
  have hs₁ : s₁.queue.contents = [msg] := by
    show (timerIsr rxInit (some msg)).queue.contents = [msg]
    rw [timerIsr_room hroom]
    exact hput
  have hd₁ : s₁.delivered = [] := by
    show (timerIsr rxInit (some msg)).delivered = []
    rw [timerIsr_room hroom]
    rfl
  have hr₁ : ¬ s₁.reading = true := by
    show ¬ (timerIsr rxInit (some msg)).reading = true
    rw [timerIsr_room hroom]
    exact Bool.false_ne_true
  have hi₁ : RxInv s₁ := rxInv_step rxInit _ rxInv_init
  -- the test sees it
  let s₂ := rxStep s₁ (.main extid frame)
  have hs₂ : s₂ = { s₁ with reading := true } := by
    show processStep s₁ extid frame = _
    rw [processStep_testing hr₁, canixRxqSize_eq, hs₁]
    rfl
  have hi₂ : RxInv s₂ := rxInv_step s₁ _ hi₁
  -- and the read takes it
  obtain ⟨d, q, hstep, hcont, _⟩ :=
    processStep_reading hi₂ (by rw [hs₂]) extid' frame'
  refine ⟨d, ?_, ?_⟩
  · show (processStep s₂ extid' frame').delivered = [d]
    rw [hstep, hs₂]
    show s₁.delivered ++ [d] = [d]
    rw [hd₁]
    rfl
  · rw [hs₂] at hcont
    have hcons : [msg] = d.message :: q.contents := hs₁.symm.trans hcont
    injection hcons with hmsg _
    exact hmsg.symm

/-- **A board whose controller holds a frame delivers it**: the identifier is
split into what was packed. -/
theorem deliveredAs_of_holds {rx : Registers} {x : FrameContent} {prio : Nat} (hx : x.Valid)
    {w : BusFrame} (hw : Holds rx rxb0sidh w)
    (hid : w.id.toNat = wireId x.src.toNat x.dst.toNat x.proto.toNat prio)
    (hsize : w.data.length = x.size) (hdata : w.data = x.data) : DeliveredAs rx x := by
  intro data
  obtain ⟨m, hm, hext, hlen, hbytes⟩ := mcp2515ReadMessage_holds hw data
  refine ⟨m, hm, rx_single m.message, ?_⟩
  intro es d hd hmsg
  obtain ⟨hdecode, hdsize⟩ := (rxInv_run es).decoded d hd
  have hdext : d.extid = w.id := (congrArg CanMessage.extended hmsg).trans hext
  have hddata : d.frame.bytes = w.data := (congrArg CanMessage.data hmsg).trans hbytes
  have hsplit := decodeFrame_wireId hx.src hx.dst hx.proto (hdext ▸ hid) d.frame.size d.frame.data
  have hfsize : d.frame.size.toNat = x.size := by
    rw [hdsize, hmsg]
    exact (congrArg List.length hbytes).trans hsize
  have hframe := hdecode.trans hsplit
  have hcontent : boardContent d.frame = ⟨x.src, x.dst, x.proto, x.size, x.data⟩ := by
    unfold boardContent
    rw [congrArg CanixFrame.src hframe, congrArg CanixFrame.dst hframe,
      congrArg CanixFrame.proto hframe, hfsize, hddata, hdata]
  exact hcontent

/-! ## The host's side -/

theorem extid_toNat (g : Frame) :
    g.extid.toNat =
      wireId (g.src.toNat % 1024) (g.dst.toNat % 1024) (g.proto.toNat % 8) g.prio.toNat := by
  have hs : g.src.toNat &&& 1023 = g.src.toNat % 1024 := and_lowMask _ 10
  have hd : g.dst.toNat &&& 1023 = g.dst.toNat % 1024 := and_lowMask _ 10
  have hp : g.proto.toNat &&& 7 = g.proto.toNat % 8 := and_lowMask _ 3
  simp only [Frame.extid, UInt32.toNat_or, UInt32.toNat_and, UInt32.toNat_shiftLeft,
    UInt16.toNat_toUInt32, UInt8.toNat_toUInt32, UInt32.reduceToNat, Nat.reduceMod, hs, hd, hp]
  exact or_wireId (by omega) (by omega) (by omega) g.prio.toNat_lt

/-- The datagram of a frame has its size and its bytes. -/
theorem writeTo_spec {g : Frame} (hsize : g.size.toNat ≤ 8) (cells : Vector UInt8 8) :
    ∃ cf, g.writeTo cells = some cf ∧ cf.id = g.extid ∧ cf.size = g.size ∧
      cf.data.toList.take cf.size.toNat = g.bytes := by
  obtain ⟨data, hdata⟩ := Option.isSome_iff_exists.mp
    ((copyLoop_vector_isSome_iff g.data cells _).mpr hsize)
  refine ⟨⟨g.extid, g.size, data⟩, ?_, rfl, rfl, copyLoop_vector_take hdata⟩
  simp only [Frame.writeTo, hdata]
  rfl

/-- **Reading a datagram** whose identifier was packed from `x`. -/
theorem readAs_of_id {cf : CANFrame} {x : FrameContent} {prio : Nat} (hx : x.Valid)
    (hid : cf.id.toNat = wireId x.src.toNat x.dst.toNat x.proto.toNat prio)
    (hsize : cf.size.toNat = x.size) (hdata : cf.data.toList.take cf.size.toNat = x.data) :
    ReadAs cf x := by
  have hclamp : (if cf.size > 8 then 8 else cf.size : UInt32) = cf.size := by
    refine if_neg (UInt32.not_lt.mpr (UInt32.le_iff_toNat_le.mpr ?_))
    rw [hsize]
    exact hx.size
  obtain ⟨cells, hcells⟩ := Option.isSome_iff_exists.mp
    ((copyLoop_vector_isSome_iff cf.data zeroData cf.size.toNat).mpr (hsize ▸ hx.size))
  obtain ⟨h1, h2, h3⟩ := split_wireId hx.src hx.dst hx.proto hid
  refine ⟨⟨x.src, x.dst, x.proto, prioLo, cells, cf.size⟩, ?_, ?_⟩
  · simp only [Frame.readFrom, Frame.ofArray, h1, h2, h3, hclamp, hcells]
    rfl
  · have hbytes : cells.toList.take cf.size.toNat = x.data :=
      (copyLoop_vector_take hcells).trans hdata
    simp only [hostContent, Frame.bytes, hsize] at hbytes ⊢
    rw [hbytes]

/-! ## Through hcansocketd -/

/-- The flag of the socket is above the identifier. -/
theorem or_effFlag_toNat {id : UInt32} (h : id.toNat < 2 ^ 29) :
    (id ||| canEffFlag).toNat = id.toNat + 2 ^ 31 := by
  rw [UInt32.toNat_or]
  exact or_field (k := 31) (by omega) 1

theorem and_effMask {id : UInt32} (h : id.toNat < 2 ^ 29) :
    (id ||| canEffFlag) &&& canEffMask = id := by
  apply UInt32.toNat_inj.mp
  have hmask : (id ||| canEffFlag).toNat &&& 536870911 = (id ||| canEffFlag).toNat % 2 ^ 29 :=
    and_lowMask _ 29
  have hflag := or_effFlag_toNat h
  rw [UInt32.toNat_and]
  show (id ||| canEffFlag).toNat &&& 536870911 = id.toNat
  omega

/-- **From the bus to the host.** -/
theorem readAs_of_carries {c : CanFrame} {w : BusFrame} (hc : c.Carries w) {x : FrameContent}
    {prio : Nat} (hx : x.Valid)
    (hid : w.id.toNat = wireId x.src.toNat x.dst.toNat x.proto.toNat prio)
    (hsize : w.data.length = x.size) (hdata : w.data = x.data) (slot : CANFrame) :
    ∃ cf, storeHcan slot c = some cf ∧ ReadAs cf x := by
  have hdlc : c.canDlc.toNat ≤ 8 := Nat.le_trans (Nat.le_of_eq hc.canDlc) hc.length_le
  obtain ⟨cf, hcf⟩ := Option.isSome_iff_exists.mp ((storeHcan_isSome_iff slot c).mpr hdlc)
  obtain ⟨hcfid, hcfsize, hcfdata⟩ := storeHcan_spec hcf
  have hcfid' : cf.id.toNat = wireId x.src.toNat x.dst.toNat x.proto.toNat prio := by
    rw [hcfid, hc.canId, and_effMask hc.id_lt, hid]
  refine ⟨cf, hcf, readAs_of_id hx hcfid' ?_ ?_⟩
  · rw [hcfsize, hc.canDlc, hsize]
  · rw [hcfdata, hc.canDlc, hc.data, hdata]

/-- **From the host to the bus.** -/
theorem carries_of_datagram {cf : CANFrame} {x : FrameContent} (hx : x.Valid)
    (hid : cf.id.toNat < 2 ^ 29) (hsize : cf.size.toNat = x.size)
    (hdata : cf.data.toList.take cf.size.toNat = x.data) (slot : CanFrame) :
    ∃ c, storeCan slot cf = some c ∧ c.Carries ⟨cf.id, x.data⟩ := by
  have hle : cf.size.toNat ≤ 8 := hsize ▸ hx.size
  have hlen : x.data.length = cf.size.toNat := by
    rw [← hdata, List.length_take, Vector.length_toList]
    omega
  obtain ⟨c, hc⟩ := Option.isSome_iff_exists.mp ((storeCan_isSome_iff slot cf).mpr hle)
  obtain ⟨hcid, hcdlc, hcdata⟩ := storeCan_spec hc
  refine ⟨c, hc, hid, hcid, hcdlc.trans hlen.symm, hlen ▸ hle, ?_⟩
  rw [hlen, ← hcdlc, hcdata, hdata]

/-! ## All ways -/

/-- The identifier of a frame whose addresses and protocol fit. -/
theorem extId_valid {f : CanixFrame} (hf : (boardContent f).Valid) (prio : UInt8) :
    (extId f prio).toNat = wireId f.src.toNat f.dst.toNat f.proto.toNat prio.toNat := by
  have hsrc : f.src.toNat < 1024 := hf.src
  have hdst : f.dst.toNat < 1024 := hf.dst
  have hproto : f.proto.toNat < 8 := hf.proto
  rw [extId_toNat, Nat.mod_eq_of_lt hsrc, Nat.mod_eq_of_lt hdst, Nat.mod_eq_of_lt hproto]

theorem extid_valid {g : Frame} (hg : (hostContent g).Valid) :
    g.extid.toNat = wireId g.src.toNat g.dst.toNat g.proto.toNat g.prio.toNat := by
  have hsrc : g.src.toNat < 1024 := hg.src
  have hdst : g.dst.toNat < 1024 := hg.dst
  have hproto : g.proto.toNat < 8 := hg.proto
  rw [extid_toNat, Nat.mod_eq_of_lt hsrc, Nat.mod_eq_of_lt hdst, Nat.mod_eq_of_lt hproto]

/-- **A frame keeps its addresses, protocol, size and payload** on every way:
from board to board, over the registers alone and over the bus, from a board
through `hcansocketd` to the host, from host to host, and from the host
through `hcansocketd` to a board. -/
theorem frame_round_trip {f : CanixFrame} {g : Frame} {prio : UInt8}
    (hf : (boardContent f).Valid) (hprio : prio.toNat < 32)
    (hg : hostContent g = boardContent f) (hgprio : g.prio.toNat < 32) :
    (∀ regs sendable txIndex, freeBuffer sendable = some txIndex →
      let tx := canixFrameSendWithPrio true sendable regs f prio
      (∀ rx, (∀ i < 13, rx (rxb0sidh + i) = tx (txb0sidh + 16 * txIndex + i)) →
        DeliveredAs rx (boardContent f)) ∧
      ∃ w, Holds tx (txb0sidh + 16 * txIndex) w ∧
        (∀ rx, Holds rx rxb0sidh w → DeliveredAs rx (boardContent f)) ∧
        ∀ c slot, c.Carries w →
          ∃ cf, storeHcan slot c = some cf ∧ ReadAs cf (boardContent f)) ∧
    ∀ cells, ∃ cf, g.writeTo cells = some cf ∧ ReadAs cf (boardContent f) ∧
      ∀ slot, ∃ c w, storeCan slot cf = some c ∧ c.Carries w ∧
        ∀ rx, Holds rx rxb0sidh w → DeliveredAs rx (boardContent f) := by
  have hfsize : f.size.toNat ≤ 8 := hf.size
  constructor
  · intro regs sendable txIndex hfree tx
    have htx : tx = loadBuffer regs txIndex (extId f prio) f.data.toList f.size := by
      simp only [tx, canixFrameSendWithPrio, canSendMessage, hfree, if_true]
    have hid := extId_valid hf prio
    have hlen : f.bytes.length = f.size.toNat := by
      rw [CanixFrame.bytes, List.length_take, Vector.length_toList]
      omega
    have hid29 : (extId f prio).toNat < 2 ^ 29 := by
      rw [hid]
      exact wireId_lt hf.src hf.dst hf.proto hprio
    have hw : Holds tx (txb0sidh + 16 * txIndex) ⟨extId f prio, f.bytes⟩ := by
      rw [htx]
      exact holds_loadBuffer regs txIndex hid29 hfsize (by simpa using hfsize)
    have hdeliver : ∀ rx, Holds rx rxb0sidh ⟨extId f prio, f.bytes⟩ →
        DeliveredAs rx (boardContent f) :=
      fun rx hrx => deliveredAs_of_holds hf hrx hid hlen rfl
    refine ⟨fun rx hrx => hdeliver rx (hw.copy hrx), _, hw, hdeliver, ?_⟩
    intro c slot hc
    exact readAs_of_carries hc hf hid hlen rfl slot
  · intro cells
    have hgv : (hostContent g).Valid := hg ▸ hf
    have hgsize : g.size.toNat ≤ 8 := hgv.size
    obtain ⟨cf, hcf, hcfid, hcfsize, hcfdata⟩ := writeTo_spec hgsize cells
    have hid : cf.id.toNat = wireId g.src.toNat g.dst.toNat g.proto.toNat g.prio.toNat := by
      rw [hcfid, extid_valid hgv]
    have hsize : cf.size.toNat = (hostContent g).size := congrArg UInt32.toNat hcfsize
    have hid29 : cf.id.toNat < 2 ^ 29 := by
      rw [hid]
      exact wireId_lt hgv.src hgv.dst hgv.proto hgprio
    rw [← hg]
    refine ⟨cf, hcf, readAs_of_id hgv hid hsize hcfdata, ?_⟩
    intro slot
    obtain ⟨c, hc, hcarries⟩ := carries_of_datagram hgv hid29 hsize hcfdata slot
    have hlen : (hostContent g).data.length = (hostContent g).size :=
      hcarries.canDlc.symm.trans ((storeCan_spec hc).2.1.trans hsize)
    exact ⟨c, _, hc, hcarries, fun rx hrx => deliveredAs_of_holds hgv hrx hid hlen rfl⟩

section Example

/-- A frame from board 100 to board 35 with two bytes. -/
def tasterFrame : CanixFrame := ⟨100, 35, 1, 2, payload [5, 1]⟩

/-- The same frame on the host. -/
def tasterHostFrame : Frame := ⟨100, 35, 1, 3, payload [5, 1], 2⟩

theorem frame_round_trip_taster :
    (boardContent tasterFrame).Valid ∧
      (∀ regs sendable txIndex, freeBuffer sendable = some txIndex →
        let tx := canixFrameSendWithPrio true sendable regs tasterFrame 3
        (∀ rx, (∀ i < 13, rx (rxb0sidh + i) = tx (txb0sidh + 16 * txIndex + i)) →
          DeliveredAs rx (boardContent tasterFrame)) ∧
        ∃ w, Holds tx (txb0sidh + 16 * txIndex) w ∧
          (∀ rx, Holds rx rxb0sidh w → DeliveredAs rx (boardContent tasterFrame)) ∧
          ∀ c slot, c.Carries w →
            ∃ cf, storeHcan slot c = some cf ∧ ReadAs cf (boardContent tasterFrame)) ∧
      ∀ cells, ∃ cf, tasterHostFrame.writeTo cells = some cf ∧
        ReadAs cf (boardContent tasterFrame) ∧
        ∀ slot, ∃ c w, storeCan slot cf = some c ∧ c.Carries w ∧
          ∀ rx, Holds rx rxb0sidh w → DeliveredAs rx (boardContent tasterFrame) :=
  have hvalid : (boardContent tasterFrame).Valid :=
    ⟨by decide, by decide, by decide, by decide⟩
  ⟨hvalid, frame_round_trip hvalid (by decide) (by decide) (by decide)⟩

end Example

end OpenHcan.Daemon
