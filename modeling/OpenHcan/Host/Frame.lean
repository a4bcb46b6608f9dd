import OpenHcan.Canix.WireId
import OpenHcan.Lib.BoundedArray
import OpenHcan.Lib.Machine

/-!
# Frame — the frames of the host library

`libhcan++/frame.cc` with every access to a payload checked. A frame has
eight cells and a size of its own: the constructor from an array clamps the
size, the one from a vector and `set_data` do not, and the loops that copy or
send a frame run up to it. Cells that the source leaves uninitialised are
parameters.

Left out: the wait of the polite mode, printing, and `set_size`, which
nothing calls. A datagram of another length than a frame's throws before
anything is built.
-/

namespace OpenHcan

/-- `CANFrame` -/
structure CANFrame where
  id : UInt32
  size : UInt32
  data : Vector UInt8 8
deriving DecidableEq, Repr

namespace Host

open Lib

/-- `frame` -/
structure Frame where
  src : UInt16
  dst : UInt16
  proto : UInt8
  prio : UInt8
  data : Vector UInt8 8
  size : UInt32
deriving DecidableEq, Repr

/-- `prio_lo` -/
def prioLo : UInt8 := 3

/-- `m_data` after the loop that sets all cells to 0. -/
def zeroData : Vector UInt8 8 := Vector.replicate 8 0

namespace Frame

/-- `frame()`; `data` is what the memory of the cells held. -/
def empty (data : Vector UInt8 8) : Frame := ⟨0, 0, 0, 0, data, 0⟩

/-- The constructor from an array. -/
def ofArray (src dst : UInt16) (proto : UInt8) (data : Vector UInt8 8) (size : UInt32) :
    Option Frame := do
  let size := if size > 8 then 8 else size
  let cells ← copyLoop (fun i => data[i]?) size.toNat zeroData
  return ⟨src, dst, proto, prioLo, cells, size⟩

/-- The constructor from a vector. -/
def ofVector (src dst : UInt16) (proto : UInt8) (data : List UInt8) : Option Frame := do
  let cells ← copyLoop (fun i => data[i]?) data.length zeroData
  return ⟨src, dst, proto, prioLo, cells, UInt32.ofNat data.length⟩

/-- `frame(const frame &f)`; `cells` is what the memory of the new cells held. -/
def copy (cells : Vector UInt8 8) (f : Frame) : Option Frame := do
  let cells ← copyLoop (fun i => f.data[i]?) f.size.toNat cells
  return { f with data := cells }

/-- `operator =` -/
def assign (target f : Frame) : Option Frame := copy target.data f

/-- `(uint32_t(i)) & 0x07` -/
def cellIndex (i : Int32) : Nat := (i.toUInt32 &&& (0x07 : UInt32)).toNat

/-- `data(i)` -/
def dataAt (f : Frame) (i : Int32) : Option UInt8 := f.data[cellIndex i]?

/-- `set_data(i, data)` -/
def setData (f : Frame) (i : Int32) (data : UInt8) : Option Frame := do
  let cells ← write f.data (cellIndex i) data
  return { f with data := cells, size := (i + 1).toUInt32 }

/-- `data_as_string` -/
def dataAsString (f : Frame) : Option (List UInt8) := readCells f.data f.size.toNat

/-- `extid` in `write_to`. -/
def extid (f : Frame) : UInt32 :=
  (f.src.toUInt32 &&& (0x3ff : UInt32)) ||| ((f.dst.toUInt32 &&& (0x3ff : UInt32)) <<< 10) |||
    ((f.proto.toUInt32 &&& (0x07 : UInt32)) <<< 20) ||| (f.prio.toUInt32 <<< 24)

/-- The datagram `write_to` sends; `cells` is what the memory of `cf.data` held. -/
def writeTo (f : Frame) (cells : Vector UInt8 8) : Option CANFrame := do
  let cells ← copyLoop (fun i => f.data[i]?) f.size.toNat cells
  return ⟨f.extid, f.size, cells⟩

/-- `read_from`, for the datagram `cf`. -/
def readFrom (cf : CANFrame) : Option Frame :=
  ofArray (cf.id &&& (0x3ff : UInt32)).toUInt16 ((cf.id >>> 10) &&& (0x3ff : UInt32)).toUInt16
    ((cf.id >>> 20) &&& (0x7 : UInt32)).toUInt8 cf.data cf.size

/-- The payload. -/
def bytes (f : Frame) : List UInt8 := f.data.toList.take f.size.toNat

end Frame

/-! ## The life of a frame -/

/-- How a frame is made. -/
inductive Construct where
  | empty (data : Vector UInt8 8)
  | array (src dst : UInt16) (proto : UInt8) (data : Vector UInt8 8) (size : UInt32)
  | vector (src dst : UInt16) (proto : UInt8) (data : List UInt8)
  | readFrom (cf : CANFrame)
deriving DecidableEq, Repr

def Construct.build : Construct → Option Frame
  | .empty data => some (.empty data)
  | .array src dst proto data size => Frame.ofArray src dst proto data size
  | .vector src dst proto data => Frame.ofVector src dst proto data
  | .readFrom cf => Frame.readFrom cf

/-- What is done with a frame; the program goes on with a copy when it has made
one, and with the target of an assignment. -/
inductive FrameOp where
  | setData (i : Int32) (data : UInt8)
  | data (i : Int32)
  | dataAsString
  | copy (cells : Vector UInt8 8)
  | assign (target : Frame)
  | writeTo (cells : Vector UInt8 8)
deriving DecidableEq, Repr

/-- The frame, and the datagrams that were sent. -/
structure Session where
  frame : Frame
  wire : List CANFrame
deriving DecidableEq, Repr

def frameStep (s : Session) : FrameOp → Option Session
  | .setData i data => (s.frame.setData i data).map fun f => { s with frame := f }
  | .data i => (s.frame.dataAt i).map fun _ => s
  | .dataAsString => s.frame.dataAsString.map fun _ => s
  | .copy cells => (s.frame.copy cells).map fun f => { s with frame := f }
  | .assign target => (Frame.assign target s.frame).map fun f => { s with frame := f }
  | .writeTo cells => (s.frame.writeTo cells).map fun cf => { s with wire := s.wire ++ [cf] }

/-- A frame is made and `ops` are done with it. -/
def frameRun (c : Construct) (ops : List FrameOp) : Option Session :=
  c.build.bind fun f => tryRun frameStep ⟨f, []⟩ ops

/-- No access leaves a payload, and no size on the wire is above 8. -/
def SessionOk (c : Construct) (ops : List FrameOp) : Prop :=
  ∃ s, frameRun c ops = some s ∧ ∀ cf ∈ s.wire, cf.size.toNat ≤ 8

/-- A vector has at most 8 bytes. -/
def Construct.SizeOk : Construct → Prop
  | .vector _ _ _ data => data.length ≤ 8
  | _ => True

/-- The index of the last `set_data`, if there was one, is from -1 to 7. -/
def LastOk : Option Int32 → Prop
  | none => True
  | some i => -1 ≤ i.toInt ∧ i.toInt ≤ 7

/-- When a frame is copied, read as a string or sent, the last `set_data` had an index from -1
to 7; `last` is the index of the last one before `ops`. -/
def OpsOk : Option Int32 → List FrameOp → Prop
  | _, [] => True
  | _, .setData i _ :: ops => OpsOk (some i) ops
  | last, .data _ :: ops => OpsOk last ops
  | last, .dataAsString :: ops => LastOk last ∧ OpsOk last ops
  | last, .copy _ :: ops => LastOk last ∧ OpsOk last ops
  | last, .assign _ :: ops => LastOk last ∧ OpsOk last ops
  | last, .writeTo _ :: ops => LastOk last ∧ OpsOk last ops

/-! ## Accesses -/

theorem Frame.cellIndex_lt (i : Int32) : Frame.cellIndex i < 8 := by
  have hmask : i.toUInt32.toNat &&& 7 = i.toUInt32.toNat % 8 := and_lowMask _ 3
  unfold Frame.cellIndex
  rw [UInt32.toNat_and]
  exact hmask.symm ▸ Nat.mod_lt _ (by omega)

theorem Frame.dataAt_isSome (f : Frame) (i : Int32) : (f.dataAt i).isSome := by
  simp [Frame.dataAt, Frame.cellIndex_lt]

/-- `set_data` writes one of the cells, but takes the size from the index as
it is. -/
theorem Frame.setData_eq (f : Frame) (i : Int32) (data : UInt8) :
    ∃ g, f.setData i data = some g ∧ g.size = (i + 1).toUInt32 := by
  unfold Frame.setData
  rw [write_of_lt f.data (Frame.cellIndex_lt i)]
  exact ⟨_, rfl, rfl⟩

/-- The clamped size stays inside. -/
theorem Frame.ofArray_eq (src dst : UInt16) (proto : UInt8) (data : Vector UInt8 8)
    (size : UInt32) :
    ∃ f, Frame.ofArray src dst proto data size = some f ∧ f.size.toNat ≤ 8 := by
  have hclamp : (if size > 8 then 8 else size : UInt32).toNat ≤ 8 := by
    split
    · exact Nat.le_refl 8
    · next h => exact UInt32.le_iff_toNat_le.mp (UInt32.not_lt.mp h)
  obtain ⟨cells, hcells⟩ := Option.isSome_iff_exists.mp
    ((copyLoop_vector_isSome_iff data zeroData _).mpr hclamp)
  refine ⟨⟨src, dst, proto, prioLo, cells, if size > 8 then 8 else size⟩, ?_, hclamp⟩
  simp only [Frame.ofArray, hcells]
  rfl

theorem Frame.ofVector_isSome_iff (src dst : UInt16) (proto : UInt8) (data : List UInt8) :
    (Frame.ofVector src dst proto data).isSome ↔ data.length ≤ 8 := by
  rw [← copyLoop_isSome_iff (n := 8) (fun i => data[i]?) (fun i hi _ => by simp [hi]) zeroData]
  simp only [Frame.ofVector]
  cases copyLoop (fun i => data[i]?) data.length zeroData <;> exact Iff.rfl

theorem Frame.ofVector_size {src dst : UInt16} {proto : UInt8} {data : List UInt8} {f : Frame}
    (h : Frame.ofVector src dst proto data = some f) : f.size.toNat ≤ 8 := by
  have hlen := (Frame.ofVector_isSome_iff src dst proto data).mp (by rw [h]; rfl)
  simp only [Frame.ofVector, Option.bind_eq_bind, Option.pure_def, Option.bind_eq_some_iff] at h
  obtain ⟨cells, _, h⟩ := h
  cases h
  show (UInt32.ofNat data.length).toNat ≤ 8
  rw [UInt32.toNat_ofNat']
  omega

theorem Frame.copy_isSome_iff (cells : Vector UInt8 8) (f : Frame) :
    (Frame.copy cells f).isSome ↔ f.size.toNat ≤ 8 := by
  rw [← copyLoop_vector_isSome_iff f.data cells]
  simp only [Frame.copy]
  cases copyLoop (fun i => f.data[i]?) f.size.toNat cells <;> exact Iff.rfl

theorem Frame.copy_size {cells : Vector UInt8 8} {f g : Frame} (h : Frame.copy cells f = some g) :
    g.size = f.size := by
  simp only [Frame.copy, Option.bind_eq_bind, Option.pure_def, Option.bind_eq_some_iff] at h
  obtain ⟨_, _, h⟩ := h
  cases h
  rfl

theorem Frame.writeTo_isSome_iff (f : Frame) (cells : Vector UInt8 8) :
    (f.writeTo cells).isSome ↔ f.size.toNat ≤ 8 := by
  rw [← copyLoop_vector_isSome_iff f.data cells]
  simp only [Frame.writeTo]
  cases copyLoop (fun i => f.data[i]?) f.size.toNat cells <;> exact Iff.rfl

theorem Frame.writeTo_size {f : Frame} {cells : Vector UInt8 8} {cf : CANFrame}
    (h : f.writeTo cells = some cf) : cf.size = f.size := by
  simp only [Frame.writeTo, Option.bind_eq_bind, Option.pure_def, Option.bind_eq_some_iff] at h
  obtain ⟨_, _, h⟩ := h
  cases h
  rfl

/-! ## The size over a life -/

/-- What the size of a frame is, `last` being the index of the last `set_data`. -/
def SizeIs (f : Frame) : Option Int32 → Prop
  | none => f.size.toNat ≤ 8
  | some i => f.size = (i + 1).toUInt32

/-- An index from -1 to 7 is one whose size fits. -/
theorem indexSize_le_iff (i : Int32) :
    (i + 1).toUInt32.toNat ≤ 8 ↔ -1 ≤ i.toInt ∧ i.toInt ≤ 7 := by
  have hlt := i.toUInt32.toNat_lt
  have hsize : (i + 1).toUInt32.toNat = (i.toUInt32.toNat + 1) % 2 ^ 32 := by
    rw [Int32.toUInt32_add, UInt32.toNat_add]
    rfl
  have hint : i.toInt = if 2 * i.toUInt32.toNat < 2 ^ 32 then (i.toUInt32.toNat : Int)
      else (i.toUInt32.toNat : Int) - 2 ^ 32 := BitVec.toInt_eq_toNat_cond i.toBitVec
  rw [hsize, hint]
  split <;> omega

theorem SizeIs.of_eq {f g : Frame} {last : Option Int32} (h : SizeIs f last)
    (hsize : g.size = f.size) : SizeIs g last := by
  cases last with
  | none => exact Nat.le_trans (Nat.le_of_eq (congrArg UInt32.toNat hsize)) h
  | some i => exact hsize.trans h

theorem SizeIs.le_iff {f : Frame} {last : Option Int32} (h : SizeIs f last) :
    f.size.toNat ≤ 8 ↔ LastOk last := by
  cases last with
  | none => exact iff_of_true h trivial
  | some i =>
      have hsize : f.size = (i + 1).toUInt32 := h
      rw [hsize]
      exact indexSize_le_iff i

/-- The operations stay inside, and so do the sizes on the wire. -/
def Session.RunsOk (s : Session) (ops : List FrameOp) : Prop :=
  ∃ s', tryRun frameStep s ops = some s' ∧ ∀ cf ∈ s'.wire, cf.size.toNat ≤ 8

/-- An operation that goes through exactly if the last `set_data` has left a size that
fits. -/
theorem runsOk_cons {s : Session} {last : Option Int32} {op : FrameOp} {ops : List FrameOp}
    (hsome : (frameStep s op).isSome = true ↔ LastOk last)
    (hnext : ∀ t, frameStep s op = some t → (t.RunsOk ops ↔ OpsOk last ops)) :
    s.RunsOk (op :: ops) ↔ LastOk last ∧ OpsOk last ops := by
  unfold Session.RunsOk
  rw [tryRun_cons]
  by_cases hok : LastOk last
  · obtain ⟨t, ht⟩ := Option.isSome_iff_exists.mp (hsome.mpr hok)
    rw [ht, Option.bind_some, and_iff_right hok]
    exact hnext t ht
  · have hnone : frameStep s op = none := by
      rw [← Option.not_isSome_iff_eq_none, hsome]
      exact hok
    rw [hnone]
    exact iff_of_false (by simp) fun h => hok h.1

/-- **A copy, an assignment or a datagram** stays inside exactly if the last
`set_data` has left a size that fits. -/
theorem opsOk_iff (ops : List FrameOp) :
    ∀ (s : Session) (last : Option Int32), SizeIs s.frame last →
      (∀ cf ∈ s.wire, cf.size.toNat ≤ 8) → (s.RunsOk ops ↔ OpsOk last ops) := by
  induction ops with
  | nil => intro s last _ hwire; exact iff_of_true ⟨s, rfl, hwire⟩ trivial
  | cons op ops ih =>
      intro s last hsize hwire
      have hle := hsize.le_iff
      -- a copy of the frame, from either kind of copying
      have hcopied (cells : Vector UInt8 8) (t : Session)
          (ht : (s.frame.copy cells).map (fun f => { s with frame := f }) = some t) :
          t.RunsOk ops ↔ OpsOk last ops := by
        obtain ⟨g, hg, rfl⟩ := Option.map_eq_some_iff.mp ht
        exact ih ⟨g, s.wire⟩ last (hsize.of_eq (Frame.copy_size hg)) hwire
      cases op with
      | setData i data =>
          obtain ⟨g, hg, hgsize⟩ := s.frame.setData_eq i data
          unfold Session.RunsOk
          simp only [tryRun_cons, frameStep, hg, Option.map_some, Option.bind_some]
          exact ih ⟨g, s.wire⟩ (some i) hgsize hwire
      | data i =>
          obtain ⟨x, hx⟩ := Option.isSome_iff_exists.mp (s.frame.dataAt_isSome i)
          unfold Session.RunsOk
          simp only [tryRun_cons, frameStep, hx, Option.map_some, Option.bind_some]
          exact ih s last hsize hwire
      | dataAsString =>
          apply runsOk_cons
          · rw [frameStep, Option.isSome_map, Frame.dataAsString, readCells_isSome_iff, hle]
          · intro t ht
            obtain ⟨_, _, rfl⟩ := Option.map_eq_some_iff.mp ht
            exact ih s last hsize hwire
      | copy cells =>
          apply runsOk_cons
          · rw [frameStep, Option.isSome_map, Frame.copy_isSome_iff, hle]
          · exact hcopied cells
      | assign target =>
          apply runsOk_cons
          · rw [frameStep, Option.isSome_map, Frame.assign, Frame.copy_isSome_iff, hle]
          · exact hcopied target.data
      | writeTo cells =>
          apply runsOk_cons
          · rw [frameStep, Option.isSome_map, Frame.writeTo_isSome_iff, hle]
          · intro t ht
            obtain ⟨cf, hcf, rfl⟩ := Option.map_eq_some_iff.mp ht
            apply ih ⟨s.frame, s.wire ++ [cf]⟩ last hsize
            intro cf' hcf'
            rcases List.mem_append.mp hcf' with hmem | hmem
            · exact hwire cf' hmem
            · -- the new datagram has the size of the frame
              rw [List.mem_singleton.mp hmem, Frame.writeTo_size hcf]
              have hok : (s.frame.writeTo cells).isSome = true := by rw [hcf]; rfl
              exact (Frame.writeTo_isSome_iff s.frame cells).mp hok

/-- A frame that could be made has a size that fits. -/
theorem Construct.build_size {c : Construct} {f : Frame} (h : c.build = some f) :
    SizeIs f none := by
  cases c with
  | empty data =>
      cases h
      exact Nat.zero_le 8
  | array src dst proto data size =>
      obtain ⟨g, hg, hsize⟩ := Frame.ofArray_eq src dst proto data size
      cases hg.symm.trans h
      exact hsize
  | vector src dst proto data => exact Frame.ofVector_size h
  | readFrom cf =>
      obtain ⟨g, hg, hsize⟩ := Frame.ofArray_eq (cf.id &&& (0x3ff : UInt32)).toUInt16
        ((cf.id >>> 10) &&& (0x3ff : UInt32)).toUInt16 ((cf.id >>> 20) &&& (0x7 : UInt32)).toUInt8
        cf.data cf.size
      cases hg.symm.trans h
      exact hsize

theorem Construct.build_isSome_iff (c : Construct) : c.build.isSome ↔ c.SizeOk := by
  cases c with
  | empty data => exact iff_of_true rfl trivial
  | array src dst proto data size =>
      obtain ⟨g, hg, _⟩ := Frame.ofArray_eq src dst proto data size
      exact iff_of_true (Option.isSome_of_eq_some hg) trivial
  | vector src dst proto data => exact Frame.ofVector_isSome_iff src dst proto data
  | readFrom cf =>
      obtain ⟨g, hg, _⟩ := Frame.ofArray_eq (cf.id &&& (0x3ff : UInt32)).toUInt16
        ((cf.id >>> 10) &&& (0x3ff : UInt32)).toUInt16 ((cf.id >>> 20) &&& (0x7 : UInt32)).toUInt8
        cf.data cf.size
      exact iff_of_true (Option.isSome_of_eq_some hg) trivial

/-- **The life of a frame stays inside its payload** exactly if the vector it
was made from is short enough and no copy follows a `set_data` too far out. -/
theorem sessionOk_iff (c : Construct) (ops : List FrameOp) :
    SessionOk c ops ↔ c.SizeOk ∧ OpsOk none ops := by
  unfold SessionOk frameRun
  by_cases hok : c.SizeOk
  · obtain ⟨f, hf⟩ := Option.isSome_iff_exists.mp (c.build_isSome_iff.mpr hok)
    rw [hf, Option.bind_some, and_iff_right hok]
    exact opsOk_iff ops ⟨f, []⟩ none (Construct.build_size hf) (by simp)
  · have hnone : c.build = none := by
      rw [← Option.not_isSome_iff_eq_none, c.build_isSome_iff]
      exact hok
    rw [hnone]
    exact iff_of_false (by simp) fun h => hok h.1

end Host

end OpenHcan
