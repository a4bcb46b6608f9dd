import OpenHcan.HcanData.DataFileRuns

/-!
# DataBlockSync — the data block of a closed file

When a file is closed, `sync` computes the size of the data block and the
times of its oldest and its newest frame, and `write_data_block` writes the
block back. It writes as many bytes as a header block has, and that is all of
a data block but its last field: the time of the newest frame never gets to
the disk.
-/

namespace OpenHcan.HcanData

open Lib (bind_ok run)

set_option maxRecDepth 100000

/-! ## Sessions that end normally -/

/-- Every record of the session is written whole. -/
def Session.Normal (s : Session) : Prop := ∀ attempt ∈ s.attempts, sizeofEntry ≤ attempt.2

/-- The frames of the session. -/
def Session.frames (s : Session) : List DataFileFrameEntry := s.attempts.map Prod.fst

/-- The frames of all sessions, in the order of the file. -/
def framesOf (sessions : List Session) : List DataFileFrameEntry :=
  sessions.flatMap Session.frames

/-- The time of the first record. -/
def oldestTime (es : List DataFileFrameEntry) : UInt64 :=
  (es.head?.map DataFileFrameEntry.timestamp).getD 0

/-- The time of the last record. -/
def newestTime (es : List DataFileFrameEntry) : UInt64 :=
  (es.getLast?.map DataFileFrameEntry.timestamp).getD 0

/-- The bytes of a data block with the frames `es`. -/
def blockSize (es : List DataFileFrameEntry) : Nat := sizeofDataBlock + sizeofEntry * es.length

/-- What a closed file should be: the header block, a data block with its size
and the times of the oldest and the newest frame, and the frames. -/
def ClosedRight (file : List UInt8) (es : List DataFileFrameEntry) : Prop :=
  ∃ d : DataFileDataBlock, d.type = dataFileTypeData ∧ d.size.toNat = blockSize es ∧
    d.firstTimestamp = oldestTime es ∧ d.lastTimestamp = newestTime es ∧
    file = headerBlock.bytes ++ (d.bytes ++ es.flatMap DataFileFrameEntry.bytes)

/-! ## One session -/

/-- The file `d` and `es` make. -/
def layout (d : DataFileDataBlock) (es : List DataFileFrameEntry) : List UInt8 :=
  headerBlock.bytes ++ (d.bytes ++ es.flatMap DataFileFrameEntry.bytes)

/-- The data block that is on the disk when the file is closed. -/
def closedBlock (es : List DataFileFrameEntry) : DataFileDataBlock where
  type := dataFileTypeData
  size := UInt32.ofNat (blockSize es)
  firstTimestamp := oldestTime es
  lastTimestamp := 0

theorem layout_shaped {d : DataFileDataBlock} (hd : d.type = dataFileTypeData)
    (es : List DataFileFrameEntry) : Shaped (layout d es) es [] := by
  refine ⟨d, hd, ?_⟩
  rw [List.append_nil]
  rfl

theorem length_layout (d : DataFileDataBlock) (es : List DataFileFrameEntry) :
    (layout d es).length = sizeofHeader + blockSize es := by
  have hrecords := Lib.length_flatMap_records DataFileFrameEntry.length_bytes es
  unfold layout blockSize
  simp only [List.length_append, DataFileHeaderBlock.length_bytes, DataFileDataBlock.length_bytes,
    hrecords]

/-- All writes of a normal session succeed. -/
theorem writeFrames_ok {attempts : List (DataFileFrameEntry × Nat)}
    (h : ∀ attempt ∈ attempts, sizeofEntry ≤ attempt.2) (file : List UInt8) :
    ∃ pos, writeFrames attempts ⟨file, file.length⟩ =
      .ok () ⟨file ++ (attempts.map Prod.fst).flatMap DataFileFrameEntry.bytes, pos⟩ := by
  induction attempts generalizing file with
  | nil =>
      rw [List.map_nil, List.flatMap_nil, List.append_nil]
      exact ⟨_, rfl⟩
  | cons attempt attempts ih =>
      obtain ⟨frame, k⟩ := attempt
      have hk : sizeofEntry ≤ k := h (frame, k) List.mem_cons_self
      have hwrite := writeFrame_end file frame k
      rw [if_neg (by omega)] at hwrite
      obtain ⟨pos, hrest⟩ :=
        ih (fun attempt hmem => h attempt (List.mem_cons_of_mem _ hmem)) (file ++ frame.bytes)
      refine ⟨pos, ?_⟩
      rw [writeFrames, bind_ok hwrite, hrest, List.map_cons, List.flatMap_cons,
        List.append_assoc]

/-- The block `sync` computes; what it has for the newest frame does not matter
here. -/
theorem syncedDataBlock_layout (d : DataFileDataBlock) (es : List DataFileFrameEntry) :
    ∃ last pos, syncedDataBlock d (blockSize es) ⟨layout d es, sizeofHeader + sizeofDataBlock⟩ =
      .ok ⟨d.type, UInt32.ofNat (blockSize es), oldestTime es, last⟩ ⟨layout d es, pos⟩ := by
  cases es with
  | nil =>
      unfold syncedDataBlock
      dsimp only
      rw [if_neg (by decide)]
      exact ⟨0, _, rfl⟩
  | cons e es =>
      have hbehind : (layout d (e :: es)).drop (sizeofHeader + sizeofDataBlock) =
          e.bytes ++ es.flatMap DataFileFrameEntry.bytes := by
        unfold layout
        rw [← List.drop_drop, List.drop_left' (DataFileHeaderBlock.length_bytes _),
          List.drop_left' (DataFileDataBlock.length_bytes _), List.flatMap_cons]
      have hread : readFrame ⟨layout d (e :: es), sizeofHeader + sizeofDataBlock⟩ =
          .ok e ⟨layout d (e :: es), sizeofHeader + sizeofDataBlock + sizeofEntry⟩ := by
        have htake : ((layout d (e :: es)).drop (sizeofHeader + sizeofDataBlock)).take sizeofEntry =
            e.bytes := by
          rw [hbehind, List.take_left' (DataFileFrameEntry.length_bytes _)]
        unfold readFrame
        rw [bind_ok (read_apply _ _), htake, DataFileFrameEntry.ofBytes_bytes,
          DataFileFrameEntry.length_bytes]
        rfl
      have hsize : blockSize (e :: es) > sizeofDataBlock := by
        simp only [blockSize, List.length_cons, sizeofEntry]
        omega
      unfold syncedDataBlock
      dsimp only
      rw [if_pos hsize, bind_ok hread, bind_ok (seekEnd_apply _ _)]
      exact ⟨_, _, rfl⟩

/-- **The destructor** brings size and oldest time up to date, and keeps the
field of the newest time as it was. -/
theorem sync_layout (d : DataFileDataBlock) (es : List DataFileFrameEntry) (pos : Nat) :
    fileOf (sync ⟨layout d es, pos⟩) =
      layout ⟨d.type, UInt32.ofNat (blockSize es), oldestTime es, d.lastTimestamp⟩ es := by
  have hheader := headerBlock_take (d.bytes ++ es.flatMap DataFileFrameEntry.bytes)
  have hdata := dataBlock_take d (es.flatMap DataFileFrameEntry.bytes)
  have hlen := length_layout d es
  have hsize : headerBlock.size.toNat = sizeofHeader := rfl
  change DataFileHeaderBlock.ofBytes ((layout d es).take sizeofHeader) = headerBlock at hheader
  change DataFileDataBlock.ofBytes (((layout d es).drop sizeofHeader).take sizeofDataBlock) = d
    at hdata
  have hread : ((layout d es).drop sizeofHeader).take sizeofDataBlock = d.bytes := by
    unfold layout
    rw [List.drop_left' (DataFileHeaderBlock.length_bytes _),
      List.take_left' (DataFileDataBlock.length_bytes _)]
  have hend : (layout d es).length - 0 - sizeofHeader = blockSize es := by omega
  obtain ⟨last, pos', hsynced⟩ := syncedDataBlock_layout d es
  obtain ⟨pos'', hwrite⟩ := writeDataBlock_spec sizeofHeader
    ⟨d.type, UInt32.ofNat (blockSize es), oldestTime es, last⟩ ⟨layout d es, pos'⟩
  rw [sync, bind_ok (seekEnd_apply _ _), bind_ok (seek_apply _ _), bind_ok (read_apply _ _),
    List.drop_zero, hheader, bind_ok (seek_apply _ _), bind_ok (read_apply _ _), hsize, hdata, hend,
    hread, DataFileDataBlock.length_bytes, bind_ok hsynced, bind_ok hwrite,
    bind_ok (seekEnd_apply _ _)]
  exact overwrite_dataBlock d _ (es.flatMap DataFileFrameEntry.bytes)

theorem layout_append (d : DataFileDataBlock) (es es' : List DataFileFrameEntry) :
    layout d es ++ es'.flatMap DataFileFrameEntry.bytes = layout d (es ++ es') := by
  unfold layout
  rw [List.flatMap_append, List.append_assoc, List.append_assoc]

theorem written_normal {attempts : List (DataFileFrameEntry × Nat)}
    (h : ∀ attempt ∈ attempts, sizeofEntry ≤ attempt.2) :
    written attempts = attempts.map Prod.fst := by
  induction attempts with
  | nil => rfl
  | cons attempt attempts ih =>
      obtain ⟨frame, k⟩ := attempt
      have hk : sizeofEntry ≤ k := h (frame, k) List.mem_cons_self
      rw [written, if_neg (by omega),
        ih fun attempt hmem => h attempt (List.mem_cons_of_mem _ hmem), List.map_cons]

/-- What a normal session makes of a file that opens with the frames `es`. -/
theorem sessionStep_normal (st : List UInt8 × List DataFileFrameEntry) {s : Session}
    (hs : s.Normal) {d : DataFileDataBlock} (hd : d.type = dataFileTypeData)
    (hlast : d.lastTimestamp = 0)
    (hopen : openWriter s.now sizeofHeader sizeofDataBlock ⟨st.1, 0⟩ =
      .ok () ⟨layout d st.2, (layout d st.2).length⟩) :
    sessionStep st s =
      (layout (closedBlock (st.2 ++ s.frames)) (st.2 ++ s.frames), st.2 ++ s.frames) := by
  obtain ⟨pos, hwrites⟩ := writeFrames_ok hs (layout d st.2)
  rw [layout_append] at hwrites
  have hsync := sync_layout d (st.2 ++ s.frames) pos
  rw [hd, hlast] at hsync
  unfold sessionStep
  rw [hopen]
  dsimp only
  rw [hwrites, written_normal hs]
  exact congrArg (·, st.2 ++ s.frames) hsync

/-- The first session makes the file. -/
theorem sessionStep_first {s : Session} (hs : s.Normal) :
    sessionStep ([], []) s = (layout (closedBlock s.frames) s.frames, s.frames) := by
  refine sessionStep_normal ([], []) (d := newDataBlock s.now) hs rfl rfl ?_
  show setupFile s.now sizeofHeader sizeofDataBlock ⟨[], 0⟩ = _
  rw [setupFile_new, layout, List.flatMap_nil, List.append_nil]
  rfl

/-- A later session finds it closed. -/
theorem sessionStep_later {s : Session} (hs : s.Normal) (es : List DataFileFrameEntry) :
    sessionStep (layout (closedBlock es) es, es) s =
      (layout (closedBlock (es ++ s.frames)) (es ++ s.frames), es ++ s.frames) := by
  have hshaped := layout_shaped (d := closedBlock es) rfl es
  refine sessionStep_normal (layout (closedBlock es) es, es) (d := closedBlock es) hs rfl
    rfl ?_
  have hpos : (layout (closedBlock es) es).length > 0 := by
    rw [length_layout, blockSize, sizeofDataBlock]
    omega
  rw [openWriter, bind_ok (Lib.get_apply _), if_pos hpos]
  exact checkIfFileValid_ok hshaped 0

/-! ## Runs -/

theorem run_later (sessions : List Session) (hs : ∀ s ∈ sessions, s.Normal)
    (es : List DataFileFrameEntry) :
    run sessionStep (layout (closedBlock es) es, es) sessions =
      (layout (closedBlock (es ++ framesOf sessions)) (es ++ framesOf sessions),
        es ++ framesOf sessions) := by
  induction sessions generalizing es with
  | nil =>
      have hnone : es ++ framesOf [] = es := List.append_nil es
      rw [hnone]
      rfl
  | cons s sessions ih =>
      have hmore : es ++ framesOf (s :: sessions) = es ++ s.frames ++ framesOf sessions := by
        rw [framesOf, List.flatMap_cons, List.append_assoc]
        rfl
      rw [Lib.run_cons, sessionStep_later (hs s List.mem_cons_self), hmore]
      exact ih (fun s' hmem => hs s' (List.mem_cons_of_mem _ hmem)) (es ++ s.frames)

/-- **The file after the last close**: everything is as it should be but the time
of the newest frame, which is 0, and a size above 32 bits. -/
theorem run_sessions {sessions : List Session} (hne : sessions ≠ [])
    (hs : ∀ s ∈ sessions, s.Normal) :
    (run sessionStep ([], []) sessions).1 =
      layout (closedBlock (framesOf sessions)) (framesOf sessions) := by
  cases sessions with
  | nil => exact absurd rfl hne
  | cons s sessions =>
      rw [Lib.run_cons, sessionStep_first (hs s List.mem_cons_self),
        run_later sessions fun s' hmem => hs s' (List.mem_cons_of_mem _ hmem)]
      rfl

/-- The time of the newest frame is what is on the disk, and the size fits. -/
def NewestZero (es : List DataFileFrameEntry) : Prop :=
  newestTime es = 0 ∧ blockSize es < 2 ^ 32

theorem layout_injective {d d' : DataFileDataBlock} {es : List DataFileFrameEntry}
    (h : layout d es = layout d' es) : d = d' := by
  have hblock := congrArg (fun file => DataFileDataBlock.ofBytes (file.drop sizeofHeader)) h
  unfold layout at hblock
  simpa only [List.drop_left' (DataFileHeaderBlock.length_bytes _),
    DataFileDataBlock.ofBytes_bytes] using hblock

theorem closedRight_iff (es : List DataFileFrameEntry) :
    ClosedRight (layout (closedBlock es) es) es ↔ NewestZero es := by
  constructor
  · rintro ⟨d, -, hsize, -, hlast, hfile⟩
    have hd : closedBlock es = d := layout_injective hfile
    subst hd
    refine ⟨hlast.symm, ?_⟩
    rw [← hsize]
    exact UInt32.toNat_lt _
  · rintro ⟨hlast, hsize⟩
    refine ⟨closedBlock es, rfl, ?_, rfl, hlast.symm, rfl⟩
    exact UInt32.toNat_ofNat_of_lt' hsize

/-- **The data block after every close** is right exactly as long as the newest
frame has time 0, or there is none, and the block stays below 4 GiB. -/
theorem dataBlock_after_close (sessions : List Session) (hs : ∀ s ∈ sessions, s.Normal) :
    (∀ pre, pre <+: sessions → pre ≠ [] →
        ClosedRight (run sessionStep ([], []) pre).1 (framesOf pre)) ↔
      ∀ pre, pre <+: sessions → pre ≠ [] → NewestZero (framesOf pre) := by
  have hpre : ∀ pre, pre <+: sessions → pre ≠ [] →
      (ClosedRight (run sessionStep ([], []) pre).1 (framesOf pre) ↔
        NewestZero (framesOf pre)) := by
    intro pre hprefix hne
    rw [run_sessions hne fun s hmem => hs s (List.IsPrefix.subset hprefix hmem)]
    exact closedRight_iff _
  constructor
  · intro hall pre hprefix hne
    exact (hpre pre hprefix hne).mp (hall pre hprefix hne)
  · intro hall pre hprefix hne
    exact (hpre pre hprefix hne).mpr (hall pre hprefix hne)

/-! ### A session without frames, and one with a frame -/

section Example

private def leer : Session := ⟨1, [], true⟩

private def einFrame : Session := ⟨1, [(countedFrame 7, 24)], true⟩

theorem dataBlock_after_close_leer :
    (∀ pre, pre <+: [leer] → pre ≠ [] →
        ClosedRight (run sessionStep ([], []) pre).1 (framesOf pre)) ↔
      ∀ pre, pre <+: [leer] → pre ≠ [] → NewestZero (framesOf pre) := by
  refine dataBlock_after_close [leer] fun s hmem => ?_
  rw [List.mem_singleton.mp hmem]
  intro attempt hnone
  exact absurd hnone List.not_mem_nil

/-- **The newest time is lost**: a frame of time 7 leaves 0 in the data block. -/
theorem newest_time_lost :
    ¬ ∀ sessions : List Session, (∀ s ∈ sessions, s.Normal) →
      ∀ pre, pre <+: sessions → pre ≠ [] →
        ClosedRight (run sessionStep ([], []) pre).1 (framesOf pre) := by
  intro hall
  have hnormal : ∀ s ∈ [einFrame], s.Normal := by
    intro s hmem
    rw [List.mem_singleton.mp hmem]
    intro attempt hattempt
    rw [List.mem_singleton.mp hattempt]
    exact Nat.le_refl _
  have hclosed := hall [einFrame] hnormal [einFrame] (List.prefix_refl _) (List.cons_ne_nil _ _)
  rw [run_sessions (List.cons_ne_nil _ _) hnormal, closedRight_iff] at hclosed
  have hseven : newestTime (framesOf [einFrame]) = 0 := hclosed.1
  revert hseven
  decide

end Example

end OpenHcan.HcanData
