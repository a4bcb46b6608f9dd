import OpenHcan.Lib.ErrorState
import OpenHcan.Lib.Machine
import OpenHcan.HcanData.DataFile

/-!
# DataFileRuns — sessions of the writer and what is read back

A session opens the file, writes frames until one of the writes takes only a
part of its record or until it is closed. Where a record lies follows from
the length of the file alone, and no session looks at what the one before
left: behind a torn record every later one is out of place. As long as no
session completes a record behind a torn one, the reader finds exactly the
frames that were written (`dataFile_reads_back`).
-/

namespace OpenHcan.HcanData

open Lib (bind_ok bind_error bind_apply encodeLE run Guarded)

set_option maxRecDepth 100000

/-! ## Sessions -/

/-- A session: the time it starts, the frames it writes with the number of
bytes the kernel takes of each record, and whether the destructor runs when a
write fails. -/
structure Session where
  now : UInt64
  attempts : List (DataFileFrameEntry × Nat)
  unwinds : Bool

/-- The writes of a session, up to the first that throws. -/
def writeFrames : List (DataFileFrameEntry × Nat) → WriterM Unit
  | [] => pure ()
  | (frame, k) :: attempts => do
      writeFrame frame k
      writeFrames attempts

/-- The frames whose `write_frame` returned. -/
def written : List (DataFileFrameEntry × Nat) → List DataFileFrameEntry
  | [] => []
  | (frame, k) :: attempts => if k < sizeofEntry then [] else frame :: written attempts

/-- What the write that threw left of its record. -/
def torn : List (DataFileFrameEntry × Nat) → List UInt8
  | [] => []
  | (frame, k) :: attempts => if k < sizeofEntry then frame.bytes.take k else torn attempts

/-- The file behind a session and the frames written so far. -/
def sessionStep (st : List UInt8 × List DataFileFrameEntry) (s : Session) :
    List UInt8 × List DataFileFrameEntry :=
  match openWriter s.now sizeofHeader sizeofDataBlock ⟨st.1, 0⟩ with
  | .error _ w => (w.file, st.2)
  | .ok _ w =>
      let file := match writeFrames s.attempts w with
        | .ok _ w => fileOf (sync w)
        | .error _ w => if s.unwinds then fileOf (sync w) else w.file
      (file, st.2 ++ written s.attempts)

/-- The reader finds exactly the frames `es`. -/
def ReadsBack (file : List UInt8) (es : List DataFileFrameEntry) : Prop :=
  ∃ df, dataFile file = .ok df ∧ df.frames = es.map .ok

/-! ## The shape of a file -/

/-- The file holds its two blocks, the records of `es` and `tail`. -/
def Shaped (file : List UInt8) (es : List DataFileFrameEntry) (tail : List UInt8) : Prop :=
  ∃ d : DataFileDataBlock, d.type = dataFileTypeData
    ∧ file = headerBlock.bytes ++ (d.bytes ++ (es.flatMap DataFileFrameEntry.bytes ++ tail))

theorem Shaped.length {file : List UInt8} {es : List DataFileFrameEntry} {tail : List UInt8}
    (h : Shaped file es tail) : file.length = 40 + (24 * es.length + tail.length) := by
  obtain ⟨d, _, rfl⟩ := h
  have hrecords := Lib.length_flatMap_records DataFileFrameEntry.length_bytes es
  simp only [List.length_append, DataFileHeaderBlock.length_bytes, DataFileDataBlock.length_bytes,
    hrecords, sizeofHeader, sizeofDataBlock, sizeofEntry]
  omega

theorem overwrite_end (file bytes : List UInt8) :
    overwrite file file.length bytes = file ++ bytes := by
  simp [overwrite]

theorem require_ok {c : Prop} [Decidable c] (h : c) (e : FileError) (w : Writer) :
    require c e w = .ok () w := by
  rw [require, if_pos h]
  rfl

theorem require_error {c : Prop} [Decidable c] (h : ¬ c) (e : FileError) (w : Writer) :
    require c e w = .error e w := by
  rw [require, if_neg h]
  rfl

theorem seek_apply (pos : Nat) (w : Writer) : seek pos w = .ok pos ⟨w.file, pos⟩ := rfl

theorem seekEnd_apply (back : Nat) (w : Writer) :
    seekEnd back w = .ok (w.file.length - back) ⟨w.file, w.file.length - back⟩ := rfl

theorem read_apply (n : Nat) (w : Writer) :
    read n w = .ok ((w.file.drop w.pos).take n)
      ⟨w.file, w.pos + ((w.file.drop w.pos).take n).length⟩ := rfl

/-- A write at the end appends what the kernel takes of it. -/
theorem writeWhole_end (file bytes : List UInt8) (k : Nat) (e : FileError) :
    writeWhole bytes k e ⟨file, file.length⟩
      = if k < bytes.length then
          .error e ⟨file ++ bytes.take k, (file ++ bytes.take k).length⟩
        else .ok () ⟨file ++ bytes, (file ++ bytes).length⟩ := by
  have hwrite : write bytes k ⟨file, file.length⟩
      = .ok (bytes.take k).length ⟨file ++ bytes.take k, (file ++ bytes.take k).length⟩ := by
    rw [write, overwrite_end, List.length_append]
  rw [writeWhole, bind_ok hwrite]
  by_cases hk : k < bytes.length
  · rw [if_pos hk, require_error (by rw [List.length_take]; omega)]
  · rw [if_neg hk, List.take_of_length_le (by omega), require_ok rfl]

theorem setupFile_new (now : UInt64) :
    setupFile now sizeofHeader sizeofDataBlock ⟨[], 0⟩
      = .ok () ⟨headerBlock.bytes ++ (newDataBlock now).bytes, 40⟩ := by
  have hheader : writeWhole headerBlock.bytes sizeofHeader .writeHeader ⟨[], 0⟩
      = .ok () ⟨headerBlock.bytes, headerBlock.bytes.length⟩ := by
    have := writeWhole_end [] headerBlock.bytes sizeofHeader .writeHeader
    rw [if_neg (by simp)] at this
    exact this
  have hdata := writeWhole_end headerBlock.bytes (newDataBlock now).bytes sizeofDataBlock
    .writeDataBlock
  rw [if_neg (by simp)] at hdata
  rw [setupFile, bind_ok hheader]
  exact hdata

theorem headerBlock_take (rest : List UInt8) :
    DataFileHeaderBlock.ofBytes ((headerBlock.bytes ++ rest).take sizeofHeader) = headerBlock := by
  rw [List.take_left' (DataFileHeaderBlock.length_bytes _), ← List.append_nil headerBlock.bytes,
    DataFileHeaderBlock.ofBytes_bytes]

theorem dataBlock_take (d : DataFileDataBlock) (rest : List UInt8) :
    DataFileDataBlock.ofBytes
      (((headerBlock.bytes ++ (d.bytes ++ rest)).drop sizeofHeader).take sizeofDataBlock) = d := by
  rw [List.drop_left' (DataFileHeaderBlock.length_bytes _),
    List.take_left' (DataFileDataBlock.length_bytes _), ← List.append_nil d.bytes,
    DataFileDataBlock.ofBytes_bytes]

/-- A file of the right shape passes the check. -/
theorem checkIfFileValid_ok {file : List UInt8} {es : List DataFileFrameEntry}
    {tail : List UInt8} (h : Shaped file es tail) (pos : Nat) :
    checkIfFileValid ⟨file, pos⟩ = .ok () ⟨file, file.length⟩ := by
  obtain ⟨d, hd, rfl⟩ := h
  have hheader := headerBlock_take (d.bytes ++ (es.flatMap DataFileFrameEntry.bytes ++ tail))
  have hdata := dataBlock_take d (es.flatMap DataFileFrameEntry.bytes ++ tail)
  generalize headerBlock.bytes ++ (d.bytes ++ (es.flatMap DataFileFrameEntry.bytes ++ tail))
    = file at hheader hdata
  have hmagic : headerBlock.magic = dataFileMagic1 := rfl
  have hmagic2 : headerBlock.magic2 = dataFileMagic2 := rfl
  have htype : headerBlock.type = dataFileTypeHeader := rfl
  have hsize : headerBlock.size.toNat = sizeofHeader := rfl
  rw [checkIfFileValid, bind_ok (seek_apply _ _), bind_ok (read_apply _ _), List.drop_zero,
    hheader, bind_ok (require_ok hmagic _ _), bind_ok (require_ok hmagic2 _ _),
    bind_ok (require_ok htype _ _), bind_ok (seek_apply _ _), bind_ok (read_apply _ _), hsize,
    hdata, bind_ok (require_ok hd _ _), bind_ok (seekEnd_apply _ _)]
  rfl

/-- A record is appended whole or in part. -/
theorem writeFrame_end (file : List UInt8) (frame : DataFileFrameEntry) (k : Nat) :
    writeFrame frame k ⟨file, file.length⟩
      = if k < sizeofEntry then
          .error .writeFrame ⟨file ++ frame.bytes.take k, (file ++ frame.bytes.take k).length⟩
        else .ok () ⟨file ++ frame.bytes, (file ++ frame.bytes).length⟩ := by
  rw [writeFrame, writeWhole_end, DataFileFrameEntry.length_bytes]

/-- The writes of a session append the written records and what is torn. -/
theorem writeFrames_end (attempts : List (DataFileFrameEntry × Nat)) (file : List UInt8) :
    fileOf (writeFrames attempts ⟨file, file.length⟩)
      = file ++ ((written attempts).flatMap DataFileFrameEntry.bytes ++ torn attempts) := by
  induction attempts generalizing file with
  | nil =>
      rw [written, torn, List.flatMap_nil, List.append_nil, List.append_nil]
      rfl
  | cons attempt attempts ih =>
      obtain ⟨frame, k⟩ := attempt
      have hwrite := writeFrame_end file frame k
      rw [writeFrames, written, torn]
      by_cases hk : k < sizeofEntry
      · rw [if_pos hk] at hwrite
        rw [bind_error hwrite, if_pos hk, if_pos hk]
        rfl
      · rw [if_neg hk] at hwrite
        rw [bind_ok hwrite, if_neg hk, if_neg hk, ih, List.flatMap_cons, List.append_assoc,
          List.append_assoc]

/-! ## The destructor -/

theorem writeWhole_full (bytes : List UInt8) {k : Nat} (hk : bytes.length ≤ k) (e : FileError)
    (w : Writer) :
    writeWhole bytes k e w
      = .ok () ⟨overwrite w.file w.pos bytes, w.pos + bytes.length⟩ := by
  have htake : bytes.take k = bytes := List.take_of_length_le hk
  rw [writeWhole, bind_apply, write, htake]
  exact require_ok rfl e _

/-- `sync` computes a data block from the file and leaves the file alone. -/
theorem syncedDataBlock_spec (d : DataFileDataBlock) (size : Nat) (w : Writer) :
    ∃ d' pos, syncedDataBlock d size w = .ok d' ⟨w.file, pos⟩ ∧ d'.type = d.type := by
  rw [syncedDataBlock]
  split
  · exact ⟨_, _, rfl, rfl⟩
  · exact ⟨_, _, rfl, rfl⟩

/-- The rewritten part of the data block leaves a data block: `write_data_block`
stops short of the last timestamp. -/
theorem overwrite_dataBlock (d d' : DataFileDataBlock) (rest : List UInt8) :
    overwrite (headerBlock.bytes ++ (d.bytes ++ rest)) sizeofHeader (d'.bytes.take sizeofHeader)
      = headerBlock.bytes
        ++ ({ d' with lastTimestamp := d.lastTimestamp : DataFileDataBlock }.bytes ++ rest) := by
  have hhead : (d'.bytes.take sizeofHeader)
      = encodeLE 4 d'.type.toNat ++ encodeLE 4 d'.size.toNat
        ++ encodeLE 8 d'.firstTimestamp.toNat := by
    rw [DataFileDataBlock.bytes, List.take_left' (by simp [sizeofHeader])]
  have htail : d.bytes.drop sizeofHeader = encodeLE 8 d.lastTimestamp.toNat := by
    rw [DataFileDataBlock.bytes, List.drop_left' (by simp [sizeofHeader])]
  have hlen : (d'.bytes.take sizeofHeader).length = sizeofHeader := by
    rw [List.length_take, DataFileDataBlock.length_bytes]
    rfl
  have hdrop : (headerBlock.bytes ++ (d.bytes ++ rest)).drop (sizeofHeader + sizeofHeader)
      = d.bytes.drop sizeofHeader ++ rest := by
    rw [← List.drop_drop, List.drop_left' (DataFileHeaderBlock.length_bytes _),
      List.drop_append_of_le_length (by simp [sizeofHeader, sizeofDataBlock])]
  have hgap : sizeofHeader - (headerBlock.bytes ++ (d.bytes ++ rest)).length = 0 := by
    rw [List.length_append, DataFileHeaderBlock.length_bytes]
    omega
  rw [overwrite, hlen, hdrop, hgap, List.take_left' (DataFileHeaderBlock.length_bytes _), htail,
    hhead]
  simp [DataFileDataBlock.bytes]

theorem writeDataBlock_spec (dataPos : Nat) (d : DataFileDataBlock) (w : Writer) :
    ∃ pos, writeDataBlock dataPos d w
      = .ok () ⟨overwrite w.file dataPos (d.bytes.take sizeofHeader), pos⟩ := by
  have hlen : (d.bytes.take sizeofHeader).length ≤ sizeofHeader := List.length_take_le _ _
  rw [writeDataBlock, bind_ok (seek_apply _ _)]
  exact ⟨_, writeWhole_full _ hlen _ _⟩

/-- **The destructor** keeps the shape of the file. -/
theorem sync_shaped {w : Writer} {es : List DataFileFrameEntry} {tail : List UInt8}
    (h : Shaped w.file es tail) : Shaped (fileOf (sync w)) es tail := by
  obtain ⟨d, hd, hfile⟩ := h
  have hheader := headerBlock_take (d.bytes ++ (es.flatMap DataFileFrameEntry.bytes ++ tail))
  have hdata := dataBlock_take d (es.flatMap DataFileFrameEntry.bytes ++ tail)
  have hsize : headerBlock.size.toNat = sizeofHeader := rfl
  rw [← hfile] at hheader hdata
  rw [sync, bind_ok (seekEnd_apply _ _), bind_ok (seek_apply _ _), bind_ok (read_apply _ _),
    List.drop_zero, hheader, bind_ok (seek_apply _ _), bind_ok (read_apply _ _), hsize, hdata]
  obtain ⟨d', pos, hsynced, htype⟩ := syncedDataBlock_spec d
    (w.file.length - 0 - sizeofHeader) ⟨w.file, sizeofHeader
      + ((w.file.drop sizeofHeader).take sizeofDataBlock).length⟩
  obtain ⟨pos', hwrite⟩ := writeDataBlock_spec sizeofHeader d' ⟨w.file, pos⟩
  rw [bind_ok hsynced, bind_ok hwrite, bind_ok (seekEnd_apply _ _)]
  refine ⟨{ d' with lastTimestamp := d.lastTimestamp }, htype.trans hd, ?_⟩
  rw [← overwrite_dataBlock, ← hfile]
  rfl

/-! ## One session -/

theorem length_torn_lt (attempts : List (DataFileFrameEntry × Nat)) :
    (torn attempts).length < sizeofEntry := by
  induction attempts with
  | nil => decide
  | cons attempt attempts ih =>
      obtain ⟨frame, k⟩ := attempt
      rw [torn]
      split
      · next hk => exact Nat.lt_of_le_of_lt (List.length_take_le _ _) hk
      · exact ih

/-- Opening a new or a well shaped file succeeds and goes to its end. -/
theorem openWriter_ok {file : List UInt8} {es : List DataFileFrameEntry} {tail : List UInt8}
    (h : (file = [] ∧ es = [] ∧ tail = []) ∨ Shaped file es tail) (now : UInt64) :
    ∃ file', openWriter now sizeofHeader sizeofDataBlock ⟨file, 0⟩ = .ok () ⟨file', file'.length⟩
      ∧ Shaped file' es tail := by
  rcases h with ⟨rfl, rfl, rfl⟩ | h
  · refine ⟨_, setupFile_new now, newDataBlock now, rfl, ?_⟩
    rw [List.flatMap_nil, List.append_nil, List.append_nil]
  · have hpos : file.length > 0 := by
      have := h.length
      omega
    refine ⟨file, ?_, h⟩
    rw [openWriter, bind_ok (Lib.get_apply _), if_pos hpos]
    exact checkIfFileValid_ok h 0

/-- Records behind whole records are records; what is torn becomes the tail. -/
theorem Shaped.append_records {file : List UInt8} {es : List DataFileFrameEntry}
    (h : Shaped file es []) (es' : List DataFileFrameEntry) (tail : List UInt8) :
    Shaped (file ++ (es'.flatMap DataFileFrameEntry.bytes ++ tail)) (es ++ es') tail := by
  obtain ⟨d, hd, rfl⟩ := h
  refine ⟨d, hd, ?_⟩
  simp only [List.flatMap_append, List.append_assoc, List.append_nil]

/-- Bytes behind a torn record make the tail longer. -/
theorem Shaped.append_tail {file : List UInt8} {es : List DataFileFrameEntry} {tail : List UInt8}
    (h : Shaped file es tail) (tail' : List UInt8) :
    Shaped (file ++ tail') es (tail ++ tail') := by
  obtain ⟨d, hd, rfl⟩ := h
  refine ⟨d, hd, ?_⟩
  simp only [List.append_assoc]

/-- The file a session leaves has the shape that its writes gave it. -/
theorem sessionStep_shaped {file : List UInt8} {es es' : List DataFileFrameEntry}
    {tail tail' : List UInt8} (h : (file = [] ∧ es = [] ∧ tail = []) ∨ Shaped file es tail)
    (s : Session)
    (hwrites : ∀ file', Shaped file' es tail →
      Shaped (file' ++ ((written s.attempts).flatMap DataFileFrameEntry.bytes ++ torn s.attempts))
        es' tail') :
    Shaped (sessionStep (file, es) s).1 es' tail'
      ∧ (sessionStep (file, es) s).2 = es ++ written s.attempts := by
  obtain ⟨file', hopen, hshaped⟩ := openWriter_ok h s.now
  have hend := hwrites file' hshaped
  rw [← writeFrames_end] at hend
  simp only [sessionStep, hopen]
  refine ⟨?_, trivial⟩
  cases hrun : writeFrames s.attempts ⟨file', file'.length⟩ with
  | ok a w =>
      rw [hrun] at hend
      exact sync_shaped hend
  | error e w =>
      rw [hrun] at hend
      show Shaped (if s.unwinds then fileOf (sync w) else w.file) es' tail'
      split
      · exact sync_shaped hend
      · exact hend

/-! ## Reading -/

theorem Shaped.dataFile {file : List UInt8} {es : List DataFileFrameEntry} {tail : List UInt8}
    (h : Shaped file es tail) : dataFile file = .ok ⟨file⟩ := by
  have hlen := h.length
  obtain ⟨d, hd, rfl⟩ := h
  have hheader := DataFileHeaderBlock.ofBytes_bytes headerBlock
    (d.bytes ++ (es.flatMap DataFileFrameEntry.bytes ++ tail))
  have hdata : DataFileDataBlock.ofBytes
      ((headerBlock.bytes ++ (d.bytes ++ (es.flatMap DataFileFrameEntry.bytes ++ tail))).drop
        sizeofHeader) = d := by
    rw [List.drop_left' (DataFileHeaderBlock.length_bytes _), DataFileDataBlock.ofBytes_bytes]
  generalize headerBlock.bytes ++ (d.bytes ++ (es.flatMap DataFileFrameEntry.bytes ++ tail))
    = file at *
  have hfile : file ≠ [] := by
    intro hnil
    rw [hnil] at hlen
    simp only [List.length_nil] at hlen
    omega
  simp only [HcanData.dataFile, hheader, hdata, if_neg hfile]
  rw [if_neg (by decide), if_neg (by decide), if_neg (by decide), if_neg (by simp [hd])]

theorem Shaped.count {file : List UInt8} {es : List DataFileFrameEntry} {tail : List UInt8}
    (h : Shaped file es tail) (htail : tail.length < 24) (hes : es.length < 2 ^ 31) :
    (DataFile.mk file).count = es.length := by
  have hlen := h.length
  have hsub : (UInt64.ofNat file.length - UInt64.ofNat sizeofHeader
      - UInt64.ofNat sizeofDataBlock).toNat = 24 * es.length + tail.length := by
    simp only [UInt64.toNat_sub, UInt64.toNat_ofNat', hlen, sizeofHeader, sizeofDataBlock]
    omega
  have hquot : ((UInt64.ofNat file.length - UInt64.ofNat sizeofHeader
      - UInt64.ofNat sizeofDataBlock) / UInt64.ofNat sizeofEntry).toNat = es.length := by
    rw [UInt64.toNat_div, hsub, show (UInt64.ofNat sizeofEntry).toNat = 24 from rfl]
    omega
  rw [DataFile.count, DataFile.size, hquot]
  exact Int32.toInt_ofNat_of_lt hes

theorem Shaped.frame {file : List UInt8} {es : List DataFileFrameEntry} {tail : List UInt8}
    (h : Shaped file es tail) (htail : tail.length < 24) (hes : es.length < 2 ^ 31) {i : Nat}
    (hi : i < es.length) : (DataFile.mk file).frame i = .ok es[i] := by
  have hcount := h.count htail hes
  obtain ⟨d, hd, rfl⟩ := h
  rw [DataFile.frame, if_neg (by omega)]
  have hrecords : (headerBlock.bytes ++ (d.bytes ++ (es.flatMap DataFileFrameEntry.bytes
      ++ tail))).drop (sizeofHeader + sizeofDataBlock + sizeofEntry * (i : Int).toNat)
      = (es.flatMap DataFileFrameEntry.bytes ++ tail).drop (sizeofEntry * i) := by
    rw [← List.drop_drop, ← List.drop_drop, List.drop_left' (DataFileHeaderBlock.length_bytes _),
      List.drop_left' (DataFileDataBlock.length_bytes _), Int.toNat_natCast]
  rw [hrecords, Lib.record_flatMap DataFileFrameEntry.length_bytes es tail hi,
    DataFileFrameEntry.ofBytes_bytes]

/-- A file whose tail is shorter than a record is read back. -/
theorem Shaped.readsBack {file : List UInt8} {es : List DataFileFrameEntry} {tail : List UInt8}
    (h : Shaped file es tail) (htail : tail.length < 24) (hes : es.length < 2 ^ 31) :
    ReadsBack file es := by
  refine ⟨⟨file⟩, h.dataFile, ?_⟩
  rw [DataFile.frames, h.count htail hes, Int.toNat_natCast]
  apply List.ext_getElem
  · simp
  · intro i hi hi'
    rw [List.length_map, List.length_range] at hi
    rw [List.getElem_map, List.getElem_map, List.getElem_range]
    exact h.frame htail hes hi

/-! ## Runs -/

/-- The session completes no record behind a torn one, and the file stays
below `2^31` records. `st` is the file before the session: its tail is what
its length leaves behind the last whole record. -/
def NotBehindTorn (st : List UInt8 × List DataFileFrameEntry) (s : Session) : Prop :=
  ((st.1.length - 40) % 24 = 0
      ∨ (written s.attempts = [] ∧ (st.1.length - 40) % 24 + (torn s.attempts).length < 24))
    ∧ (st.1.length - 40) / 24 + (written s.attempts).length < 2 ^ 31

instance (st : List UInt8 × List DataFileFrameEntry) (s : Session) :
    Decidable (NotBehindTorn st s) := inferInstanceAs (Decidable (_ ∧ _))

/-- The file holds the frames written so far and less than a record besides. -/
def FileInv (st : List UInt8 × List DataFileFrameEntry) : Prop :=
  ∃ tail, ((st.1 = [] ∧ st.2 = [] ∧ tail = []) ∨ Shaped st.1 st.2 tail)
    ∧ tail.length < 24 ∧ st.2.length < 2 ^ 31

/-- The same once there is a file. -/
def OpenedInv (st : List UInt8 × List DataFileFrameEntry) : Prop :=
  ∃ tail, Shaped st.1 st.2 tail ∧ tail.length < 24 ∧ st.2.length < 2 ^ 31

theorem OpenedInv.fileInv {st : List UInt8 × List DataFileFrameEntry} (h : OpenedInv st) :
    FileInv st := by
  obtain ⟨tail, hshaped, hrest⟩ := h
  exact ⟨tail, Or.inr hshaped, hrest⟩

/-- One session that completes no record behind a torn one. -/
theorem FileInv.session {st : List UInt8 × List DataFileFrameEntry} {s : Session}
    (hguard : NotBehindTorn st s) (h : FileInv st) : OpenedInv (sessionStep st s) := by
  obtain ⟨file, es⟩ := st
  obtain ⟨tail, hfile, htail, hes⟩ := h
  obtain ⟨hplace, hroom⟩ := hguard
  replace hes : es.length < 2 ^ 31 := hes
  have htorn := length_torn_lt s.attempts
  have hsize : file.length - 40 = 24 * es.length + tail.length := by
    rcases hfile with ⟨rfl, rfl, rfl⟩ | hshaped
    · rfl
    · have := hshaped.length
      simp only at this
      omega
  rw [hsize] at hroom
  have hplace' : tail = [] ∨ (written s.attempts = []
      ∧ tail.length + (torn s.attempts).length < 24) := by
    rw [hsize] at hplace
    rcases hplace with hzero | ⟨hnone, hshort⟩
    · left
      apply List.eq_nil_of_length_eq_zero
      omega
    · right
      exact ⟨hnone, by omega⟩
  rcases hplace' with rfl | ⟨hnone, hshort⟩
  · -- behind whole records
    obtain ⟨hshaped, hlog⟩ := sessionStep_shaped hfile s
      (fun file' h' => h'.append_records (written s.attempts) (torn s.attempts))
    refine ⟨torn s.attempts, ?_, htorn, ?_⟩
    · rw [hlog]
      exact hshaped
    · rw [hlog, List.length_append]
      show es.length + _ < _
      omega
  · -- behind a torn record, which this session does not complete
    have hlonger : ∀ file', Shaped file' es tail →
        Shaped (file' ++ ((written s.attempts).flatMap DataFileFrameEntry.bytes
          ++ torn s.attempts)) es (tail ++ torn s.attempts) := by
      intro file' h'
      rw [hnone]
      exact h'.append_tail (torn s.attempts)
    obtain ⟨hshaped, hlog⟩ := sessionStep_shaped hfile s hlonger
    rw [hnone, List.append_nil] at hlog
    refine ⟨tail ++ torn s.attempts, ?_, ?_, ?_⟩
    · rw [hlog]
      exact hshaped
    · rw [List.length_append]
      exact hshort
    · rw [hlog]
      exact hes

/-- **Reading back.** After any sessions on a new file, at least one, none of
which completes a record behind a torn one, the reader finds exactly the
frames that were written. -/
theorem dataFile_reads_back (sessions : List Session) (hne : sessions ≠ [])
    (hguard : Guarded sessionStep NotBehindTorn ([], []) sessions) :
    ReadsBack (run sessionStep ([], []) sessions).1 (run sessionStep ([], []) sessions).2 := by
  have hstart : FileInv ([], []) := ⟨[], Or.inl ⟨rfl, rfl, rfl⟩, by decide, by decide⟩
  cases sessions with
  | nil => exact absurd rfl hne
  | cons s sessions =>
      have hend : OpenedInv (run sessionStep (sessionStep ([], []) s) sessions) :=
        Lib.run_guarded (fun _ _ hg hI => hI.fileInv.session hg) sessions _ hguard.2
          (hstart.session hguard.1)
      obtain ⟨tail, hshaped, htail, hes⟩ := hend
      exact hshaped.readsBack htail hes

/-- A frame with the payload bytes 1 to 8. -/
def countedFrame (now : UInt64) : DataFileFrameEntry :=
  ⟨now, 1, 2, 3, 8, payload [1, 2, 3, 4, 5, 6, 7, 8]⟩

/-- A session that is closed, one whose second record is torn, and one that
writes nothing. -/
def tornSessions : List Session :=
  [⟨1, [(countedFrame 1, 24)], true⟩, ⟨2, [(countedFrame 2, 24), (countedFrame 3, 7)], true⟩,
    ⟨4, [], true⟩]

/-- The two whole records are read back. -/
theorem dataFile_reads_back_torn :
    ReadsBack (run sessionStep ([], []) tornSessions).1 [countedFrame 1, countedFrame 2] := by
  have hlog : (run sessionStep ([], []) tornSessions).2 = [countedFrame 1, countedFrame 2] := by
    decide
  have hguard : Guarded sessionStep NotBehindTorn ([], []) tornSessions :=
    ⟨by decide, by decide, by decide, trivial⟩
  have h := dataFile_reads_back tornSessions (by simp [tornSessions]) hguard
  rwa [hlog] at h

/-- A record torn behind its first byte, and a whole one in the next session. -/
def shiftedSessions : List Session :=
  [⟨1, [(countedFrame 1, 1)], true⟩, ⟨2, [(countedFrame 2, 24)], true⟩]

theorem shiftedSessions_written :
    (run sessionStep ([], []) shiftedSessions).2 = [countedFrame 2] := by decide

theorem shiftedSessions_frames :
    (dataFile (run sessionStep ([], []) shiftedSessions).1).map DataFile.frames
      = .ok [.ok ⟨513, 256, 512, 768, 2048, payload [0, 1, 2, 3, 4, 5, 6, 7]⟩] := by
  decide

/-- The reader finds one frame, but not the one that was written. -/
theorem dataFile_shifted :
    ¬ ReadsBack (run sessionStep ([], []) shiftedSessions).1
      (run sessionStep ([], []) shiftedSessions).2 := by
  rintro ⟨df, hdf, hframes⟩
  have hread := shiftedSessions_frames
  rw [hdf] at hread
  rw [shiftedSessions_written] at hframes
  have hsame := hframes.symm.trans (Except.ok.inj hread)
  revert hsame
  decide

end OpenHcan.HcanData
