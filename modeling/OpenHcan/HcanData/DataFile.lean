import OpenHcan.HcanData.FileFormatV1

/-!
# DataFile — the writer and the reader of a data file

`data_file_writer` opens a file, creates its two blocks or checks them,
appends a record for every frame and brings the data block up to date when it
is closed. `data_file` maps the file and finds a record by its position.

The writer is a computation on the file and the file offset that keeps both
when it throws. How many bytes the kernel takes of a `write` is an argument
`k`; a result of -1 is the argument 0, since the code treats every result but
the full size alike. The other system calls succeed. What a short read does
not reach is zero.
-/

namespace OpenHcan.HcanData

/-- The exceptions of the writer and the reader. -/
inductive FileError where
  | system
  | writeHeader
  | writeDataBlock
  | writeFrame
  | wrongMagic1
  | wrongMagic2
  | wrongHeaderType
  | wrongDataType
  | outOfBounds
deriving DecidableEq, Repr

/-- The text of the `traceable_error`; a failed system call has the one of
`strerror`. -/
def FileError.text : FileError → Option String
  | .system => none
  | .writeHeader => some "error could not write Header block"
  | .writeDataBlock => some "error could not write Data block"
  | .writeFrame => some "error could not send frame"
  | .wrongMagic1 => some "wrong DATA_FILE_MAGIC_1 value"
  | .wrongMagic2 => some "wrong DATA_FILE_MAGIC_2 value"
  | .wrongHeaderType => some "wrong header block type"
  | .wrongDataType => some "wrong data block type"
  | .outOfBounds => some "frame index access out of bounds"

/-! ## The file -/

/-- The open file and its offset. -/
structure Writer where
  file : List UInt8
  pos : Nat
deriving DecidableEq, Repr

abbrev WriterM := EStateM FileError Writer

/-- The file with `bytes` at `pos`. A gap behind its end becomes zeros. -/
def overwrite (file : List UInt8) (pos : Nat) (bytes : List UInt8) : List UInt8 :=
  file.take pos ++ List.replicate (pos - file.length) 0 ++ bytes
    ++ file.drop (pos + bytes.length)

/-- `write`, of which the kernel takes `k` bytes. -/
def write (bytes : List UInt8) (k : Nat) : WriterM Nat := fun w =>
  let taken := bytes.take k
  .ok taken.length ⟨overwrite w.file w.pos taken, w.pos + taken.length⟩

/-- Throw `e` unless `c` holds. -/
def require (c : Prop) [Decidable c] (e : FileError) : WriterM Unit :=
  if c then pure () else throw e

/-- A `write` that has to take everything. -/
def writeWhole (bytes : List UInt8) (k : Nat) (e : FileError) : WriterM Unit := do
  let n ← write bytes k
  require (n = bytes.length) e

/-- `read` -/
def read (n : Nat) : WriterM (List UInt8) := fun w =>
  let bytes := (w.file.drop w.pos).take n
  .ok bytes ⟨w.file, w.pos + bytes.length⟩

/-- `lseek(m_fd, pos, SEEK_SET)` -/
def seek (pos : Nat) : WriterM Nat := fun w => .ok pos ⟨w.file, pos⟩

/-- `lseek(m_fd, -back, SEEK_END)` -/
def seekEnd (back : Nat) : WriterM Nat := fun w =>
  .ok (w.file.length - back) ⟨w.file, w.file.length - back⟩

/-! ## The writer -/

/-- The header block of every file. -/
def headerBlock : DataFileHeaderBlock where
  type := dataFileTypeHeader
  size := UInt32.ofNat sizeofHeader
  magic := dataFileMagic1
  magic2 := dataFileMagic2

/-- The data block of a new file. -/
def newDataBlock (now : UInt64) : DataFileDataBlock where
  type := dataFileTypeData
  size := UInt32.ofNat sizeofDataBlock
  firstTimestamp := now
  lastTimestamp := 0

/-- `setup_file` -/
def setupFile (now : UInt64) (k1 k2 : Nat) : WriterM Unit := do
  writeWhole headerBlock.bytes k1 .writeHeader
  writeWhole (newDataBlock now).bytes k2 .writeDataBlock

/-- `check_if_file_valid` -/
def checkIfFileValid : WriterM Unit := do
  let _ ← seek 0
  let header := DataFileHeaderBlock.ofBytes (← read sizeofHeader)
  require (header.magic = dataFileMagic1) .wrongMagic1
  require (header.magic2 = dataFileMagic2) .wrongMagic2
  require (header.type = dataFileTypeHeader) .wrongHeaderType
  let _ ← seek header.size.toNat
  let data := DataFileDataBlock.ofBytes (← read sizeofDataBlock)
  require (data.type = dataFileTypeData) .wrongDataType
  let _ ← seekEnd 0

/-- The constructor of `data_file_writer`. -/
def openWriter (now : UInt64) (k1 k2 : Nat) : WriterM Unit := do
  let w ← get
  if w.file.length > 0 then checkIfFileValid else setupFile now k1 k2

/-- `write_frame`; the timestamp of `frame` is the time of the call. -/
def writeFrame (frame : DataFileFrameEntry) (k : Nat) : WriterM Unit :=
  writeWhole frame.bytes k .writeFrame

/-- `read_frame` -/
def readFrame : WriterM DataFileFrameEntry := do
  return DataFileFrameEntry.ofBytes (← read sizeofEntry)

/-- `write_data_block`: it writes as many bytes as a header block has. -/
def writeDataBlock (dataPos : Nat) (data : DataFileDataBlock) : WriterM Unit := do
  let _ ← seek dataPos
  writeWhole (data.bytes.take sizeofHeader) sizeofHeader .writeDataBlock

/-- The data block that `sync` writes back: its size, and the times of the
oldest and the newest frame if there is one. -/
def syncedDataBlock (data : DataFileDataBlock) (size : Nat) : WriterM DataFileDataBlock := do
  let data := { data with size := UInt32.ofNat size }
  if size > sizeofDataBlock then
    let oldest ← readFrame
    let _ ← seekEnd sizeofEntry
    let newest ← readFrame
    return { data with firstTimestamp := oldest.timestamp, lastTimestamp := newest.timestamp }
  else return { data with firstTimestamp := 0, lastTimestamp := 0 }

/-- `sync` -/
def sync : WriterM Unit := do
  let endPos ← seekEnd 0
  let _ ← seek 0
  let header := DataFileHeaderBlock.ofBytes (← read sizeofHeader)
  let dataPos ← seek header.size.toNat
  let data := DataFileDataBlock.ofBytes (← read sizeofDataBlock)
  let data ← syncedDataBlock data (endPos - dataPos)
  writeDataBlock dataPos data
  let _ ← seekEnd 0

/-- The file a computation leaves. -/
def fileOf {α : Type} : EStateM.Result FileError Writer α → List UInt8
  | .ok _ w => w.file
  | .error _ w => w.file

/-! ## The reader -/

/-- The file `data_file` has mapped. -/
structure DataFile where
  data : List UInt8
deriving DecidableEq, Repr

/-- The constructor of `data_file`. An empty file cannot be mapped. -/
def dataFile (file : List UInt8) : Except FileError DataFile :=
  let header := DataFileHeaderBlock.ofBytes file
  let data := DataFileDataBlock.ofBytes (file.drop sizeofHeader)
  if file = [] then .error .system
  else if header.magic ≠ dataFileMagic1 then .error .wrongMagic1
  else if header.magic2 ≠ dataFileMagic2 then .error .wrongMagic2
  else if header.type ≠ dataFileTypeHeader then .error .wrongHeaderType
  else if data.type ≠ dataFileTypeData then .error .wrongDataType
  else .ok ⟨file⟩

namespace DataFile

/-- `m_size` -/
def size (df : DataFile) : UInt64 := UInt64.ofNat df.data.length

/-- `count`: an `int` from an unsigned quotient. -/
def count (df : DataFile) : Int :=
  (Int32.ofNat ((df.size - UInt64.ofNat sizeofHeader - UInt64.ofNat sizeofDataBlock)
    / UInt64.ofNat sizeofEntry).toNat).toInt

/-- `frame` -/
def frame (df : DataFile) (idx : Int) : Except FileError DataFileFrameEntry :=
  if idx < 0 ∨ idx > df.count - 1 then .error .outOfBounds
  else .ok (.ofBytes ((df.data.drop (sizeofHeader + sizeofDataBlock + sizeofEntry * idx.toNat)).take
    sizeofEntry))

/-- All frames, the way a query reads them. -/
def frames (df : DataFile) : List (Except FileError DataFileFrameEntry) :=
  (List.range df.count.toNat).map fun i : Nat => df.frame i

end DataFile

end OpenHcan.HcanData
