import OpenHcan.Lib.Bytes
import OpenHcan.Canix.Frame

/-!
# FileFormatV1 — the blocks of an HCAN data file

A data file is a header block, a data block and the records of the frames.
Every block is written and read as the memory image of its structure: the
fields one after the other, numbers little-endian.
-/

namespace OpenHcan.HcanData

open Lib (encodeLE fieldLE length_encodeLE)

/-- `data_file_frame_entry`. -/
structure DataFileFrameEntry where
  timestamp : UInt64
  src : UInt16
  dst : UInt16
  proto : UInt16
  size : UInt16
  data : Vector UInt8 8
deriving DecidableEq, Repr

/-- `f.data[i]` -/
def DataFileFrameEntry.d (f : DataFileFrameEntry) (i : Nat) : UInt8 := f.data[i]?.getD 0

def dataFileMagic1 : UInt32 := 0x12345678
def dataFileMagic2 : UInt32 := 0x20080404

def dataFileTypeHeader : UInt32 := 1
def dataFileTypeData : UInt32 := 2

/-- `data_file_header_block_v1_t`. -/
structure DataFileHeaderBlock where
  type : UInt32
  size : UInt32
  magic : UInt32
  magic2 : UInt32
deriving DecidableEq, Repr

/-- `data_file_data_block_t`. -/
structure DataFileDataBlock where
  type : UInt32
  size : UInt32
  firstTimestamp : UInt64
  lastTimestamp : UInt64
deriving DecidableEq, Repr

def sizeofHeader : Nat := 16
def sizeofDataBlock : Nat := 24
def sizeofEntry : Nat := 24

/-! ## Memory images -/

def DataFileHeaderBlock.bytes (h : DataFileHeaderBlock) : List UInt8 :=
  encodeLE 4 h.type.toNat ++ encodeLE 4 h.size.toNat ++ encodeLE 4 h.magic.toNat
    ++ encodeLE 4 h.magic2.toNat

def DataFileHeaderBlock.ofBytes (bytes : List UInt8) : DataFileHeaderBlock where
  type := UInt32.ofNat (fieldLE bytes 0 4)
  size := UInt32.ofNat (fieldLE bytes 4 4)
  magic := UInt32.ofNat (fieldLE bytes 8 4)
  magic2 := UInt32.ofNat (fieldLE bytes 12 4)

def DataFileDataBlock.bytes (d : DataFileDataBlock) : List UInt8 :=
  encodeLE 4 d.type.toNat ++ encodeLE 4 d.size.toNat ++ encodeLE 8 d.firstTimestamp.toNat
    ++ encodeLE 8 d.lastTimestamp.toNat

def DataFileDataBlock.ofBytes (bytes : List UInt8) : DataFileDataBlock where
  type := UInt32.ofNat (fieldLE bytes 0 4)
  size := UInt32.ofNat (fieldLE bytes 4 4)
  firstTimestamp := UInt64.ofNat (fieldLE bytes 8 8)
  lastTimestamp := UInt64.ofNat (fieldLE bytes 16 8)

def DataFileFrameEntry.bytes (f : DataFileFrameEntry) : List UInt8 :=
  encodeLE 8 f.timestamp.toNat ++ encodeLE 2 f.src.toNat ++ encodeLE 2 f.dst.toNat
    ++ encodeLE 2 f.proto.toNat ++ encodeLE 2 f.size.toNat ++ f.data.toList

def DataFileFrameEntry.ofBytes (bytes : List UInt8) : DataFileFrameEntry where
  timestamp := UInt64.ofNat (fieldLE bytes 0 8)
  src := UInt16.ofNat (fieldLE bytes 8 2)
  dst := UInt16.ofNat (fieldLE bytes 10 2)
  proto := UInt16.ofNat (fieldLE bytes 12 2)
  size := UInt16.ofNat (fieldLE bytes 14 2)
  data := payload ((bytes.drop 16).take 8)

@[simp] theorem DataFileHeaderBlock.length_bytes (h : DataFileHeaderBlock) :
    h.bytes.length = sizeofHeader := by
  simp [DataFileHeaderBlock.bytes, sizeofHeader]

@[simp] theorem DataFileDataBlock.length_bytes (d : DataFileDataBlock) :
    d.bytes.length = sizeofDataBlock := by
  simp [DataFileDataBlock.bytes, sizeofDataBlock]

@[simp] theorem DataFileFrameEntry.length_bytes (f : DataFileFrameEntry) :
    f.bytes.length = sizeofEntry := by
  simp [DataFileFrameEntry.bytes, sizeofEntry]

theorem payload_toList (v : Vector UInt8 8) : payload v.toList = v := by
  ext i hi
  simp [payload, hi]

theorem fieldLE_u16 (x : UInt16) (rest : List UInt8) :
    fieldLE (encodeLE 2 x.toNat ++ rest) 0 2 = x.toNat :=
  Lib.fieldLE_encodeLE x.toNat_lt rest

theorem fieldLE_u32 (x : UInt32) (rest : List UInt8) :
    fieldLE (encodeLE 4 x.toNat ++ rest) 0 4 = x.toNat :=
  Lib.fieldLE_encodeLE x.toNat_lt rest

theorem fieldLE_u64 (x : UInt64) (rest : List UInt8) :
    fieldLE (encodeLE 8 x.toNat ++ rest) 0 8 = x.toNat :=
  Lib.fieldLE_encodeLE x.toNat_lt rest

/-- A header block is read back from its image, whatever follows. -/
theorem DataFileHeaderBlock.ofBytes_bytes (h : DataFileHeaderBlock) (rest : List UInt8) :
    DataFileHeaderBlock.ofBytes (h.bytes ++ rest) = h := by
  simp only [DataFileHeaderBlock.ofBytes, DataFileHeaderBlock.bytes, List.append_assoc]
  simp [Lib.fieldLE_skip, fieldLE_u32]

/-- A data block is read back from its image, whatever follows. -/
theorem DataFileDataBlock.ofBytes_bytes (d : DataFileDataBlock) (rest : List UInt8) :
    DataFileDataBlock.ofBytes (d.bytes ++ rest) = d := by
  simp only [DataFileDataBlock.ofBytes, DataFileDataBlock.bytes, List.append_assoc]
  simp [Lib.fieldLE_skip, fieldLE_u32, fieldLE_u64]

/-- A record is read back from its image. -/
theorem DataFileFrameEntry.ofBytes_bytes (f : DataFileFrameEntry) :
    DataFileFrameEntry.ofBytes f.bytes = f := by
  have hdata : (f.bytes.drop 16).take 8 = f.data.toList := by
    rw [DataFileFrameEntry.bytes, List.drop_left' (by simp), List.take_of_length_le (by simp)]
  rw [DataFileFrameEntry.ofBytes, hdata, payload_toList]
  simp only [DataFileFrameEntry.bytes, List.append_assoc]
  simp [Lib.fieldLE_skip, fieldLE_u16, fieldLE_u64]

end OpenHcan.HcanData
