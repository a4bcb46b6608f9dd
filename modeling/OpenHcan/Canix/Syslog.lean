import Mathlib.Data.List.TakeWhile
import OpenHcan.Canix.Frame
import OpenHcan.Lib.Chunks

/-!
# Syslog — messages of a board

`canix_syslog_P` sends a message in as many frames as it needs. The first one
holds the priority and seven characters, the others hold eight characters each.
The characters are what formatting gives, cut off at 125, and a return.
-/

namespace OpenHcan.Syslog

open Lib

/-- `HCAN_PROTO_SYSLOG` -/
def hcanProtoSyslog : UInt8 := 3

/-- `HCAN_MULTICAST_SYSLOG` -/
def hcanMulticastSyslog : UInt16 := 970

/-- `'\n'` -/
def newline : UInt8 := 10

/-- `s`, from the characters that formatting gives: `vsnprintf_P` writes at
most `sizeof(s) - 3` of them, and `strcat` puts the return at the first
terminator. -/
def syslogString (formatted : List UInt8) : List UInt8 :=
  (formatted.take 125).takeWhile (· ≠ 0) ++ [newline]

/-- The frame with the payload `data`. -/
def syslogFrame (selfaddr : UInt16) (data : List UInt8) : CanixFrame where
  src := selfaddr
  dst := hcanMulticastSyslog
  proto := hcanProtoSyslog
  size := UInt8.ofNat data.length
  data := payload data

/-- `canix_syslog_P`. The loops fill the payload from `s` and send it, and the
first payload starts with the priority. -/
def canixSyslogP (selfaddr : UInt16) (canixDebugLevel prio : UInt8) (formatted : List UInt8) :
    List CanixFrame :=
  if prio ≤ canixDebugLevel then
    (fill 8 [prio] (syslogString formatted)).map (syslogFrame selfaddr)
  else []

/-- The characters of a text without terminator that fits. -/
theorem syslogString_of_fits {text : List UInt8} (hnul : 0 ∉ text) (hfits : text.length ≤ 125) :
    syslogString text = text ++ [newline] := by
  have htext : text.takeWhile (· ≠ 0) = text := by
    apply List.takeWhile_eq_self_iff.mpr
    intro c hc
    have hne : c ≠ 0 := fun h => hnul (h ▸ hc)
    simpa using hne
  rw [syslogString, List.take_of_length_le hfits, htext]

/-- A frame is received with the payload it was sent with. -/
theorem bytes_syslogFrame (selfaddr : UInt16) {data : List UInt8} (h : data.length ≤ 8) :
    (syslogFrame selfaddr data).bytes = data := by
  have hsize : (UInt8.ofNat data.length).toNat = data.length := by
    rw [UInt8.toNat_ofNat']
    omega
  apply List.ext_getElem?
  intro i
  simp only [CanixFrame.bytes, syslogFrame, hsize, payload, Vector.toList_ofFn]
  by_cases hi : i < data.length
  · rw [List.getElem?_take_of_lt hi, List.getElem?_ofFn]
    have hi8 : i < 8 := by omega
    simp [hi, hi8]
  · rw [List.getElem?_eq_none (by rw [List.length_take]; omega),
      List.getElem?_eq_none (by omega)]

end OpenHcan.Syslog
