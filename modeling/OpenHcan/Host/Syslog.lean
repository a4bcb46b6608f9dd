import Mathlib.Logic.Function.Basic
import OpenHcan.Canix.Syslog

/-!
# Syslog — messages on the host

`transport_connection::syslog` puts the messages of the boards together again.
It keeps one message for each board that has one open; the first frame opens
it, and the frame that makes it end in a return completes it. Whether a frame
still has the priority in front is guessed from its first byte.

A line is left without its time stamp and the name of the board. A timeout
changes nothing and is left out.
-/

namespace OpenHcan.Syslog

/-- `message_entry` -/
structure MessageEntry where
  prio : UInt8
  msg : List UInt8
deriving DecidableEq, Repr

/-- A line of the output: the board, the name of the priority and the message
with its return. -/
structure Line where
  src : UInt16
  prio : String
  s : List UInt8
deriving DecidableEq, Repr

/-- The value of a `char`, which is signed on some platforms. -/
def charVal (charSigned : Bool) (c : UInt8) : Int :=
  if charSigned && 128 ≤ c.toNat then (c.toNat : Int) - 256 else c.toNat

/-- `s.substr(1)`, which throws `std::out_of_range` for an empty string. -/
def substr1 : List UInt8 → Option (List UInt8)
  | [] => none
  | _ :: s => some s

/-- The `switch` over the priority. -/
def prioName (prio : UInt8) : Option String :=
  match prio.toNat with
  | 1 => some "CRITICAL"
  | 2 => some "ERROR"
  | 3 => some "Warning"
  | 4 => some "debug"
  | _ => none

/-- `it->second.msg` with the string received. It starts with the priority if
it is the first frame of a message, which is guessed. -/
def addString (charSigned : Bool) (it : MessageEntry) (bytes : List UInt8) : Option (List UInt8) :=
  -- `[0]` of an empty string is the terminator
  if charVal charSigned (bytes.headD 0) = it.prio.toNat then (substr1 bytes).map (it.msg ++ ·)
  else some (it.msg ++ bytes)

/-- The body of the loop for the frame `f`: the open messages afterwards and
what is printed, or none when an exception ends it. -/
def syslogTurn (charSigned : Bool) (messages : UInt16 → Option MessageEntry) (f : CanixFrame) :
    Option ((UInt16 → Option MessageEntry) × List Line) :=
  if f.proto = hcanProtoSyslog ∧ f.dst = hcanMulticastSyslog then
    match messages f.src with
    | some it =>
        match addString charSigned it f.bytes with
        | none => none
        | some s =>
            if s.getLast? = some newline then
              some (Function.update messages f.src none,
                [⟨f.src, (prioName it.prio).getD "", s⟩])
            else some (Function.update messages f.src (some { it with msg := s }), [])
    | none =>
        match substr1 f.bytes with
        | none => none
        -- the first packet; it is not looked at for a return
        | some msg => some (Function.update messages f.src (some ⟨f.bytes.headD 0, msg⟩), [])
  else some (messages, [])

/-- The loop, over the frames that are received. -/
def syslogLoop (charSigned : Bool) (messages : UInt16 → Option MessageEntry) :
    List CanixFrame → Option ((UInt16 → Option MessageEntry) × List Line)
  | [] => some (messages, [])
  | f :: fs => do
      let (messages, out) ← syslogTurn charSigned messages f
      let (messages, rest) ← syslogLoop charSigned messages fs
      some (messages, out ++ rest)

/-- `transport_connection::syslog`: all it prints. -/
def syslog (charSigned : Bool) (received : List CanixFrame) : Option (List Line) :=
  (syslogLoop charSigned (fun _ => none) received).map Prod.snd

end OpenHcan.Syslog
