import OpenHcan.Canix.Frame
import OpenHcan.Lib.Binary32
import OpenHcan.Lib.ErrorState
import OpenHcan.Lib.LinePattern

/-!
# HeizungCommand — the heating commands of telican

`heizung_command::exec` tries ten regular expressions on a line of the user.
Two of them list heatings: they ask the boards and print what they answer. The
others set the mode of a heating: name, rate, temperature and duration are
pieces of the line that `lexical_cast` converts and one frame takes to the bus.
A line that begins with "heizung" and matches none of them is an error.

A `traceable_error` ends with its text on `cerr`; `bad_lexical_cast` is none and
leaves `exec`. The heatings are the elements `//heizung` of the installation in
document order, each with its two attributes and no apostrophe in them. The
connection to hcand is up, so a frame that is sent gets there. What the lists
print on `cout` is left out.
-/

namespace OpenHcan.Telican

open Lib

set_option maxRecDepth 100000

/-! ## Messages -/

def heizungDetailsRequest : UInt8 := 50
def heizungModeOffDetails : UInt8 := 51
def heizungSetModeOff : UInt8 := 52
def heizungModeManualDetails : UInt8 := 53
def heizungSetModeManual : UInt8 := 54
def heizungModeThermostatDetails : UInt8 := 55
def heizungSetModeThermostatDetails : UInt8 := 56
def heizungModeAutomatikDetails : UInt8 := 57
def heizungSetModeAutomatik : UInt8 := 58
def heizungTistRequest : UInt8 := 59
def heizungTistReplay : UInt8 := 60

/-! ## Exceptions and connections -/

/-- The exceptions: a `traceable_error` with its text, and the one of
`lexical_cast`. -/
inductive CommandError where
  | traceable (what : String)
  | badLexicalCast
deriving DecidableEq, Repr

/-- The frames sent, those for `m_src` that will arrive, and the lines on
`cerr`. -/
structure Console where
  sent : List CanixFrame
  incoming : List CanixFrame
  cerr : List String
deriving DecidableEq, Repr

abbrev CommandM := EStateM CommandError Console

/-- An element `heizung` of the installation. -/
structure HeizungElement where
  name : List Char
  gruppe : List Char
deriving DecidableEq, Repr

/-- `heizung_command`: `m_src` and the heatings of `global_installation_data`. -/
structure HeizungCommand where
  src : UInt16
  heizungen : List HeizungElement
deriving DecidableEq, Repr

/-- `cerr << what << endl` -/
def report (what : String) : CommandM Unit :=
  modify fun s => { s with cerr := s.cerr ++ [what] }

/-- `catch (traceable_error &e)` -/
def catchTraceable {α : Type} (x : CommandM α) (handler : String → CommandM α) : CommandM α :=
  fun s =>
    match x s with
    | .error (.traceable what) s' => handler what s'
    | r => r

/-- The result of a `lexical_cast`. -/
def castOrThrow {α : Type} : Option α → CommandM α
  | some a => pure a
  | none => throw .badLexicalCast

/-! ## Conversions -/

/-- `lexical_cast<int>` of a row of digits. -/
def lexicalCastInt (digits : List Char) : Option Nat :=
  if decimal digits < 2 ^ 31 then some (decimal digits) else none

/-- `lexical_cast<float>` of digits and points. A number that is too large is no
`float`. -/
def lexicalCastFloat (s : List Char) : Option CFloat :=
  match (decimalNumber s).map toFloat with
  | some (.finite negative magnitude) => some (.finite negative magnitude)
  | _ => none

/-- `lexical_cast<uint16_t>` of a text: digits, with or without a sign. -/
def lexicalCastUint16 (s : List Char) : Option UInt16 :=
  let digits := if s.head? = some '-' ∨ s.head? = some '+' then s.tail else s
  if digits ≠ [] ∧ digits.all Char.isDigit ∧ decimal digits < 2 ^ 16 then
    let n := UInt16.ofNat (decimal digits)
    some (if s.head? = some '-' then -n else n)
  else none

/-! ## The installation -/

/-- `heizung_id_by_name` -/
def heizungIdByName (cmd : HeizungCommand) (name : List Char) : CommandM UInt8 :=
  match cmd.heizungen.find? fun e => e.name = name with
  | some e => do
      let gruppe ← castOrThrow (lexicalCastUint16 e.gruppe)
      return gruppe.toUInt8
  | none => throw (.traceable "query_gruppe: gruppe not found!")

/-- `heizung_name_by_id` -/
def heizungNameById (cmd : HeizungCommand) (id : UInt8) : CommandM (List Char) :=
  match cmd.heizungen.find? fun e => e.gruppe = printU id.toNat with
  | some e => pure e.name
  | none => throw (.traceable "query_name: gruppe not found!")

/-! ## Sending and receiving -/

/-- A frame of a HES message to `HCAN_MULTICAST_CONTROL`. -/
def HeizungCommand.frame (cmd : HeizungCommand) (bytes : List UInt8) : CanixFrame :=
  sfpFrame cmd.src hcanMulticastControl (hcanSrvHes :: bytes)

def send (cmd : HeizungCommand) (bytes : List UInt8) : CommandM Unit :=
  modify fun s => { s with sent := s.sent ++ [cmd.frame bytes] }

/-- `recv_frame(m_src)` -/
def recvFrame : CommandM CanixFrame := fun s =>
  match s.incoming with
  | f :: incoming => .ok f { s with incoming := incoming }
  | [] => .error (.traceable "timeout while waiting for packet") s

/-- `recv_HEIZUNG_TIST_REPLAY` from any board. -/
def recvTistReplay : CommandM Nat := do
  let f ← recvFrame
  if f.size ≠ 5 then throw (.traceable "unexpected size in packet received")
  else if f.byte 0 ≠ hcanSrvHes then
    throw (.traceable "unexpected packet received: service id is wrong")
  else if f.byte 1 ≠ heizungTistReplay then
    throw (.traceable "unexpected packet received: commmand id is wrong")
  else return word (f.byte 3) (f.byte 4)

/-- `get_ist_temp` -/
def getIstTemp (cmd : HeizungCommand) (id : UInt8) : CommandM Nat := do
  send cmd [heizungTistRequest, id]
  recvTistReplay

/-- The `switch` of `get_details`. -/
def readMode (cmd : HeizungCommand) (id mode : UInt8) : CommandM Unit :=
  if mode = heizungModeThermostatDetails then do
    let _ ← getIstTemp cmd id
    return ()
  else if mode = heizungModeOffDetails ∨ mode = heizungModeManualDetails ∨
      mode = heizungModeAutomatikDetails then return ()
  else throw (.traceable "unknown heizung mode")

/-- `get_details` as far as it sends, receives and throws. -/
def getDetails (cmd : HeizungCommand) (id : UInt8) : CommandM Unit := do
  send cmd [heizungDetailsRequest, id]
  let f ← recvFrame
  readMode cmd id (f.byte 1)
  let _ ← getIstTemp cmd id
  return ()

/-- `print_heizung` -/
def printHeizung (cmd : HeizungCommand) (id : UInt8) : CommandM Unit := do
  let details ← catchTraceable (getDetails cmd id >>= fun _ => pure true) fun what => do
    report what
    return false
  if details then do
    let _ ← heizungNameById cmd id
    return ()
  else return ()

/-- `print_heizungen` -/
def printHeizungen (cmd : HeizungCommand) : CommandM Unit :=
  cmd.heizungen.forM fun e => do
    let id ← heizungIdByName cmd e.name
    printHeizung cmd id

/-! ## The regular expressions -/

/-- `[[:word:]-]` -/
def wordChars : List Char :=
  "abcdefghijklmnopqrstuvwxyzABCDEFGHIJKLMNOPQRSTUVWXYZ0123456789_-".toList

/-- `[0-9]` -/
def digitChars : List Char := "0123456789".toList

/-- A part that is no group. -/
def part (item : Item) : Part := { item := item, group := false }

/-- A group. -/
def group (item : Item) : Part := { item := item, group := true }

def lit (s : String) : Part := part (.lit s.toList)

/-- ` *` or ` +` -/
def blanks (least : Nat) : Part := part (.many [' '] least)

/-- `([0-9]+)` -/
def number : Part := group (.many digitChars 1)

/-- `([0-9\.]+)` -/
def dotted : Part := group (.many ('.' :: digitChars) 1)

/-- `([ ]{0,1})` -/
def blankOrNone : Part := group (.opt [' '])

/-- `(h|H|std|Std)` -/
def hours : Part := group (.oneOf ["h".toList, "H".toList, "std".toList, "Std".toList])

/-- `(m|M|min|Min)` -/
def minutes : Part := group (.oneOf ["m".toList, "M".toList, "min".toList, "Min".toList])

/-- `heizung *([[:word:]-]+)` -/
def heizungName : LinePattern := [lit "heizung", blanks 0, group (.many wordChars 1)]

def re : LinePattern := [lit "heizung", blanks 0]
def re2 : LinePattern := heizungName ++ [blanks 0]
def re3 : LinePattern := heizungName ++ [blanks 1, lit "auto", blanks 0]
def re4 : LinePattern := heizungName ++ [blanks 1, lit "aus", blanks 0]

def re5 : LinePattern := heizungName ++
  [blanks 1, lit "manuell", blanks 1, number, blanks 1, number, blankOrNone, hours, blanks 0]

def re6 : LinePattern := heizungName ++
  [blanks 1, lit "manuell", blanks 1, number, blanks 1, number, blankOrNone, minutes, blanks 0]

def re7 : LinePattern := heizungName ++
  [blanks 1, lit "manuell", blanks 1, number, blanks 1, number, blanks 0]

def re8 : LinePattern := heizungName ++
  [blanks 1, lit "therm", blanks 1, dotted, blanks 1, number, blankOrNone, hours, blanks 0]

def re9 : LinePattern := heizungName ++
  [blanks 1, lit "therm", blanks 1, dotted, blanks 1, number, blankOrNone, minutes, blanks 0]

def re10 : LinePattern := heizungName ++
  [blanks 1, lit "therm", blanks 1, dotted, blanks 1, number, blanks 0]

/-- `matches[i]` -/
def matched (groups : List (List Char)) (i : Nat) : List Char := groups.getD (i - 1) []

/-! ## The commands -/

def setModeAutomatik (cmd : HeizungCommand) (name : List Char) : CommandM Bool := do
  let id ← heizungIdByName cmd name
  send cmd [heizungSetModeAutomatik, id]
  return true

def setModeOff (cmd : HeizungCommand) (name : List Char) : CommandM Bool := do
  let id ← heizungIdByName cmd name
  send cmd [heizungSetModeOff, id]
  return true

/-- The commands `manuell`, with the seconds of the unit. The product is an
`int`, of which the low 16 bits remain; the standard leaves open what it is
from `2 ^ 31` on. -/
def setModeManual (cmd : HeizungCommand) (seconds : Nat) (name rate duration : List Char) :
    CommandM Bool := do
  let id ← heizungIdByName cmd name
  let stellgrad ← castOrThrow (lexicalCastInt rate)
  let dauer ← castOrThrow (lexicalCastInt duration)
  let dauer := UInt16.ofNat (dauer * seconds)
  send cmd [heizungSetModeManual, id, UInt8.ofNat stellgrad, hiByte dauer.toNat, loByte dauer.toNat]
  return true

/-- The commands `therm`. -/
def setModeThermostat (cmd : HeizungCommand) (seconds : Nat) (name temp duration : List Char) :
    CommandM Bool := do
  let id ← heizungIdByName cmd name
  let temp ← castOrThrow (lexicalCastFloat temp)
  let temp := temp.sixteenthsOf
  let dauer ← castOrThrow (lexicalCastInt duration)
  let dauer := UInt16.ofNat (dauer * seconds)
  send cmd [heizungSetModeThermostatDetails, id, hiByte temp.toNat, loByte temp.toNat,
    hiByte dauer.toNat, loByte dauer.toNat]
  return true

/-- The regular expressions with what is done for a match, in the order they
are tried. -/
def commands (cmd : HeizungCommand) : List (LinePattern × (List (List Char) → CommandM Bool)) :=
  [(re, fun _ => do
      printHeizungen cmd
      return true),
   (re2, fun m => do
      let id ← heizungIdByName cmd (matched m 1)
      printHeizung cmd id
      return true),
   (re3, fun m => setModeAutomatik cmd (matched m 1)),
   (re4, fun m => setModeOff cmd (matched m 1)),
   (re5, fun m => setModeManual cmd (60 * 60) (matched m 1) (matched m 2) (matched m 3)),
   (re6, fun m => setModeManual cmd 60 (matched m 1) (matched m 2) (matched m 3)),
   (re7, fun m => setModeManual cmd 60 (matched m 1) (matched m 2) (matched m 3)),
   (re8, fun m => setModeThermostat cmd (60 * 60) (matched m 1) (matched m 2) (matched m 3)),
   (re9, fun m => setModeThermostat cmd 60 (matched m 1) (matched m 2) (matched m 3)),
   (re10, fun m => setModeThermostat cmd 60 (matched m 1) (matched m 2) (matched m 3))]

/-- `^heizung(.*)?$` -/
def re11 (line : List Char) : Bool := "heizung".toList.isPrefixOf line

/-- `heizung_command::exec` on `line.c_str()`. -/
def exec (cmd : HeizungCommand) (line : List Char) : CommandM Bool :=
  catchTraceable
    (match firstMatch (fun act groups => act groups) (commands cmd) (text line) with
      | some act => act
      | none =>
          if re11 (text line) then do
            report "Error: Command not understood."
            return false
          else return false)
    fun what => do
      report what
      return false

end OpenHcan.Telican
