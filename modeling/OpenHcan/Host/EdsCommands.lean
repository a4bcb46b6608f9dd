import OpenHcan.Host.EdsFields
import OpenHcan.Lib.WordStream

/-!
# EdsCommands — the commands of the configuration shell

`libhcan++/eds_commands.cc`: the dump that `show conf` prints, and
`eds_exec_cmd`, which executes one line. A session is the connection, the board
at its other end, and the context: the mode and the block that is edited.

What the commands print is left out, except for the dump; so are the prompts. A
`traceable_error` that a command catches leaves what was done before it. A
number that cannot be read is 0.
-/

namespace OpenHcan.Host

open Eds Lib

/-! ## The dump -/

/-- The value of a field, as `eds_cmd_show_conf` prints it. -/
def printField (mcu : Mcu) (c : EdsConnection) (m : Eeprom) (address : Nat) (fs : List FieldDesc)
    (f : FieldDesc) : Except String (List Char) :=
  match f.datatype with
  | .char => strfield mcu c m address fs f.name
  | .uint16 => (uint16Field mcu c m address fs f.name).map printU
  | _ => (field mcu c m address fs f.name).map fun v => printU v.toNat

/-- The line of a field. -/
def setLine (name text : List Char) : List Char := "  set ".toList ++ name ++ ' ' :: text

def showField (mcu : Mcu) (c : EdsConnection) (m : Eeprom) (address : Nat) (fs : List FieldDesc)
    (f : FieldDesc) : Except String (List Char) :=
  (printField mcu c m address fs f).map fun text => setLine f.name text ++ ['\n']

/-- What the elements print, one after the other. -/
def printAll {α : Type} (print : α → Except String (List Char)) : List α →
    Except String (List Char)
  | [] => .ok []
  | x :: xs => do
      let text ← print x
      let rest ← printAll print xs
      return text ++ rest

def addressLine (address : Nat) : List Char := "# EDS-Address: ".toList ++ printU address

def createLine (name : String) : List Char := "create ".toList ++ name.toList

def exitLine : List Char := "exit".toList

def showBlock (table : List BlockDesc) (mcu : Mcu) (c : EdsConnection) (m : Eeprom)
    (b : EdsBlock) : Except String (List Char) :=
  (printAll (showField mcu c m b.address (fields table b)) (fields table b)).map fun text =>
    addressLine b.address ++ '\n' :: (createLine b.desc.name ++ '\n' :: (text ++
      (exitLine ++ ['\n'])))

/-- `eds_cmd_show_conf` -/
def edsCmdShowConf (table : List BlockDesc) (mcu : Mcu) (c : EdsConnection) (m : Eeprom)
    (type : String) : Except String (List Char) :=
  printAll (showBlock table mcu c m)
    (c.blocks.filter fun b => type = "" ∨ b.desc.name = type)

/-! ## Commands -/

/-- `context::mode` -/
inductive Mode
  | normal
  | edit
  | oap
deriving DecidableEq, Repr

/-- A connection, the EEPROM of its board, and `context`. -/
structure EdsSession where
  con : EdsConnection
  eeprom : Eeprom
  mode : Mode
  blockAddress : Nat

/-- `eds_cmd_create` -/
def edsCmdCreate (table : List BlockDesc) (mcu : Mcu) (s : EdsSession) (type : List Char) :
    EdsSession :=
  let o := createBlock (headers table) mcu s.con s.eeprom (String.ofList type)
  match o.result with
  | .ok b => ⟨o.con, o.eeprom, .edit, b.address⟩
  | .error _ => { s with con := o.con, eeprom := o.eeprom }

/-- `eds_cmd_edit` -/
def edsCmdEdit (s : EdsSession) (address : Nat) : EdsSession :=
  match blockByAddress s.con address with
  | .ok _ => { s with mode := .edit, blockAddress := address }
  | .error _ => s

/-- `send_FREE_BLOCK` -/
def EdsConnection.sendFreeBlock (c : EdsConnection) (address : Nat) : CanixFrame :=
  c.request [hcanSrvEds, hcanEdsFreeBlock, hiByte address, loByte address]

/-- `eds_cmd_delete` with `eds_connection::delete_block`. -/
def edsCmdDelete (mcu : Mcu) (s : EdsSession) (address : Nat) : EdsSession :=
  match blockByAddress s.con address with
  | .error _ => s
  | .ok b =>
      let reply := edsCanCallback mcu s.con.dst s.eeprom (s.con.sendFreeBlock b.address)
      match recvReplay s.con.dst hcanSrvEds hcanEdsFreeBlockReplay 1 reply.2 with
      | .error _ => { s with eeprom := reply.1 }
      | .ok f =>
          if f.byte 2 = 0 then
            { s with
              eeprom := reply.1
              con := s.con.withBlocks (s.con.blocks.eraseP fun b' => b'.address = b.address) }
          else { s with eeprom := reply.1 }

/-- A request without an answer, and `update`. -/
def refreshed (table : List BlockDesc) (mcu : Mcu) (s : EdsSession) (command : UInt8) :
    EdsSession :=
  let m := (edsCanCallback mcu s.con.dst s.eeprom (s.con.request [hcanSrvEds, command])).1
  match update (headers table) mcu s.con m (edsEnd mcu + 1) with
  | some (.ok c) => { s with con := c, eeprom := m }
  | _ => { s with eeprom := m }

/-- `ss >> v` into an `int`. -/
def streamInt (value : List Char) : Int := (strtol 2147483647 value).1

/-- `sin >> address` into a `uint16_t`: a number in front of a minus sign counts from the
top, one that is too large is the largest. -/
def streamUint16 (sin : List Char) : Nat :=
  let v := (strtol (2 ^ 63 - 1) sin).1
  if v.natAbs > 65535 then 65535 else (v % 65536).toNat

/-- The bits behind `0b`, the highest first. -/
def parseBits (bits : List Char) : Option Nat :=
  bits.foldl
    (fun v ch => v.bind fun n =>
      if ch = '1' then some (2 * n + 1) else if ch = '0' then some (2 * n) else none)
    (some 0)

/-- The value of an `uint8_t` field: a comment is cut off, eight bits may be written
behind `0b`. The number itself is read from the whole text. -/
def parseUint8 (value : List Char) : Option UInt8 :=
  let text := (value.takeWhile fun ch => ch ≠ '#').filter fun ch => !isspace ch
  if text.take 2 = ['0', 'b'] ∧ text.length = 10 then (parseBits (text.drop 2)).map UInt8.ofNat
  else if 'b' ∈ text ∨ 'B' ∈ text then none
  else some (UInt8.ofInt (streamInt value))

/-- `eds_cmd_set_field` -/
def edsCmdSetField (table : List BlockDesc) (mcu : Mcu) (s : EdsSession) (address : Nat)
    (key value : List Char) : EdsSession :=
  match blockByAddress s.con address with
  | .error _ => s
  | .ok b =>
      let fs := fields table b
      match getBlockFieldDescByKey fs key with
      | .error _ => s
      | .ok f =>
          match f.datatype with
          | .char =>
              { s with eeprom := (setFieldStr mcu s.con s.eeprom b.address fs key value).2 }
          | .uint16 =>
              { s with
                eeprom := (setFieldUint16 mcu s.con s.eeprom b.address fs key
                  (UInt16.ofInt (streamInt value))).2 }
          | .uint8 =>
              match parseUint8 value with
              | none => s
              | some v =>
                  { s with eeprom := (setFieldUint8 mcu s.con s.eeprom b.address fs key v).2 }
          | .other _ => s

/-- `eds_exec_cmd` behind the word `w`, with the rest `sin` of the line. -/
def execWord (table : List BlockDesc) (mcu : Mcu) (s : EdsSession) (w sin : List Char) :
    Bool × EdsSession :=
  if w = "list".toList ∧ (s.mode = .normal ∨ s.mode = .edit) then (true, s)
  else if w = "edit".toList then (true, edsCmdEdit s (streamUint16 sin))
  else if w = "print".toList then (true, s)
  else if w = "create".toList then (true, edsCmdCreate table mcu s (extract w sin).1)
  else if w = "delete".toList then (true, edsCmdDelete mcu s (streamUint16 sin))
  else if w = "defragment".toList then (true, refreshed table mcu s hcanEdsDefragment)
  else if w = "Format".toList then (true, refreshed table mcu s hcanEdsFormat)
  else if w = "exit".toList ∧ s.mode = .edit then (true, { s with mode := .normal })
  else if w = "hint".toList ∧ s.mode = .edit then (true, s)
  else if s.mode = .edit ∧ w = "set".toList then
    let (key, sin) := extract w sin
    (true, edsCmdSetField table mcu s s.blockAddress key (unwords (restWords (sin.length + 1) sin)))
  else (false, s)

/-- `eds_exec_cmd`: whether the line is a command, and the session afterwards. A
word behind `show` that it does not know is taken for a command. -/
def edsExecCmd (table : List BlockDesc) (mcu : Mcu) (s : EdsSession) (cmd : List Char) :
    Bool × EdsSession :=
  let (w, sin) := extract [] cmd
  if w = "show".toList then
    let (w, sin) := extract w sin
    if w = "conf".toList ∨ w = "all".toList then (true, s) else execWord table mcu s w sin
  else execWord table mcu s w sin

/-- The loop of `--read` over the lines of a file, each of them through
`eds_exec_cmd`. -/
def execFile (table : List BlockDesc) (mcu : Mcu) (s : EdsSession) (file : List Char) :
    EdsSession :=
  (getlines 512 file).foldl (fun s line => (edsExecCmd table mcu s line).2) s

end OpenHcan.Host
