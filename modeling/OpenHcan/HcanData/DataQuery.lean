import Mathlib.Logic.Function.Basic
import OpenHcan.HcanData.FileFormatV1

/-!
# DataQuery — the query compiler and its stack machine

`data_query`: a query in reverse Polish notation is compiled into a block of
32-bit code words (`compile_query`), and `match` runs that block against a
frame entry on the object's own stack.

A call of `match` leaves its stack and its stack pointer in the object also
when it ends with an exception, so an operation is a computation on the
`DataQuery` state whose errors keep the state (`EStateM`). The cells of
`m_stack` are a total function: a push stores before it checks the pointer, so
the cell behind the array (`m_stack[16]`) is written by an overflow. It is no
cell of the array and nothing reads it back.
-/

namespace OpenHcan.HcanData

/-! ## Tokens -/

def tokenNop : UInt32 := 0x00000000
def tokenInt : UInt32 := 0x01000000

def tokenSrc : UInt32 := 0x10000000
def tokenDst : UInt32 := 0x11000000
def tokenProto : UInt32 := 0x12000000
def tokenSize : UInt32 := 0x13000000
def tokenD0 : UInt32 := 0x14000000
def tokenD1 : UInt32 := 0x15000000
def tokenD2 : UInt32 := 0x16000000
def tokenD3 : UInt32 := 0x17000000
def tokenD4 : UInt32 := 0x18000000
def tokenD5 : UInt32 := 0x19000000
def tokenD6 : UInt32 := 0x20000000
def tokenD7 : UInt32 := 0x21000000

def tokenEqual : UInt32 := 0x80000000
def tokenAndOp : UInt32 := 0x81000000
def tokenAnd : UInt32 := 0x82000000
def tokenOrOp : UInt32 := 0x83000000
def tokenOr : UInt32 := 0x84000000
def tokenNotEqual : UInt32 := 0x85000000
def tokenNot : UInt32 := 0x86000000

/-- `CODE_SIZE` -/
def codeSize : Nat := 128

/-- `STACK_SIZE` -/
def stackSize : Int := 16

/-- `sizeof(m_code)` -/
def sizeofCode : Nat := codeSize * 4

/-- The exceptions of `data_query`. -/
inductive QueryError where
  | codeBlockTooSmall
  | invalidStack
  | codeEnd
  | unknownOpcode
  | overflow
  | underrun
deriving DecidableEq, Repr

/-- The text of the `traceable_error`. -/
def QueryError.text : QueryError → String
  | .codeBlockTooSmall => "query code block too small"
  | .invalidStack => "invalid m_stack after operations"
  | .codeEnd => "code end reached"
  | .unknownOpcode => "unknown opcode"
  | .overflow => "query m_stack overflow"
  | .underrun => "query m_stack underrun"

/-- The members of `data_query`. -/
structure DataQuery where
  code : Nat → UInt32
  stack : Int → UInt32
  stackPtr : Int

abbrev QueryM := EStateM QueryError DataQuery

/-! ## The compiler -/

/-- `isspace` in the C locale. -/
def isSpace (ch : Char) : Bool := ch == ' ' || (9 ≤ ch.toNat && ch.toNat ≤ 13)

/-- The words that `ss >> word` delivers until `ss.eof()`. An extraction that
ends at the end of the string sets `eof`; one that ends at a blank leaves it
for the next, so blanks at the end deliver one empty word. The fuel is the
number of extractions. -/
def streamWords : Nat → List Char → List (List Char)
  | 0, _ => []
  | fuel + 1, ss =>
      let rest := ss.dropWhile isSpace
      let word := rest.takeWhile fun ch => !isSpace ch
      let rest := rest.dropWhile fun ch => !isSpace ch
      word :: if rest.isEmpty then [] else streamWords fuel rest

/-- `regex_match(word, "^[0-9]+")` -/
def isNumber (word : List Char) : Bool := !word.isEmpty && word.all Char.isDigit

/-- The number a word of decimal digits stands for. -/
def decimal (word : List Char) : Nat :=
  word.foldl (fun n ch => n * 10 + (ch.toNat - '0'.toNat)) 0

/-- `atol`, which gives `LONG_MAX` for a number that does not fit a `long`. -/
def atol (longMax : Nat) (word : List Char) : Nat := min (decimal word) longMax

/-- The words with a token of their own. -/
def keywords : List (List Char × UInt32) :=
  [("src".toList, tokenSrc), ("dst".toList, tokenDst), ("proto".toList, tokenProto),
   ("size".toList, tokenSize), ("d0".toList, tokenD0), ("d1".toList, tokenD1),
   ("d2".toList, tokenD2), ("d3".toList, tokenD3), ("d4".toList, tokenD4),
   ("d5".toList, tokenD5), ("d6".toList, tokenD6), ("d7".toList, tokenD7),
   ("=".toList, tokenEqual), ("!=".toList, tokenNotEqual), ("!".toList, tokenNot),
   ("&".toList, tokenAndOp), ("&&".toList, tokenAnd), ("|".toList, tokenOrOp),
   ("||".toList, tokenOr)]

/-- The code word of a query word. An unknown word has none. -/
def codeWord (longMax : Nat) (word : List Char) : Option UInt32 :=
  if isNumber word then
    some (tokenInt ||| (UInt32.ofNat (atol longMax word) &&& 0x00ffffff))
  else keywords.lookup word

/-- The variables of `compile_query`: the bytes counted in `c`, the cell
`code` points to, and the code block. -/
structure Compiler where
  c : Nat
  code : Nat
  cells : Nat → UInt32

/-- One word: the code word is stored and both counters go on; an unknown
word is skipped. -/
def Compiler.emit (k : Compiler) : Option UInt32 → Compiler
  | some w => { c := k.c + 4, code := k.code + 1, cells := Function.update k.cells k.code w }
  | none => k

/-- The loop of `compile_query`. -/
def compileLoop (longMax : Nat) : List (List Char) → Compiler → Except QueryError Compiler
  | [], k => .ok k
  | word :: words, k =>
      if k.c ≥ sizeofCode - 4 then .error .codeBlockTooSmall
      else compileLoop longMax words (k.emit (codeWord longMax word))

/-- `compile_query` into the memory `cells`. -/
def compileQuery (longMax : Nat) (cells : Nat → UInt32) (query : List Char) :
    Except QueryError (Nat → UInt32) :=
  match compileLoop longMax (streamWords (query.length + 1) query) ⟨0, 0, cells⟩ with
  | .error e => .error e
  | .ok k =>
      if k.c ≥ sizeofCode - 4 then .error .codeBlockTooSmall
      else .ok (Function.update k.cells k.code 0)

/-- The constructor. `cells` and `stack` are what the memory of the object
held before. -/
def dataQuery (longMax : Nat) (cells : Nat → UInt32) (stack : Int → UInt32)
    (query : List Char) : Except QueryError DataQuery :=
  match compileQuery longMax cells query with
  | .error e => .error e
  | .ok code => .ok ⟨code, stack, 0⟩

/-! ## The stack machine -/

/-- `push`: the cell is stored before the pointer is checked. -/
def push (data : UInt32) : QueryM Unit := fun q =>
  let ptr := q.stackPtr + 1
  let q := { q with stack := Function.update q.stack ptr data, stackPtr := ptr }
  if ptr > stackSize - 1 then .error .overflow q else .ok () q

/-- `pop` -/
def pop : QueryM UInt32 := fun q =>
  let data := q.stack q.stackPtr
  let ptr := q.stackPtr - 1
  let q := { q with stackPtr := ptr }
  if ptr < 0 then .error .underrun q else .ok data q

/-- A C truth value. -/
def truth (b : Bool) : UInt32 := if b then 1 else 0

/-- The operators that take two values. -/
def binary (op : UInt32 → UInt32 → UInt32) : QueryM Unit := do
  let d1 ← pop
  let d2 ← pop
  push (op d1 d2)

/-- The `switch` of `match`, apart from `TOKEN_NOP`, on the code word `w`. -/
def execute (f : DataFileFrameEntry) (w : UInt32) : QueryM Unit :=
  let opcode := w &&& 0xff000000
  if opcode = tokenInt then push (w &&& 0x00ffffff)
  else if opcode = tokenSrc then push f.src.toUInt32
  else if opcode = tokenDst then push f.dst.toUInt32
  else if opcode = tokenProto then push f.proto.toUInt32
  else if opcode = tokenSize then push f.size.toUInt32
  else if opcode = tokenD0 then push (f.d 0).toUInt32
  else if opcode = tokenD1 then push (f.d 1).toUInt32
  else if opcode = tokenD2 then push (f.d 2).toUInt32
  else if opcode = tokenD3 then push (f.d 3).toUInt32
  else if opcode = tokenD4 then push (f.d 4).toUInt32
  else if opcode = tokenD5 then push (f.d 5).toUInt32
  else if opcode = tokenD6 then push (f.d 6).toUInt32
  else if opcode = tokenD7 then push (f.d 7).toUInt32
  else if opcode = tokenEqual then binary fun d1 d2 => truth (d1 == d2)
  else if opcode = tokenNotEqual then binary fun d1 d2 => truth (d1 != d2)
  else if opcode = tokenNot then do
    let d1 ← pop
    push (truth (d1 == 0))
  else if opcode = tokenAndOp then binary fun d1 d2 => d1 &&& d2
  else if opcode = tokenAnd then binary fun d1 d2 => truth (d1 != 0 && d2 != 0)
  else if opcode = tokenOrOp then binary fun d1 d2 => d1 ||| d2
  else if opcode = tokenOr then binary fun d1 d2 => truth (d1 != 0 || d2 != 0)
  else throw .unknownOpcode

/-- `case TOKEN_NOP` -/
def finish : QueryM Bool := do
  let q ← get
  if q.stackPtr ≠ 1 then throw .invalidStack
  let data ← pop
  return data != 0

/-- The loop of `match`: `c` goes up by the bytes of a code word but is
compared with the number of cells. The fuel ends the recursion no earlier
than `c` does. -/
def matchLoop (f : DataFileFrameEntry) : Nat → Nat → Nat → QueryM Bool
  | 0, _, _ => throw .codeEnd
  | fuel + 1, c, code => do
      if c < codeSize then
        let q ← get
        if q.code code &&& 0xff000000 = tokenNop then finish
        else
          execute f (q.code code)
          matchLoop f fuel (c + 4) (code + 1)
      else throw .codeEnd

/-- `data_query::match` -/
def matchQuery (f : DataFileFrameEntry) : QueryM Bool := matchLoop f codeSize 0 0

/-- What the caller of a method sees: the value or the exception. -/
def outcome {α : Type} : EStateM.Result QueryError DataQuery α → Except QueryError α
  | .ok a _ => .ok a
  | .error e _ => .error e

/-- The object after the call. -/
def object {α : Type} : EStateM.Result QueryError DataQuery α → DataQuery
  | .ok _ q => q
  | .error _ q => q

end OpenHcan.HcanData
