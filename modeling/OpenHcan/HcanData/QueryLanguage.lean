import Mathlib.Data.List.TakeWhile
import OpenHcan.Lib.ErrorState
import OpenHcan.HcanData.DataQuery

/-!
# QueryLanguage — queries as lists of tokens

The words of a query are the maximal runs of characters that are no blanks,
and a known word stands for a token. A query is compiled when it has at most
126 known words, its code block then holds their code words and a `TOKEN_NOP`
(`dataQuery_iff`), and a call of `match` executes the first 32 of them
(`matchQuery_eq`).
-/

namespace OpenHcan.HcanData

open Lib (bind_apply throw_apply stateOf stateOf_bind)

/-! ## Words -/

/-- The words of a query. -/
def queryWords (query : List Char) : List (List Char) :=
  (query.splitOnP isSpace).filter (· ≠ [])

theorem queryWords_space {ch : Char} (h : isSpace ch = true) (query : List Char) :
    queryWords (ch :: query) = queryWords query := by
  simp [queryWords, List.splitOnP_cons_eq_if_modifyHead, h]

theorem queryWords_dropWhile (query : List Char) :
    queryWords (query.dropWhile isSpace) = queryWords query := by
  induction query with
  | nil => rfl
  | cons ch query ih =>
      by_cases h : isSpace ch = true
      · rw [List.dropWhile_cons_of_pos h, ih, queryWords_space h]
      · rw [List.dropWhile_cons_of_neg h]

theorem queryWords_word {word : List Char} (h : ∀ ch ∈ word, isSpace ch = false) :
    queryWords word = [word].filter (· ≠ []) := by
  rw [queryWords, List.splitOnP_eq_singleton h]

theorem queryWords_word_space {word : List Char} (h : ∀ ch ∈ word, isSpace ch = false)
    {ch : Char} (hch : isSpace ch = true) (query : List Char) :
    queryWords (word ++ ch :: query) = [word].filter (· ≠ []) ++ queryWords (ch :: query) := by
  rw [queryWords_space hch, queryWords, List.splitOnP_append_cons_of_forall_mem h ch hch,
    List.filter_cons, queryWords]
  by_cases hw : word = [] <;> simp [hw]

theorem takeWhile_not_space (query : List Char) :
    ∀ ch ∈ query.takeWhile fun ch => !isSpace ch, isSpace ch = false := by
  intro ch hch
  have := List.mem_takeWhile_imp hch
  simpa using this

/-- One extraction takes the next word off the query. -/
theorem queryWords_extract (query : List Char) :
    queryWords query
      = [query.takeWhile fun ch => !isSpace ch].filter (· ≠ [])
        ++ queryWords (query.dropWhile fun ch => !isSpace ch) := by
  have hsplit := List.takeWhile_append_dropWhile (p := fun ch => !isSpace ch) (l := query)
  cases hrest : query.dropWhile fun ch => !isSpace ch with
  | nil =>
      rw [hrest, List.append_nil] at hsplit
      conv => lhs; rw [← hsplit]
      rw [queryWords_word (takeWhile_not_space query), show queryWords [] = [] from rfl,
        List.append_nil]
  | cons ch rest =>
      have hch : isSpace ch = true := by
        have := List.head?_dropWhile_not (fun ch => !isSpace ch) query
        simpa [hrest] using this
      rw [hrest] at hsplit
      conv => lhs; rw [← hsplit]
      exact queryWords_word_space (takeWhile_not_space query) hch rest

/-- What an extraction leaves is shorter than the query, or nothing. -/
theorem length_extract (query : List Char) {rest : List Char}
    (hrest : (query.dropWhile isSpace).dropWhile (fun ch => !isSpace ch) = rest) :
    rest = [] ∨ rest.length < query.length := by
  have hblanks : (query.dropWhile isSpace).length ≤ query.length :=
    List.length_dropWhile_le isSpace query
  cases hword : query.dropWhile isSpace with
  | nil =>
      left
      rw [hword] at hrest
      exact hrest.symm
  | cons ch word =>
      right
      have hch : isSpace ch = false := by
        have := List.head?_dropWhile_not isSpace query
        simpa [hword] using this
      rw [hword, List.dropWhile_cons_of_pos (by simp [hch])] at hrest
      have htail := List.length_dropWhile_le (fun ch => !isSpace ch) word
      rw [hrest] at htail
      rw [hword, List.length_cons] at hblanks
      omega

/-- The extractions of the stream deliver the words of the query, and empty
words besides. -/
theorem streamWords_filter (fuel : Nat) (query : List Char) (h : query.length < fuel) :
    (streamWords fuel query).filter (· ≠ []) = queryWords query := by
  induction fuel generalizing query with
  | zero => omega
  | succ fuel ih =>
      rw [← queryWords_dropWhile, queryWords_extract, streamWords]
      cases hrest : (query.dropWhile isSpace).dropWhile fun ch => !isSpace ch with
      | nil => simp [show queryWords [] = [] from rfl]
      | cons ch rest =>
          have hshort : (ch :: rest).length < query.length := by
            have := length_extract query hrest
            simpa using this
          simp only [List.isEmpty_cons, Bool.false_eq_true, if_false]
          rw [← List.singleton_append, List.filter_append, ih (ch :: rest) (by omega)]

/-! ## Tokens -/

/-- A value a query can name: a field or a payload byte of the frame. -/
inductive Field where
  | src | dst | proto | size
  | d0 | d1 | d2 | d3 | d4 | d5 | d6 | d7
deriving DecidableEq, Repr

/-- The operators of two values. -/
inductive Operator where
  | equal | notEqual | andOp | and | orOp | or
deriving DecidableEq, Repr

/-- What a known word stands for. -/
inductive Token where
  | int (n : Nat)
  | value (field : Field)
  | not
  | operator (op : Operator)
deriving DecidableEq, Repr

/-- The known words that are no numbers. -/
def vocabulary : List (List Char × Token) :=
  [("src".toList, .value .src), ("dst".toList, .value .dst), ("proto".toList, .value .proto),
   ("size".toList, .value .size), ("d0".toList, .value .d0), ("d1".toList, .value .d1),
   ("d2".toList, .value .d2), ("d3".toList, .value .d3), ("d4".toList, .value .d4),
   ("d5".toList, .value .d5), ("d6".toList, .value .d6), ("d7".toList, .value .d7),
   ("=".toList, .operator .equal), ("!=".toList, .operator .notEqual), ("!".toList, .not),
   ("&".toList, .operator .andOp), ("&&".toList, .operator .and), ("|".toList, .operator .orOp),
   ("||".toList, .operator .or)]

/-- The token of a word. -/
def parseWord (word : List Char) : Option Token :=
  if isNumber word then some (.int (decimal word)) else vocabulary.lookup word

/-- The tokens of the known words of a query. -/
def queryTokens (query : List Char) : List Token := (queryWords query).filterMap parseWord

def Field.opcode : Field → UInt32
  | .src => tokenSrc
  | .dst => tokenDst
  | .proto => tokenProto
  | .size => tokenSize
  | .d0 => tokenD0
  | .d1 => tokenD1
  | .d2 => tokenD2
  | .d3 => tokenD3
  | .d4 => tokenD4
  | .d5 => tokenD5
  | .d6 => tokenD6
  | .d7 => tokenD7

def Operator.opcode : Operator → UInt32
  | .equal => tokenEqual
  | .notEqual => tokenNotEqual
  | .andOp => tokenAndOp
  | .and => tokenAnd
  | .orOp => tokenOrOp
  | .or => tokenOr

/-- The code word of a token. -/
def Token.code (longMax : Nat) : Token → UInt32
  | .int n => tokenInt ||| (UInt32.ofNat (min n longMax) &&& 0x00ffffff)
  | .value field => field.opcode
  | .not => tokenNot
  | .operator op => op.opcode

theorem lookup_map {α β γ : Type} [BEq α] (g : β → γ) (a : α) (table : List (α × β)) :
    (table.map fun e => (e.1, g e.2)).lookup a = (table.lookup a).map g := by
  induction table with
  | nil => rfl
  | cons e table ih =>
      obtain ⟨key, b⟩ := e
      simp only [List.map_cons, List.lookup_cons]
      cases a == key with
      | true => rfl
      | false => exact ih

/-- The compiler's code word of a word is the one of its token. -/
theorem codeWord_eq (longMax : Nat) (word : List Char) :
    codeWord longMax word = (parseWord word).map (Token.code longMax) := by
  have htable : keywords = vocabulary.map fun e => (e.1, e.2.code longMax) := rfl
  rw [codeWord, parseWord]
  split
  · rfl
  · rw [htable, lookup_map]

theorem codeWord_nil (longMax : Nat) : codeWord longMax [] = none := rfl

/-- The code words the compiler takes from the stream. -/
theorem filterMap_codeWord (longMax : Nat) (query : List Char) :
    (streamWords (query.length + 1) query).filterMap (codeWord longMax)
      = (queryTokens query).map (Token.code longMax) := by
  rw [queryTokens, ← streamWords_filter (query.length + 1) query (by omega),
    List.map_filterMap, List.filterMap_filter]
  apply List.filterMap_congr
  intro word _
  by_cases h : word = []
  · simp [h, codeWord_nil]
  · simp [h, codeWord_eq]

/-! ## The compiler -/

/-- The cells from `n` on hold the code words `ts`. -/
def Loaded (cells : Nat → UInt32) (n : Nat) (ws : List UInt32) : Prop :=
  ∀ i w, ws[i]? = some w → cells (n + i) = w

theorem loaded_cons {cells : Nat → UInt32} {n : Nat} {w : UInt32} {ws : List UInt32} :
    Loaded cells n (w :: ws) ↔ cells n = w ∧ Loaded cells (n + 1) ws := by
  constructor
  · intro h
    refine ⟨h 0 w rfl, ?_⟩
    intro i v hv
    have := h (i + 1) v (by simpa using hv)
    rwa [show n + (i + 1) = n + 1 + i by omega] at this
  · rintro ⟨hw, hws⟩ i v hv
    cases i with
    | zero =>
        cases hv
        exact hw
    | succ i =>
        rw [show n + (i + 1) = n + 1 + i by omega]
        exact hws i v (by simpa using hv)

/-- The loop either loads the code words of the known words behind the ones
that are there, or there are too many of them. -/
theorem compileLoop_spec (longMax : Nat) (words : List (List Char)) (n : Nat)
    (cells : Nat → UInt32) :
    match compileLoop longMax words ⟨4 * n, n, cells⟩ with
    | .ok k =>
        let ws := words.filterMap (codeWord longMax)
        k.c = 4 * (n + ws.length) ∧ k.code = n + ws.length ∧ Loaded k.cells n ws
          ∧ ∀ i < n, k.cells i = cells i
    | .error e =>
        e = .codeBlockTooSmall ∧ 127 ≤ n + (words.filterMap (codeWord longMax)).length := by
  induction words generalizing n cells with
  | nil =>
      refine ⟨rfl, rfl, ?_, fun i _ => rfl⟩
      intro i w h
      cases h
  | cons word words ih =>
      rw [compileLoop]
      split_ifs with hfull
      · simp only [sizeofCode, codeSize] at hfull
        exact ⟨rfl, by omega⟩
      · cases hw : codeWord longMax word with
        | none =>
            rw [List.filterMap_cons_none hw]
            exact ih n cells
        | some w =>
            rw [List.filterMap_cons_some hw]
            have hnext := ih (n + 1) (Function.update cells n w)
            simp only [Compiler.emit, show 4 * n + 4 = 4 * (n + 1) by omega]
            split at hnext
            · next k hk =>
                obtain ⟨hc, hcode, hloaded, hframe⟩ := hnext
                refine ⟨?_, ?_, ?_, ?_⟩
                · rw [hc, List.length_cons]
                  omega
                · rw [hcode, List.length_cons]
                  omega
                · apply loaded_cons.2
                  refine ⟨?_, hloaded⟩
                  rw [hframe n (by omega), Function.update_self]
                · intro i hi
                  rw [hframe i (by omega), Function.update_of_ne (by omega)]
            · next e he =>
                refine ⟨hnext.1, ?_⟩
                have := hnext.2
                rw [List.length_cons]
                omega

/-- The object runs the tokens `ts`: its code block holds their code words
and a `TOKEN_NOP`. -/
structure Runs (longMax : Nat) (q : DataQuery) (ts : List Token) : Prop where
  loaded : Loaded q.code 0 (ts.map (Token.code longMax))
  nop : q.code ts.length = 0

/-- **The compiler**: a query of at most 126 known words is accepted and
loaded, a longer one is refused. -/
theorem dataQuery_spec (longMax : Nat) (cells : Nat → UInt32) (stack : Int → UInt32)
    (query : List Char) :
    match dataQuery longMax cells stack query with
    | .ok q =>
        (queryTokens query).length ≤ 126 ∧ Runs longMax q (queryTokens query)
          ∧ q.stack = stack ∧ q.stackPtr = 0
    | .error e => e = .codeBlockTooSmall ∧ 127 ≤ (queryTokens query).length := by
  have hloop := compileLoop_spec longMax (streamWords (query.length + 1) query) 0 cells
  rw [filterMap_codeWord, List.length_map, Nat.mul_zero] at hloop
  rw [dataQuery, compileQuery]
  cases hk : compileLoop longMax (streamWords (query.length + 1) query) ⟨0, 0, cells⟩ with
  | error e =>
      rw [hk] at hloop
      refine ⟨hloop.1, ?_⟩
      have := hloop.2
      omega
  | ok k =>
      rw [hk] at hloop
      obtain ⟨hc, hcode, hloaded, _⟩ := hloop
      rw [List.length_map, Nat.zero_add] at hc hcode
      by_cases hfull : k.c ≥ sizeofCode - 4
      · simp only [if_pos hfull]
        simp only [sizeofCode, codeSize] at hfull
        exact ⟨trivial, by omega⟩
      · simp only [if_neg hfull]
        simp only [sizeofCode, codeSize] at hfull
        refine ⟨by omega, ⟨?_, ?_⟩, trivial, trivial⟩
        · intro i w hi
          have hlt : i < (queryTokens query).length := by
            have := (List.getElem?_eq_some_iff.1 hi).1
            simpa using this
          show Function.update k.cells k.code 0 (0 + i) = w
          rw [Function.update_of_ne (by omega)]
          exact hloaded i w hi
        · show Function.update k.cells k.code 0 (queryTokens query).length = 0
          rw [← hcode, Function.update_self]

theorem dataQuery_accepts (longMax : Nat) (cells : Nat → UInt32) (stack : Int → UInt32)
    {query : List Char} (h : (queryTokens query).length ≤ 126) :
    ∃ q, dataQuery longMax cells stack query = .ok q := by
  have hspec := dataQuery_spec longMax cells stack query
  cases hq : dataQuery longMax cells stack query with
  | ok q => exact ⟨q, rfl⟩
  | error e =>
      rw [hq] at hspec
      have := hspec.2
      omega

/-! ## The stack machine -/

/-- The value `match` pushes for a field. -/
def Field.word (f : DataFileFrameEntry) : Field → UInt32
  | .src => f.src.toUInt32
  | .dst => f.dst.toUInt32
  | .proto => f.proto.toUInt32
  | .size => f.size.toUInt32
  | .d0 => (f.d 0).toUInt32
  | .d1 => (f.d 1).toUInt32
  | .d2 => (f.d 2).toUInt32
  | .d3 => (f.d 3).toUInt32
  | .d4 => (f.d 4).toUInt32
  | .d5 => (f.d 5).toUInt32
  | .d6 => (f.d 6).toUInt32
  | .d7 => (f.d 7).toUInt32

/-- The value `match` pushes for an operator. -/
def Operator.word : Operator → UInt32 → UInt32 → UInt32
  | .equal, d1, d2 => truth (d1 == d2)
  | .notEqual, d1, d2 => truth (d1 != d2)
  | .andOp, d1, d2 => d1 &&& d2
  | .and, d1, d2 => truth (d1 != 0 && d2 != 0)
  | .orOp, d1, d2 => d1 ||| d2
  | .or, d1, d2 => truth (d1 != 0 || d2 != 0)

/-- What the machine does for a token. -/
def Token.run (f : DataFileFrameEntry) (longMax : Nat) : Token → QueryM Unit
  | .int n => push (UInt32.ofNat (min n longMax) &&& 0x00ffffff)
  | .value field => push (field.word f)
  | .not => do
      let d1 ← pop
      push (truth (d1 == 0))
  | .operator op => binary op.word

/-- The tokens one after the other. -/
def runTokens (f : DataFileFrameEntry) (longMax : Nat) : List Token → QueryM Unit
  | [] => pure ()
  | t :: ts => do
      t.run f longMax
      runTokens f longMax ts

theorem masked_or (x y m : UInt32) : (x ||| y) &&& m = (x &&& m) ||| (y &&& m) := by
  apply UInt32.toBitVec_inj.1
  simp only [UInt32.toBitVec_and, UInt32.toBitVec_or]
  exact BitVec.and_or_distrib_right

theorem int_opcode (x : UInt32) :
    (tokenInt ||| (x &&& 0x00ffffff)) &&& 0xff000000 = tokenInt := by
  rw [masked_or, UInt32.and_assoc, show (0x00ffffff : UInt32) &&& 0xff000000 = 0 by decide,
    UInt32.and_zero]
  decide

theorem int_operand (x : UInt32) :
    (tokenInt ||| (x &&& 0x00ffffff)) &&& 0x00ffffff = x &&& 0x00ffffff := by
  rw [masked_or, UInt32.and_assoc, UInt32.and_self, show tokenInt &&& 0x00ffffff = 0 by decide,
    UInt32.zero_or]

theorem Field.opcode_mask (field : Field) : field.opcode &&& 0xff000000 = field.opcode := by
  cases field <;> decide

theorem Operator.opcode_mask (op : Operator) : op.opcode &&& 0xff000000 = op.opcode := by
  cases op <;> decide

/-- The code word of a token is no `TOKEN_NOP`. -/
theorem code_ne_nop (longMax : Nat) (t : Token) : t.code longMax &&& 0xff000000 ≠ tokenNop := by
  cases t with
  | int n =>
      rw [Token.code, int_opcode]
      decide
  | value field =>
      rw [Token.code, Field.opcode_mask]
      cases field <;> decide
  | not =>
      rw [Token.code]
      decide
  | operator op =>
      rw [Token.code, Operator.opcode_mask]
      cases op <;> decide

/-! ## The stack machine over stack operations

The loop of `match` works on the stack by `push` and `pop` alone, so it is a
loop over any two such operations on a state that holds the object.
-/

/-- Stack operations that leave the code block alone. -/
structure StackOps (σ : Type) where
  object : σ → DataQuery
  push : UInt32 → EStateM QueryError σ Unit
  pop : EStateM QueryError σ UInt32
  push_code : ∀ data s, (object (stateOf (push data s))).code = (object s).code
  pop_code : ∀ s, (object (stateOf (pop s))).code = (object s).code

section StackOps

variable {σ : Type} (ops : StackOps σ)

/-- `binary` -/
def binaryOn (op : UInt32 → UInt32 → UInt32) : EStateM QueryError σ Unit := do
  let d1 ← ops.pop
  let d2 ← ops.pop
  ops.push (op d1 d2)

/-- `execute` -/
def executeOn (f : DataFileFrameEntry) (w : UInt32) : EStateM QueryError σ Unit :=
  let opcode := w &&& 0xff000000
  if opcode = tokenInt then ops.push (w &&& 0x00ffffff)
  else if opcode = tokenSrc then ops.push f.src.toUInt32
  else if opcode = tokenDst then ops.push f.dst.toUInt32
  else if opcode = tokenProto then ops.push f.proto.toUInt32
  else if opcode = tokenSize then ops.push f.size.toUInt32
  else if opcode = tokenD0 then ops.push (f.d 0).toUInt32
  else if opcode = tokenD1 then ops.push (f.d 1).toUInt32
  else if opcode = tokenD2 then ops.push (f.d 2).toUInt32
  else if opcode = tokenD3 then ops.push (f.d 3).toUInt32
  else if opcode = tokenD4 then ops.push (f.d 4).toUInt32
  else if opcode = tokenD5 then ops.push (f.d 5).toUInt32
  else if opcode = tokenD6 then ops.push (f.d 6).toUInt32
  else if opcode = tokenD7 then ops.push (f.d 7).toUInt32
  else if opcode = tokenEqual then binaryOn ops fun d1 d2 => truth (d1 == d2)
  else if opcode = tokenNotEqual then binaryOn ops fun d1 d2 => truth (d1 != d2)
  else if opcode = tokenNot then do
    let d1 ← ops.pop
    ops.push (truth (d1 == 0))
  else if opcode = tokenAndOp then binaryOn ops fun d1 d2 => d1 &&& d2
  else if opcode = tokenAnd then binaryOn ops fun d1 d2 => truth (d1 != 0 && d2 != 0)
  else if opcode = tokenOrOp then binaryOn ops fun d1 d2 => d1 ||| d2
  else if opcode = tokenOr then binaryOn ops fun d1 d2 => truth (d1 != 0 || d2 != 0)
  else throw .unknownOpcode

/-- `finish` -/
def finishOn : EStateM QueryError σ Bool := do
  let s ← get
  if (ops.object s).stackPtr ≠ 1 then throw .invalidStack
  let data ← ops.pop
  return data != 0

/-- `matchLoop` -/
def matchLoopOn (f : DataFileFrameEntry) : Nat → Nat → Nat → EStateM QueryError σ Bool
  | 0, _, _ => throw .codeEnd
  | fuel + 1, c, code => do
      if c < codeSize then
        let s ← get
        if (ops.object s).code code &&& 0xff000000 = tokenNop then finishOn ops
        else
          executeOn ops f ((ops.object s).code code)
          matchLoopOn f fuel (c + 4) (code + 1)
      else throw .codeEnd

/-- What the machine does for a token. -/
def Token.runOn (f : DataFileFrameEntry) (longMax : Nat) : Token → EStateM QueryError σ Unit
  | .int n => ops.push (UInt32.ofNat (min n longMax) &&& 0x00ffffff)
  | .value field => ops.push (field.word f)
  | .not => do
      let d1 ← ops.pop
      ops.push (truth (d1 == 0))
  | .operator op => binaryOn ops op.word

/-- The tokens one after the other. -/
def runTokensOn (f : DataFileFrameEntry) (longMax : Nat) :
    List Token → EStateM QueryError σ Unit
  | [] => pure ()
  | t :: ts => do
      t.runOn ops f longMax
      runTokensOn f longMax ts

/-- The `switch` does for a code word what its token says. -/
theorem executeOn_code (f : DataFileFrameEntry) (longMax : Nat) (t : Token) :
    executeOn ops f (t.code longMax) = t.runOn ops f longMax := by
  cases t with
  | int n =>
      simp only [executeOn, Token.code, int_opcode, int_operand, if_true, Token.runOn]
  | value field =>
      simp only [executeOn, Token.code, Field.opcode_mask, Token.runOn]
      cases field <;> simp +decide only [Field.opcode, Field.word, if_true, if_false]
  | not => simp +decide only [executeOn, Token.code, Token.runOn, if_true, if_false]
  | operator op =>
      simp only [executeOn, Token.code, Operator.opcode_mask, Token.runOn]
      cases op <;> simp +decide only [Operator.opcode, if_true, if_false] <;> rfl

theorem Token.runOn_code (f : DataFileFrameEntry) (longMax : Nat) (t : Token) (s : σ) :
    (ops.object (stateOf (t.runOn ops f longMax s))).code = (ops.object s).code := by
  let key := fun s => (ops.object s).code
  cases t with
  | int n => exact ops.push_code _ s
  | value field => exact ops.push_code _ s
  | not => exact stateOf_bind key ops.pop_code (fun _ => ops.push_code _) s
  | operator op =>
      exact stateOf_bind key ops.pop_code
        (fun _ => stateOf_bind key ops.pop_code fun _ => ops.push_code _) s

theorem matchLoopOn_step (f : DataFileFrameEntry) (fuel c code : Nat) (s : σ)
    (hc : c < codeSize) :
    matchLoopOn ops f (fuel + 1) c code s
      = if (ops.object s).code code &&& 0xff000000 = tokenNop then finishOn ops s
        else (executeOn ops f ((ops.object s).code code) >>= fun _ =>
          matchLoopOn ops f fuel (c + 4) (code + 1)) s := by
  rw [matchLoopOn, if_pos hc, bind_apply]
  show (if _ then _ else _ : EStateM QueryError σ Bool) s = _
  split <;> rfl

theorem matchLoopOn_end (f : DataFileFrameEntry) (fuel c code : Nat) (s : σ)
    (hc : ¬ c < codeSize) : matchLoopOn ops f (fuel + 1) c code s = .error .codeEnd s := by
  rw [matchLoopOn, if_neg hc, throw_apply]

/-- The loop from cell `k` on executes the tokens that are left up to cell 32,
where `c` reaches `CODE_SIZE`, and ends the query only if it gets to the
`TOKEN_NOP` before that. -/
theorem matchLoopOn_eq (f : DataFileFrameEntry) (longMax : Nat) (ts : List Token) (k fuel : Nat)
    (s : σ) (hk : k ≤ 32) (hfuel : 32 - k < fuel)
    (hloaded : Loaded (ops.object s).code k (ts.map (Token.code longMax)))
    (hnop : (ops.object s).code (k + ts.length) = 0) :
    matchLoopOn ops f fuel (4 * k) k s
      = (runTokensOn ops f longMax (ts.take (32 - k)) >>= fun _ =>
          if ts.length < 32 - k then finishOn ops else throw .codeEnd) s := by
  induction ts generalizing k fuel s with
  | nil =>
      obtain ⟨fuel, rfl⟩ := Nat.exists_eq_succ_of_ne_zero (show fuel ≠ 0 by omega)
      rw [List.take_nil, List.length_nil]
      rcases Nat.eq_or_lt_of_le hk with rfl | hk'
      · rw [matchLoopOn_end _ _ _ _ _ _ (by decide), if_neg (by omega)]
        rfl
      · rw [matchLoopOn_step _ _ _ _ _ _ (show 4 * k < 128 by omega),
          show (ops.object s).code k = 0 from hnop, if_pos (by decide), if_pos (by omega)]
        rfl
  | cons t ts ih =>
      obtain ⟨fuel, rfl⟩ := Nat.exists_eq_succ_of_ne_zero (show fuel ≠ 0 by omega)
      rcases Nat.eq_or_lt_of_le hk with rfl | hk'
      · -- `c` is 128 with tokens left
        rw [matchLoopOn_end _ _ _ _ _ _ (by decide), if_neg (by omega), Nat.sub_self,
          List.take_zero]
        rfl
      · obtain ⟨hcell, hrest⟩ := loaded_cons.1 hloaded
        rw [matchLoopOn_step _ _ _ _ _ _ (show 4 * k < 128 by omega), hcell,
          if_neg (code_ne_nop longMax t), executeOn_code,
          show 32 - k = 32 - (k + 1) + 1 by omega, List.take_succ_cons, runTokensOn, bind_assoc]
        have hkeeps := t.runOn_code ops f longMax s
        rw [bind_apply, bind_apply]
        cases hrun : t.runOn ops f longMax s with
        | error e s' => rfl
        | ok a s' =>
            rw [hrun] at hkeeps
            have hcode : (ops.object s').code = (ops.object s).code := hkeeps
            have hnop' : (ops.object s').code (k + 1 + ts.length) = 0 := by
              rw [hcode, show k + 1 + ts.length = k + (t :: ts).length by
                rw [List.length_cons]; omega]
              exact hnop
            have := ih (k + 1) fuel s' hk' (by omega) (hcode ▸ hrest) hnop'
            simp only [List.length_cons, Nat.add_lt_add_iff_right]
            exact this

/-- **A call of `match`** executes the first 32 tokens, and gets to the end of
the query only if there are fewer. -/
theorem matchOn_eq {longMax : Nat} {s : σ} {ts : List Token}
    (h : Runs longMax (ops.object s) ts) (f : DataFileFrameEntry) :
    matchLoopOn ops f codeSize 0 0 s
      = (runTokensOn ops f longMax (ts.take 32) >>= fun _ =>
          if ts.length < 32 then finishOn ops else throw .codeEnd) s := by
  have hnop : (ops.object s).code (0 + ts.length) = 0 := by
    rw [Nat.zero_add]
    exact h.nop
  exact matchLoopOn_eq ops f longMax ts 0 codeSize s (by omega) (by decide) h.loaded hnop

end StackOps

/-! ## The machine on its own stack -/

/-- `push` and `pop` of the object. -/
def stackOps : StackOps DataQuery :=
  { object := id
    push := push
    pop := pop
    push_code := by
      intro data q
      rw [push]
      split <;> rfl
    pop_code := by
      intro q
      rw [pop]
      split <;> rfl }

theorem matchLoopOn_stackOps (f : DataFileFrameEntry) (fuel c code : Nat) :
    matchLoopOn stackOps f fuel c code = matchLoop f fuel c code := by
  induction fuel generalizing c code with
  | zero => rfl
  | succ fuel ih =>
      rw [matchLoopOn, matchLoop]
      simp only [ih]
      rfl

theorem runOn_stackOps (f : DataFileFrameEntry) (longMax : Nat) (t : Token) :
    t.runOn stackOps f longMax = t.run f longMax := by
  cases t <;> rfl

theorem runTokensOn_stackOps (f : DataFileFrameEntry) (longMax : Nat) (ts : List Token) :
    runTokensOn stackOps f longMax ts = runTokens f longMax ts := by
  induction ts with
  | nil => rfl
  | cons t ts ih => rw [runTokensOn, runTokens, ih, runOn_stackOps]

/-- A computation that leaves the code block alone. -/
def KeepsCode {α : Type} (x : QueryM α) : Prop := ∀ q, (object (x q)).code = q.code

theorem object_eq_stateOf {α : Type} (r : EStateM.Result QueryError DataQuery α) :
    object r = stateOf r := by
  cases r with
  | ok a q => rfl
  | error e q => rfl

theorem KeepsCode.bind {α β : Type} {x : QueryM α} {g : α → QueryM β} (hx : KeepsCode x)
    (hg : ∀ a, KeepsCode (g a)) : KeepsCode (x >>= g) := by
  simp only [KeepsCode, object_eq_stateOf] at hx hg ⊢
  exact stateOf_bind DataQuery.code hx hg

theorem push_keepsCode (data : UInt32) : KeepsCode (push data) := by
  intro q
  rw [push]
  split <;> rfl

theorem pop_keepsCode : KeepsCode pop := by
  intro q
  rw [pop]
  split <;> rfl

theorem Token.run_keepsCode (f : DataFileFrameEntry) (longMax : Nat) (t : Token) :
    KeepsCode (t.run f longMax) := by
  cases t with
  | int n => exact push_keepsCode _
  | value field => exact push_keepsCode _
  | not => exact pop_keepsCode.bind fun _ => push_keepsCode _
  | operator op =>
      exact pop_keepsCode.bind fun _ => pop_keepsCode.bind fun _ => push_keepsCode _

/-- A query that leaves no or several values throws, and leaves them. -/
theorem finish_invalid {q : DataQuery} (h : q.stackPtr ≠ 1) :
    finish q = .error .invalidStack q := by
  rw [finish, bind_apply]
  show (if q.stackPtr ≠ 1 then _ else _ : QueryM Bool) q = _
  rw [if_pos h]
  rfl

/-- A query that leaves one value takes it off the stack. -/
theorem finish_single {q : DataQuery} (h : q.stackPtr = 1) :
    finish q = .ok (q.stack 1 != 0) { q with stackPtr := 0 } := by
  have hpop : pop q = .ok (q.stack 1) { q with stackPtr := 0 } := by
    rw [pop, h]
    rfl
  rw [finish, bind_apply]
  show (if q.stackPtr ≠ 1 then _ else _ : QueryM Bool) q = _
  rw [if_neg (by simp [h])]
  show (pop >>= fun data => pure (data != 0)) q = _
  rw [bind_apply, hpop]
  rfl

/-- A call of `match` on the object. -/
theorem matchQuery_eq {longMax : Nat} {q : DataQuery} {ts : List Token}
    (h : Runs longMax q ts) (f : DataFileFrameEntry) :
    matchQuery f q
      = (runTokens f longMax (ts.take 32) >>= fun _ =>
          if ts.length < 32 then finish else throw .codeEnd) q := by
  rw [matchQuery, ← matchLoopOn_stackOps, matchOn_eq stackOps h f, runTokensOn_stackOps]
  rfl

end OpenHcan.HcanData
