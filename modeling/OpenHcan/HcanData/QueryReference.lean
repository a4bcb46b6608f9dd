import OpenHcan.HcanData.QueryLanguage

/-!
# QueryReference — what a query means

The reference semantics of a query is reverse Polish evaluation on a list of
numbers with room for 15 of them: a number or a field is pushed, an operator
replaces the top values by its result, and the query has a value when exactly
one number is left. `match` computes this meaning for the tokens its loop
gets to. The loop counts code bytes against the number of cells of the block,
so it gives up behind 32 tokens although the compiler takes 126, and a number
above `LONG_MAX` is compiled as `LONG_MAX`: `match_reference_iff`.
-/

namespace OpenHcan.HcanData

open Lib (bind_apply)

/-! ## The reference semantics -/

/-- The number a field stands for. -/
def Field.read (f : DataFileFrameEntry) : Field → Nat
  | .src => f.src.toNat
  | .dst => f.dst.toNat
  | .proto => f.proto.toNat
  | .size => f.size.toNat
  | .d0 => (f.d 0).toNat
  | .d1 => (f.d 1).toNat
  | .d2 => (f.d 2).toNat
  | .d3 => (f.d 3).toNat
  | .d4 => (f.d 4).toNat
  | .d5 => (f.d 5).toNat
  | .d6 => (f.d 6).toNat
  | .d7 => (f.d 7).toNat

/-- The number of a truth value. -/
def truthValue (b : Bool) : Nat := if b then 1 else 0

/-- The number an operator computes. -/
def Operator.apply : Operator → Nat → Nat → Nat
  | .equal, a, b => truthValue (a == b)
  | .notEqual, a, b => truthValue (a != b)
  | .andOp, a, b => a &&& b
  | .and, a, b => truthValue (a != 0 && b != 0)
  | .orOp, a, b => a ||| b
  | .or, a, b => truthValue (a != 0 || b != 0)

/-- The stack behind one more number, if there is room for it. -/
def pushValue (v : Nat) (s : List Nat) : Option (List Nat) :=
  if s.length < 15 then some (v :: s) else none

/-- One token on the stack, top first. -/
def Token.eval (f : DataFileFrameEntry) : Token → List Nat → Option (List Nat)
  | .int n, s => pushValue (n % 2 ^ 24) s
  | .value field, s => pushValue (field.read f) s
  | .not, a :: s => some (truthValue (a == 0) :: s)
  | .operator op, a :: b :: s => some (op.apply a b :: s)
  | _, _ => none

/-- The tokens one after the other. -/
def evalTokens (f : DataFileFrameEntry) : List Token → List Nat → Option (List Nat)
  | [], s => some s
  | t :: ts, s => (t.eval f s).bind (evalTokens f ts)

/-- The truth of a stack that holds exactly one number. -/
def stackValue : Option (List Nat) → Option Bool
  | some [v] => some (v != 0)
  | _ => none

/-- **The meaning of a query**: the truth of the one number it leaves. It has
none if the evaluation runs out of numbers or of room, or leaves none or
several. -/
def reference (f : DataFileFrameEntry) (ts : List Token) : Option Bool :=
  stackValue (evalTokens f ts [])

/-- A number the way `atol` delivers it. -/
def Token.clamp (longMax : Nat) : Token → Token
  | .int n => .int (min n longMax)
  | t => t

/-! ## The machine computes it -/

theorem truth_toNat (b : Bool) : (truth b).toNat = truthValue b := by
  cases b <;> rfl

theorem beq_toNat (a b : UInt32) : (a == b) = (a.toNat == b.toNat) := by
  rw [Bool.eq_iff_iff, beq_iff_eq, beq_iff_eq, UInt32.toNat_inj]

theorem bne_zero_toNat (a : UInt32) : (a != 0) = (a.toNat != 0) := by
  rw [bne, beq_toNat]
  rfl

theorem Field.word_toNat (f : DataFileFrameEntry) (field : Field) :
    (field.word f).toNat = field.read f := by
  cases field <;> simp [Field.word, Field.read]

theorem Operator.word_toNat (op : Operator) (a b : UInt32) :
    (op.word a b).toNat = op.apply a.toNat b.toNat := by
  cases op with
  | equal => rw [Operator.word, truth_toNat, beq_toNat]; rfl
  | notEqual => rw [Operator.word, truth_toNat, bne, beq_toNat]; rfl
  | andOp => exact UInt32.toNat_and a b
  | and => rw [Operator.word, truth_toNat, bne_zero_toNat, bne_zero_toNat]; rfl
  | orOp => exact UInt32.toNat_or a b
  | or => rw [Operator.word, truth_toNat, bne_zero_toNat, bne_zero_toNat]; rfl

theorem int_toNat (n : Nat) : (UInt32.ofNat n &&& 0x00ffffff).toNat = n % 2 ^ 24 := by
  rw [UInt32.toNat_and, UInt32.toNat_ofNat']
  show n % 2 ^ 32 &&& (2 ^ 24 - 1) = n % 2 ^ 24
  rw [Nat.and_two_pow_sub_one_eq_mod, Nat.mod_mod_of_dvd _ (by decide)]

/-- The cells up to the stack pointer hold the stack `s`, the top one first. -/
structure Holds (q : DataQuery) (s : List Nat) : Prop where
  ptr : q.stackPtr = s.length
  room : s.length ≤ 15
  cells : ∀ (i : Nat) (v : Nat), s[i]? = some v → (q.stack (s.length - i)).toNat = v

theorem holds_start {q : DataQuery} (h : q.stackPtr = 0) : Holds q [] := by
  refine ⟨h, by simp, ?_⟩
  intro i v hv
  cases hv

/-- A push with room for it pushes. -/
theorem push_holds {q : DataQuery} {s : List Nat} (h : Holds q s) (hroom : s.length < 15)
    (data : UInt32) : ∃ q', push data q = .ok () q' ∧ Holds q' (data.toNat :: s) := by
  have hptr := h.ptr
  refine ⟨{ q with stack := Function.update q.stack (q.stackPtr + 1) data,
                   stackPtr := q.stackPtr + 1 }, ?_, ?_, ?_, ?_⟩
  · rw [push]
    exact if_neg (by rw [stackSize]; omega)
  · rw [List.length_cons]
    show q.stackPtr + 1 = _
    omega
  · rw [List.length_cons]
    omega
  · intro i v hv
    rw [List.length_cons]
    cases i with
    | zero =>
        cases hv
        show (Function.update q.stack (q.stackPtr + 1) data _).toNat = _
        rw [show ((s.length + 1 : Nat) : Int) - (0 : Nat) = q.stackPtr + 1 by omega,
          Function.update_self]
    | succ i =>
        have hlt := (List.getElem?_eq_some_iff.1 hv).1
        show (Function.update q.stack (q.stackPtr + 1) data _).toNat = _
        rw [Function.update_of_ne (by omega),
          show ((s.length + 1 : Nat) : Int) - (i + 1 : Nat) = s.length - i by omega]
        exact h.cells i v hv

/-- A push without room throws. -/
theorem push_full {q : DataQuery} {s : List Nat} (h : Holds q s) (hroom : ¬ s.length < 15)
    (data : UInt32) : ∃ q', push data q = .error .overflow q' := by
  have hptr := h.ptr
  rw [push]
  exact ⟨_, if_pos (by rw [stackSize]; omega)⟩

/-- A pop takes the top value. -/
theorem pop_holds {q : DataQuery} {v : Nat} {s : List Nat} (h : Holds q (v :: s)) :
    ∃ d q', pop q = .ok d q' ∧ d.toNat = v ∧ Holds q' s := by
  have hptr := h.ptr
  have hroom := h.room
  rw [List.length_cons] at hptr hroom
  refine ⟨q.stack q.stackPtr, { q with stackPtr := q.stackPtr - 1 }, ?_, ?_, ?_, by omega, ?_⟩
  · rw [pop]
    exact if_neg (by omega)
  · have := h.cells 0 v rfl
    rwa [List.length_cons, show ((s.length + 1 : Nat) : Int) - (0 : Nat) = q.stackPtr by omega]
      at this
  · show q.stackPtr - 1 = _
    omega
  · intro i w hw
    have := h.cells (i + 1) w (by simpa using hw)
    rwa [List.length_cons,
      show ((s.length + 1 : Nat) : Int) - (i + 1 : Nat) = s.length - i by omega] at this

/-- A pop from the empty stack throws. -/
theorem pop_empty {q : DataQuery} (h : Holds q []) : ∃ q', pop q = .error .underrun q' := by
  have hptr := h.ptr
  rw [List.length_nil] at hptr
  rw [pop]
  exact ⟨_, if_pos (by omega)⟩

/-- The machine follows the reference: it goes on with the stack the
reference has, or throws where the reference has none. -/
def Follows (r : EStateM.Result QueryError DataQuery Unit) (s : Option (List Nat)) : Prop :=
  match s with
  | some s => ∃ q, r = .ok () q ∧ Holds q s
  | none => ∃ e q, r = .error e q

theorem push_follows {q : DataQuery} {s : List Nat} (h : Holds q s) {data : UInt32} {v : Nat}
    (hv : data.toNat = v) : Follows (push data q) (pushValue v s) := by
  rw [pushValue, ← hv]
  split
  · next hroom => exact push_holds h hroom data
  · next hroom => exact ⟨_, push_full h hroom data⟩

/-- A push behind pops always has room. -/
theorem push_back {q : DataQuery} {s : List Nat} (h : Holds q s) (hroom : s.length < 15)
    {data : UInt32} {v : Nat} (hv : data.toNat = v) : Follows (push data q) (some (v :: s)) := by
  rw [← hv]
  exact push_holds h hroom data

theorem Token.run_follows (f : DataFileFrameEntry) (longMax : Nat) (t : Token) {q : DataQuery}
    {s : List Nat} (h : Holds q s) :
    Follows (t.run f longMax q) ((t.clamp longMax).eval f s) := by
  cases t with
  | int n => exact push_follows h (int_toNat _)
  | value field => exact push_follows h (field.word_toNat f)
  | not =>
      rw [Token.run, bind_apply]
      cases s with
      | nil =>
          obtain ⟨q', hq'⟩ := pop_empty h
          rw [hq']
          exact ⟨_, _, rfl⟩
      | cons a s =>
          obtain ⟨d, q', hq', rfl, hs⟩ := pop_holds h
          rw [hq']
          apply push_back hs
          · have := h.room
            rw [List.length_cons] at this
            omega
          · rw [truth_toNat, beq_toNat]
            rfl
  | operator op =>
      rw [Token.run, binary, bind_apply]
      cases s with
      | nil =>
          obtain ⟨q', hq'⟩ := pop_empty h
          rw [hq']
          exact ⟨_, _, rfl⟩
      | cons a s =>
          obtain ⟨d1, q1, hq1, rfl, hs⟩ := pop_holds h
          rw [hq1]
          show Follows ((pop >>= fun d2 => push (op.word d1 d2)) q1) _
          rw [bind_apply]
          cases s with
          | nil =>
              obtain ⟨q', hq'⟩ := pop_empty hs
              rw [hq']
              exact ⟨_, _, rfl⟩
          | cons b s =>
              obtain ⟨d2, q2, hq2, rfl, hs'⟩ := pop_holds hs
              rw [hq2]
              apply push_back hs'
              · have := hs.room
                rw [List.length_cons] at this
                omega
              · exact op.word_toNat d1 d2

/-- **The run**: the machine follows the reference over any tokens. -/
theorem runTokens_follows (f : DataFileFrameEntry) (longMax : Nat) (ts : List Token)
    {q : DataQuery} {s : List Nat} (h : Holds q s) :
    Follows (runTokens f longMax ts q) (evalTokens f (ts.map (Token.clamp longMax)) s) := by
  induction ts generalizing q s with
  | nil => exact ⟨q, rfl, h⟩
  | cons t ts ih =>
      rw [runTokens, bind_apply, List.map_cons, evalTokens]
      have hstep := t.run_follows f longMax h
      cases hs : (t.clamp longMax).eval f s with
      | none =>
          rw [hs] at hstep
          obtain ⟨e, q', hq'⟩ := hstep
          rw [hq']
          exact ⟨e, q', rfl⟩
      | some s' =>
          rw [hs] at hstep
          obtain ⟨q', hq', hholds⟩ := hstep
          rw [hq']
          exact ih hholds

/-- The end of a query delivers the value of the stack. -/
theorem finish_holds {q : DataQuery} {s : List Nat} (h : Holds q s) :
    (outcome (finish q)).toOption = stackValue (some s) := by
  have hptr := h.ptr
  cases s with
  | nil =>
      rw [finish_invalid (by rw [hptr]; decide)]
      rfl
  | cons v s =>
      cases s with
      | nil =>
          rw [finish_single (by rw [hptr]; rfl)]
          have hv : (q.stack 1).toNat = v := h.cells 0 v rfl
          show some (q.stack 1 != 0) = some (v != 0)
          rw [bne_zero_toNat, hv]
      | cons b s =>
          rw [finish_invalid (by rw [hptr, List.length_cons, List.length_cons]; omega)]
          rfl

/-! ## The numbers do not decide where a query fails -/

theorem pushValue_length (v v' : Nat) {s s' : List Nat} (h : s.length = s'.length) :
    (pushValue v s).map List.length = (pushValue v' s').map List.length := by
  rw [pushValue, pushValue, h]
  split
  · simp [h]
  · rfl

theorem clamp_eval_length (f : DataFileFrameEntry) (longMax : Nat) (t : Token) {s s' : List Nat}
    (h : s.length = s'.length) :
    ((t.clamp longMax).eval f s).map List.length = (t.eval f s').map List.length := by
  cases t with
  | int n => exact pushValue_length _ _ h
  | value field => exact pushValue_length _ _ h
  | not =>
      match s, s', h with
      | [], [], _ => rfl
      | a :: s, a' :: s', h => exact congrArg some h
  | operator op =>
      match s, s', h with
      | [], [], _ => rfl
      | [a], [a'], _ => rfl
      | a :: b :: s, a' :: b' :: s', h =>
          have htail : (b :: s).length = (b' :: s').length := Nat.succ.inj h
          exact congrArg some htail

theorem clamp_evalTokens_length (f : DataFileFrameEntry) (longMax : Nat) (ts : List Token)
    {s s' : List Nat} (h : s.length = s'.length) :
    (evalTokens f (ts.map (Token.clamp longMax)) s).map List.length
      = (evalTokens f ts s').map List.length := by
  induction ts generalizing s s' with
  | nil => exact congrArg some h
  | cons t ts ih =>
      have hstep := clamp_eval_length f longMax t h
      rw [List.map_cons, evalTokens, evalTokens]
      cases ht : (t.clamp longMax).eval f s with
      | none =>
          rw [ht] at hstep
          cases ht' : t.eval f s' with
          | none => rfl
          | some r' => simp [ht'] at hstep
      | some r =>
          rw [ht] at hstep
          cases ht' : t.eval f s' with
          | none => simp [ht'] at hstep
          | some r' =>
              rw [ht'] at hstep
              exact ih (Option.some.inj hstep)

theorem stackValue_eq_none_iff (s : Option (List Nat)) :
    stackValue s = none ↔ s.map List.length ≠ some 1 := by
  match s with
  | none => simp [stackValue]
  | some [] => simp [stackValue]
  | some [v] => simp [stackValue]
  | some (a :: b :: s) => simp [stackValue]

/-- Clamping numbers does not change whether a query has a value. -/
theorem clamp_reference_eq_none_iff (f : DataFileFrameEntry) (longMax : Nat) (ts : List Token) :
    reference f (ts.map (Token.clamp longMax)) = none ↔ reference f ts = none := by
  rw [reference, reference, stackValue_eq_none_iff, stackValue_eq_none_iff,
    clamp_evalTokens_length f longMax ts rfl]

/-! ## A first call -/

/-- A query of at most 31 tokens is computed on the numbers `atol` delivers. -/
theorem match_short {longMax : Nat} {q : DataQuery} {ts : List Token} (hq : Runs longMax q ts)
    (hptr : q.stackPtr = 0) (hts : ts.length ≤ 31) (f : DataFileFrameEntry) :
    (outcome (matchQuery f q)).toOption = reference f (ts.map (Token.clamp longMax)) := by
  have hrun := runTokens_follows f longMax ts (holds_start hptr)
  rw [matchQuery_eq hq f, List.take_of_length_le (by omega), if_pos (by omega), bind_apply,
    reference]
  cases hs : evalTokens f (ts.map (Token.clamp longMax)) [] with
  | none =>
      rw [hs] at hrun
      obtain ⟨e, q', hq'⟩ := hrun
      rw [hq']
      rfl
  | some s =>
      rw [hs] at hrun
      obtain ⟨q', hq', hholds⟩ := hrun
      rw [hq']
      exact finish_holds hholds

/-- A longer one always throws. -/
theorem match_long {longMax : Nat} {q : DataQuery} {ts : List Token} (hq : Runs longMax q ts)
    (hts : 32 ≤ ts.length) (f : DataFileFrameEntry) :
    (outcome (matchQuery f q)).toOption = none := by
  rw [matchQuery_eq hq f, if_neg (by omega), bind_apply]
  cases runTokens f longMax (ts.take 32) q with
  | ok a q' => rfl
  | error e q' => rfl

theorem queryTokens_eq {query : List Char} {ts : List Token}
    (h : (queryWords query).map parseWord = ts.map some) : queryTokens query = ts := by
  have hid : (queryWords query).filterMap parseWord
      = ((queryWords query).map parseWord).filterMap id := by
    rw [List.filterMap_map]
    rfl
  rw [queryTokens, hid, h, List.filterMap_map]
  exact List.filterMap_some

/-- **The code against the reference.** For an accepted query of known words, the first
call of `match` delivers the value the reference assigns to the query, and
throws when there is none, exactly if the query has no value, or if it has at
most 31 words and its value does not change when the numbers above
`LONG_MAX` are replaced by `LONG_MAX`. -/
theorem match_reference_iff (longMax : Nat) (cells : Nat → UInt32) (stack : Int → UInt32)
    (query : List Char) (ts : List Token) (hknown : (queryWords query).map parseWord = ts.map some)
    (q : DataQuery) (hq : dataQuery longMax cells stack query = .ok q) (f : DataFileFrameEntry) :
    (outcome (matchQuery f q)).toOption = reference f ts ↔
      reference f ts = none ∨
        ts.length ≤ 31 ∧ reference f (ts.map (Token.clamp longMax)) = reference f ts := by
  have hspec := dataQuery_spec longMax cells stack query
  rw [hq, queryTokens_eq hknown] at hspec
  obtain ⟨_, hruns, _, hptr⟩ := hspec
  rcases Nat.lt_or_ge ts.length 32 with hshort | hlong
  · rw [match_short hruns hptr (by omega) f]
    constructor
    · intro h
      exact Or.inr ⟨by omega, h⟩
    · intro h
      rcases h with hnone | ⟨_, hclamp⟩
      · rw [hnone]
        exact (clamp_reference_eq_none_iff f longMax ts).2 hnone
      · exact hclamp
  · rw [match_long hruns hlong f]
    constructor
    · intro h
      exact Or.inl h.symm
    · intro h
      rcases h with hnone | ⟨hlen, _⟩
      · exact hnone.symm
      · omega

/-- A frame from address 5. -/
def frameFromFive : DataFileFrameEntry := ⟨0, 5, 0, 1, 0, Vector.replicate 8 0⟩

/-- `src 5 =` holds of it. -/
theorem match_reference_iff_src : ∃ q,
    dataQuery (2 ^ 63 - 1) (fun _ => 0) (fun _ => 0) "src 5 =".toList = .ok q
      ∧ (outcome (matchQuery frameFromFive q)).toOption
        = reference frameFromFive [.value .src, .int 5, .operator .equal] := by
  have hknown : (queryWords "src 5 =".toList).map parseWord
      = [.value .src, .int 5, .operator .equal].map some := by decide
  obtain ⟨q, hq⟩ := dataQuery_accepts (2 ^ 63 - 1) (fun _ => 0) (fun _ => 0)
    (show (queryTokens "src 5 =".toList).length ≤ 126 by rw [queryTokens_eq hknown]; decide)
  refine ⟨q, hq, ?_⟩
  exact (match_reference_iff _ _ _ _ _ hknown q hq frameFromFive).2 (Or.inr (by decide))

/-- One and 31 negations: 32 words. -/
def longQuery : List Char := '1' :: (List.replicate 31 [' ', '!']).flatten

/-- Its tokens. -/
def longTokens : List Token := .int 1 :: List.replicate 31 .not

theorem longQuery_words : (queryWords longQuery).map parseWord = longTokens.map some := by
  decide

/-- The query is accepted and means "false", but the call throws. -/
theorem match_longQuery_throws : ∃ q,
    dataQuery (2 ^ 63 - 1) (fun _ => 0) (fun _ => 0) longQuery = .ok q
      ∧ (queryWords longQuery).map parseWord = longTokens.map some
      ∧ reference frameFromFive longTokens = some false
      ∧ (outcome (matchQuery frameFromFive q)).toOption = none := by
  have htokens := queryTokens_eq longQuery_words
  have hspec := dataQuery_spec (2 ^ 63 - 1) (fun _ => 0) (fun _ => 0) longQuery
  obtain ⟨q, hq⟩ := dataQuery_accepts (2 ^ 63 - 1) (fun _ => 0) (fun _ => 0)
    (show (queryTokens longQuery).length ≤ 126 by rw [htokens]; decide)
  rw [hq, htokens] at hspec
  refine ⟨q, hq, longQuery_words, by decide, ?_⟩
  exact match_long hspec.2.1 (by decide) frameFromFive

end OpenHcan.HcanData
