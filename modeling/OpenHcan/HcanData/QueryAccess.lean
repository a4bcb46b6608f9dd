import OpenHcan.HcanData.QueryHistory

/-!
# QueryAccess — what `match` reads and writes of `m_stack`

A push stores into the cell above the stack pointer and a pop loads the cell
at it, both before the check that throws. `match` over operations that also
record the cell they access yields the accesses of a call, and is otherwise
the same (`tracedMatch_erases`).

Which cells are accessed depends on the tokens of the query and the stack
pointer alone, and the pointer before a call is a multiple of what each of the
calls before has left (`call_accesses`). The array ends with `m_stack[15]`;
the C++ standard leaves open what an access beside it does to the object, so
what is recorded behind such an access says nothing.
-/

namespace OpenHcan.HcanData

open Lib (Move Walked Touch walk touched height run bind_apply stateOf)

/-! ## Recorded accesses -/

/-- An object and the accesses to its `m_stack`. -/
abbrev Traced := DataQuery × List Touch

/-- An operation that accesses the cell `cell`. -/
def traced {α : Type} (cell : DataQuery → Int) (x : QueryM α) : EStateM QueryError Traced α :=
  fun s =>
    match x s.1 with
    | .ok a q => .ok a (q, s.2 ++ [⟨cell s.1, false⟩])
    | .error e q => .error e (q, s.2 ++ [⟨cell s.1, true⟩])

/-- A result without the record. -/
def erase {α : Type} :
    EStateM.Result QueryError Traced α → EStateM.Result QueryError DataQuery α
  | .ok a s => .ok a s.1
  | .error e s => .error e s.1

theorem erase_traced {α : Type} (cell : DataQuery → Int) (x : QueryM α) (s : Traced) :
    erase (traced cell x s) = x s.1 := by
  rw [traced]
  cases hx : x s.1 with
  | ok a q => rfl
  | error e q => rfl

theorem stateOf_erase {α : Type} (r : EStateM.Result QueryError Traced α) :
    stateOf (erase r) = (stateOf r).1 := by
  cases r <;> rfl

/-- `m_stack[++m_stack_ptr]` and `m_stack[m_stack_ptr--]` -/
def tracedOps : StackOps Traced :=
  { object := Prod.fst
    push := fun data => traced (fun q => q.stackPtr + 1) (push data)
    pop := traced (fun q => q.stackPtr) pop
    push_code := by
      intro data s
      rw [← stateOf_erase, erase_traced]
      exact stackOps.push_code data s.1
    pop_code := by
      intro s
      rw [← stateOf_erase, erase_traced]
      exact stackOps.pop_code s.1 }

/-- `data_query::match` with the accesses it makes. -/
def tracedMatch (f : DataFileFrameEntry) : EStateM QueryError Traced Bool :=
  matchLoopOn tracedOps f codeSize 0 0

/-- A computation that records accesses is `x` but for the record. -/
def Erases {α : Type} (y : EStateM QueryError Traced α) (x : QueryM α) : Prop :=
  ∀ s, erase (y s) = x s.1

theorem Erases.bind {α β : Type} {y : EStateM QueryError Traced α} {x : QueryM α}
    {g : α → EStateM QueryError Traced β} {g' : α → QueryM β} (hy : Erases y x)
    (hg : ∀ a, Erases (g a) (g' a)) : Erases (y >>= g) (x >>= g') := by
  intro s
  have hs := hy s
  rw [bind_apply, bind_apply, ← hs]
  cases hrun : y s with
  | ok a s' => exact hg a s'
  | error e s' => rfl

theorem Erases.ite {α : Type} {c : Prop} [Decidable c] {y y' : EStateM QueryError Traced α}
    {x x' : QueryM α} (h : Erases y x) (h' : Erases y' x') :
    Erases (if c then y else y') (if c then x else x') := by
  split
  · exact h
  · exact h'

theorem push_erases (data : UInt32) : Erases (tracedOps.push data) (push data) :=
  fun s => erase_traced (fun q => q.stackPtr + 1) (push data) s

theorem pop_erases : Erases tracedOps.pop pop :=
  fun s => erase_traced (fun q => q.stackPtr) pop s

theorem throw_erases {α : Type} (e : QueryError) :
    Erases (throw e : EStateM QueryError Traced α) (throw e) := fun _ => rfl

theorem binary_erases (op : UInt32 → UInt32 → UInt32) :
    Erases (binaryOn tracedOps op) (binary op) :=
  pop_erases.bind fun _ => pop_erases.bind fun _ => push_erases _

theorem execute_erases (f : DataFileFrameEntry) (w : UInt32) :
    Erases (executeOn tracedOps f w) (execute f w) := by
  have hnot : ∀ g : UInt32 → UInt32, Erases (tracedOps.pop >>= fun d1 => tracedOps.push (g d1))
      (pop >>= fun d1 => push (g d1)) :=
    fun g => pop_erases.bind fun _ => push_erases _
  -- the integer, the fields of the frame, then the operators
  iterate 13 refine .ite (push_erases _) ?_
  refine .ite (binary_erases _) (.ite (binary_erases _) (.ite (hnot _) ?_))
  iterate 4 refine .ite (binary_erases _) ?_
  exact throw_erases _

theorem finish_erases : Erases (finishOn tracedOps) finish := by
  intro s
  rw [finishOn, finish, bind_apply, bind_apply]
  show erase ((if s.1.stackPtr ≠ 1 then _ else _ : EStateM QueryError Traced Bool) s)
    = (if s.1.stackPtr ≠ 1 then _ else _ : QueryM Bool) s.1
  split
  · rfl
  · exact pop_erases.bind (fun data => fun _ => rfl) s

/-- **Recording the accesses changes nothing.** -/
theorem tracedMatch_erases (f : DataFileFrameEntry) : Erases (tracedMatch f) (matchQuery f) := by
  have hloop : ∀ fuel c code,
      Erases (matchLoopOn tracedOps f fuel c code) (matchLoop f fuel c code) := by
    intro fuel
    induction fuel with
    | zero => exact fun _ _ => throw_erases _
    | succ fuel ih =>
        intro c code s
        by_cases hc : c < codeSize
        · rw [matchLoopOn_step _ _ _ _ _ _ hc, ← matchLoopOn_stackOps,
            matchLoopOn_step _ _ _ _ _ _ hc]
          show erase (if s.1.code code &&& 0xff000000 = tokenNop then _ else _)
            = if s.1.code code &&& 0xff000000 = tokenNop then _ else _
          split
          · exact finish_erases s
          · refine (execute_erases f _).bind (fun _ => ?_) s
            rw [matchLoopOn_stackOps]
            exact ih _ _
        · rw [matchLoopOn_end _ _ _ _ _ _ hc, ← matchLoopOn_stackOps,
            matchLoopOn_end _ _ _ _ _ _ hc]
          rfl
  exact hloop codeSize 0 0

/-! ## The accesses of one call -/

/-- A recording computation accesses the cells of a walk. -/
structure Records {α : Type} (y : EStateM QueryError Traced α) (x : QueryM α)
    (moves : List Move) : Prop where
  erases : Erases y x
  walks : Walks x moves
  log : ∀ s, (stateOf (y s)).2 = s.2 ++ touched (stackSize - 1) moves s.1.stackPtr

theorem push_records (data : UInt32) : Records (tracedOps.push data) (push data) [.up] := by
  refine ⟨push_erases data, push_walks data, fun s => ?_⟩
  show (stateOf (traced (fun q => q.stackPtr + 1) (push data) s)).2 = _
  rw [traced, push, Lib.touched_up]
  by_cases htop : s.1.stackPtr + 1 > stackSize - 1
  · simp only [if_pos htop]
    rfl
  · simp only [if_neg htop]
    rfl

theorem pop_records : Records tracedOps.pop pop [.down] := by
  refine ⟨pop_erases, pop_walks, fun s => ?_⟩
  show (stateOf (traced (fun q => q.stackPtr) pop s)).2 = _
  rw [traced, pop, Lib.touched_down]
  by_cases hzero : s.1.stackPtr - 1 < 0
  · simp only [if_pos hzero]
    rfl
  · simp only [if_neg hzero]
    rfl

theorem Records.bind {α β : Type} {y : EStateM QueryError Traced α} {x : QueryM α}
    {g : α → EStateM QueryError Traced β} {g' : α → QueryM β} {moves moves' : List Move}
    (hy : Records y x moves) (hg : ∀ a, Records (g a) (g' a) moves') :
    Records (y >>= g) (x >>= g') (moves ++ moves') := by
  refine ⟨hy.erases.bind fun a => (hg a).erases, hy.walks.bind fun a => (hg a).walks, fun s => ?_⟩
  have hends := hy.walks s.1
  have hlog := hy.log s
  rw [← hy.erases s] at hends
  rw [bind_apply, Lib.touched_append, ← List.append_assoc, ← hlog]
  cases hrun : y s with
  | ok a s' =>
      rw [hrun] at hends
      rw [EndsAs.of_ok hends]
      exact (hg a).log s'
  | error e s' =>
      rw [hrun] at hends
      cases hw : walk (stackSize - 1) moves s.1.stackPtr with
      | inside p => exact absurd hw (EndsAs.of_error hends p)
      | below p => exact (List.append_nil _).symm
      | above p => exact (List.append_nil _).symm

theorem Token.runOn_records (f : DataFileFrameEntry) (longMax : Nat) (t : Token) :
    Records (t.runOn tracedOps f longMax) (t.run f longMax) t.moves := by
  cases t with
  | int n => exact push_records _
  | value field => exact push_records _
  | not => exact pop_records.bind fun _ => push_records _
  | operator op => exact pop_records.bind fun _ => pop_records.bind fun _ => push_records _

theorem runTokensOn_records (f : DataFileFrameEntry) (longMax : Nat) (ts : List Token) :
    Records (runTokensOn tracedOps f longMax ts) (runTokens f longMax ts)
      (ts.flatMap Token.moves) := by
  induction ts with
  | nil =>
      refine ⟨fun _ => rfl, fun q => ⟨(), q, rfl, rfl⟩, fun s => ?_⟩
      exact (List.append_nil s.2).symm
  | cons t ts ih =>
      rw [runTokensOn, runTokens, List.flatMap_cons]
      exact (t.runOn_records f longMax).bind fun _ => ih

/-- The moves of the stack pointer for the part of a query the loop gets to. -/
def queryMoves (ts : List Token) : List Move := (ts.take 32).flatMap Token.moves

/-- The cells a call accesses that finds the stack pointer at `p`. -/
def callTouched (ts : List Token) (p : Int) : List Touch :=
  touched (stackSize - 1) (queryMoves ts) p ++
    if queryWalk ts p = .inside 1 ∧ ts.length < 32 then [⟨1, false⟩] else []

/-- The stack pointer behind such a call. -/
def callPtr (ts : List Token) (p : Int) : Int :=
  match queryWalk ts p with
  | .inside e => if e = 1 ∧ ts.length < 32 then 0 else e
  | .below b => b
  | .above b => b

variable {longMax : Nat} {q : DataQuery} {ts : List Token}

theorem call_ptr (h : Runs longMax q ts) (f : DataFileFrameEntry) :
    (object (matchQuery f q)).stackPtr = callPtr ts q.stackPtr := by
  rw [callPtr]
  cases hw : queryWalk ts q.stackPtr with
  | inside e =>
      rcases call_inside h f hw with ⟨he, hlen, _, hptr⟩ | ⟨hnot, _, hptr⟩
      · rw [hptr]
        exact (if_pos ⟨he, hlen⟩).symm
      · rw [hptr]
        exact (if_neg hnot).symm
  | below b => exact (call_below h f hw).2
  | above b => exact (call_above h f hw).2

/-- The end of a query loads the value that is left, if it is the only one. -/
theorem finishOn_log (s : Traced) :
    (stateOf (finishOn tracedOps s)).2
      = s.2 ++ if s.1.stackPtr = 1 then [⟨1, false⟩] else [] := by
  rw [finishOn, bind_apply]
  show (stateOf ((if s.1.stackPtr ≠ 1 then _ else _ : EStateM QueryError Traced Bool) s)).2 = _
  by_cases hptr : s.1.stackPtr = 1
  · rw [if_neg (by simp [hptr]), if_pos hptr]
    show (stateOf ((tracedOps.pop >>= fun data => pure (data != 0)) s)).2 = _
    have hpop : tracedOps.pop s
        = .ok (s.1.stack 1) ({ s.1 with stackPtr := 0 }, s.2 ++ [⟨1, false⟩]) := by
      show traced (fun q => q.stackPtr) pop s = _
      rw [traced, pop, hptr]
      rfl
    rw [bind_apply, hpop]
    rfl
  · rw [if_pos hptr, if_neg hptr, List.append_nil]
    rfl

/-- **A call accesses the cells of the walk of its tokens**, and the one of the
result. -/
theorem call_log {s : Traced} (h : Runs longMax s.1 ts) (f : DataFileFrameEntry) :
    (stateOf (tracedMatch f s)).2 = s.2 ++ callTouched ts s.1.stackPtr := by
  obtain ⟨herases, hwalks, hlog⟩ := runTokensOn_records f longMax (ts.take 32)
  have hends := hwalks s.1
  have hlogs := hlog s
  rw [← herases s] at hends
  rw [tracedMatch, matchOn_eq tracedOps h f, callTouched, ← List.append_assoc, queryMoves, ← hlogs,
    bind_apply]
  cases hrun : runTokensOn tracedOps f longMax (ts.take 32) s with
  | ok a s' =>
      rw [hrun] at hends
      have hw : queryWalk ts s.1.stackPtr = .inside s'.1.stackPtr := EndsAs.of_ok hends
      simp only [hw, Walked.inside.injEq]
      by_cases hlen : ts.length < 32
      · simp only [hlen, and_true]
        exact finishOn_log s'
      · simp only [hlen, and_false, if_false, List.append_nil]
        rfl
  | error e s' =>
      rw [hrun] at hends
      have hw : queryWalk ts s.1.stackPtr ≠ .inside 1 := EndsAs.of_error hends 1
      have hnot : ¬ (queryWalk ts s.1.stackPtr = .inside 1 ∧ ts.length < 32) :=
        fun hboth => hw hboth.1
      simp only [if_neg hnot, List.append_nil]
      rfl

/-! ## Many calls -/

/-- The accesses of calls for the frames `fs`. -/
def accesses (q : DataQuery) (fs : List DataFileFrameEntry) : List Touch :=
  (run (fun s f => stateOf (tracedMatch f s)) (q, []) fs).2

/-- The accesses of `n` calls, the first of which finds the stack pointer at
`p`. -/
def callsTouched (ts : List Token) : Nat → Int → List Touch
  | 0, _ => []
  | n + 1, p => callTouched ts p ++ callsTouched ts n (callPtr ts p)

/-- The frames make no difference. -/
theorem accesses_eq (h : Runs longMax q ts) (fs : List DataFileFrameEntry) :
    accesses q fs = callsTouched ts fs.length q.stackPtr := by
  have hrun : ∀ (fs : List DataFileFrameEntry) (s : Traced), Runs longMax s.1 ts →
      (run (fun s f => stateOf (tracedMatch f s)) s fs).2
        = s.2 ++ callsTouched ts fs.length s.1.stackPtr := by
    intro fs
    induction fs with
    | nil => exact fun s _ => (List.append_nil s.2).symm
    | cons f fs ih =>
        intro s hs
        have hobject : (stateOf (tracedMatch f s)).1 = object (matchQuery f s.1) := by
          rw [← stateOf_erase, tracedMatch_erases]
          cases matchQuery f s.1 <;> rfl
        have hnext : Runs longMax (stateOf (tracedMatch f s)).1 ts := by
          rw [hobject]
          exact hs.call f
        show (run _ (stateOf (tracedMatch f s)) fs).2 = _
        rw [ih _ hnext, call_log hs, hobject, call_ptr hs, List.length_cons, callsTouched,
          List.append_assoc]
  exact hrun fs (q, []) h

/-! ## The closed form -/

/-- The values a call leaves on the stack: those the query does not use up,
unless it is one at the end of a query of at most 31 tokens, the result. -/
def rest (ts : List Token) : Int :=
  let left := height (queryMoves ts) (queryMoves ts).length
  if left = 1 ∧ ts.length < 32 then 0 else left

theorem queryWalk_height {p e : Int} (h : queryWalk ts p = .inside e) :
    e = p + height (queryMoves ts) (queryMoves ts).length := Lib.walk_inside_height h

/-- Behind calls that have left `n` times the rest, a call that stays inside
leaves it once more. -/
theorem callPtr_rest {n : Nat} {e : Int} (hn : 0 ≤ n * rest ts)
    (h : queryWalk ts (n * rest ts) = .inside e) :
    callPtr ts (n * rest ts) = (n + 1 : Nat) * rest ts := by
  have he := queryWalk_height h
  rw [callPtr, h]
  show (if e = 1 ∧ ts.length < 32 then 0 else e) = _
  push_cast
  rw [Int.add_mul, Int.one_mul]
  generalize hleft : height (queryMoves ts) (queryMoves ts).length = left at he
  by_cases hone : left = 1 ∧ ts.length < 32
  · -- the result is taken off, and nothing has piled up
    have hrest : rest ts = 0 := by rw [rest, hleft, if_pos hone]
    rw [hrest, Int.mul_zero] at he ⊢
    rw [if_pos ⟨by omega, hone.2⟩]
    rfl
  · have hrest : rest ts = left := by rw [rest, hleft, if_neg hone]
    rw [← hrest] at he
    split
    · next hres =>
        -- one value in all, so it is the one this call has left
        have hzero : (n : Int) * rest ts = 0 ∨ rest ts ≤ 0 := by
          rcases Int.lt_or_le 0 (rest ts) with hpos | hle
          · left
            omega
          · exact Or.inr hle
        rcases hzero with hzero | hle
        · refine absurd ⟨?_, hres.2⟩ hone
          omega
        · have hle' : (n : Int) * rest ts ≤ 0 :=
            Int.mul_nonpos_of_nonneg_of_nonpos (Int.natCast_nonneg n) hle
          omega
    · exact he

/-- The rest is what the query leaves, or nothing. -/
theorem rest_bounds {e : Int} (h : queryWalk ts 0 = .inside e) : 0 ≤ rest ts ∧ rest ts ≤ e := by
  have he := queryWalk_height h
  have hnonneg : 0 ≤ e := Lib.walk_inside_nonneg (Int.le_refl 0) h
  rw [rest]
  split <;> omega

theorem callTouched_inside {p e : Int} (hp : 0 ≤ p ∧ p ≤ stackSize - 1)
    (h : queryWalk ts p = .inside e) :
    ∀ t ∈ callTouched ts p, t.last = false ∧ 0 ≤ t.cell ∧ t.cell ≤ stackSize - 1 := by
  intro t ht
  rcases List.mem_append.mp ht with ht | ht
  · exact Lib.touched_of_inside hp h t ht
  · split at ht
    · rw [List.mem_singleton.mp ht]
      exact ⟨rfl, by decide, by decide⟩
    · cases ht

/-- For a query that stays inside on an empty stack, calls make only accesses
of a kind iff all of them stay inside; the kind includes the proper ones and
none above the array. -/
theorem callsTouched_iff {P : Touch → Prop}
    (hin : ∀ t : Touch, t.last = false → 0 ≤ t.cell → t.cell ≤ stackSize - 1 → P t)
    (hout : ∀ t : Touch, stackSize - 1 < t.cell → ¬ P t) {e : Int}
    (h : queryWalk ts 0 = .inside e) (n k : Nat) (hk : k * rest ts ≤ stackSize - 1) :
    (∀ t ∈ callsTouched ts n (k * rest ts), P t) ↔
      ∀ j < n, ∃ e, queryWalk ts ((k + j : Nat) * rest ts) = .inside e := by
  obtain ⟨hrest, hle⟩ := rest_bounds h
  induction n generalizing k with
  | zero => simp [callsTouched]
  | succ n ih =>
      have hk0 : 0 ≤ k * rest ts := Int.mul_nonneg (Int.natCast_nonneg k) hrest
      rw [callsTouched, List.forall_mem_append]
      rcases Lib.walk_inside_of_le hk0 h with hw | ⟨b, hw⟩
      · have hw' : queryWalk ts (k * rest ts) = .inside (k * rest ts + (e - 0)) := hw
        have hend := Lib.walk_inside_le hw
        have hnext : ((k + 1 : Nat) : Int) * rest ts ≤ stackSize - 1 := by
          push_cast
          rw [Int.add_mul, Int.one_mul]
          omega
        rw [callPtr_rest hk0 hw', ih (k + 1) hnext]
        constructor
        · rintro ⟨_, hall⟩ j hj
          cases j with
          | zero => exact ⟨_, hw'⟩
          | succ j =>
              rw [show k + (j + 1) = k + 1 + j by omega]
              exact hall j (by omega)
        · intro hall
          refine ⟨fun t ht => ?_, fun j hj => ?_⟩
          · obtain ⟨hlast, hlow, hhigh⟩ := callTouched_inside ⟨hk0, hk⟩ hw' t ht
            exact hin t hlast hlow hhigh
          · rw [show k + 1 + j = k + (j + 1) by omega]
            exact hall (j + 1) (by omega)
      · have hw' : queryWalk ts (k * rest ts) = .above b := hw
        refine iff_of_false (fun hboth => ?_) (fun hall => ?_)
        · obtain ⟨t, ht, _, htop⟩ := Lib.touched_of_above hw
          exact hout t htop (hboth.1 t (List.mem_append_left _ ht))
        · obtain ⟨e', he'⟩ := hall 0 (by omega)
          rw [Nat.add_zero, hw'] at he'
          cases he'

/-- The depth of the stack in `n` calls: it never falls below zero, and what
the calls before the last leave and what the last one piles up find room. -/
def Fits (ts : List Token) (n : Nat) : Prop :=
  ∀ i, 0 ≤ height (queryMoves ts) i ∧
    ((n : Int) - 1) * rest ts + height (queryMoves ts) i ≤ stackSize - 1

/-- The stack runs under on an empty stack, before it runs over. -/
def RunsUnder (ts : List Token) : Prop :=
  ∃ i, height (queryMoves ts) i < 0 ∧ ∀ j < i, height (queryMoves ts) j ≤ stackSize - 1

theorem inside_zero_iff :
    (∃ e, queryWalk ts 0 = .inside e) ↔
      ∀ i, 0 ≤ height (queryMoves ts) i ∧ height (queryMoves ts) i ≤ stackSize - 1 := by
  have := @Lib.walk_inside_iff (stackSize - 1) (queryMoves ts) 0 (by decide)
  simpa [queryWalk, queryMoves] using this

theorem runsUnder_iff : RunsUnder ts ↔ ∃ b, queryWalk ts 0 = .below b := by
  have := @Lib.walk_below_iff (stackSize - 1) (queryMoves ts) 0 (by decide)
  simpa [queryWalk, queryMoves, RunsUnder] using this.symm

/-- A call ends inside, so the next one begins there. -/
theorem mul_rest_le {e : Int} (he : queryWalk ts 0 = .inside e) {n : Nat}
    (h : ∀ j < n + 1, ∃ e, queryWalk ts (j * rest ts) = .inside e) {j : Nat} (hj : j ≤ n) :
    (j : Int) * rest ts ≤ stackSize - 1 := by
  have hle := (rest_bounds he).2
  induction j with
  | zero =>
      rw [Nat.cast_zero, Int.zero_mul]
      decide
  | succ j ih =>
      obtain ⟨e', he'⟩ := h j (by omega)
      have hend := Lib.walk_inside_le he'
      have hheight := queryWalk_height he'
      have hheight0 := queryWalk_height he
      have := ih (by omega)
      push_cast
      rw [Int.add_mul, Int.one_mul]
      omega

/-- Calls fit iff each of them stays inside. -/
theorem fits_iff (n : Nat) :
    Fits ts (n + 1) ↔ ∀ j < n + 1, ∃ e, queryWalk ts (j * rest ts) = .inside e := by
  have hcast : ((n + 1 : Nat) : Int) - 1 = n := by omega
  rw [Fits, hcast]
  constructor
  · intro h j hj
    have hrest : 0 ≤ rest ts := by
      have := (h (queryMoves ts).length).1
      rw [rest]
      split <;> omega
    have hle : (j : Int) * rest ts ≤ n * rest ts :=
      Int.mul_le_mul_of_nonneg_right (by omega) hrest
    have hj0 : 0 ≤ (j : Int) * rest ts := Int.mul_nonneg (Int.natCast_nonneg j) hrest
    have htop := (h 0).2
    rw [Lib.height_zero] at htop
    refine (Lib.walk_inside_iff ⟨hj0, by omega⟩).mpr fun i => ?_
    have := h i
    rw [queryMoves] at this
    omega
  · intro h
    obtain ⟨e, he⟩ := h 0 (by omega)
    rw [Nat.cast_zero, Int.zero_mul] at he
    have hrest := (rest_bounds he).1
    have hn0 : 0 ≤ (n : Int) * rest ts := Int.mul_nonneg (Int.natCast_nonneg n) hrest
    intro i
    have hzero := inside_zero_iff.mp ⟨e, he⟩ i
    have hlast := (Lib.walk_inside_iff ⟨hn0, mul_rest_le he h (Nat.le_refl n)⟩).mp (h n (by omega)) i
    refine ⟨hzero.1, ?_⟩
    rw [queryMoves]
    exact hlast.2

/-! ## Accesses beside the array -/

/-- The access is to a cell of `m_stack`. -/
def InArray (t : Touch) : Prop := 0 ≤ t.cell ∧ t.cell ≤ stackSize - 1

/-- A call that runs under touches what its walk touches, and leaves the stack
pointer below the array. -/
theorem callTouched_of_below {p b : Int} (h : queryWalk ts p = .below b) :
    callTouched ts p = touched (stackSize - 1) (queryMoves ts) p ∧ callPtr ts p = b := by
  rw [callTouched, callPtr, h]
  simp

theorem queryWalk_of_moves {m : Move} {moves : List Move} (h : queryMoves ts = m :: moves)
    (p : Int) : queryWalk ts p = walk (stackSize - 1) (m :: moves) p := by
  rw [← h]
  rfl

/-- From -1 the first push of a query goes to `m_stack[0]`, and the rest is a
walk from there that runs under again. -/
theorem callsTouched_up {moves : List Move} {b : Int} (hmoves : queryMoves ts = .up :: moves)
    (h : walk (stackSize - 1) moves 0 = .below b) (n : Nat) :
    ∀ t ∈ callsTouched ts n (-1), InArray t := by
  have hrest := Lib.touched_of_below (show (0 : Int) ≤ 0 ∧ 0 ≤ stackSize - 1 by decide) h
  have hminus : queryWalk ts (-1) = .below (-1) := by
    rw [queryWalk_of_moves hmoves, Lib.walk_up, if_neg (by decide)]
    show walk _ moves 0 = _
    rw [h, hrest.1]
  obtain ⟨htouched, hptr⟩ := callTouched_of_below hminus
  induction n with
  | zero => nofun
  | succ n ih =>
      rw [callsTouched, List.forall_mem_append, htouched, hptr, hmoves, Lib.touched_up,
        if_neg (by decide)]
      refine ⟨fun t ht => ?_, ih⟩
      rcases List.mem_cons.mp ht with rfl | ht
      · exact ⟨by decide, by decide⟩
      · exact hrest.2.2 t ht

/-- A query that runs under leaves the stack pointer at -1. Later calls start
there, and go wrong at once unless the query begins with a value. -/
theorem callsTouched_below {b : Int} (h : queryWalk ts 0 = .below b) (n : Nat) :
    (∀ t ∈ callsTouched ts (n + 1) 0, InArray t) ↔
      n = 0 ∨ (queryMoves ts).head? = some .up := by
  have htouch := Lib.touched_of_below (show (0 : Int) ≤ 0 ∧ 0 ≤ stackSize - 1 by decide) h
  obtain ⟨htouched, hptr⟩ := callTouched_of_below h
  rw [callsTouched, List.forall_mem_append, htouched, hptr, htouch.1]
  have hin : ∀ t ∈ touched (stackSize - 1) (queryMoves ts) 0, InArray t := htouch.2.2
  cases hmoves : queryMoves ts with
  | nil =>
      have hnil : queryWalk ts 0 = .inside 0 := by
        show walk _ (queryMoves ts) 0 = _
        rw [hmoves]
        rfl
      rw [hnil] at h
      cases h
  | cons m moves =>
      rw [hmoves] at hin
      cases m with
      | up =>
          obtain ⟨b', hb'⟩ : ∃ b', walk (stackSize - 1) moves 0 = .below b' := by
            rw [queryWalk_of_moves hmoves, Lib.walk_up, if_neg (by decide)] at h
            exact Lib.walk_below_of_le (by omega) h
          exact iff_of_true ⟨hin, callsTouched_up hmoves hb' n⟩ (Or.inr rfl)
      | down =>
          cases n with
          | zero => exact iff_of_true ⟨hin, nofun⟩ (Or.inl rfl)
          | succ n =>
              refine iff_of_false (fun hboth => ?_) (by simp)
              have hmem : (⟨-1, true⟩ : Touch) ∈ callsTouched ts (n + 1) (-1) := by
                rw [callsTouched, callTouched, hmoves, Lib.touched_down, if_pos (by decide)]
                simp
              have := (hboth.2 _ hmem).1
              simp at this

theorem inside_of_fits {n : Nat} (h : Fits ts (n + 1)) : ∃ e, queryWalk ts 0 = .inside e := by
  have h0 := (fits_iff n).mp h 0 (by omega)
  rwa [Nat.cast_zero, Int.zero_mul] at h0

/-- `callsTouched_iff` for calls from the first one on. -/
theorem callsTouched_fits {P : Touch → Prop}
    (hin : ∀ t : Touch, t.last = false → 0 ≤ t.cell → t.cell ≤ stackSize - 1 → P t)
    (hout : ∀ t : Touch, stackSize - 1 < t.cell → ¬ P t) {e : Int}
    (h : queryWalk ts 0 = .inside e) (n : Nat) :
    (∀ t ∈ callsTouched ts (n + 1) 0, P t) ↔ Fits ts (n + 1) := by
  have hcalls := callsTouched_iff hin hout h (n + 1) 0
    (by rw [Nat.cast_zero, Int.zero_mul]; decide)
  simp only [Nat.cast_zero, Int.zero_mul, Nat.zero_add] at hcalls
  rw [hcalls, fits_iff]

/-- Calls make proper accesses only iff they fit. -/
theorem callsTouched_proper_iff (n : Nat) :
    (∀ t ∈ callsTouched ts (n + 1) 0, InArray t ∧ t.last = false) ↔ Fits ts (n + 1) := by
  cases hw : queryWalk ts 0 with
  | inside e =>
      refine callsTouched_fits (fun t hlast hlow hhigh => ⟨⟨hlow, hhigh⟩, hlast⟩) ?_ hw n
      intro t htop hproper
      have := hproper.1.2
      omega
  | below b =>
      refine iff_of_false (fun hall => ?_) (fun hfits => ?_)
      · obtain ⟨_, ⟨t, ht, hlast⟩, _⟩ :=
          Lib.touched_of_below (show (0 : Int) ≤ 0 ∧ 0 ≤ stackSize - 1 by decide) hw
        have := (hall t (List.mem_append_left _ (List.mem_append_left _ ht))).2
        rw [hlast] at this
        cases this
      · obtain ⟨e, he⟩ := inside_of_fits hfits
        rw [hw] at he
        cases he
  | above b =>
      refine iff_of_false (fun hall => ?_) (fun hfits => ?_)
      · obtain ⟨t, ht, hlast, _⟩ := Lib.touched_of_above hw
        have := (hall t (List.mem_append_left _ (List.mem_append_left _ ht))).2
        rw [hlast] at this
        cases this
      · obtain ⟨e, he⟩ := inside_of_fits hfits
        rw [hw] at he
        cases he

/-- Calls access cells of the array only iff they fit, or run under and do not
begin by loading from below it. -/
theorem callsTouched_inArray_iff (n : Nat) :
    (∀ t ∈ callsTouched ts (n + 1) 0, InArray t) ↔
      Fits ts (n + 1) ∨ (RunsUnder ts ∧ (n = 0 ∨ (queryMoves ts).head? = some .up)) := by
  have hunder : RunsUnder ts ↔ ∃ b, queryWalk ts 0 = .below b := runsUnder_iff
  cases hw : queryWalk ts 0 with
  | inside e =>
      rw [hw] at hunder
      have hcalls := @callsTouched_fits ts InArray (fun t _ hlow hhigh => ⟨hlow, hhigh⟩)
        (fun t htop hin => by have := hin.2; omega) e hw n
      simp [hcalls, hunder]
  | below b =>
      rw [hw] at hunder
      have hfits : ¬ Fits ts (n + 1) := by
        intro hfits
        obtain ⟨e, he⟩ := inside_of_fits hfits
        rw [hw] at he
        cases he
      rw [callsTouched_below hw]
      simp [hfits, hunder]
  | above b =>
      rw [hw] at hunder
      refine iff_of_false (fun hall => ?_) ?_
      · obtain ⟨t, ht, _, htop⟩ := Lib.touched_of_above hw
        have := (hall t (List.mem_append_left _ (List.mem_append_left _ ht))).2
        omega
      · rintro (hfits | hbelow)
        · obtain ⟨e, he⟩ := inside_of_fits hfits
          rw [hw] at he
          cases he
        · simp [hunder] at hbelow

/-- **What `match` accesses.** In the calls for the frames `fs` on the object of
an accepted query, every access is to a cell of the array and by no push or pop
that throws iff the depths of the stack fit. Every access is to a cell of the
array iff they fit, or the stack runs under and there is but one call or the
query begins with a value. -/
theorem match_accesses_iff (longMax : Nat) (cells : Nat → UInt32) (stack : Int → UInt32)
    (query : List Char) (q : DataQuery) (hq : dataQuery longMax cells stack query = .ok q)
    (fs : List DataFileFrameEntry) :
    ((∀ t ∈ accesses q fs, InArray t ∧ t.last = false) ↔
        fs.length = 0 ∨ Fits (queryTokens query) fs.length) ∧
      ((∀ t ∈ accesses q fs, InArray t) ↔
        fs.length = 0 ∨ Fits (queryTokens query) fs.length ∨
          (RunsUnder (queryTokens query) ∧
            (fs.length = 1 ∨ (queryMoves (queryTokens query)).head? = some .up))) := by
  have hspec := dataQuery_spec longMax cells stack query
  rw [hq] at hspec
  obtain ⟨_, hruns, _, hptr⟩ := hspec
  rw [accesses_eq hruns, hptr]
  cases fs.length with
  | zero => simp [callsTouched]
  | succ n =>
      rw [callsTouched_proper_iff, callsTouched_inArray_iff]
      simp

/-- `src 5 =` is on the stack two deep and leaves its result, so any number of
calls is fine. -/
theorem match_accesses_iff_src : ∃ q,
    dataQuery (2 ^ 63 - 1) (fun _ => 0) (fun _ => 0) "src 5 =".toList = .ok q ∧
      ∀ t ∈ accesses q (List.replicate 100 frameFromFive), InArray t ∧ t.last = false := by
  have htokens : queryTokens "src 5 =".toList = [.value .src, .int 5, .operator .equal] := by
    decide
  obtain ⟨q, hq⟩ := dataQuery_accepts (2 ^ 63 - 1) (fun _ => 0) (fun _ => 0)
    (show (queryTokens "src 5 =".toList).length ≤ 126 by rw [htokens]; decide)
  refine ⟨q, hq, ?_⟩
  refine (match_accesses_iff _ _ _ _ q hq _).1.mpr (Or.inr fun i => ?_)
  rw [htokens]
  have hrest : rest [.value .src, .int 5, .operator .equal] = 0 := by decide
  have hmoves : queryMoves [.value .src, .int 5, .operator .equal]
      = [.up, .up, .down, .down, .up] := by decide
  rw [hrest, hmoves, Int.mul_zero, stackSize]
  rcases Nat.lt_or_ge i 5 with hlt | hge
  · revert i hlt
    decide
  · obtain ⟨j, rfl⟩ := Nat.exists_eq_add_of_le' hge
    simp only [Lib.height_up, Lib.height_down, Lib.height_nil]
    decide

/-- The query `1 1` leaves two values, and the eighth call stores behind the
array. The query `=` finds nothing on the stack: its first call loads a cell
before it throws, and its second one loads from below the array. -/
theorem match_leaves_array :
    (∃ q, dataQuery (2 ^ 63 - 1) (fun _ => 0) (fun _ => 0) "1 1".toList = .ok q ∧
        ⟨16, true⟩ ∈ accesses q (List.replicate 8 frameFromFive)) ∧
      ∃ q, dataQuery (2 ^ 63 - 1) (fun _ => 0) (fun _ => 0) "=".toList = .ok q ∧
        accesses q (List.replicate 2 frameFromFive) = [⟨0, true⟩, ⟨-1, true⟩] := by
  refine ⟨⟨_, rfl, ?_⟩, ⟨_, rfl, ?_⟩⟩
  · decide
  · decide

end OpenHcan.HcanData
