import Mathlib.Data.List.DropRight
import OpenHcan.HcanData.DataFile
import OpenHcan.HcanData.QueryHistory

/-!
# QueryFile — `hcandq`, forwards and from behind

`query_file` reads the frames of a data file through one query object.
Without `--last` it goes forwards and prints every match. With `--last n` it
goes backwards until it has n matches on a stack, and prints the stack, which
turns the order around again. The object is the same for all frames, so what
a call of `match` leaves in it matters for the next one.

How a frame is printed is left out: the output is the list of the frames that
`print_frame` was called with.
-/

namespace OpenHcan.HcanData

open Lib (bind_ok)

set_option maxRecDepth 100000

/-- What ends `hcandq` early: an exception of the file or of the query. -/
inductive ScanError where
  | file (e : FileError)
  | query (e : QueryError)
deriving DecidableEq, Repr

/-- The query object, and the frames printed so far. -/
structure Scan where
  dq : DataQuery
  printed : List DataFileFrameEntry

abbrev ScanM := EStateM ScanError Scan

/-- `df.frame(i)` -/
def scanFrame (df : DataFile) (i : Nat) : ScanM DataFileFrameEntry := fun s =>
  match df.frame i with
  | .ok fe => .ok fe s
  | .error e => .error (.file e) s

/-- `dq.match(fe)` -/
def scanMatch (fe : DataFileFrameEntry) : ScanM Bool := fun s =>
  match matchQuery fe s.dq with
  | .ok b dq => .ok b ⟨dq, s.printed⟩
  | .error e dq => .error (.query e) ⟨dq, s.printed⟩

/-- `print_frame` -/
def printFrame (fe : DataFileFrameEntry) : ScanM Unit := fun s =>
  .ok () ⟨s.dq, s.printed ++ [fe]⟩

/-- The body of the loop without `--last`. -/
def scanForward (df : DataFile) (i : Nat) : ScanM Unit := do
  let fe ← scanFrame df i
  if ← scanMatch fe then printFrame fe

/-- The loop with `--last`: the frames below `i` are still to be looked at, `n`
matches are on the stack `st`. -/
def scanBackward (df : DataFile) (last : Int) :
    Nat → Int → List DataFileFrameEntry → ScanM (List DataFileFrameEntry)
  | 0, _, st => pure st
  | i + 1, n, st => do
      if n ≥ last then return st
      let fe ← scanFrame df i
      if ← scanMatch fe then scanBackward df last i (n + 1) (fe :: st)
      else scanBackward df last i n st

/-- `query_file` behind the two constructors. -/
def scanFile (df : DataFile) (last : Int) : ScanM Unit := do
  if last ≠ 0 then
    let st ← scanBackward df last df.count.toNat 0 []
    st.forM printFrame
  else (List.range df.count.toNat).forM (scanForward df)

/-- What `hcandq` prints, and the exception that ends it if there is one. -/
structure QueryOutput where
  printed : List DataFileFrameEntry
  error : Option ScanError

/-- `query_file`; `cells` and `stack` are what the memory of the query object
holds before its constructor. -/
def queryFile (longMax : Nat) (cells : Nat → UInt32) (stack : Int → UInt32)
    (file : List UInt8) (query : List Char) (last : Int) : QueryOutput :=
  match dataFile file with
  | .error e => ⟨[], some (.file e)⟩
  | .ok df =>
      match dataQuery longMax cells stack query with
      | .error e => ⟨[], some (.query e)⟩
      | .ok dq =>
          match scanFile df last ⟨dq, []⟩ with
          | .ok _ s => ⟨s.printed, none⟩
          | .error e s => ⟨s.printed, some e⟩

/-! ## Frames -/

/-- The frame at `i`. -/
def DataFile.entry (df : DataFile) (i : Nat) : DataFileFrameEntry :=
  .ofBytes ((df.data.drop (sizeofHeader + sizeofDataBlock + sizeofEntry * i)).take sizeofEntry)

/-- The frames of the file, in order. -/
def DataFile.entries (df : DataFile) : List DataFileFrameEntry :=
  (List.range df.count.toNat).map df.entry

theorem DataFile.frame_eq (df : DataFile) {i : Nat} (h : i < df.count.toNat) :
    df.frame i = .ok (df.entry i) := by
  unfold DataFile.frame
  rw [if_neg (by omega)]
  rfl

theorem scanFrame_eq (df : DataFile) {i : Nat} (h : i < df.count.toNat) (s : Scan) :
    scanFrame df i s = .ok (df.entry i) s := by
  unfold scanFrame
  rw [df.frame_eq h]

/-! ## One object for all frames -/

/-- The object is ready for a call: the code block is loaded, and nothing is on
the stack. -/
structure Ready (longMax : Nat) (ts : List Token) (q : DataQuery) : Prop where
  runs : Runs longMax q ts
  empty : q.stackPtr = 0

/-- The value of the query for a frame, `false` where it throws. -/
def verdict (q : DataQuery) (f : DataFileFrameEntry) : Bool :=
  match outcome (matchQuery f q) with
  | .ok b => b
  | .error _ => false

section

variable {longMax : Nat} {ts : List Token} {q q' : DataQuery} {f : DataFileFrameEntry}

/-- A call that returns a value leaves the object ready. -/
theorem Ready.call (h : Ready longMax ts q) {b : Bool} (hb : outcome (matchQuery f q) = .ok b) :
    ∃ q', matchQuery f q = .ok b q' ∧ Ready longMax ts q' ∧ ts.length ≤ 31 := by
  have hvalue : ∃ q', matchQuery f q = .ok b q' := by
    cases hr : matchQuery f q with
    | ok b' q' =>
        rw [hr] at hb
        exact ⟨q', by rw [show b' = b from Except.ok.inj hb]⟩
    | error e q' =>
        rw [hr] at hb
        cases hb
  obtain ⟨q', hq'⟩ := hvalue
  have hruns : Runs longMax q' ts := by
    have hcall := h.runs.call f
    rwa [hq'] at hcall
  cases hw : queryWalk ts q.stackPtr with
  | below p =>
      rw [(call_below h.runs f hw).1] at hb
      cases hb
  | above p =>
      rw [(call_above h.runs f hw).1] at hb
      cases hb
  | inside p =>
      rcases call_inside h.runs f hw with ⟨-, hlen, -, hptr⟩ | ⟨-, hout, -⟩
      · rw [hq'] at hptr
        exact ⟨q', hq', ⟨hruns, hptr⟩, Nat.le_of_lt_succ hlen⟩
      · rw [hout] at hb
        cases hb

/-- A ready object gives what a fresh one gives. -/
theorem Ready.call_again (h : Ready longMax ts q) (h' : Ready longMax ts q')
    (hok : ∃ b, outcome (matchQuery f q) = .ok b) :
    ∃ q'', matchQuery f q' = .ok (verdict q f) q'' ∧ Ready longMax ts q'' := by
  obtain ⟨b, hb⟩ := hok
  have hverdict : verdict q f = b := by
    unfold verdict
    rw [hb]
  obtain ⟨-, -, -, hlen⟩ := h.call hb
  -- both calls compute the reference value
  have hsame := (match_short h'.runs h'.empty hlen f).trans (match_short h.runs h.empty hlen f).symm
  rw [hb] at hsame
  have hb' : outcome (matchQuery f q') = .ok b := by
    cases hout : outcome (matchQuery f q') with
    | ok b' =>
        rw [hout] at hsame
        rw [show b' = b from Option.some.inj hsame]
    | error e =>
        rw [hout] at hsame
        cases hsame
  obtain ⟨q'', hq'', hready, -⟩ := h'.call hb'
  exact ⟨q'', by rw [hq'', hverdict], hready⟩

end

/-! ## The two loops -/

section

variable {longMax : Nat} {ts : List Token} {q : DataQuery} {df : DataFile}

/-- A query that does not throw on any frame of the file. -/
def NeverThrows (q : DataQuery) (df : DataFile) : Prop :=
  ∀ i < df.count.toNat, ∃ b, outcome (matchQuery (df.entry i) q) = .ok b

theorem scanMatch_eq (h : Ready longMax ts q) (hok : NeverThrows q df) {i : Nat}
    (hi : i < df.count.toNat) {s : Scan} (hs : Ready longMax ts s.dq) :
    ∃ dq, scanMatch (df.entry i) s = .ok (verdict q (df.entry i)) ⟨dq, s.printed⟩ ∧
      Ready longMax ts dq := by
  obtain ⟨dq, hmatch, hready⟩ := h.call_again hs (hok i hi)
  refine ⟨dq, ?_, hready⟩
  unfold scanMatch
  rw [hmatch]

theorem scanForward_eq (h : Ready longMax ts q) (hok : NeverThrows q df) {i : Nat}
    (hi : i < df.count.toNat) {s : Scan} (hs : Ready longMax ts s.dq) :
    ∃ dq, scanForward df i s =
        .ok () ⟨dq, s.printed ++ [df.entry i].filter (verdict q)⟩ ∧ Ready longMax ts dq := by
  obtain ⟨dq, hmatch, hready⟩ := scanMatch_eq h hok hi hs
  refine ⟨dq, ?_, hready⟩
  unfold scanForward
  rw [bind_ok (scanFrame_eq df hi s), bind_ok hmatch]
  cases hv : verdict q (df.entry i) with
  | true => simp [hv, printFrame]
  | false =>
      simp [hv]
      rfl

/-- The loop without `--last` prints the matches among the frames it visits. -/
theorem forM_scanForward (h : Ready longMax ts q) (hok : NeverThrows q df) (is : List Nat)
    (his : ∀ i ∈ is, i < df.count.toNat) (s : Scan) (hs : Ready longMax ts s.dq) :
    ∃ dq, is.forM (scanForward df) s =
        .ok () ⟨dq, s.printed ++ (is.map df.entry).filter (verdict q)⟩ ∧ Ready longMax ts dq := by
  induction is generalizing s with
  | nil => exact ⟨s.dq, by rw [List.map_nil, List.filter_nil, List.append_nil]; rfl, hs⟩
  | cons i is ih =>
      obtain ⟨dq, hone, hready⟩ := scanForward_eq h hok (his i List.mem_cons_self) hs
      obtain ⟨dq', hrest, hready'⟩ :=
        ih (fun j hj => his j (List.mem_cons_of_mem i hj)) ⟨dq, _⟩ hready
      refine ⟨dq', ?_, hready'⟩
      have hcons : (i :: is).forM (scanForward df) =
          (scanForward df i >>= fun _ => is.forM (scanForward df)) := rfl
      rw [hcons, bind_ok hone, hrest, List.append_assoc, ← List.filter_append]
      rfl

/-- The matches among the frames below `i`. -/
def matchesBelow (q : DataQuery) (df : DataFile) (i : Nat) : List DataFileFrameEntry :=
  ((List.range i).map df.entry).filter (verdict q)

theorem matchesBelow_succ (q : DataQuery) (df : DataFile) (i : Nat) :
    matchesBelow q df (i + 1) =
      if verdict q (df.entry i) then matchesBelow q df i ++ [df.entry i]
      else matchesBelow q df i := by
  unfold matchesBelow
  rw [List.range_succ, List.map_append, List.filter_append, List.map_singleton]
  cases hv : verdict q (df.entry i) with
  | true => simp [hv]
  | false => simp [hv]

/-- The loop with `--last` puts as many matches on the stack as are missing, the
last ones below `i`, and the lowest on top. -/
theorem scanBackward_eq (h : Ready longMax ts q) (hok : NeverThrows q df) (last : Int) (i : Nat)
    (hi : i ≤ df.count.toNat) (n : Int) (st : List DataFileFrameEntry) (s : Scan)
    (hs : Ready longMax ts s.dq) :
    ∃ dq, scanBackward df last i n st s =
        .ok ((matchesBelow q df i).rtake (last - n).toNat ++ st) ⟨dq, s.printed⟩ ∧
      Ready longMax ts dq := by
  induction i generalizing n st s with
  | zero => exact ⟨s.dq, by simp [matchesBelow, scanBackward, List.rtake_nil]; rfl, hs⟩
  | succ i ih =>
      unfold scanBackward
      by_cases hn : n ≥ last
      · -- enough matches: nothing is missing
        have hzero : (last - n).toNat = 0 := by omega
        rw [if_pos hn, hzero, List.rtake_zero]
        exact ⟨s.dq, rfl, hs⟩
      have hstep : (last - n).toNat = (last - (n + 1)).toNat + 1 := by omega
      obtain ⟨dq, hmatch, hready⟩ := scanMatch_eq h hok (i := i) (by omega) hs
      rw [if_neg hn, matchesBelow_succ, bind_ok (scanFrame_eq df (by omega) s), bind_ok hmatch]
      cases verdict q (df.entry i) with
      | true =>
          obtain ⟨dq', hrest, hready'⟩ :=
            ih (by omega) (n + 1) (df.entry i :: st) ⟨dq, s.printed⟩ hready
          refine ⟨dq', ?_, hready'⟩
          rw [if_pos rfl, if_pos rfl, hrest, hstep, List.rtake_concat_succ, List.append_assoc]
          rfl
      | false => exact ih (by omega) n st ⟨dq, s.printed⟩ hready

theorem forM_printFrame (st : List DataFileFrameEntry) (s : Scan) :
    st.forM printFrame s = .ok () ⟨s.dq, s.printed ++ st⟩ := by
  induction st generalizing s with
  | nil => rw [List.append_nil]; rfl
  | cons fe st ih =>
      have hcons : (fe :: st).forM printFrame =
          (printFrame fe >>= fun _ => st.forM printFrame) := rfl
      have hone : printFrame fe s = .ok () ⟨s.dq, s.printed ++ [fe]⟩ := rfl
      rw [hcons, bind_ok hone, ih, List.append_assoc]
      rfl

theorem scanFile_all (h : Ready longMax ts q) (hok : NeverThrows q df) :
    ∃ dq, scanFile df 0 ⟨q, []⟩ = .ok () ⟨dq, df.entries.filter (verdict q)⟩ := by
  obtain ⟨dq, hall, -⟩ := forM_scanForward h hok (List.range df.count.toNat)
    (fun i hi => List.mem_range.mp hi) ⟨q, []⟩ h
  refine ⟨dq, ?_⟩
  unfold scanFile
  rw [if_neg (by decide), hall]
  rfl

theorem scanFile_last (h : Ready longMax ts q) (hok : NeverThrows q df) {last : Int}
    (hlast : 1 ≤ last) :
    ∃ dq, scanFile df last ⟨q, []⟩ =
      .ok () ⟨dq, (df.entries.filter (verdict q)).rtake last.toNat⟩ := by
  obtain ⟨dq, hback, -⟩ := scanBackward_eq h hok last df.count.toNat (Nat.le_refl _) 0 []
    ⟨q, []⟩ h
  rw [List.append_nil, Int.sub_zero] at hback
  refine ⟨dq, ?_⟩
  unfold scanFile
  rw [if_pos (by omega), bind_ok hback, forM_printFrame]
  rfl

end

/-- **The last n**: `--last n` prints the last n of the frames that are printed
without it, in the same order. -/
theorem query_last (longMax : Nat) (cells : Nat → UInt32) (stack : Int → UInt32)
    (file : List UInt8) (query : List Char) (df : DataFile) (q : DataQuery)
    (hfile : dataFile file = .ok df) (hquery : dataQuery longMax cells stack query = .ok q)
    (hok : NeverThrows q df) (n : Int) (hn : 1 ≤ n) :
    queryFile longMax cells stack file query 0 = ⟨df.entries.filter (verdict q), none⟩ ∧
      queryFile longMax cells stack file query n =
        ⟨(df.entries.filter (verdict q)).rtake n.toNat, none⟩ := by
  have hspec := dataQuery_spec longMax cells stack query
  rw [hquery] at hspec
  obtain ⟨-, hruns, -, hptr⟩ := hspec
  have hready : Ready longMax (queryTokens query) q := ⟨hruns, hptr⟩
  obtain ⟨dq, hall⟩ := scanFile_all hready hok
  obtain ⟨dq', hlast⟩ := scanFile_last hready hok hn
  unfold queryFile
  constructor
  · rw [hfile]
    dsimp only
    rw [hquery]
    dsimp only
    rw [hall]
  · rw [hfile]
    dsimp only
    rw [hquery]
    dsimp only
    rw [hlast]

/-! ### Three frames -/

section Example

/-- Three frames, two of them from address 5. -/
private def dreiFrames : DataFile :=
  ⟨headerBlock.bytes ++ (newDataBlock 0).bytes ++ frameFromFive.bytes ++
    DataFileFrameEntry.bytes ⟨1, 6, 0, 1, 0, Vector.replicate 8 0⟩ ++
    DataFileFrameEntry.bytes ⟨2, 5, 0, 1, 0, Vector.replicate 8 0⟩⟩

/-- The last frame from address 5. -/
theorem query_last_src : ∃ q,
    dataQuery (2 ^ 63 - 1) (fun _ => 0) (fun _ => 0) "src 5 =".toList = .ok q ∧
      queryFile (2 ^ 63 - 1) (fun _ => 0) (fun _ => 0) dreiFrames.data "src 5 =".toList 0 =
        ⟨dreiFrames.entries.filter (verdict q), none⟩ ∧
      queryFile (2 ^ 63 - 1) (fun _ => 0) (fun _ => 0) dreiFrames.data "src 5 =".toList 1 =
        ⟨(dreiFrames.entries.filter (verdict q)).rtake 1, none⟩ := by
  have htokens : queryTokens "src 5 =".toList = [.value .src, .int 5, .operator .equal] :=
    queryTokens_eq (by decide)
  obtain ⟨q, hq⟩ := dataQuery_accepts (2 ^ 63 - 1) (fun _ => 0) (fun _ => 0)
    (show (queryTokens "src 5 =".toList).length ≤ 126 by rw [htokens]; decide)
  have hspec := dataQuery_spec (2 ^ 63 - 1) (fun _ => 0) (fun _ => 0) "src 5 =".toList
  rw [hq, htokens] at hspec
  have hok : NeverThrows q dreiFrames := by
    intro i _
    have hvalue := match_short hspec.2.1 hspec.2.2.2 (by decide) (dreiFrames.entry i)
    cases hout : outcome (matchQuery (dreiFrames.entry i) q) with
    | ok b => exact ⟨b, rfl⟩
    | error e =>
        -- a comparison of two values has a value, whatever the frame
        rw [hout] at hvalue
        cases hvalue
  exact ⟨q, hq, query_last _ _ _ _ _ dreiFrames q (by decide) hq hok 1 (by decide)⟩

end Example

end OpenHcan.HcanData
