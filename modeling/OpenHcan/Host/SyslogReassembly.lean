import Mathlib.Data.List.Forall2
import OpenHcan.Host.Syslog
import OpenHcan.Lib.Demux

/-!
# SyslogReassembly — which messages arrive

The frames of all boards, in any order that keeps that of each board, against
what is printed. The loop is one automaton for each board, so a board's lines
depend on its own frames only; and a board's messages are all printed as they
were sent iff none of them is of the kinds that the guesses of the loop get
wrong.
-/

namespace OpenHcan.Syslog

open Lib

/-! ## The statement -/

/-- A call of `canix_syslog_P` on a board, with the debug level it has then. The
text is what formatting gives. -/
structure Call where
  level : UInt8
  prio : UInt8
  text : List UInt8
  noNul : 0 ∉ text
  fits : text.length ≤ 125

/-- The level lets the message through. -/
def Call.sent (c : Call) : Bool := c.prio ≤ c.level

/-- The frames of a call. -/
def Call.frames (b : UInt16) (c : Call) : List CanixFrame := canixSyslogP b c.level c.prio c.text

/-- The board of a syslog frame. -/
def board (f : CanixFrame) : Option UInt16 :=
  if f.proto = hcanProtoSyslog ∧ f.dst = hcanMulticastSyslog then some f.src else none

/-- The frames of the boards arrive in any order that keeps that of each board,
and none is lost. Frames that are no syslog frames may be among them. -/
def Interleaves (calls : UInt16 → List Call) (fs : List CanixFrame) : Prop :=
  ∀ b, fs.filter (board · = some b) = (calls b).flatMap (Call.frames b)

/-- The line has the text of the call, complete, and names its priority. -/
def Shows (l : Line) (c : Call) : Prop :=
  l.s = c.text ++ [newline] ∧ some l.prio = prioName c.prio

/-- The lines of every board are its messages, one line for each in the order
in which they were sent. -/
def Delivers (calls : UInt16 → List Call) (lines : List Line) : Prop :=
  ∀ b, List.Forall₂ Shows (lines.filter (·.src = b)) ((calls b).filter Call.sent)

/-- The priority has a name, the message does not fit in the first frame, no
later frame starts with the byte of the priority, and none but the last ends in
a return. -/
structure Deliverable (c : Call) : Prop where
  named : 1 ≤ c.prio ∧ c.prio ≤ 4
  long : 7 ≤ c.text.length
  noPrio : ∀ k, c.text[7 + 8 * k]? ≠ some c.prio
  noReturn : ∀ k, c.text[14 + 8 * k]? ≠ some newline

/-! ## One board -/

/-- What a frame adds to an open message. -/
def received (charSigned : Bool) (prio : UInt8) (bytes : List UInt8) : List UInt8 :=
  if charVal charSigned (bytes.headD 0) = prio.toNat then bytes.tail else bytes

/-- The turn of the loop for one board and a frame that is not empty. -/
def entryStep (charSigned : Bool) : Option MessageEntry → CanixFrame →
    Option MessageEntry × List Line
  | none, f => (some ⟨f.bytes.headD 0, f.bytes.tail⟩, [])
  | some it, f =>
      if (it.msg ++ received charSigned it.prio f.bytes).getLast? = some newline then
        (none, [⟨f.src, (prioName it.prio).getD "",
          it.msg ++ received charSigned it.prio f.bytes⟩])
      else (some ⟨it.prio, it.msg ++ received charSigned it.prio f.bytes⟩, [])

variable {charSigned : Bool}

theorem entryStep_some (it : MessageEntry) (f : CanixFrame) :
    entryStep charSigned (some it) f =
      if (it.msg ++ received charSigned it.prio f.bytes).getLast? = some newline then
        (none, [⟨f.src, (prioName it.prio).getD "",
          it.msg ++ received charSigned it.prio f.bytes⟩])
      else (some ⟨it.prio, it.msg ++ received charSigned it.prio f.bytes⟩, []) := rfl

/-- Only an empty frame ends the loop with an exception. -/
theorem addString_eq (it : MessageEntry) {bytes : List UInt8} (hne : bytes ≠ []) :
    addString charSigned it bytes = some (it.msg ++ received charSigned it.prio bytes) := by
  cases bytes with
  | nil => exact absurd rfl hne
  | cons x bytes =>
      rw [addString, received]
      split <;> rfl

/-- A turn of the loop is a step of the board's automaton. -/
theorem syslogTurn_eq {f : CanixFrame} (hne : ∀ b, board f = some b → f.bytes ≠ [])
    (messages : UInt16 → Option MessageEntry) :
    syslogTurn charSigned messages f = some (demux board (entryStep charSigned) messages f) := by
  rw [syslogTurn, demux]
  by_cases hsyslog : f.proto = hcanProtoSyslog ∧ f.dst = hcanMulticastSyslog
  · have hboard : board f = some f.src := by rw [board, if_pos hsyslog]
    have hbytes := hne f.src hboard
    rw [if_pos hsyslog, hboard]
    cases hit : messages f.src with
    | some it =>
        simp only [addString_eq it hbytes, hit, entryStep_some]
        split <;> rfl
    | none =>
        cases hf : f.bytes with
        | nil => exact absurd hf hbytes
        | cons x bytes => simp [substr1, hit, entryStep, hf]
  · have hboard : board f = none := by rw [board, if_neg hsyslog]
    rw [if_neg hsyslog, hboard]

theorem syslogLoop_eq {fs : List CanixFrame}
    (hne : ∀ f ∈ fs, ∀ b, board f = some b → f.bytes ≠ [])
    (messages : UInt16 → Option MessageEntry) :
    syslogLoop charSigned messages fs =
      some (emit (demux board (entryStep charSigned)) messages fs) := by
  induction fs generalizing messages with
  | nil => rfl
  | cons f fs ih =>
      rw [List.forall_mem_cons] at hne
      rw [syslogLoop, syslogTurn_eq hne.1, Option.bind_eq_bind, Option.bind_some]
      simp only [ih hne.2]
      rfl

/-- The lines of a board's automaton are the board's. -/
theorem src_of_entryStep (it : Option MessageEntry) (f : CanixFrame) (b : UInt16)
    (hboard : board f = some b) : ∀ l ∈ (entryStep charSigned it f).2, l.src = b := by
  have hsrc : f.src = b := by
    rw [board] at hboard
    split at hboard
    · exact Option.some.inj hboard
    · cases hboard
  intro l hl
  cases it with
  | none => cases hl
  | some it =>
      rw [entryStep] at hl
      split at hl
      · obtain rfl := List.mem_singleton.mp hl
        exact hsrc
      · cases hl

/-! ## An open message -/

theorem named_ne_newline {prio : UInt8} (h : 1 ≤ prio ∧ prio ≤ 4) : prio ≠ newline := by
  rintro rfl
  revert h
  decide

/-- As a `char` a priority with a name is itself. -/
theorem charVal_eq_iff {prio : UInt8} (h : 1 ≤ prio ∧ prio ≤ 4) (c : UInt8) :
    charVal charSigned c = prio.toNat ↔ c = prio := by
  have hle : prio.toNat ≤ 4 := by simpa [UInt8.le_iff_toNat_le] using h.2
  have hc := c.toNat_lt
  rw [← UInt8.toNat_inj, charVal]
  split
  · next hs =>
      simp only [Bool.and_eq_true, decide_eq_true_eq] at hs
      omega
  · omega

/-- The characters of a frame without a first byte like the priority. -/
def strip (prio : UInt8) (c : List UInt8) : List UInt8 := if c.head? = some prio then c.tail else c

theorem received_named {prio : UInt8} (h : 1 ≤ prio ∧ prio ≤ 4) {bytes : List UInt8}
    (hne : bytes ≠ []) : received charSigned prio bytes = strip prio bytes := by
  cases bytes with
  | nil => exact absurd rfl hne
  | cons x bytes =>
      rw [received, strip, List.headD_cons, List.head?_cons]
      simp only [charVal_eq_iff h, Option.some.injEq]

theorem length_strip_le (prio : UInt8) (c : List UInt8) : (strip prio c).length ≤ c.length := by
  rw [strip]
  split
  · simp
  · exact le_rfl

/-- Nothing is taken off only if there is no such byte. -/
theorem head_ne_of_length_strip {prio : UInt8} {c : List UInt8} (hne : c ≠ [])
    (h : (strip prio c).length = c.length) : c.head? ≠ some prio := by
  intro hhead
  have hpos := List.length_pos_of_ne_nil hne
  rw [strip, if_pos hhead, List.length_tail] at h
  omega

/-- A message gets a frame's bytes, all but one at least. -/
theorem length_received (prio : UInt8) (bytes : List UInt8) :
    bytes.length ≤ (received charSigned prio bytes).length + 1 := by
  rw [received]
  split
  · rw [List.length_tail]
    omega
  · omega

/-- What is printed first for an open message is not shorter than it. -/
theorem length_le_of_printed (it : MessageEntry) (fs : List CanixFrame) {l : Line} {ls : List Line}
    (h : (emit (entryStep charSigned) (some it) fs).2 = l :: ls) : it.msg.length ≤ l.s.length := by
  induction fs generalizing it with
  | nil => cases h
  | cons f fs ih =>
      rw [emit_cons, entryStep_some] at h
      split at h
      · obtain ⟨rfl, -⟩ := List.cons.inj h
        simp
      · have hlong := ih _ h
        simp only [List.length_append] at hlong
        omega

/-- No later piece starts with the byte of the priority, and none but the last
ends in a return. -/
structure Clean (prio : UInt8) (cs : List (List UInt8)) : Prop where
  heads : ∀ c ∈ cs, c.head? ≠ some prio
  lasts : ∀ c ∈ cs.dropLast, c.getLast? ≠ some newline

theorem clean_cons {prio : UInt8} {c : List UInt8} {cs : List (List UInt8)} :
    Clean prio (c :: cs) ↔
      c.head? ≠ some prio ∧ (cs ≠ [] → c.getLast? ≠ some newline) ∧ Clean prio cs := by
  constructor
  · intro h
    obtain ⟨hhead, hheads⟩ := List.forall_mem_cons.mp h.heads
    refine ⟨hhead, ?_, hheads, ?_⟩
    · intro hcs
      apply h.lasts
      rw [List.dropLast_cons_of_ne_nil hcs]
      exact List.mem_cons_self
    · intro d hd
      apply h.lasts
      have hcs : cs ≠ [] := by
        rintro rfl
        cases hd
      rw [List.dropLast_cons_of_ne_nil hcs]
      exact List.mem_cons_of_mem c hd
  · rintro ⟨hhead, hlast, hcs⟩
    refine ⟨List.forall_mem_cons.mpr ⟨hhead, hcs.heads⟩, ?_⟩
    intro d hd
    cases cs with
    | nil => cases hd
    | cons c' cs =>
        rw [List.dropLast_cons_of_ne_nil (by simp)] at hd
        obtain rfl | hd := List.mem_cons.mp hd
        · exact hlast (by simp)
        · exact hcs.lasts d hd

/-- The later pieces of a message: there is something in each of them, they fit
into frames, and the last one ends in the return. -/
structure Pieces (cs : List (List UInt8)) : Prop where
  ne_nil : ∀ c ∈ cs, c ≠ []
  fit : ∀ c ∈ cs, c.length ≤ 8
  ends : cs.flatten.getLast? = some newline

theorem Pieces.tail {c : List UInt8} {cs : List (List UInt8)} (h : Pieces (c :: cs))
    (hcs : cs ≠ []) : Pieces cs where
  ne_nil := fun d hd => h.ne_nil d (List.mem_cons_of_mem c hd)
  fit := fun d hd => h.fit d (List.mem_cons_of_mem c hd)
  ends := by
    obtain ⟨d, ds, rfl⟩ := List.exists_cons_of_ne_nil hcs
    have hd : d ≠ [] := h.ne_nil d (by simp)
    have hends := h.ends
    rw [List.flatten_cons, List.getLast?_append_of_ne_nil] at hends
    · exact hends
    · simp [hd]

theorem length_pos_of_pieces {cs : List (List UInt8)} (h : Pieces cs) : 0 < cs.flatten.length := by
  apply List.length_pos_of_ne_nil
  intro hnil
  have hends := h.ends
  rw [hnil] at hends
  cases hends

section

variable {prio : UInt8} (hprio : 1 ≤ prio ∧ prio ≤ 4) (b : UInt16) {c : List UInt8} (hne : c ≠ [])
  (hfit : c.length ≤ 8) {msg : List UInt8}
include hprio hne hfit

/-- The piece completes the message. -/
theorem entryStep_ends (h : (msg ++ strip prio c).getLast? = some newline) :
    entryStep charSigned (some ⟨prio, msg⟩) (syslogFrame b c) =
      (none, [⟨b, (prioName prio).getD "", msg ++ strip prio c⟩]) := by
  rw [entryStep_some, bytes_syslogFrame b hfit, received_named hprio hne, if_pos h]
  rfl

/-- The piece is added to the message. -/
theorem entryStep_adds (h : (msg ++ strip prio c).getLast? ≠ some newline) :
    entryStep charSigned (some ⟨prio, msg⟩) (syslogFrame b c) =
      (some ⟨prio, msg ++ strip prio c⟩, []) := by
  rw [entryStep_some, bytes_syslogFrame b hfit, received_named hprio hne, if_neg h]

end

/-- Clean pieces complete the message. -/
theorem emit_clean {prio : UInt8} (hprio : 1 ≤ prio ∧ prio ≤ 4) (b : UInt16) (msg : List UInt8)
    {cs : List (List UInt8)} (hcs : Pieces cs) (hclean : Clean prio cs) :
    emit (entryStep charSigned) (some ⟨prio, msg⟩) (cs.map (syslogFrame b)) =
      (none, [⟨b, (prioName prio).getD "", msg ++ cs.flatten⟩]) := by
  induction cs generalizing msg with
  | nil => cases hcs.ends
  | cons c cs ih =>
      obtain ⟨hhead, hlast, hclean⟩ := clean_cons.mp hclean
      have hc : c ≠ [] := hcs.ne_nil c (by simp)
      have hfit : c.length ≤ 8 := hcs.fit c (by simp)
      have hstrip : strip prio c = c := by rw [strip, if_neg hhead]
      have hends : (msg ++ strip prio c).getLast? = c.getLast? := by
        rw [hstrip, List.getLast?_append_of_ne_nil _ hc]
      rw [List.map_cons, emit_cons]
      by_cases hend : cs = []
      · subst hend
        have hnewline : c.getLast? = some newline := by simpa using hcs.ends
        rw [entryStep_ends hprio b hc hfit (hends.trans hnewline), hstrip]
        simp
      · have hgoes : (msg ++ strip prio c).getLast? ≠ some newline := by
          rw [hends]
          exact hlast hend
        rw [entryStep_adds hprio b hc hfit hgoes, ih _ (hcs.tail hend) hclean, hstrip]
        simp

/-- The last piece completes the message. -/
theorem Pieces.last_strip {prio : UInt8} (hprio : 1 ≤ prio ∧ prio ≤ 4) {c : List UInt8}
    (h : Pieces [c]) (msg : List UInt8) : (msg ++ strip prio c).getLast? = some newline := by
  have hends : c.getLast? = some newline := by simpa using h.ends
  have hstrip : (strip prio c).getLast? = some newline := by
    rw [strip]
    split
    · next hhead =>
        -- the return is not the byte that is taken off
        cases c with
        | nil => cases hends
        | cons x c =>
            obtain rfl : x = prio := by simpa using hhead
            cases c with
            | nil => exact absurd (by simpa using hends) (named_ne_newline hprio)
            | cons y c => simpa using hends
    · exact hends
  have hne : strip prio c ≠ [] := by
    intro hnil
    rw [hnil] at hstrip
    cases hstrip
  rw [List.getLast?_append_of_ne_nil _ hne]
  exact hstrip

/-- Of the pieces of a message, clean or not, something is printed; it has all
their characters only if they are clean. -/
theorem emit_pieces {prio : UInt8} (hprio : 1 ≤ prio ∧ prio ≤ 4) (b : UInt16) (msg : List UInt8)
    {cs : List (List UInt8)} (hcs : Pieces cs) :
    ∃ l ls, (emit (entryStep charSigned) (some ⟨prio, msg⟩) (cs.map (syslogFrame b))).2 = l :: ls ∧
      l.s.length ≤ msg.length + cs.flatten.length ∧
      (l.s.length = msg.length + cs.flatten.length → Clean prio cs) := by
  induction cs generalizing msg with
  | nil => cases hcs.ends
  | cons c cs ih =>
      have hc : c ≠ [] := hcs.ne_nil c (by simp)
      have hfit : c.length ≤ 8 := hcs.fit c (by simp)
      have hpos : 0 < c.length := List.length_pos_of_ne_nil hc
      have hflat : (c :: cs).flatten.length = c.length + cs.flatten.length := by simp
      have hle := length_strip_le prio c
      rw [List.map_cons, emit_cons, hflat]
      by_cases hends : (msg ++ strip prio c).getLast? = some newline
      · rw [entryStep_ends hprio b hc hfit hends]
        refine ⟨_, _, rfl, ?_, ?_⟩
        · rw [List.length_append]
          omega
        · rw [List.length_append]
          intro hall
          -- with characters left there would be too few
          have hcs' : cs = [] := by
            by_contra hcs'
            have hrest := length_pos_of_pieces (hcs.tail hcs')
            omega
          subst hcs'
          rw [clean_cons]
          refine ⟨head_ne_of_length_strip hc (by simp at hall; omega), by simp, ?_, ?_⟩
          · simp
          · simp
      · rw [entryStep_adds hprio b hc hfit hends]
        have hcs' : cs ≠ [] := by
          rintro rfl
          exact hends (hcs.last_strip hprio msg)
        obtain ⟨l, ls, hout, hle', hclean⟩ := ih (msg ++ strip prio c) (hcs.tail hcs')
        rw [List.length_append] at hle' hclean
        refine ⟨l, ls, hout, by omega, ?_⟩
        intro hall
        have hhead : c.head? ≠ some prio := head_ne_of_length_strip hc (by omega)
        rw [strip, if_neg hhead, List.getLast?_append_of_ne_nil _ hc] at hends
        exact clean_cons.mpr ⟨hhead, fun _ => hends, hclean (by omega)⟩

/-! ## A message -/

/-- The named priorities are the four of the firmware. -/
theorem prioName_isSome_iff (prio : UInt8) :
    (prioName prio).isSome = true ↔ 1 ≤ prio ∧ prio ≤ 4 := by
  rw [UInt8.le_iff_toNat_le, UInt8.le_iff_toNat_le]
  show _ ↔ 1 ≤ prio.toNat ∧ prio.toNat ≤ 4
  rw [prioName]
  split
  · next h => simp [h]
  · next h => simp [h]
  · next h => simp [h]
  · next h => simp [h]
  · next h1 h2 h3 h4 =>
      rw [imp_false] at h1 h2 h3 h4
      simp
      omega

/-- The characters behind the first frame. -/
def later (text : List UInt8) : List UInt8 := (text ++ [newline]).drop 7

theorem getElem?_later (text : List UInt8) (i : Nat) :
    (later text)[i]? = (text ++ [newline])[7 + i]? := by
  rw [later, List.getElem?_drop]

theorem length_later (text : List UInt8) : (later text).length = text.length + 1 - 7 := by
  simp [later]

/-- Behind the first frame the message is cut into pieces. -/
theorem pieces_later {text : List UInt8} (hlong : 7 ≤ text.length) :
    Pieces (fill 8 [] (later text)) where
  ne_nil := by
    apply ne_nil_of_mem_fill (by decide)
    apply List.ne_nil_of_length_pos
    rw [length_later]
    omega
  fit := length_le_of_mem_fill (by decide) _
  ends := by
    rw [flatten_fill, List.nil_append, later, List.drop_append_of_le_length hlong]
    simp

/-- The two guesses of the loop, at the places of the characters. -/
theorem clean_later_iff {c : Call} (hprio : 1 ≤ c.prio ∧ c.prio ≤ 4) :
    Clean c.prio (fill 8 [] (later c.text)) ↔
      (∀ k, c.text[7 + 8 * k]? ≠ some c.prio) ∧ (∀ k, c.text[14 + 8 * k]? ≠ some newline) := by
  have hheads : (∀ d ∈ fill 8 [] (later c.text), d.head? ≠ some c.prio) ↔
      ∀ k, c.text[7 + 8 * k]? ≠ some c.prio := by
    rw [fill_heads (by decide)]
    apply forall_congr'
    intro k
    rw [getElem?_later, List.getElem?_append]
    split
    · rfl
    · next hk =>
        -- the return is no priority
        have hnone : c.text[7 + 8 * k]? = none := List.getElem?_eq_none (by omega)
        have hne : ([newline] : List UInt8)[7 + 8 * k - c.text.length]? ≠ some c.prio := by
          intro h
          exact named_ne_newline hprio (List.mem_singleton.mp (List.mem_of_getElem? h))
        simp [hnone, hne]
  have hlasts : (∀ d ∈ (fill 8 [] (later c.text)).dropLast, d.getLast? ≠ some newline) ↔
      ∀ k, c.text[14 + 8 * k]? ≠ some newline := by
    rw [fill_lasts (by decide)]
    apply forall_congr'
    intro k
    rw [getElem?_later, length_later, show 7 + (8 * (k + 1) - 1) = 14 + 8 * k by omega]
    by_cases hk : 14 + 8 * k < c.text.length
    · rw [List.getElem?_append_left hk]
      constructor
      · intro h
        exact h (by omega)
      · intro h _
        exact h
    · rw [List.getElem?_eq_none (by omega : c.text.length ≤ 14 + 8 * k)]
      constructor
      · simp
      · intro _ hlt
        omega
  constructor
  · intro h
    exact ⟨hheads.mp h.heads, hlasts.mp h.lasts⟩
  · rintro ⟨h1, h2⟩
    exact ⟨hheads.mpr h1, hlasts.mpr h2⟩

theorem frames_of_sent (b : UInt16) {c : Call} (h : c.sent = true) :
    c.frames b = (fill 8 [c.prio] (c.text ++ [newline])).map (syslogFrame b) := by
  have hlevel : c.prio ≤ c.level := by simpa [Call.sent] using h
  rw [Call.frames, canixSyslogP, if_pos hlevel, syslogString_of_fits c.noNul c.fits]

/-- A message that fits in the first frame. -/
theorem frames_short (b : UInt16) {c : Call} (h : c.sent = true) (hshort : c.text.length < 7) :
    c.frames b = [syslogFrame b (c.prio :: (c.text ++ [newline]))] := by
  rw [frames_of_sent b h, fill_short (by simp; omega)]
  rfl

/-- A message that does not. -/
theorem frames_long (b : UInt16) {c : Call} (h : c.sent = true) (hlong : 7 ≤ c.text.length) :
    c.frames b = syslogFrame b (c.prio :: (c.text ++ [newline]).take 7) ::
      (fill 8 [] (later c.text)).map (syslogFrame b) := by
  rw [frames_of_sent b h, fill_long (by decide) (by simp) (by simp; omega)]
  rfl

/-- The first frame opens the message. -/
theorem entryStep_first (b : UInt16) (prio : UInt8) {s : List UInt8} (h : s.length ≤ 7) :
    entryStep charSigned none (syslogFrame b (prio :: s)) = (some ⟨prio, s⟩, []) := by
  rw [entryStep, bytes_syslogFrame b (by rw [List.length_cons]; omega)]
  rfl

/-- A deliverable message is printed when its last frame arrives. -/
theorem emit_deliverable (b : UInt16) {c : Call} (hsent : c.sent = true) (h : Deliverable c) :
    emit (entryStep charSigned) none (c.frames b) =
      (none, [⟨b, (prioName c.prio).getD "", c.text ++ [newline]⟩]) := by
  have hclean := (clean_later_iff h.named).mpr ⟨h.noPrio, h.noReturn⟩
  rw [frames_long b hsent h.long, emit_cons, entryStep_first b c.prio (List.length_take_le 7 _),
    emit_clean h.named b _ (pieces_later h.long) hclean, flatten_fill]
  simp [later]

/-- The frames of a message start with one that has at least two bytes. -/
theorem frames_first (b : UInt16) {c : Call} (hsent : c.sent = true) :
    ∃ s fs, c.frames b = syslogFrame b (c.prio :: s) :: fs ∧ s ≠ [] ∧ s.length ≤ 7 := by
  by_cases hlong : 7 ≤ c.text.length
  · refine ⟨_, _, frames_long b hsent hlong, ?_, List.length_take_le 7 _⟩
    apply List.ne_nil_of_length_pos
    rw [List.length_take, List.length_append]
    omega
  · refine ⟨_, _, frames_short b hsent (by omega), by simp, ?_⟩
    rw [List.length_append, List.length_singleton]
    omega

/-! ## The messages of a board -/

/-- A message that fits in the first frame stays open, and what is printed for
it has the next message behind it. -/
theorem printed_after_short (b : UInt16) (prio : UInt8) (s : List UInt8) {cs : List Call}
    (hsent : ∀ c ∈ cs, c.sent = true) {l : Line} {ls : List Line}
    (h : (emit (entryStep charSigned) (some ⟨prio, s⟩) (cs.flatMap (Call.frames b))).2 = l :: ls) :
    s.length < l.s.length := by
  cases cs with
  | nil => cases h
  | cons c cs =>
      obtain ⟨t, fs, hframes, hne, hfit⟩ := frames_first b (hsent c (by simp))
      have hpos : 0 < t.length := List.length_pos_of_ne_nil hne
      have hrec : (c.prio :: t).length ≤ (received charSigned prio (c.prio :: t)).length + 1 :=
        length_received prio _
      rw [List.length_cons] at hrec
      rw [List.flatMap_cons, hframes, List.cons_append, emit_cons, entryStep_some,
        bytes_syslogFrame b (by rw [List.length_cons]; omega)] at h
      split at h
      · obtain ⟨rfl, -⟩ := List.cons.inj h
        show _ < (s ++ received charSigned prio (c.prio :: t)).length
        rw [List.length_append]
        omega
      · have hle := length_le_of_printed _ _ h
        simp only [List.length_append] at hle
        omega

/-- If what is printed first is a board's first message, that message is
deliverable. -/
theorem deliverable_of_shown (b : UInt16) {c : Call} {cs : List Call}
    (hsent : ∀ d ∈ c :: cs, d.sent = true) {l : Line} {ls : List Line}
    (h : (emit (entryStep charSigned) none ((c :: cs).flatMap (Call.frames b))).2 = l :: ls)
    (hshow : Shows l c) : Deliverable c := by
  obtain ⟨hc, hcs⟩ := List.forall_mem_cons.mp hsent
  have hnamed : 1 ≤ c.prio ∧ c.prio ≤ 4 := by
    rw [← prioName_isSome_iff, ← hshow.2]
    rfl
  have hlen : l.s.length = c.text.length + 1 := by
    rw [hshow.1, List.length_append, List.length_singleton]
  rw [List.flatMap_cons] at h
  by_cases hlong : 7 ≤ c.text.length
  · rw [frames_long b hc hlong, List.cons_append, emit_cons,
      entryStep_first b c.prio (List.length_take_le 7 _), emit_append] at h
    obtain ⟨l', ls', hout, -, hclean⟩ :=
      @emit_pieces charSigned _ hnamed b ((c.text ++ [newline]).take 7) _ (pieces_later hlong)
    rw [hout] at h
    obtain ⟨rfl, -⟩ := List.cons.inj h
    have hall : l'.s.length = ((c.text ++ [newline]).take 7).length +
        (fill 8 [] (later c.text)).flatten.length := by
      rw [flatten_fill, List.nil_append, length_later, List.length_take, List.length_append,
        List.length_singleton]
      omega
    obtain ⟨hprio, hreturn⟩ := (clean_later_iff hnamed).mp (hclean hall)
    exact ⟨hnamed, hlong, hprio, hreturn⟩
  · -- a short message is not printed before the next one is added
    have hfit : (c.text ++ [newline]).length ≤ 7 := by
      rw [List.length_append, List.length_singleton]
      omega
    rw [frames_short b hc (by omega), List.singleton_append, emit_cons,
      entryStep_first b c.prio hfit] at h
    have hmore := printed_after_short b c.prio _ hcs h
    rw [List.length_append, List.length_singleton] at hmore
    omega

/-- The lines of a board are its messages iff all of them are deliverable. -/
theorem board_shows_iff (b : UInt16) {cs : List Call} (hsent : ∀ c ∈ cs, c.sent = true) :
    List.Forall₂ Shows (emit (entryStep charSigned) none (cs.flatMap (Call.frames b))).2 cs ↔
      ∀ c ∈ cs, Deliverable c := by
  induction cs with
  | nil => simp
  | cons c cs ih =>
      obtain ⟨hc, hcs⟩ := List.forall_mem_cons.mp hsent
      have hrest : Deliverable c →
          (List.Forall₂ Shows
              (emit (entryStep charSigned) none ((c :: cs).flatMap (Call.frames b))).2 (c :: cs) ↔
            ∀ d ∈ cs, Deliverable d) := by
        intro hd
        have hshow : Shows ⟨b, (prioName c.prio).getD "", c.text ++ [newline]⟩ c := by
          refine ⟨rfl, ?_⟩
          obtain ⟨name, hname⟩ :=
            Option.isSome_iff_exists.mp ((prioName_isSome_iff c.prio).mpr hd.named)
          rw [hname]
          rfl
        rw [List.flatMap_cons, emit_append, emit_deliverable b hc hd, ← ih hcs]
        simp [hshow]
      rw [List.forall_mem_cons]
      constructor
      · intro h
        obtain ⟨l, ls, hshow, -, hout⟩ := List.forall₂_cons_right_iff.mp h
        have hd := deliverable_of_shown b hsent hout hshow
        exact ⟨hd, (hrest hd).mp h⟩
      · rintro ⟨hd, hds⟩
        exact (hrest hd).mpr hds

/-! ## All boards -/

/-- Calls that the level stops send nothing. -/
theorem flatMap_frames_sent (b : UInt16) (cs : List Call) :
    (cs.filter Call.sent).flatMap (Call.frames b) = cs.flatMap (Call.frames b) := by
  induction cs with
  | nil => rfl
  | cons c cs ih =>
      cases hc : c.sent with
      | true => rw [List.filter_cons_of_pos hc, List.flatMap_cons, List.flatMap_cons, ih]
      | false =>
          have hlevel : ¬ c.prio ≤ c.level := by simpa [Call.sent] using hc
          have hnone : c.frames b = [] := by rw [Call.frames, canixSyslogP, if_neg hlevel]
          rw [List.filter_cons_of_neg (by simp [hc]), List.flatMap_cons, hnone, ih]
          rfl

/-- No frame of a message is empty. -/
theorem bytes_ne_nil_of_frames {b : UInt16} {cs : List Call} {f : CanixFrame}
    (h : f ∈ cs.flatMap (Call.frames b)) : f.bytes ≠ [] := by
  obtain ⟨c, _, hf⟩ := List.mem_flatMap.mp h
  rw [Call.frames, canixSyslogP] at hf
  split at hf
  · obtain ⟨d, hd, rfl⟩ := List.mem_map.mp hf
    rw [← fill_nil_cons (by decide)] at hd
    rw [bytes_syslogFrame b (length_le_of_mem_fill (by decide) _ d hd)]
    exact ne_nil_of_mem_fill (by decide) (by simp) d hd
  · cases hf

/-- **Reassembly**: every board's messages are printed, complete and in order,
iff all messages that are sent are deliverable. -/
theorem syslog_delivers_iff (charSigned : Bool) (calls : UInt16 → List Call)
    (fs : List CanixFrame) (h : Interleaves calls fs) :
    (∃ lines, syslog charSigned fs = some lines ∧ Delivers calls lines) ↔
      ∀ b, ∀ c ∈ calls b, c.sent = true → Deliverable c := by
  have hne : ∀ f ∈ fs, ∀ b, board f = some b → f.bytes ≠ [] := by
    intro f hf b hboard
    apply bytes_ne_nil_of_frames (b := b)
    rw [← h b]
    exact List.mem_filter.mpr ⟨hf, by simpa using hboard⟩
  -- the lines of a board are those of its own frames
  have hown : ∀ lines, syslog charSigned fs = some lines →
      ∀ b, lines.filter (·.src = b) =
        (emit (entryStep charSigned) none
          (((calls b).filter Call.sent).flatMap (Call.frames b))).2 := by
    intro lines hlines b
    rw [syslog, syslogLoop_eq hne] at hlines
    obtain rfl := Option.some.inj hlines
    rw [flatMap_frames_sent, ← h b]
    exact (emit_demux src_of_entryStep b fs fun _ => none).2
  have hruns : ∃ lines, syslog charSigned fs = some lines := by
    rw [syslog, syslogLoop_eq hne]
    exact ⟨_, rfl⟩
  obtain ⟨lines, hlines⟩ := hruns
  have hboard : ∀ b, List.Forall₂ Shows (lines.filter (·.src = b)) ((calls b).filter Call.sent) ↔
      ∀ c ∈ calls b, c.sent = true → Deliverable c := by
    intro b
    rw [hown lines hlines b, board_shows_iff b (fun c hc => (List.mem_filter.mp hc).2)]
    simp only [List.mem_filter, and_imp]
  constructor
  · rintro ⟨lines', hlines', hdelivers⟩ b
    obtain rfl := Option.some.inj (hlines.symm.trans hlines')
    exact (hboard b).mp (hdelivers b)
  · intro hall
    exact ⟨lines, hlines, fun b => (hboard b).mpr (hall b)⟩

/-! ### Two boards -/

/-- `EDS: done.` -/
def edsDoneText : List UInt8 := [69, 68, 83, 58, 32, 100, 111, 110, 101, 46]

theorem edsDoneText_ok : 0 ∉ edsDoneText ∧ edsDoneText.length ≤ 125 := by decide

/-- `canix_syslog_P(SYSLOG_PRIO_ERROR, PSTR("EDS: done."))` -/
def edsDone : Call := ⟨2, 2, edsDoneText, edsDoneText_ok.1, edsDoneText_ok.2⟩

/-- Two boards format their data space. -/
def edsCalls (b : UInt16) : List Call := if b = 5 ∨ b = 6 then [edsDone] else []

/-- The frames of board 6 arrive between those of board 5. -/
def edsFrames : List CanixFrame :=
  [syslogFrame 5 (2 :: edsDoneText.take 7), syslogFrame 6 (2 :: edsDoneText.take 7),
    syslogFrame 6 (edsDoneText.drop 7 ++ [newline]), syslogFrame 5 (edsDoneText.drop 7 ++ [newline])]

theorem interleaves_edsFrames : Interleaves edsCalls edsFrames := by
  intro b
  by_cases h5 : b = 5
  · subst h5
    decide
  · by_cases h6 : b = 6
    · subst h6
      decide
    · simp [edsFrames, edsCalls, board, syslogFrame, h5, h6, Ne.symm h5, Ne.symm h6]

theorem deliverable_edsDone : Deliverable edsDone where
  named := by decide
  long := by decide
  noPrio := by
    intro k
    cases k with
    | zero => decide
    | succ k =>
        rw [List.getElem?_eq_none (by show 10 ≤ _; omega)]
        simp
  noReturn := by
    intro k
    rw [List.getElem?_eq_none (by show 10 ≤ _; omega)]
    simp

/-- Both messages are printed. -/
theorem syslog_delivers_edsDone :
    ∃ lines, syslog true edsFrames = some lines ∧ Delivers edsCalls lines := by
  apply (syslog_delivers_iff true edsCalls edsFrames interleaves_edsFrames).mpr
  intro b c hc _
  rw [edsCalls] at hc
  split at hc
  · obtain rfl := List.mem_singleton.mp hc
    exact deliverable_edsDone
  · cases hc

/-! ### A short message -/

/-- `H1` -/
def shortText : List UInt8 := [72, 49]

theorem shortText_ok : 0 ∉ shortText ∧ shortText.length ≤ 125 := by decide

/-- `canix_syslog_P(SYSLOG_PRIO_DEBUG, PSTR("H%d"), 1)` -/
def shortMessage : Call := ⟨4, 4, shortText, shortText_ok.1, shortText_ok.2⟩

def shortCalls (b : UInt16) : List Call := if b = 5 then [shortMessage] else []

/-- A message in one frame is not printed. -/
theorem shortMessage_not_printed :
    Interleaves shortCalls (shortMessage.frames 5) ∧
      ¬ ∃ lines, syslog true (shortMessage.frames 5) = some lines ∧ Delivers shortCalls lines := by
  constructor
  · intro b
    by_cases h5 : b = 5
    · subst h5
      decide
    · have hframes : shortMessage.frames 5 = [syslogFrame 5 [4, 72, 49, 10]] := by decide
      simp [hframes, shortCalls, board, syslogFrame, h5, Ne.symm h5]
  · rintro ⟨lines, hlines, hdelivers⟩
    have hnone : syslog true (shortMessage.frames 5) = some [] := by decide
    obtain rfl := Option.some.inj (hnone.symm.trans hlines)
    have hboard := hdelivers 5
    have hsent : (shortCalls 5).filter Call.sent = [shortMessage] := by rfl
    rw [hsent] at hboard
    cases hboard

end OpenHcan.Syslog
