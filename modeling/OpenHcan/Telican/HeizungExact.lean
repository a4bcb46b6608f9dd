import OpenHcan.Telican.HeizungCommand

/-!
# HeizungExact — when a heating command is exact

A line that asks for a setting names a heating and the numbers of the mode. The
patterns are apart, so a line asks for one setting at most, and `exec` acts on
it. What the frame says are bytes and words: it says what the line asks for iff
the numbers are such (`exec_exact_iff`). The numbers of other lines are reduced
or rounded, or their conversion throws what `exec` does not catch.
-/

namespace OpenHcan.Telican

open Lib

set_option maxRecDepth 100000

/-! ## What commands send -/

/-- The computation takes back no frame. -/
def Grows {α : Type} (x : CommandM α) : Prop :=
  ∀ s, s.sent.length ≤ (stateOf (x s)).sent.length

/-- The computation sends a frame, or throws what nobody catches. -/
structure Sends {α : Type} (x : CommandM α) : Prop where
  grows : Grows x
  sends : ∀ s, (∃ s', x s = .error .badLexicalCast s') ∨
    s.sent.length < (stateOf (x s)).sent.length

theorem Grows.bind {α β : Type} {x : CommandM α} {g : α → CommandM β} (hx : Grows x)
    (hg : ∀ a, Grows (g a)) : Grows (x >>= g) :=
  rel_stateOf_bind (r := fun s s' : Console => s.sent.length ≤ s'.sent.length)
    (fun _ _ _ => Nat.le_trans) hx hg

theorem grows_pure {α : Type} (a : α) : Grows (pure a : CommandM α) := fun _ => Nat.le_refl _

theorem grows_throw {α : Type} (e : CommandError) : Grows (throw e : CommandM α) :=
  fun _ => Nat.le_refl _

theorem Grows.ite {α : Type} {c : Prop} [Decidable c] {x y : CommandM α} (hx : Grows x)
    (hy : Grows y) : Grows (if c then x else y) := by
  split
  · exact hx
  · exact hy

theorem grows_castOrThrow {α : Type} (o : Option α) : Grows (castOrThrow o) := by
  cases o with
  | none => exact grows_throw _
  | some a => exact grows_pure a

theorem grows_report (what : String) : Grows (report what) := fun _ => Nat.le_refl _

theorem sends_send (cmd : HeizungCommand) (bytes : List UInt8) : Sends (send cmd bytes) := by
  have hlt : ∀ s, s.sent.length < (stateOf (send cmd bytes s)).sent.length := by
    intro s
    show s.sent.length < (s.sent ++ [cmd.frame bytes]).length
    simp
  exact ⟨fun s => Nat.le_of_lt (hlt s), fun s => Or.inr (hlt s)⟩

theorem grows_recvFrame : Grows recvFrame := by
  intro s
  rw [recvFrame]
  split <;> exact Nat.le_refl _

theorem Grows.catchTraceable {α : Type} {x : CommandM α} {handler : String → CommandM α}
    (hx : Grows x) (hh : ∀ what, Grows (handler what)) : Grows (catchTraceable x handler) := by
  intro s
  have hs := hx s
  rw [Telican.catchTraceable]
  cases hrun : x s with
  | ok a s' =>
      rw [hrun] at hs
      exact hs
  | error e s' =>
      rw [hrun] at hs
      cases e with
      | traceable what => exact Nat.le_trans hs (hh what s')
      | badLexicalCast => exact hs

/-- A frame that has been sent stays sent. -/
theorem Sends.bind {α β : Type} {x : CommandM α} {g : α → CommandM β} (hx : Sends x)
    (hg : ∀ a, Grows (g a)) : Sends (x >>= g) := by
  refine ⟨hx.grows.bind hg, fun s => ?_⟩
  rw [bind_apply]
  rcases hx.sends s with ⟨s', hbad⟩ | hs
  · rw [hbad]
    exact Or.inl ⟨s', rfl⟩
  · right
    cases hrun : x s with
    | ok a s' =>
        rw [hrun] at hs
        exact Nat.lt_of_lt_of_le hs (hg a s')
    | error e s' =>
        rw [hrun] at hs
        exact hs

/-- What follows a conversion sends, or the conversion throws. -/
theorem sends_castOrThrow {α β : Type} (o : Option α) {g : α → CommandM β}
    (hg : ∀ a, Sends (g a)) : Sends (castOrThrow o >>= g) := by
  refine ⟨(grows_castOrThrow o).bind fun a => (hg a).grows, fun s => ?_⟩
  cases o with
  | none => exact Or.inl ⟨s, rfl⟩
  | some a => exact (hg a).sends s

theorem Sends.catchTraceable {α : Type} {x : CommandM α} {handler : String → CommandM α}
    (hx : Sends x) (hh : ∀ what, Grows (handler what)) : Sends (catchTraceable x handler) := by
  refine ⟨hx.grows.catchTraceable hh, fun s => ?_⟩
  rw [Telican.catchTraceable]
  rcases hx.sends s with ⟨s', hbad⟩ | hs
  · rw [hbad]
    exact Or.inl ⟨s', rfl⟩
  · right
    cases hrun : x s with
    | ok a s' =>
        rw [hrun] at hs
        exact hs
    | error e s' =>
        rw [hrun] at hs
        cases e with
        | traceable what => exact Nat.lt_of_lt_of_le hs (hh what s')
        | badLexicalCast => exact hs

/-! ## The commands on a heating -/

variable {cmd : HeizungCommand}

/-- The installation has no heating of the name. -/
def Unknown (cmd : HeizungCommand) (name : List Char) : Prop :=
  (cmd.heizungen.find? fun e => e.name = name) = none

theorem heizungIdByName_unknown {name : List Char} (h : Unknown cmd name) :
    heizungIdByName cmd name = throw (.traceable "query_gruppe: gruppe not found!") := by
  rw [heizungIdByName, h]

theorem grows_heizungIdByName (name : List Char) : Grows (heizungIdByName cmd name) := by
  rw [heizungIdByName]
  split
  · exact (grows_castOrThrow _).bind fun _ => grows_pure _
  · exact grows_throw _

/-- With a known name what follows sends, or the id is none. -/
theorem sends_of_known {β : Type} {name : List Char} (h : ¬ Unknown cmd name)
    {g : UInt8 → CommandM β} (hg : ∀ id, Sends (g id)) :
    Sends (heizungIdByName cmd name >>= g) := by
  rw [heizungIdByName]
  cases hfind : cmd.heizungen.find? fun e => e.name = name with
  | none => exact absurd hfind h
  | some e =>
      simp only [bind_assoc, pure_bind]
      exact sends_castOrThrow _ fun gruppe => hg gruppe.toUInt8

theorem grows_getIstTemp (cmd : HeizungCommand) (id : UInt8) : Grows (getIstTemp cmd id) := by
  have hreplay : Grows recvTistReplay := by
    refine grows_recvFrame.bind fun f => ?_
    refine (grows_throw _).ite ((grows_throw _).ite ((grows_throw _).ite (grows_pure _)))
  exact (sends_send cmd _).grows.bind fun _ => hreplay

theorem sends_getDetails (cmd : HeizungCommand) (id : UInt8) : Sends (getDetails cmd id) := by
  have hlast : Grows (getIstTemp cmd id >>= fun _ => (pure () : CommandM Unit)) :=
    (grows_getIstTemp cmd id).bind fun _ => grows_pure _
  have hmode : ∀ mode, Grows (readMode cmd id mode) := fun mode =>
    hlast.ite ((grows_pure _).ite (grows_throw _))
  exact (sends_send cmd _).bind fun _ =>
    grows_recvFrame.bind fun f => (hmode _).bind fun _ => hlast

/-- To show a heating it is asked for. -/
theorem sends_printHeizung (cmd : HeizungCommand) (id : UInt8) : Sends (printHeizung cmd id) := by
  have hname : Grows (heizungNameById cmd id) := by
    rw [heizungNameById]
    split
    · exact grows_pure _
    · exact grows_throw _
  have hdetails := ((sends_getDetails cmd id).bind fun _ => grows_pure true).catchTraceable
    (fun what => (grows_report what).bind fun _ => grows_pure false)
  exact hdetails.bind fun _ => (hname.bind fun _ => grows_pure _).ite (grows_pure _)

/-- The list asks for every heating there is. -/
theorem sends_printHeizungen (h : cmd.heizungen ≠ []) : Sends (printHeizungen cmd) := by
  have hstep : ∀ e : HeizungElement, Grows (do
      let id ← heizungIdByName cmd e.name
      printHeizung cmd id) :=
    fun e => (grows_heizungIdByName _).bind fun id => (sends_printHeizung cmd id).grows
  have hall : ∀ es : List HeizungElement, Grows (es.forM fun e => do
      let id ← heizungIdByName cmd e.name
      printHeizung cmd id) := by
    intro es
    induction es with
    | nil => exact grows_pure ()
    | cons e es ih => exact (hstep e).bind fun _ => ih
  -- the name of the first heating is known, so a board is asked for it
  obtain ⟨e, es, hes⟩ := List.exists_cons_of_ne_nil h
  have hknown : ¬ Unknown cmd e.name := by
    rw [Unknown, hes]
    simp
  rw [printHeizungen, hes]
  exact (sends_of_known hknown fun id => sends_printHeizung cmd id).bind fun _ => hall es

theorem sends_setModeManual (cmd : HeizungCommand) (seconds : Nat) {name : List Char}
    (h : ¬ Unknown cmd name) (rate duration : List Char) :
    Sends (setModeManual cmd seconds name rate duration) :=
  sends_of_known h fun _ => sends_castOrThrow _ fun _ => sends_castOrThrow _ fun _ =>
    (sends_send cmd _).bind fun _ => grows_pure true

theorem sends_setModeThermostat (cmd : HeizungCommand) (seconds : Nat) {name : List Char}
    (h : ¬ Unknown cmd name) (temp duration : List Char) :
    Sends (setModeThermostat cmd seconds name temp duration) :=
  sends_of_known h fun _ => sends_castOrThrow _ fun _ => sends_castOrThrow _ fun _ =>
    (sends_send cmd _).bind fun _ => grows_pure true

/-! ## The table of commands -/

/-- The patterns that name a heating. -/
def namePatterns : List LinePattern := [re2, re3, re4, re5, re6, re7, re8, re9, re10]

/-- Every pattern has one match at most, and no two of them have a line in
common. -/
theorem patterns_apart : (∀ p ∈ re :: namePatterns, det p = true) ∧
    (re :: namePatterns).Pairwise fun p q => apart p q = true := by
  decide

theorem map_commands (cmd : HeizungCommand) :
    (commands cmd).map Prod.fst = re :: namePatterns := rfl

theorem pattern_mem {row : LinePattern × (List (List Char) → CommandM Bool)}
    (hrow : row ∈ commands cmd) : row.1 ∈ re :: namePatterns := by
  rw [← map_commands cmd]
  exact List.mem_map_of_mem hrow

/-- The patterns with a name are those of the rows behind the first one. -/
theorem exists_row {p : LinePattern} (hp : p ∈ namePatterns) (cmd : HeizungCommand) :
    ∃ row ∈ (commands cmd).tail, row.1 = p := by
  have htail : namePatterns = (commands cmd).tail.map Prod.fst := rfl
  rw [htail] at hp
  exact List.mem_map.mp hp

/-- A row of the table for a heating with a name: the name is looked up, and for
a known one a frame is sent. -/
theorem row_of_name {row : LinePattern × (List (List Char) → CommandM Bool)}
    (hrow : row ∈ (commands cmd).tail) (groups : List (List Char)) :
    (Unknown cmd (matched groups 1) →
        ∀ s, row.2 groups s = .error (.traceable "query_gruppe: gruppe not found!") s) ∧
      (¬ Unknown cmd (matched groups 1) → Sends (row.2 groups)) := by
  have hunknown : ∀ {g : UInt8 → CommandM Bool}, Unknown cmd (matched groups 1) → ∀ s,
      (heizungIdByName cmd (matched groups 1) >>= g) s
        = .error (.traceable "query_gruppe: gruppe not found!") s := by
    intro g h s
    rw [heizungIdByName_unknown h]
    rfl
  simp only [commands, List.tail_cons, List.mem_cons, List.not_mem_nil, or_false] at hrow
  -- show, auto and aus, then three rows of manuell and three of therm
  obtain rfl | rfl | rfl | rfl | rfl | rfl | rfl | rfl | rfl := hrow
  · exact ⟨hunknown, fun h => sends_of_known h fun id =>
      (sends_printHeizung cmd id).bind fun _ => grows_pure true⟩
  · exact ⟨hunknown, fun h => sends_of_known h fun id =>
      (sends_send cmd _).bind fun _ => grows_pure true⟩
  · exact ⟨hunknown, fun h => sends_of_known h fun id =>
      (sends_send cmd _).bind fun _ => grows_pure true⟩
  · exact ⟨hunknown, fun h => sends_setModeManual cmd _ h _ _⟩
  · exact ⟨hunknown, fun h => sends_setModeManual cmd _ h _ _⟩
  · exact ⟨hunknown, fun h => sends_setModeManual cmd _ h _ _⟩
  · exact ⟨hunknown, fun h => sends_setModeThermostat cmd _ h _ _⟩
  · exact ⟨hunknown, fun h => sends_setModeThermostat cmd _ h _ _⟩
  · exact ⟨hunknown, fun h => sends_setModeThermostat cmd _ h _ _⟩

/-- `exec` reports a `traceable_error`. -/
def handler (what : String) : CommandM Bool := do
  report what
  return false

/-- A line that matches a row is executed by that row. -/
theorem exec_of_matches {row : LinePattern × (List (List Char) → CommandM Bool)}
    (hrow : row ∈ commands cmd) {line : List Char} {groups : List (List Char)}
    (h : Matches row.1 (text line) groups) :
    exec cmd line = catchTraceable (row.2 groups) handler := by
  have hdet : ∀ row ∈ commands cmd, det row.1 = true := fun row hrow =>
    patterns_apart.1 _ (pattern_mem hrow)
  have hapart : (commands cmd).Pairwise fun row row' => apart row.1 row'.1 = true := by
    have := patterns_apart.2
    rwa [← map_commands cmd, List.pairwise_map] at this
  rw [exec, firstMatch_of_mem _ hdet hapart hrow h]
  rfl

/-- A line that matches no row is an error, if it begins with the command. -/
theorem exec_of_not_matches {line : List Char}
    (h : ∀ p ∈ re :: namePatterns, ∀ groups, ¬ Matches p (text line) groups) (s : Console) :
    exec cmd line s = .ok false { s with
      cerr := s.cerr ++ if re11 (text line) then ["Error: Command not understood."] else [] } := by
  have hrows : ∀ row ∈ commands cmd, ∀ groups, ¬ Matches row.1 (text line) groups :=
    fun row hrow => h _ (pattern_mem hrow)
  rw [exec, firstMatch_eq_none _ hrows]
  cases re11 (text line) with
  | true => rfl
  | false =>
      simp
      rfl

/-! ## What a line asks for -/

/-- The mode a line asks for: the rate, the temperature and the duration in
seconds are the numbers on the line. -/
inductive Setting where
  | automatik
  | off
  | manual (rate dauer : Nat)
  | thermostat (temp : ℚ) (dauer : Nat)
deriving DecidableEq, Repr

/-- The line asks for a setting of the heating with the name. A duration without
unit is in minutes. -/
inductive Reads (line name : List Char) : Setting → Prop where
  | automatik (h : Matches re3 line [name]) : Reads line name .automatik
  | off (h : Matches re4 line [name]) : Reads line name .off
  | manualHours {rate dauer blank unit : List Char}
      (h : Matches re5 line [name, rate, dauer, blank, unit]) :
      Reads line name (.manual (decimal rate) (decimal dauer * 3600))
  | manualMinutes {rate dauer blank unit : List Char}
      (h : Matches re6 line [name, rate, dauer, blank, unit]) :
      Reads line name (.manual (decimal rate) (decimal dauer * 60))
  | manual {rate dauer : List Char} (h : Matches re7 line [name, rate, dauer]) :
      Reads line name (.manual (decimal rate) (decimal dauer * 60))
  | thermostatHours {temp dauer blank unit : List Char} {x : ℚ}
      (h : Matches re8 line [name, temp, dauer, blank, unit]) (hx : decimalNumber temp = some x) :
      Reads line name (.thermostat x (decimal dauer * 3600))
  | thermostatMinutes {temp dauer blank unit : List Char} {x : ℚ}
      (h : Matches re9 line [name, temp, dauer, blank, unit]) (hx : decimalNumber temp = some x) :
      Reads line name (.thermostat x (decimal dauer * 60))
  | thermostat {temp dauer : List Char} {x : ℚ}
      (h : Matches re10 line [name, temp, dauer]) (hx : decimalNumber temp = some x) :
      Reads line name (.thermostat x (decimal dauer * 60))

/-- The line names a heating, to show it or to set its mode. -/
def Names (line name : List Char) : Prop :=
  ∃ p ∈ namePatterns, ∃ groups, Matches p line groups ∧ matched groups 1 = name

/-- The id of the heating with the name is the number in its `gruppe`. -/
def HasId (cmd : HeizungCommand) (name : List Char) (id : UInt8) : Prop :=
  ∃ e n, (cmd.heizungen.find? fun e => e.name = name) = some e ∧
    lexicalCastUint16 e.gruppe = some n ∧ n.toNat = id.toNat

/-- The frame sets the mode of the heating, with values equal to the numbers. -/
def Says (cmd : HeizungCommand) (name : List Char) (f : CanixFrame) : Setting → Prop
  | .automatik => ∃ id, HasId cmd name id ∧ f = cmd.frame [heizungSetModeAutomatik, id]
  | .off => ∃ id, HasId cmd name id ∧ f = cmd.frame [heizungSetModeOff, id]
  | .manual rate dauer => ∃ id r hi lo, HasId cmd name id ∧
      f = cmd.frame [heizungSetModeManual, id, r, hi, lo] ∧ r.toNat = rate ∧ word hi lo = dauer
  | .thermostat temp dauer => ∃ id hi lo dauerHi dauerLo, HasId cmd name id ∧
      f = cmd.frame [heizungSetModeThermostatDetails, id, hi, lo, dauerHi, dauerLo] ∧
      (word hi lo : ℚ) = 16 * temp ∧ word dauerHi dauerLo = dauer

/-- The call is exact: it returns, and has sent the one frame the line asks for,
or has sent nothing and reported an error. -/
def Exact (cmd : HeizungCommand) (line : List Char) (s : Console)
    (r : EStateM.Result CommandError Console Bool) : Prop :=
  ∃ b s', r = .ok b s' ∧
    ((∃ name v f, Reads (text line) name v ∧ Says cmd name f v ∧ s'.sent = s.sent ++ [f]) ∨
      (s'.sent = s.sent ∧ s'.cerr ≠ s.cerr))

/-- The numbers of a setting fit the bytes of its frame: the rate a byte, the
duration a word, the temperature a word of sixteenths. -/
def Setting.Fits : Setting → Prop
  | .automatik => True
  | .off => True
  | .manual rate dauer => rate ≤ 255 ∧ dauer ≤ 65535
  | .thermostat temp dauer => (∃ k : Nat, 16 * temp = k ∧ k ≤ 65535) ∧ dauer ≤ 65535

/-- The line names no heating of the installation, asks for a setting that fits
of one with an id, or is no command. -/
def Proper (cmd : HeizungCommand) (line : List Char) : Prop :=
  (∃ name, Names (text line) name ∧ Unknown cmd name) ∨
  (∃ name v id, Reads (text line) name v ∧ HasId cmd name id ∧ v.Fits) ∨
  (re11 (text line) = true ∧ ∀ p ∈ re :: namePatterns, ∀ groups, ¬ Matches p (text line) groups)

/-! ## Exact commands -/

theorem HasId.run {name : List Char} {id : UInt8} (h : HasId cmd name id) (s : Console) :
    heizungIdByName cmd name s = .ok id s := by
  obtain ⟨e, n, hfind, hcast, hn⟩ := h
  have hid : n.toUInt8 = id := by
    apply UInt8.toNat_inj.mp
    have := id.toNat_lt
    rw [UInt16.toNat_toUInt8]
    omega
  rw [heizungIdByName, hfind]
  simp only [hcast]
  rw [← hid]
  rfl

theorem lexicalCastInt_of_lt {digits : List Char} (h : decimal digits < 2 ^ 31) :
    lexicalCastInt digits = some (decimal digits) := if_pos h

/-- A duration that fits is sent as it is. -/
theorem dauer_word {n : Nat} (h : n ≤ 65535) :
    word (hiByte (UInt16.ofNat n).toNat) (loByte (UInt16.ofNat n).toNat) = n := by
  rw [word_hiByte_loByte (UInt16.ofNat n).toNat_lt, UInt16.toNat_ofNat']
  omega

theorem setModeManual_exact {name rate dauer : List Char} {id : UInt8} {seconds : Nat}
    (hid : HasId cmd name id) (hseconds : 0 < seconds) (hrate : decimal rate ≤ 255)
    (hdauer : decimal dauer * seconds ≤ 65535) (s : Console) :
    ∃ f, Says cmd name f (.manual (decimal rate) (decimal dauer * seconds)) ∧
      setModeManual cmd seconds name rate dauer s
        = .ok true { s with sent := s.sent ++ [f] } := by
  have hsmall : decimal dauer ≤ 65535 :=
    Nat.le_trans (Nat.le_mul_of_pos_right _ hseconds) hdauer
  refine ⟨_, ⟨id, UInt8.ofNat (decimal rate), _, _, hid, rfl, ?_, dauer_word hdauer⟩, ?_⟩
  · rw [UInt8.toNat_ofNat']
    omega
  · rw [setModeManual, bind_ok (hid.run s), lexicalCastInt_of_lt (by omega),
      lexicalCastInt_of_lt (by omega)]
    rfl

/-- A temperature in sixteenths is read and converted as it is. -/
theorem lexicalCastFloat_sixteenths {temp : List Char} {x : ℚ} {k : Nat}
    (hx : decimalNumber temp = some x) (hk : 16 * x = k) (hle : k ≤ 65535) :
    ∃ t, lexicalCastFloat temp = some t ∧ t.sixteenthsOf = UInt16.ofNat k := by
  have hx16 : x = k / 16 := by
    rw [← hk]
    ring
  have hfloat : toFloat x = .sixteenths k := by
    rw [hx16]
    exact toFloat_sixteenths (by omega)
  -- neither the conversion nor the product with 16 rounds
  refine ⟨.sixteenths k, ?_, ?_⟩
  · rw [lexicalCastFloat, hx, Option.map_some, hfloat]
    rfl
  · rw [CFloat.sixteenths, CFloat.sixteenthsOf]
    have hmul : (16 : ℚ) * (k / 16) = k := by ring
    simp [hmul]

theorem setModeThermostat_exact {name temp dauer : List Char} {id : UInt8} {seconds : Nat}
    {x : ℚ} (hid : HasId cmd name id) (hseconds : 0 < seconds) (hx : decimalNumber temp = some x)
    (htemp : ∃ k : Nat, 16 * x = k ∧ k ≤ 65535) (hdauer : decimal dauer * seconds ≤ 65535)
    (s : Console) :
    ∃ f, Says cmd name f (.thermostat x (decimal dauer * seconds)) ∧
      setModeThermostat cmd seconds name temp dauer s
        = .ok true { s with sent := s.sent ++ [f] } := by
  obtain ⟨k, hk, hle⟩ := htemp
  obtain ⟨t, ht, htk⟩ := lexicalCastFloat_sixteenths hx hk hle
  have hsmall : decimal dauer ≤ 65535 :=
    Nat.le_trans (Nat.le_mul_of_pos_right _ hseconds) hdauer
  refine ⟨_, ⟨id, hiByte t.sixteenthsOf.toNat, loByte t.sixteenthsOf.toNat, _, _, hid, rfl, ?_,
    dauer_word hdauer⟩, ?_⟩
  · rw [htk, dauer_word hle, hk]
  · rw [setModeThermostat, bind_ok (hid.run s), ht, lexicalCastInt_of_lt (by omega)]
    rfl

/-- A row that returns is what `exec` does with a line of it. -/
theorem exec_of_row (i : Nat) {row : LinePattern × (List (List Char) → CommandM Bool)}
    (hrow : (commands cmd)[i]? = some row) {line : List Char} {groups : List (List Char)}
    (h : Matches row.1 (text line) groups) {b : Bool} {s s' : Console}
    (hrun : row.2 groups s = .ok b s') : exec cmd line s = .ok b s' := by
  rw [exec_of_matches (List.mem_of_getElem? hrow) h, catchTraceable, hrun]

/-- A setting that fits is sent as the line says. -/
theorem Reads.exec_exact {line name : List Char} {v : Setting} {id : UInt8}
    (h : Reads (text line) name v) (hid : HasId cmd name id) (hfits : v.Fits) (s : Console) :
    ∃ f, Says cmd name f v ∧ exec cmd line s = .ok true { s with sent := s.sent ++ [f] } := by
  cases h with
  | automatik h =>
      exact ⟨_, ⟨id, hid, rfl⟩, exec_of_row 2 rfl h (bind_ok (hid.run s) _)⟩
  | off h =>
      exact ⟨_, ⟨id, hid, rfl⟩, exec_of_row 3 rfl h (bind_ok (hid.run s) _)⟩
  | manualHours h =>
      obtain ⟨f, hsays, hrun⟩ := setModeManual_exact hid (by decide) hfits.1 hfits.2 s
      exact ⟨f, hsays, exec_of_row 4 rfl h hrun⟩
  | manualMinutes h =>
      obtain ⟨f, hsays, hrun⟩ := setModeManual_exact hid (by decide) hfits.1 hfits.2 s
      exact ⟨f, hsays, exec_of_row 5 rfl h hrun⟩
  | manual h =>
      obtain ⟨f, hsays, hrun⟩ := setModeManual_exact hid (by decide) hfits.1 hfits.2 s
      exact ⟨f, hsays, exec_of_row 6 rfl h hrun⟩
  | thermostatHours h hx =>
      obtain ⟨f, hsays, hrun⟩ := setModeThermostat_exact hid (by decide) hx hfits.1 hfits.2 s
      exact ⟨f, hsays, exec_of_row 7 rfl h hrun⟩
  | thermostatMinutes h hx =>
      obtain ⟨f, hsays, hrun⟩ := setModeThermostat_exact hid (by decide) hx hfits.1 hfits.2 s
      exact ⟨f, hsays, exec_of_row 8 rfl h hrun⟩
  | thermostat h hx =>
      obtain ⟨f, hsays, hrun⟩ := setModeThermostat_exact hid (by decide) hx hfits.1 hfits.2 s
      exact ⟨f, hsays, exec_of_row 9 rfl h hrun⟩

/-- What a frame says fits it, and the heating has an id. -/
theorem Says.fits {name : List Char} {f : CanixFrame} {v : Setting} (h : Says cmd name f v) :
    v.Fits ∧ ∃ id, HasId cmd name id := by
  cases v with
  | automatik =>
      obtain ⟨id, hid, -⟩ := h
      exact ⟨trivial, id, hid⟩
  | off =>
      obtain ⟨id, hid, -⟩ := h
      exact ⟨trivial, id, hid⟩
  | manual rate dauer =>
      obtain ⟨id, r, hi, lo, hid, -, rfl, rfl⟩ := h
      have hr := r.toNat_lt
      have hword := word_lt hi lo
      exact ⟨⟨by omega, by omega⟩, id, hid⟩
  | thermostat temp dauer =>
      obtain ⟨id, hi, lo, dauerHi, dauerLo, hid, -, htemp, rfl⟩ := h
      have hword := word_lt hi lo
      have hdauer := word_lt dauerHi dauerLo
      exact ⟨⟨⟨word hi lo, htemp.symm, by omega⟩, by omega⟩, id, hid⟩

/-- An unknown name is reported, and nothing is sent. -/
theorem exec_of_unknown {line name : List Char} (hname : Names (text line) name)
    (hunknown : Unknown cmd name) (s : Console) :
    exec cmd line s
      = .ok false { s with cerr := s.cerr ++ ["query_gruppe: gruppe not found!"] } := by
  obtain ⟨p, hp, groups, hmatch, rfl⟩ := hname
  obtain ⟨row, hrow, rfl⟩ := exists_row hp cmd
  rw [exec_of_matches (List.mem_of_mem_tail hrow) hmatch, catchTraceable,
    (row_of_name hrow groups).1 hunknown]
  rfl

/-- The row of a line whose call returns and has sent nothing does not send. -/
theorem not_sends_of_quiet {line : List Char} {s s' : Console} {b : Bool}
    (hrun : exec cmd line s = .ok b s') (hsent : s'.sent = s.sent)
    {row : LinePattern × (List (List Char) → CommandM Bool)} (hrow : row ∈ commands cmd)
    {groups : List (List Char)} (h : Matches row.1 (text line) groups) :
    ¬ Sends (row.2 groups) := by
  intro hsends
  have hhandler : ∀ what, Grows (handler what) := fun what =>
    (grows_report what).bind fun _ => grows_pure false
  rw [exec_of_matches hrow h] at hrun
  rcases (hsends.catchTraceable hhandler).sends s with ⟨s'', hbad⟩ | hlt
  · rw [hbad] at hrun
    cases hrun
  · rw [hrun, stateOf, hsent] at hlt
    exact absurd hlt (Nat.lt_irrefl _)

/-- Without heatings the list is empty. -/
theorem exec_of_no_heizungen (h : cmd.heizungen = []) {line : List Char}
    {groups : List (List Char)} (hmatch : Matches re (text line) groups) (s : Console) :
    exec cmd line s = .ok true s := by
  refine exec_of_row 0 rfl hmatch ?_
  simp only [printHeizungen, h]
  rfl

/-- A call that sends nothing and reports an error is of an unknown heating or
of no command. -/
theorem proper_of_reported {line : List Char} {s s' : Console} {b : Bool}
    (hrun : exec cmd line s = .ok b s') (hsent : s'.sent = s.sent) (hcerr : s'.cerr ≠ s.cerr) :
    Proper cmd line := by
  by_cases hmatch : ∃ p ∈ re :: namePatterns, ∃ groups, Matches p (text line) groups
  · obtain ⟨p, hp, groups, hmatch⟩ := hmatch
    rcases List.mem_cons.mp hp with rfl | hp
    · -- the list of all heatings: it asks the boards, or has nothing to report
      by_cases hempty : cmd.heizungen = []
      · rw [exec_of_no_heizungen hempty hmatch] at hrun
        cases hrun
        exact absurd rfl hcerr
      · have hlist := not_sends_of_quiet hrun hsent (List.mem_of_getElem? (i := 0) rfl) hmatch
        exact absurd ((sends_printHeizungen hempty).bind fun _ => grows_pure true) hlist
    · -- a line with a name would send, were the name known
      left
      refine ⟨matched groups 1, ⟨p, hp, groups, hmatch, rfl⟩, ?_⟩
      obtain ⟨row, hrow, rfl⟩ := exists_row hp cmd
      by_contra hknown
      exact not_sends_of_quiet hrun hsent (List.mem_of_mem_tail hrow) hmatch
        ((row_of_name hrow groups).2 hknown)
  · right
    right
    have hnone : ∀ p ∈ re :: namePatterns, ∀ groups, ¬ Matches p (text line) groups :=
      fun p hp groups h => hmatch ⟨p, hp, groups, h⟩
    rw [exec_of_not_matches hnone] at hrun
    cases hrun
    refine ⟨?_, hnone⟩
    by_contra hforeign
    simp [hforeign] at hcerr

/-- **A command is exact iff its numbers fit the frame**, or it is reported for
an unknown heating or as no command. -/
theorem exec_exact_iff (cmd : HeizungCommand) (line : List Char) (s : Console) :
    Exact cmd line s (exec cmd line s) ↔ Proper cmd line := by
  constructor
  · rintro ⟨b, s', hrun, ⟨name, v, f, hreads, hsays, -⟩ | ⟨hsent, hcerr⟩⟩
    · obtain ⟨hfits, id, hid⟩ := hsays.fits
      exact Or.inr (Or.inl ⟨name, v, id, hreads, hid, hfits⟩)
    · exact proper_of_reported hrun hsent hcerr
  · rintro (⟨name, hname, hunknown⟩ | ⟨name, v, id, hreads, hid, hfits⟩ | ⟨hpre, hnone⟩)
    · rw [exec_of_unknown hname hunknown]
      exact ⟨false, _, rfl, Or.inr ⟨rfl, by simp⟩⟩
    · obtain ⟨f, hsays, hrun⟩ := hreads.exec_exact hid hfits s
      rw [hrun]
      exact ⟨true, _, rfl, Or.inl ⟨name, v, f, hreads, hsays, rfl⟩⟩
    · rw [exec_of_not_matches hnone, if_pos hpre]
      exact ⟨false, _, rfl, Or.inr ⟨rfl, by simp⟩⟩

private def eineHeizung : HeizungCommand where
  src := 300
  heizungen := [{ name := "Kueche".toList, gruppe := "5".toList }]

private def stilleKonsole : Console := { sent := [], incoming := [], cerr := [] }

private def zwanzigStunden : List Char := "heizung Kueche manuell 50 20 h".toList

private def dreiTeile : List Char := "heizung Kueche therm 1.2.3 5".toList

/-- 20 hours are 72000 seconds, and the frame says 6464. For a number with two
points nothing is sent, and an exception leaves `exec`. -/
theorem heizung_exec_inexact :
    Reads (text zwanzigStunden) "Kueche".toList (.manual 50 72000) ∧
    exec eineHeizung zwanzigStunden stilleKonsole = .ok true
      { sent := [eineHeizung.frame [heizungSetModeManual, 5, 50, hiByte 6464, loByte 6464]]
        incoming := []
        cerr := [] } ∧
    ¬ Exact eineHeizung zwanzigStunden stilleKonsole
      (exec eineHeizung zwanzigStunden stilleKonsole) ∧
    exec eineHeizung dreiTeile stilleKonsole = .error .badLexicalCast stilleKonsole ∧
    ¬ Exact eineHeizung dreiTeile stilleKonsole
      (exec eineHeizung dreiTeile stilleKonsole) := by
  have hscan : scan re5 (text zwanzigStunden)
      = some ["Kueche".toList, "50".toList, "20".toList, " ".toList, "h".toList] := by decide
  have hrun : exec eineHeizung zwanzigStunden stilleKonsole = .ok true
      { sent := [eineHeizung.frame [heizungSetModeManual, 5, 50, hiByte 6464, loByte 6464]]
        incoming := []
        cerr := [] } := rfl
  have hbad : exec eineHeizung dreiTeile stilleKonsole = .error .badLexicalCast stilleKonsole := rfl
  refine ⟨.manualHours (scan_sound hscan), hrun, ?_, hbad, ?_⟩
  · have hre5 : ∀ {p groups}, Matches p (text zwanzigStunden) groups → p ∈ re :: namePatterns →
        re5 = p ∧ _ = groups := fun h hp =>
      eq_of_matches patterns_apart.1 patterns_apart.2 (by decide) hp (scan_sound hscan) h
    rw [hrun]
    rintro ⟨b, s', h, ⟨name, v, f, hreads, hsays, -⟩ | ⟨hsent, -⟩⟩
    · have hv : v = .manual 50 72000 := by
        cases hreads with
        | automatik h => exact absurd (hre5 h (by decide)).1 (by decide)
        | off h => exact absurd (hre5 h (by decide)).1 (by decide)
        | manualHours h =>
            cases (hre5 h (by decide)).2
            rfl
        | manualMinutes h => exact absurd (hre5 h (by decide)).1 (by decide)
        | manual h => exact absurd (hre5 h (by decide)).1 (by decide)
        | thermostatHours h => exact absurd (hre5 h (by decide)).1 (by decide)
        | thermostatMinutes h => exact absurd (hre5 h (by decide)).1 (by decide)
        | thermostat h => exact absurd (hre5 h (by decide)).1 (by decide)
      subst hv
      exact absurd hsays.fits.1.2 (by decide)
    · cases h
      cases hsent
  · rw [hbad]
    rintro ⟨b, s', h, -⟩
    cases h

end OpenHcan.Telican
