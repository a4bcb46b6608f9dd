import Mathlib.Data.List.Perm.Basic
import OpenHcan.Lib.WordSearch
import OpenHcan.OneWire.RomBits

/-!
# Discover — every device is reported once

On a bus of devices a search is a walk through the set of their ids: the bus
holds the words that are left, `i` the position and `next_diff` the last
branch. The passes of `ow_discover` are the walks that find all words.
-/

namespace OpenHcan.OneWire

open Lib Lib.WordSearch

set_option maxRecDepth 100000

section

variable {s : Search} {w : Walk} {diff : UInt8} {byte : UInt8}

/-! ## One bit -/

/-- The words of the devices, from a bit on. -/
def wordsFrom (k : Nat) (rs : List Rom) : List Word := rs.map fun r => (romBits r).drop k

theorem wordsFrom_head {k : Nat} (hk : k < 64) (r : Rom) :
    ((romBits r).drop k).head? = some (romBit r k) := by
  have hlen : k < (romBits r).length := by rw [romBits_length]; exact hk
  unfold romBit
  rw [List.head?_drop, List.getD_eq_getElem?_getD, List.getElem?_eq_getElem hlen]
  rfl

theorem allBegin_wordsFrom {k : Nat} (hk : k < 64) (b : Bool) (rs : List Rom) :
    allBegin b (wordsFrom k rs) = rs.all fun r => romBit r k = b := by
  unfold allBegin wordsFrom
  rw [List.all_map]
  apply List.all_congr rfl
  intro r
  show decide (((romBits r).drop k).head? = some b) = _
  rw [wordsFrom_head hk]
  simp

/-- Writing a bit leaves the words that begin with it. -/
theorem rest_wordsFrom {k : Nat} (hk : k < 64) (b : Bool) (rs : List Rom) :
    rest b (wordsFrom k rs) = wordsFrom (k + 1) (rs.filter fun r => romBit r k = b) := by
  have hfilter : rs.filter (fun r => ((romBits r).drop k).head? = some b) =
      rs.filter fun r => romBit r k = b := by
    apply List.filter_congr
    intro r _
    rw [wordsFrom_head hk]
    simp
  unfold rest wordsFrom
  rw [List.filter_map, List.map_map]
  show (rs.filter fun r => ((romBits r).drop k).head? = some b).map _ = _
  rw [hfilter]
  apply List.map_congr_left
  intro r _
  exact List.tail_drop

theorem wordsFrom_length (k : Nat) (rs : List Rom) : ∀ w ∈ wordsFrom k rs, w.length = 64 - k := by
  intro w hw
  obtain ⟨r, -, rfl⟩ := List.mem_map.mp hw
  rw [List.length_drop, romBits_length]

/-! ## The bus in a search -/

variable {devices selected : List Rom} {k : Nat}

theorem owBitIo_bit (hk : k < 64) : owBitIo ⟨devices, selected, .bit k⟩ true =
    (allBegin true (wordsFrom k selected), ⟨devices, selected, .complement k⟩) := by
  have hall : (selected.all fun r => romBit r k) = allBegin true (wordsFrom k selected) := by
    rw [allBegin_wordsFrom hk]
    apply List.all_congr rfl
    intro r
    simp
  exact congrArg (·, (⟨devices, selected, .complement k⟩ : Bus)) hall

theorem owBitIo_complement (hk : k < 64) : owBitIo ⟨devices, selected, .complement k⟩ true =
    (allBegin false (wordsFrom k selected), ⟨devices, selected, .direction k⟩) := by
  have hall : (selected.all fun r => !romBit r k) = allBegin false (wordsFrom k selected) := by
    rw [allBegin_wordsFrom hk]
    apply List.all_congr rfl
    intro r
    simp
  exact congrArg (·, (⟨devices, selected, .direction k⟩ : Bus)) hall

theorem owBitIo_direction (b : Bool) : owBitIo ⟨devices, selected, .direction k⟩ b =
    (b, ⟨devices, selected.filter fun r => romBit r k = b,
      if k + 1 < 64 then .bit (k + 1) else .idle⟩) := by
  cases b with
  | true => rfl
  | false => rfl

/-- The bus holds the words of the walk. -/
structure Follows (devices : List Rom) (s : Search) (w : Walk) : Prop where
  devices : s.bus.devices = devices
  pos_le : w.pos ≤ 64
  slot : s.bus.slot = if w.pos = 0 then .idle else .bit (64 - w.pos)
  words : w.words = wordsFrom (64 - w.pos) s.bus.selected
  ne_nil : w.words ≠ []
  i : s.i.toNat = w.pos
  last : s.nextDiff.toNat = w.last

theorem Follows.words_length (h : Follows devices s w) : ∀ v ∈ w.words, v.length = w.pos := by
  have hpos := h.pos_le
  intro v hv
  rw [h.words] at hv
  rw [wordsFrom_length _ _ v hv]
  omega

/-- The condition of the source is that of the walk. -/
theorem Follows.cond (h : Follows devices s w) (diff : UInt8) (q : Prop) [Decidable q] :
    (diff > s.i ∨ q ∧ diff ≠ s.i) ↔
      (diff.toNat > w.pos ∨ decide q = true ∧ diff.toNat ≠ w.pos) := by
  rw [← h.i, gt_iff_lt, UInt8.lt_iff_toNat_lt, ne_eq, ← UInt8.toNat_inj, decide_eq_true_iff]

/-- The source turns where the walk turns. -/
theorem Follows.turn (h : Follows devices s w) (diff : UInt8) (q : Prop) [Decidable q] :
    (allBegin false w.words = false ∧ allBegin true w.words = false ∧
        (diff > s.i ∨ q ∧ diff ≠ s.i)) ↔
      turns diff.toNat w.pos w.words (decide q) = true := by
  rw [h.cond]
  unfold turns branches letter
  cases allBegin true w.words with
  | true => simp
  | false =>
      cases allBegin false w.words with
      | true => simp
      | false => simp

/-- The source writes the letter of the walk. -/
theorem Follows.letter (h : Follows devices s w) (diff : UInt8) (q : Prop) [Decidable q] :
    (allBegin true w.words || decide (allBegin false w.words = false ∧
        allBegin true w.words = false ∧ (diff > s.i ∨ q ∧ diff ≠ s.i))) =
      WordSearch.letter diff.toNat w.pos w.words (decide q) := by
  unfold WordSearch.letter
  simp only [h.cond diff q]
  cases allBegin true w.words with
  | true => simp
  | false =>
      cases allBegin false w.words with
      | true => simp
      | false => simp

/-- **One bit** of a search is one letter of the walk. -/
theorem Follows.step (h : Follows devices s w) (diff byte : UInt8) (hpos : w.pos ≠ 0) :
    ∃ s', searchBit diff s byte =
        .ok (shiftIn byte (WordSearch.letter diff.toNat w.pos w.words (byte &&& 1 ≠ 0)), s') ∧
      Follows devices s' (w.next diff.toNat (byte &&& 1 ≠ 0)) := by
  have hle := h.pos_le
  have hk : 64 - w.pos < 64 := by omega
  have hturn := h.turn diff (byte &&& 1 ≠ 0)
  have hletter := h.letter diff (byte &&& 1 ≠ 0)
  obtain ⟨⟨devices', selected, slot⟩, i, nextDiff⟩ := s
  obtain rfl : devices' = devices := h.devices
  obtain rfl : slot = .bit (64 - w.pos) := h.slot.trans (if_neg hpos)
  have hwords : w.words = wordsFrom (64 - w.pos) selected := h.words
  have hboth : ¬ (allBegin false w.words = true ∧ allBegin true w.words = true) := by
    rintro ⟨hfalse, htrue⟩
    exact not_allBegin (by decide) h.ne_nil htrue hfalse
  unfold searchBit
  dsimp only
  rw [owBitIo_bit hk]
  dsimp only
  rw [owBitIo_complement hk, ← hwords]
  dsimp only
  rw [if_neg hboth, hletter, owBitIo_direction]
  -- the fields of `Follows` one after the other: position, slot, words, `i`, `next_diff`
  refine ⟨_, rfl, rfl, ?_, ?_, ?_, ?_, ?_, ?_⟩
  · exact Nat.le_trans (Nat.sub_le _ 1) hle
  · show (if 64 - w.pos + 1 < 64 then Slot.bit (64 - w.pos + 1) else .idle) =
      if w.pos - 1 = 0 then .idle else .bit (64 - (w.pos - 1))
    by_cases hone : w.pos - 1 = 0
    · rw [if_pos hone, if_neg (by omega)]
    · rw [if_neg hone, if_pos (by omega), show 64 - w.pos + 1 = 64 - (w.pos - 1) by omega]
  · show rest _ w.words = wordsFrom (64 - (w.pos - 1)) _
    rw [hwords, rest_wordsFrom hk, show 64 - w.pos + 1 = 64 - (w.pos - 1) by omega]
  · obtain ⟨n, hn⟩ := Nat.exists_eq_succ_of_ne_zero hpos
    exact rest_letter_ne_nil h.ne_nil (fun v hv => (h.words_length v hv).trans hn) _ _ _
  · have hi : i.toNat = w.pos := h.i
    show (i - 1).toNat = w.pos - 1
    rw [UInt8.toNat_sub_of_le, hi]
    · rfl
    · rw [UInt8.le_iff_toNat_le, hi]
      exact Nat.one_le_iff_ne_zero.mpr hpos
  · show UInt8.toNat (if _ then i else nextDiff) = if turns _ _ _ _ = true then w.pos else w.last
    by_cases hyes : turns diff.toNat w.pos w.words (decide (byte &&& 1 ≠ 0)) = true
    · rw [if_pos (hturn.mpr hyes), if_pos hyes]
      exact h.i
    · rw [if_neg (fun hno => hyes (hturn.mp hno)), if_neg hyes]
      exact h.last

/-! ## One byte, one id -/

/-- **The bits of a byte**: the first `j` bits of the queue are walked along, and the
letters chosen are its last bits. -/
theorem searchByte_follows (diff : UInt8) (ps : Word) :
    ∀ {s : Search} {w : Walk} {byte : UInt8} (rs : Word),
      Follows devices s w → byteBits byte = ps ++ rs → ps.length ≤ w.pos →
        ∃ byte' s', searchByte diff ps.length s byte = .ok (byte', s') ∧
          byteBits byte' = rs ++ (w.along diff.toNat ps).1 ∧
          Follows devices s' (w.along diff.toNat ps).2 := by
  induction ps with
  | nil =>
      intro s w byte rs h hbyte _
      exact ⟨byte, s, rfl, hbyte.trans (List.append_nil rs).symm, h⟩
  | cons p ps ih =>
      intro s w byte rs h hbyte hlen
      rw [List.length_cons] at hlen
      -- the lowest bit is the letter of the word before
      have hp : p = decide (byte &&& 1 ≠ 0) := by
        have hhead := byteBits_head (b := byte)
        rw [hbyte] at hhead
        exact Option.some.inj hhead
      obtain ⟨s', hbit, hs'⟩ := h.step diff byte (by omega)
      rw [← hp] at hbit hs'
      have hqueue : byteBits (shiftIn byte (letter diff.toNat w.pos w.words p)) =
          ps ++ (rs ++ [letter diff.toNat w.pos w.words p]) := by
        rw [byteBits_shiftIn, hbyte, List.cons_append, List.tail_cons, List.append_assoc]
      have hrest : ps.length ≤ (w.next diff.toNat p).pos := Nat.le_sub_of_add_le hlen
      obtain ⟨byte', s'', hbits, hbyte', hs''⟩ := ih _ hs' hqueue hrest
      refine ⟨byte', s'', ?_, ?_, hs''⟩
      · rw [List.length_cons, searchByte, hbit]
        exact hbits
      · rw [hbyte', List.append_assoc]
        rfl

/-- **The bytes of an id** are walked along bit by bit. -/
theorem searchId_follows (diff : UInt8) (bytes : List UInt8) : ∀ {s : Search} {w : Walk},
    Follows devices s w → w.pos = 8 * bytes.length →
      ∃ bytes' s', searchId diff bytes s = .ok (bytes', s') ∧ bytes'.length = bytes.length ∧
        bytes'.flatMap byteBits = (w.along diff.toNat (bytes.flatMap byteBits)).1 ∧
        Follows devices s' (w.along diff.toNat (bytes.flatMap byteBits)).2 := by
  induction bytes with
  | nil => intro s w h _; exact ⟨[], s, rfl, rfl, rfl, h⟩
  | cons byte bytes ih =>
      intro s w h hpos
      rw [List.length_cons] at hpos
      have hqueue : byteBits byte = byteBits byte ++ [] := by rw [List.append_nil]
      obtain ⟨byte', s', hbyte, hbits, hs'⟩ := searchByte_follows diff (byteBits byte) [] h hqueue
        (by rw [byteBits_length]; omega)
      rw [byteBits_length] at hbyte
      have hpos' : (w.along diff.toNat (byteBits byte)).2.pos = 8 * bytes.length := by
        rw [Walk.along_pos, byteBits_length]
        omega
      rw [List.flatMap_cons, Walk.along_append]
      dsimp only
      generalize w.along diff.toNat (byteBits byte) = a at hbits hs' hpos' ⊢
      by_cases hzero : s'.i = 0
      · -- the last byte
        have hi := hs'.i
        rw [hzero, UInt8.toNat_zero, hpos'] at hi
        obtain rfl : bytes = [] := List.length_eq_zero_iff.mp (by omega)
        rw [List.flatMap_nil, Walk.along_nil]
        refine ⟨[byte'], s', ?_, rfl, ?_, hs'⟩
        · rw [searchId, hbyte]
          exact if_pos hzero
        · rw [List.flatMap_singleton, hbits, List.nil_append, List.append_nil]
      · obtain ⟨bytes', s'', hid, hlen, hbits', hs''⟩ := ih hs' hpos'
        refine ⟨byte' :: bytes', s'', ?_, congrArg (· + 1) hlen, ?_, hs''⟩
        · rw [searchId, hbyte]
          dsimp only
          rw [if_neg hzero, hid]
        · rw [List.flatMap_cons, hbits, hbits', List.nil_append]

/-! ## One pass -/

/-- A bit of the command. -/
theorem owBitIo_command (n : Nat) (cmd : UInt8) (b : Bool) :
    owBitIo ⟨devices, selected, .command n cmd⟩ b =
      (b, ⟨devices, selected,
        if n + 1 < 8 then .command (n + 1) (shiftIn cmd b)
        else if shiftIn cmd b = searchRom then .bit 0
        else .idle⟩) := by
  cases b with
  | true => rfl
  | false => rfl

/-- The byte that is written, and the command the devices have, after `n` bits. -/
def written (b : UInt8) : Nat → UInt8 × UInt8
  | 0 => (b, 0)
  | n + 1 =>
      (shiftIn (written b n).1 ((written b n).1 &&& 1 ≠ 0),
        shiftIn (written b n).2 ((written b n).1 &&& 1 ≠ 0))

/-- The first bits of a command. -/
theorem foldl_written (b : UInt8) {n : Nat} (hn : n < 8) :
    (List.range n).foldl
        (fun r _ => (shiftIn r.1 (owBitIo r.2 (r.1 &&& 1 ≠ 0)).1, (owBitIo r.2 (r.1 &&& 1 ≠ 0)).2))
        (b, ⟨devices, selected, .command 0 0⟩) =
      ((written b n).1, ⟨devices, selected, .command n (written b n).2⟩) := by
  induction n with
  | zero => rfl
  | succ n ih =>
      rw [List.range_succ, List.foldl_append, ih (by omega), List.foldl_cons, List.foldl_nil,
        owBitIo_command, if_pos hn]
      rfl

/-- After a reset every device is selected, and the command starts a search. -/
theorem search_start (devices : List Rom) (bus : Bus) (hbus : bus.devices = devices) :
    (owWriteByte (owReset bus).2 searchRom).2 = ⟨devices, devices, .bit 0⟩ := by
  subst hbus
  have hcommand : shiftIn (written searchRom 7).2 ((written searchRom 7).1 &&& 1 ≠ 0) =
      searchRom := by decide
  unfold owWriteByte owReset
  rw [List.range_succ, List.foldl_append, foldl_written searchRom (by decide), List.foldl_cons,
    List.foldl_nil, owBitIo_command, if_neg (by decide)]
  exact congrArg (Bus.mk bus.devices bus.devices) (if_pos hcommand)

/-- **A pass** of the source is a pass of the search: it returns the position, and the
buffer holds the word. -/
theorem owRomSearch_pass {bus : Bus} (hbus : bus.devices = devices) (hne : devices ≠ [])
    (diff : UInt8) (id : Rom) :
    (owRomSearch bus diff id).1.toNat =
        (WordSearch.pass (devices.map romBits) diff.toNat (romBits id)).2 ∧
      romBits (owRomSearch bus diff id).2.1 =
        (WordSearch.pass (devices.map romBits) diff.toNat (romBits id)).1 ∧
      (owRomSearch bus diff id).2.2.devices = devices := by
  have hstart : Follows devices ⟨⟨devices, devices, .bit 0⟩, 8 * 8, lastDevice⟩
      ⟨devices.map romBits, 64, 0⟩ := by
    refine ⟨rfl, Nat.le_refl 64, rfl, ?_, ?_, rfl, rfl⟩
    · rfl
    · intro hnil
      exact hne (List.map_eq_nil_iff.mp hnil)
  obtain ⟨bytes, s, hid, hlen, hbits, hs⟩ := searchId_follows diff id.toList hstart
    (by rw [Vector.length_toList])
  have hreset : (owReset bus).1 = false := by
    show bus.devices.isEmpty = false
    rw [hbus, List.isEmpty_eq_false_iff]
    exact hne
  have hpass : owRomSearch bus diff id = (s.nextDiff, romOf bytes, s.bus) := by
    unfold owRomSearch
    dsimp only
    rw [hreset, if_neg Bool.false_ne_true, search_start devices bus hbus, hid]
  rw [hpass]
  unfold WordSearch.pass
  rw [romBits_length]
  refine ⟨hs.last, ?_, hs.devices⟩
  unfold romBits
  rw [romOf_toList (hlen.trans (Vector.length_toList ..))]
  exact hbits

/-! ## All passes -/

variable {selfaddr dst : UInt16} {t : Discover}

theorem discoverLoop_last (n : Nat) : discoverLoop selfaddr dst n 0 t = some t := by
  unfold discoverLoop
  exact if_pos rfl

theorem discoverLoop_zero (hdiff : diff ≠ 0) : discoverLoop selfaddr dst 0 diff t = none := by
  unfold discoverLoop
  exact if_neg hdiff

/-- **A pass of the loop** reports the id it finds and goes on from the position. -/
theorem discoverLoop_pass (selfaddr dst : UInt16) (hbus : t.bus.devices = devices)
    (hne : devices ≠ []) (hdiff : diff ≠ 0) :
    ∃ (diff' : UInt8) (t' : Discover),
      diff'.toNat = (WordSearch.pass (devices.map romBits) diff.toNat (romBits t.id)).2 ∧
        romBits t'.id = (WordSearch.pass (devices.map romBits) diff.toNat (romBits t.id)).1 ∧
        t'.bus.devices = devices ∧ t'.sent = t.sent ++ discovered selfaddr dst t'.id ∧
        ∀ n, discoverLoop selfaddr dst (n + 1) diff t = discoverLoop selfaddr dst n diff' t' := by
  obtain ⟨hdiff', hid, hbus'⟩ := owRomSearch_pass hbus hne diff t.id
  have hle := pass_le diff.toNat (romBits t.id) (devices.map romBits)
  rw [← hdiff', romBits_length] at hle
  -- a position is at most 64, the errors are above it
  have hpresence : (owRomSearch t.bus diff t.id).1 ≠ presenceErr := by
    intro h
    rw [h] at hle
    exact absurd hle (by decide)
  have hdata : (owRomSearch t.bus diff t.id).1 ≠ dataErr := by
    intro h
    rw [h] at hle
    exact absurd hle (by decide)
  refine ⟨(owRomSearch t.bus diff t.id).1, ⟨(owRomSearch t.bus diff t.id).2.2,
    (owRomSearch t.bus diff t.id).2.1,
    t.sent ++ discovered selfaddr dst (owRomSearch t.bus diff t.id).2.1⟩,
    hdiff', hid, hbus', rfl, fun n => ?_⟩
  have hmore : diff ≠ lastDevice := hdiff
  rw [discoverLoop, if_neg hmore]
  dsimp only
  rw [if_neg hpresence, if_neg hdata]

/-- The ids are reported after so many passes, and not before. -/
def Reports (selfaddr dst : UInt16) (diff : UInt8) (t : Discover) (ids : List Rom) : Prop :=
  (∃ t', discoverLoop selfaddr dst ids.length diff t = some t' ∧
    t'.sent = t.sent ++ ids.flatMap (discovered selfaddr dst)) ∧
  ∀ n < ids.length, discoverLoop selfaddr dst n diff t = none

/-- One more pass before the others. -/
theorem Reports.cons {diff' : UInt8} {t' : Discover} {ids : List Rom} (hdiff : diff ≠ 0)
    (hsent : t'.sent = t.sent ++ discovered selfaddr dst t'.id)
    (hloop : ∀ n, discoverLoop selfaddr dst (n + 1) diff t = discoverLoop selfaddr dst n diff' t')
    (h : Reports selfaddr dst diff' t' ids) : Reports selfaddr dst diff t (t'.id :: ids) := by
  obtain ⟨⟨u, hu, husent⟩, hfewer⟩ := h
  refine ⟨⟨u, (hloop ids.length).trans hu, ?_⟩, fun n hn => ?_⟩
  · rw [husent, hsent, List.flatMap_cons, List.append_assoc]
  · cases n with
    | zero => exact discoverLoop_zero hdiff
    | succ n => exact (hloop n).trans (hfewer n (Nat.lt_of_succ_lt_succ hn))

/-- After the last pass nothing is reported. -/
theorem Reports.nil : Reports selfaddr dst 0 t [] :=
  ⟨⟨t, discoverLoop_last 0, (List.append_nil t.sent).symm⟩, fun _ hn => (nomatch hn)⟩

/-- **The loop follows the walks**: it reports the words they find. -/
theorem reports_of_passes (selfaddr dst : UInt16) (hne : devices ≠ []) {found : List Word}
    {d d' : Nat} {prev prev' : Word} (h : Passes (devices.map romBits) d prev found d' prev')
    (hlast : d' = 0) :
    ∀ (diff : UInt8) (t : Discover), diff.toNat = d → d ≠ 0 → romBits t.id = prev →
      t.bus.devices = devices →
        ∃ ids : List Rom, ids.map romBits = found ∧ Reports selfaddr dst diff t ids := by
  induction h with
  | one d prev =>
      rintro diff t rfl hd rfl hbus
      have hdiff : diff ≠ 0 := fun h => hd (congrArg UInt8.toNat h)
      obtain ⟨diff', t', hdiff', hid, -, hsent, hloop⟩ :=
        discoverLoop_pass selfaddr dst hbus hne hdiff
      obtain rfl : diff' = 0 := UInt8.toNat_inj.mp (hdiff'.trans hlast)
      exact ⟨[t'.id], congrArg (fun w => [w]) hid, Reports.nil.cons hdiff hsent hloop⟩
  | more hnext h ih =>
      rintro diff t rfl hd rfl hbus
      have hdiff : diff ≠ 0 := fun h => hd (congrArg UInt8.toNat h)
      obtain ⟨diff', t', hdiff', hid, hbus', hsent, hloop⟩ :=
        discoverLoop_pass selfaddr dst hbus hne hdiff
      obtain ⟨ids, hids, hreports⟩ := ih hlast diff' t' hdiff' hnext hid hbus'
      refine ⟨t'.id :: ids, ?_, hreports.cons hdiff hsent hloop⟩
      rw [List.map_cons, hid, hids]

/-- **Every device is reported once**: on a bus with devices, whatever the id buffer
holds, the loop ends after as many passes as there are devices. -/
theorem owDiscover_alle (selfaddr : UInt16) (frame : CanixFrame) (devices : List Rom)
    (hne : devices ≠ []) (hnodup : devices.Nodup) (bus : Bus) (hbus : bus.devices = devices)
    (id : Rom) :
    ∃ ids : List Rom, ids.Perm devices ∧
      (∃ t, owDiscover selfaddr frame devices.length bus id = some t ∧
        t.sent = ids.flatMap (discovered selfaddr frame.src)) ∧
      ∀ n < devices.length, owDiscover selfaddr frame n bus id = none := by
  have hlen : ∀ w ∈ devices.map romBits, w.length = 64 := by
    intro w hw
    obtain ⟨r, -, rfl⟩ := List.mem_map.mp hw
    exact romBits_length r
  have hne' : devices.map romBits ≠ [] := fun h => hne (List.map_eq_nil_iff.mp h)
  obtain ⟨prev', hpasses⟩ := passes_sorted 64 (devices.map romBits) hne' hlen
    (hnodup.map romBits_injective) searchFirst.toNat (romBits id) (by decide) (romBits_length id)
  obtain ⟨ids, hids, ⟨t, hloop, hsent⟩, hfewer⟩ := reports_of_passes selfaddr frame.src hne
    hpasses rfl searchFirst ⟨bus, id, []⟩ rfl (by decide) rfl hbus
  have hperm : ids.Perm devices := by
    apply (List.map_perm_map_iff romBits_injective).mp
    rw [hids]
    exact sorted_perm 64 (devices.map romBits) hlen
  have hcount : ids.length = devices.length := hperm.length_eq
  rw [hcount] at hloop hfewer
  exact ⟨ids, hperm, ⟨t, hloop, hsent⟩, hfewer⟩

private def innen : Rom := #v[0x28, 0xB4, 0x6D, 0x13, 0x05, 0x00, 0x00, 0x9E]

private def aussen : Rom := #v[0x28, 0xB4, 0x6D, 0x93, 0x04, 0x00, 0x00, 0x17]

private def vorlauf : Rom := #v[0x10, 0x34, 0xC2, 0x55, 0x01, 0x08, 0x00, 0x3A]

/-- Three sensors: three passes, and two do not suffice. -/
theorem owDiscover_alle_sensoren :
    (∃ ids : List Rom, ids.Perm [innen, aussen, vorlauf] ∧
      (∃ t, owDiscover 7 ⟨9, 7, 1, 0, payload []⟩ 3 ⟨[innen, aussen, vorlauf], [], .idle⟩
          innen = some t ∧
        t.sent = ids.flatMap (discovered 7 9)) ∧
      ∀ n < 3, owDiscover 7 ⟨9, 7, 1, 0, payload []⟩ n ⟨[innen, aussen, vorlauf], [], .idle⟩
          innen = none) :=
  owDiscover_alle 7 ⟨9, 7, 1, 0, payload []⟩ [innen, aussen, vorlauf] (by decide) (by decide)
    ⟨[innen, aussen, vorlauf], [], .idle⟩ rfl innen

end

end OpenHcan.OneWire
