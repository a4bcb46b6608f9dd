import Mathlib.Data.List.Nodup
import Mathlib.Tactic.IntervalCases
import OpenHcan.Devices.Dcf77Receiver

/-!
# Dcf77Minute — the bits of a minute (`dcf77_receiver.c`)

What a published time has to be: of each of the seconds 21 to 58 there was one
bit, the bits of the minute, of the hour and of the date are even in number,
and the time is what they say in BCD.

The parity cell is not cleared when a minute begins. A minute that breaks off
leaves it as it is, and the bits of the next minute are checked against it.
-/

namespace OpenHcan.Dcf77

open Lib Timeservice

set_option maxRecDepth 100000

/-! ## What has been measured -/

/-- The second of the minute. What has been measured is newest first. -/
def sekunde : List Flanke → Nat
  | [] => 0
  | .puls _ :: past => sekunde past
  | .periode n :: past => if minutenanfang n then 0 else sekunde past + 1

/-- A pulse has begun and has not ended. -/
def hoch : List Flanke → Bool
  | .periode _ :: _ => true
  | _ => false

/-- The seconds that carry the time. -/
def InfoSekunde (s : Nat) : Prop := 21 ≤ s ∧ s ≤ 58

instance (s : Nat) : Decidable (InfoSekunde s) := by
  unfold InfoSekunde
  infer_instance

/-- The seconds that carry the parity bits. -/
def ParitaetSekunde (s : Nat) : Prop := s = 28 ∨ s = 35 ∨ s = 58

instance (s : Nat) : Decidable (ParitaetSekunde s) := by
  unfold ParitaetSekunde
  infer_instance

/-- The bits of the minute with their seconds, in the order they came. -/
def bits : List Flanke → List (Nat × Bool)
  | [] => []
  | .periode n :: past => if minutenanfang n then [] else bits past
  | .puls n :: past =>
      match pulsBit n with
      | some b => if InfoSekunde (sekunde past) then bits past ++ [(sekunde past, b)] else bits past
      | none => bits past

/-- The parity of the bits since the last parity bit, from whichever minute they are. -/
def paritaet : List Flanke → Bool
  | [] => false
  | .periode _ :: past => paritaet past
  | .puls n :: past =>
      match pulsBit n with
      | some b =>
          if InfoSekunde (sekunde past) then
            if ParitaetSekunde (sekunde past) then false else paritaet past ^^ b
          else paritaet past
      | none => paritaet past

/-- The parity with which the minute began. -/
def paritaetZuBeginn : List Flanke → Bool
  | [] => false
  | .periode n :: past => if minutenanfang n then paritaet past else paritaetZuBeginn past
  | .puls _ :: past => paritaetZuBeginn past

/-! ## What a published time has to be -/

/-- The number of some binary digits, the lowest first. -/
def zahl : List Bool → Nat
  | [] => 0
  | b :: bs => b.toNat + 2 * zahl bs

/-- The number of some BCD digits: the ones, then the tens. -/
def bcd (bs : List Bool) : Nat := zahl (bs.take 4) + 10 * zahl (bs.drop 4)

/-- The `n` bits from the second `a` on. -/
def feld (b : Nat → Bool) (a n : Nat) : List Bool := (List.range' a n).map b

/-- An even number of ones. -/
def Gerade (bs : List Bool) : Prop := bs.count true % 2 = 0

instance (bs : List Bool) : Decidable (Gerade bs) := by
  unfold Gerade
  infer_instance

/-- The bit of a second. -/
def bitVon (l : List (Nat × Bool)) (s : Nat) : Bool := (s, true) ∈ l

/-- A time that may be published after these bits. -/
structure MinuteRichtig (l : List (Nat × Bool)) (time : RtcClock) : Prop where
  einmal : l.map Prod.fst = List.range' 21 38
  paritaetMinute : Gerade (feld (bitVon l) 21 8)
  paritaetStunde : Gerade (feld (bitVon l) 29 7)
  paritaetDatum : Gerade (feld (bitVon l) 36 23)
  minute : time.minute.toNat = bcd (feld (bitVon l) 21 7)
  hour : time.hour.toNat = bcd (feld (bitVon l) 29 6)
  dayOfMonth : time.dayOfMonth.toNat = bcd (feld (bitVon l) 36 6)
  dayOfWeek : time.dayOfWeek.toNat = bcd (feld (bitVon l) 42 3)
  monthOfYear : time.monthOfYear.toNat = bcd (feld (bitVon l) 45 5)
  year : time.year.toNat = bcd (feld (bitVon l) 50 8)

/-- If `scan_dcf77` sets `valid_flag`, the time that is published is right. -/
def ZeitRichtig (selfaddr : UInt16) (k : Dcf77IO × List Flanke) : Dcf77Event → Prop
  | .tick clock input => SetztValid selfaddr input k.1 →
      MinuteRichtig (bits k.2) (dcf77ReceiverTimerHandler selfaddr clock input k.1).dev.time
  | .frame _ => True

/-- A minute that ends without an error began with an even parity. -/
def GeradeBegonnen (k : Dcf77IO × List Flanke) : Dcf77Event → Prop
  | .tick _ input => (empfang k.1.dev).MinuteGueltig input → paritaetZuBeginn k.2 = false
  | .frame _ => True

/-! ## One bit -/

/-- The cell of a bit: 0 or 1. -/
def zelle (b : Bool) : UInt8 := if b then 1 else 0

theorem zelle_xor (a b : Bool) : zelle a ^^^ zelle b = zelle (a ^^ b) := by
  cases a <;> cases b <;> rfl

theorem zelle_eq_zero_iff (b : Bool) : zelle b = 0 ↔ b = false := by
  cases b <;> decide

/-- A byte of the clock by its offset. -/
def getByte (c : RtcClock) : Nat → UInt8
  | 0 => c.dayOfWeek
  | 1 => c.hour
  | 2 => c.minute
  | 3 => c.second
  | 5 => c.dayOfMonth
  | 6 => c.monthOfYear
  | 7 => c.year
  | _ => 0

/-- The place of the bit of a second: the offset of its byte, and its number there. -/
def platz (s : Nat) : Nat × Nat :=
  ((bitno.getD (s - 21) 0 >>> 4).toNat, (bitno.getD (s - 21) 0 &&& 0x0F).toNat)

/-- The offsets of the bytes that are received. -/
def Empfangen (offset : Nat) : Prop := offset ∈ [0, 1, 2, 5, 6, 7]

instance (offset : Nat) : Decidable (Empfangen offset) := by
  unfold Empfangen
  infer_instance

/-- A bit is added to its byte, of which the first bit clears the rest of an earlier time. -/
def eintragen (b : Bool) (i : Nat) (d : UInt8) : UInt8 :=
  (if i = 0 then 0 else d) + if b then bmask.getD i 0 else 0

section

variable {p q : Dcf77Decoder} {s : Nat} {b : Bool}

theorem getByte_updateByte (c : RtcClock) (f : UInt8 → UInt8) {offset : Nat} (h : Empfangen offset)
    (offset' : Nat) : getByte (updateByte c offset f) offset' =
      if offset' = offset then f (getByte c offset') else getByte c offset' := by
  simp only [Empfangen, List.mem_cons, List.not_mem_nil, or_false] at h
  rcases h with rfl | rfl | rfl | rfl | rfl | rfl
  all_goals
    unfold getByte updateByte
    split
    all_goals simp_all

/-- `BITNO` knows the parity bits, and the bytes of all other bits. -/
theorem bitno_cases (hs : InfoSekunde s) :
    (bitno.getD (s - 21) 0 = 0xFF ↔ ParitaetSekunde s) ∧
      (¬ ParitaetSekunde s → Empfangen (platz s).1) := by
  have hall : ∀ i < 38, (bitno.getD (i + 21 - 21) 0 = 0xFF ↔ ParitaetSekunde (i + 21)) ∧
      (¬ ParitaetSekunde (i + 21) → (platz (i + 21)).1 ∈ [0, 1, 2, 5, 6, 7]) := by
    decide
  have h := hall (s - 21) (by unfold InfoSekunde at hs; omega)
  rwa [Nat.sub_add_cancel hs.1] at h

theorem index_of_info (hs : InfoSekunde p.newtime.second.toNat) :
    (p.newtime.second - 21).toNat = p.newtime.second.toNat - 21 :=
  UInt8.toNat_sub_of_le _ _ hs.1

theorem bitSchreiben_zelle (i : UInt8) (b : Bool) :
    bitSchreiben i (zelle b) = eintragen b i.toNat := by
  funext d
  unfold bitSchreiben eintragen
  have hzero : i = 0 ↔ i.toNat = 0 := by rw [← UInt8.toNat_inj]; rfl
  cases b
  · simp [zelle, hzero]
  · simp [zelle, hzero]

/-- A second that carries no time. -/
theorem decode_andere (pulse : UInt8) (hs : ¬ InfoSekunde p.newtime.second.toNat) :
    decodeDcf77 pulse p = p := by
  unfold decodeDcf77
  rw [if_pos]
  have hlt := p.newtime.second.toNat_lt
  rw [UInt8.toNat_sub]
  show 38 ≤ (256 - 21 + p.newtime.second.toNat) % 256
  unfold InfoSekunde at hs
  omega

/-- A parity bit. -/
theorem decode_paritaet (hs : InfoSekunde p.newtime.second.toNat)
    (hparity : ParitaetSekunde p.newtime.second.toNat) :
    decodeDcf77 (zelle b) p = ⟨p.newtime, 0,
      if p.parity ^^^ zelle b ≠ 0 then p.dcf77error ||| dcf77ParityError else p.dcf77error⟩ := by
  unfold decodeDcf77
  rw [index_of_info hs, if_neg]
  · unfold decodeEintrag
    rw [if_pos ((bitno_cases hs).1.mpr hparity)]
  · show ¬ 38 ≤ _
    unfold InfoSekunde at hs
    omega

/-- A bit of the time. -/
theorem decode_bit (hs : InfoSekunde p.newtime.second.toNat)
    (hparity : ¬ ParitaetSekunde p.newtime.second.toNat) :
    decodeDcf77 (zelle b) p =
      ⟨updateByte p.newtime (platz p.newtime.second.toNat).1
        (eintragen b (platz p.newtime.second.toNat).2), p.parity ^^^ zelle b, p.dcf77error⟩ := by
  unfold decodeDcf77
  rw [index_of_info hs, if_neg]
  · unfold decodeEintrag
    rw [if_neg fun h => hparity ((bitno_cases hs).1.mp h), bitSchreiben_zelle]
    rfl
  · show ¬ 38 ≤ _
    unfold InfoSekunde at hs
    omega

/-! ## The bits of a minute -/

/-- A bit of the second `e.1`. -/
def dekodieren (p : Dcf77Decoder) (e : Nat × Bool) : Dcf77Decoder :=
  decodeDcf77 (zelle e.2) ⟨{ p.newtime with second := UInt8.ofNat e.1 }, p.parity, p.dcf77error⟩

/-- The sum of the values of `m` bits, as `BMASK` has them. -/
def summe (b : Nat → Bool) (a : Nat) : Nat → Nat
  | 0 => 0
  | m + 1 => summe b a m + if b (a + m) then (bmask.getD m 0).toNat else 0

/-- The parity of `m` bits. -/
def xorVon (b : Nat → Bool) (a : Nat) : Nat → Bool
  | 0 => false
  | m + 1 => xorVon b a m ^^ b (a + m)

theorem toNat_ofNat_info (hs : InfoSekunde s) : (UInt8.ofNat s).toNat = s :=
  UInt8.toNat_ofNat_of_lt' (by
    unfold InfoSekunde at hs
    show s < 256
    omega)

theorem getByte_second (c : RtcClock) (n : UInt8) {offset : Nat} (h : offset ≠ 3) :
    getByte { c with second := n } offset = getByte c offset := by
  unfold getByte
  split
  all_goals first | rfl | exact absurd rfl h

/-- A parity bit: the cell is cleared, and an odd number is an error. -/
structure ParitaetEffect (b : Bool) (p q : Dcf77Decoder) : Prop where
  parity : q.parity = 0
  error : q.dcf77error =
    if p.parity ^^^ zelle b ≠ 0 then p.dcf77error ||| dcf77ParityError else p.dcf77error
  bytes : ∀ offset, offset ≠ 3 → getByte q.newtime offset = getByte p.newtime offset

theorem dekodieren_paritaet (hs : InfoSekunde s) (hparity : ParitaetSekunde s) (p : Dcf77Decoder)
    (b : Bool) : ParitaetEffect b p (dekodieren p (s, b)) := by
  have hval := toNat_ofNat_info hs
  unfold dekodieren
  rw [decode_paritaet (by rw [hval]; exact hs) (by rw [hval]; exact hparity)]
  exact ⟨rfl, rfl, fun offset hne => getByte_second _ _ hne⟩

theorem ParitaetEffect.error_iff (h : ParitaetEffect b p q) :
    q.dcf77error = 0 ↔ p.dcf77error = 0 ∧ p.parity ^^^ zelle b = 0 := by
  rw [h.error]
  split
  · rename_i hodd
    rw [UInt8.or_eq_zero_iff]
    exact iff_of_false (fun h => absurd h.2 (by decide)) fun h => hodd h.2
  · rename_i heven
    exact (and_iff_left (not_not.mp heven)).symm

/-- A bit of the time: it goes to its byte, and to the parity. -/
structure BitEffect (s : Nat) (b : Bool) (p q : Dcf77Decoder) : Prop where
  parity : q.parity = p.parity ^^^ zelle b
  error : q.dcf77error = p.dcf77error
  bytes : ∀ offset, offset ≠ 3 → getByte q.newtime offset =
    if offset = (platz s).1 then eintragen b (platz s).2 (getByte p.newtime offset)
    else getByte p.newtime offset

theorem dekodieren_bit (hs : InfoSekunde s) (hparity : ¬ ParitaetSekunde s) (p : Dcf77Decoder)
    (b : Bool) : BitEffect s b p (dekodieren p (s, b)) := by
  have hval := toNat_ofNat_info hs
  unfold dekodieren
  rw [decode_bit (by rw [hval]; exact hs) (by rw [hval]; exact hparity)]
  simp only [hval]
  refine ⟨rfl, rfl, fun offset hne => ?_⟩
  rw [getByte_updateByte _ _ ((bitno_cases hs).2 hparity), getByte_second _ _ hne]

/-- The bits of some seconds, one after the other. -/
def sekundenDekodieren (b : Nat → Bool) (l : List Nat) (p : Dcf77Decoder) : Dcf77Decoder :=
  (l.map fun s => (s, b s)).foldl dekodieren p

theorem sekundenDekodieren_append (b : Nat → Bool) (l l' : List Nat) (p : Dcf77Decoder) :
    sekundenDekodieren b (l ++ l') p = sekundenDekodieren b l' (sekundenDekodieren b l p) := by
  unfold sekundenDekodieren
  rw [List.map_append, List.foldl_append]

theorem sekundenDekodieren_succ (b : Nat → Bool) (a n : Nat) (p : Dcf77Decoder) :
    sekundenDekodieren b (List.range' a (n + 1)) p =
      dekodieren (sekundenDekodieren b (List.range' a n) p) (a + n, b (a + n)) := by
  rw [List.range'_1_concat, sekundenDekodieren_append]
  rfl

/-- Bits of the time: they are added to the parity. -/
theorem zeitbits_effect (b : Nat → Bool) {a n : Nat}
    (h : ∀ i < n, InfoSekunde (a + i) ∧ ¬ ParitaetSekunde (a + i)) (p : Dcf77Decoder) :
    (sekundenDekodieren b (List.range' a n) p).parity = p.parity ^^^ zelle (xorVon b a n) ∧
      (sekundenDekodieren b (List.range' a n) p).dcf77error = p.dcf77error := by
  induction n with
  | zero => exact ⟨UInt8.xor_zero.symm, rfl⟩
  | succ n ih =>
      obtain ⟨hparity, herror⟩ := ih fun i hi => h i (Nat.lt_succ_of_lt hi)
      obtain ⟨hinfo, hkein⟩ := h n (Nat.lt_succ_self n)
      have hbit := dekodieren_bit hinfo hkein (sekundenDekodieren b (List.range' a n) p) (b (a + n))
      rw [sekundenDekodieren_succ]
      exact ⟨by rw [hbit.parity, hparity, xorVon, ← zelle_xor, UInt8.xor_assoc],
        hbit.error.trans herror⟩

/-- **A group**: bits of the time and their parity bit. -/
theorem gruppe_effect (b : Nat → Bool) {a n : Nat}
    (h : ∀ i < n, InfoSekunde (a + i) ∧ ¬ ParitaetSekunde (a + i)) (hinfo : InfoSekunde (a + n))
    (hparity : ParitaetSekunde (a + n)) (p : Dcf77Decoder) :
    (sekundenDekodieren b (List.range' a (n + 1)) p).parity = 0 ∧
      ((sekundenDekodieren b (List.range' a (n + 1)) p).dcf77error = 0 ↔
        p.dcf77error = 0 ∧ p.parity ^^^ zelle (xorVon b a (n + 1)) = 0) := by
  obtain ⟨hcell, herror⟩ := zeitbits_effect b h p
  have hbit := dekodieren_paritaet hinfo hparity (sekundenDekodieren b (List.range' a n) p)
    (b (a + n))
  rw [sekundenDekodieren_succ]
  refine ⟨hbit.parity, ?_⟩
  rw [hbit.error_iff, herror, hcell, xorVon, ← zelle_xor, UInt8.xor_assoc]

/-- The sum of up to eight bits fits into a byte. -/
theorem summe_lt (b : Nat → Bool) (a : Nat) {m : Nat} (hm : m ≤ 8) : summe b a m < 256 := by
  have hle : summe b a m ≤ summe (fun _ => true) 0 m := by
    clear hm
    induction m with
    | zero => exact Nat.le_refl _
    | succ m ih =>
        unfold summe
        rw [if_pos rfl]
        split
        · exact Nat.add_le_add_right ih _
        · exact Nat.le_trans ih (Nat.le_add_right _ _)
  have hall : ∀ m ≤ 8, summe (fun _ => true) 0 m < 256 := by decide
  exact Nat.lt_of_le_of_lt hle (hall m hm)

/-- **The bits of a byte**, one after the other. -/
theorem byte_effect (b : Nat → Bool) {a n o : Nat} (hn : n ≤ 8) (hoffset : Empfangen o)
    (hplatz : ∀ i < n, InfoSekunde (a + i) ∧ ¬ ParitaetSekunde (a + i) ∧ platz (a + i) = (o, i))
    (p : Dcf77Decoder) {m : Nat} (hm : m < n) :
    (getByte (sekundenDekodieren b (List.range' a (m + 1)) p).newtime o).toNat =
      summe b a (m + 1) := by
  have hthree : o ≠ 3 := by
    rintro rfl
    exact absurd hoffset (by decide)
  obtain ⟨hinfo, hkein, hplatz'⟩ := hplatz m hm
  have hbit := dekodieren_bit hinfo hkein (sekundenDekodieren b (List.range' a m) p) (b (a + m))
  -- the first bit clears the byte, the others are added
  have hold : (if m = 0 then 0
      else getByte (sekundenDekodieren b (List.range' a m) p).newtime o).toNat = summe b a m := by
    cases m with
    | zero => rfl
    | succ m =>
        rw [if_neg (Nat.succ_ne_zero m)]
        exact byte_effect b hn hoffset hplatz p (Nat.lt_of_succ_lt hm)
  have hnew : (if b (a + m) then bmask.getD m 0 else 0).toNat =
      if b (a + m) then (bmask.getD m 0).toNat else 0 := by
    split
    all_goals rfl
  have hlt := summe_lt b a (Nat.le_trans (Nat.succ_le_of_lt hm) hn)
  unfold summe at hlt
  rw [sekundenDekodieren_succ, hbit.bytes o hthree, hplatz', if_pos rfl]
  unfold eintragen summe
  rw [UInt8.toNat_add, hold, hnew]
  exact Nat.mod_eq_of_lt hlt

/-- The bits of other bytes. -/
theorem byte_bleibt (b : Nat → Bool) {o : Nat} (ho : o ≠ 3) {l : List Nat}
    (hl : ∀ s ∈ l, InfoSekunde s ∧ (¬ ParitaetSekunde s → (platz s).1 ≠ o)) (p : Dcf77Decoder) :
    getByte (sekundenDekodieren b l p).newtime o = getByte p.newtime o := by
  induction l generalizing p with
  | nil => rfl
  | cons s l ih =>
      obtain ⟨hinfo, hplatz⟩ := hl s List.mem_cons_self
      have hone : getByte (dekodieren p (s, b s)).newtime o = getByte p.newtime o := by
        by_cases hparity : ParitaetSekunde s
        · exact (dekodieren_paritaet hinfo hparity p (b s)).bytes o ho
        · rw [(dekodieren_bit hinfo hparity p (b s)).bytes o ho, if_neg (hplatz hparity).symm]
      exact (ih (fun s' hs' => hl s' (List.mem_cons_of_mem s hs')) _).trans hone

/-- The value of the bits of a byte is their number in BCD. -/
theorem summe_eq_bcd (b : Nat → Bool) (a : Nat) {n : Nat} (hn : n ≤ 8) :
    summe b a n = bcd (feld b a n) := by
  have hval (c : Bool) (w : Nat) : (if c then w else 0) = w * c.toNat := by
    cases c
    · rw [if_neg Bool.false_ne_true, Bool.toNat_false, Nat.mul_zero]
    · rw [if_pos rfl, Bool.toNat_true, Nat.mul_one]
  rcases Nat.eq_zero_or_pos n with rfl | hpos
  · rfl
  · interval_cases n
    all_goals
      simp only [summe, hval, bcd, feld, zahl, bmask, List.range', List.map_cons, List.map_nil,
        List.take, List.drop, List.getD_cons_zero, List.getD_cons_succ, UInt8.reduceToNat,
        Nat.add_zero, Nat.add_assoc, Nat.reduceAdd]
      omega

/-- The parity of some bits, as a number. -/
theorem xorVon_eq (b : Nat → Bool) (a n : Nat) : xorVon b a n = false ↔ Gerade (feld b a n) := by
  have hodd : xorVon b a n = decide ((feld b a n).count true % 2 = 1) := by
    induction n with
    | zero => rfl
    | succ n ih =>
        have hfeld : feld b a (n + 1) = feld b a n ++ [b (a + n)] := by
          unfold feld
          rw [List.range'_1_concat, List.map_append, List.map_cons, List.map_nil]
        rw [xorVon, ih, hfeld, List.count_append]
        cases b (a + n)
        · simp
        · simp only [Bool.xor_true, List.count_cons_self, List.count_nil, Nat.zero_add]
          rcases Nat.mod_two_eq_zero_or_one (List.count true (feld b a n)) with hmod | hmod
          · simp [Nat.add_mod, hmod]
          · simp [Nat.add_mod, hmod]
  unfold Gerade
  rw [hodd, decide_eq_false_iff_not]
  omega

/-- **A whole minute**: what is left of its bits in the cells. -/
structure MinuteEffect (b : Nat → Bool) (p q : Dcf77Decoder) : Prop where
  error_iff : q.dcf77error = 0 ↔ p.dcf77error = 0 ∧ p.parity ^^^ zelle (xorVon b 21 8) = 0 ∧
    xorVon b 29 7 = false ∧ xorVon b 36 23 = false
  minute : q.newtime.minute.toNat = summe b 21 7
  hour : q.newtime.hour.toNat = summe b 29 6
  dayOfMonth : q.newtime.dayOfMonth.toNat = summe b 36 6
  dayOfWeek : q.newtime.dayOfWeek.toNat = summe b 42 3
  monthOfYear : q.newtime.monthOfYear.toNat = summe b 45 5
  year : q.newtime.year.toNat = summe b 50 8

/-- **A byte of the minute**: its bits, and none that come later. -/
theorem minute_byte (b : Nat → Bool) (p : Dcf77Decoder) {a n o : Nat} (ha : 21 ≤ a ∧ a + n < 59)
    (hn : n < 8) (hoffset : Empfangen o)
    (hplatz : ∀ i < n + 1,
      InfoSekunde (a + i) ∧ ¬ ParitaetSekunde (a + i) ∧ platz (a + i) = (o, i))
    (hpost : ∀ s ∈ List.range' (a + (n + 1)) (58 - (a + n)),
      InfoSekunde s ∧ (¬ ParitaetSekunde s → (platz s).1 ≠ o)) :
    (getByte (sekundenDekodieren b (List.range' 21 38) p).newtime o).toNat =
      summe b a (n + 1) := by
  have hthree : o ≠ 3 := by
    rintro rfl
    exact absurd hoffset (by decide)
  have hsplit : List.range' 21 38 = List.range' 21 (a - 21) ++
      (List.range' a (n + 1) ++ List.range' (a + (n + 1)) (58 - (a + n))) := by
    have hvor := List.range'_append_1 (s := 21) (m := a - 21) (n := n + 1 + (58 - (a + n)))
    rw [Nat.add_sub_cancel' ha.1] at hvor
    rw [List.range'_append_1, hvor]
    congr 1
    omega
  rw [hsplit, sekundenDekodieren_append, sekundenDekodieren_append, byte_bleibt b hthree hpost]
  exact byte_effect b hn hoffset hplatz _ (Nat.lt_succ_self n)

theorem minute_effect (b : Nat → Bool) (p : Dcf77Decoder) :
    MinuteEffect b p (sekundenDekodieren b (List.range' 21 38) p) where
  error_iff := by
    have hsplit : List.range' 21 38 =
        List.range' 21 8 ++ (List.range' 29 7 ++ List.range' 36 23) := rfl
    obtain ⟨hparity, herror⟩ := gruppe_effect b (a := 21) (n := 7) (by decide) (by decide)
      (by decide) p
    obtain ⟨hparity', herror'⟩ := gruppe_effect b (a := 29) (n := 6) (by decide) (by decide)
      (by decide) (sekundenDekodieren b (List.range' 21 8) p)
    obtain ⟨-, herror''⟩ := gruppe_effect b (a := 36) (n := 22) (by decide) (by decide)
      (by decide) (sekundenDekodieren b (List.range' 29 7)
        (sekundenDekodieren b (List.range' 21 8) p))
    rw [hsplit, sekundenDekodieren_append, sekundenDekodieren_append, herror'', herror', herror,
      hparity, hparity', UInt8.zero_xor, UInt8.zero_xor, zelle_eq_zero_iff, zelle_eq_zero_iff,
      and_assoc, and_assoc]
  minute := minute_byte b p (a := 21) (n := 6) (o := 2) (by decide) (by decide) (by decide)
    (by decide) (by decide)
  hour := minute_byte b p (a := 29) (n := 5) (o := 1) (by decide) (by decide) (by decide)
    (by decide) (by decide)
  dayOfMonth := minute_byte b p (a := 36) (n := 5) (o := 5) (by decide) (by decide) (by decide)
    (by decide) (by decide)
  dayOfWeek := minute_byte b p (a := 42) (n := 2) (o := 0) (by decide) (by decide) (by decide)
    (by decide) (by decide)
  monthOfYear := minute_byte b p (a := 45) (n := 4) (o := 6) (by decide) (by decide) (by decide)
    (by decide) (by decide)
  year := minute_byte b p (a := 50) (n := 7) (o := 7) (by decide) (by decide) (by decide)
    (by decide) (by decide)

/-! ## Whole runs -/

variable {x : Empfang} {past : List Flanke} {input : Bool}

/-- The same cells, but for the second. -/
structure Gleich (p q : Dcf77Decoder) : Prop where
  parity : p.parity = q.parity
  error : p.dcf77error = q.dcf77error
  bytes : ∀ offset, offset ≠ 3 → getByte p.newtime offset = getByte q.newtime offset

/-- The same bit keeps the cells the same. -/
theorem Gleich.dekodieren (h : Gleich p q) (hs : InfoSekunde s) (b : Bool) :
    Gleich (dekodieren p (s, b)) (dekodieren q (s, b)) := by
  by_cases hparity : ParitaetSekunde s
  · have hp := dekodieren_paritaet hs hparity p b
    have hq := dekodieren_paritaet hs hparity q b
    refine ⟨hp.parity.trans hq.parity.symm, ?_, fun offset hne => ?_⟩
    · rw [hp.error, hq.error, h.parity, h.error]
    · rw [hp.bytes offset hne, hq.bytes offset hne, h.bytes offset hne]
  · have hp := dekodieren_bit hs hparity p b
    have hq := dekodieren_bit hs hparity q b
    refine ⟨?_, ?_, fun offset hne => ?_⟩
    · rw [hp.parity, hq.parity, h.parity]
    · rw [hp.error, hq.error, h.error]
    · rw [hp.bytes offset hne, hq.bytes offset hne, h.bytes offset hne]

/-- How many bits of the time have been heard of in this minute. -/
def geliefert (past : List Flanke) : Nat :=
  min 38 (sekunde past + (if hoch past then 0 else 1) - 21)

/-- A minute without an error up to now: there was a bit in each second, and the cells are
what these bits have made of them. -/
structure MinuteBisher (p : Dcf77Decoder) (past : List Flanke) : Prop where
  sekunden : (bits past).map Prod.fst = List.range' 21 (geliefert past)
  decoder : ∃ p₀ : Dcf77Decoder, p₀.dcf77error = 0 ∧ p₀.parity = zelle (paritaetZuBeginn past) ∧
    Gleich p ((bits past).foldl Dcf77.dekodieren p₀)

/-- What every run keeps. -/
structure EmpfangInv (x : Empfang) (past : List Flanke) : Prop where
  second : x.decoder.newtime.second.toNat = min 60 (sekunde past)
  pegel : x.dcf77InputOld = hoch past
  parity : x.decoder.parity = zelle (paritaet past)
  minute : x.decoder.dcf77error = 0 → MinuteBisher x.decoder past

theorem empfangInv_start (c : EdsDcf77ReceiverBlock) :
    EmpfangInv (empfang (dcf77Start c).1.dev) [] :=
  ⟨rfl, rfl, rfl, fun _ => ⟨rfl, _, rfl, rfl, ⟨rfl, rfl, fun _ _ => rfl⟩⟩⟩

/-- A flag of `dcf77error` stays up to the end of the minute. -/
theorem or_flag_ne_zero (error : UInt8) {flag : UInt8} (h : flag ≠ 0) : error ||| flag ≠ 0 :=
  fun hzero => h (UInt8.or_eq_zero_iff.mp hzero).2

/-- The decoder at the end of a tick in which nothing is measured. -/
theorem Empfang.vorher_spec (x : Empfang) :
    x.vorher.newtime = x.decoder.newtime ∧ x.vorher.parity = x.decoder.parity ∧
      (x.vorher.dcf77error = 0 → x.vorher = x.decoder) := by
  unfold Empfang.vorher
  split
  · exact ⟨rfl, rfl, fun _ => rfl⟩
  · exact ⟨rfl, rfl, fun herror => absurd herror (or_flag_ne_zero _ (by decide))⟩

theorem EmpfangInv.vorher (h : EmpfangInv x past) (t : UInt8) :
    EmpfangInv ⟨x.vorher, t, x.dcf77InputOld⟩ past := by
  obtain ⟨hnewtime, hparity, hvorher⟩ := x.vorher_spec
  refine ⟨?_, h.pegel, hparity.trans h.parity, fun herror => ?_⟩
  · show x.vorher.newtime.second.toNat = _
    rw [hnewtime]
    exact h.second
  · have heq := hvorher herror
    show MinuteBisher x.vorher past
    rw [heq]
    exact h.minute (heq ▸ herror)

/-- What the count of the seconds does. -/
theorem sekundeZaehlen_spec (q : Dcf77Decoder) {n : Nat}
    (h : q.newtime.second.toNat = min 60 n) :
    (sekundeZaehlen q).newtime.second.toNat = min 60 (n + 1) ∧ Gleich (sekundeZaehlen q) q := by
  unfold sekundeZaehlen
  split
  · rename_i hlt
    have hlt : q.newtime.second.toNat < 60 := hlt
    refine ⟨?_, rfl, rfl, fun offset hne => getByte_second _ _ hne⟩
    show (q.newtime.second + 1).toNat = _
    rw [UInt8.toNat_add]
    show (q.newtime.second.toNat + 1) % 256 = _
    omega
  · rename_i hge
    have hge : ¬ q.newtime.second.toNat < 60 := hge
    exact ⟨by omega, rfl, rfl, fun _ _ => rfl⟩

theorem Gleich.trans {r : Dcf77Decoder} (h : Gleich p q) (h' : Gleich q r) : Gleich p r :=
  ⟨h.parity.trans h'.parity, h.error.trans h'.error,
    fun offset hne => (h.bytes offset hne).trans (h'.bytes offset hne)⟩

/-- Nothing has come that belongs to the minute. -/
theorem MinuteBisher.weiter {past' : List Flanke} (h : MinuteBisher p past) (hgleich : Gleich q p)
    (hbits : bits past' = bits past) (hgeliefert : geliefert past' = geliefert past)
    (hbeginn : paritaetZuBeginn past' = paritaetZuBeginn past) : MinuteBisher q past' := by
  obtain ⟨hsekunden, p₀, herror, hparity, hfold⟩ := h
  refine ⟨?_, p₀, herror, ?_, ?_⟩
  · rw [hbits, hgeliefert]
    exact hsekunden
  · rw [hbeginn]
    exact hparity
  · rw [hbits]
    exact hgleich.trans hfold

/-- At the beginning of a pulse the second goes on, or a minute begins. -/
theorem EmpfangInv.anfang {t t' : UInt8} (h : EmpfangInv ⟨q, t, false⟩ past) (n : UInt8) :
    EmpfangInv ⟨periodeAuswerten n q, t', true⟩ (.periode n :: past) := by
  obtain ⟨hsecond, hgleich⟩ := sekundeZaehlen_spec q h.second
  have hparity : (sekundeZaehlen q).parity = zelle (paritaet past) := hgleich.parity.trans h.parity
  unfold periodeAuswerten
  by_cases hmarke : minutenanfang n = true
  · rw [if_pos hmarke]
    have hsekunde : sekunde (.periode n :: past) = 0 := if_pos hmarke
    have hbits : bits (.periode n :: past) = [] := if_pos hmarke
    have hbeginn : paritaetZuBeginn (.periode n :: past) = paritaet past := if_pos hmarke
    refine ⟨?_, rfl, hparity, fun _ => ⟨?_, ⟨{ (sekundeZaehlen q).newtime with second := 0 },
      (sekundeZaehlen q).parity, 0⟩, rfl, ?_, ?_⟩⟩
    · rw [hsekunde]
      rfl
    · rw [hbits, geliefert, hsekunde]
      rfl
    · rw [hbeginn]
      exact hparity
    · rw [hbits]
      exact ⟨rfl, rfl, fun _ _ => rfl⟩
  · rw [if_neg hmarke]
    have hsekunde : sekunde (.periode n :: past) = sekunde past + 1 := if_neg hmarke
    have hbits : bits (.periode n :: past) = bits past := if_neg hmarke
    have hbeginn : paritaetZuBeginn (.periode n :: past) = paritaetZuBeginn past := if_neg hmarke
    have hgeliefert : geliefert (.periode n :: past) = geliefert past := by
      have hlow : hoch past = false := h.pegel.symm
      have hhigh : hoch (.periode n :: past) = true := rfl
      rw [geliefert, geliefert, hsekunde, hlow, hhigh]
      rfl
    split
    · refine ⟨?_, rfl, hparity, fun herror => absurd herror (or_flag_ne_zero _ (by decide))⟩
      rw [hsekunde]
      exact hsecond
    · refine ⟨?_, rfl, hparity, fun herror => ?_⟩
      · rw [hsekunde]
        exact hsecond
      · exact (h.minute (hgleich.error.symm.trans herror)).weiter hgleich hbits hgeliefert hbeginn

/-- A pulse ends. -/
theorem geliefert_puls (hhoch : hoch past = true) (n : UInt8) :
    geliefert past = min 38 (sekunde past - 21) ∧
      geliefert (.puls n :: past) = min 38 (sekunde past + 1 - 21) := by
  have hlow : hoch (.puls n :: past) = false := rfl
  have hsame : sekunde (.puls n :: past) = sekunde past := rfl
  simp only [geliefert, hhoch, hlow, hsame, if_true, Bool.false_eq_true, if_false, Nat.add_zero,
    and_self]

/-- A bit does not change the second. -/
theorem decode_second (p : Dcf77Decoder) (b : Bool) :
    (decodeDcf77 (zelle b) p).newtime.second = p.newtime.second := by
  by_cases hs : InfoSekunde p.newtime.second.toNat
  · by_cases hparity : ParitaetSekunde p.newtime.second.toNat
    · rw [decode_paritaet hs hparity]
    · rw [decode_bit hs hparity]
      have hempfangen := (bitno_cases hs).2 hparity
      refine (getByte_updateByte _ _ hempfangen 3).trans (if_neg fun hthree => ?_)
      rw [← hthree] at hempfangen
      exact absurd hempfangen (by decide)
  · rw [decode_andere _ hs]

/-- **A bit of the time.** -/
theorem EmpfangInv.bit {t t' : UInt8} {b : Bool} {n : UInt8} (h : EmpfangInv ⟨q, t, true⟩ past)
    (hbit : pulsBit n = some b) (hs : InfoSekunde (sekunde past)) :
    EmpfangInv ⟨decodeDcf77 (zelle b) q, t', false⟩ (.puls n :: past) := by
  have hsecond : q.newtime.second.toNat = sekunde past := by
    have h60 : q.newtime.second.toNat = min 60 (sekunde past) := h.second
    unfold InfoSekunde at hs
    omega
  have hdecode : decodeDcf77 (zelle b) q = dekodieren q (sekunde past, b) := by
    unfold dekodieren
    rw [← hsecond, UInt8.ofNat_toNat]
  have hbits : bits (.puls n :: past) = bits past ++ [(sekunde past, b)] := by
    simp only [bits, hbit, if_pos hs]
  have hparity : paritaet (.puls n :: past) =
      if ParitaetSekunde (sekunde past) then false else paritaet past ^^ b := by
    simp only [paritaet, hbit, if_pos hs]
  refine ⟨?_, rfl, ?_, fun herror => ?_⟩
  · show (decodeDcf77 (zelle b) q).newtime.second.toNat = _
    rw [decode_second]
    exact h.second
  · show (decodeDcf77 (zelle b) q).parity = _
    rw [hdecode, hparity]
    by_cases hp : ParitaetSekunde (sekunde past)
    · rw [if_pos hp, (dekodieren_paritaet hs hp q b).parity]
      rfl
    · rw [if_neg hp, (dekodieren_bit hs hp q b).parity, ← zelle_xor]
      exact congrArg (· ^^^ zelle b) h.parity
  · have herror : (dekodieren q (sekunde past, b)).dcf77error = 0 := hdecode ▸ herror
    have hvorher : q.dcf77error = 0 := by
      by_cases hp : ParitaetSekunde (sekunde past)
      · exact ((dekodieren_paritaet hs hp q b).error_iff.mp herror).1
      · exact (dekodieren_bit hs hp q b).error.symm.trans herror
    obtain ⟨hsekunden, p₀, herror₀, hparity₀, hfold⟩ := h.minute hvorher
    refine ⟨?_, p₀, herror₀, hparity₀, ?_⟩
    · have hnumber : geliefert past = sekunde past - 21 ∧
          geliefert (.puls n :: past) = sekunde past - 21 + 1 := by
        have hpuls := geliefert_puls h.pegel.symm n
        unfold InfoSekunde at hs
        omega
      rw [hbits, List.map_append, hsekunden, hnumber.1, hnumber.2, List.range'_1_concat,
        Nat.add_sub_cancel' hs.1]
      rfl
    · rw [hbits, List.foldl_append]
      show Gleich (decodeDcf77 (zelle b) q) _
      rw [hdecode]
      exact hfold.dekodieren hs b

/-- At the end of a pulse there is a bit, or an error. -/
theorem EmpfangInv.ende {t t' : UInt8} (h : EmpfangInv ⟨q, t, true⟩ past) (n : UInt8) :
    EmpfangInv ⟨pulsAuswerten n q, t', false⟩ (.puls n :: past) := by
  unfold pulsAuswerten
  cases hbit : pulsBit n with
  | none =>
      have hparity : paritaet (.puls n :: past) = paritaet past := by simp only [paritaet, hbit]
      refine ⟨h.second, rfl, ?_, fun herror => ?_⟩
      · rw [hparity]
        exact h.parity
      · exact absurd herror (or_flag_ne_zero _ (by decide))
  | some b =>
      by_cases hs : InfoSekunde (sekunde past)
      · exact h.bit hbit hs
      · -- a second without a bit of the time
        have hsecond : q.newtime.second.toNat = min 60 (sekunde past) := h.second
        have hdecode : decodeDcf77 (zelle b) q = q := decode_andere _ (by
          rw [hsecond]
          unfold InfoSekunde at hs ⊢
          omega)
        have hbits : bits (.puls n :: past) = bits past := by simp only [bits, hbit, if_neg hs]
        have hparity : paritaet (.puls n :: past) = paritaet past := by
          simp only [paritaet, hbit, if_neg hs]
        have hnumber : geliefert (.puls n :: past) = geliefert past := by
          have hpuls := geliefert_puls h.pegel.symm n
          unfold InfoSekunde at hs
          omega
        show EmpfangInv ⟨decodeDcf77 (zelle b) q, t', false⟩ _
        rw [hdecode]
        refine ⟨h.second, rfl, ?_, fun herror => ?_⟩
        · rw [hparity]
          exact h.parity
        · exact (h.minute herror).weiter ⟨rfl, rfl, fun _ _ => rfl⟩ hbits hnumber rfl

/-- **The step** of the reception. -/
theorem EmpfangInv.tick (h : EmpfangInv x past) (input : Bool) :
    EmpfangInv (x.tick input) (x.flanken input ++ past) := by
  unfold Empfang.tick Empfang.flanken
  have hvorher := h.vorher x.zeit
  by_cases hsame : input = x.dcf77InputOld
  · rw [if_pos hsame, if_pos hsame, hsame]
    exact hvorher
  · rw [if_neg hsame, if_neg hsame]
    cases input with
    | true =>
        rw [show x.dcf77InputOld = false by simpa using hsame] at hvorher
        exact hvorher.anfang x.zeit
    | false =>
        rw [show x.dcf77InputOld = true by simpa using hsame] at hvorher
        exact hvorher.ende x.zeit

/-! ## The end of a minute -/

/-- A list in which each second comes once is known by the bits of the seconds. -/
theorem eq_map_bitVon {l : List (Nat × Bool)} (h : (l.map Prod.fst).Nodup) :
    l = (l.map Prod.fst).map fun s => (s, bitVon l s) := by
  rw [List.map_map]
  conv_lhs => rw [← List.map_id l]
  refine List.map_congr_left fun e he => ?_
  obtain ⟨s, b⟩ := e
  show (s, b) = (s, decide ((s, true) ∈ l))
  rw [Prod.mk.injEq]
  refine ⟨rfl, ?_⟩
  cases b with
  | true => exact (decide_eq_true he).symm
  | false =>
      refine (decide_eq_false fun htrue => ?_).symm
      have hpair := List.inj_on_of_nodup_map h he htrue rfl
      exact Bool.noConfusion (congrArg Prod.snd hpair)

/-- **The end of a minute without an error**: the time is right exactly if the minute began
with an even parity. -/
theorem EmpfangInv.minuteRichtig_iff (h : EmpfangInv x past) (hgueltig : x.MinuteGueltig input)
    (time : RtcClock) : MinuteRichtig (bits past) (zeitUebernehmen time x.vorher.newtime) ↔
      paritaetZuBeginn past = false := by
  obtain ⟨-, hlow, -, hgueltig⟩ := hgueltig
  obtain ⟨hsecond, hgleich⟩ := sekundeZaehlen_spec x.vorher (n := sekunde past) (by
    rw [x.vorher_spec.1]
    exact h.second)
  obtain ⟨herror, h59⟩ := of_decide_eq_true hgueltig
  have herror' : x.vorher.dcf77error = 0 := hgleich.error.symm.trans herror
  have hvorher : x.vorher = x.decoder := x.vorher_spec.2.2 herror'
  obtain ⟨hsekunden, p₀, herror₀, hparity₀, hfold⟩ := h.minute (hvorher ▸ herror')
  -- all of the 38 bits are there
  have hsekunde : sekunde past = 58 := by
    rw [h59] at hsecond
    have h59' : (59 : UInt8).toNat = 59 := rfl
    omega
  have hlow' : hoch past = false := h.pegel.symm.trans hlow
  rw [geliefert, hsekunde, hlow'] at hsekunden
  have hall : (bits past).map Prod.fst = List.range' 21 38 := hsekunden
  have hmap := eq_map_bitVon (hall ▸ List.nodup_range' (s := 21) (n := 38))
  rw [hall] at hmap
  have heffect := minute_effect (bitVon (bits past)) p₀
  rw [sekundenDekodieren, ← hmap] at heffect
  obtain ⟨-, hminute, hstunde, hdatum⟩ := heffect.error_iff.mp (hfold.error.symm.trans
    (hvorher ▸ herror'))
  rw [hparity₀, zelle_xor, zelle_eq_zero_iff] at hminute
  have hbyte (offset : Nat) (hne : offset ≠ 3) : getByte x.vorher.newtime offset =
      getByte ((bits past).foldl Dcf77.dekodieren p₀).newtime offset := by
    rw [hvorher]
    exact hfold.bytes offset hne
  constructor
  · intro hrichtig
    rw [(xorVon_eq _ _ _).mpr hrichtig.paritaetMinute, Bool.xor_false] at hminute
    exact hminute
  · intro hbegonnen
    rw [hbegonnen, Bool.false_xor] at hminute
    exact ⟨hall, (xorVon_eq _ _ _).mp hminute, (xorVon_eq _ _ _).mp hstunde,
      (xorVon_eq _ _ _).mp hdatum,
      (congrArg UInt8.toNat (hbyte 2 (by decide))).trans
        (heffect.minute.trans (summe_eq_bcd _ _ (by decide))),
      (congrArg UInt8.toNat (hbyte 1 (by decide))).trans
        (heffect.hour.trans (summe_eq_bcd _ _ (by decide))),
      (congrArg UInt8.toNat (hbyte 5 (by decide))).trans
        (heffect.dayOfMonth.trans (summe_eq_bcd _ _ (by decide))),
      (congrArg UInt8.toNat (hbyte 0 (by decide))).trans
        (heffect.dayOfWeek.trans (summe_eq_bcd _ _ (by decide))),
      (congrArg UInt8.toNat (hbyte 6 (by decide))).trans
        (heffect.monthOfYear.trans (summe_eq_bcd _ _ (by decide))),
      (congrArg UInt8.toNat (hbyte 7 (by decide))).trans
        (heffect.year.trans (summe_eq_bcd _ _ (by decide)))⟩

/-- What every run of a receiver keeps. -/
def Dcf77Inv (k : Dcf77IO × List Flanke) : Prop := Ruhig k.1.dev ∧ EmpfangInv (empfang k.1.dev) k.2

theorem Dcf77Inv.step {selfaddr : UInt16} {k : Dcf77IO × List Flanke} (h : Dcf77Inv k)
    (e : Dcf77Event) : Dcf77Inv (dcf77Step selfaddr k e) := by
  cases e with
  | tick clock input =>
      have heffect := tick_effect selfaddr clock input h.1
      refine ⟨heffect.ruhig, ?_⟩
      show EmpfangInv (empfang (dcf77ReceiverTimerHandler selfaddr clock input k.1).dev)
        (gemessen selfaddr input k.1 ++ k.2)
      rw [heffect.empfang, heffect.gemessen]
      exact h.2.tick input
  | frame f =>
      have hbleibt := bleibt_besserePruefen f k.1.dev
      refine ⟨hbleibt.ruhig h.1, ?_⟩
      show EmpfangInv (empfang (besserePruefen f k.1.dev)) k.2
      rw [hbleibt.empfang]
      exact h.2

end

/-- A receiver that has just been started is at rest. -/
theorem dcf77Inv_start (c : EdsDcf77ReceiverBlock) : Dcf77Inv (dcf77Start c) :=
  ⟨⟨rfl, rfl⟩, empfangInv_start c⟩

theorem dcf77Inv_run (selfaddr : UInt16) (c : EdsDcf77ReceiverBlock) (es : List Dcf77Event) :
    Dcf77Inv (run (dcf77Step selfaddr) (dcf77Start c) es) :=
  run_invariant (I := Dcf77Inv) (fun _ e h => h.step e) es _ (dcf77Inv_start c)

/-! ## Seconds -/

section

variable {d : Dcf77Decoder} {past : List Flanke}

/-- A tick while the time goes on. -/
theorem zeit_vorher (d : Dcf77Decoder) (l : Bool) {t : Nat} (h : t < 255) :
    (⟨d, UInt8.ofNat t, l⟩ : Empfang).zeit = UInt8.ofNat (t + 1) ∧
      (⟨d, UInt8.ofNat t, l⟩ : Empfang).vorher = d := by
  have hne : UInt8.ofNat t ≠ 0xFF := by
    intro heq
    have hval := congrArg UInt8.toNat heq
    rw [UInt8.toNat_ofNat_of_lt' (by show t < 256; omega)] at hval
    exact absurd hval (Nat.ne_of_lt h)
  exact ⟨(if_pos hne).trans (UInt8.ofNat_add _ _).symm, if_pos hne⟩

/-- The input stays as it is for `n` ticks. -/
theorem run_halten (l : Bool) {t n : Nat} (h : t + n ≤ 255) :
    run empfangStep (⟨d, UInt8.ofNat t, l⟩, past) (List.replicate n l) =
      (⟨d, UInt8.ofNat (t + n), l⟩, past) := by
  induction n generalizing t with
  | zero => rfl
  | succ n ih =>
      obtain ⟨hzeit, hvorher⟩ := zeit_vorher d l (t := t) (by omega)
      have hstep : empfangStep (⟨d, UInt8.ofNat t, l⟩, past) l =
          (⟨d, UInt8.ofNat (t + 1), l⟩, past) := by
        simp only [empfangStep, Empfang.tick, Empfang.flanken, hzeit, hvorher, if_true,
          List.nil_append]
      rw [List.replicate_succ, run_cons, hstep, ih (by omega), Nat.add_right_comm, Nat.add_assoc]

/-- A second: a pulse of `h` ticks begins, and after `T` ticks the next one does. -/
def sekundeTicks (e : Nat × Nat) : List Bool :=
  List.replicate (e.1 - 1) true ++ List.replicate (e.2 - e.1) false ++ [true]

/-- What a second does to the decoder, beside what is measured. -/
def sekundeStep (r : Dcf77Decoder × List Flanke) (e : Nat × Nat) : Dcf77Decoder × List Flanke :=
  (periodeAuswerten (UInt8.ofNat e.2) (pulsAuswerten (UInt8.ofNat e.1) r.1),
    .periode (UInt8.ofNat e.2) :: .puls (UInt8.ofNat e.1) :: r.2)

/-- The end of a pulse, and the ticks up to the next one. -/
theorem run_puls {h n : Nat} (hh : 1 ≤ h) (hn : h + n ≤ 254) :
    run empfangStep (⟨d, 0, true⟩, past)
        (List.replicate (h - 1) true ++ List.replicate (n + 1) false) =
      (⟨pulsAuswerten (UInt8.ofNat h) d, UInt8.ofNat (h + n), false⟩,
        .puls (UInt8.ofNat h) :: past) := by
  obtain ⟨hzeit, hvorher⟩ := zeit_vorher d true (t := h - 1) (by omega)
  have hstep : empfangStep (⟨d, UInt8.ofNat (h - 1), true⟩, past) false =
      (⟨pulsAuswerten (UInt8.ofNat h) d, UInt8.ofNat h, false⟩, .puls (UInt8.ofNat h) :: past) := by
    rw [Nat.sub_add_cancel hh] at hzeit
    simp only [empfangStep, Empfang.tick, Empfang.flanken, hzeit, hvorher, Bool.false_eq_true,
      if_false, List.singleton_append]
  have hhigh : run empfangStep (⟨d, UInt8.ofNat 0, true⟩, past) (List.replicate (h - 1) true) = _ :=
    run_halten true (by omega)
  rw [Nat.zero_add] at hhigh
  rw [run_append, show (0 : UInt8) = UInt8.ofNat 0 from rfl, hhigh, List.replicate_succ, run_cons,
    hstep, run_halten false (by omega)]

/-- **A second**, in one step. -/
theorem run_sekunde {e : Nat × Nat} (hh : 1 ≤ e.1) (hlt : e.1 < e.2) (hT : e.2 ≤ 255) :
    run empfangStep (⟨d, 0, true⟩, past) (sekundeTicks e) =
      (⟨(sekundeStep (d, past) e).1, 0, true⟩, (sekundeStep (d, past) e).2) := by
  obtain ⟨n, hn⟩ := Nat.exists_eq_add_of_lt hlt
  unfold sekundeTicks
  rw [hn, run_append, show e.1 + n + 1 - e.1 = n + 1 by omega, run_puls hh (by omega)]
  obtain ⟨hzeit, hvorher⟩ := zeit_vorher (pulsAuswerten (UInt8.ofNat e.1) d) false (t := e.1 + n)
    (by omega)
  simp only [run_cons, run_nil, empfangStep, Empfang.tick, Empfang.flanken, hzeit, hvorher,
    sekundeStep, hn, Bool.true_eq_false, if_false, if_true, List.singleton_append]

/-- Many seconds. -/
theorem run_sekunden (secs : List (Nat × Nat)) (h : ∀ e ∈ secs, 1 ≤ e.1 ∧ e.1 < e.2 ∧ e.2 ≤ 255) :
    run empfangStep (⟨d, 0, true⟩, past) (secs.flatMap sekundeTicks) =
      (⟨(secs.foldl sekundeStep (d, past)).1, 0, true⟩, (secs.foldl sekundeStep (d, past)).2) := by
  induction secs generalizing d past with
  | nil => rfl
  | cons e secs ih =>
      obtain ⟨h1, h2, h3⟩ := h e List.mem_cons_self
      rw [List.flatMap_cons, run_append, run_sekunde h1 h2 h3,
        ih fun e' he' => h e' (List.mem_cons_of_mem e he')]
      rfl

end

/-- **The published time**: in a run every time that `scan_dcf77` declares valid has one bit
in each of its seconds, even parities and the BCD values of the bits, exactly if every minute
that ends so began with an even parity. -/
theorem dcf77_zeitRichtig_iff (selfaddr : UInt16) (c : EdsDcf77ReceiverBlock)
    (es : List Dcf77Event) :
    Guarded (dcf77Step selfaddr) (ZeitRichtig selfaddr) (dcf77Start c) es ↔
      Guarded (dcf77Step selfaddr) GeradeBegonnen (dcf77Start c) es := by
  refine guarded_congr_of_invariant (I := Dcf77Inv) (fun _ e _ h => h.step e) (fun k e h => ?_) es _
    (dcf77Inv_start c)
  cases e with
  | frame f => exact Iff.rfl
  | tick clock input =>
      have heffect := tick_effect selfaddr clock input h.1
      refine imp_congr_ctx heffect.valid_iff fun hgueltig => ?_
      rw [heffect.time (heffect.valid_iff.mpr hgueltig)]
      exact h.2.minuteRichtig_iff hgueltig _

/-- Reception begins with 20 seconds of zeros and a one; then a pulse is missing. A minute
of zeros follows, but for the bit of second 21. -/
private def gestoert : List (Nat × Nat) :=
  List.replicate 20 (10, 100) ++ [(20, 200)] ++
    (List.replicate 21 (10, 100) ++ [(20, 100)] ++ List.replicate 36 (10, 100))

/-- The levels of the input: the first pulse begins after a second. -/
private def stoerung : List Bool :=
  List.replicate 99 false ++ [true] ++ gestoert.flatMap sekundeTicks ++
    (List.replicate 9 true ++ List.replicate 190 false)

private def standuhr : RtcClock := ⟨1, 0, 0, 30, 1, 1, 20⟩

/-- What the decoder makes of it, beside what is measured. -/
private def nachStoerung : Dcf77Decoder × List Flanke :=
  let r := gestoert.foldl sekundeStep
    (periodeAuswerten 100 ⟨⟨0, 0, 0, 0, 0, 0, 0⟩, 0, 0⟩, [.periode 100])
  (pulsAuswerten 10 r.1, .puls 10 :: r.2)

theorem run_stoerung (c : EdsDcf77ReceiverBlock) :
    run empfangStep (empfang (dcf77Start c).1.dev, []) stoerung =
      (⟨nachStoerung.1, 199, false⟩, nachStoerung.2) := by
  have hstart : run empfangStep (empfang (dcf77Start c).1.dev, [])
      (List.replicate 99 false ++ [true]) =
      (⟨periodeAuswerten 100 ⟨⟨0, 0, 0, 0, 0, 0, 0⟩, 0, 0⟩, 0, true⟩, [.periode 100]) := by
    have hlow : run empfangStep (empfang (dcf77Start c).1.dev, []) (List.replicate 99 false) = _ :=
      run_halten false (t := 0) (n := 99) (by decide)
    rw [run_append, hlow]
    rfl
  unfold stoerung
  rw [run_append, run_append _ (List.replicate 99 false ++ [true]), hstart,
    run_sekunden _ (by decide)]
  exact run_puls (h := 10) (n := 189) (by decide) (by decide)

/-- A minute with an odd parity is published, as 00:01. -/
theorem dcf77_not_zeitRichtig :
    ¬ Guarded (dcf77Step 7) (ZeitRichtig 7) (dcf77Start ⟨10, 0, 1, 0⟩)
      ((stoerung ++ [true]).map (.tick standuhr)) := by
  intro hall
  rw [List.map_append, guarded_append] at hall
  have hlevels : (stoerung.map (.tick standuhr)).filterMap Dcf77Event.pegel = stoerung := by
    rw [List.filterMap_map]
    exact List.filterMap_some
  have hrun := run_empfang 7 (stoerung.map (.tick standuhr)) (dcf77Start ⟨10, 0, 1, 0⟩) ⟨rfl, rfl⟩
  rw [hlevels, show (dcf77Start ⟨10, 0, 1, 0⟩).2 = [] from rfl, run_stoerung] at hrun
  have hlast := hall.2.1
  have hinv := dcf77Inv_run 7 ⟨10, 0, 1, 0⟩ (stoerung.map (.tick standuhr))
  generalize run (dcf77Step 7) (dcf77Start ⟨10, 0, 1, 0⟩) (stoerung.map (.tick standuhr)) = k
    at hrun hlast hinv
  obtain ⟨hempfang, hpast⟩ : empfang k.1.dev = ⟨nachStoerung.1, 199, false⟩ ∧
      k.2 = nachStoerung.2 := by
    rwa [Prod.mk.injEq] at hrun
  have hgueltig : (empfang k.1.dev).MinuteGueltig true := by
    rw [hempfang]
    exact ⟨rfl, rfl, by decide, by decide⟩
  -- the minute is published, and it began with the one of second 21 of the minute before
  have heffect := tick_effect 7 standuhr true hinv.1
  have hrichtig := hlast (heffect.valid_iff.mpr hgueltig)
  rw [heffect.time (heffect.valid_iff.mpr hgueltig), hinv.2.minuteRichtig_iff hgueltig,
    hpast] at hrichtig
  exact absurd hrichtig (by decide)

end OpenHcan.Dcf77
