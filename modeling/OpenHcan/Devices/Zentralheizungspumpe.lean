import Mathlib.Algebra.Order.BigOperators.Group.List
import Mathlib.Algebra.Order.Ring.Nat
import Mathlib.Algebra.Module.Defs
import Mathlib.Data.List.Dedup
import OpenHcan.Devices.Heizung
import OpenHcan.Lib.History
import OpenHcan.Lib.SlotTable

/-!
# Zentralheizungspumpe — the pump of the heating (`devices/zentralheizungspumpe.c`)

The pump keeps the last demand of each heater in a table and runs while the
mean of the demands is high enough, with a hysteresis. Between the thresholds
it keeps its state. With every 50th message of a heater the state is sent again.

The `canix_syslog_P` calls are left out.
-/

namespace OpenHcan.Zentralheizungspumpe

open Lib Powerport Heizung

def einschaltSchwelle : UInt8 := 10
def ausschaltSchwelle : UInt8 := einschaltSchwelle - 5
def zentralheizungspumpeUpdateInterval : UInt16 := 50
def maxAnzHeizungen : Nat := 15

/-- An element of `heizung[]`. The id 255 marks an empty one. -/
structure HeizungEintrag where
  id : UInt8
  waermebedarf : UInt8
deriving DecidableEq, Repr

/-- `heizung[MAX_ANZ_HEIZUNGEN]` -/
structure Heizungen where
  eintraege : List HeizungEintrag
  length_eq : eintraege.length = maxAnzHeizungen
deriving DecidableEq, Repr

/-- `device_data_zentralheizungspumpe`. Of `config` only `gruppe` is read. -/
structure DeviceDataZentralheizungspumpe where
  gruppe : UInt8
  heizung : Heizungen
  state : UInt8
  updateCounter : UInt16
deriving DecidableEq, Repr

/-- What the functions of a pump read and write: its data and the frames the board
has sent. -/
structure PumpeIO where
  dev : DeviceDataZentralheizungspumpe
  sent : List CanixFrame
deriving DecidableEq, Repr

/-- `zentralheizungspumpe_init` -/
def zentralheizungspumpeInit (p : DeviceDataZentralheizungspumpe) :
    DeviceDataZentralheizungspumpe :=
  { p with
    state := 0
    updateCounter := 0
    heizung := ⟨List.replicate maxAnzHeizungen ⟨255, 0⟩, List.length_replicate⟩ }

/-- The message of `sendMessage`. -/
def powerFrame (selfaddr : UInt16) (gruppe zustandToSend : UInt8) : CanixFrame :=
  sfpFrame selfaddr hcanMulticastControl [hcanSrvHes, zustandToSend, gruppe]

/-- `sendMessage` -/
def sendMessage (selfaddr : UInt16) (s : PumpeIO) (zustandToSend : UInt8) : PumpeIO :=
  { s with sent := s.sent ++ [powerFrame selfaddr s.dev.gruppe zustandToSend] }

/-- `waermebedarfSpeichern`, on the elements of the table -/
def speichern (eintraege : List HeizungEintrag) (id waermebedarf : UInt8) : List HeizungEintrag :=
  if eintraege.any fun h => h.id = id then
    eintraege.replaceF fun h => if h.id = id then some ⟨h.id, waermebedarf⟩ else none
  else
    eintraege.replaceF fun h => if h.id = 255 then some ⟨id, waermebedarf⟩ else none

theorem length_speichern (eintraege : List HeizungEintrag) (id waermebedarf : UInt8) :
    (speichern eintraege id waermebedarf).length = eintraege.length := by
  unfold speichern
  split
  all_goals exact List.length_replaceF

/-- `waermebedarfSpeichern` -/
def waermebedarfSpeichern (h : Heizungen) (id waermebedarf : UInt8) : Heizungen :=
  ⟨speichern h.eintraege id waermebedarf, (length_speichern _ _ _).trans h.length_eq⟩

/-- The loop of `getMittlererWaermebedarf`, from the sum and the number so far. -/
def gesamtWaermebedarf : List HeizungEintrag → UInt16 → UInt8 → UInt16 × UInt8
  | [], gesamt, i => (gesamt, i)
  | h :: rest, gesamt, i =>
      if h.waermebedarf > 0 then gesamtWaermebedarf rest (gesamt + h.waermebedarf.toUInt16) (i + 1)
      else gesamtWaermebedarf rest gesamt i

/-- `getMittlererWaermebedarf` -/
def getMittlererWaermebedarf (h : Heizungen) : UInt8 :=
  let r := gesamtWaermebedarf h.eintraege 0 0
  if r.1 = 0 then 0 else UInt8.ofNat (r.1.toNat / r.2.toNat)

/-- The two thresholds. -/
def schalten (selfaddr : UInt16) (s : PumpeIO) (mittlererWaermebedarf : UInt8) : PumpeIO :=
  if s.dev.state = 0 then
    if mittlererWaermebedarf ≥ einschaltSchwelle then
      sendMessage selfaddr ⟨{ s.dev with state := 1 }, s.sent⟩ hcanHesPowerGroupOn
    else s
  else
    if mittlererWaermebedarf ≤ ausschaltSchwelle then
      sendMessage selfaddr ⟨{ s.dev with state := 0 }, s.sent⟩ hcanHesPowerGroupOff
    else s

/-- `p->update_counter--` -/
def abzaehlen (s : PumpeIO) : PumpeIO :=
  ⟨{ s.dev with updateCounter := s.dev.updateCounter - 1 }, s.sent⟩

/-- `if (p->update_counter == 0) …` and the countdown -/
def regelmaessigesUpdate (selfaddr : UInt16) (s : PumpeIO) : PumpeIO :=
  if s.dev.updateCounter = 0 then
    abzaehlen (sendMessage selfaddr
      ⟨{ s.dev with updateCounter := zentralheizungspumpeUpdateInterval }, s.sent⟩
      (if s.dev.state ≠ 0 then hcanHesPowerGroupOn else hcanHesPowerGroupOff))
  else abzaehlen s

/-- `zentralheizungspumpe_can_callback` -/
def zentralheizungspumpeCanCallback (selfaddr : UInt16) (s : PumpeIO) (frame : CanixFrame) :
    PumpeIO :=
  if frame.byte 1 = hcanHesHeizungWaermebedarfInfo then
    let heizung := waermebedarfSpeichern s.dev.heizung (frame.byte 2) (frame.byte 3)
    regelmaessigesUpdate selfaddr
      (schalten selfaddr ⟨{ s.dev with heizung := heizung }, s.sent⟩
        (getMittlererWaermebedarf heizung))
  else s

/-- A pump after a start of the board. -/
def pumpeStart (gruppe : UInt8) : PumpeIO :=
  ⟨zentralheizungspumpeInit ⟨gruppe, ⟨List.replicate maxAnzHeizungen ⟨0, 0⟩, List.length_replicate⟩,
    0, 0⟩, []⟩

/-! ## The past -/

/-- A message of a heater. -/
def IstInfo (f : CanixFrame) : Prop := f.byte 1 = hcanHesHeizungWaermebedarfInfo

instance (f : CanixFrame) : Decidable (IstInfo f) := by
  unfold IstInfo
  infer_instance

/-- The ids of the messages. -/
def ids (fs : List CanixFrame) : List UInt8 := (fs.filter fun f => IstInfo f).map (·.byte 2)

/-- The last demand of a heater. The past is newest first. -/
def bedarf : List CanixFrame → UInt8 → Option UInt8
  | [], _ => none
  | f :: past, id => if IstInfo f ∧ id = f.byte 2 then some (f.byte 3) else bedarf past id

/-- The last demands of all heaters that are not zero. -/
def bedarfe (past : List CanixFrame) : List UInt8 :=
  ((ids past).dedup.filterMap (bedarf past)).filter (· ≠ 0)

/-- The integer mean of the demands that are not zero. -/
def mittel (past : List CanixFrame) : Nat :=
  ((bedarfe past).map UInt8.toNat).sum / (bedarfe past).length

/-- An element of the table that is in use, as id and demand. -/
def eintrag (h : HeizungEintrag) : Option (UInt8 × UInt8) :=
  if h.id = 255 then none else some (h.id, h.waermebedarf)

/-- The table has each id that has been heard of once, with its last demand, and
nothing else. -/
structure TabelleRichtig (past : List CanixFrame) (eintraege : List HeizungEintrag) : Prop where
  represents : Represents (SlotPool.contents eintrag eintraege) (bedarf past)
  leer : ∀ h ∈ eintraege, h.id = 255 → h.waermebedarf = 0

/-- What holds after a frame: the table is right, the pump runs above the upper threshold,
stands below the lower one and stays as it was between them, and the last message to the
group says so. -/
structure Geregelt (selfaddr : UInt16) (gruppe : UInt8) (k : PumpeIO × List CanixFrame)
    (f : CanixFrame) : Prop where
  tabelle : TabelleRichtig (f :: k.2)
    (zentralheizungspumpeCanCallback selfaddr k.1 f).dev.heizung.eintraege
  ein : einschaltSchwelle.toNat ≤ mittel (f :: k.2) →
    (zentralheizungspumpeCanCallback selfaddr k.1 f).dev.state = 1
  aus : mittel (f :: k.2) ≤ ausschaltSchwelle.toNat →
    (zentralheizungspumpeCanCallback selfaddr k.1 f).dev.state = 0
  bleibt : ausschaltSchwelle.toNat < mittel (f :: k.2) →
    mittel (f :: k.2) < einschaltSchwelle.toNat →
    (zentralheizungspumpeCanCallback selfaddr k.1 f).dev.state = k.1.dev.state
  nachricht : ∀ m, (zentralheizungspumpeCanCallback selfaddr k.1 f).sent.getLast? = some m →
    m = powerFrame selfaddr gruppe
      (if (zentralheizungspumpeCanCallback selfaddr k.1 f).dev.state = 1 then hcanHesPowerGroupOn
        else hcanHesPowerGroupOff)

/-! ## The table -/

section

variable {past : List CanixFrame} {f : CanixFrame} {l : List HeizungEintrag} {id w : UInt8}

@[simp] theorem eintrag_of_ne {h : HeizungEintrag} (hid : h.id ≠ 255) :
    eintrag h = some (h.id, h.waermebedarf) := if_neg hid

@[simp] theorem eintrag_leer {h : HeizungEintrag} (hid : h.id = 255) : eintrag h = none :=
  if_pos hid

theorem mem_contents_eintrag {v : UInt8} :
    (id, v) ∈ SlotPool.contents eintrag l ↔ id ≠ 255 ∧ ⟨id, v⟩ ∈ l := by
  unfold SlotPool.contents eintrag
  rw [List.mem_filterMap]
  constructor
  · rintro ⟨h, hmem, heq⟩
    split at heq
    · exact nomatch heq
    · rename_i hid
      cases heq
      exact ⟨hid, hmem⟩
  · rintro ⟨hid, hmem⟩
    exact ⟨_, hmem, if_neg hid⟩

/-- What storing does: it writes to the element of the id, or, if there is none, to a free
one. -/
theorem speichern_cases (id w : UInt8) (hfree : ∃ e ∈ l, e.id = id ∨ e.id = 255) :
    ∃ pre b post, l = pre ++ b :: post ∧ speichern l id w = pre ++ ⟨id, w⟩ :: post ∧
      (b.id = id ∨ b.id = 255 ∧ ∀ e ∈ l, e.id ≠ id) := by
  unfold speichern
  by_cases hany : ∃ e ∈ l, e.id = id
  · obtain ⟨e, hmem, heq⟩ := hany
    rw [if_pos (List.any_eq_true.mpr ⟨e, hmem, decide_eq_true heq⟩)]
    obtain ⟨b, x, pre, post, -, hb, hl, hnew⟩ := List.exists_of_replaceF
      (p := fun e : HeizungEintrag => if e.id = id then some (⟨e.id, w⟩ : HeizungEintrag) else none)
      hmem (if_pos heq)
    split at hb
    · rename_i hbid
      cases hb
      exact ⟨pre, b, post, hl, hbid ▸ hnew, Or.inl hbid⟩
    · exact nomatch hb
  · have hnone : ∀ e ∈ l, e.id ≠ id := fun e hmem heq => hany ⟨e, hmem, heq⟩
    obtain ⟨e, hmem, heq | heq⟩ := hfree
    · exact absurd heq (hnone e hmem)
    rw [if_neg (by simpa using hnone)]
    obtain ⟨b, x, pre, post, -, hb, hl, hnew⟩ := List.exists_of_replaceF
      (p := fun e : HeizungEintrag => if e.id = 255 then some (⟨id, w⟩ : HeizungEintrag) else none)
      hmem (if_pos heq)
    split at hb
    · rename_i hbid
      cases hb
      exact ⟨pre, b, post, hl, hnew, Or.inr ⟨hbid, hnone⟩⟩
    · exact nomatch hb

/-- **A demand is stored**: the table of a map becomes the table of the map with the new
demand, if the id has an element or an element is free. -/
theorem represents_speichern {m : UInt8 → Option UInt8}
    (h : Represents (SlotPool.contents eintrag l) m) (hid : id ≠ 255)
    (hfree : ∃ e ∈ l, e.id = id ∨ e.id = 255) :
    Represents (SlotPool.contents eintrag (speichern l id w)) (Function.update m id (some w)) := by
  obtain ⟨pre, b, post, rfl, hnew, hb⟩ := speichern_cases id w hfree
  have hput : eintrag ⟨id, w⟩ = some (id, w) := eintrag_of_ne hid
  rw [hnew]
  rcases hb with rfl | ⟨hb, hnone⟩
  · rw [SlotPool.contents_append, SlotPool.contents_cons_some hput]
    rw [SlotPool.contents_append, SlotPool.contents_cons_some (eintrag_of_ne hid)] at h
    exact h.replace
  · have hfresh : m id = none := by
      rw [Option.eq_none_iff_forall_not_mem]
      intro v hv
      exact hnone _ (mem_contents_eintrag.mp ((h.mem_iff id v).mpr hv)).2 rfl
    exact (h.cons hfresh).of_perm (SlotPool.contents_put_perm (eintrag_leer hb) hput)

/-- The empty elements stay empty. -/
theorem leer_speichern (h : ∀ e ∈ l, e.id = 255 → e.waermebedarf = 0) (hid : id ≠ 255)
    (hfree : ∃ e ∈ l, e.id = id ∨ e.id = 255) :
    ∀ e ∈ speichern l id w, e.id = 255 → e.waermebedarf = 0 := by
  obtain ⟨pre, b, post, rfl, hnew, -⟩ := speichern_cases id w hfree
  rw [hnew]
  intro e hmem hleer
  rcases List.mem_append.mp hmem with hpre | hrest
  · exact h e (List.mem_append_left _ hpre) hleer
  · rcases List.mem_cons.mp hrest with rfl | hpost
    · exact absurd hleer hid
    · exact h e (List.mem_append_right _ (List.mem_cons_of_mem _ hpost)) hleer

/-! ## The ids -/

theorem ids_cons_info (hf : IstInfo f) : ids (f :: past) = f.byte 2 :: ids past := by
  simp [ids, hf]

theorem bedarf_cons_info (hf : IstInfo f) :
    bedarf (f :: past) = Function.update (bedarf past) (f.byte 2) (some (f.byte 3)) := by
  funext id
  simp only [bedarf, Function.update_apply, hf, true_and]

theorem ids_cons_other (hf : ¬ IstInfo f) : ids (f :: past) = ids past := by
  simp [ids, hf]

theorem bedarf_cons_other (hf : ¬ IstInfo f) : bedarf (f :: past) = bedarf past := by
  funext id
  exact if_neg fun h => hf h.1

/-- An id has a demand when there was a message of it. -/
theorem mem_ids_iff : id ∈ ids past ↔ (bedarf past id).isSome := by
  induction past with
  | nil => simp [ids, bedarf]
  | cons f past ih =>
      by_cases hf : IstInfo f
      · rw [ids_cons_info hf, bedarf_cons_info hf, List.mem_cons, ih]
        by_cases hid : id = f.byte 2
        · simp [hid]
        · simp [hid]
      · rw [ids_cons_other hf, bedarf_cons_other hf, ih]

/-- The demands of the past, with their ids. -/
theorem represents_ids (past : List CanixFrame) :
    Represents ((ids past).dedup.filterMap fun id => (bedarf past id).map (id, ·)) (bedarf past) :=
  represents_filterMap (List.nodup_dedup _) fun k v hv => by
    rw [List.mem_dedup, mem_ids_iff, hv]
    rfl

/-- As many elements are in use as ids have been heard of. -/
theorem TabelleRichtig.length_contents (h : TabelleRichtig past l) :
    (SlotPool.contents eintrag l).length = (ids past).dedup.length := by
  rw [(h.represents.perm (represents_ids past)).length_eq]
  have hall : ∀ id ∈ (ids past).dedup, (bedarf past id).isSome := fun id hid =>
    mem_ids_iff.mp (List.mem_dedup.mp hid)
  generalize (ids past).dedup = ks at hall
  induction ks with
  | nil => rfl
  | cons k ks ih =>
      obtain ⟨v, hv⟩ := Option.isSome_iff_exists.mp (hall k List.mem_cons_self)
      rw [List.filterMap_cons_some (by rw [hv]; rfl), List.length_cons,
        ih fun id hid => hall id (List.mem_cons_of_mem k hid), List.length_cons]

/-- While fewer ids have been heard of than there are elements, one is free. -/
theorem TabelleRichtig.exists_free (h : TabelleRichtig past l)
    (hlen : (ids past).dedup.length < l.length) : ∃ e ∈ l, e.id = 255 := by
  by_contra hnone
  have hall : SlotPool.contents eintrag l = l.map fun e => (e.id, e.waermebedarf) := by
    unfold SlotPool.contents
    rw [← List.filterMap_eq_map]
    apply List.filterMap_congr
    intro e hmem
    exact eintrag_of_ne fun hleer => hnone ⟨e, hmem, hleer⟩
  have hcount := h.length_contents
  rw [hall, List.length_map] at hcount
  omega

/-- **The table step**: a frame keeps the table right. -/
theorem TabelleRichtig.info (h : TabelleRichtig past l) (hf : IstInfo f) (hid : f.byte 2 ≠ 255)
    (hlen : (ids (f :: past)).dedup.length ≤ l.length) :
    TabelleRichtig (f :: past) (speichern l (f.byte 2) (f.byte 3)) := by
  have hfree : ∃ e ∈ l, e.id = f.byte 2 ∨ e.id = 255 := by
    by_cases hknown : f.byte 2 ∈ ids past
    · obtain ⟨v, hv⟩ := Option.isSome_iff_exists.mp (mem_ids_iff.mp hknown)
      exact ⟨_, (mem_contents_eintrag.mp ((h.represents.mem_iff _ v).mpr hv)).2, Or.inl rfl⟩
    · rw [ids_cons_info hf, List.dedup_cons_of_notMem hknown, List.length_cons] at hlen
      obtain ⟨e, hmem, hleer⟩ := h.exists_free hlen
      exact ⟨e, hmem, Or.inr hleer⟩
  refine ⟨?_, leer_speichern h.leer hid hfree⟩
  rw [bedarf_cons_info hf]
  exact represents_speichern h.represents hid hfree

/-! ## The mean -/

/-- The demands in the table that are not zero. -/
def verbraucher (l : List HeizungEintrag) : List UInt8 := (l.map (·.waermebedarf)).filter (· ≠ 0)

/-- The loop computes the sum and the number, as long as they fit. -/
theorem gesamtWaermebedarf_eq (l : List HeizungEintrag) (gesamt : UInt16) (i : UInt8)
    (hsum : gesamt.toNat + ((verbraucher l).map UInt8.toNat).sum < 65536)
    (hnum : i.toNat + (verbraucher l).length < 256) :
    (gesamtWaermebedarf l gesamt i).1.toNat =
        gesamt.toNat + ((verbraucher l).map UInt8.toNat).sum ∧
      (gesamtWaermebedarf l gesamt i).2.toNat = i.toNat + (verbraucher l).length := by
  induction l generalizing gesamt i with
  | nil => exact ⟨rfl, rfl⟩
  | cons h rest ih =>
      unfold gesamtWaermebedarf
      by_cases hzero : h.waermebedarf = 0
      · have hsame : verbraucher (h :: rest) = verbraucher rest := by simp [verbraucher, hzero]
        rw [hsame] at hsum hnum ⊢
        rw [if_neg (by rw [hzero]; decide)]
        exact ih gesamt i hsum hnum
      · have hcons : verbraucher (h :: rest) = h.waermebedarf :: verbraucher rest := by
          simp [verbraucher, hzero]
        rw [hcons, List.map_cons, List.sum_cons] at hsum
        rw [hcons, List.length_cons] at hnum
        have hpos : h.waermebedarf > 0 := UInt8.pos_iff_ne_zero.mpr hzero
        have hgesamt : (gesamt + h.waermebedarf.toUInt16).toNat =
            gesamt.toNat + h.waermebedarf.toNat := by
          rw [UInt16.toNat_add, UInt8.toNat_toUInt16]
          omega
        have hi : (i + 1).toNat = i.toNat + 1 := by
          rw [UInt8.toNat_add]
          show (i.toNat + 1) % 256 = _
          omega
        obtain ⟨hfst, hsnd⟩ := ih (gesamt + h.waermebedarf.toUInt16) (i + 1)
          (by rw [hgesamt]; omega) (by rw [hi]; omega)
        rw [if_pos hpos, hfst, hsnd, hcons, hgesamt, hi]
        simp only [List.map_cons, List.sum_cons, List.length_cons]
        omega

/-- The table has the demands of the past. -/
theorem TabelleRichtig.verbraucher_perm (h : TabelleRichtig past l) :
    (verbraucher l).Perm (bedarfe past) := by
  have hleft : verbraucher l = ((SlotPool.contents eintrag l).map Prod.snd).filter (· ≠ 0) := by
    have hleer := h.leer
    clear h
    induction l with
    | nil => rfl
    | cons e l ih =>
        have hrest := ih fun e' he' => hleer e' (List.mem_cons_of_mem e he')
        by_cases hid : e.id = 255
        · rw [SlotPool.contents_cons_none (eintrag_leer hid), ← hrest]
          simp [verbraucher, hleer e List.mem_cons_self hid]
        · rw [SlotPool.contents_cons_some (eintrag_of_ne hid), List.map_cons, List.filter_cons,
            ← hrest]
          simp [verbraucher, List.filter_cons]
  have hright : bedarfe past = (((ids past).dedup.filterMap
      fun id => (bedarf past id).map (id, ·)).map Prod.snd).filter (· ≠ 0) := by
    unfold bedarfe
    rw [List.map_filterMap]
    congr 2
    funext id
    simp
  rw [hleft, hright]
  exact ((h.represents.perm (represents_ids past)).map _).filter _

/-- **The mean** of the table is the mean of the past. -/
theorem getMittlererWaermebedarf_eq {h : Heizungen} (ht : TabelleRichtig past h.eintraege) :
    (getMittlererWaermebedarf h).toNat = mittel past := by
  have hperm := ht.verbraucher_perm
  have hnum : (verbraucher h.eintraege).length ≤ 15 := by
    have hle : (verbraucher h.eintraege).length ≤ (h.eintraege.map (·.waermebedarf)).length :=
      List.length_filter_le _ _
    rw [List.length_map, h.length_eq] at hle
    exact hle
  have hsum : ((verbraucher h.eintraege).map UInt8.toNat).sum ≤
      (verbraucher h.eintraege).length * 255 := by
    have hle := List.sum_le_card_nsmul ((verbraucher h.eintraege).map UInt8.toNat) 255 (by
      intro n hn
      obtain ⟨w, -, rfl⟩ := List.mem_map.mp hn
      exact Nat.le_of_lt_succ w.toNat_lt)
    rwa [List.length_map, smul_eq_mul] at hle
  obtain ⟨hfst, hsnd⟩ := gesamtWaermebedarf_eq h.eintraege 0 0
    (by show 0 + _ < _; omega) (by show 0 + _ < _; omega)
  have hzero : ((0 : UInt16).toNat = 0) ∧ ((0 : UInt8).toNat = 0) := ⟨rfl, rfl⟩
  rw [hzero.1, Nat.zero_add] at hfst
  rw [hzero.2, Nat.zero_add] at hsnd
  have hmittel : mittel past = ((verbraucher h.eintraege).map UInt8.toNat).sum /
      (verbraucher h.eintraege).length := by
    unfold mittel
    rw [(hperm.map _).sum_eq, hperm.length_eq]
  rw [hmittel, ← hfst, ← hsnd]
  unfold getMittlererWaermebedarf
  by_cases hnull : (gesamtWaermebedarf h.eintraege 0 0).1 = 0
  · simp [hnull]
  · have hlt : (gesamtWaermebedarf h.eintraege 0 0).1.toNat /
        (gesamtWaermebedarf h.eintraege 0 0).2.toNat < 256 := by
      rw [hfst, hsnd]
      exact Nat.lt_of_le_of_lt (Nat.div_le_of_le_mul hsum) (by decide)
    simp only [hnull, if_false]
    exact UInt8.toNat_ofNat_of_lt' hlt

/-! ## One frame -/

variable {selfaddr : UInt16} {gruppe : UInt8} {s s' : PumpeIO}

/-- The pump is on or off, and the last message says so. -/
structure Gemeldet (selfaddr : UInt16) (gruppe : UInt8) (s : PumpeIO) : Prop where
  gruppe_eq : s.dev.gruppe = gruppe
  state : s.dev.state = 0 ∨ s.dev.state = 1
  nachricht : ∀ m, s.sent.getLast? = some m → m = powerFrame selfaddr gruppe
    (if s.dev.state = 1 then hcanHesPowerGroupOn else hcanHesPowerGroupOff)

/-- The thresholds have been applied to a pump with this table and this state. -/
structure Geschaltet (mittel : Nat) (heizung : Heizungen) (state : UInt8) (s' : PumpeIO) :
    Prop where
  heizung : s'.dev.heizung = heizung
  ein : einschaltSchwelle.toNat ≤ mittel → s'.dev.state = 1
  aus : mittel ≤ ausschaltSchwelle.toNat → s'.dev.state = 0
  bleibt : ausschaltSchwelle.toNat < mittel → mittel < einschaltSchwelle.toNat →
    s'.dev.state = state

/-- A message that is sent is the last one. -/
theorem gemeldet_sendMessage (s : PumpeIO) (zustand : UInt8) (hgruppe : s.dev.gruppe = gruppe)
    (hstate : s.dev.state = 0 ∧ zustand = hcanHesPowerGroupOff ∨
      s.dev.state = 1 ∧ zustand = hcanHesPowerGroupOn) :
    Gemeldet selfaddr gruppe (sendMessage selfaddr s zustand) := by
  refine ⟨hgruppe, hstate.imp And.left And.left, fun m hm => ?_⟩
  have hlast : m = powerFrame selfaddr s.dev.gruppe zustand := by
    unfold sendMessage at hm
    rw [List.getLast?_append_cons, List.getLast?_singleton] at hm
    exact (Option.some.inj hm).symm
  rw [hlast, hgruppe]
  rcases hstate with ⟨hstate, rfl⟩ | ⟨hstate, rfl⟩
  · show _ = powerFrame selfaddr gruppe (if s.dev.state = 1 then _ else _)
    rw [hstate]
    rfl
  · show _ = powerFrame selfaddr gruppe (if s.dev.state = 1 then _ else _)
    rw [hstate]
    rfl

theorem Gemeldet.schalten (h : Gemeldet selfaddr gruppe s) (mittel : UInt8) :
    Gemeldet selfaddr gruppe (schalten selfaddr s mittel) ∧
      Geschaltet mittel.toNat s.dev.heizung s.dev.state (schalten selfaddr s mittel) := by
  have hein : mittel ≥ einschaltSchwelle ↔ einschaltSchwelle.toNat ≤ mittel.toNat := Iff.rfl
  have haus : mittel ≤ ausschaltSchwelle ↔ mittel.toNat ≤ ausschaltSchwelle.toNat := Iff.rfl
  have hlt : ausschaltSchwelle.toNat < einschaltSchwelle.toNat := by decide
  unfold Zentralheizungspumpe.schalten
  rcases h.state with hstate | hstate
  · rw [if_pos hstate]
    split
    · rename_i hge
      refine ⟨gemeldet_sendMessage _ _ h.gruppe_eq (Or.inr ⟨rfl, rfl⟩), rfl, fun _ => rfl, ?_, ?_⟩
      · intro hle
        exact absurd (hein.mp hge) (by omega)
      · intro _ hnicht
        exact absurd (hein.mp hge) (by omega)
    · rename_i hge
      exact ⟨h, rfl, fun hle => absurd (hein.mpr hle) hge, fun _ => hstate, fun _ _ => rfl⟩
  · rw [if_neg (by rw [hstate]; decide)]
    split
    · rename_i hle
      refine ⟨gemeldet_sendMessage _ _ h.gruppe_eq (Or.inl ⟨rfl, rfl⟩), rfl, ?_, fun _ => rfl, ?_⟩
      · intro hge
        exact absurd (haus.mp hle) (by omega)
      · intro hnicht
        exact absurd (haus.mp hle) (by omega)
    · rename_i hle
      exact ⟨h, rfl, fun _ => hstate, fun hge => absurd (haus.mpr hge) hle, fun _ _ => rfl⟩

/-- The counter of the update does not matter. -/
theorem Gemeldet.abzaehlen (h : Gemeldet selfaddr gruppe s) :
    Gemeldet selfaddr gruppe (abzaehlen s) :=
  ⟨h.gruppe_eq, h.state, h.nachricht⟩

/-- The update leaves the table and the state alone. -/
theorem regelmaessigesUpdate_bleibt (selfaddr : UInt16) (s : PumpeIO) :
    (regelmaessigesUpdate selfaddr s).dev.heizung = s.dev.heizung ∧
      (regelmaessigesUpdate selfaddr s).dev.state = s.dev.state := by
  obtain ⟨⟨gruppe, heizung, state, updateCounter⟩, sent⟩ := s
  unfold regelmaessigesUpdate
  split
  all_goals exact ⟨rfl, rfl⟩

/-- The update repeats the state. -/
theorem Gemeldet.regelmaessigesUpdate (h : Gemeldet selfaddr gruppe s) :
    Gemeldet selfaddr gruppe (regelmaessigesUpdate selfaddr s) := by
  unfold Zentralheizungspumpe.regelmaessigesUpdate
  by_cases hzero : s.dev.updateCounter = 0
  · rw [if_pos hzero]
    refine (gemeldet_sendMessage _ _ (by exact h.gruppe_eq) ?_).abzaehlen
    rcases h.state with hstate | hstate
    · exact Or.inl ⟨hstate, if_neg (not_not_intro hstate)⟩
    · exact Or.inr ⟨hstate, if_pos (by rw [hstate]; decide)⟩
  · rw [if_neg hzero]
    exact h.abzaehlen

/-- **A message of a heater**: the table is written, then the thresholds see the new mean. -/
theorem Gemeldet.info (h : Gemeldet selfaddr gruppe s) (hf : IstInfo f) :
    Gemeldet selfaddr gruppe (zentralheizungspumpeCanCallback selfaddr s f) ∧
      Geschaltet (getMittlererWaermebedarf
          (waermebedarfSpeichern s.dev.heizung (f.byte 2) (f.byte 3))).toNat
        (waermebedarfSpeichern s.dev.heizung (f.byte 2) (f.byte 3)) s.dev.state
        (zentralheizungspumpeCanCallback selfaddr s f) := by
  have hinfo : f.byte 1 = hcanHesHeizungWaermebedarfInfo := hf
  unfold zentralheizungspumpeCanCallback
  rw [if_pos hinfo]
  generalize waermebedarfSpeichern s.dev.heizung (f.byte 2) (f.byte 3) = t
  have hgespeichert : Gemeldet selfaddr gruppe ⟨{ s.dev with heizung := t }, s.sent⟩ :=
    ⟨h.gruppe_eq, h.state, h.nachricht⟩
  obtain ⟨hgemeldet, hgeschaltet⟩ := hgespeichert.schalten (getMittlererWaermebedarf t)
  obtain ⟨hheizung, hstate⟩ := regelmaessigesUpdate_bleibt selfaddr
    (Zentralheizungspumpe.schalten selfaddr ⟨{ s.dev with heizung := t }, s.sent⟩
      (getMittlererWaermebedarf t))
  exact ⟨hgemeldet.regelmaessigesUpdate, hheizung.trans hgeschaltet.heizung,
    fun hm => hstate.trans (hgeschaltet.ein hm), fun hm => hstate.trans (hgeschaltet.aus hm),
    fun hm hm' => hstate.trans (hgeschaltet.bleibt hm hm')⟩

/-! ## Whole runs -/

variable {k : PumpeIO × List CanixFrame}

/-- What every run keeps. -/
structure PumpeInv (selfaddr : UInt16) (gruppe : UInt8) (k : PumpeIO × List CanixFrame) : Prop where
  tabelle : TabelleRichtig k.2 k.1.dev.heizung.eintraege
  gemeldet : Gemeldet selfaddr gruppe k.1
  ein : einschaltSchwelle.toNat ≤ mittel k.2 → k.1.dev.state = 1
  aus : mittel k.2 ≤ ausschaltSchwelle.toNat → k.1.dev.state = 0

theorem pumpeInv_start : PumpeInv selfaddr gruppe (pumpeStart gruppe, []) := by
  have hmittel : mittel [] = 0 := by simp [mittel, bedarfe, ids]
  refine ⟨⟨represents_nil, ?_⟩, ⟨rfl, Or.inl rfl, fun m hm => nomatch hm⟩, ?_, fun _ => rfl⟩
  · intro e hmem _
    rw [List.eq_of_mem_replicate hmem]
  · intro h
    rw [hmittel] at h
    exact absurd h (by decide)

/-- A heater fits into the table: its id is not 255, and it is one of at most
`MAX_ANZ_HEIZUNGEN`. -/
def Passt (k : PumpeIO × List CanixFrame) (f : CanixFrame) : Prop :=
  (IstInfo f → f.byte 2 ≠ 255) ∧ (ids (f :: k.2)).dedup.length ≤ maxAnzHeizungen

/-- **The step** of a pump. -/
theorem PumpeInv.step (h : PumpeInv selfaddr gruppe k) (hpasst : Passt k f) :
    PumpeInv selfaddr gruppe (recorded (zentralheizungspumpeCanCallback selfaddr) k f) ∧
      Geregelt selfaddr gruppe k f := by
  by_cases hf : IstInfo f
  · have htabelle := h.tabelle.info hf (hpasst.1 hf) (by
      rw [k.1.dev.heizung.length_eq]
      exact hpasst.2)
    obtain ⟨hgemeldet, hheizung, hein, haus, hbleibt⟩ := h.gemeldet.info hf
    rw [getMittlererWaermebedarf_eq htabelle] at hein haus hbleibt
    have htabelle' : TabelleRichtig (f :: k.2)
        (zentralheizungspumpeCanCallback selfaddr k.1 f).dev.heizung.eintraege := by
      rw [hheizung]
      exact htabelle
    exact ⟨⟨htabelle', hgemeldet, hein, haus⟩, htabelle', hein, haus, hbleibt, hgemeldet.nachricht⟩
  · -- a frame of another kind changes neither the pump nor the mean
    have hcallback : zentralheizungspumpeCanCallback selfaddr k.1 f = k.1 := if_neg hf
    have hmittel : mittel (f :: k.2) = mittel k.2 := by
      unfold mittel bedarfe
      rw [ids_cons_other hf, bedarf_cons_other hf]
    have htabelle : TabelleRichtig (f :: k.2) k.1.dev.heizung.eintraege :=
      ⟨(bedarf_cons_other hf).symm ▸ h.tabelle.represents, h.tabelle.leer⟩
    have hinv : PumpeInv selfaddr gruppe (k.1, f :: k.2) :=
      ⟨htabelle, h.gemeldet, fun hm => h.ein (hmittel ▸ hm), fun hm => h.aus (hmittel ▸ hm)⟩
    constructor
    · unfold recorded
      rw [hcallback]
      exact hinv
    · constructor
      all_goals rw [hcallback]
      · exact hinv.tabelle
      · exact hinv.ein
      · exact hinv.aus
      · exact fun _ _ => rfl
      · exact h.gemeldet.nachricht

end

/-- **The heating pump**: whatever at most `MAX_ANZ_HEIZUNGEN` heaters send in whatever order,
after each frame the table is right, the pump follows the mean with its hysteresis, and the
last message to the group says so. -/
theorem zentralheizungspumpe_geregelt (selfaddr : UInt16) (gruppe : UInt8)
    (fs : List CanixFrame) (hids : 255 ∉ ids fs) (hanz : (ids fs).dedup.length ≤ maxAnzHeizungen) :
    Guarded (recorded (zentralheizungspumpeCanCallback selfaddr)) (Geregelt selfaddr gruppe)
      (pumpeStart gruppe, []) fs := by
  have hpasst : Guarded (recorded (zentralheizungspumpeCanCallback selfaddr)) Passt
      (pumpeStart gruppe, []) fs := by
    rw [guarded_iff_split]
    rintro pre f post rfl
    rw [run_recorded, List.append_nil]
    have hsub : ∀ id ∈ ids (f :: pre.reverse), id ∈ ids (pre ++ f :: post) := by
      intro id hid
      obtain ⟨g, hg, rfl⟩ := List.mem_map.mp hid
      refine List.mem_map_of_mem (List.mem_filter.mpr ⟨?_, (List.mem_filter.mp hg).2⟩)
      have hmem := (List.mem_filter.mp hg).1
      rw [List.mem_cons, List.mem_reverse] at hmem
      rw [List.mem_append, List.mem_cons]
      exact hmem.elim (fun h => Or.inr (Or.inl h)) Or.inl
    refine ⟨fun hf heq => hids (hsub 255 ?_), ?_⟩
    · rw [ids_cons_info hf, heq]
      exact List.mem_cons_self
    · refine Nat.le_trans (List.subperm_of_subset (List.nodup_dedup _) ?_).length_le hanz
      exact fun id hid => List.mem_dedup.mpr (hsub id (List.mem_dedup.mp hid))
  exact guarded_of_guarded (fun _ _ hg hk => (PumpeInv.step hk hg).1)
    (fun _ _ hg hk => (PumpeInv.step hk hg).2) fs _ pumpeInv_start hpasst

/-- Two heaters: the pump starts, and stops when both need nothing any more. -/
theorem zentralheizungspumpe_geregelt_zwei :
    Guarded (recorded (zentralheizungspumpeCanCallback 7)) (Geregelt 7 40) (pumpeStart 40, [])
      ([(3, 12), (4, 30), (3, 0), (4, 0)].map fun p : UInt8 × UInt8 =>
        sfpFrame 9 hcanMulticastInfo
          [hcanSrvHes, hcanHesHeizungWaermebedarfInfo, p.1, p.2]) :=
  zentralheizungspumpe_geregelt 7 40 _ (by decide) (by decide)

end OpenHcan.Zentralheizungspumpe
