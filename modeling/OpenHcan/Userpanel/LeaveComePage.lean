import OpenHcan.Userpanel.MonitoreRuns
import OpenHcan.Userpanel.WeckPage

/-!
# LeaveComePage — leaving the house (`userpanel-v01/leave_come_page.c`)

The page switches the lamps and the other consumers off, save those of its ignore
list. `leave_come_page_get_ignore` takes the first four bytes of the block for the
list, which are the ids of the page and its neighbours; and its callers give it the
number of a slot instead of the group (`leaveCome_iff`).
-/

namespace OpenHcan.Userpanel

open Lib Heizung Powerport

set_option maxRecDepth 100000

/-- `eds_leave_come_page_block_t` -/
structure EdsLeaveComePageBlock where
  pageId : UInt8
  parentId : UInt8
  nextId : UInt8
  prevId : UInt8
  ignore0 : UInt8
  ignore1 : UInt8
  ignore2 : UInt8
  ignore3 : UInt8
deriving DecidableEq, Repr

namespace EdsLeaveComePageBlock

/-- The block as it lies in the EEPROM, behind its header. -/
def bytes (p : EdsLeaveComePageBlock) : List UInt8 :=
  [p.pageId, p.parentId, p.nextId, p.prevId, p.ignore0, p.ignore1, p.ignore2, p.ignore3]

/-- The groups that are not to be switched off. -/
def ignore (p : EdsLeaveComePageBlock) : List UInt8 :=
  [p.ignore0, p.ignore1, p.ignore2, p.ignore3]

end EdsLeaveComePageBlock

def errorConfLampenMissing : UInt8 := 8
def errorConfSonstigeMissing : UInt8 := 9
def errorConfHeizungMissing : UInt8 := 11
def errorPageLeaveComeMissing : UInt8 := 12

/-- What the page does. -/
inductive LeaveComeAktion
  | send (f : CanixFrame)
  | sleep (n : UInt8)
  | lcdctrlBlink
  | gotoPageUp
  | loadErrorPage (code : UInt8)
deriving DecidableEq, Repr

/-- `leave_come_page_get_ignore`, on the first block of the page. `userpanel_ignore_t`
has four bytes and is read from the start of the block. -/
def leaveComePageGetIgnore (erste : Option EdsLeaveComePageBlock) (gruppe : UInt8) :
    UInt8 × List LeaveComeAktion :=
  match erste with
  | none => (1, [.loadErrorPage errorPageLeaveComeMissing])
  | some b => (if gruppe ∈ b.bytes.take 4 then 1 else 0, [])

def leaveComeVorgabeTemperaturFrostschutz : UInt16 := 10 * 16
def leaveComeVorgabeDauerFrostschutz : UInt16 := 64800
def heizungModeThermostatFrostschutz : UInt8 := 1

/-- The values of `leave_come_state`. -/
inductive LeaveComeState
  | leaveHeated
  | leaveHeatingIsOff
  | comeHeated
  | comeHeatingIsOff
  | noAction
deriving DecidableEq, Repr

/-- The frame that switches a group off. -/
def ausFrame (selfaddr : UInt16) (gruppe : UInt8) : CanixFrame :=
  sfpFrame selfaddr hcanMulticastControl [hcanSrvHes, hcanHesPowerGroupOff, gruppe]

section

variable (selfaddr : UInt16) (listen : Listen) (erste : Option EdsLeaveComePageBlock)

/-- One turn of the loops that switch off. -/
def slotAus (c : Feld) (i : Fin 24) : List LeaveComeAktion :=
  if c i ≠ 255 then
    let (ignore, aktionen) := leaveComePageGetIgnore erste (UInt8.ofNat i)
    if ignore = 0 then aktionen ++ [.send (ausFrame selfaddr (c i)), .sleep 10] else aktionen
  else []

/-- The common body of the two functions below. -/
def setListeAus (m : Monitor) (fehler : UInt8) : List LeaveComeAktion :=
  match listen m with
  | none => [.loadErrorPage fehler]
  | some c => (List.finRange 24).flatMap (slotAus selfaddr erste c)

/-- `leave_come_page_set_lampen_aus` -/
def leaveComePageSetLampenAus : List LeaveComeAktion :=
  setListeAus selfaddr listen erste .lampen errorConfLampenMissing

/-- `leave_come_page_set_sonstige_aus` -/
def leaveComePageSetSonstigeAus : List LeaveComeAktion :=
  setListeAus selfaddr listen erste .sonstige errorConfSonstigeMissing

/-- The frame for one heating. -/
def heizungFrame (mode heizung : UInt8) : CanixFrame :=
  sfpFrame selfaddr hcanMulticastControl
    (if mode = heizungModeThermostatFrostschutz then
      [hcanSrvHes, hcanHesHeizungSetModeThermostatDetails, heizung,
        hiByte leaveComeVorgabeTemperaturFrostschutz.toNat,
        loByte leaveComeVorgabeTemperaturFrostschutz.toNat,
        hiByte leaveComeVorgabeDauerFrostschutz.toNat,
        loByte leaveComeVorgabeDauerFrostschutz.toNat]
    else [hcanSrvHes, hcanHesHeizungSetModeAutomatik, heizung])

/-- `leave_come_page_set_heizung` -/
def leaveComePageSetHeizung (mode : UInt8) : List LeaveComeAktion :=
  match listen .heiz with
  | none => [.loadErrorPage errorConfHeizungMissing]
  | some c =>
      (List.finRange 24).flatMap fun i =>
        if c i ≠ 255 then [.send (heizungFrame selfaddr mode (c i)), .sleep 10] else []

/-- `leave_come_page_handle_key_down_event`, with what `leave_come_state` holds. -/
def leaveComePageHandleKeyDownEvent (state : LeaveComeState) (key : UInt8) :
    List LeaveComeAktion :=
  if key = keyEsc then [.gotoPageUp]
  else if key = keyOk then
    match state with
    | .leaveHeated =>
        leaveComePageSetLampenAus selfaddr listen erste ++
          leaveComePageSetSonstigeAus selfaddr listen erste ++
          leaveComePageSetHeizung selfaddr listen heizungModeThermostatFrostschutz ++
          [.lcdctrlBlink, .sleep 5, .gotoPageUp]
    | .leaveHeatingIsOff =>
        leaveComePageSetLampenAus selfaddr listen erste ++
          leaveComePageSetSonstigeAus selfaddr listen erste ++
          [.lcdctrlBlink, .sleep 5, .gotoPageUp]
    | .comeHeated =>
        leaveComePageSetHeizung selfaddr listen hcanHesHeizungSetModeAutomatik ++
          [.lcdctrlBlink, .sleep 5, .gotoPageUp]
    | .comeHeatingIsOff => [.gotoPageUp]
    | .noAction => [.lcdctrlBlink, .sleep 5, .gotoPageUp]
  else []

/-- `get_count_Tsoll`: the heatings above 0 °C up to 15 °C, and those above 15 °C. -/
def getCountTsoll (z : Monitore) : UInt8 × UInt8 :=
  (List.finRange 24).foldl
    (fun n i =>
      let tsoll := (z.monitor .heiz).state i
      if tsoll ≠ 255 then
        if tsoll > 15 then (n.1, n.2 + 1) else if tsoll > 0 then (n.1 + 1, n.2) else n
      else n)
    (0, 0)

/-- `leave_come_page_get_state` -/
def leaveComePageGetState (z : Monitore) : LeaveComeState :=
  let (nUeber0Grad, nUeber15Grad) := getCountTsoll z
  if 0 < nUeber15Grad then .leaveHeated
  else if 0 < nUeber0Grad then .comeHeated
  else if 0 < getCountLampenStates z ∨
      0 < getCountSonstigeStates (fun i => (leaveComePageGetIgnore erste i).1) 1 z then
    .leaveHeatingIsOff
  else .comeHeatingIsOff

/-- `leave_come_page_print_page`: the new `leave_come_state` and the two lines. -/
def leaveComePagePrintPage (z : Monitore) : LeaveComeState × String × String :=
  let state := leaveComePageGetState erste z
  (state,
    match state with
    | .leaveHeated | .leaveHeatingIsOff => ("Verbraucher", "abschalten?")
    | .comeHeated => ("Automatik-Modus", "fuer Heizungen?")
    | .comeHeatingIsOff | .noAction => ("keine Aktion", "notwendig"))

end

/-! ## The statement -/

/-- The `POWER_GROUP_OFF` frames among the actions. -/
def gesendetAus (aktionen : List LeaveComeAktion) : List CanixFrame :=
  aktionen.filterMap fun a =>
    match a with
    | .send f => if f.byte 1 = hcanHesPowerGroupOff then some f else none
    | _ => none

/-- The slots of a list that are in use: their number and their group. -/
def eintraege (listen : Listen) (m : Monitor) : List (Fin 24 × UInt8) :=
  (List.finRange 24).filterMap fun i => (eintrag listen m i).map fun g => (i, g)

/-- Some lamp is on, or some other group that is not in the ignore list. -/
def VerbraucherEin (listen : Listen) (p : EdsLeaveComePageBlock) (z : Monitore) : Prop :=
  (∃ i g, eintrag listen .lampen i = some g ∧ Ein ((z.monitor .lampen).state i)) ∨
    ∃ i g, eintrag listen .sonstige i = some g ∧ g ∉ p.ignore ∧
      Ein ((z.monitor .sonstige).state i)

/-- OK in a LEAVE state switches the right groups off, and with no heating above 0 °C
the page asks for it exactly if there is something to switch off. -/
structure LeaveComeRichtig (selfaddr : UInt16) (listen : Listen)
    (erste : Option EdsLeaveComePageBlock) (p : EdsLeaveComePageBlock) (z : Monitore) : Prop where
  aus : ∀ state, state = .leaveHeated ∨ state = .leaveHeatingIsOff →
    (gesendetAus (leaveComePageHandleKeyDownEvent selfaddr listen erste state keyOk)).Perm
      (((eintraege listen .lampen ++ eintraege listen .sonstige).filter fun e =>
        e.2 ∉ p.ignore).map fun e => ausFrame selfaddr e.2)
  gezeigt : getCountTsoll z = (0, 0) →
    ((leaveComePagePrintPage erste z).1 = .leaveHeatingIsOff ↔ VerbraucherEin listen p z)

/-- What the code takes for ignored: the number of a slot. -/
def Ignoriert (erste : Option EdsLeaveComePageBlock) (i : Fin 24) : Prop :=
  (leaveComePageGetIgnore erste (UInt8.ofNat i)).1 ≠ 0

instance (erste : Option EdsLeaveComePageBlock) : DecidablePred (Ignoriert erste) :=
  fun _ => inferInstanceAs (Decidable (_ ≠ _))

/-- In both lists a slot whose number is taken for ignored is one whose group is. -/
def ListenPassen (listen : Listen) (erste : Option EdsLeaveComePageBlock)
    (p : EdsLeaveComePageBlock) : Prop :=
  ∀ m, m = .lampen ∨ m = .sonstige → ∀ i g, eintrag listen m i = some g →
    (Ignoriert erste i ↔ g ∈ p.ignore)

/-- No unused slot of the lamps is on, and of the others only slots with state 1 whose
number is taken for ignored. -/
def NurIgnoriertes (listen : Listen) (erste : Option EdsLeaveComePageBlock) (z : Monitore) :
    Prop :=
  (∀ i, eintrag listen .lampen i = none → ¬ Ein ((z.monitor .lampen).state i)) ∧
    ∀ i, Ein ((z.monitor .sonstige).state i) →
      (z.monitor .sonstige).state i = 1 ∧ Ignoriert erste i

/-! ## The frames -/

section

variable {α β : Type*} {l : List α} {p q : α → Bool} {f : α → β}

/-- Two selections by a property of the image agree up to their order exactly if they
are the same: what the second one takes depends on the image alone. -/
theorem perm_filter_map_iff [DecidableEq β] (hq : ∀ a ∈ l, ∀ b ∈ l, f a = f b → q a = q b) :
    ((l.filter p).map f).Perm ((l.filter q).map f) ↔ ∀ a ∈ l, p a = q a := by
  constructor
  · intro hperm a ha
    have hcount := hperm.count_eq (f a)
    simp only [List.count, List.countP_map, List.countP_filter, Function.comp_apply] at hcount
    cases hqa : q a with
    | true =>
        -- the second selection takes every element with this image
        have hall : l.countP (fun b => f b == f a && q b) = l.countP fun b => f b == f a := by
          refine List.countP_congr fun b hb => ?_
          by_cases heq : f b = f a
          · simp [heq, hq b hb a ha heq, hqa]
          · simp [heq]
        rw [hall] at hcount
        have himp := imp_of_countP_eq (fun b _ h => (Bool.and_eq_true_iff.mp h).1) hcount.symm a ha
          (by simp)
        exact (Bool.and_eq_true_iff.mp himp).2
    | false =>
        have hnone : l.countP (fun b => f b == f a && q b) = 0 := by
          refine List.countP_eq_zero.mpr fun b hb => ?_
          by_cases heq : f b = f a
          · simp [heq, hq b hb a ha heq, hqa]
          · simp [heq]
        rw [hnone, List.countP_eq_zero] at hcount
        simpa using hcount a ha
  · intro h
    rw [List.filter_congr h]

end

section

variable {selfaddr : UInt16} {listen : Listen} {erste : Option EdsLeaveComePageBlock}
  {p : EdsLeaveComePageBlock} {z : Monitore} {c : Feld} {i : Fin 24} {m : Monitor}

theorem ausFrame_byte_one (selfaddr : UInt16) (g : UInt8) :
    (ausFrame selfaddr g).byte 1 = hcanHesPowerGroupOff := by simp [ausFrame]

theorem ausFrame_inj {g g' : UInt8} (h : ausFrame selfaddr g = ausFrame selfaddr g') : g = g' := by
  have hbyte := congrArg (CanixFrame.byte · 2) h
  simpa [ausFrame] using hbyte

theorem gesendetAus_append (as bs : List LeaveComeAktion) :
    gesendetAus (as ++ bs) = gesendetAus as ++ gesendetAus bs :=
  List.filterMap_append

/-- The page is not told to ignore a slot, or it does nothing for it. -/
theorem gesendetAus_slotAus (erste : Option EdsLeaveComePageBlock) (c : Feld) (i : Fin 24) :
    gesendetAus (slotAus selfaddr erste c i) =
      if c i ≠ 255 ∧ ¬ Ignoriert erste i then [ausFrame selfaddr (c i)] else [] := by
  rw [slotAus]
  by_cases hc : c i = 255
  · simp [hc, gesendetAus]
  · cases erste with
    | none => simp [hc, gesendetAus, leaveComePageGetIgnore, Ignoriert]
    | some b =>
        by_cases hmem : UInt8.ofNat i ∈ b.bytes.take 4
        · simp [hc, hmem, gesendetAus, leaveComePageGetIgnore, Ignoriert]
        · simp [hc, hmem, gesendetAus, leaveComePageGetIgnore, Ignoriert, ausFrame_byte_one]

/-- One of the two loops. -/
theorem gesendetAus_setListeAus (selfaddr : UInt16) (listen : Listen)
    (erste : Option EdsLeaveComePageBlock) (m : Monitor) (fehler : UInt8) :
    gesendetAus (setListeAus selfaddr listen erste m fehler) =
      ((eintraege listen m).filter fun e => ¬ Ignoriert erste e.1).map fun e =>
        ausFrame selfaddr e.2 := by
  rw [setListeAus, eintraege]
  cases hlist : listen m with
  | none => simp [eintrag, hlist, gesendetAus]
  | some c =>
      induction List.finRange 24 with
      | nil => rfl
      | cons i l ih =>
          simp only at ih ⊢
          rw [List.flatMap_cons, gesendetAus_append, gesendetAus_slotAus, ih]
          by_cases hc : c i = 255
          · simp [eintrag, hlist, hc]
          · by_cases hig : Ignoriert erste i
            · simp [eintrag, hlist, hc, hig]
            · simp [eintrag, hlist, hc, hig]

/-- The frames to the heatings are others. -/
theorem gesendetAus_setHeizung (selfaddr : UInt16) (listen : Listen) (mode : UInt8) :
    gesendetAus (leaveComePageSetHeizung selfaddr listen mode) = [] := by
  have hframe : ∀ g, (heizungFrame selfaddr mode g).byte 1 ≠ hcanHesPowerGroupOff := by
    intro g
    rw [heizungFrame, sfpFrame_byte _ _ _ (by decide)]
    split_ifs
    · exact (by decide : hcanHesHeizungSetModeThermostatDetails ≠ hcanHesPowerGroupOff)
    · exact (by decide : hcanHesHeizungSetModeAutomatik ≠ hcanHesPowerGroupOff)
  rw [leaveComePageSetHeizung]
  cases listen .heiz with
  | none => rfl
  | some c =>
      induction List.finRange 24 with
      | nil => rfl
      | cons i l ih =>
          simp only at ih ⊢
          rw [List.flatMap_cons, gesendetAus_append, ih]
          by_cases hc : c i = 255
          · simp [hc, gesendetAus]
          · simp [hc, gesendetAus, hframe]

/-- OK in a LEAVE state. -/
theorem gesendetAus_ok {state : LeaveComeState}
    (hstate : state = .leaveHeated ∨ state = .leaveHeatingIsOff) :
    gesendetAus (leaveComePageHandleKeyDownEvent selfaddr listen erste state keyOk) =
      ((eintraege listen .lampen ++ eintraege listen .sonstige).filter fun e =>
        ¬ Ignoriert erste e.1).map fun e => ausFrame selfaddr e.2 := by
  have hend : gesendetAus [.lcdctrlBlink, .sleep 5, .gotoPageUp] = [] := rfl
  have hkeys : keyOk ≠ keyEsc := by decide
  rw [List.filter_append, List.map_append]
  rcases hstate with rfl | rfl
  · simp only [leaveComePageHandleKeyDownEvent, if_neg hkeys, if_true, gesendetAus_append, hend,
      gesendetAus_setHeizung, List.append_nil, leaveComePageSetLampenAus,
      leaveComePageSetSonstigeAus, gesendetAus_setListeAus]
  · simp only [leaveComePageHandleKeyDownEvent, if_neg hkeys, if_true, gesendetAus_append, hend,
      List.append_nil, leaveComePageSetLampenAus, leaveComePageSetSonstigeAus,
      gesendetAus_setListeAus]

theorem mem_eintraege (listen : Listen) (m : Monitor) (e : Fin 24 × UInt8) :
    e ∈ eintraege listen m ↔ eintrag listen m e.1 = some e.2 := by
  obtain ⟨i, g⟩ := e
  simp [eintraege]

theorem aus_iff (selfaddr : UInt16) (listen : Listen) (erste : Option EdsLeaveComePageBlock)
    (p : EdsLeaveComePageBlock) :
    (((eintraege listen .lampen ++ eintraege listen .sonstige).filter fun e =>
          ¬ Ignoriert erste e.1).map fun e => ausFrame selfaddr e.2).Perm
        (((eintraege listen .lampen ++ eintraege listen .sonstige).filter fun e =>
          e.2 ∉ p.ignore).map fun e => ausFrame selfaddr e.2) ↔
      ListenPassen listen erste p := by
  rw [perm_filter_map_iff fun a _ b _ h => by rw [ausFrame_inj h]]
  simp only [decide_eq_decide, not_iff_not, List.mem_append, mem_eintraege, Prod.forall]
  constructor
  · rintro h m (rfl | rfl) i g hm
    · exact h i g (.inl hm)
    · exact h i g (.inr hm)
  · rintro h i g (hm | hm)
    · exact h .lampen (.inl rfl) i g hm
    · exact h .sonstige (.inr rfl) i g hm

/-! ## The state shown -/

theorem getCountStates_pos (zaehlt : Fin 24 → Bool) (state : Feld) :
    0 < getCountStates zaehlt state ↔ ∃ i, Ein (state i) ∧ zaehlt i = true := by
  rw [UInt8.lt_iff_toNat_lt, toNat_getCountStates]
  show 0 < _ ↔ _
  rw [List.countP_pos_iff]
  simp

theorem ignoriert_value (erste : Option EdsLeaveComePageBlock) (i : Fin 24) :
    (leaveComePageGetIgnore erste (UInt8.ofNat i)).1 = if Ignoriert erste i then 1 else 0 := by
  have hcases : (leaveComePageGetIgnore erste (UInt8.ofNat i)).1 = 0 ∨
      (leaveComePageGetIgnore erste (UInt8.ofNat i)).1 = 1 := by
    cases erste with
    | none => exact .inr rfl
    | some b =>
        simp only [leaveComePageGetIgnore]
        split_ifs
        · exact .inr rfl
        · exact .inl rfl
  rcases hcases with h | h
  · rw [if_neg fun hig => hig h, h]
  · have hig : Ignoriert erste i := fun hzero => absurd (h.symm.trans hzero) (by decide)
    rw [if_pos hig, h]

/-- What is counted of the other consumers. -/
theorem getCountSonstigeStates_pos (erste : Option EdsLeaveComePageBlock) (z : Monitore) :
    0 < getCountSonstigeStates (fun i => (leaveComePageGetIgnore erste i).1) 1 z ↔
      ∃ i, Ein ((z.monitor .sonstige).state i) ∧
        ¬ ((z.monitor .sonstige).state i = 1 ∧ Ignoriert erste i) := by
  rw [getCountSonstigeStates, getCountStates_pos]
  refine exists_congr fun i => and_congr_right fun hein => ?_
  rw [decide_eq_true_iff, ignoriert_value]
  by_cases hig : Ignoriert erste i
  · simp [hig]
  · simp [hig, hein.1]

theorem gezeigt_iff (h0 : getCountTsoll z = (0, 0)) :
    (leaveComePagePrintPage erste z).1 = .leaveHeatingIsOff ↔
      (∃ i, Ein ((z.monitor .lampen).state i)) ∨
        ∃ i, Ein ((z.monitor .sonstige).state i) ∧
          ¬ ((z.monitor .sonstige).state i = 1 ∧ Ignoriert erste i) := by
  have hlampen : 0 < getCountLampenStates z ↔ ∃ i, Ein ((z.monitor .lampen).state i) := by
    rw [getCountLampenStates, getCountStates_pos]
    simp
  rw [← hlampen, ← getCountSonstigeStates_pos]
  simp only [leaveComePagePrintPage, leaveComePageGetState, h0]
  rw [if_neg (by decide), if_neg (by decide)]
  split_ifs with hein
  · simp [hein]
  · simp [hein]

end

/-- **Leaving the house**: it is right exactly if in both lists the slots whose numbers
are taken for ignored are those with an ignored group, and, with no heating on, if a
consumer that counts is on or nothing else is. -/
theorem leaveCome_iff (selfaddr : UInt16) (listen : Listen) (erste : Option EdsLeaveComePageBlock)
    (p : EdsLeaveComePageBlock) (z : Monitore) :
    LeaveComeRichtig selfaddr listen erste p z ↔
      ListenPassen listen erste p ∧
        (getCountTsoll z = (0, 0) →
          VerbraucherEin listen p z ∨ NurIgnoriertes listen erste z) := by
  constructor
  · rintro ⟨haus, hgezeigt⟩
    have hlisten := haus .leaveHeated (.inl rfl)
    rw [gesendetAus_ok (.inl rfl), aus_iff] at hlisten
    refine ⟨hlisten, fun h0 => ?_⟩
    have hshown := hgezeigt h0
    rw [gezeigt_iff h0] at hshown
    by_cases hein : VerbraucherEin listen p z
    · exact .inl hein
    · have hnot := fun h => hein (hshown.mp h)
      refine .inr ⟨fun i _ h => hnot (.inl ⟨i, h⟩), fun i h => ?_⟩
      by_contra hcount
      exact hnot (.inr ⟨i, h, hcount⟩)
  · rintro ⟨hlisten, hein⟩
    constructor
    · intro state hstate
      rw [gesendetAus_ok hstate, aus_iff]
      exact hlisten
    · intro h0
      rw [gezeigt_iff h0]
      constructor
      · intro hshown
        rcases hein h0 with hverbraucher | ⟨hlampen, hsonstige⟩
        · exact hverbraucher
        · rcases hshown with ⟨i, h⟩ | ⟨i, h, hcount⟩
          · cases hgruppe : eintrag listen .lampen i with
            | none => exact absurd h (hlampen i hgruppe)
            | some g => exact .inl ⟨i, g, hgruppe, h⟩
          · exact absurd (hsonstige i h) hcount
      · rintro (⟨i, g, -, h⟩ | ⟨i, g, hgruppe, hig, h⟩)
        · exact .inl ⟨i, h⟩
        · refine .inr ⟨i, h, fun hcount => hig ?_⟩
          exact (hlisten .sonstige (.inr rfl) i g hgruppe).mp hcount.2

/-- The lamp group 10 in the first slot, nothing else. -/
private def eineLampe : Listen := fun m =>
  if m = .lampen then some fun i => if i.val = 0 then 10 else 255 else some fun _ => 255

/-- Page 20 below page 0: slot 0 is taken for ignored, and the lamp stays on. -/
theorem leaveCome_bleibtAn :
    ¬ LeaveComeRichtig 1 eineLampe (some ⟨20, 0, 21, 22, 7, 255, 255, 255⟩)
      ⟨20, 0, 21, 22, 7, 255, 255, 255⟩ panelStart.state := by
  intro h
  have hlength := (h.aus .leaveHeated (.inl rfl)).length_eq
  revert hlength
  decide

end OpenHcan.Userpanel
