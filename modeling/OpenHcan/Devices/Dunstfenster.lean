import OpenHcan.Devices.Dunstabzugport
import OpenHcan.Lib.Heartbeat
import Mathlib.Logic.Function.Basic

/-!
# Dunstfenster — the contacts and the hood on one bus

Any number of contacts and a hood. A frame that a contact sends is received by
the hood at once; nothing is known of the order in which the boards run their
seconds. Other boards may send what they like, except where a theorem says so.

The two results are the two halves of what the hood is for: it is on while a
window is open, and it is not on without one.
-/

namespace OpenHcan.Dunstfenster

open Lib Reedkontakt Dunstabzugport
open Heizung (hcanHesReedkontaktOffen)
open RolladenSchlitzpos (hcanHesReedkontaktStateChange)

set_option maxRecDepth 100000

variable {ι : Type*} [DecidableEq ι]

/-- The contacts and the hood. -/
structure Anlage (ι : Type*) where
  kontakte : ι → DeviceDataReedkontakt
  haube : DunstIO

/-- A second of a contact, a second of the hood, or a frame of another board. -/
inductive AnlageEvent (ι : Type*)
  | kontakt (i : ι) (a : Ablesungen)
  | haube
  | frame (f : CanixFrame)

/-- The hood receives frames in their order. -/
def empfangen (haube : DunstIO) (frames : List CanixFrame) : DunstIO :=
  frames.foldl (fun s f => dunstabzugportCanCallback f s) haube

def anlageStep (selfaddr : ι → UInt16) (s : Anlage ι) : AnlageEvent ι → Anlage ι
  | .kontakt i a =>
      let r := reedkontaktTimerHandler (selfaddr i) a ⟨s.kontakte i, []⟩ 1
      ⟨Function.update s.kontakte i r.dev, empfangen s.haube r.sent⟩
  | .haube => { s with haube := dunstabzugportTimerHandler s.haube 1 }
  | .frame f => { s with haube := dunstabzugportCanCallback f s.haube }

/-- All boards have been started. -/
def anlageStart (c : ι → EdsReedkontaktBlock) (inputportRead : ι → Bool → UInt8 → UInt8)
    (h : EdsDunstabzugportBlock) (outputs : Outputs) : Anlage ι where
  kontakte i := reedkontaktInit (inputportRead i) ⟨c i, 0, false⟩
  haube := dunstStart h outputs

/-- The seconds of the contact `i`. -/
def von (i : ι) : AnlageEvent ι → Option Ablesungen
  | .kontakt j a => if j = i then some a else none
  | _ => none

/-- The seconds of the hood. -/
def istHaube : AnlageEvent ι → Bool
  | .haube => true
  | _ => false

/-- The frame says that the window of a group has been closed. -/
def Schliesst (gruppe : UInt8) (f : CanixFrame) : Prop :=
  f.byte 1 = hcanHesReedkontaktStateChange ∧ f.byte 2 = gruppe ∧ f.byte 3 = 0

instance (gruppe : UInt8) (f : CanixFrame) : Decidable (Schliesst gruppe f) := by
  unfold Schliesst
  infer_instance

/-! ## The hood and one window -/

section

variable {g : UInt8} {s : DunstIO} {f : CanixFrame}

/-- The hood knows the contact of a group, and that it has been open. -/
def Vermerkt (g : UInt8) (s : DunstIO) : Prop :=
  s.dev.config.reedGruppe0 = g ∧ s.dev.stateReed0 = true ∨
    s.dev.config.reedGruppe0 ≠ g ∧ s.dev.config.reedGruppe1 = g ∧ s.dev.stateReed1 = true

/-- The seconds the hood has left at least. A release without an end counts as seven. -/
def rest (s : DunstIO) : Nat := if s.dev.counter = 0 then 7 else s.dev.counter.toNat

/-- The hood is on, and it would not be switched off by another window. -/
structure Wacht (g : UInt8) (s : DunstIO) : Prop where
  an : s.an = true
  vermerkt : Vermerkt g s

/-- A window that has been open is not forgotten. -/
theorem frame_vermerkt (h : Vermerkt g s) (f : CanixFrame) :
    Vermerkt g (dunstabzugportCanCallback f s) := by
  obtain ⟨hconfig, -, hreed0, hreed1⟩ := frame_wirkt f s
  unfold Vermerkt
  rw [hconfig, hreed0, hreed1]
  exact h.imp (fun h => ⟨h.1, by rw [h.2, Bool.true_or]⟩)
    (fun h => ⟨h.1, h.2.1, by rw [h.2.2, Bool.true_or]⟩)

/-- No other window switches the hood off. -/
theorem frameWirkung_ne_revoke (h : Vermerkt g s) (hf : ¬ Schliesst g f) :
    frameWirkung s.dev.config s.dev.stateReed0 s.dev.stateReed1 f ≠ .revoke := by
  unfold frameWirkung
  split
  · split
    · exact nofun
    · exact nofun
  · split
    · rename_i hchange
      split
      · exact nofun
      · split
        · exact nofun
        · rename_i hzu
          rw [not_not] at hzu
          rw [if_neg]
          · exact nofun
          · have hother : f.byte 2 ≠ g := fun hgruppe => hf ⟨hchange, hgruppe, hzu⟩
            rcases h with ⟨rfl, hreed0⟩ | ⟨-, rfl, hreed1⟩
            · simp [hreed0, hother.symm]
            · simp [hreed1, hother.symm]
    · split
      · exact nofun
      · exact nofun

/-- A frame grants the seven seconds at least, or without an end, or nothing. -/
theorem frameWirkung_cases (h : EdsDunstabzugportBlock) (reed0 reed1 : Bool) (f : CanixFrame) :
    frameWirkung h reed0 reed1 f = .idle ∨ frameWirkung h reed0 reed1 f = .revoke ∨
      ∃ n, frameWirkung h reed0 reed1 f = .grant n ∧ (n = 0 ∨ 7 ≤ n) := by
  unfold frameWirkung
  split
  · split
    · exact .inr (.inr ⟨7, rfl, .inr (Nat.le_refl 7)⟩)
    · exact .inl rfl
  · split
    · split
      · exact .inl rfl
      · split
        · exact .inr (.inr ⟨7, rfl, .inr (Nat.le_refl 7)⟩)
        · split
          · exact .inr (.inl rfl)
          · exact .inl rfl
    · split
      · exact .inr (.inr ⟨_, rfl, by omega⟩)
      · exact .inl rfl

theorem rest_eq (s : DunstIO) : rest s = if s.lease.left = 0 then 7 else s.lease.left := by
  unfold rest DunstIO.lease
  simp only [← UInt16.toNat_inj, UInt16.toNat_zero]

/-- **A frame** that does not close the window leaves the hood on, with no less to go than it
had, or than a message of an open window gives it. -/
theorem frame_haelt (h : Wacht g s) (hf : ¬ Schliesst g f) :
    Wacht g (dunstabzugportCanCallback f s) ∧
      (rest (dunstabzugportCanCallback f s) = rest s ∨
        7 ≤ rest (dunstabzugportCanCallback f s)) := by
  have hlease := (frame_wirkt f s).lease
  have hno := frameWirkung_ne_revoke h.vermerkt hf
  have hvermerkt := frame_vermerkt h.vermerkt f
  rcases frameWirkung_cases s.dev.config s.dev.stateReed0 s.dev.stateReed1 f with
    hw | hw | ⟨n, hw, hn⟩
  · rw [hw, Lease.step_idle] at hlease
    refine ⟨⟨(congrArg Lease.held hlease).trans h.an, hvermerkt⟩, .inl ?_⟩
    rw [rest_eq, rest_eq, hlease]
  · exact absurd hw hno
  · rw [hw, Lease.step_grant] at hlease
    refine ⟨⟨congrArg Lease.held hlease, hvermerkt⟩, .inr ?_⟩
    rw [rest_eq, hlease]
    show 7 ≤ if n = 0 then 7 else n
    split
    · exact Nat.le_refl 7
    · omega

theorem empfangen_cons (s : DunstIO) (f : CanixFrame) (frames : List CanixFrame) :
    empfangen s (f :: frames) = empfangen (dunstabzugportCanCallback f s) frames := rfl

/-- Frames that do not close the window. -/
theorem empfangen_haelt {frames : List CanixFrame} (h : Wacht g s)
    (hframes : ∀ f ∈ frames, ¬ Schliesst g f) :
    Wacht g (empfangen s frames) ∧
      (rest (empfangen s frames) = rest s ∨ 7 ≤ rest (empfangen s frames)) := by
  induction frames generalizing s with
  | nil => exact ⟨h, .inl rfl⟩
  | cons f frames ih =>
      obtain ⟨hnext, hrest⟩ := frame_haelt h (hframes f List.mem_cons_self)
      obtain ⟨hend, hrest'⟩ := ih hnext fun f' hf' => hframes f' (List.mem_cons_of_mem f hf')
      refine ⟨hend, ?_⟩
      rw [empfangen_cons]
      rcases hrest' with hsame | hseven
      · rw [hsame]
        exact hrest
      · exact .inr hseven

/-- **The report** of an open window: the hood is on for seven seconds at least, and knows. -/
theorem offenMeldung_haelt (selfaddr : UInt16)
    (hgruppe : s.dev.config.reedGruppe0 = g ∨ s.dev.config.reedGruppe1 = g) :
    Wacht g (dunstabzugportCanCallback (offenMeldung selfaddr g) s) ∧
      rest (dunstabzugportCanCallback (offenMeldung selfaddr g) s) = 7 := by
  obtain ⟨hconfig, hlease, hreed0, hreed1⟩ := frame_wirkt (offenMeldung selfaddr g) s
  have hcmd : (offenMeldung selfaddr g).byte 1 = hcanHesReedkontaktOffen := rfl
  have hbyte : (offenMeldung selfaddr g).byte 2 = g := rfl
  have hw : frameWirkung s.dev.config s.dev.stateReed0 s.dev.stateReed1
      (offenMeldung selfaddr g) = .grant 7 := by
    unfold frameWirkung istOffen0 istOffen1
    rw [if_pos hcmd, hcmd, hbyte, if_pos]
    by_cases h0 : s.dev.config.reedGruppe0 = g
    · simp [h0]
    · simp [h0, hgruppe.resolve_left h0]
  rw [hw, Lease.step_grant] at hlease
  refine ⟨⟨congrArg Lease.held hlease, ?_⟩, ?_⟩
  · unfold Vermerkt
    rw [hconfig, hreed0, hreed1]
    unfold istOffen0 istOffen1
    rw [hcmd, hbyte]
    by_cases h0 : s.dev.config.reedGruppe0 = g
    · simp [h0]
    · simp [h0, hgruppe.resolve_left h0]
  · rw [rest_eq, hlease]
    rfl

/-- **A second** of a hood that is on: it stays on as long as something is left. -/
theorem tick_haelt (h : Wacht g s) (hrest : rest s ≠ 1) :
    Wacht g (dunstabzugportTimerHandler s 1) ∧
      rest s ≤ rest (dunstabzugportTimerHandler s 1) + 1 := by
  obtain ⟨hconfig, hlease, hreed0, hreed1⟩ := tick_wirkt s
  have hvermerkt : Vermerkt g (dunstabzugportTimerHandler s 1) := by
    unfold Vermerkt
    rw [hconfig, hreed0, hreed1]
    exact h.vermerkt
  rw [rest_eq] at hrest
  rw [rest_eq, rest_eq, hlease, Lease.step_tick]
  have han : s.lease.held = true := h.an
  have hheld : (dunstabzugportTimerHandler s 1).an = s.lease.age.held := congrArg Lease.held hlease
  by_cases hzero : s.lease.left = 0
  · have hage : s.lease.age = s.lease := if_pos hzero
    rw [hage] at hheld ⊢
    exact ⟨⟨hheld.trans han, hvermerkt⟩, Nat.le_succ _⟩
  · have hage : s.lease.age = ⟨s.lease.held && s.lease.left ≠ 1, s.lease.left - 1⟩ := if_neg hzero
    rw [if_neg hzero] at hrest ⊢
    rw [hage] at hheld ⊢
    refine ⟨⟨by rw [hheld, han]; simpa using hrest, hvermerkt⟩, ?_⟩
    show s.lease.left ≤ (if s.lease.left - 1 = 0 then 7 else s.lease.left - 1) + 1
    split
    · omega
    · omega

end

/-! ## A window is open -/

section

variable (selfaddr : ι → UInt16) {c : ι → EdsReedkontaktBlock} {h : EdsDunstabzugportBlock}
  {i : ι} {s : Anlage ι} {past : List (AnlageEvent ι)} {e : AnlageEvent ι}

/-- An event is as it should be for the window `i`: the port does not change within a second,
as far as the contact of the window reports it, and nobody else reports for it. -/
def Ordentlich (c : ι → EdsReedkontaktBlock) (i : ι) : AnlageEvent ι → Prop
  | .kontakt j a => j = i → (c i).offen a.modus = true → (c i).offen a.gemeldet = true
  | .haube => True
  | .frame f => ¬ Schliesst (c i).gruppe f

instance (c : ι → EdsReedkontaktBlock) (i : ι) : ∀ e, Decidable (Ordentlich c i e)
  | .kontakt j a => inferInstanceAs
      (Decidable (j = i → (c i).offen a.modus = true → (c i).offen a.gemeldet = true))
  | .haube => .isTrue trivial
  | .frame f => inferInstanceAs (Decidable (¬ Schliesst (c i).gruppe f))

/-- What every run keeps: the contacts count as `Phase` says, and once the window `i` has been
reported, the hood is on, with the next report in time. -/
structure AnlageInv (c : ι → EdsReedkontaktBlock) (h : EdsDunstabzugportBlock) (i : ι)
    (s : Anlage ι) (past : List (AnlageEvent ι)) : Prop where
  phase : ∀ j, Phase (von j) (c j) past (s.kontakte j)
  config : s.haube.dev.config = h
  wacht : Gemeldet (von i) (c i) past → Wacht (c i).gruppe s.haube ∧
    Beating (istSekunde (von i)) istHaube 5 7 past (s.kontakte i).timerCounter.toNat (rest s.haube)

theorem frame_config (f : CanixFrame) (t : DunstIO) :
    (dunstabzugportCanCallback f t).dev.config = t.dev.config := (frame_wirkt f t).config

theorem empfangen_config (t : DunstIO) (frames : List CanixFrame) :
    (empfangen t frames).dev.config = t.dev.config := by
  induction frames generalizing t with
  | nil => rfl
  | cons f frames ih => exact (ih _).trans (frame_config f t)

/-- The message of a change closes the window of its group only. -/
theorem schliesst_stateChange {g gruppe : UInt8} {addr : UInt16} {offen : Bool}
    (hs : Schliesst g (stateChange addr gruppe offen)) : gruppe = g ∧ offen = false := by
  obtain ⟨-, hgruppe, hzu⟩ := hs
  refine ⟨hgruppe, ?_⟩
  have hbyte : (stateChange addr gruppe offen).byte 3 = alsByte offen := rfl
  rw [hbyte] at hzu
  cases offen with
  | false => rfl
  | true => exact absurd hzu (by decide)

theorem not_schliesst_offenMeldung (g gruppe : UInt8) (addr : UInt16) :
    ¬ Schliesst g (offenMeldung addr gruppe) := by
  rintro ⟨hcmd, -⟩
  exact absurd (show hcanHesReedkontaktOffen = hcanHesReedkontaktStateChange from hcmd) (by decide)

/-- Nothing another contact sends closes the window. -/
theorem andere_schliessen_nicht {a : Ablesungen} {p : DeviceDataReedkontakt} {g : UInt8}
    {addr : UInt16} (hg : p.config.gruppe ≠ g) :
    ∀ f ∈ aenderung addr a p ++ wiederholung addr a p, ¬ Schliesst g f := by
  intro f hf hs
  rcases List.mem_append.mp hf with hf | hf
  · unfold aenderung at hf
    split at hf
    · rw [List.mem_singleton.mp hf] at hs
      exact hg (schliesst_stateChange hs).1
    · exact nomatch hf
  · unfold wiederholung at hf
    split at hf
    · rw [List.mem_singleton.mp hf] at hs
      exact not_schliesst_offenMeldung _ _ _ hs
    · exact nomatch hf

/-- A contact that sees its window open does not report it closed. -/
theorem aenderung_schliesst_nicht {a : Ablesungen} {p : DeviceDataReedkontakt} {g : UInt8}
    {addr : UInt16} (hopen : p.config.offen a.gemeldet = true) :
    ∀ f ∈ aenderung addr a p, ¬ Schliesst g f := by
  intro f hf hs
  unfold aenderung at hf
  split at hf
  · rw [List.mem_singleton.mp hf] at hs
    rw [hopen] at hs
    exact nomatch (schliesst_stateChange hs).2
  · exact nomatch hf

theorem anlageStep_kontakt (j : ι) (a : Ablesungen) : anlageStep selfaddr s (.kontakt j a) =
    ⟨Function.update s.kontakte j (sekunde a (s.kontakte j)),
      empfangen s.haube (aenderung (selfaddr j) a (s.kontakte j) ++
        wiederholung (selfaddr j) a (s.kontakte j))⟩ := by
  show (⟨_, _⟩ : Anlage ι) = _
  rw [Reedkontakt.timerHandler_eq]
  rfl

/-- Frames that do not close the window leave the next report in time. -/
theorem Beating.empfangen {wait left left' : Nat}
    (hb : Beating (istSekunde (von i)) istHaube 5 7 past wait left)
    (hleft : left' = left ∨ 7 ≤ left') :
    Beating (istSekunde (von i)) istHaube 5 7 past wait left' := by
  rcases hleft with rfl | hseven
  · exact hb
  · exact hb.renew hseven

/-- A second of the contact of the window itself. -/
theorem AnlageInv.kontakt (hinv : AnlageInv c h i s past)
    (hgruppe : h.reedGruppe0 = (c i).gruppe ∨ h.reedGruppe1 = (c i).gruppe) {a : Ablesungen}
    (he : Ordentlich c i (.kontakt i a))
    (hg : Gemeldet (von i) (c i) (.kontakt i a :: past)) :
    let t := anlageStep selfaddr s (.kontakt i a)
    Wacht (c i).gruppe t.haube ∧ Beating (istSekunde (von i)) istHaube 5 7
      (.kontakt i a :: past) (t.kontakte i).timerCounter.toNat (rest t.haube) := by
  have hvon : von i (.kontakt i a) = some a := if_pos rfl
  have hsekunde : istSekunde (von i) (.kontakt i a) = true := by rw [istSekunde, hvon]; rfl
  have hphase := hinv.phase i
  have hnicht : ∀ f ∈ aenderung (selfaddr i) a (s.kontakte i), ¬ Schliesst (c i).gruppe f := by
    apply aenderung_schliesst_nicht
    rw [hphase.config]
    apply he rfl
    have hopen := (hphase.gemeldet_sekunde hvon hg).1
    unfold EdsReedkontaktBlock.wiederholt at hopen
    exact (decide_eq_true_eq.mp hopen).2
  rw [anlageStep_kontakt]
  dsimp only
  rw [Function.update_self]
  rcases hphase.meldet hvon hg (selfaddr i) with ⟨hsent, hfour⟩ | ⟨hsent, hminus, hbefore⟩
  · -- the report is sent now
    have hdev := empfangen_config s.haube (aenderung (selfaddr i) a (s.kontakte i))
    obtain ⟨hwacht, hrest⟩ := offenMeldung_haelt (g := (c i).gruppe)
      (s := empfangen s.haube (aenderung (selfaddr i) a (s.kontakte i))) (selfaddr i)
      (by rw [hdev, hinv.config]; exact hgruppe)
    have happend : empfangen s.haube (aenderung (selfaddr i) a (s.kontakte i) ++
        [offenMeldung (selfaddr i) (c i).gruppe]) =
        dunstabzugportCanCallback (offenMeldung (selfaddr i) (c i).gruppe)
          (empfangen s.haube (aenderung (selfaddr i) a (s.kontakte i))) := by
      unfold empfangen
      rw [List.foldl_append]
      rfl
    rw [hsent, happend, hfour]
    exact ⟨hwacht, .start (by decide) (Nat.le_of_eq hrest.symm)⟩
  · -- it has been sent before
    obtain ⟨hwacht, hbeat⟩ := hinv.wacht hbefore
    obtain ⟨hwacht', hrest⟩ := empfangen_haelt hwacht hnicht
    rw [hsent, List.append_nil]
    exact ⟨hwacht', Beating.empfangen (hbeat.sent hsekunde (Nat.le_of_eq hminus)) hrest⟩

/-- **The step.** -/
theorem AnlageInv.step (hinv : AnlageInv c h i s past)
    (hgruppe : h.reedGruppe0 = (c i).gruppe ∨ h.reedGruppe1 = (c i).gruppe)
    (hallein : ∀ j, j ≠ i → (c j).gruppe ≠ (c i).gruppe) (he : Ordentlich c i e)
    (hpaced : Paced (istSekunde (von i)) istHaube 5 7 (e :: past)) :
    AnlageInv c h i (anlageStep selfaddr s e) (e :: past) := by
  cases e with
  | kontakt j a =>
      refine ⟨fun k => ?_, ?_, fun hg => ?_⟩
      · rw [anlageStep_kontakt]
        by_cases hk : k = j
        · subst hk
          dsimp only
          rw [Function.update_self]
          exact (hinv.phase k).sekunde (if_pos rfl)
        · dsimp only
          rw [Function.update_of_ne hk]
          exact (hinv.phase k).andere (if_neg fun heq => hk heq.symm)
      · rw [anlageStep_kontakt]
        exact (empfangen_config _ _).trans hinv.config
      · by_cases hj : j = i
        · subst hj
          exact hinv.kontakt selfaddr hgruppe he hg
        · have hvon : von i (.kontakt j a) = none := if_neg hj
          rw [gemeldet_andere hvon] at hg
          obtain ⟨hwacht, hbeat⟩ := hinv.wacht hg
          have handers : (s.kontakte j).config.gruppe ≠ (c i).gruppe := by
            rw [(hinv.phase j).config]
            exact hallein j hj
          have hnicht : ∀ f ∈ aenderung (selfaddr j) a (s.kontakte j) ++
              wiederholung (selfaddr j) a (s.kontakte j), ¬ Schliesst (c i).gruppe f :=
            andere_schliessen_nicht handers
          obtain ⟨hwacht', hrest⟩ := empfangen_haelt hwacht hnicht
          rw [anlageStep_kontakt]
          dsimp only
          rw [Function.update_of_ne (Ne.symm hj)]
          have hkeine : istSekunde (von i) (.kontakt j a) = false := by rw [istSekunde, hvon]; rfl
          exact ⟨hwacht', Beating.empfangen (hbeat.other hkeine) hrest⟩
  | haube =>
      refine ⟨fun k => (hinv.phase k).andere rfl, ?_, fun hg => ?_⟩
      · exact (tick_wirkt s.haube).config.trans hinv.config
      · rw [gemeldet_andere rfl] at hg
        obtain ⟨hwacht, hbeat⟩ := hinv.wacht hg
        have hrest : rest s.haube ≠ 1 := by
          intro hone
          rw [hone] at hbeat
          have hlate : Beating (istSekunde (von i)) istHaube 5 7 (.haube :: past)
              (s.kontakte i).timerCounter.toNat 0 := hbeat.aged rfl rfl (Nat.le_refl _)
          exact absurd (hlate.left_pos hpaced) (Nat.lt_irrefl 0)
        obtain ⟨hwacht', hleft⟩ := tick_haelt hwacht hrest
        exact ⟨hwacht', hbeat.aged rfl rfl hleft⟩
  | frame f =>
      refine ⟨fun k => (hinv.phase k).andere rfl, ?_, fun hg => ?_⟩
      · exact (frame_config f s.haube).trans hinv.config
      · rw [gemeldet_andere rfl] at hg
        obtain ⟨hwacht, hbeat⟩ := hinv.wacht hg
        obtain ⟨hwacht', hrest⟩ := frame_haelt hwacht he
        exact ⟨hwacht', Beating.empfangen (hbeat.other rfl) hrest⟩

end

/-- A hood of two windows, and the contacts of the groups 1 and 2. -/
private def kueche : EdsDunstabzugportBlock := ⟨3, 1, 9, 5, 2⟩

private def kuechenfenster (rechts : Bool) : EdsReedkontaktBlock := ⟨4, if rechts then 2 else 1, 1⟩

private def liest (wert : UInt8) : Ablesungen :=
  ⟨fun _ _ => wert, fun _ _ => wert, fun _ _ => wert, fun _ _ => wert⟩

/-- The left window is opened in the second round. Each round has its own order. -/
private def runden : List (List (AnlageEvent Bool)) :=
  [[.kontakt false (liest 0), .haube, .kontakt true (liest 0)],
    [.haube, .kontakt true (liest 0), .kontakt false (liest 16)],
    [.kontakt true (liest 0), .kontakt false (liest 16), .haube]]

/-- A message of an open window. -/
def MeldetOffen (h : EdsDunstabzugportBlock) (f : CanixFrame) : Prop :=
  (h.reedGruppe0 = f.byte 2 ∨ h.reedGruppe1 = f.byte 2) ∧
    (f.byte 1 = hcanHesReedkontaktOffen ∨
      f.byte 1 = hcanHesReedkontaktStateChange ∧ f.byte 3 ≠ 0)

/-- The button of the hood. -/
def Freischaltung (h : EdsDunstabzugportBlock) (f : CanixFrame) : Prop :=
  f.byte 1 = hcanHesTasterDown ∧ h.freischaltTaster = f.byte 2

/-- A frame of another board that is neither. -/
def Fremd (h : EdsDunstabzugportBlock) : AnlageEvent ι → Prop
  | .frame f => ¬ MeldetOffen h f ∧ ¬ Freischaltung h f
  | _ => True

/-- In this second a contact of the hood has read an open window. -/
def SiehtOffen (c : ι → EdsReedkontaktBlock) (h : EdsDunstabzugportBlock) : AnlageEvent ι → Prop
  | .kontakt j a => (h.reedGruppe0 = (c j).gruppe ∨ h.reedGruppe1 = (c j).gruppe) ∧
      ((c j).offen a.gemeldet = true ∨ (c j).offen a.modus = true)
  | _ => False

/-- A contact has read an open window, and the hood has run less than seven seconds since. -/
def EbenOffen (c : ι → EdsReedkontaktBlock) (h : EdsDunstabzugportBlock)
    (es : List (AnlageEvent ι)) : Prop :=
  ∃ pre e post, es = pre ++ e :: post ∧ SiehtOffen c h e ∧ post.countP istHaube < 7

/-- What is left of the seven seconds after an open window. The past is newest first. -/
def Nachlauf (c : ι → EdsReedkontaktBlock) (h : EdsDunstabzugportBlock)
    (past : List (AnlageEvent ι)) (left : Nat) : Prop :=
  0 < left ∧ ∃ recent e before, past = recent ++ e :: before ∧ SiehtOffen c h e ∧
    left + recent.countP istHaube ≤ 7

section

variable (selfaddr : ι → UInt16) {c : ι → EdsReedkontaktBlock} {h : EdsDunstabzugportBlock}
  {s : Anlage ι} {past : List (AnlageEvent ι)} {e : AnlageEvent ι} {left : Nat}

omit [DecidableEq ι] in
theorem Nachlauf.cons (hn : Nachlauf c h past left) (he : istHaube e = false) :
    Nachlauf c h (e :: past) left := by
  obtain ⟨hpos, recent, e', before, rfl, hsees, hcount⟩ := hn
  refine ⟨hpos, e :: recent, e', before, rfl, hsees, ?_⟩
  rw [List.countP_cons_of_neg (by rw [he]; exact Bool.false_ne_true)]
  exact hcount

omit [DecidableEq ι] in
theorem Nachlauf.tick (hn : Nachlauf c h past left) (hone : left ≠ 1) :
    Nachlauf c h (.haube :: past) (left - 1) := by
  obtain ⟨hpos, recent, e', before, rfl, hsees, hcount⟩ := hn
  refine ⟨by omega, .haube :: recent, e', before, rfl, hsees, ?_⟩
  rw [List.countP_cons_of_pos rfl]
  omega

/-- What a frame that is not the button can do to the lease. -/
theorem frame_lease (f : CanixFrame) (t : DunstIO) (hf : ¬ Freischaltung t.dev.config f) :
    (dunstabzugportCanCallback f t).lease = t.lease ∨
      (dunstabzugportCanCallback f t).lease = .free ∨
      (dunstabzugportCanCallback f t).lease = ⟨true, 7⟩ ∧ MeldetOffen t.dev.config f := by
  rw [(frame_wirkt f t).lease]
  unfold Freischaltung at hf
  unfold frameWirkung MeldetOffen
  split
  · rename_i hoffen
    split
    · rename_i hist
      refine .inr (.inr ⟨rfl, ?_, .inl hoffen⟩)
      unfold istOffen0 istOffen1 at hist
      simp only [decide_eq_true_eq] at hist
      exact hist.imp (fun h0 => h0.2) (fun h1 => h1.2.2)
    · exact .inl rfl
  · split
    · rename_i hchange
      split
      · exact .inl rfl
      · rename_i hgruppe
        rw [not_and_or, not_not, not_not] at hgruppe
        split
        · rename_i hauf
          exact .inr (.inr ⟨rfl, hgruppe, .inr ⟨hchange, hauf⟩⟩)
        · split
          · exact .inr (.inl rfl)
          · exact .inl rfl
    · exact .inl rfl

/-- What the frames of a contact can do to the lease. -/
theorem empfangen_lease (frames : List CanixFrame) :
    ∀ t : DunstIO, (∀ f ∈ frames, ¬ Freischaltung t.dev.config f) →
      (empfangen t frames).lease = t.lease ∨ (empfangen t frames).lease = .free ∨
        (empfangen t frames).lease = ⟨true, 7⟩ ∧ ∃ f ∈ frames, MeldetOffen t.dev.config f := by
  induction frames with
  | nil => intro t _; exact .inl rfl
  | cons f frames ih =>
      intro t hframes
      rw [empfangen_cons]
      have hconfig := frame_config f t
      have hrest := ih (dunstabzugportCanCallback f t) (by
        rw [hconfig]
        exact fun f' hf' => hframes f' (List.mem_cons_of_mem f hf'))
      rw [hconfig] at hrest
      rcases hrest with hsame | hfree | ⟨hseven, f', hf', hauf⟩
      · rw [hsame]
        rcases frame_lease f t (hframes f List.mem_cons_self) with h | h | ⟨h, hauf⟩
        · exact .inl h
        · exact .inr (.inl h)
        · exact .inr (.inr ⟨h, f, List.mem_cons_self, hauf⟩)
      · exact .inr (.inl hfree)
      · exact .inr (.inr ⟨hseven, f', List.mem_cons_of_mem f hf', hauf⟩)

/-- The frames of a contact are not the button, and only an open window makes one of them say
that it is open. -/
theorem kontakt_meldet {addr : UInt16} {a : Ablesungen} {p : DeviceDataReedkontakt}
    {f : CanixFrame} (hf : f ∈ aenderung addr a p ++ wiederholung addr a p) :
    ¬ Freischaltung h f ∧ (MeldetOffen h f →
      (h.reedGruppe0 = p.config.gruppe ∨ h.reedGruppe1 = p.config.gruppe) ∧
        (p.config.offen a.gemeldet = true ∨ p.config.offen a.modus = true)) := by
  rcases List.mem_append.mp hf with hf | hf
  · unfold aenderung at hf
    split at hf
    · rw [List.mem_singleton.mp hf]
      refine ⟨fun hb => absurd (show hcanHesReedkontaktStateChange = hcanHesTasterDown from hb.1)
        (by decide), ?_⟩
      rintro ⟨hgruppe, hcmd⟩
      refine ⟨hgruppe, .inl ?_⟩
      rcases hcmd with hoffen | ⟨-, hauf⟩
      · exact absurd (show hcanHesReedkontaktStateChange = hcanHesReedkontaktOffen from hoffen)
          (by decide)
      · have hbyte : (stateChange addr p.config.gruppe (p.config.offen a.gemeldet)).byte 3 =
            alsByte (p.config.offen a.gemeldet) := rfl
        rw [hbyte] at hauf
        cases hg : p.config.offen a.gemeldet with
        | true => rfl
        | false => exact absurd (by rw [hg]; rfl) hauf
    · exact nomatch hf
  · unfold wiederholung at hf
    split at hf
    · rename_i hboth
      rw [List.mem_singleton.mp hf]
      refine ⟨fun hb => absurd (show hcanHesReedkontaktOffen = hcanHesTasterDown from hb.1)
        (by decide), ?_⟩
      rintro ⟨hgruppe, -⟩
      refine ⟨hgruppe, .inr ?_⟩
      have hopen := hboth.1
      unfold EdsReedkontaktBlock.wiederholt at hopen
      exact (decide_eq_true_eq.mp hopen).2
    · exact nomatch hf

/-- What every run without the button keeps: a hood that is on runs after an open window. -/
structure NachlaufInv (c : ι → EdsReedkontaktBlock) (h : EdsDunstabzugportBlock) (s : Anlage ι)
    (past : List (AnlageEvent ι)) : Prop where
  kontakte : ∀ j, (s.kontakte j).config = c j
  config : s.haube.dev.config = h
  nachlauf : s.haube.lease.held = true → Nachlauf c h past s.haube.lease.left

theorem NachlaufInv.step (hinv : NachlaufInv c h s past) (he : Fremd h e) :
    NachlaufInv c h (anlageStep selfaddr s e) (e :: past) := by
  obtain ⟨hkontakte, rfl, hnachlauf⟩ := hinv
  cases e with
  | kontakt j a =>
      rw [anlageStep_kontakt]
      refine ⟨fun k => ?_, empfangen_config _ _, ?_⟩
      · by_cases hk : k = j
        · subst hk
          dsimp only
          rw [Function.update_self]
          exact hkontakte k
        · dsimp only
          rw [Function.update_of_ne hk]
          exact hkontakte k
      · dsimp only
        intro hheld
        rcases empfangen_lease (aenderung (selfaddr j) a (s.kontakte j) ++
            wiederholung (selfaddr j) a (s.kontakte j)) s.haube
            (fun f hf => (kontakt_meldet hf).1) with hsame | hfree | ⟨hseven, f, hf, hauf⟩
        · rw [hsame] at hheld ⊢
          exact (hnachlauf hheld).cons rfl
        · rw [hfree] at hheld
          exact nomatch hheld
        · have hsees := (kontakt_meldet hf).2 hauf
          rw [hkontakte j] at hsees
          rw [hseven]
          exact ⟨by decide, [], _, past, rfl, hsees, Nat.le_refl 7⟩
  | haube =>
      refine ⟨hkontakte, (tick_wirkt s.haube).config, ?_⟩
      show (dunstabzugportTimerHandler s.haube 1).lease.held = true →
        Nachlauf c s.haube.dev.config _ (dunstabzugportTimerHandler s.haube 1).lease.left
      rw [(tick_wirkt s.haube).lease, Lease.step_tick]
      by_cases hzero : s.haube.lease.left = 0
      · rw [show s.haube.lease.age = s.haube.lease from if_pos hzero]
        intro hheld
        exact absurd hzero (Nat.ne_of_gt (hnachlauf hheld).1)
      · have hage : s.haube.lease.age =
            ⟨s.haube.lease.held && s.haube.lease.left ≠ 1, s.haube.lease.left - 1⟩ := if_neg hzero
        rw [hage]
        intro hheld
        obtain ⟨hbefore, hone⟩ := (Bool.and_eq_true _ _).mp hheld
        exact (hnachlauf hbefore).tick (of_decide_eq_true hone)
  | frame f =>
      refine ⟨hkontakte, frame_config f s.haube, ?_⟩
      show (dunstabzugportCanCallback f s.haube).lease.held = true →
        Nachlauf c s.haube.dev.config _ (dunstabzugportCanCallback f s.haube).lease.left
      intro hheld
      rcases frame_lease f s.haube he.2 with hsame | hfree | ⟨-, hauf⟩
      · rw [hsame] at hheld ⊢
        exact (hnachlauf hheld).cons rfl
      · rw [hfree] at hheld
        exact nomatch hheld
      · exact absurd hauf he.1

theorem run_nachlauf (es : List (AnlageEvent ι)) :
    ∀ (s : Anlage ι) (past : List (AnlageEvent ι)), NachlaufInv c h s past →
      (∀ e ∈ es, Fremd h e) →
      NachlaufInv c h (run (anlageStep selfaddr) s es) (es.reverse ++ past) := by
  induction es with
  | nil => intro s past hinv _; exact hinv
  | cons e es ih =>
      intro s past hinv hfremd
      rw [List.reverse_cons, List.append_assoc]
      exact ih _ _ (hinv.step selfaddr (hfremd e List.mem_cons_self)) fun e' he' =>
        hfremd e' (List.mem_cons_of_mem e he')

end

/-- **The hood is not on without a window**: unless somebody presses the button, it is on for
less than seven of its seconds after a contact has read an open window. -/
theorem haube_nur_mit_fenster (selfaddr : ι → UInt16) (c : ι → EdsReedkontaktBlock)
    (inputportRead : ι → Bool → UInt8 → UInt8) (h : EdsDunstabzugportBlock) (outputs : Outputs)
    (es : List (AnlageEvent ι)) (hfremd : ∀ e ∈ es, Fremd h e)
    (han : (run (anlageStep selfaddr) (anlageStart c inputportRead h outputs) es).haube.an = true) :
    EbenOffen c h es := by
  have hstart : NachlaufInv c h (anlageStart c inputportRead h outputs) [] := by
    refine ⟨fun _ => rfl, rfl, ?_⟩
    rw [show (anlageStart c inputportRead h outputs).haube.lease = .free from
      dunstStart_lease outputs]
    exact nofun
  have hinv := run_nachlauf selfaddr es _ [] hstart hfremd
  rw [List.append_nil] at hinv
  obtain ⟨hpos, recent, e, before, hpast, hsees, hcount⟩ := hinv.nachlauf han
  refine ⟨before.reverse, e, recent.reverse, ?_, hsees, ?_⟩
  · rw [← List.reverse_reverse es, hpast, List.reverse_append, List.reverse_cons, List.append_assoc]
    rfl
  · rw [List.countP_reverse]
    omega

theorem kueche_nur_mit_fenster : EbenOffen kuechenfenster kueche runden.flatten :=
  haube_nur_mit_fenster (fun _ => 7) kuechenfenster (fun _ _ _ => 0) kueche (fun _ => false)
    runden.flatten (fun e he => by
      simp only [runden, List.flatten_cons, List.flatten_nil, List.append_nil, List.cons_append,
        List.nil_append, List.mem_cons, List.not_mem_nil, or_false] at he
      rcases he with rfl | rfl | rfl | rfl | rfl | rfl | rfl | rfl | rfl
      all_goals trivial) (by decide)

end OpenHcan.Dunstfenster
