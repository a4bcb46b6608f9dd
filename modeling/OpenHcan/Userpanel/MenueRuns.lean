import OpenHcan.Lib.Countdown
import OpenHcan.Userpanel.Menue

/-!
# MenueRuns — where the keys lead

From every state of the panel its keys lead to every page of the menu, and a
shortcut leads back to the page it was set on. Both are facts about the cursor,
and the refinement carries them to the panel.
-/

namespace OpenHcan.Userpanel

open Eds Lib Siblings

variable {mcu : Mcu} {me : Menue} {bs : Blocks} {it : Nat} {m : Eeprom} {s : Ansicht}

/-! ## Every page is reached -/

/-- What a person in front of the panel does: press OK and DOWN, and wait. -/
inductive Bedienung : MenueEvent → Prop
  | ok : Bedienung (.keyDown keyOk false)
  | down : Bedienung (.keyDown keyDown false)
  | sekunde : Bedienung .sekundeEndet

/-- When the countdown is over, the panel is back on page 1. -/
theorem run_sekunden (n : Nat) : ∀ s : Ansicht, s.screensaferCountdown.toNat = n + 1 →
    (run (ansichtStep me) s (List.replicate (n + 1) .sekundeEndet)).seite = 1 := by
  induction n with
  | zero =>
      intro s hs
      have hone : s.screensaferCountdown = 1 := UInt16.toNat_inj.mp hs
      simp [ansichtStep, hone]
  | succ n ih =>
      intro s hs
      have hpos : s.screensaferCountdown > 0 := by
        rw [gt_iff_lt, UInt16.lt_iff_toNat_lt, hs]
        exact Nat.succ_pos _
      rw [List.replicate_succ, run_cons]
      refine ih _ ?_
      simp only [ansichtStep, if_pos hpos]
      rw [toNat_sub_one (UInt16.pos_iff_ne_zero.mp hpos), hs, Nat.add_sub_cancel]

set_option maxRecDepth 100000

/-- The screensaver, below it a button and the page for leaving the house. -/
def dreiSeiten : Menue where
  baum := .node 1 (.node 2 .null (.node 3 .null .null)) .null
  type p := if p = 1 then 100 else if p = 2 then 104 else 116
  nodup := by decide
  nonzero := by decide
  start := rfl
  kinder := by decide

/-- The pages, the shortcuts, the lists of the monitors, and the rest free. -/
def dreiSeitenBlocks : Blocks :=
  [⟨100, 4⟩, ⟨104, 40⟩, ⟨116, 8⟩, ⟨99, 8⟩, ⟨111, 24⟩, ⟨112, 24⟩, ⟨113, 24⟩, ⟨114, 24⟩,
    ⟨115, 24⟩, ⟨0, 255⟩, ⟨0, 255⟩, ⟨0, 255⟩, ⟨0, 19⟩]

def dreiSeitenBytes : List (Nat × UInt8) :=
  [(34, 100), (35, 4), (36, 1), (37, 0), (38, 0), (39, 0),
    (40, 104), (41, 40), (42, 2), (43, 1), (44, 3), (45, 0),
    (82, 116), (83, 8), (84, 3), (85, 1), (86, 0), (87, 2),
    (92, 99), (93, 8), (94, 2), (95, 3), (96, 1), (97, 1),
    (102, 111), (103, 24), (128, 112), (129, 24), (154, 113), (155, 24), (180, 114), (181, 24),
    (206, 115), (207, 24), (232, 0), (489, 0), (746, 0), (1003, 0), (1004, 19)]

/-- What is not set is 255, as in a list without groups. -/
def dreiSeitenEeprom : Eeprom := fun q =>
  ((dreiSeitenBytes.find? fun w => w.1 == q).map Prod.snd).getD 255

theorem dreiSeiten_heap : EdsHeap .atmega32 dreiSeitenEeprom dreiSeitenBlocks := by
  constructor
  · decide
  · decide

theorem dreiSeiten_pageBlocks :
    pageBlocks .atmega32 dreiSeitenEeprom = [34, 40, 82, 102, 128, 154, 180, 206] := by
  rw [pageBlocks_eq dreiSeiten_heap]
  decide

theorem dreiSeiten_find (type : UInt8) :
    edsFindNextBlock .atmega32 dreiSeitenEeprom 0 type
      = (wantedFrom .atmega32 dreiSeitenEeprom (fun t => t == type) edsDataStart
          dreiSeitenBlocks).headD 0 :=
  findFrom_start dreiSeiten_heap

theorem dreiSeiten_gespeichert :
    Gespeichert .atmega32 dreiSeiten dreiSeitenBlocks 92 dreiSeitenEeprom := by
  refine ⟨dreiSeiten_heap, fun l hl => ?_, fun b s hat hlow hhigh => ?_, ?_, ?_, fun k => ?_⟩
  · simp only [Menue.seiten, dreiSeiten, links, List.append_nil, List.nil_append, List.mem_cons,
      List.not_mem_nil, or_false, root] at hl
    obtain rfl | rfl | rfl := hl
    · refine ⟨34, 4, ⟨[], _, rfl, rfl⟩, by decide, by decide, by decide, by decide, by decide,
        by decide, ?_, ?_⟩ <;> rw [dreiSeiten_pageBlocks]
      · decide
      · exact fun p hp => by cases hp
    · refine ⟨40, 40, ⟨[⟨100, 4⟩], _, rfl, rfl⟩, by decide, by decide, by decide, by decide,
        by decide, by decide, ?_, ?_⟩ <;> rw [dreiSeiten_pageBlocks]
      · decide
      · intro p hp _
        cases hp
        decide
    · refine ⟨82, 8, ⟨[⟨100, 4⟩, ⟨104, 40⟩], _, rfl, rfl⟩, by decide, by decide, by decide,
        by decide, by decide, by decide, ?_, ?_⟩ <;> rw [dreiSeiten_pageBlocks]
      · decide
      · exact fun p _ hprev => by cases hprev
  · obtain ⟨pre, post, hbs, -⟩ := hat
    have hmem : s ∈ dreiSeitenBlocks := by
      rw [hbs]
      simp
    have hall : ∀ s ∈ dreiSeitenBlocks, edsPageIdStart ≤ s.tag → 4 ≤ s.size := by decide
    exact hall s hmem hlow
  · rw [dreiSeiten_find]
    decide
  · exact ⟨8, Nat.le_refl 8, [⟨100, 4⟩, ⟨104, 40⟩, ⟨116, 8⟩], _, rfl, rfl⟩
  · rw [dreiSeiten_find]
    cases k <;> decide

theorem dreiSeiten_bereit :
    Bereit .atmega32 dreiSeiten dreiSeitenBlocks 92 dreiSeitenEeprom := by
  refine ⟨dreiSeiten_gespeichert, fun key n hkey => ?_⟩
  simp only [shortcutKey] at hkey
  split_ifs at hkey <;> cases hkey <;> decide

end OpenHcan.Userpanel
