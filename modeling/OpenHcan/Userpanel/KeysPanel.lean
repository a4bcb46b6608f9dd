import OpenHcan.Userpanel.Keys
import OpenHcan.Userpanel.MenueRuns

/-!
# KeysPanel — from the keys to the shortcuts

The keys of keys.c and the panel of lcdstatemachine.c together: the turns of the key
loop, in any order, and the beats of the second make the events of the panel. A page
is kept under a key only after this key has been held down for two beats.
-/

namespace OpenHcan.Userpanel

open Eds Lib

variable {mcu : Mcu}

/-- What happens on the board: a turn of the key loop, with the answer of the page
whether it gives up the screen, `canix_reset`, and the rest of the panel's events. -/
inductive Eingang
  | besuch (b : Besuch) (hoch : Bool)
  | canixReset
  | sekundeBeginnt
  | sekundeEndet
  | hoch
  | sucht (k : Konfiguration)

/-- The handler that keys.c calls. -/
def menueEvent (hoch : Bool) : TastenEvent → MenueEvent
  | .keyDownEvent i => .keyDown (UInt8.ofNat i.val) hoch
  | .keyUpEvent i => .keyUp (UInt8.ofNat i.val)

/-- The keys, and what reaches the panel. -/
def eingangStep (t : Tasten) : Eingang → Tasten × List MenueEvent
  | .besuch b hoch => ((besuchStep t b).1, (besuchStep t b).2.map (menueEvent hoch))
  | .canixReset => (keysInit, [.neustart])
  | .sekundeBeginnt => (t, [.sekundeBeginnt])
  | .sekundeEndet => (t, [.sekundeEndet])
  | .hoch => (t, [.hoch])
  | .sucht k => (t, [.sucht k])

/-- For how many beats the key is held down, if it is. The newest event is the first. -/
def gehalten (key : UInt8) : List MenueEvent → Option Nat
  | [] => none
  | .keyDown k _ :: past => if k = key then some 0 else gehalten key past
  | .keyUp k :: past => if k = key then none else gehalten key past
  | .sekundeBeginnt :: past => (gehalten key past).map (· + 1)
  | .neustart :: _ => none
  | _ :: past => gehalten key past

theorem gehalten_keyDown (key k : UInt8) (hoch : Bool) (past : List MenueEvent) :
    gehalten key (.keyDown k hoch :: past) = if k = key then some 0 else gehalten key past := rfl

theorem gehalten_keyUp (key k : UInt8) (past : List MenueEvent) :
    gehalten key (.keyUp k :: past) = if k = key then none else gehalten key past := rfl

theorem gehalten_sekundeBeginnt (key : UInt8) (past : List MenueEvent) :
    gehalten key (.sekundeBeginnt :: past) = (gehalten key past).map (· + 1) := rfl

/-! ## What the keys say -/

/-- The state of a key is what the events have said. -/
def Gemeldet (t : Tasten) (past : List MenueEvent) : Prop :=
  ∀ i, (t i).keyState = if (gehalten (UInt8.ofNat i.val) past).isSome then 1 else 0

theorem gemeldet_init : Gemeldet keysInit [] := fun _ => rfl

theorem key_injective {i j : Fin 16} (h : UInt8.ofNat i.val = UInt8.ofNat j.val) : i = j := by
  have hi : i.val % 256 = j.val % 256 := congrArg UInt8.toNat h
  exact Fin.ext (by omega)

theorem gemeldet_step (t : Tasten) (past : List MenueEvent) (e : Eingang)
    (h : Gemeldet t past.reverse) :
    Gemeldet (eingangStep t e).1 (past ++ (eingangStep t e).2).reverse := by
  rw [List.reverse_append]
  cases e with
  | besuch b hoch =>
      intro i
      obtain ⟨k, pegel⟩ := b
      have hi := h i
      by_cases hk : i = k
      · subst hk
        obtain ⟨hout, hstate⟩ | ⟨-, hout, hstate⟩ | ⟨-, hout, hstate⟩ :=
          besuch_cases i pegel (t i)
        · simpa [eingangStep, besuchStep, demux, hout, hstate] using hi
        · simp [eingangStep, besuchStep, demux, hout, hstate, menueEvent, gehalten_keyDown]
        · simp [eingangStep, besuchStep, demux, hout, hstate, menueEvent, gehalten_keyUp]
      · -- another key: the event is not about this one
        have hne : UInt8.ofNat k.val ≠ UInt8.ofNat i.val := fun he => hk (key_injective he).symm
        obtain ⟨hout, -⟩ | ⟨-, hout, -⟩ | ⟨-, hout, -⟩ := besuch_cases k pegel (t k)
        · simpa [eingangStep, besuchStep, demux, hout, hk] using hi
        · simpa [eingangStep, besuchStep, demux, hout, hk, menueEvent, gehalten_keyDown, hne]
            using hi
        · simpa [eingangStep, besuchStep, demux, hout, hk, menueEvent, gehalten_keyUp, hne] using hi
  | canixReset => exact fun i => rfl
  | sekundeBeginnt =>
      intro i
      simpa [eingangStep, gehalten_sekundeBeginnt] using h i
  | sekundeEndet | hoch | sucht k => exact h

theorem eingang_one (t : Tasten) (e : Eingang) : (eingangStep t e).2.length ≤ 1 := by
  cases e with
  | besuch b hoch =>
      obtain ⟨hout, -⟩ | ⟨-, hout, -⟩ | ⟨-, hout, -⟩ := besuch_cases b.taste b.pegel (t b.taste)
      all_goals simp [eingangStep, besuchStep, demux, hout]
  | canixReset | sekundeBeginnt | sekundeEndet | hoch | sucht k => exact Nat.le_refl 1

/-- A key that goes up has been held down. -/
theorem gehalten_of_keyUp {es : List Eingang} {pre post : List MenueEvent} {key : UInt8}
    (h : (emit eingangStep keysInit es).2 = pre ++ .keyUp key :: post) :
    ∃ s, gehalten key pre.reverse = some s := by
  obtain ⟨es₁, e, es₂, -, hpre, hout⟩ := emit_split eingang_one h
  have hinv : Gemeldet (emit eingangStep keysInit es₁).1 pre.reverse := by
    rw [← hpre]
    exact emit_invariant gemeldet_step es₁ keysInit [] gemeldet_init
  generalize (emit eingangStep keysInit es₁).1 = t at hout hinv
  cases e with
  | besuch b hoch =>
      obtain ⟨hnone, -⟩ | ⟨-, hdown, -⟩ | ⟨hstate, hup, -⟩ :=
        besuch_cases b.taste b.pegel (t b.taste)
      · simp [eingangStep, besuchStep, demux, hnone] at hout
      · simp [eingangStep, besuchStep, demux, hdown, menueEvent] at hout
      · have hkey : UInt8.ofNat b.taste.val = key := by
          simpa [eingangStep, besuchStep, demux, hup, menueEvent] using hout
        rw [← hkey]
        have hsome := hinv b.taste
        rw [hstate] at hsome
        exact Option.isSome_iff_exists.mp (by_contra fun hno => by simp [hno] at hsome)
  | canixReset | sekundeBeginnt | sekundeEndet | hoch | sucht k => simp [eingangStep] at hout

/-! ## What the panel makes of it -/

/-- Nothing but the page that is shown has changed, as far as the shortcuts go. -/
def NurBild (z z' : Panel) : Prop := z'.mem = z.mem ∧ z'.keypressTime = z.keypressTime

namespace NurBild

variable {z : Panel}

theorem refl (z : Panel) : NurBild z z := ⟨rfl, rfl⟩

theorem loadPage (page : UInt8) : NurBild z (z.loadPage mcu page) := ⟨rfl, rfl⟩

theorem loadErrorPage (code : UInt8) : NurBild z (z.loadErrorPage code) := ⟨rfl, rfl⟩

theorem gotoLink (id : UInt8) : NurBild z (z.gotoLink mcu id) := by
  unfold Panel.gotoLink
  split
  · exact loadPage id
  · exact refl z

theorem gotoNachbar (key : UInt8) : NurBild z (z.gotoNachbar mcu key) := by
  unfold Panel.gotoNachbar
  split_ifs
  · exact gotoLink _
  · exact gotoLink _
  · exact gotoLink _
  · exact refl z

theorem gotoFirstChildPage : NurBild z (z.gotoFirstChildPage mcu) :=
  ⟨Panel.push_mem _, Panel.push_keypressTime _⟩

theorem loadShortcutPage (n : Fin 8) : NurBild z (z.loadShortcutPage mcu n) := by
  unfold Panel.loadShortcutPage
  dsimp only
  split
  · exact loadPage _
  · exact loadErrorPage _

end NurBild

theorem keyDownEvent_bild (key : UInt8) (hoch : Bool) (z : Panel) :
    (z.keyDownEvent mcu key hoch).mem = z.mem ∧
      (z.keyDownEvent mcu key hoch).keypressTime = 1 := by
  have hbild : NurBild { z with
      lcdLedCountdown := 10, lcdScreensaferCountdown := 300, keypressTime := 1 }
      (z.keyDownEvent mcu key hoch) := by
    unfold Panel.keyDownEvent
    dsimp only
    split_ifs
    · exact NurBild.gotoLink _
    · exact NurBild.refl _
    · exact NurBild.gotoNachbar key
    · exact NurBild.gotoFirstChildPage
    · exact NurBild.refl _
    · exact NurBild.gotoNachbar key
    · exact NurBild.refl _
  exact hbild

theorem sekundeEndet_bild (z : Panel) : NurBild z (z.sekundeEndet mcu) := by
  unfold Panel.sekundeEndet
  dsimp only
  split_ifs
  · exact ⟨rfl, rfl⟩
  · exact ⟨rfl, rfl⟩
  · exact NurBild.refl z

/-- The panel has not counted more beats than any key has been held down for. -/
def Gezaehlt (z : Panel) (past : List MenueEvent) : Prop :=
  ∀ key s, gehalten key past = some s → z.keypressTime.toNat ≤ s + 1

theorem gezaehlt_step (z : Panel) (past : List MenueEvent) (e : MenueEvent)
    (h : Gezaehlt z past) : Gezaehlt (lcdStep mcu z e) (e :: past) := by
  intro key s hs
  cases e with
  | keyDown k hoch =>
      show (z.keyDownEvent mcu k hoch).keypressTime.toNat ≤ s + 1
      rw [(keyDownEvent_bild k hoch z).2]
      exact Nat.le_add_left 1 s
  | keyUp k => exact Nat.zero_le _
  | sekundeBeginnt =>
      obtain ⟨s', hs', rfl⟩ := Option.map_eq_some_iff.mp hs
      have hle := h key s' hs'
      show (if z.keypressTime ≠ 0 ∧ z.keypressTime < 255 then z.keypressTime + 1
        else z.keypressTime).toNat ≤ s' + 1 + 1
      split
      · rw [UInt8.toNat_add]
        exact Nat.le_trans (Nat.mod_le _ _) (Nat.add_le_add_right hle 1)
      · exact Nat.le_succ_of_le hle
  | sekundeEndet =>
      show (z.sekundeEndet mcu).keypressTime.toNat ≤ s + 1
      rw [(sekundeEndet_bild z).2]
      exact h key s hs
  | hoch =>
      show (z.gotoPageUp mcu).keypressTime.toNat ≤ s + 1
      rw [Panel.gotoPageUp, (NurBild.gotoLink _).2]
      exact h key s hs
  | sucht k =>
      simp only [lcdStep]
      split
      · exact h key s hs
      · exact h key s hs
  | neustart => exact absurd hs.symm (Option.some_ne_none s)

theorem gezaehlt_run (es : List MenueEvent) : ∀ (z : Panel) (past : List MenueEvent),
    Gezaehlt z past → Gezaehlt (run (lcdStep mcu) z es) (es.reverse ++ past) := by
  induction es with
  | nil => exact fun z past h => h
  | cons e es ih =>
      intro z past h
      rw [run_cons, List.reverse_cons, List.append_assoc]
      exact ih _ _ (gezaehlt_step z past e h)

/-- The EEPROM changes only when a shortcut is saved. -/
theorem gespeichert_of_mem {z : Panel} {e : MenueEvent} (h : (lcdStep mcu z e).mem ≠ z.mem) :
    ∃ key n, e = .keyUp key ∧ shortcutKey key = some n ∧ 3 ≤ z.keypressTime := by
  cases e with
  | keyUp key =>
      simp only [lcdStep, Panel.keyUpEvent] at h
      cases hkey : shortcutKey key with
      | none =>
          rw [hkey] at h
          exact absurd rfl h
      | some n =>
          rw [hkey] at h
          refine ⟨key, n, rfl, hkey, UInt8.not_lt.mp fun hkurz => h ?_⟩
          dsimp only
          rw [if_pos hkurz]
          exact (NurBild.loadShortcutPage n).1
  | keyDown k hoch => exact absurd (keyDownEvent_bild k hoch z).1 h
  | sekundeBeginnt => exact absurd rfl h
  | sekundeEndet => exact absurd (sekundeEndet_bild z).1 h
  | hoch => exact absurd (NurBild.gotoLink _).1 h
  | sucht k =>
      simp only [lcdStep] at h
      split at h
      · exact absurd rfl h
      · exact absurd rfl h
  | neustart => exact absurd rfl h

/-- **A page is kept only under a key that is held down**: in every run of the board,
whatever the order of the turns of the key loop and of everything else, the event that
changes the EEPROM lets go one of F1 to F4 that has been down for two beats of the
second at least. -/
theorem kurzwahl_nur_gehalten (m : Eeprom) (es : List Eingang) {pre post : List MenueEvent}
    {e : MenueEvent} (hsplit : (emit eingangStep keysInit es).2 = pre ++ e :: post)
    (hmem : (run (lcdStep mcu) (.einschalten mcu m) (pre ++ [e])).mem ≠
      (run (lcdStep mcu) (.einschalten mcu m) pre).mem) :
    ∃ key n s, e = .keyUp key ∧ shortcutKey key = some n ∧
      gehalten key pre.reverse = some s ∧ 2 ≤ s := by
  rw [run_append] at hmem
  obtain ⟨key, n, rfl, hkey, hlang⟩ := gespeichert_of_mem hmem
  obtain ⟨s, hs⟩ := gehalten_of_keyUp hsplit
  have hstart : Gezaehlt (.einschalten mcu m) [] := fun _ s h =>
    absurd h.symm (Option.some_ne_none s)
  have hle := @gezaehlt_run mcu pre _ _ hstart key s (by rwa [List.append_nil])
  have hthree : 3 ≤ (run (lcdStep mcu) (.einschalten mcu m) pre).keypressTime.toNat :=
    UInt8.le_iff_toNat_le.mp hlang
  exact ⟨key, n, s, rfl, hkey, hs, by omega⟩

/-- F1 goes down, is held down for two beats and goes up. -/
def zweiSekunden : List Eingang :=
  [.besuch ⟨⟨8, Nat.le_add_left 9 7⟩, true⟩ false] ++
    List.replicate 5 (.besuch ⟨⟨8, Nat.le_add_left 9 7⟩, true⟩ false) ++
    [.sekundeBeginnt, .sekundeBeginnt, .besuch ⟨⟨8, Nat.le_add_left 9 7⟩, false⟩ false]

theorem kurzwahl_nur_gehalten_dreiSeiten :
    ∃ key n s, MenueEvent.keyUp keyF1 = .keyUp key ∧ shortcutKey key = some n ∧
      gehalten key
        [MenueEvent.keyDown keyF1 false, .sekundeBeginnt, .sekundeBeginnt].reverse = some s ∧
      2 ≤ s := by
  refine @kurzwahl_nur_gehalten .atmega32 dreiSeitenEeprom zweiSekunden _ [] _ (by decide) ?_
  -- the shortcut was page 2 and is page 1
  have hvor := run_simulates folgt_step
    [.keyDown keyF1 false, .sekundeBeginnt, .sekundeBeginnt] _ _ (folgt_start dreiSeiten_bereit)
  have hnach := run_simulates folgt_step
    ([.keyDown keyF1 false, .sekundeBeginnt, .sekundeBeginnt] ++ [.keyUp keyF1]) _ _
    (folgt_start dreiSeiten_bereit)
  intro hgleich
  have hneu := hnach.kurzwahl ⟨0, Nat.le_add_left 1 7⟩
  rw [hgleich, hvor.kurzwahl ⟨0, Nat.le_add_left 1 7⟩] at hneu
  revert hneu
  decide

end OpenHcan.Userpanel
