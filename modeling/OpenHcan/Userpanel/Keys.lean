import OpenHcan.Lib.Debounce
import OpenHcan.Lib.Countdown
import OpenHcan.Userpanel.Lcdstatemachine

/-!
# Keys — keys.c

The keys of the panel are read every 10 ms. Each has a counter that makes it blind
for a while after a change, so it is a debouncer of its own: the loop over the keys
is one automaton for each of them. A handler may wait, and then the keys are read
again in the middle of the loop, so the automata are fed in any order.
-/

namespace OpenHcan.Userpanel

open Lib

/-- KEY_COUNTER_START -/
def keyCounterStart : UInt8 := 5

/-- KEY_MASK -/
def keyMask : UInt16 := 0x3fcf

/-- `key_counter[i]` and `key_state[i]` -/
structure Taste where
  keyCounter : UInt8
  keyState : UInt8
deriving DecidableEq

abbrev Tasten := Fin 16 → Taste

/-- `keys_init` -/
def keysInit : Tasten := fun _ => ⟨0, 0⟩

/-- `keys_key_pressed`, from PIND and PINA. -/
def keysKeyPressed (pind pina : UInt8) : UInt16 :=
  (~~~(pind.toUInt16 ||| (pina.toUInt16 <<< 8))) &&& keyMask

/-- `keys & (1<<i)` -/
def gedrueckt (keys : UInt16) (i : Nat) : Bool := keys.toNat.testBit i

/-- What the loop calls. -/
inductive TastenEvent
  | keyDownEvent (i : Fin 16)
  | keyUpEvent (i : Fin 16)
deriving DecidableEq

def TastenEvent.taste : TastenEvent → Fin 16
  | .keyDownEvent i | .keyUpEvent i => i

/-- The event of a new level. -/
def tastenEvent (i : Fin 16) (pegel : Bool) : TastenEvent :=
  if pegel then .keyDownEvent i else .keyUpEvent i

/-- One turn of the loop: the key, and its bit of `keys`. -/
structure Besuch where
  taste : Fin 16
  pegel : Bool

/-- The body of the loop, for the key `i`. -/
def Taste.besuch (i : Fin 16) (pegel : Bool) (t : Taste) : Taste × List TastenEvent :=
  if t.keyCounter = 0 then
    let (t, es) : Taste × List TastenEvent :=
      if t.keyState = 0 ∧ pegel = true then (⟨keyCounterStart, 1⟩, [.keyDownEvent i]) else (t, [])
    if t.keyState = 1 ∧ pegel = false then (⟨keyCounterStart, 0⟩, es ++ [.keyUpEvent i])
    else (t, es)
  else (⟨t.keyCounter - 1, t.keyState⟩, [])

/-- A turn of the loop. -/
def besuchStep : Tasten → Besuch → Tasten × List TastenEvent :=
  demux (fun b => some b.taste) fun t b => t.besuch b.taste b.pegel

/-- The turns of the loop over the keys. -/
def besuche (keys : UInt16) : List Besuch :=
  (List.finRange 16).map fun i => ⟨i, gedrueckt keys i.val⟩

/-- The magic reset key combination. -/
def resetKombination (keys : UInt16) : Bool :=
  gedrueckt keys keyEsc.toNat && gedrueckt keys keyUp.toNat && gedrueckt keys keyDown.toNat

/-- `keys_handle_pressed`, if nothing reads the keys while a handler waits. `none` is
`canix_reset`. -/
def keysHandlePressed (pind pina : UInt8) (t : Tasten) : Option (Tasten × List TastenEvent) :=
  let keys := keysKeyPressed pind pina
  if resetKombination keys then none else some (emit besuchStep t (besuche keys))

/-- PIND and PINA -/
structure Pins where
  pind : UInt8
  pina : UInt8

def Pins.keys (p : Pins) : UInt16 := keysKeyPressed p.pind p.pina

/-- The call every 10 ms. A board that is reset starts with `keys_init`. -/
def abfrageStep (t : Tasten) (p : Pins) : Tasten × List TastenEvent :=
  (keysHandlePressed p.pind p.pina t).getD (keysInit, [])

/-! ## A key is a debouncer -/

/-- The key and the debouncer it is. -/
def Entprellt (t : Taste) (d : Debouncer) : Prop :=
  t.keyCounter.toNat = d.counter ∧ t.keyState = if d.level then 1 else 0

theorem entprellt_init : Entprellt ⟨0, 0⟩ ⟨0, false⟩ := ⟨rfl, rfl⟩

theorem entprellt_besuch (i : Fin 16) {t : Taste} {d : Debouncer} (pegel : Bool)
    (h : Entprellt t d) :
    Entprellt (t.besuch i pegel).1 (d.sample 5 pegel).1 ∧
      (t.besuch i pegel).2 = (d.sample 5 pegel).2.map (tastenEvent i) := by
  obtain ⟨c, s⟩ := t
  obtain ⟨n, b⟩ := d
  obtain ⟨hc, rfl⟩ : c.toNat = n ∧ s = if b then 1 else 0 := h
  by_cases hzero : c = 0
  · subst hzero
    obtain rfl : 0 = n := hc
    cases b <;> cases pegel <;>
      simp [Taste.besuch, Debouncer.sample, Entprellt, tastenEvent, keyCounterStart]
  · have hpos : n ≠ 0 := fun hn => hzero (UInt8.toNat_inj.mp (hc.trans hn))
    have hdown := byte_sub_one_add_one hzero
    have hnext : (c - 1).toNat = n - 1 := by omega
    simp [Taste.besuch, Debouncer.sample, Entprellt, hzero, hpos, hnext]

/-- The levels a key was read with. -/
def pegel (i : Fin 16) (bs : List Besuch) : List Bool :=
  (bs.filter (·.taste = i)).map Besuch.pegel

theorem pegel_append (i : Fin 16) (bs bs' : List Besuch) :
    pegel i (bs ++ bs') = pegel i bs ++ pegel i bs' := by
  simp [pegel]

theorem filter_eq_map_pegel (i : Fin 16) (bs : List Besuch) :
    bs.filter (fun b => some b.taste = some i) = (pegel i bs).map (Besuch.mk i) := by
  induction bs with
  | nil => rfl
  | cons b bs ih =>
      by_cases hi : b.taste = i
      · subst hi
        simpa [pegel] using ih
      · simpa [pegel, hi] using ih

/-- A turn reports nothing and keeps the state, or the key goes down or up. -/
theorem besuch_cases (i : Fin 16) (pegel : Bool) (t : Taste) :
    ((t.besuch i pegel).2 = [] ∧ (t.besuch i pegel).1.keyState = t.keyState) ∨
      (t.keyState = 0 ∧ (t.besuch i pegel).2 = [.keyDownEvent i] ∧
        (t.besuch i pegel).1.keyState = 1) ∨
      (t.keyState = 1 ∧ (t.besuch i pegel).2 = [.keyUpEvent i] ∧
        (t.besuch i pegel).1.keyState = 0) := by
  by_cases hzero : t.keyCounter = 0
  · by_cases hdown : t.keyState = 0 ∧ pegel = true
    · obtain ⟨hstate, rfl⟩ := hdown
      exact .inr (.inl (by simp [Taste.besuch, hzero, hstate]))
    · by_cases hup : t.keyState = 1 ∧ pegel = false
      · obtain ⟨hstate, rfl⟩ := hup
        exact .inr (.inr (by simp [Taste.besuch, hzero, hstate]))
      · exact .inl (by simp [Taste.besuch, hzero, hdown, hup])
  · exact .inl (by simp [Taste.besuch, hzero])

theorem taste_of_besuch {i : Fin 16} {b : Bool} {t : Taste} {e : TastenEvent}
    (h : e ∈ (t.besuch i b).2) : e.taste = i := by
  obtain ⟨hout, -⟩ | ⟨-, hout, -⟩ | ⟨-, hout, -⟩ := besuch_cases i b t
  · rw [hout] at h
    exact absurd h List.not_mem_nil
  · rw [hout, List.mem_singleton] at h
    rw [h, TastenEvent.taste]
  · rw [hout, List.mem_singleton] at h
    rw [h, TastenEvent.taste]

/-- **A key does not see the others**: its state and its events are those of a
debouncer that is fed with its own levels. -/
theorem taste_allein {m : Tasten} {i : Fin 16} {d : Debouncer} (h : Entprellt (m i) d)
    (bs : List Besuch) :
    Entprellt ((emit besuchStep m bs).1 i) (emit (Debouncer.sample 5) d (pegel i bs)).1 ∧
      (emit besuchStep m bs).2.filter (·.taste = i) =
        (emit (Debouncer.sample 5) d (pegel i bs)).2.map (tastenEvent i) := by
  have howner : ∀ (t : Taste) (b : Besuch) (k : Fin 16), some b.taste = some k →
      ∀ x ∈ (t.besuch b.taste b.pegel).2, x.taste = k := by
    rintro t b k ⟨rfl⟩ x hx
    exact taste_of_besuch hx
  obtain ⟨hstate, hout⟩ := emit_demux howner i bs m
  rw [filter_eq_map_pegel] at hstate hout
  obtain ⟨hsim, houts⟩ := @emit_simulates _ _ _ (fun t b => t.besuch b.taste b.pegel) _ _ _
    (Debouncer.sample 5) Entprellt (Besuch.mk i) (tastenEvent i)
    (fun _ _ x ht => entprellt_besuch i x ht) (pegel i bs) (m i) d h
  exact ⟨hstate ▸ hsim, hout.trans houts⟩

/-! ## Any order of turns -/

/-- The events of a key alternate, and its state is the last of them. -/
def Wechselt (i : Fin 16) (t : Taste) (es : List TastenEvent) : Prop :=
  ∃ flanken : List Bool, es = flanken.map (tastenEvent i) ∧
    (false :: flanken).IsChain (· ≠ ·) ∧ t.keyState = if flanken.getLastD false then 1 else 0

/-- **The events of a key are in order, whatever the order of the turns**: a handler
that waits lets the keys be read again in the middle of the loop, with other levels.
Still each key goes down and up in turn, six turns in a row have one event of it at
most, and six turns with one level end in the state of this level. -/
theorem tasten_in_ordnung (bs : List Besuch) (i : Fin 16) :
    Wechselt i ((emit besuchStep keysInit bs).1 i)
        ((emit besuchStep keysInit bs).2.filter (·.taste = i)) ∧
      (∀ pre win, bs = pre ++ win → (pegel i win).length ≤ 6 →
        ((emit besuchStep (emit besuchStep keysInit pre).1 win).2.filter
          (·.taste = i)).length ≤ 1) ∧
      ∀ pre x, pegel i bs = pre ++ List.replicate 6 x →
        ((emit besuchStep keysInit bs).1 i).keyState = if x then 1 else 0 := by
  obtain ⟨hstate, hout⟩ := @taste_allein keysInit i _ entprellt_init bs
  refine ⟨⟨_, hout, Debouncer.alternates (pegel i bs) ⟨0, false⟩, ?_⟩, ?_, ?_⟩
  · rw [hstate.2, Debouncer.level_eq_getLast]
  · rintro pre win rfl hlen
    obtain ⟨hpre, -⟩ := @taste_allein keysInit i _ entprellt_init pre
    obtain ⟨-, hwin⟩ := taste_allein hpre win
    rw [hwin, List.length_map]
    exact Debouncer.distance (pegel i win) _ hlen
  · intro pre x hpegel
    rw [hstate.2, hpegel, emit_append]
    have hcounter := Debouncer.counter_le pre ⟨0, false⟩ (Nat.zero_le 5)
    rw [Debouncer.settles _ hcounter x (Nat.lt_succ_self 5)]

/-! ## The keys one after the other -/

theorem pegel_besuche (keys : UInt16) (i : Fin 16) :
    pegel i (besuche keys) = [gedrueckt keys i.val] := by
  have hfilter : (List.finRange 16).filter (· = i) = [i] := by
    revert i
    decide
  rw [pegel, besuche, List.filter_map, List.map_map]
  have hcomp : (fun b : Besuch => decide (b.taste = i)) ∘
      (fun i => (⟨i, gedrueckt keys i.val⟩ : Besuch)) = fun j => decide (j = i) := rfl
  rw [hcomp, hfilter]
  rfl

theorem pegel_flatMap (i : Fin 16) (ps : List Pins) :
    pegel i (ps.flatMap fun p => besuche p.keys) = ps.map fun p => gedrueckt p.keys i.val := by
  induction ps with
  | nil => rfl
  | cons p ps ih =>
      rw [List.flatMap_cons, pegel_append, pegel_besuche, ih]
      rfl

/-- Without the combination the calls are their turns. -/
theorem emit_abfrage (ps : List Pins) (h : ∀ p ∈ ps, resetKombination p.keys = false) :
    ∀ t : Tasten, emit abfrageStep t ps = emit besuchStep t (ps.flatMap fun p => besuche p.keys) := by
  induction ps with
  | nil => exact fun t => rfl
  | cons p ps ih =>
      intro t
      obtain ⟨hp, hps⟩ := List.forall_mem_cons.mp h
      have hstep : abfrageStep t p = emit besuchStep t (besuche p.keys) := by
        rw [abfrageStep, keysHandlePressed]
        simp only [show keysKeyPressed p.pind p.pina = p.keys from rfl, hp]
        rfl
      rw [emit_cons, hstep, ih hps, List.flatMap_cons, emit_append]

/-- **Bouncing keys are debounced**: as long as a key bounces for at most five calls
after it is pressed or let go, and unless the board is reset, the handlers are called
once for each press and each release, whatever the other keys do. -/
theorem tasten_entprellt (ps : List Pins) (hreset : ∀ p ∈ ps, resetKombination p.keys = false)
    (i : Fin 16) {flanken : List Bool}
    (h : Bounced 5 false (ps.map fun p => gedrueckt p.keys i.val) flanken) :
    (emit abfrageStep keysInit ps).2.filter (·.taste = i) = flanken.map (tastenEvent i) := by
  rw [emit_abfrage ps hreset, (taste_allein entprellt_init _).2, pegel_flatMap, h.reported]

/-- KEY_OK bounces when it is pressed. -/
def prellend : List Pins :=
  ([0xff, 0xf7, 0xf7, 0xff, 0xf7, 0xf7, 0xf7, 0xf7, 0xff, 0xf7] : List UInt8).map (⟨·, 0xff⟩)

theorem tasten_entprellt_prellend :
    (emit abfrageStep keysInit prellend).2.filter (·.taste = ⟨3, Nat.le_add_left 4 12⟩) =
      [.keyDownEvent ⟨3, Nat.le_add_left 4 12⟩, .keyUpEvent ⟨3, Nat.le_add_left 4 12⟩] := by
  have hflanken : Bounced 5 false
      (prellend.map fun p => gedrueckt p.keys (⟨3, Nat.le_add_left 4 12⟩ : Fin 16).val)
      [true, false] :=
    .edge false 1 [true, false, true, true, true] rfl (.last true 1 [true] (by decide))
  exact tasten_entprellt prellend (by decide) ⟨3, Nat.le_add_left 4 12⟩ hflanken

end OpenHcan.Userpanel
