import OpenHcan.Devices.PowerportAutoAus
import OpenHcan.Lib.History

/-!
# PowerportPuls — the pulses of a bistable relay

A bistable relay is switched by a pulse: `powerport_on` switches the output on,
sleeps for 8 ticks of the RTC, and switches it off. Frames and timer rounds are
handled during the sleep, and `canix_sleep_100th` returns at once when somebody
on the board sleeps already.

An observer of the output counts the pulses.
-/

namespace OpenHcan.Powerport

open Lib

set_option maxRecDepth 100000

/-! ## The board -/

/-- A powerport on its board, and `canix_sleep_ticker`. The other devices of the
board can be asleep as well. -/
structure PulsBoard where
  port : Sleeper PowerportIO
  ticker : Nat

/-- What happens on the board: a HES frame comes, the timer handlers are called,
another handler calls `canix_sleep_100th`, the RTC ticks, or
`canix_sleep_100th` looks at its ticker. -/
inductive BoardEvent
  | frame (f : CanixFrame)
  | timer (zyklus : UInt8)
  | pause (n : UInt8)
  | rtc
  | check
deriving DecidableEq, Repr

/-- A handler starts. If it falls asleep, it is for `n` ticks. -/
def PulsBoard.handle (b : PulsBoard) (n : UInt8) (h : PowerportIO → Resumption PowerportIO) :
    PulsBoard where
  port := b.port.handle h
  ticker := if b.port.asleep.isNone ∧ (b.port.handle h).asleep.isSome then n.toNat else b.ticker

/-- In one of its groups a powerport only sleeps in `powerport_on`. The other
sleep is the one before an answer to all devices. -/
def callbackSleep (s : PowerportIO) (f : CanixFrame) : UInt8 :=
  if isInGroup s.dev.config (f.byte 2) then 8 else 10

def boardStep (selfaddr : UInt16) (b : PulsBoard) : BoardEvent → PulsBoard
  | .frame f => b.handle (callbackSleep b.port.state f) (powerportCanCallback selfaddr f)
  | .timer zyklus => b.handle 8 fun s => powerportTimerHandler selfaddr s zyklus
  | .pause n => b.handle n fun s => .sleep s .done
  | .rtc => ⟨b.port, b.ticker - 1⟩
  | .check => if b.ticker = 0 then ⟨b.port.wake, 0⟩ else b

/-- A powerport that `devices_load_config` has built, on a board that has
started: the struct was zeroed and the outputs are off. -/
def boardStart (c : EdsPowerportBlock) : PulsBoard where
  port := portStart ⟨c, false, 0, false⟩
  ticker := 0

/-- The output is on. -/
def PulsBoard.ein (b : PulsBoard) : Bool := b.port.state.ein

/-- Bit 0 of `bistableRelaisState`. -/
def PulsBoard.bit (b : PulsBoard) : Bool := b.port.state.dev.bistableRelaisState

/-! ## The observer -/

/-- The ticks of the RTC since the output was switched on, and the pulses that
were complete: on for at least 8 ticks, and then off. -/
structure Messung where
  seit : Nat
  pulse : Nat
deriving DecidableEq, Repr

def Messung.weiter (m : Messung) (tick : Bool) : Bool → Bool → Messung
  | false, false => m
  | false, true => ⟨0, m.pulse⟩
  | true, true => ⟨if tick then m.seit + 1 else m.seit, m.pulse⟩
  | true, false => ⟨0, if 8 ≤ m.seit then m.pulse + 1 else m.pulse⟩

/-- The state a relay has after the pulses: their parity. -/
def Messung.bit (m : Messung) : Bool := m.pulse % 2 == 1

def messen (b : PulsBoard) (e : BoardEvent) (b' : PulsBoard) (m : Messung) : Messung :=
  match e with
  | .rtc => m.weiter true b.ein b'.ein
  | _ => m.weiter false b.ein b'.ein

/-- The board under observation. -/
def gemessen (selfaddr : UInt16) : PulsBoard × Messung → BoardEvent → PulsBoard × Messung :=
  observed (boardStep selfaddr) messen

def messStart (c : EdsPowerportBlock) : PulsBoard × Messung := (boardStart c, ⟨0, 0⟩)

/-! ## The property and its condition -/

/-- If the state of the relay changes, a pulse ends: the output was on for at
least 8 ticks and goes off. -/
def EndetPuls (c : PulsBoard × Messung) (b : PulsBoard) : Prop :=
  b.bit ≠ c.1.bit → c.1.ein = true ∧ 8 ≤ c.2.seit ∧ b.ein = false

instance (c : PulsBoard × Messung) (b : PulsBoard) : Decidable (EndetPuls c b) := by
  unfold EndetPuls
  infer_instance

/-- A change of the state belongs to its own pulse. -/
def EigenerPuls (selfaddr : UInt16) (c : PulsBoard × Messung) (e : BoardEvent) : Prop :=
  EndetPuls c (boardStep selfaddr c.1 e)

instance (selfaddr : UInt16) (c : PulsBoard × Messung) (e : BoardEvent) :
    Decidable (EigenerPuls selfaddr c e) := by
  unfold EigenerPuls
  infer_instance

/-- The state of the relay is the parity of the complete pulses. -/
def Paritaet (c : PulsBoard × Messung) : Prop := c.1.bit = c.2.bit

instance (c : PulsBoard × Messung) : Decidable (Paritaet c) := by
  unfold Paritaet
  infer_instance

/-- Every change of the state has its own pulse, and the state is always the
parity of the pulses. -/
def PulseRichtig (selfaddr : UInt16) (c : EdsPowerportBlock) (es : List BoardEvent) : Prop :=
  Guarded (gemessen selfaddr) (EigenerPuls selfaddr) (messStart c) es ∧
    ∀ pre, pre <+: es → Paritaet (run (gemessen selfaddr) (messStart c) pre)

/-- A call of `powerport_on` or `powerport_off`. -/
inductive Aufruf
  | on
  | off
deriving DecidableEq, Repr

/-- What `set_powerport_or_timer` calls. -/
def flankeAufruf (c : EdsPowerportBlock) : Flanke → Option Aufruf
  | .steigend =>
      if c.has .autoAus then some .on else if c.has .verzoegertEin then none else some .on
  | .fallend => if c.has .nachlauf then none else some .off

/-- What `powerport_can_callback` calls. -/
def frameAufruf (s : PowerportIO) (f : CanixFrame) : Option Aufruf :=
  match kante s f with
  | some k => flankeAufruf s.dev.config k
  | none => if Weckt s f ∧ (geweckt f s.dev).config.has .weckAutoAus then some .on else none

/-- What a timer that has run down calls. -/
def ablaufAufruf (c : EdsPowerportBlock) : Option Aufruf :=
  if c.has .weckVerzoegertEin then some .on
  else if c.has .weckAutoAus then some .off
  else if c.has .verzoegertEin then some .on
  else if c.has .autoAus ∨ c.has .nachlauf then some .off
  else none

/-- What `powerport_timer_handler` calls. -/
def timerAufruf (p : DeviceDataPowerport) (zyklus : UInt8) : Option Aufruf :=
  if zyklus = 1 ∧ p.countDownTimer = 1 then ablaufAufruf p.config else none

def BoardEvent.aufruf (s : PowerportIO) : BoardEvent → Option Aufruf
  | .frame f => frameAufruf s f
  | .timer zyklus => timerAufruf s.dev zyklus
  | _ => none

/-- While somebody on the board sleeps the port is not switched on, nor switched
off as long as its output is on. -/
def Ungestoert (b : PulsBoard) (e : BoardEvent) : Prop :=
  b.port.asleep.isSome = true →
    e.aufruf b.port.state ≠ some .on ∧ (b.ein = true → e.aufruf b.port.state ≠ some .off)

instance (b : PulsBoard) (e : BoardEvent) : Decidable (Ungestoert b e) := by
  unfold Ungestoert
  infer_instance

/-! ## The relay -/

/-- A port with a bistable relay, its output and the state of the relay. -/
structure Relais (pin bit : Bool) (s : PowerportIO) : Prop where
  bistabil : s.dev.config.has .bistableRelais = true
  ein : s.ein = pin
  bit : s.dev.bistableRelaisState = bit

/-- The rest of a pulse: the output goes off and the state changes. -/
def PulsRest (rest : PowerportIO → Resumption PowerportIO) : Prop :=
  ∀ pin bit s, Relais pin bit s → ∃ s', rest s = .done s' ∧ Relais false (!bit) s'

/-- The rest of a handler that leaves the relay alone. -/
def RuheRest (rest : PowerportIO → Resumption PowerportIO) : Prop :=
  ∀ pin bit s, Relais pin bit s → ∃ s', rest s = .done s' ∧ Relais pin bit s'

/-- What a handler does to the relay, by what it calls. -/
inductive RelaisEffekt (pin bit : Bool) : Option Aufruf → Resumption PowerportIO → Prop
  | on (s : PowerportIO) (rest : PowerportIO → Resumption PowerportIO) : Relais true bit s →
      PulsRest rest → RelaisEffekt pin bit (some .on) (.sleep s rest)
  | off (s : PowerportIO) : Relais false bit s → RelaisEffekt pin bit (some .off) (.done s)
  | ruhe (s : PowerportIO) : Relais pin bit s → RelaisEffekt pin bit none (.done s)
  | antwort (s : PowerportIO) (rest : PowerportIO → Resumption PowerportIO) : Relais pin bit s →
      RuheRest rest → RelaisEffekt pin bit none (.sleep s rest)

section

variable {pin bit : Bool} {s : PowerportIO}

theorem Relais.update (hs : Relais pin bit s) {f : DeviceDataPowerport → DeviceDataPowerport}
    (hport : (f s.dev).config.port = s.dev.config.port)
    (hb : (f s.dev).config.has .bistableRelais = true)
    (hbit : (f s.dev).bistableRelaisState = s.dev.bistableRelaisState) :
    Relais pin bit (s.update f) where
  bistabil := hb
  ein := (update_ein s hport).trans hs.ein
  bit := hbit.trans hs.bit

theorem Relais.timer (hs : Relais pin bit s) {f : DeviceDataPowerport → DeviceDataPowerport}
    (hconfig : (f s.dev).config = s.dev.config)
    (hbit : (f s.dev).bistableRelaisState = s.dev.bistableRelaisState) :
    Relais pin bit (s.update f) := by
  apply hs.update _ _ hbit
  · rw [hconfig]
  · rw [hconfig]
    exact hs.bistabil

theorem Relais.clear (hs : Relais pin bit s) {g : Feature} (hg : g ≠ .bistableRelais) :
    Relais pin bit (s.update fun p => { p with config := p.config.clear g }) :=
  hs.update rfl ((has_clear_other s.dev.config hg).trans hs.bistabil) rfl

theorem Relais.setpin (hs : Relais pin bit s) (b : Bool) : Relais b bit (s.setpin b) :=
  ⟨hs.bistabil, setpin_ein s b, hs.bit⟩

/-- A relay is switched on by a pulse. What comes after the call of
`powerport_on` leaves the relay alone. -/
theorem powerportOn_effekt (selfaddr : UInt16) (hs : Relais pin bit s)
    {f : PowerportIO → PowerportIO} (hf : ∀ bit t, Relais false bit t → Relais false bit (f t)) :
    RelaisEffekt pin bit (some .on) ((powerportOn selfaddr s).map f) := by
  rw [powerportOn_puls selfaddr s hs.bistabil]
  apply RelaisEffekt.on _ _ (hs.setpin true)
  intro pin' bit' t ht
  refine ⟨_, rfl, hf _ _ ⟨ht.bistabil, setpin_ein t false, ?_⟩⟩
  show (!t.dev.bistableRelaisState) = !bit'
  rw [ht.bit]

theorem powerportOff_relais (selfaddr : UInt16) (hs : Relais pin bit s) :
    Relais false bit (powerportOff selfaddr s) :=
  ⟨hs.bistabil, powerportOff_ein selfaddr s, hs.bit⟩

theorem edge_effekt (selfaddr : UInt16) (hs : Relais pin bit s) (k : Flanke) :
    RelaisEffekt pin bit (flankeAufruf s.dev.config k) (setPowerportOrTimer selfaddr s k) := by
  cases k with
  | steigend =>
      simp only [flankeAufruf, setPowerportOrTimer]
      split
      · exact powerportOn_effekt selfaddr hs fun _ _ ht => ht.timer rfl rfl
      · split
        · exact .ruhe _ (hs.timer rfl rfl)
        · exact powerportOn_effekt selfaddr hs fun _ _ ht => ht.timer rfl rfl
  | fallend =>
      simp only [flankeAufruf, setPowerportOrTimer]
      split
      · exact .ruhe _ (hs.timer rfl rfl)
      · exact .off _ ((powerportOff_relais selfaddr hs).timer rfl rfl)

theorem Relais.geweckt (hs : Relais pin bit s) (f : CanixFrame) :
    Relais pin bit (s.update (geweckt f)) :=
  hs.update rfl (geweckt_has f hs.bistabil) rfl

theorem weck_effekt (selfaddr : UInt16) (hs : Relais pin bit s) {f : CanixFrame}
    (hw : Weckt s f) :
    RelaisEffekt pin bit
      (if (Powerport.geweckt f s.dev).config.has .weckAutoAus then some .on else none)
      (weckerSet selfaddr f s) := by
  rw [weckerSet_eq selfaddr hw]
  split
  · rw [← Resumption.map_of_id (fun _ => rfl) (powerportOn selfaddr _)]
    exact powerportOn_effekt selfaddr (hs.geweckt f) fun _ _ ht => ht
  · exact .ruhe _ (hs.geweckt f)

theorem muteGruppe_bit (f : CanixFrame) (p : DeviceDataPowerport) :
    (muteGruppe f p).bistableRelaisState = p.bistableRelaisState := by
  unfold muteGruppe
  split
  · split
    · rfl
    · split
      · dsimp only
        split
        · rfl
        · rfl
      · rfl
  · rfl

/-- **The frame handler** does to the relay what the calls of `frameAufruf` do. -/
theorem callback_effekt (selfaddr : UInt16) (hs : Relais pin bit s) (f : CanixFrame) :
    RelaisEffekt pin bit (frameAufruf s f) (powerportCanCallback selfaddr f s) := by
  have heffect := callback_effect selfaddr s f
  generalize powerportCanCallback selfaddr f s = r at heffect ⊢
  unfold frameAufruf
  cases heffect with
  | edge k hk =>
      rw [hk]
      exact edge_effekt selfaddr hs k
  | weck hk hw =>
      rw [hk]
      simp only [hw, true_and]
      exact weck_effekt selfaddr hs hw
  | quiet s' hk hw houtputs hdev =>
      rw [hk]
      simp only [hw, false_and, if_false]
      have hein : s'.ein = s.ein := by
        unfold PowerportIO.ein
        rw [houtputs, hdev, muteGruppe_config]
      refine .ruhe s' ⟨?_, hein.trans hs.ein, ?_⟩
      · rw [hdev, muteGruppe_config]
        exact hs.bistabil
      · rw [hdev, muteGruppe_bit]
        exact hs.bit
  | answer rest hk hw _ hrest =>
      rw [hk]
      simp only [hw, false_and, if_false]
      apply RelaisEffekt.antwort s rest hs
      intro pin' bit' t ht
      obtain ⟨t', hdone, houtputs, hdev⟩ := hrest t
      refine ⟨t', hdone, ?_, ?_, ?_⟩
      · rw [hdev]
        exact ht.bistabil
      · unfold PowerportIO.ein
        rw [houtputs, hdev]
        exact ht.ein
      · rw [hdev]
        exact ht.bit

theorem ablauf_effekt (selfaddr : UInt16) (hs : Relais pin bit s) {f : PowerportIO → PowerportIO}
    (hf : ∀ pin bit t, Relais pin bit t → Relais pin bit (f t)) :
    RelaisEffekt pin bit (ablaufAufruf s.dev.config) ((timerAbgelaufen selfaddr s).map f) := by
  unfold ablaufAufruf timerAbgelaufen
  split
  · rw [Resumption.map_map]
    apply powerportOn_effekt selfaddr hs
    intro bit' t ht
    exact hf _ _ _ ((ht.clear (by decide)).timer rfl rfl)
  · split
    · exact .off _ (hf _ _ _ ((powerportOff_relais selfaddr hs).clear (by decide)))
    · split
      · exact powerportOn_effekt selfaddr hs fun bit' t ht => hf _ _ _ ht
      · split
        · exact .off _ (hf _ _ _ (powerportOff_relais selfaddr hs))
        · exact .ruhe _ (hf _ _ _ hs)

/-- **The timer handler** does to the relay what the calls of `timerAufruf` do. -/
theorem timer_effekt (selfaddr : UInt16) (hs : Relais pin bit s) (zyklus : UInt8) :
    RelaisEffekt pin bit (timerAufruf s.dev zyklus) (powerportTimerHandler selfaddr s zyklus) := by
  unfold timerAufruf
  by_cases hz : zyklus = 1
  · subst hz
    by_cases h1 : s.dev.countDownTimer = 1
    · rw [if_pos ⟨rfl, h1⟩, tick_ablauf selfaddr h1]
      exact ablauf_effekt selfaddr hs fun _ _ _ ht => ht.timer rfl rfl
    · rw [if_neg fun h => h1 h.2]
      by_cases h0 : s.dev.countDownTimer = 0
      · rw [tick_aus selfaddr h0]
        exact .ruhe s hs
      · rw [tick_laeuft selfaddr h0 h1]
        exact .ruhe _ (hs.timer rfl rfl)
  · rw [if_neg fun h => hz h.1]
    unfold powerportTimerHandler
    rw [if_pos hz]
    exact .ruhe s hs

/-- A call that is squeezed into somebody's sleep. The pulse has no length. -/
theorem RelaisEffekt.straight {a : Option Aufruf} {r : Resumption PowerportIO}
    (hr : RelaisEffekt pin bit a r) :
    Relais (if a = none then pin else false) (if a = some .on then !bit else bit) r.straight := by
  cases hr with
  | on s rest hs hrest =>
      obtain ⟨s', hdone, hs'⟩ := hrest _ _ s hs
      show Relais _ _ (rest s).straight
      rw [hdone]
      exact hs'
  | off s hs => exact hs
  | ruhe s hs => exact hs
  | antwort s rest hs hrest =>
      obtain ⟨s', hdone, hs'⟩ := hrest _ _ s hs
      show Relais _ _ (rest s).straight
      rw [hdone]
      exact hs'

end

/-! ## The states of a run -/

/-- Nobody sleeps, or somebody who leaves the relay alone, or a pulse is under
way and lasts for 8 ticks at least. -/
inductive Sauber : PulsBoard × Messung → Prop
  | wach (s : PowerportIO) (ticker : Nat) (m : Messung) : Relais false m.bit s →
      Sauber (⟨⟨s, none⟩, ticker⟩, m)
  | ruhe (s : PowerportIO) (rest : PowerportIO → Resumption PowerportIO) (ticker : Nat)
      (m : Messung) : Relais false m.bit s → RuheRest rest →
      Sauber (⟨⟨s, some rest⟩, ticker⟩, m)
  | puls (s : PowerportIO) (rest : PowerportIO → Resumption PowerportIO) (ticker : Nat)
      (m : Messung) : Relais true m.bit s → PulsRest rest → 8 ≤ m.seit + ticker →
      Sauber (⟨⟨s, some rest⟩, ticker⟩, m)

/-- A pulse is under way, but its output is off. -/
inductive Abgebrochen : PulsBoard × Messung → Prop
  | mk (s : PowerportIO) (rest : PowerportIO → Resumption PowerportIO) (ticker : Nat)
      (m : Messung) (bit : Bool) : Relais false bit s → PulsRest rest →
      Abgebrochen (⟨⟨s, some rest⟩, ticker⟩, m)

section

variable {c : PulsBoard × Messung} {n : UInt8} {a : Option Aufruf}
  {h : PowerportIO → Resumption PowerportIO}

theorem Sauber.paritaet (hc : Sauber c) : Paritaet c := by
  cases hc with
  | wach s ticker m hs => exact hs.bit
  | ruhe s rest ticker m hs _ => exact hs.bit
  | puls s rest ticker m hs _ _ => exact hs.bit

theorem weiter_gleich (m : Messung) (pin : Bool) : m.weiter false pin pin = m := by
  cases pin with
  | false => rfl
  | true => rfl

/-- One more pulse changes the parity. -/
theorem Messung.bit_succ (seit pulse : Nat) :
    Messung.bit ⟨0, pulse + 1⟩ = !Messung.bit ⟨seit, pulse⟩ := by
  simp only [Messung.bit]
  rcases Nat.mod_two_eq_zero_or_one pulse with heven | hodd
  · have hnext : (pulse + 1) % 2 = 1 := by omega
    rw [heven, hnext]
    rfl
  · have hnext : (pulse + 1) % 2 = 0 := by omega
    rw [hodd, hnext]
    rfl

/-- The board and its observer after a handler. -/
def nachHandler (c : PulsBoard × Messung) (n : UInt8) (h : PowerportIO → Resumption PowerportIO) :
    PulsBoard × Messung :=
  (c.1.handle n h, c.2.weiter false c.1.ein (c.1.handle n h).ein)

theorem handle_wach (s : PowerportIO) (ticker : Nat) :
    PulsBoard.handle ⟨⟨s, none⟩, ticker⟩ n h =
      ⟨Sleeper.settle (h s),
        if (Sleeper.settle (h s)).asleep.isSome then n.toNat else ticker⟩ := by
  simp [PulsBoard.handle, Sleeper.handle_awake]

theorem handle_schlaf (s : PowerportIO) (rest : PowerportIO → Resumption PowerportIO)
    (ticker : Nat) :
    PulsBoard.handle ⟨⟨s, some rest⟩, ticker⟩ n h = ⟨⟨(h s).straight, some rest⟩, ticker⟩ := by
  simp [PulsBoard.handle, Sleeper.handle_asleep]

theorem EndetPuls.gleich {b : PulsBoard} (hbit : b.bit = c.1.bit) : EndetPuls c b :=
  fun hne => absurd hbit hne

/-- A handler that starts while nobody sleeps. -/
theorem Sauber.start {s : PowerportIO} {ticker : Nat} {m : Messung} (hs : Relais false m.bit s)
    (heff : RelaisEffekt false m.bit a (h s)) (hn : a = some .on → n = 8) :
    Sauber (nachHandler (⟨⟨s, none⟩, ticker⟩, m) n h) ∧
      EndetPuls (⟨⟨s, none⟩, ticker⟩, m) (PulsBoard.handle ⟨⟨s, none⟩, ticker⟩ n h) := by
  unfold nachHandler
  dsimp only
  rw [handle_wach]
  generalize h s = r at heff ⊢
  cases heff with
  | on s' rest hs' hrest =>
      refine ⟨?_, EndetPuls.gleich (hs'.bit.trans hs.bit.symm)⟩
      show Sauber (⟨⟨s', some rest⟩, n.toNat⟩, m.weiter false s.ein s'.ein)
      rw [hs.ein, hs'.ein, hn rfl]
      exact .puls s' rest 8 ⟨0, m.pulse⟩ hs' hrest (Nat.le_refl 8)
  | off s' hs' =>
      refine ⟨?_, EndetPuls.gleich (hs'.bit.trans hs.bit.symm)⟩
      show Sauber (⟨⟨s', none⟩, ticker⟩, m.weiter false s.ein s'.ein)
      rw [hs.ein, hs'.ein]
      exact .wach s' ticker m hs'
  | ruhe s' hs' =>
      refine ⟨?_, EndetPuls.gleich (hs'.bit.trans hs.bit.symm)⟩
      show Sauber (⟨⟨s', none⟩, ticker⟩, m.weiter false s.ein s'.ein)
      rw [hs.ein, hs'.ein]
      exact .wach s' ticker m hs'
  | antwort s' rest hs' hrest =>
      refine ⟨?_, EndetPuls.gleich (hs'.bit.trans hs.bit.symm)⟩
      show Sauber (⟨⟨s', some rest⟩, n.toNat⟩, m.weiter false s.ein s'.ein)
      rw [hs.ein, hs'.ein]
      exact .ruhe s' rest n.toNat m hs' hrest

/-- A handler that starts while somebody sleeps whom it does not disturb. -/
theorem Sauber.schlaf {s : PowerportIO} {rest : PowerportIO → Resumption PowerportIO}
    {ticker : Nat} {m : Messung} (hc : Sauber (⟨⟨s, some rest⟩, ticker⟩, m))
    (heff : ∀ pin bit, Relais pin bit s → RelaisEffekt pin bit a (h s))
    (hon : a ≠ some .on) (hoff : s.ein = true → a ≠ some .off) :
    Sauber (nachHandler (⟨⟨s, some rest⟩, ticker⟩, m) n h) ∧
      EndetPuls (⟨⟨s, some rest⟩, ticker⟩, m)
        (PulsBoard.handle ⟨⟨s, some rest⟩, ticker⟩ n h) := by
  unfold nachHandler
  dsimp only
  rw [handle_schlaf]
  cases hc with
  | ruhe _ _ _ _ hs hrest =>
      have hs' := (heff _ _ hs).straight
      rw [if_neg hon, ite_self] at hs'
      refine ⟨?_, EndetPuls.gleich (hs'.bit.trans hs.bit.symm)⟩
      show Sauber (_, m.weiter false s.ein (h s).straight.ein)
      rw [hs.ein, hs'.ein]
      exact .ruhe _ rest ticker m hs' hrest
  | puls _ _ _ _ hs hrest hticks =>
      have hnone : a = none := by
        have hoff := hoff hs.ein
        cases a with
        | none => rfl
        | some call =>
            cases call with
            | on => exact absurd rfl hon
            | off => exact absurd rfl hoff
      have hs' := (heff _ _ hs).straight
      rw [if_neg hon, if_pos hnone] at hs'
      refine ⟨?_, EndetPuls.gleich (hs'.bit.trans hs.bit.symm)⟩
      show Sauber (_, m.weiter false s.ein (h s).straight.ein)
      rw [hs.ein, hs'.ein]
      exact .puls _ rest ticker m hs' hrest hticks

/-- Switched on in somebody's sleep, a relay whose output is off changes its
state without a pulse. -/
theorem on_ohnePuls {s : PowerportIO} {rest : PowerportIO → Resumption PowerportIO}
    {ticker : Nat} {m : Messung} {bit : Bool} (hs : Relais false bit s)
    (heff : RelaisEffekt false bit (some .on) (h s)) :
    ¬ EndetPuls (⟨⟨s, some rest⟩, ticker⟩, m)
      (PulsBoard.handle ⟨⟨s, some rest⟩, ticker⟩ n h) := by
  intro hq
  rw [handle_schlaf] at hq
  have hs' := heff.straight
  rw [if_pos rfl] at hs'
  have hne : (h s).straight.dev.bistableRelaisState ≠ s.dev.bistableRelaisState := by
    rw [hs'.bit, hs.bit]
    exact (Bool.not_eq_self bit).mp
  exact Bool.noConfusion (hs.ein.symm.trans (hq hne).1)

/-- A call that disturbs somebody's sleep gives a change without a pulse, or it
breaks off the pulse that is under way. -/
theorem Sauber.stoerung {s : PowerportIO} {rest : PowerportIO → Resumption PowerportIO}
    {ticker : Nat} {m : Messung} (hc : Sauber (⟨⟨s, some rest⟩, ticker⟩, m))
    (heff : ∀ pin bit, Relais pin bit s → RelaisEffekt pin bit a (h s))
    (ha : a = some .on ∨ s.ein = true ∧ a = some .off)
    (hq : EndetPuls (⟨⟨s, some rest⟩, ticker⟩, m)
      (PulsBoard.handle ⟨⟨s, some rest⟩, ticker⟩ n h)) :
    Abgebrochen (nachHandler (⟨⟨s, some rest⟩, ticker⟩, m) n h) := by
  cases hc with
  | ruhe _ _ _ _ hs hrest =>
      -- the output is off, so the call switches on
      have hon : a = some .on := ha.resolve_right fun hoff =>
        Bool.noConfusion (hs.ein.symm.trans hoff.1)
      exact absurd hq (on_ohnePuls hs (hon ▸ heff _ _ hs))
  | puls _ _ _ _ hs hrest hticks =>
      have hs' := (heff _ _ hs).straight
      have hcall : a ≠ none := by
        rcases ha with rfl | ⟨-, rfl⟩
        · exact nofun
        · exact nofun
      rw [if_neg hcall] at hs'
      unfold nachHandler
      dsimp only
      rw [handle_schlaf]
      exact .mk _ rest ticker _ _ hs' hrest

/-- Nothing but the end of its sleep gets out of a pulse that was broken off. -/
theorem Abgebrochen.handle (hc : Abgebrochen c)
    (heff : ∀ pin bit, Relais pin bit c.1.port.state → RelaisEffekt pin bit a (h c.1.port.state))
    (hq : EndetPuls c (c.1.handle n h)) : Abgebrochen (nachHandler c n h) := by
  cases hc with
  | mk s rest ticker m bit hs hrest =>
      by_cases hon : a = some .on
      · exact absurd hq (on_ohnePuls hs (hon ▸ heff _ _ hs))
      · have hs' := (heff _ _ hs).straight
        rw [if_neg hon, ite_self] at hs'
        unfold nachHandler
        dsimp only
        rw [handle_schlaf]
        exact .mk _ rest ticker _ bit hs' hrest

theorem Sauber.handle (hc : Sauber c)
    (heff : ∀ pin bit, Relais pin bit c.1.port.state → RelaisEffekt pin bit a (h c.1.port.state))
    (hn : a = some .on → n = 8)
    (hg : c.1.port.asleep.isSome = true → a ≠ some .on ∧ (c.1.ein = true → a ≠ some .off)) :
    Sauber (nachHandler c n h) ∧ EndetPuls c (c.1.handle n h) := by
  obtain ⟨⟨⟨s, asleep⟩, ticker⟩, m⟩ := c
  cases asleep with
  | none =>
      cases hc with
      | wach _ _ _ hs => exact Sauber.start hs (heff _ _ hs) hn
  | some rest =>
      obtain ⟨hon, hoff⟩ := hg rfl
      exact hc.schlaf heff hon hoff

theorem Sauber.rtc (hc : Sauber c) :
    Sauber (⟨c.1.port, c.1.ticker - 1⟩, c.2.weiter true c.1.ein c.1.ein) := by
  cases hc with
  | wach s ticker m hs =>
      show Sauber (_, m.weiter true s.ein s.ein)
      rw [hs.ein]
      exact .wach s _ m hs
  | ruhe s rest ticker m hs hrest =>
      show Sauber (_, m.weiter true s.ein s.ein)
      rw [hs.ein]
      exact .ruhe s rest _ m hs hrest
  | puls s rest ticker m hs hrest hticks =>
      show Sauber (_, m.weiter true s.ein s.ein)
      rw [hs.ein]
      refine .puls s rest _ ⟨m.seit + 1, m.pulse⟩ hs hrest ?_
      dsimp only
      omega

/-- The end of a sleep. A pulse has lasted for 8 ticks then. -/
theorem Sauber.wake (hc : Sauber c) (hticker : c.1.ticker = 0) :
    Sauber (⟨c.1.port.wake, 0⟩, c.2.weiter false c.1.ein c.1.port.wake.state.ein) ∧
      EndetPuls c ⟨c.1.port.wake, 0⟩ := by
  cases hc with
  | wach s ticker m hs =>
      refine ⟨?_, EndetPuls.gleich rfl⟩
      show Sauber (⟨⟨s, none⟩, 0⟩, m.weiter false s.ein s.ein)
      rw [hs.ein]
      exact .wach s 0 m hs
  | ruhe s rest ticker m hs hrest =>
      obtain ⟨s', hdone, hs'⟩ := hrest _ _ s hs
      have hwake : Sleeper.wake ⟨s, some rest⟩ = ⟨s', none⟩ := congrArg Sleeper.settle hdone
      dsimp only
      rw [hwake]
      refine ⟨?_, EndetPuls.gleich (hs'.bit.trans hs.bit.symm)⟩
      show Sauber (_, m.weiter false s.ein s'.ein)
      rw [hs.ein, hs'.ein]
      exact .wach s' 0 m hs'
  | puls s rest ticker m hs hrest hticks =>
      obtain ⟨s', hdone, hs'⟩ := hrest _ _ s hs
      have hwake : Sleeper.wake ⟨s, some rest⟩ = ⟨s', none⟩ := congrArg Sleeper.settle hdone
      have hseit : 8 ≤ m.seit := by
        have hzero : ticker = 0 := hticker
        omega
      dsimp only
      rw [hwake]
      refine ⟨?_, fun _ => ⟨hs.ein, hseit, hs'.ein⟩⟩
      show Sauber (_, m.weiter false s.ein s'.ein)
      rw [hs.ein, hs'.ein]
      refine .wach s' 0 _ ?_
      show Relais false (Messung.bit ⟨0, if 8 ≤ m.seit then m.pulse + 1 else m.pulse⟩) s'
      rw [if_pos hseit, Messung.bit_succ]
      exact hs'

theorem callbackSleep_on {s : PowerportIO} {f : CanixFrame} (hon : frameAufruf s f = some .on) :
    callbackSleep s f = 8 := by
  have hgruppe : isInGroup s.dev.config (f.byte 2) = true := by
    by_contra hno
    have hk : kante s f = none := by
      unfold kante
      rw [if_neg fun hg => hno hg.1]
    have hw : ¬ Weckt s f := fun hw => hno hw.1
    unfold frameAufruf at hon
    rw [hk] at hon
    simp [hw] at hon
  unfold callbackSleep
  rw [if_pos hgruppe]

theorem ruheRest_done : RuheRest Resumption.done := fun _ _ s hs => ⟨s, rfl, hs⟩

/-- **A step that is not disturbed** keeps the board in order, and a change of
the state has its pulse. -/
theorem Sauber.step (selfaddr : UInt16) (hc : Sauber c) {e : BoardEvent}
    (hg : Ungestoert c.1 e) : Sauber (gemessen selfaddr c e) ∧ EigenerPuls selfaddr c e := by
  cases e with
  | frame f => exact hc.handle (fun _ _ hs => callback_effekt selfaddr hs f) callbackSleep_on hg
  | timer zyklus =>
      exact hc.handle (fun _ _ hs => timer_effekt selfaddr hs zyklus) (fun _ => rfl) hg
  | pause n => exact hc.handle (fun _ _ hs => .antwort _ _ hs ruheRest_done) nofun hg
  | rtc => exact ⟨hc.rtc, EndetPuls.gleich rfl⟩
  | check =>
      by_cases hticker : c.1.ticker = 0
      · have hstep : boardStep selfaddr c.1 .check = ⟨c.1.port.wake, 0⟩ := if_pos hticker
        unfold gemessen observed EigenerPuls
        rw [hstep]
        exact hc.wake hticker
      · have hstep : boardStep selfaddr c.1 .check = c.1 := if_neg hticker
        unfold gemessen observed EigenerPuls
        rw [hstep]
        refine ⟨?_, EndetPuls.gleich rfl⟩
        show Sauber (c.1, c.2.weiter false c.1.ein c.1.ein)
        rw [weiter_gleich]
        exact hc

theorem Sauber.faellt_handle (hc : Sauber c)
    (heff : ∀ pin bit, Relais pin bit c.1.port.state → RelaisEffekt pin bit a (h c.1.port.state))
    (hg : ¬ (c.1.port.asleep.isSome = true →
      a ≠ some .on ∧ (c.1.ein = true → a ≠ some .off)))
    (hq : EndetPuls c (c.1.handle n h)) : Abgebrochen (nachHandler c n h) := by
  obtain ⟨⟨⟨s, asleep⟩, ticker⟩, m⟩ := c
  cases asleep with
  | none => exact absurd (fun hsome => Bool.noConfusion hsome) hg
  | some rest =>
      apply hc.stoerung heff _ hq
      by_contra hno
      rw [not_or, not_and] at hno
      exact hg fun _ => hno

/-- A step that is disturbed and yet right breaks off a pulse. -/
theorem Sauber.faellt (selfaddr : UInt16) (hc : Sauber c) {e : BoardEvent}
    (hg : ¬ Ungestoert c.1 e) (hq : EigenerPuls selfaddr c e) :
    Abgebrochen (gemessen selfaddr c e) := by
  cases e with
  | frame f => exact hc.faellt_handle (fun _ _ hs => callback_effekt selfaddr hs f) hg hq
  | timer zyklus => exact hc.faellt_handle (fun _ _ hs => timer_effekt selfaddr hs zyklus) hg hq
  | pause n => exact absurd (fun _ => ⟨nofun, fun _ => nofun⟩) hg
  | rtc => exact absurd (fun _ => ⟨nofun, fun _ => nofun⟩) hg
  | check => exact absurd (fun _ => ⟨nofun, fun _ => nofun⟩) hg

theorem Abgebrochen.asleep (hc : Abgebrochen c) : c.1.port.asleep ≠ none := by
  cases hc with
  | mk s rest ticker m bit hs hrest => exact nofun

/-- A pulse that was broken off stays so as long as the steps are right: at its
end the state would change. -/
theorem Abgebrochen.step (selfaddr : UInt16) {e : BoardEvent}
    (hq : EigenerPuls selfaddr c e) (hc : Abgebrochen c) :
    Abgebrochen (gemessen selfaddr c e) := by
  cases e with
  | frame f => exact hc.handle (fun _ _ hs => callback_effekt selfaddr hs f) hq
  | timer zyklus => exact hc.handle (fun _ _ hs => timer_effekt selfaddr hs zyklus) hq
  | pause n => exact hc.handle (fun _ _ hs => .antwort _ _ hs ruheRest_done) hq
  | rtc =>
      cases hc with
      | mk s rest ticker m bit hs hrest => exact .mk s rest _ _ bit hs hrest
  | check =>
      cases hc with
      | mk s rest ticker m bit hs hrest =>
          by_cases hticker : ticker = 0
          · obtain ⟨s', hdone, hs'⟩ := hrest _ _ s hs
            have hstep : boardStep selfaddr ⟨⟨s, some rest⟩, ticker⟩ .check = ⟨⟨s', none⟩, 0⟩ := by
              show (if ticker = 0 then _ else _) = _
              rw [if_pos hticker]
              exact congrArg (fun r => (⟨Sleeper.settle r, 0⟩ : PulsBoard)) hdone
            unfold EigenerPuls at hq
            rw [hstep] at hq
            have hne : s'.dev.bistableRelaisState ≠ s.dev.bistableRelaisState := by
              rw [hs'.bit, hs.bit]
              exact (Bool.not_eq_self bit).mp
            exact Bool.noConfusion (hs.ein.symm.trans (hq hne).1)
          · have hstep : boardStep selfaddr ⟨⟨s, some rest⟩, ticker⟩ .check =
                ⟨⟨s, some rest⟩, ticker⟩ := if_neg hticker
            unfold gemessen observed
            rw [hstep]
            exact .mk s rest ticker _ bit hs hrest

end

/-! ## Runs -/

theorem messStart_sauber {c : EdsPowerportBlock} (hb : c.has .bistableRelais = true) :
    Sauber (messStart c) :=
  .wach _ 0 ⟨0, 0⟩ ⟨hb, rfl, rfl⟩

/-- **A bistable relay is switched by its own pulses** in every run in which no
step is disturbed; and a run that is over when nobody sleeps is right only then. -/
theorem pulse_richtig_iff (selfaddr : UInt16) (c : EdsPowerportBlock)
    (hb : c.has .bistableRelais = true) (es : List BoardEvent) :
    (Guarded (boardStep selfaddr) Ungestoert (boardStart c) es → PulseRichtig selfaddr c es) ∧
      ((run (boardStep selfaddr) (boardStart c) es).port.asleep = none →
        PulseRichtig selfaddr c es →
          Guarded (boardStep selfaddr) Ungestoert (boardStart c) es) := by
  have hstart := messStart_sauber hb
  have hobserved : Guarded (gemessen selfaddr) (fun d e => Ungestoert d.1 e) (messStart c) es ↔
      Guarded (boardStep selfaddr) Ungestoert (boardStart c) es :=
    guarded_observed messen es (messStart c)
  rw [← hobserved]
  constructor
  · intro hg
    refine ⟨?_, fun pre hpre => ?_⟩
    · exact guarded_of_guarded (fun d e hu hd => (hd.step selfaddr hu).1)
        (fun d e hu hd => (hd.step selfaddr hu).2) es _ hstart hg
    · obtain ⟨post, rfl⟩ := hpre
      have hpre := ((guarded_append (messStart c) pre post).mp hg).1
      exact (run_guarded (fun d e hu hd => (hd.step selfaddr hu).1) pre _ hpre hstart).paritaet
  · intro hend hrichtig
    refine (guarded_iff_of_trap (fun d e hd hu => hd.step selfaddr hu)
      (fun d e hd hu hq => hd.faellt selfaddr hu hq)
      (fun d e hq hd => hd.step selfaddr hq) es _ hstart ?_).mp hrichtig.1
    intro htrap
    have hrun : (run (gemessen selfaddr) (messStart c) es).1 =
        run (boardStep selfaddr) (boardStart c) es := run_observed messen es (messStart c)
    rw [← hrun] at hend
    exact htrap.asleep hend

/-- A port with a bistable relay in group 1. -/
private def stromstoss : EdsPowerportBlock := ⟨3, 1, 1, 255, 255, 0, 255⟩

private def hesFrame (bytes : List UInt8) : CanixFrame where
  src := 900
  dst := hcanMulticastInfo
  proto := hcanProtoSfp
  size := UInt8.ofNat (bytes.length + 1)
  data := payload (hcanSrvHes :: bytes)

/-- A whole pulse: the switch is on, 8 ticks go by, and the sleep is over. -/
private def ganzerPuls : List BoardEvent :=
  .frame (hesFrame [hcanHesSchalterOn, 1]) :: List.replicate 8 .rtc ++ [.check]

theorem pulse_richtig_stromstoss :
    PulseRichtig 5 stromstoss ganzerPuls ∧
      (run (gemessen 5) (messStart stromstoss) ganzerPuls).2 = ⟨0, 1⟩ :=
  ⟨(pulse_richtig_iff 5 stromstoss (by decide) ganzerPuls).1 (by decide), by decide⟩

/-- The switch is on while the port waits with its answer to all devices: the
state changes, and the output is not on for one tick. -/
theorem puls_ohne_laenge :
    ¬ ∀ (selfaddr : UInt16) (c : EdsPowerportBlock) (es : List BoardEvent),
      c.has .bistableRelais = true → PulseRichtig selfaddr c es := by
  intro h
  have hport := h 5 stromstoss
    [.frame (hesFrame [hcanHesDeviceStatesRequest]), .frame (hesFrame [hcanHesSchalterOn, 1])]
    (by decide)
  exact absurd hport.1 (by decide)

end OpenHcan.Powerport
