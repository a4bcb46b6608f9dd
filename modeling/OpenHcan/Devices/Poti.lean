import OpenHcan.Devices.Adc
import OpenHcan.Devices.MultitasterPosition
import OpenHcan.Lib.Countdown
import OpenHcan.Lib.Hysteresis

/-!
# Poti — the position of a potentiometer (`devices/poti.c`)

A poti sends its position when it has been turned: four times in a row the value was
not the one sent last, give or take the tolerance. It is read ten times a second, on
the multiplexer that it shares with the other sensors of the board. A multitaster that
hears it selects a group by it.
-/

namespace OpenHcan.Poti

open Lib
open Adc (AnalogEvent AnalogIO Messung kanal messreihe nurADC0)
open Multitaster (hcanHesPotiPosChanged EdsMultitasterBlock DeviceDataMultitaster)

set_option maxRecDepth 100000

/-- POTI_VALUE_TOLERANCE -/
def potiValueTolerance : Int := 30

/-- POTI_TELEGRAM_COUNTDOWN_INIT -/
def potiTelegramCountdownInit : UInt8 := 4

/-- `eds_poti_block_t`, without the feature, which is not used. -/
structure EdsPotiBlock where
  port : UInt8
  gruppe : UInt8
deriving DecidableEq, Repr

/-- `device_data_poti` -/
structure DeviceDataPoti where
  config : EdsPotiBlock
  lastPotiValue : UInt16
  potiTelegramCountdown : UInt8
deriving DecidableEq, Repr

/-- What the functions of a poti read and write. -/
abbrev PotiIO := AnalogIO DeviceDataPoti

/-- `setADMUX`, with `poti-port=%d. Richtig waere IN8 bis IN15.` -/
abbrev setADMUX (configPort : UInt8) (s : PotiIO) : PotiIO := Adc.setADMUX configPort s

/-- `getADCvalue` -/
def getADCvalue (m : Messung) : UInt16 := UInt16.ofNat m.adcResult

/-- `poti_init` measures, and lets the first call of the timer handler send. -/
def potiInit (c : EdsPotiBlock) (wandler : UInt8 → Messung) (admux : UInt8) : PotiIO :=
  let s := setADMUX c.port ⟨⟨c, 0, 0⟩, admux, []⟩
  { s with dev := { s.dev with lastPotiValue := getADCvalue (wandler s.admux) } }

/-- The value has not changed significantly. -/
def Nah (lastPotiValue currentADCvalue : UInt16) : Prop :=
  ¬ ((currentADCvalue.toNat : Int) > lastPotiValue.toNat + potiValueTolerance ∨
    (currentADCvalue.toNat : Int) < lastPotiValue.toNat - potiValueTolerance)

instance (a b : UInt16) : Decidable (Nah a b) := inferInstanceAs (Decidable (¬ (_ ∨ _)))

/-- The position of the poti. -/
def potiPosChanged (selfaddr : UInt16) (gruppe : UInt8) (value : UInt16) : CanixFrame :=
  sfpFrame selfaddr hcanMulticastControl
    [hcanSrvHes, hcanHesPotiPosChanged, gruppe, hiByte value.toNat, loByte value.toNat]

/-- `poti_timer_handler`, and the frames it sends. -/
def potiTimerHandler (selfaddr : UInt16) (wandler : UInt8 → Messung) (s : PotiIO)
    (zyklus : UInt8) : PotiIO × List CanixFrame :=
  if zyklus ≠ 10 then (s, [])
  else
    let s := setADMUX s.dev.config.port s
    let currentADCvalue := getADCvalue (wandler s.admux)
    if s.dev.potiTelegramCountdown ≠ 0 then
      if ¬ Nah s.dev.lastPotiValue currentADCvalue then
        ({ s with dev :=
          { s.dev with potiTelegramCountdown := s.dev.potiTelegramCountdown - 1 } }, [])
      else ({ s with dev := { s.dev with potiTelegramCountdown := potiTelegramCountdownInit } }, [])
    else
      ({ s with dev := { s.dev with
          lastPotiValue := currentADCvalue
          potiTelegramCountdown := potiTelegramCountdownInit } },
        [potiPosChanged selfaddr s.dev.config.gruppe currentADCvalue])

def potiStep (selfaddr : UInt16) (s : PotiIO) : AnalogEvent → PotiIO × List CanixFrame
  | .timer zyklus wandler => potiTimerHandler selfaddr wandler s zyklus
  | .canCallback _ => (s, [])
  | .admux v => ({ s with admux := v }, [])

/-! ## What a poti is for -/

/-- The position at the port, in each tenth of a second. -/
def messwerte (c : EdsPotiBlock) : AnalogEvent → List UInt16 := messreihe 10 getADCvalue c.port

/-- The positions that are reported, after the position at the start. -/
def meldungen (start : UInt16) (werte : List UInt16) : List UInt16 :=
  (emit (Hysteresis.sample Nah 4) ⟨start, 0⟩ werte).2

variable {start : UInt16}

theorem nah_refl (a : UInt16) : Nah a a := by
  unfold Nah potiValueTolerance
  omega

/-- The state after a first value. -/
theorem emit_first (v : UInt16) (vs : List UInt16) :
    emit (Hysteresis.sample Nah 4) ⟨start, 0⟩ (v :: vs) =
      ((emit (Hysteresis.sample Nah 4) ⟨v, 4⟩ vs).1,
        v :: (emit (Hysteresis.sample Nah 4) ⟨v, 4⟩ vs).2) := by
  rw [emit_cons, Hysteresis.sample_over]
  rfl

/-- What a listener has heard last is what the poti holds. -/
theorem getLast_meldungen {vs : List UInt16} (h : vs ≠ []) :
    (meldungen start vs).getLast? =
      some (emit (Hysteresis.sample Nah 4) ⟨start, 0⟩ vs).1.last := by
  obtain ⟨v, vs, rfl⟩ := List.exists_cons_of_ne_nil h
  rw [meldungen, Hysteresis.last_eq_getLast, emit_first, List.getLastD_cons,
    List.getLast?_cons]
  rw [List.getLastD_eq_getLast?]

/-- Five values in a row make one report at most. -/
theorem meldungen_abstand (vs ws : List UInt16) (h : ws.length ≤ 5) :
    (meldungen start (vs ++ ws)).length ≤ (meldungen start vs).length + 1 := by
  have hle := @Hysteresis.countdown_le _ Nah _ 4 ⟨start, 0⟩ (Nat.zero_le 4) vs
  have hone := @Hysteresis.distance _ Nah _ 4 ws _ hle h
  rw [meldungen, emit_append, List.length_append]
  exact Nat.add_le_add_left hone _

/-- A poti that stays for half a second is where it was reported last. -/
theorem meldungen_beruhigt (vs : List UInt16) (v : UInt16) :
    ∃ r, (meldungen start (vs ++ List.replicate 5 v)).getLast? = some r ∧ Nah r v := by
  have hne : vs ++ List.replicate 5 v ≠ [] :=
    List.append_ne_nil_of_right_ne_nil vs (List.cons_ne_nil v _)
  have hle := @Hysteresis.countdown_le _ Nah _ 4 ⟨start, 0⟩ (Nat.zero_le 4) vs
  refine ⟨_, getLast_meldungen hne, ?_⟩
  rw [emit_append]
  exact Hysteresis.settles nah_refl v (Nat.lt_succ_of_le hle)

/-- A report, but the first, is made after four values that were not near the last one. -/
theorem meldungen_grund (vs : List UInt16) (w : UInt16)
    (h : meldungen start (vs ++ [w]) ≠ meldungen start vs) :
    vs = [] ∨ ∃ pre far r, vs = pre ++ far ∧ far.length = 4 ∧
      (meldungen start vs).getLast? = some r ∧ ∀ y ∈ far, ¬ Nah r y := by
  cases vs with
  | nil => exact .inl rfl
  | cons v vs =>
      have hfirst : Hysteresis.Counted Nah 4 ⟨v, 4⟩ [v] :=
        ⟨Nat.le_refl 4, [v], [], rfl, rfl, fun y hy => absurd hy List.not_mem_nil⟩
      obtain ⟨-, pre, far, hsplit, hlen, hfar⟩ := Hysteresis.counted_run vs hfirst
      refine .inr ⟨pre, far, _, hsplit, ?_, getLast_meldungen (List.cons_ne_nil v vs), ?_⟩
      · -- nothing is reported before the countdown is over
        rw [meldungen, meldungen, emit_append, emit_first] at h
        have hover : (emit (Hysteresis.sample Nah 4) ⟨v, 4⟩ vs).1.countdown = 0 := by
          by_contra hoffen
          refine h ?_
          have hle := @Hysteresis.countdown_le _ Nah _ 4 ⟨v, 4⟩ (Nat.le_refl 4) vs
          rw [Hysteresis.emit_short [w] hle (Nat.pos_of_ne_zero hoffen), List.append_nil]
        rwa [hover] at hlen
      · rw [emit_first]
        exact hfar

/-! ## A poti keeps to it -/

/-- The poti holds what the filter holds. -/
structure Haelt (c : EdsPotiBlock) (s : PotiIO) (d : Hysteresis UInt16) : Prop where
  config : s.dev.config = c
  last : s.dev.lastPotiValue = d.last
  countdown : s.dev.potiTelegramCountdown.toNat = d.countdown

variable {c : EdsPotiBlock}

/-- **The step**: an event does to the poti what its tenth of a second does to the filter. -/
theorem haelt_step (selfaddr : UInt16) (hport : 8 ≤ c.port ∧ c.port ≤ 15)
    (s : PotiIO) (d : Hysteresis UInt16) (e : AnalogEvent) (h : Haelt c s d) :
    Haelt c (potiStep selfaddr s e).1
        (emit (Hysteresis.sample Nah 4) d (messwerte c e)).1 ∧
      (potiStep selfaddr s e).2 =
        (emit (Hysteresis.sample Nah 4) d (messwerte c e)).2.map
          (potiPosChanged selfaddr c.gruppe) := by
  cases e with
  | canCallback frame => exact ⟨h, rfl⟩
  | admux v => exact ⟨⟨h.config, h.last, h.countdown⟩, rfl⟩
  | timer zyklus wandler =>
      obtain ⟨rfl, hlast, hcount⟩ := h
      by_cases hz : zyklus = 10
      · subst hz
        simp only [potiStep, potiTimerHandler, Adc.setADMUX_of_port hport, messwerte, messreihe,
          if_true, emit_cons, emit_nil, List.append_nil, ne_eq, not_true_eq_false, if_false]
        generalize getADCvalue (wandler (kanal s.dev.config.port)) = v
        -- from here on the poti and the filter branch alike
        obtain ⟨a, n⟩ := d
        obtain rfl : s.dev.lastPotiValue = a := hlast
        by_cases hzero : s.dev.potiTelegramCountdown = 0
        · obtain rfl : 0 = n := by
            rw [hzero] at hcount
            exact hcount
          rw [Hysteresis.sample_over]
          simp only [hzero, not_true_eq_false, if_false]
          exact ⟨⟨rfl, rfl, rfl⟩, rfl⟩
        · have hdown := byte_sub_one_add_one hzero
          obtain rfl : (s.dev.potiTelegramCountdown - 1).toNat + 1 = n := hdown.trans hcount
          by_cases hnah : Nah s.dev.lastPotiValue v
          · rw [Hysteresis.sample_near hnah]
            simp only [hzero, hnah, not_true_eq_false, not_false_eq_true, if_true, if_false]
            exact ⟨⟨rfl, rfl, rfl⟩, rfl⟩
          · rw [Hysteresis.sample_far hnah]
            simp only [hzero, hnah, not_false_eq_true, if_true]
            exact ⟨⟨rfl, rfl, rfl⟩, rfl⟩
      · simp only [messwerte, messreihe, hz, if_false, emit_nil, List.map_nil, potiStep,
          potiTimerHandler, ne_eq, not_false_eq_true, if_true]
        exact ⟨⟨rfl, hlast, hcount⟩, trivial⟩

theorem haelt_start (hport : 8 ≤ c.port ∧ c.port ≤ 15) (wandler : UInt8 → Messung)
    (admux : UInt8) :
    Haelt c (potiInit c wandler admux) ⟨getADCvalue (wandler (kanal c.port)), 0⟩ := by
  simp only [potiInit, Adc.setADMUX_of_port hport]
  exact ⟨rfl, rfl, rfl⟩

/-- The frames of a poti are the reports of the filter. -/
theorem frames_eq_meldungen (selfaddr : UInt16) (hport : 8 ≤ c.port ∧ c.port ≤ 15)
    (wandler : UInt8 → Messung) (admux : UInt8) (es : List AnalogEvent) :
    (emit (potiStep selfaddr) (potiInit c wandler admux) es).2 =
      (meldungen (getADCvalue (wandler (kanal c.port))) (es.flatMap (messwerte c))).map
        (potiPosChanged selfaddr c.gruppe) :=
  (emit_refines (messwerte c) (potiPosChanged selfaddr c.gruppe) (haelt_step selfaddr hport) es _ _
    (haelt_start hport wandler admux)).2

/-- **A poti reports where it is turned to, and nothing else**: in every run, whatever
else the board does, the frames of a poti at IN8 to IN15 are the reports of the filter.
Five tenths of a second in a row have one of them at most; after five with one value a
listener knows the position; and every frame but the first follows four tenths that
were not near the frame before. -/
theorem poti_gemeldet (selfaddr : UInt16) (c : EdsPotiBlock) (hport : 8 ≤ c.port ∧ c.port ≤ 15)
    (wandler : UInt8 → Messung) (admux : UInt8) (es : List AnalogEvent) :
    let start := getADCvalue (wandler (kanal c.port))
    let werte := es.flatMap (messwerte c)
    (emit (potiStep selfaddr) (potiInit c wandler admux) es).2 =
        (meldungen start werte).map (potiPosChanged selfaddr c.gruppe) ∧
      (∀ vs ws, werte = vs ++ ws → ws.length ≤ 5 →
        (meldungen start werte).length ≤ (meldungen start vs).length + 1) ∧
      (∀ vs v, werte = vs ++ List.replicate 5 v →
        ∃ r, (meldungen start werte).getLast? = some r ∧ Nah r v) ∧
      ∀ vs w ws, werte = vs ++ w :: ws → meldungen start (vs ++ [w]) ≠ meldungen start vs →
        vs = [] ∨ ∃ pre far r, vs = pre ++ far ∧ far.length = 4 ∧
          (meldungen start vs).getLast? = some r ∧ ∀ y ∈ far, ¬ Nah r y := by
  intro start werte
  refine ⟨frames_eq_meldungen selfaddr hport wandler admux es, ?_, ?_, ?_⟩
  · intro vs ws hsplit hlen
    rw [hsplit]
    exact meldungen_abstand vs ws hlen
  · intro vs v hsplit
    rw [hsplit]
    exact meldungen_beruhigt vs v
  · intro vs w ws _ hneu
    exact meldungen_grund vs w hneu

/-- A poti at IN15 is turned from 0 to 500. -/
def gedreht : List AnalogEvent :=
  .timer 10 (nurADC0 0#10) :: List.replicate 5 (.timer 10 (nurADC0 500#10))

theorem poti_gemeldet_gedreht :
    (emit (potiStep 5) (potiInit ⟨15, 7⟩ (nurADC0 0#10) 0) gedreht).2 =
      [potiPosChanged 5 7 0, potiPosChanged 5 7 500] := by
  have hframes := (poti_gemeldet 5 ⟨15, 7⟩ (by decide) (nurADC0 0#10) 0 gedreht).1
  have hmeldungen : meldungen (getADCvalue (nurADC0 0#10 (kanal 15)))
      (gedreht.flatMap (messwerte ⟨15, 7⟩)) = [0, 500] := by
    decide
  exact hframes.trans (congrArg (List.map (potiPosChanged 5 7)) hmeldungen)

/-! ## The multitaster that hears of it -/

theorem adcWert_potiPosChanged (selfaddr : UInt16) (gruppe : UInt8) (v : UInt16) :
    Multitaster.adcWert (potiPosChanged selfaddr gruppe v) = v := by
  rw [Multitaster.adcWert, potiPosChanged, sfpFrame_byte _ _ _ (by decide),
    sfpFrame_byte _ _ _ (by decide)]
  exact Adc.ofNat_word v

theorem potiFrame_potiPosChanged (selfaddr : UInt16) {m : EdsMultitasterBlock} {gruppe : UInt8}
    (hgruppe : gruppe = m.potiGruppe) {v : UInt16} (hv : v.toNat ≤ 1023) :
    Multitaster.PotiFrame m (potiPosChanged selfaddr gruppe v) := by
  refine ⟨?_, ?_, by rwa [adcWert_potiPosChanged]⟩
  · rw [potiPosChanged, sfpFrame_byte _ _ _ (by decide)]
    rfl
  · rw [potiPosChanged, sfpFrame_byte _ _ _ (by decide)]
    exact hgruppe

/-- **The knob selects the group it points to**: however the poti was turned before, when
it has stood for half a second well inside the share of group `i`, of the first nine, the
multitaster that hears it has selected this group. -/
theorem knopf_waehlt (selfaddr : UInt16) {c : EdsPotiBlock} (hport : 8 ≤ c.port ∧ c.port ≤ 15)
    (wandler : UInt8 → Messung) (admux : UInt8) {es : List AnalogEvent} {m : EdsMultitasterBlock}
    {p : DeviceDataMultitaster} (hgruppe : c.gruppe = m.potiGruppe)
    (hinit : Multitaster.multitasterInit ⟨m, 0, 0, 0⟩ = some p) {vs : List UInt16} {v : UInt16}
    {i : Nat} (hruhe : es.flatMap (messwerte c) = vs ++ List.replicate 5 v) (hneun : i < 9)
    (hi : i < m.numOfPotiScaleDivisions)
    (hunten : i * (1023 / m.numOfPotiScaleDivisions) + 30 < v.toNat)
    (hoben : v.toNat + 30 ≤ (i + 1) * (1023 / m.numOfPotiScaleDivisions)) :
    let q := Multitaster.nachFrames p
      (emit (potiStep selfaddr) (potiInit c wandler admux) es).2
    q.lastPotiPos.toNat = i ∧ some (Multitaster.getGroup q) = m.gruppen.toList[i]? := by
  have hn : 1 ≤ m.numOfPotiScaleDivisions := Nat.one_le_of_lt hi
  have hten : m.numOfPotiScaleDivisions ≤ 10 := Multitaster.numOfPotiScaleDivisions_le
  rw [Multitaster.multitasterInit_eq hn] at hinit
  obtain rfl := Option.some.inj hinit
  -- the last frame is near the position
  obtain ⟨r, hlast, hnah⟩ := @meldungen_beruhigt (getADCvalue (wandler (kanal c.port))) vs v
  rw [← hruhe] at hlast
  obtain ⟨frueher, hmeldungen⟩ := List.getLast?_eq_some_iff.mp hlast
  have hframes := frames_eq_meldungen selfaddr hport wandler admux es
  rw [hmeldungen, List.map_append, List.map_singleton] at hframes
  obtain ⟨hr, hr'⟩ : i * (1023 / m.numOfPotiScaleDivisions) < r.toNat ∧
      r.toNat ≤ (i + 1) * (1023 / m.numOfPotiScaleDivisions) := by
    unfold Nah potiValueTolerance at hnah
    omega
  have hs0 : 0 < 1023 / m.numOfPotiScaleDivisions := Nat.div_pos (by omega) hn
  have hs : 1023 / m.numOfPotiScaleDivisions ≤ 1023 := Nat.div_le_self _ _
  have hoben' : (i + 1) * (1023 / m.numOfPotiScaleDivisions) ≤ 1023 :=
    Nat.le_trans (Nat.mul_le_mul_right _ hi) (Nat.mul_div_le _ _)
  have hmarke : r.toNat ≤ 9 * (1023 / m.numOfPotiScaleDivisions) :=
    Nat.le_trans hr' (Nat.mul_le_mul_right _ hneun)
  intro q
  have hpos : q.lastPotiPos.toNat = i := by
    have hsel := Multitaster.nachFrames_pos (p := ⟨m, 0, 0, UInt16.ofNat _⟩) hs0 hs rfl
      (frueher.map (potiPosChanged selfaddr c.gruppe))
      (potiFrame_potiPosChanged selfaddr hgruppe (Nat.le_trans hr' hoben'))
      (by rwa [adcWert_potiPosChanged])
    rw [adcWert_potiPosChanged, ← hframes] at hsel
    exact hsel.trans (Nat.div_eq_of_lt_le (by omega) (by omega))
  have hconfig : q.config = m := (Multitaster.nachFrames_scale _).1
  have hlen : i < m.gruppen.toList.length := by
    rw [Vector.length_toList]
    exact Nat.lt_succ_of_lt hneun
  refine ⟨hpos, ?_⟩
  rw [Multitaster.getGroup, hconfig, hpos, List.getElem?_eq_getElem hlen, Option.getD_some]

/-- A multitaster with three groups on the knob of group 7. -/
def dreiGruppen : EdsMultitasterBlock :=
  ⟨7, 4, 0, #v[60, 61, 62, 255, 255, 255, 255, 255, 255, 255]⟩

theorem knopf_waehlt_zweite :
    (Multitaster.nachFrames ⟨dreiGruppen, 0, 0, 341⟩
        (emit (potiStep 5) (potiInit ⟨15, 7⟩ (nurADC0 0#10) 0) gedreht).2).lastPotiPos.toNat = 1 ∧
      some (Multitaster.getGroup (Multitaster.nachFrames ⟨dreiGruppen, 0, 0, 341⟩
        (emit (potiStep 5) (potiInit ⟨15, 7⟩ (nurADC0 0#10) 0) gedreht).2)) =
        dreiGruppen.gruppen.toList[1]? := by
  have hruhe : gedreht.flatMap (messwerte ⟨15, 7⟩) = [0] ++ List.replicate 5 500 := by decide
  exact knopf_waehlt 5 (by decide) (nurADC0 0#10) 0 rfl rfl hruhe (by decide) (by decide)
    (by decide) (by decide)

end OpenHcan.Poti
