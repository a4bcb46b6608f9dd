import OpenHcan.Devices.Taster

/-!
# Multitaster — a button with a knob (`devices/multitaster.c`)

A multitaster is a button whose group is chosen with a potentiometer. The group
is looked up for every frame, so a knob that is turned while the button is
pressed sends `TASTER_DOWN` and `TASTER_UP` to different groups.
-/

namespace OpenHcan.Multitaster

open Lib Taster

set_option maxRecDepth 100000

def hcanHesPotiPosChanged : UInt8 := 70

/-- The bits of `config.feature`. -/
inductive MultitasterFeature
  | entprell1s
  | rolladenAuf
  | rolladenZu
deriving DecidableEq, Repr

/-- `1<<FEATURE_MULTITASTER_…` -/
def MultitasterFeature.mask : MultitasterFeature → UInt8
  | .entprell1s => 1
  | .rolladenAuf => 2
  | .rolladenZu => 4

/-- `MAX_MULTITASTER_GROUPS` -/
abbrev maxMultitasterGroups : Nat := 10

/-- `eds_multitaster_block_t`: `gruppen` are `gruppe0` to `gruppe9`. -/
structure EdsMultitasterBlock where
  potiGruppe : UInt8
  tasterPort : UInt8
  feature : UInt8
  gruppen : Vector UInt8 maxMultitasterGroups
deriving DecidableEq, Repr

/-- `config.feature & (1<<FEATURE_MULTITASTER_…)` -/
def EdsMultitasterBlock.has (c : EdsMultitasterBlock) (f : MultitasterFeature) : Bool :=
  c.feature &&& f.mask ≠ 0

/-- `device_data_multitaster` -/
structure DeviceDataMultitaster where
  config : EdsMultitasterBlock
  pressed : UInt8
  lastPotiPos : UInt8
  oneScale : UInt16
deriving DecidableEq, Repr

/-- What the functions of a multitaster read and write: its data and the frames
the board has sent. -/
structure MultitasterIO where
  dev : DeviceDataMultitaster
  sent : List CanixFrame
deriving DecidableEq, Repr

/-! ## The knob -/

/-- The groups before the first 255. -/
def EdsMultitasterBlock.numOfPotiScaleDivisions (c : EdsMultitasterBlock) : Nat :=
  (c.gruppen.toList.takeWhile (· ≠ 255)).length

/-- `detectAndSetOneScale`. `none`: the division by zero has no defined result. -/
def detectAndSetOneScale (p : DeviceDataMultitaster) : Option DeviceDataMultitaster :=
  match p.config.numOfPotiScaleDivisions with
  | 0 => none
  | n => some { p with oneScale := UInt16.ofNat (1023 / n) }

/-- `multitaster_init` -/
def multitasterInit (p : DeviceDataMultitaster) : Option DeviceDataMultitaster :=
  (detectAndSetOneScale p).map fun p => { p with lastPotiPos := 0 }

/-- `getGroup` -/
def getGroup (p : DeviceDataMultitaster) : UInt8 :=
  (p.config.gruppen.toList[p.lastPotiPos.toNat]?).getD 255

/-- The first mark of the scale that `adcValue` is not over. -/
def skalenstrich (oneScale adcValue : UInt16) : Option Nat :=
  (List.range maxMultitasterGroups).find? fun i => adcValue ≤ UInt16.ofNat i * oneScale

/-- The knob is at `adcValue`. -/
def potiAuf (adcValue : UInt16) (p : DeviceDataMultitaster) : DeviceDataMultitaster :=
  match skalenstrich p.oneScale adcValue with
  | some i => { p with lastPotiPos := if adcValue = 0 then 0 else UInt8.ofNat i - 1 }
  | none => p

/-- `adcValue` of a frame -/
def adcWert (frame : CanixFrame) : UInt16 := UInt16.ofNat (word (frame.byte 3) (frame.byte 4))

/-- `multitaster_can_callback` -/
def multitasterCanCallback (frame : CanixFrame) (p : DeviceDataMultitaster) :
    DeviceDataMultitaster :=
  if frame.byte 1 = hcanHesPotiPosChanged then
    if frame.byte 2 = p.config.potiGruppe then potiAuf (adcWert frame) p else p
  else p

/-! ## The button -/

section

variable (selfaddr : UInt16) (c : EdsMultitasterBlock) (gruppe : UInt8)

/-- The debouncing time. -/
def EdsMultitasterBlock.time : UInt8 := if c.has .entprell1s then 100 else 3

/-- The frame of a release. -/
def EdsMultitasterBlock.up : Option CanixFrame :=
  if ¬ (c.has .rolladenZu ∨ c.has .rolladenAuf) then
    some (tasterFrame selfaddr hcanHesTasterUp gruppe [c.tasterPort])
  else none

/-- The frame of a press. -/
def EdsMultitasterBlock.down : CanixFrame :=
  if c.has .rolladenZu then tasterFrame selfaddr hcanHesRolladenPositionSet gruppe [200]
  else if c.has .rolladenAuf then tasterFrame selfaddr hcanHesRolladenPositionSet gruppe [201]
  else tasterFrame selfaddr hcanHesTasterDown gruppe [c.tasterPort]

end

/-- `multitaster_timer_handler` -/
def multitasterTimerHandler (selfaddr : UInt16) (inputportRead : Bool → UInt8 → UInt8)
    (s : MultitasterIO) (zyklus : UInt8) : MultitasterIO :=
  if zyklus ≠ 100 then s
  else
    let status := gedrueckt inputportRead s.dev.config.tasterPort
    let gruppe := getGroup s.dev
    ⟨{ s.dev with pressed := zaehle status s.dev.pressed },
      s.sent ++ tasteSample s.dev.config.time (s.dev.config.up selfaddr gruppe)
        (s.dev.config.down selfaddr gruppe) status s.dev.pressed⟩

/-! ## The machine -/

/-- A HES frame, or a call of the timer handler with what the input ports show. -/
inductive MultitasterEvent
  | frame (f : CanixFrame)
  | tick (inputportRead : Bool → UInt8 → UInt8)

def multitasterStep (selfaddr : UInt16) (s : MultitasterIO) : MultitasterEvent → MultitasterIO
  | .frame f => { s with dev := multitasterCanCallback f s.dev }
  | .tick r => multitasterTimerHandler selfaddr r s 100

/-- A multitaster after a start of the board. `oneScale` is what `multitaster_init`
has made of the division. -/
def multitasterStart (c : EdsMultitasterBlock) (oneScale : UInt16) : MultitasterIO :=
  ⟨⟨c, 0, 0, oneScale⟩, []⟩

/-- The samples up to now at which the button is pressed, one after the other. -/
def druckLaenge (port : UInt8) : List MultitasterEvent → Nat
  | [] => 0
  | .tick r :: past => if gedrueckt r port then druckLaenge port past + 1 else 0
  | .frame _ :: past => druckLaenge port past

/-! ## Pairs of frames -/

/-- A release ends a press that is on the same side of both thresholds. -/
def MultitasterEindeutig (c : EdsMultitasterBlock) (k : MultitasterIO × List MultitasterEvent) :
    MultitasterEvent → Prop
  | .frame _ => True
  | .tick r =>
      gedrueckt r c.tasterPort = false → Eindeutig c.time (druckLaenge c.tasterPort k.2)

instance (c : EdsMultitasterBlock) (k : MultitasterIO × List MultitasterEvent)
    (e : MultitasterEvent) : Decidable (MultitasterEindeutig c k e) :=
  match e with
  | .frame _ => .isTrue trivial
  | .tick _ => inferInstanceAs (Decidable (_ → _))

/-- The knob selects no other group while the button is held. -/
def KnopfRuht (c : EdsMultitasterBlock) (k : MultitasterIO × List MultitasterEvent) :
    MultitasterEvent → Prop
  | .frame f =>
      c.time.toNat ≤ druckLaenge c.tasterPort k.2 →
        getGroup (multitasterCanCallback f k.1.dev) = getGroup k.1.dev
  | .tick _ => True

instance (c : EdsMultitasterBlock) (k : MultitasterIO × List MultitasterEvent)
    (e : MultitasterEvent) : Decidable (KnopfRuht c k e) :=
  match e with
  | .frame _ => inferInstanceAs (Decidable (_ → _))
  | .tick _ => .isTrue trivial

/-- What an event sends goes to the group that the knob selects at that moment. -/
def GruppeGewaehlt (selfaddr : UInt16) (s : MultitasterIO) (e : MultitasterEvent) : Prop :=
  ∃ fs, (multitasterStep selfaddr s e).sent = s.sent ++ fs ∧ ∀ f ∈ fs, f.byte 2 = getGroup s.dev

/-- The button gives no edges to a shutter. -/
structure EdsMultitasterBlock.OhneRolladen (c : EdsMultitasterBlock) : Prop where
  rolladenAuf : c.has .rolladenAuf = false
  rolladenZu : c.has .rolladenZu = false

section

variable {selfaddr : UInt16} {c : EdsMultitasterBlock} {gruppe : UInt8}

theorem EdsMultitasterBlock.OhneRolladen.up (h : c.OhneRolladen) :
    c.up selfaddr gruppe = some (tasterFrame selfaddr hcanHesTasterUp gruppe [c.tasterPort]) := by
  simp [EdsMultitasterBlock.up, h.rolladenAuf, h.rolladenZu]

theorem EdsMultitasterBlock.OhneRolladen.down (h : c.OhneRolladen) :
    c.down selfaddr gruppe = tasterFrame selfaddr hcanHesTasterDown gruppe [c.tasterPort] := by
  simp [EdsMultitasterBlock.down, h.rolladenAuf, h.rolladenZu]

theorem EdsMultitasterBlock.time_pos : 0 < c.time := by
  unfold EdsMultitasterBlock.time
  cases c.has .entprell1s <;> decide

theorem EdsMultitasterBlock.time_lt : c.time < 255 := by
  unfold EdsMultitasterBlock.time
  cases c.has .entprell1s <;> decide

theorem down_gruppe : (c.down selfaddr gruppe).byte 2 = gruppe := by
  unfold EdsMultitasterBlock.down
  cases c.has .rolladenZu <;> cases c.has .rolladenAuf <;> simp

theorem up_gruppe : ∀ f ∈ c.up selfaddr gruppe, f.byte 2 = gruppe := by
  intro f hf
  unfold EdsMultitasterBlock.up at hf
  split at hf
  · obtain rfl := Option.mem_some.mp hf
    simp
  · simp at hf

/-- A frame changes nothing but the position of the knob. -/
theorem canCallback_eq (f : CanixFrame) (p : DeviceDataMultitaster) :
    ∃ pos, multitasterCanCallback f p = ⟨p.config, p.pressed, pos, p.oneScale⟩ := by
  unfold multitasterCanCallback potiAuf
  split
  · split
    · split
      · exact ⟨_, rfl⟩
      · exact ⟨_, rfl⟩
    · exact ⟨_, rfl⟩
  · exact ⟨_, rfl⟩

theorem gruppeGewaehlt (s : MultitasterIO) (e : MultitasterEvent) :
    GruppeGewaehlt selfaddr s e := by
  cases e with
  | frame f => exact ⟨[], (List.append_nil _).symm, fun f hf => absurd hf (by simp)⟩
  | tick r =>
      refine ⟨_, rfl, fun f hf => ?_⟩
      unfold tasteSample beimLoslassen beimDruecken at hf
      rcases List.mem_append.mp hf with hup | hdown
      · split at hup
        · exact up_gruppe f (Option.mem_toList.mp hup)
        · simp at hup
      · split at hdown
        · rw [List.mem_singleton.mp hdown]
          exact down_gruppe
        · simp at hdown

/-- The pairs of a multitaster with its past. -/
def MultitasterInv (passt : UInt8 → UInt8 → Prop) (c : EdsMultitasterBlock)
    (k : MultitasterIO × List MultitasterEvent) : Prop :=
  k.1.dev.config = c ∧
    Paarung passt c.time (getGroup k.1.dev) (druckLaenge c.tasterPort k.2) k.1.dev.pressed k.1.sent

/-- A sample or a frame keeps the pairs. The knob may be turned if the groups that
fit go on fitting. -/
theorem multitasterInv_step {passt : UInt8 → UInt8 → Prop} (hpasst : ∀ g, passt g g)
    (hc : c.OhneRolladen) {k : MultitasterIO × List MultitasterEvent} {e : MultitasterEvent}
    (hg : MultitasterEindeutig c k e)
    (hknopf : ∀ f, e = .frame f → c.time.toNat ≤ druckLaenge c.tasterPort k.2 →
      ∀ g, passt g (getGroup k.1.dev) → passt g (getGroup (multitasterCanCallback f k.1.dev)))
    (h : MultitasterInv passt c k) :
    MultitasterInv passt c (recorded (multitasterStep selfaddr) k e) := by
  obtain ⟨rfl, hpaar⟩ := h
  cases e with
  | frame f =>
      obtain ⟨pos, heq⟩ := canCallback_eq f k.1.dev
      have hnext := hpaar.gruppe_wechselt (hknopf f rfl)
      show (multitasterCanCallback f k.1.dev).config = _ ∧ Paarung passt _
        (getGroup (multitasterCanCallback f k.1.dev)) _ (multitasterCanCallback f k.1.dev).pressed
        k.1.sent
      rw [heq] at hnext ⊢
      exact ⟨rfl, hnext⟩
  | tick r =>
      have hnext := hpaar.sample (hpasst _) EdsMultitasterBlock.time_pos
        EdsMultitasterBlock.time_lt selfaddr [k.1.dev.config.tasterPort] hg
      rw [← hc.up, ← hc.down] at hnext
      exact ⟨rfl, hnext⟩

/-- The frames alternate, whatever the knob does. -/
theorem multitaster_run_wechselt (hc : c.OhneRolladen) (oneScale : UInt16)
    (es : List MultitasterEvent)
    (hg : Guarded (recorded (multitasterStep selfaddr)) (MultitasterEindeutig c)
      (multitasterStart c oneScale, []) es) :
    Gepaart (fun _ _ => True) none
      (run (multitasterStep selfaddr) (multitasterStart c oneScale) es).sent := by
  have hinv := run_guarded (I := MultitasterInv (fun _ _ => True) c)
    (fun k e hg hk => multitasterInv_step (fun _ => trivial) hc hg (fun _ _ _ _ _ => trivial) hk)
    es (multitasterStart c oneScale, []) hg
    ⟨rfl, paarung_start EdsMultitasterBlock.time_pos⟩
  rw [run_recorded] at hinv
  exact hinv.2.gepaart

/-- A knob that rests while the button is held leaves the pairs in one group. -/
theorem multitaster_run_gepaart (hc : c.OhneRolladen) (oneScale : UInt16)
    (es : List MultitasterEvent)
    (hg : Guarded (recorded (multitasterStep selfaddr)) (MultitasterEindeutig c)
      (multitasterStart c oneScale, []) es)
    (hk : Guarded (recorded (multitasterStep selfaddr)) (KnopfRuht c)
      (multitasterStart c oneScale, []) es) :
    Gepaart Eq none (run (multitasterStep selfaddr) (multitasterStart c oneScale) es).sent := by
  have hinv := run_guarded (G := fun k e => MultitasterEindeutig c k e ∧ KnopfRuht c k e)
    (I := MultitasterInv Eq c)
    (fun k e hg hk => multitasterInv_step (fun _ => rfl) hc hg.1
      (fun f hf hheld g heq => by subst hf; exact heq.trans (hg.2 hheld).symm) hk)
    es (multitasterStart c oneScale, []) ((guarded_and es _).mpr ⟨hg, hk⟩)
    ⟨rfl, paarung_start EdsMultitasterBlock.time_pos⟩
  rw [run_recorded] at hinv
  exact hinv.2.gepaart

end

/-- **Button events**: `TASTER_DOWN` and `TASTER_UP` alternate, `TASTER_DOWN` first,
if no press lies between the two thresholds. A button has one group; a
multitaster sends to the group that its knob selects at that moment. -/
theorem tasten_gepaart (selfaddr : UInt16) (c : EdsTasterBlock) (hc : c.OhneFlanken)
    (rs : List (Bool → UInt8 → UInt8))
    (hrs : Guarded (recorded (tasterStep selfaddr)) (TasterEindeutig c) (tasterStart c, []) rs)
    (m : EdsMultitasterBlock) (hm : m.OhneRolladen) (oneScale : UInt16)
    (es : List MultitasterEvent)
    (hes : Guarded (recorded (multitasterStep selfaddr)) (MultitasterEindeutig m)
      (multitasterStart m oneScale, []) es) :
    Gepaart Eq none (run (tasterStep selfaddr) (tasterStart c) rs).sent ∧
      Gepaart (fun _ _ => True) none
        (run (multitasterStep selfaddr) (multitasterStart m oneScale) es).sent ∧
      Guarded (multitasterStep selfaddr) (GruppeGewaehlt selfaddr) (multitasterStart m oneScale) es ∧
      (Guarded (recorded (multitasterStep selfaddr)) (KnopfRuht m)
          (multitasterStart m oneScale, []) es →
        Gepaart Eq none (run (multitasterStep selfaddr) (multitasterStart m oneScale) es).sent) := by
  refine ⟨taster_run_gepaart hc rs hrs, multitaster_run_wechselt hm oneScale es hes, ?_,
    multitaster_run_gepaart hm oneScale es hes⟩
  exact (guarded_congr (fun s e => iff_of_true (gruppeGewaehlt s e) trivial) es _).mpr
    (guarded_of_forall (P := fun _ => True) es _ fun _ _ => trivial)

/-- The input ports while the button is pressed, or not. -/
private def taste (pressed : Bool) : Bool → UInt8 → UInt8 := fun _ _ => if pressed then 0 else 1

/-- The knob of group 9 at `adc`. -/
private def drehen (hi lo : UInt8) : MultitasterEvent :=
  .frame (sfpFrame 20 hcanMulticastControl [hcanSrvHes, hcanHesPotiPosChanged, 9, hi, lo])

/-- A lamp and a blind: `gruppe0` and `gruppe1`. -/
private def lampeUndMarkise : EdsMultitasterBlock :=
  ⟨9, 4, 0, #v[50, 51, 52, 255, 255, 255, 255, 255, 255, 255]⟩

/-- A short press and a press of four samples, and the same while the knob is turned
between the presses. -/
theorem tasten_gepaart_presses :
    Gepaart Eq none (run (tasterStep 7) (tasterStart ⟨3, 0, 40⟩)
      ([true, true, false, true, true, true, true, false].map taste)).sent ∧
      Gepaart Eq none (run (multitasterStep 7) (multitasterStart lampeUndMarkise 341)
        ([true, true, true, true, false].map (fun p => .tick (taste p)) ++ drehen 2 0 ::
          [true, true, true, true, true, false].map (fun p => .tick (taste p)))).sent := by
  have h := tasten_gepaart 7 ⟨3, 0, 40⟩ ⟨rfl, rfl, rfl, rfl⟩
    ([true, true, false, true, true, true, true, false].map taste) (by decide)
    lampeUndMarkise ⟨rfl, rfl⟩ 341
    ([true, true, true, true, false].map (fun p => .tick (taste p)) ++ drehen 2 0 ::
      [true, true, true, true, true, false].map (fun p => .tick (taste p))) (by decide)
  exact ⟨h.1, h.2.2.2 (by decide)⟩

/-- A knob that is turned while the button is pressed: the second group is released,
and the first one is not. -/
theorem multitaster_verdreht :
    ¬ Gepaart Eq none (run (multitasterStep 7) (multitasterStart lampeUndMarkise 341)
      ([true, true, true, true].map (fun p => .tick (taste p)) ++
        [drehen 2 0, .tick (taste false)])).sent := by
  have hsent : (run (multitasterStep 7) (multitasterStart lampeUndMarkise 341)
      ([true, true, true, true].map (fun p => .tick (taste p)) ++
        [drehen 2 0, .tick (taste false)])).sent =
      [tasterFrame 7 hcanHesTasterDown 50 [4], tasterFrame 7 hcanHesTasterUp 51 [4]] := by decide
  rw [hsent]
  rintro ⟨-, -, hgruppe, -⟩
  exact absurd hgruppe (by decide)

end OpenHcan.Multitaster
