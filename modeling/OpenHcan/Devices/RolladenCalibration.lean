import OpenHcan.Devices.RolladenRun

/-!
# RolladenCalibration — what a calibration is worth

The shutter has no sensor: the tracked position is the one the program
believes in, and the physical one is where the shutter is. This module runs
the two side by side (`Anlage`). Driving keeps their difference unless the
shutter stands at an end, and there it shrinks. It is half a run time and
one tick at most as long as no drive goes the wrong way and no frame stops a
calibration run before its end (`TrackInv`); the target of a calibration lies
half a run time behind the end, so that a run that reaches it has reached the
end.
-/

namespace OpenHcan.Rolladen

open OpenHcan.Lib

set_option maxRecDepth 100000

/-! ## The physical position -/

/-- A shutter in its window; `hoehe` is where it is. -/
structure Anlage where
  plant : Plant
  hoehe : Int

/-- One tick of the motor: one unit, and not beyond the ends. -/
def bewegt (c : EdsRolladenBlock) (r : RelayCtl) (hoehe : Int) : Int :=
  if r.power ∧ r.sollPower then
    if r.dir = .ab then max 0 (hoehe - 1) else min c.zeit (hoehe + 1)
  else hoehe

def anlageStep (selfaddr : UInt16) (a : Anlage) (e : RolladenEvent) : Anlage where
  plant := rolladenStep selfaddr a.plant e
  hoehe :=
    match e with
    | .frame _ => a.hoehe
    | .tick => bewegt a.plant.dev.config a.plant.dev.ctl a.hoehe

/-- In the next tick the run reaches its target, and `calibration` clears the
flag. -/
def KalibrierEnde (p : DeviceDataRolladen) : Prop :=
  let q := fahren (changeDir (longPressed p))
  p.power = true ∧ p.sollPower = true ∧ sollErreicht q = true ∧
    (rolladenGetPosition q = 0 ∨ rolladenGetPosition q = 100) ∧
    q.kalibrieren = true ∧ (calibration q).kalibrieren = false

instance (p : DeviceDataRolladen) : Decidable (KalibrierEnde p) := by
  unfold KalibrierEnde
  infer_instance

/-- A tick, or a frame of the buttons. -/
def Bedienung : RolladenEvent → Prop
  | .frame f =>
      f.byte 1 = hcanHesRolladenPositionSet ∨ f.byte 1 = hcanHesTasterDown ∨
        f.byte 1 = hcanHesTasterUp
  | .tick => True

instance : DecidablePred Bedienung := fun e =>
  match e with
  | .frame f => inferInstanceAs (Decidable (f.byte 1 = hcanHesRolladenPositionSet ∨ _))
  | .tick => .isTrue trivial

/-- A frame that stops a calibration run and has the position set back finds the
position at that end or beyond it. -/
def HaltsAtEnd (s : Plant) (e : RolladenEvent) : Prop :=
  ∀ f, e = .frame f → Halts s.dev f → s.dev.fahrt.Abgleich s.dev.config →
    (s.dev.config.endDir = .auf → s.dev.config.zeit ≤ s.dev.laufzeit) ∧
      (s.dev.config.endDir = .ab → s.dev.laufzeit ≤ 0)

/-- A step that keeps tracked and physical position together. -/
structure KeepsTrack (a : Anlage) (e : RolladenEvent) : Prop where
  bedienung : Bedienung e
  up : UpFree a.plant e
  halt : HaltsAtEnd a.plant e

/-! ## The difference -/

/-- Tracked and physical position differ by half a run time and one tick at most,
and a drive down has no target beyond the upper end. -/
structure TrackInv (c : EdsRolladenBlock) (m : Fahrt) (hoehe : Int) : Prop
    extends RoomInv c m where
  boden : 0 ≤ hoehe
  decke : hoehe ≤ c.zeit
  lower : -(c.zeit / 2 + 1) ≤ hoehe - m.laufzeit
  upper : hoehe - m.laufzeit ≤ c.zeit / 2 + 1
  down : m.ctl.sollPower = true → m.ctl.heading = .ab → m.ctl.sollDir = .ab ∧ m.soll ≤ c.zeit

section

variable {c : EdsRolladenBlock} {m : Fahrt} {hoehe : Int}

theorem TrackInv.prepare (h : TrackInv c m hoehe) : TrackInv c (m.prepare c) hoehe := by
  have hzeit := c.zeit_nonneg
  have hroom := h.toRoomInv.prepare
  unfold Fahrt.prepare at hroom ⊢
  split
  · rw [if_pos ‹_›] at hroom
    refine ⟨hroom, h.boden, h.decke, h.lower, h.upper, fun hsp hab => ?_⟩
    have hdir := (h.down hsp hab).1
    refine ⟨hdir, ?_⟩
    show c.kalibrierSoll m.ctl.sollDir ≤ c.zeit
    rw [hdir, kalibrierSoll_ab]
    omega
  · exact h

/-- A stop that leaves the position alone, or sets it back where the shutter is
within half a run time. -/
theorem TrackInv.stop (habove : c.tief ≤ m.laufzeit) (hbelow : m.laufzeit ≤ c.hoch)
    (hboden : 0 ≤ hoehe) (hdecke : hoehe ≤ c.zeit)
    (hlower : -(c.zeit / 2 + 1) ≤ hoehe - m.laufzeit)
    (hupper : hoehe - m.laufzeit ≤ c.zeit / 2 + 1)
    (hend : m.Abgleich c → -(c.zeit / 2 + 1) ≤ hoehe - c.endSoll c.endDir ∧
      hoehe - c.endSoll c.endDir ≤ c.zeit / 2 + 1) :
    TrackInv c (m.stop c) hoehe := by
  refine ⟨.stop habove hbelow, hboden, hdecke, ?_, ?_, fun hsp => ?_⟩
  · rcases stop_laufzeit c m with heq | ⟨habgleich, heq⟩
    · rw [heq]
      exact hlower
    · rw [heq]
      exact (hend habgleich).1
  · rcases stop_laufzeit c m with heq | ⟨habgleich, heq⟩
    · rw [heq]
      exact hupper
    · rw [heq]
      exact (hend habgleich).2
  · rw [stop_sollPower] at hsp
    cases hsp

/-- **Driving keeps the difference**, and at an end it shrinks. -/
theorem TrackInv.fahren (h : TrackInv c m hoehe) (hf : m.Faehrt) :
    0 ≤ bewegt c m.ctl hoehe ∧ bewegt c m.ctl hoehe ≤ c.zeit ∧
      -(c.zeit / 2 + 1) ≤ bewegt c m.ctl hoehe - m.fahren.laufzeit ∧
      bewegt c m.ctl hoehe - m.fahren.laufzeit ≤ c.zeit / 2 + 1 := by
  have hzeit := c.zeit_nonneg
  obtain ⟨habove, hbelow, _⟩ := h.toRoomInv.fahren hf
  have hboden := h.boden
  have hdecke := h.decke
  have hlower := h.lower
  have hupper := h.upper
  unfold EdsRolladenBlock.tief at habove
  unfold EdsRolladenBlock.hoch at hbelow
  rw [kalibrierSoll_ab] at habove
  rw [kalibrierSoll_auf] at hbelow
  unfold bewegt
  rw [if_pos (show m.ctl.power = true ∧ m.ctl.sollPower = true from hf)]
  unfold Fahrt.fahren at habove hbelow ⊢
  rcases m.ctl.dir.auf_or_ab with hdir | hdir
  · simp only [hdir, reduceCtorEq, if_false] at habove hbelow ⊢
    omega
  · simp only [hdir, if_true] at habove hbelow ⊢
    omega

/-- **A calibration run that reaches its target has reached the end**, up to one
tick. -/
theorem TrackInv.abgleich (h : TrackInv c m hoehe) (hf : m.Faehrt) (hr : m.fahren.Erreicht)
    (ha : m.fahren.Abgleich c) :
    -1 ≤ bewegt c m.ctl hoehe - c.endSoll c.endDir ∧
      bewegt c m.ctl hoehe - c.endSoll c.endDir ≤ 1 := by
  obtain ⟨hboden, hdecke, hlower, hupper⟩ := h.fahren hf
  have hhead : m.ctl.heading = m.ctl.dir := RelayCtl.heading_on hf.1
  have hsoll : m.fahren.soll = m.soll := rfl
  have hctl : m.fahren.ctl = m.ctl := rfl
  obtain ⟨_, _, hover⟩ := ha
  rw [hsoll] at hover
  unfold Fahrt.Erreicht at hr
  rw [hctl, hsoll] at hr
  rcases m.ctl.dir.auf_or_ab with hdir | hdir
  · rw [hdir, if_neg (by decide)] at hr
    rcases hover with ⟨hend, hbeyond⟩ | ⟨_, hbeyond⟩
    · rcases h.oben with hle | heq
      · omega
      · rw [kalibrierSoll_auf] at heq
        rw [hend, endSoll_auf]
        omega
    · -- a drive up has no target below the lower end
      have hup := (h.up hf.2 (hhead.trans hdir)).1
      omega
  · rw [hdir, if_pos rfl] at hr
    rcases hover with ⟨_, hbeyond⟩ | ⟨hend, hbeyond⟩
    · have hdown := (h.down hf.2 (hhead.trans hdir)).2
      omega
    · rcases h.unten with hle | heq
      · omega
      · rw [kalibrierSoll_ab] at heq
        rw [hend, endSoll_ab]
        omega

theorem TrackInv.pruefung (h : TrackInv c m hoehe) :
    TrackInv c (m.pruefung c) (bewegt c m.ctl hoehe) := by
  have hzeit := c.zeit_nonneg
  unfold Fahrt.pruefung
  by_cases hf : m.Faehrt
  · obtain ⟨habove, hbelow, hgo⟩ := h.toRoomInv.fahren hf
    obtain ⟨hboden, hdecke, hlower, hupper⟩ := h.fahren hf
    rw [if_pos hf]
    split
    · rename_i hr
      refine .stop habove hbelow hboden hdecke hlower hupper fun ha => ?_
      have hnear := h.abgleich hf hr ha
      omega
    · exact ⟨hgo ‹_›, hboden, hdecke, hlower, hupper, h.down⟩
  · rw [if_neg hf]
    have hrests : bewegt c m.ctl hoehe = hoehe := by
      unfold bewegt
      rw [if_neg (show ¬ (m.ctl.power = true ∧ m.ctl.sollPower = true) from hf)]
    rw [hrests]
    exact h

theorem TrackInv.relays (h : TrackInv c m hoehe) :
    TrackInv c ⟨m.laufzeit, m.soll, m.kalibrieren, m.ctl.relays⟩ hoehe := by
  refine ⟨h.toRoomInv.relays, h.boden, h.decke, h.lower, h.upper, fun hsp hab => ?_⟩
  rw [RelayCtl.relays_sollPower] at hsp
  rw [RelayCtl.heading_relays h.load hsp] at hab
  show m.ctl.relays.sollDir = .ab ∧ m.soll ≤ c.zeit
  rw [RelayCtl.relays_sollDir]
  exact h.down hsp hab

theorem TrackInv.tick (h : TrackInv c m hoehe) (gedrueckt : Bool) :
    TrackInv c (m.tick c gedrueckt) (bewegt c m.ctl hoehe) := by
  apply TrackInv.relays
  cases gedrueckt with
  | true =>
      have hstep := h.prepare.pruefung
      rw [(m.prepare_fields c).2] at hstep
      exact hstep
  | false => exact h.pruefung

end

theorem TrackInv.frame {s : Plant} {f : CanixFrame} {m : Fahrt} {hoehe : Int}
    (h : TrackInv s.dev.config s.dev.fahrt hoehe) (he : FrameEffect s.dev f m)
    (hb : Bedienung (.frame f)) (hup : UpFree s (.frame f)) (hhalt : HaltsAtEnd s (.frame f)) :
    TrackInv s.dev.config m hoehe := by
  have hzeit := s.dev.config.zeit_nonneg
  have hroom := h.toRoomInv.frame he (hup f rfl)
  have hlower := h.lower
  have hupper := h.upper
  have hboden := h.boden
  have hdecke := h.decke
  cases he with
  | keep => exact h
  | halt hstops =>
      refine .stop h.above h.below hboden hdecke hlower hupper fun ha => ?_
      obtain ⟨htop, hbottom⟩ := hhalt f rfl hstops ha
      have hl : s.dev.fahrt.laufzeit = s.dev.laufzeit := rfl
      rw [hl] at hlower hupper
      rcases s.dev.config.endDir.auf_or_ab with hend | hend
      · have := htop hend
        rw [hend, endSoll_auf]
        omega
      · have := hbottom hend
        rw [hend, endSoll_ab]
        omega
  | lose =>
      refine ⟨hroom, hboden, hdecke, hlower, hupper, fun hsp hab => ⟨(h.down hsp hab).1, ?_⟩⟩
      dsimp only
      omega
  | order d horder =>
      refine ⟨hroom, hboden, hdecke, hlower, hupper, fun _ hab => ?_⟩
      have hhead : (s.dev.ctl.drive d).heading = d :=
        heading_drive horder.1.idle (horder.free (hup f rfl))
      have hd : d = .ab := hhead.symm.trans hab
      refine ⟨(RelayCtl.drive_sollDir _ d).trans hd, ?_⟩
      subst hd
      rcases ziel_soll s.dev .ab with hsoll | hsoll
      · dsimp only
        rw [hsoll]
        exact (endSoll_range _ _).2
      · dsimp only
        rw [hsoll, kalibrierSoll_ab]
        omega
  | percent d horder =>
      refine ⟨hroom, hboden, hdecke, hlower, hupper, fun _ hab => ?_⟩
      have hhead : (s.dev.ctl.drive d).heading = d :=
        heading_drive horder.1.idle (horder.free (hup f rfl))
      exact ⟨(RelayCtl.drive_sollDir _ d).trans (hhead.symm.trans hab),
        (prozentSoll_range s.dev (f.byte 3)).2⟩
  | preset =>
      refine ⟨hroom, hboden, hdecke, hlower, hupper, fun _ _ => ⟨rfl, ?_⟩⟩
      dsimp only
      omega
  | define _ hcmd =>
      rcases hb with hset | hdown | hup
      · exact absurd (hcmd.symm.trans hset) (by decide)
      · exact absurd (hcmd.symm.trans hdown) (by decide)
      · exact absurd (hcmd.symm.trans hup) (by decide)

section

variable {selfaddr : UInt16}

def Anlage.Tracked (a : Anlage) : Prop := TrackInv a.plant.dev.config a.plant.dev.fahrt a.hoehe

theorem tracked_step (a : Anlage) (e : RolladenEvent) (hg : KeepsTrack a e) (h : a.Tracked) :
    (anlageStep selfaddr a e).Tracked := by
  have hconfig : (anlageStep selfaddr a e).plant.dev.config = a.plant.dev.config :=
    rolladenStep_config a.plant e
  unfold Anlage.Tracked
  rw [hconfig]
  cases e with
  | frame f =>
      exact h.frame (canCallback_effect a.plant.dev selfaddr f) hg.bedienung hg.up hg.halt
  | tick =>
      have htick : (anlageStep selfaddr a .tick).plant.dev.fahrt =
          a.plant.dev.fahrt.tick a.plant.dev.config a.plant.dev.gedrueckt :=
        rolladenStep_tick_fahrt selfaddr a.plant
      rw [htick]
      exact TrackInv.tick h _

theorem tracked_start {q : DeviceDataRolladen} {hoehe : Int} (hboden : 0 ≤ hoehe)
    (hdecke : hoehe ≤ q.config.zeit) : Anlage.Tracked ⟨Plant.start q, hoehe⟩ := by
  have hlauf : (Plant.start q).dev.fahrt.laufzeit = q.config.zeit / 2 := rfl
  have hconfig : (Plant.start q).dev.config = q.config := rfl
  refine ⟨roomInv_start q, hboden, hdecke, ?_, ?_, fun hsp => Bool.noConfusion hsp⟩
  · dsimp only
    rw [hlauf, hconfig]
    omega
  · dsimp only
    rw [hlauf, hconfig]
    omega

/-! ## The end of a calibration run -/

/-- What the code looks at, seen by the drive. -/
theorem KalibrierEnde.abgleich {p : DeviceDataRolladen} {m : Fahrt} (h : KalibrierEnde p)
    (hm : m = if p.gedrueckt then p.fahrt.prepare p.config else p.fahrt) :
    m.Faehrt ∧ m.fahren.Erreicht ∧ m.fahren.Abgleich p.config := by
  obtain ⟨hp, hsp, hreached, hend, hkal, hclears⟩ := h
  have hfahrt : (changeDir (longPressed p)).fahrt = m :=
    (changeDir_longPressed_fahrt p).trans hm.symm
  have hfields : (fahren (changeDir (longPressed p))).fahrt = m.fahren := by
    rw [fahren_fahrt, hfahrt]
  have hconfig : (fahren (changeDir (longPressed p))).config = p.config := by
    rw [(fahren_frame _).1, changeDir_longPressed_config]
  have hctl : m.ctl = p.ctl := by
    rw [← hfahrt]
    exact changeDir_longPressed_ctl p
  have hhinter := calibration_clears _ hkal hclears
  rw [getPosition_end] at hend
  rw [sollErreicht_fahren, hfahrt] at hreached
  rw [hconfig] at hend hhinter
  refine ⟨?_, hreached, ?_⟩
  · unfold Fahrt.Faehrt
    rw [hctl]
    exact ⟨hp, hsp⟩
  · rw [← hfields]
    exact ⟨hend, hkal, hhinter⟩

theorem calibration_within_one (selfaddr : UInt16) {a : Anlage} (h : a.Tracked)
    (hend : KalibrierEnde a.plant.dev) :
    -1 ≤ (anlageStep selfaddr a .tick).plant.dev.laufzeit - (anlageStep selfaddr a .tick).hoehe ∧
      (anlageStep selfaddr a .tick).plant.dev.laufzeit -
        (anlageStep selfaddr a .tick).hoehe ≤ 1 := by
  obtain ⟨m, hm⟩ : ∃ m, m = if a.plant.dev.gedrueckt then
      a.plant.dev.fahrt.prepare a.plant.dev.config else a.plant.dev.fahrt := ⟨_, rfl⟩
  obtain ⟨hf, hr, ha⟩ := hend.abgleich hm
  have htrack : TrackInv a.plant.dev.config m a.hoehe ∧ m.ctl = a.plant.dev.ctl := by
    rw [hm]
    split
    · exact ⟨TrackInv.prepare h, (Fahrt.prepare_fields _ _).2⟩
    · exact ⟨h, rfl⟩
  have hnear := htrack.1.abgleich hf hr ha
  rw [htrack.2] at hnear
  have htick : (anlageStep selfaddr a .tick).plant.dev.fahrt =
      a.plant.dev.fahrt.tick a.plant.dev.config a.plant.dev.gedrueckt :=
    rolladenStep_tick_fahrt selfaddr a.plant
  have hlauf : (anlageStep selfaddr a .tick).plant.dev.laufzeit =
      a.plant.dev.config.endSoll a.plant.dev.config.endDir := by
    have hset : (m.fahren.stop a.plant.dev.config).laufzeit =
        a.plant.dev.config.endSoll a.plant.dev.config.endDir := if_pos ha
    rw [← hset]
    refine (congrArg Fahrt.laufzeit htick).trans ?_
    unfold Fahrt.tick
    dsimp only
    rw [← hm]
    unfold Fahrt.pruefung
    rw [if_pos hf, if_pos hr]
  have hhoehe : (anlageStep selfaddr a .tick).hoehe =
      bewegt a.plant.dev.config a.plant.dev.ctl a.hoehe := rfl
  rw [hlauf, hhoehe]
  omega

end

/-- **A calibration is sound**: from any physical position at the start, a run that
reaches its target and clears the calibration flag leaves tracked and
physical position at most two ticks apart, as long as every step before
keeps them together. -/
theorem calibration_sound (selfaddr : UInt16) (q : DeviceDataRolladen) (hoehe : Int)
    (es : List RolladenEvent) (hboden : 0 ≤ hoehe) (hdecke : hoehe ≤ q.config.laufzeit.toNat)
    (hg : Guarded (anlageStep selfaddr) KeepsTrack ⟨Plant.start q, hoehe⟩ es)
    (hend : KalibrierEnde (run (anlageStep selfaddr) ⟨Plant.start q, hoehe⟩ es).plant.dev) :
    ((run (anlageStep selfaddr) ⟨Plant.start q, hoehe⟩ (es ++ [.tick])).plant.dev.laufzeit -
      (run (anlageStep selfaddr) ⟨Plant.start q, hoehe⟩ (es ++ [.tick])).hoehe).natAbs ≤ 2 := by
  have htracked : (run (anlageStep selfaddr) ⟨Plant.start q, hoehe⟩ es).Tracked :=
    run_guarded tracked_step es _ hg (tracked_start hboden hdecke)
  have hnear := calibration_within_one selfaddr htracked hend
  rw [run_append, run_cons, run_nil]
  omega

/-! ### A run time of eight ticks -/

section Example

private def auftragFrame (order : UInt8) : RolladenEvent := .frame (positionOrder 2 1 order)

/-- The first order down, from the upper end. -/
theorem calibration_sound_ersteFahrt :
    ((run (anlageStep 1) ⟨Plant.start (neuerRolladen 8 0), 8⟩
        (auftragFrame 200 :: List.replicate 13 .tick ++ [.tick])).plant.dev.laufzeit -
      (run (anlageStep 1) ⟨Plant.start (neuerRolladen 8 0), 8⟩
        (auftragFrame 200 :: List.replicate 13 .tick ++ [.tick])).hoehe).natAbs ≤ 2 := by
  have htick : ∀ a : Anlage, KeepsTrack a .tick := by
    intro a
    refine ⟨trivial, upFree_tick _, fun f hf => ?_⟩
    cases hf
  refine calibration_sound 1 (neuerRolladen 8 0) 8 (auftragFrame 200 :: List.replicate 13 .tick)
    (by decide) (by decide) ⟨⟨.inl rfl, fun _ _ _ => .inl rfl, fun f _ _ ha => ?_⟩,
      guarded_replicate htick 13 _⟩ (by decide)
  exact absurd ha (by decide)

/-- To the top, down and stopped at once (which sets the tracked position to 0),
a little up, and down again. -/
private def obenGehalten : List RolladenEvent :=
  auftragFrame 201 :: List.replicate 9 .tick ++ [auftragFrame 200, auftragFrame 202] ++
    List.replicate 5 .tick ++ auftragFrame 13 :: List.replicate 2 .tick ++
      auftragFrame 200 :: List.replicate 10 .tick

/-- **A calibration in the middle of the window**: the shutter believes to be at the
bottom and is three ticks above it. -/
theorem calibration_not_sound :
    ¬ ∀ (selfaddr : UInt16) (q : DeviceDataRolladen) (hoehe : Int) (es : List RolladenEvent),
      1 ≤ q.config.laufzeit.toNat → 0 ≤ hoehe → hoehe ≤ q.config.laufzeit.toNat →
        (∀ e ∈ es, Bedienung e) →
        KalibrierEnde (run (anlageStep selfaddr) ⟨Plant.start q, hoehe⟩ es).plant.dev →
          ((run (anlageStep selfaddr) ⟨Plant.start q, hoehe⟩
              (es ++ [.tick])).plant.dev.laufzeit -
            (run (anlageStep selfaddr) ⟨Plant.start q, hoehe⟩ (es ++ [.tick])).hoehe).natAbs ≤
              2 := by
  intro hall
  have hnear := hall 1 (neuerRolladen 8 0) 8 obenGehalten (by decide) (by decide) (by decide)
    (by decide) (by decide)
  revert hnear
  decide

end Example

end OpenHcan.Rolladen
