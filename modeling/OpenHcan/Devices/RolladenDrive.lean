import OpenHcan.Devices.RolladenInterlock
import OpenHcan.Devices.RolladenPosition

/-!
# RolladenDrive — where a drive ends

The relay controller does not know where the shutter is. A drive adds three
fields to it: the tracked position, the target and the calibration flag
(`Fahrt`). Every frame has one of seven effects on them
(`canCallback_effect`), and every tick is one function of them
(`timerHandler_fahrt`). The modules about the tracked position, the length
of a run and the calibration argue about drives alone.
-/

namespace OpenHcan.Rolladen

open OpenHcan.Lib

/-- A drive: what the relay controller is told to do, and up to where. -/
structure Fahrt where
  laufzeit : Int
  soll : Int
  kalibrieren : Bool
  ctl : RelayCtl
deriving DecidableEq, Repr

def DeviceDataRolladen.fahrt (p : DeviceDataRolladen) : Fahrt where
  laufzeit := p.laufzeit
  soll := p.sollLaufzeit
  kalibrieren := p.kalibrieren
  ctl := p.ctl

namespace EdsRolladenBlock

variable (c : EdsRolladenBlock)

/-- The end that the feature bit selects for the calibration. -/
def endDir : Dir := if c.kalibrierungOben then .auf else .ab

/-- The target of an order to an end. -/
def endSoll (d : Dir) : Int := if d = .ab then 0 else c.zeit

/-- The target of a calibration: half a run time beyond the end. -/
def kalibrierSoll (d : Dir) : Int :=
  if d = .auf then c.zeit * 150 / 100 else -(c.zeit * 50 / 100)

/-- `pos == 0 || pos == 100` -/
def AmEnde (laufzeit : Int) : Prop :=
  (100 * laufzeit).tdiv c.zeit + 1 < 2 ∨ 98 < (100 * laufzeit).tdiv c.zeit + 1

instance (laufzeit : Int) : Decidable (c.AmEnde laufzeit) := by
  unfold AmEnde
  infer_instance

/-- The target lies behind the end that is calibrated. -/
def HinterEnde (soll : Int) : Prop :=
  (c.endDir = .auf ∧ c.zeit < soll) ∨ (c.endDir = .ab ∧ soll < -1)

instance (soll : Int) : Decidable (c.HinterEnde soll) := by
  unfold HinterEnde
  infer_instance

end EdsRolladenBlock

namespace Fahrt

variable (c : EdsRolladenBlock) (m : Fahrt)

/-- `prepare_calibration` changes the target: the flag is set already, or the
drive goes to the selected end. -/
def Kalibriert : Prop := m.kalibrieren = true ∨ m.ctl.sollDir = c.endDir

instance : Decidable (m.Kalibriert c) := by
  unfold Kalibriert
  infer_instance

def prepare : Fahrt :=
  if m.Kalibriert c then
    { m with soll := c.kalibrierSoll m.ctl.sollDir, kalibrieren := true }
  else m

/-- A stop at an end after a calibration run. -/
def Abgleich : Prop := c.AmEnde m.laufzeit ∧ m.kalibrieren = true ∧ c.HinterEnde m.soll

instance : Decidable (m.Abgleich c) := by
  unfold Abgleich
  infer_instance

def stop : Fahrt where
  laufzeit := if m.Abgleich c then c.endSoll c.endDir else m.laufzeit
  soll := -1
  kalibrieren := m.kalibrieren && decide (c.AmEnde m.laufzeit ∧ ¬ c.HinterEnde m.soll)
  ctl := m.ctl.stop

/-- An order to an end, with or without a calibration, before the relays are
told. -/
def ziel (d : Dir) (rekalibrieren : Bool) : Fahrt :=
  let m := { m with soll := c.endSoll d, ctl := { m.ctl with sollDir := d } }
  if rekalibrieren then m.prepare c else m

def fahren : Fahrt :=
  { m with laufzeit := if m.ctl.dir = .ab then m.laufzeit - 1 else m.laufzeit + 1 }

def Erreicht : Prop :=
  if m.ctl.dir = .ab then m.laufzeit ≤ m.soll else m.laufzeit ≥ m.soll

instance : Decidable m.Erreicht := by
  unfold Erreicht
  infer_instance

/-- The power is on, and there is no order to stop. -/
def Faehrt : Prop := m.ctl.power = true ∧ m.ctl.sollPower = true

instance : Decidable m.Faehrt := by
  unfold Faehrt
  infer_instance

/-- The check for the target. -/
def pruefung : Fahrt :=
  if m.Faehrt then if m.fahren.Erreicht then m.fahren.stop c else m.fahren else m

/-- One tick; `gedrueckt` tells that a button has been held for a second. -/
def tick (gedrueckt : Bool) : Fahrt :=
  let m := (if gedrueckt then m.prepare c else m).pruefung c
  { m with ctl := m.ctl.relays }

end Fahrt

/-! ## The configuration stays -/

section

variable {selfaddr : UInt16} (p : DeviceDataRolladen)

/-- A stop leaves configuration and button alone. -/
theorem calibration_frame : (calibration p).config = p.config ∧
    (calibration p).longPressedCounter = p.longPressedCounter := by
  unfold calibration
  split
  · split
    · exact ⟨rfl, rfl⟩
    · exact ⟨rfl, rfl⟩
  · split
    · exact ⟨rfl, rfl⟩
    · exact ⟨rfl, rfl⟩

@[simp] theorem prepareCalibration_config : (prepareCalibration p).config = p.config := by
  unfold prepareCalibration
  split
  · split <;> rfl
  · split
    · split <;> rfl
    · split <;> rfl

theorem rolladenCmdStop_frame : (rolladenCmdStop p).config = p.config ∧
    (rolladenCmdStop p).longPressedCounter = p.longPressedCounter := by
  have hend : (stopEndlage p).config = p.config ∧
      (stopEndlage p).longPressedCounter = p.longPressedCounter := by
    unfold stopEndlage
    dsimp only
    split
    · split
      · exact calibration_frame _
      · exact ⟨rfl, rfl⟩
    · exact ⟨rfl, rfl⟩
  rw [← hend.1, ← hend.2]
  unfold rolladenCmdStop
  dsimp only
  split
  · exact ⟨rfl, rfl⟩
  · exact ⟨rfl, rfl⟩

@[simp] theorem rolladenCmdStop_config : (rolladenCmdStop p).config = p.config :=
  (rolladenCmdStop_frame p).1

@[simp] theorem rolladenCmdDrive_config : (rolladenCmdDrive p).config = p.config := by
  unfold rolladenCmdDrive
  dsimp only
  split <;> rfl

@[simp] theorem setSollLaufzeit_config (d : Dir) : (setSollLaufzeit p d).2.config = p.config := by
  by_cases h : SollReached p d
  · rw [setSollLaufzeit_reached p h]
  · rw [setSollLaufzeit_not_reached p h]
    dsimp only
    split
    · exact prepareCalibration_config _
    · rfl

theorem positionSet_config (order : UInt8) :
    (positionSet selfaddr p order).1.config = p.config := by
  have htaster : ∀ d, (tasterSet selfaddr p d).1.config = p.config := by
    intro d
    unfold tasterSet
    split
    · rfl
    · split
      · exact rolladenCmdStop_config p
      · dsimp only
        split
        · exact (rolladenCmdDrive_config _).trans (setSollLaufzeit_config p d)
        · exact setSollLaufzeit_config p d
  unfold positionSet
  split
  · exact htaster _
  · split
    · exact htaster _
    · split
      · exact rolladenCmdStop_config _
      · split
        · rfl
        · unfold prozentSet
          split
          · rfl
          · dsimp only
            split
            · rfl
            · exact rolladenCmdDrive_config _

theorem tasterDown_config : (tasterDown selfaddr p).1.config = p.config := by
  unfold tasterDown
  split
  · rfl
  · split
    · exact rolladenCmdStop_config _
    · dsimp only
      split
      · exact (rolladenCmdDrive_config _).trans (setSollLaufzeit_config p _)
      · exact setSollLaufzeit_config p _

theorem canCallback_config (selfaddr : UInt16) (f : CanixFrame) :
    (rolladenCanCallback selfaddr p f).1.config = p.config := by
  have hswitch : (rolladenSwitch selfaddr p f).1.config = p.config := by
    unfold rolladenSwitch
    dsimp only
    split
    · split
      · exact positionSet_config p _
      · rfl
    · split
      · split
        · exact tasterDown_config p
        · rfl
      · split
        · split <;> rfl
        · split
          · split <;> rfl
          · split
            · rfl
            · split
              · rfl
              · split <;> rfl
  rw [← hswitch]
  unfold rolladenCanCallback
  dsimp only
  split
  · split
    · rfl
    · split <;> rfl
  · rfl

end

/-! ## What the parts of a tick leave alone -/

section

variable (p : DeviceDataRolladen)

/-- The timer handler as one chain of its parts. -/
theorem timerHandler_dev (selfaddr : UInt16) :
    (rolladenTimerHandler selfaddr p 10).dev =
      let r := (relaisExecution (relaisBlocking
        (endlagePruefung selfaddr (changeDir (longPressed p))).1)).1
      if r.power then { r with stoppuhr := r.stoppuhr + 1 } else r := by
  unfold rolladenTimerHandler
  dsimp only
  rw [if_neg (by decide)]

theorem changeDir_frame : (changeDir p).fahrt = p.fahrt ∧ (changeDir p).config = p.config ∧
    (changeDir p).longPressedCounter = p.longPressedCounter := by
  unfold changeDir
  split
  · exact ⟨rfl, rfl, rfl⟩
  · split
    · exact ⟨rfl, rfl, rfl⟩
    · exact ⟨rfl, rfl, rfl⟩

theorem fahren_frame : (fahren p).config = p.config ∧ (fahren p).sollLaufzeit = p.sollLaufzeit ∧
    (fahren p).longPressedCounter = p.longPressedCounter := by
  unfold fahren
  split
  · exact ⟨rfl, rfl, rfl⟩
  · exact ⟨rfl, rfl, rfl⟩

theorem endlagePruefung_frame (selfaddr : UInt16) :
    (endlagePruefung selfaddr p).1.config = p.config ∧
    (endlagePruefung selfaddr p).1.longPressedCounter = p.longPressedCounter := by
  obtain ⟨hconfig, _, hpress⟩ := fahren_frame p
  obtain ⟨hstop, hstopPress⟩ := rolladenCmdStop_frame (fahren p)
  unfold endlagePruefung
  split
  · dsimp only
    split
    · exact ⟨hstop.trans hconfig, hstopPress.trans hpress⟩
    · exact ⟨hconfig, hpress⟩
  · exact ⟨rfl, rfl⟩

theorem relaisBlocking_frame : (relaisBlocking p).config = p.config ∧
    (relaisBlocking p).longPressedCounter = p.longPressedCounter ∧
    (relaisBlocking p).laufzeit = p.laufzeit ∧
    (relaisBlocking p).sollLaufzeit = p.sollLaufzeit ∧
    (relaisBlocking p).kalibrieren = p.kalibrieren := by
  unfold relaisBlocking
  split
  · exact ⟨rfl, rfl, rfl, rfl, rfl⟩
  · split
    · exact ⟨rfl, rfl, rfl, rfl, rfl⟩
    · exact ⟨rfl, rfl, rfl, rfl, rfl⟩

theorem relaisExecution_frame : (relaisExecution p).1.config = p.config ∧
    (relaisExecution p).1.longPressedCounter = p.longPressedCounter ∧
    (relaisExecution p).1.laufzeit = p.laufzeit ∧
    (relaisExecution p).1.sollLaufzeit = p.sollLaufzeit ∧
    (relaisExecution p).1.kalibrieren = p.kalibrieren := by
  unfold relaisExecution
  by_cases hd : p.exeDir = true ∧ p.dir ≠ p.sollDir
  · rw [if_pos hd]
    dsimp only
    split
    · exact ⟨rfl, rfl, rfl, rfl, rfl⟩
    · exact ⟨rfl, rfl, rfl, rfl, rfl⟩
  · rw [if_neg hd]
    dsimp only
    split
    · exact ⟨rfl, rfl, rfl, rfl, rfl⟩
    · exact ⟨rfl, rfl, rfl, rfl, rfl⟩

theorem relais_config : (relaisExecution (relaisBlocking p)).1.config = p.config :=
  (relaisExecution_frame _).1.trans (relaisBlocking_frame p).1

theorem changeDir_longPressed_config : (changeDir (longPressed p)).config = p.config := by
  rw [(changeDir_frame _).2.1]
  unfold longPressed
  split
  · rfl
  · split
    · exact prepareCalibration_config p
    · rfl

theorem timerHandler_config (selfaddr : UInt16) :
    (rolladenTimerHandler selfaddr p 10).dev.config = p.config := by
  have hall := (relais_config _).trans ((endlagePruefung_frame (changeDir (longPressed p))
    selfaddr).1.trans (changeDir_longPressed_config p))
  rw [timerHandler_dev, ← hall]
  dsimp only
  split
  · rfl
  · rfl

/-- A tick counts the button's second. -/
theorem timerHandler_longPressed (selfaddr : UInt16) :
    (rolladenTimerHandler selfaddr p 10).dev.longPressedCounter =
      (longPressed p).longPressedCounter := by
  have hrelais := (relaisExecution_frame (relaisBlocking
    (endlagePruefung selfaddr (changeDir (longPressed p))).1)).2.1
  rw [(relaisBlocking_frame _).2.1, (endlagePruefung_frame _ _).2,
    (changeDir_frame _).2.2] at hrelais
  rw [timerHandler_dev, ← hrelais]
  dsimp only
  split
  · rfl
  · rfl

end

/-! ## The shutter's functions, seen by the drive -/

section

variable {selfaddr : UInt16} (p : DeviceDataRolladen)

theorem fahrt_congr {p q : DeviceDataRolladen} (h : p.fahrt = q.fahrt) :
    p.laufzeit = q.laufzeit ∧ p.sollLaufzeit = q.sollLaufzeit ∧ p.kalibrieren = q.kalibrieren ∧
      p.ctl = q.ctl := by
  unfold DeviceDataRolladen.fahrt at h
  simpa only [Fahrt.mk.injEq] using h

theorem EdsRolladenBlock.endDir_auf {c : EdsRolladenBlock} :
    c.endDir = .auf ↔ c.kalibrierungOben = true := by
  unfold EdsRolladenBlock.endDir
  cases c.kalibrierungOben <;> simp

theorem EdsRolladenBlock.endDir_ab {c : EdsRolladenBlock} :
    c.endDir = .ab ↔ c.kalibrierungOben = false := by
  unfold EdsRolladenBlock.endDir
  cases c.kalibrierungOben <;> simp

theorem prepareCalibration_fahrt :
    (prepareCalibration p).fahrt = p.fahrt.prepare p.config := by
  have hsd : p.ctl.sollDir = p.sollDir := rfl
  unfold prepareCalibration Fahrt.prepare Fahrt.Kalibriert
  cases hk : p.kalibrieren with
  | true =>
      cases hd : p.sollDir with
      | auf => simp [DeviceDataRolladen.fahrt, DeviceDataRolladen.ctl, hk, hd, obenSoll,
          EdsRolladenBlock.kalibrierSoll]
      | ab => simp [DeviceDataRolladen.fahrt, DeviceDataRolladen.ctl, hk, hd, untenSoll,
          EdsRolladenBlock.kalibrierSoll]
  | false =>
      cases ho : p.config.kalibrierungOben with
      | true =>
          have hend : p.config.endDir = .auf := EdsRolladenBlock.endDir_auf.mpr ho
          cases hd : p.sollDir with
          | auf => simp [DeviceDataRolladen.fahrt, DeviceDataRolladen.ctl, hd, hend, obenSoll,
              EdsRolladenBlock.kalibrierSoll]
          | ab => simp [DeviceDataRolladen.fahrt, DeviceDataRolladen.ctl, hk, hd, hend]
      | false =>
          have hend : p.config.endDir = .ab := EdsRolladenBlock.endDir_ab.mpr ho
          cases hd : p.sollDir with
          | auf => simp [DeviceDataRolladen.fahrt, DeviceDataRolladen.ctl, hk, hd, hend]
          | ab => simp [DeviceDataRolladen.fahrt, DeviceDataRolladen.ctl, hd, hend, untenSoll,
              EdsRolladenBlock.kalibrierSoll]

/-- The two ends the code asks for are the two ends of the position. -/
theorem getPosition_end :
    (rolladenGetPosition p = 0 ∨ rolladenGetPosition p = 100) ↔ p.config.AmEnde p.laufzeit := by
  unfold rolladenGetPosition EdsRolladenBlock.AmEnde
  dsimp only
  generalize (100 * p.laufzeit).tdiv p.config.zeit + 1 = pos
  by_cases hlow : pos < 2
  · simp [hlow]
  · by_cases hhigh : pos > 98
    · simp [hlow, hhigh]
    · rw [if_neg hlow, if_neg hhigh]
      refine iff_of_false ?_ (by omega)
      rw [← UInt8.toNat_inj, ← UInt8.toNat_inj, UInt8.toNat_ofNat']
      have h0 : (0 : UInt8).toNat = 0 := rfl
      have h100 : (100 : UInt8).toNat = 100 := rfl
      omega

/-- `calibration` clears the flag only behind the end that is calibrated. -/
theorem calibration_clears (hkal : p.kalibrieren = true)
    (h : (calibration p).kalibrieren = false) : p.config.HinterEnde p.sollLaufzeit := by
  unfold calibration at h
  split at h
  · rename_i hoben
    split at h
    · exact .inl ⟨EdsRolladenBlock.endDir_auf.mpr hoben, ‹_›⟩
    · exact Bool.noConfusion (h.symm.trans hkal)
  · rename_i hoben
    split at h
    · exact .inr ⟨EdsRolladenBlock.endDir_ab.mpr (Bool.not_eq_true _ ▸ hoben), ‹_›⟩
    · exact Bool.noConfusion (h.symm.trans hkal)

/-- What a stop makes of position and flag. -/
theorem stopEndlage_fahrt :
    (stopEndlage p).laufzeit = (p.fahrt.stop p.config).laufzeit ∧
      (stopEndlage p).kalibrieren = (p.fahrt.stop p.config).kalibrieren := by
  have hiff : p.fahrt.Abgleich p.config ↔
      p.config.AmEnde p.laufzeit ∧ p.kalibrieren = true ∧ p.config.HinterEnde p.sollLaufzeit :=
    Iff.rfl
  show _ = (if p.fahrt.Abgleich p.config then p.config.endSoll p.config.endDir
        else p.laufzeit) ∧
    _ = (p.kalibrieren &&
      decide (p.config.AmEnde p.laufzeit ∧ ¬ p.config.HinterEnde p.sollLaufzeit))
  unfold stopEndlage
  dsimp only
  by_cases hend : p.config.AmEnde p.laufzeit
  · rw [if_pos ((getPosition_end p).mpr hend)]
    cases hkal : p.kalibrieren with
    | false =>
        rw [if_neg Bool.false_ne_true, if_neg (fun h => by simp [hkal] at hiff; exact hiff h)]
        simp
    | true =>
        rw [if_pos rfl]
        unfold calibration
        unfold EdsRolladenBlock.HinterEnde at hiff ⊢
        cases ho : p.config.kalibrierungOben with
        | true =>
            have hdir : p.config.endDir = .auf := EdsRolladenBlock.endDir_auf.mpr ho
            by_cases hover : p.sollLaufzeit > p.config.zeit
            · simp [hiff, hend, hkal, hdir, hover, EdsRolladenBlock.endSoll]
            · simp [hiff, hend, hkal, hdir, hover]
        | false =>
            have hdir : p.config.endDir = .ab := EdsRolladenBlock.endDir_ab.mpr ho
            by_cases hover : p.sollLaufzeit < -1
            · simp [hiff, hend, hkal, hdir, hover, EdsRolladenBlock.endSoll]
            · simp [hiff, hend, hkal, hdir, hover]
  · rw [if_neg (fun h => hend ((getPosition_end p).mp h)), if_neg (fun h => hend h.1)]
    simp [hend]

theorem rolladenCmdStop_fahrt : (rolladenCmdStop p).fahrt = p.fahrt.stop p.config := by
  obtain ⟨hlauf, hkal⟩ := stopEndlage_fahrt p
  have hctl := rolladenCmdStop_ctl p
  have hfields : (rolladenCmdStop p).laufzeit = (stopEndlage p).laufzeit ∧
      (rolladenCmdStop p).sollLaufzeit = -1 ∧
      (rolladenCmdStop p).kalibrieren = (stopEndlage p).kalibrieren := by
    unfold rolladenCmdStop
    dsimp only
    refine ⟨?_, rfl, ?_⟩
    · split <;> rfl
    · split <;> rfl
  unfold DeviceDataRolladen.fahrt
  rw [hfields.1, hfields.2.1, hfields.2.2, hctl, hlauf, hkal]
  rfl

theorem setSollLaufzeit_fahrt {d : Dir} (h : ¬ SollReached p d) :
    (setSollLaufzeit p d).2.fahrt =
      p.fahrt.ziel p.config d (decide (p.config.maxRekalib.toNat ≤ p.summeLaufzeit)) := by
  rw [setSollLaufzeit_not_reached p h]
  unfold Fahrt.ziel
  dsimp only
  by_cases hsumme : p.config.maxRekalib.toNat ≤ p.summeLaufzeit
  · rw [if_pos hsumme, decide_eq_true hsumme, if_pos rfl, prepareCalibration_fahrt]
    rfl
  · rw [if_neg hsumme, decide_eq_false hsumme, if_neg Bool.false_ne_true]
    rfl

theorem rolladenCmdDrive_fahrt {q : DeviceDataRolladen} {d : Dir}
    (hq : q.ctl = { p.ctl with sollDir := d }) :
    (rolladenCmdDrive q).fahrt = ⟨q.laufzeit, q.sollLaufzeit, q.kalibrieren, p.ctl.drive d⟩ := by
  have hctl := rolladenCmdDrive_ctl p hq
  have hfields : (rolladenCmdDrive q).laufzeit = q.laufzeit ∧
      (rolladenCmdDrive q).sollLaufzeit = q.sollLaufzeit ∧
      (rolladenCmdDrive q).kalibrieren = q.kalibrieren := by
    unfold rolladenCmdDrive
    dsimp only
    split
    · exact ⟨rfl, rfl, rfl⟩
    · exact ⟨rfl, rfl, rfl⟩
  unfold DeviceDataRolladen.fahrt
  rw [hfields.1, hfields.2.1, hfields.2.2, hctl]

/-! ### One tick -/

/-- A button has been held for a second. -/
def DeviceDataRolladen.gedrueckt (p : DeviceDataRolladen) : Bool := p.longPressedCounter = 0

theorem changeDir_longPressed_fahrt :
    (changeDir (longPressed p)).fahrt =
      if p.gedrueckt then p.fahrt.prepare p.config else p.fahrt := by
  rw [(changeDir_frame _).1]
  unfold longPressed DeviceDataRolladen.gedrueckt
  by_cases hpos : p.longPressedCounter > 0
  · have hne : p.longPressedCounter ≠ 0 := by omega
    simp [hpos, hne]
    rfl
  · by_cases hzero : p.longPressedCounter = 0
    · simp only [hzero, gt_iff_lt, Int.lt_irrefl, if_false, if_true, decide_true]
      exact prepareCalibration_fahrt p
    · simp [hpos, hzero]

theorem fahren_fahrt : (fahren p).fahrt = p.fahrt.fahren := by
  have hdir : p.fahrt.ctl.dir = p.dir := rfl
  unfold fahren Fahrt.fahren
  rw [hdir]
  split <;> rfl

theorem sollErreicht_fahren : sollErreicht (fahren p) = true ↔ p.fahrt.fahren.Erreicht := by
  have hdir : p.fahrt.fahren.ctl.dir = (fahren p).dir := by rw [← fahren_fahrt]; rfl
  have hlauf : p.fahrt.fahren.laufzeit = (fahren p).laufzeit := by rw [← fahren_fahrt]; rfl
  have hs : p.fahrt.fahren.soll = (fahren p).sollLaufzeit := by rw [← fahren_fahrt]; rfl
  unfold sollErreicht Fahrt.Erreicht
  rw [hdir, hlauf, hs]
  split
  · exact decide_eq_true_iff
  · exact decide_eq_true_iff

theorem endlagePruefung_fahrt (selfaddr : UInt16) :
    (endlagePruefung selfaddr p).1.fahrt = p.fahrt.pruefung p.config := by
  have hsoll := sollErreicht_fahren p
  unfold endlagePruefung Fahrt.pruefung
  by_cases hfaehrt : p.power = true ∧ p.sollPower = true
  · rw [if_pos hfaehrt, if_pos (show p.fahrt.Faehrt from hfaehrt)]
    dsimp only
    by_cases hreached : sollErreicht (fahren p) = true
    · rw [if_pos hreached, if_pos (hsoll.mp hreached), ← fahren_fahrt,
        ← (fahren_frame p).1]
      exact rolladenCmdStop_fahrt (fahren p)
    · rw [if_neg hreached, if_neg (fun h => hreached (hsoll.mpr h)), ← fahren_fahrt]
      rfl
  · rw [if_neg hfaehrt, if_neg (show ¬ p.fahrt.Faehrt from hfaehrt)]

theorem relaisExecution_fahrt :
    (relaisExecution (relaisBlocking p)).1.fahrt =
      ⟨p.laufzeit, p.sollLaufzeit, p.kalibrieren, p.ctl.relays⟩ := by
  have hctl : (relaisExecution (relaisBlocking p)).1.ctl = p.ctl.relays := by
    rw [(relaisExecution_eq _).1, relaisBlocking_ctl]
    rfl
  obtain ⟨_, _, hbl, hbs, hbk⟩ := relaisBlocking_frame p
  obtain ⟨_, _, hel, hes, hek⟩ := relaisExecution_frame (relaisBlocking p)
  unfold DeviceDataRolladen.fahrt
  rw [hctl, hel, hes, hek, hbl, hbs, hbk]

/-- **Every tick is one step of the drive.** -/
theorem timerHandler_fahrt (selfaddr : UInt16) :
    (rolladenTimerHandler selfaddr p 10).dev.fahrt = p.fahrt.tick p.config p.gedrueckt := by
  have hlong := changeDir_longPressed_fahrt p
  have hcheck := endlagePruefung_fahrt (changeDir (longPressed p)) selfaddr
  rw [hlong, changeDir_longPressed_config] at hcheck
  have hrelays := relaisExecution_fahrt
    (endlagePruefung selfaddr (changeDir (longPressed p))).1
  unfold Fahrt.tick
  dsimp only
  rw [← hcheck, timerHandler_dev]
  dsimp only
  split
  · exact hrelays
  · exact hrelays

/-! ### One frame -/

/-- The shutter does not block the frame. -/
structure Obeyed (p : DeviceDataRolladen) (f : CanixFrame) : Prop where
  group : isGroupInRolladen p (f.byte 2) = true
  mute : p.mute = false
  free : p.blockingTimer = 0

/-- A position in percent. -/
def PercentOrder (f : CanixFrame) : Prop :=
  f.byte 1 = hcanHesRolladenPositionSet ∧ f.byte 3 ≠ 200 ∧ f.byte 3 ≠ 201 ∧ f.byte 3 ≠ 202 ∧
    f.byte 3 ≠ 222

/-- A button of the two-button mode, or its end of the shutter. -/
def ButtonOrder (f : CanixFrame) (d : Dir) : Prop :=
  f.byte 1 = hcanHesRolladenPositionSet ∧
    ((f.byte 3 = 200 ∧ d = .ab) ∨ (f.byte 3 = 201 ∧ d = .auf))

/-- The frame stops the shutter. -/
def Halts (p : DeviceDataRolladen) (f : CanixFrame) : Prop :=
  (isGroupInRolladen p (f.byte 2) = true ∧ f.byte 1 = hcanHesRolladenPositionSet ∧
      f.byte 3 = 202) ∨
    (Obeyed p f ∧
      (((∃ d, ButtonOrder f d) ∧ (p.power = true ∨ p.sollPower = true)) ∨
        (f.byte 1 = hcanHesTasterDown ∧ p.power = true)))

/-- The frame takes the target away and changes nothing else. -/
def LosesTarget (p : DeviceDataRolladen) (f : CanixFrame) : Prop :=
  Obeyed p f ∧
    ((PercentOrder f ∧
        (p.power = true ∨ p.sollPower = true ∨ prozentSoll p (f.byte 3) = p.laufzeit)) ∨
      (p.power = false ∧ p.sollPower = false ∧ ∃ d, ButtonOrder f d ∧ SollReached p d) ∨
      (p.power = false ∧ f.byte 1 = hcanHesTasterDown ∧ SollReached p p.lastDir))

/-- The frame is an order to the end `d`, which is not reached yet. -/
def EndOrder (p : DeviceDataRolladen) (f : CanixFrame) (d : Dir) : Prop :=
  Addressed p f ∧ ¬ SollReached p d ∧
    ((ButtonOrder f d ∧ p.sollPower = false) ∨
      (f.byte 1 = hcanHesTasterDown ∧ p.lastDir = d))

/-- The frame is an order to a position in percent, in the direction `d`. -/
def PercentDrive (p : DeviceDataRolladen) (f : CanixFrame) (d : Dir) : Prop :=
  Addressed p f ∧ PercentOrder f ∧ p.sollPower = false ∧
    ((d = .ab ∧ prozentSoll p (f.byte 3) < p.laufzeit) ∨
      (d = .auf ∧ p.laufzeit < prozentSoll p (f.byte 3)))

/-- What an order to the end `d` makes of the drive, before the relays are told. -/
def DeviceDataRolladen.ziel (p : DeviceDataRolladen) (d : Dir) : Fahrt :=
  p.fahrt.ziel p.config d (decide (p.config.maxRekalib.toNat ≤ p.summeLaufzeit))

/-- What a frame can do to a drive. -/
inductive FrameEffect (p : DeviceDataRolladen) (f : CanixFrame) : Fahrt → Prop
  | keep : FrameEffect p f p.fahrt
  | halt : Halts p f → FrameEffect p f (p.fahrt.stop p.config)
  | lose : LosesTarget p f → FrameEffect p f ⟨p.laufzeit, -1, p.kalibrieren, p.ctl⟩
  | order (d : Dir) : EndOrder p f d →
      FrameEffect p f ⟨p.laufzeit, (p.ziel d).soll, (p.ziel d).kalibrieren, p.ctl.drive d⟩
  | percent (d : Dir) : PercentDrive p f d →
      FrameEffect p f ⟨p.laufzeit, prozentSoll p (f.byte 3), false, p.ctl.drive d⟩
  | preset : HitsSentinel p f →
      FrameEffect p f ⟨p.laufzeit, -1, (p.ziel .ab).kalibrieren, p.ctl.preset⟩
  | define : isGroupInRolladen p (f.byte 2) = true →
      f.byte 1 = hcanHesRolladenDefinePosition →
      FrameEffect p f ⟨(definePosition p (f.byte 3)).laufzeit, p.sollLaufzeit, p.kalibrieren, p.ctl⟩

theorem ziel_laufzeit (d : Dir) : (p.ziel d).laufzeit = p.laufzeit := by
  unfold DeviceDataRolladen.ziel Fahrt.ziel
  dsimp only
  split
  · unfold Fahrt.prepare
    split <;> rfl
  · rfl

/-- An order to an end, with the drive it gives. -/
theorem setSollLaufzeit_fields {d : Dir} (h : ¬ SollReached p d) :
    (setSollLaufzeit p d).2.laufzeit = p.laufzeit ∧
      (setSollLaufzeit p d).2.sollLaufzeit = (p.ziel d).soll ∧
      (setSollLaufzeit p d).2.kalibrieren = (p.ziel d).kalibrieren := by
  have hziel : (setSollLaufzeit p d).2.fahrt = p.ziel d := setSollLaufzeit_fahrt p h
  have hlauf := ziel_laufzeit p d
  rw [← hziel] at hlauf ⊢
  exact ⟨hlauf, rfl, rfl⟩

theorem tasterSet_effect {f : CanixFrame} {d : Dir} (hb : ButtonOrder f d)
    (hgroup : isGroupInRolladen p (f.byte 2) = true) :
    FrameEffect p f (tasterSet selfaddr p d).1.fahrt := by
  unfold tasterSet
  split
  · exact .keep
  · rename_i hfree
    rw [not_or, Bool.not_eq_true, not_not] at hfree
    have hobeyed : Obeyed p f := ⟨hgroup, hfree.1, hfree.2⟩
    split
    · rename_i hpower
      rw [rolladenCmdStop_fahrt]
      exact .halt (.inr ⟨hobeyed, .inl ⟨⟨d, hb⟩, hpower⟩⟩)
    · rename_i hpower
      rw [not_or, Bool.not_eq_true, Bool.not_eq_true] at hpower
      by_cases hr : SollReached p d
      · rw [setSollLaufzeit_reached p hr]
        exact .lose ⟨hobeyed, .inr (.inl ⟨hpower.1, hpower.2, d, hb, hr⟩)⟩
      · have hctl := setSollLaufzeit_ctl p hr
        have htrue : (setSollLaufzeit p d).1 = true := by rw [setSollLaufzeit_not_reached p hr]
        obtain ⟨hlauf, hsoll, hkal⟩ := setSollLaufzeit_fields p hr
        have hdrive : (rolladenCmdDrive
            { (setSollLaufzeit p d).2 with longPressedCounter := 10 }).fahrt =
              ⟨(setSollLaufzeit p d).2.laufzeit, (setSollLaufzeit p d).2.sollLaufzeit,
                (setSollLaufzeit p d).2.kalibrieren, p.ctl.drive d⟩ :=
          rolladenCmdDrive_fahrt p hctl
        dsimp only
        rw [htrue, if_pos rfl]
        show FrameEffect p f (rolladenCmdDrive _).fahrt
        rw [hdrive, hlauf, hsoll, hkal]
        exact .order d ⟨⟨hgroup, hfree.1, hfree.2, hpower.1⟩, hr, .inl ⟨hb, hpower.2⟩⟩

theorem prozentSet_effect {f : CanixFrame} (hp : PercentOrder f)
    (hgroup : isGroupInRolladen p (f.byte 2) = true) :
    FrameEffect p f (prozentSet p (f.byte 3)).fahrt := by
  unfold prozentSet
  split
  · exact .keep
  · rename_i hfree
    rw [not_or, Bool.not_eq_true, not_not] at hfree
    dsimp only
    split
    · rename_i hgo
      exact .lose ⟨⟨hgroup, hfree.1, hfree.2⟩, .inl ⟨hp, hgo⟩⟩
    · rename_i hgo
      rw [not_or, not_or, Bool.not_eq_true, Bool.not_eq_true] at hgo
      obtain ⟨hpower, hsp, hne⟩ := hgo
      have haddr : Addressed p f := ⟨hgroup, hfree.1, hfree.2, hpower⟩
      by_cases hlt : prozentSoll p (f.byte 3) < p.laufzeit
      · rw [rolladenCmdDrive_fahrt p (d := .ab) (by simp [hlt, DeviceDataRolladen.ctl])]
        exact .percent .ab ⟨haddr, hp, hsp, .inl ⟨rfl, hlt⟩⟩
      · rw [rolladenCmdDrive_fahrt p (d := .auf) (by simp [hlt, DeviceDataRolladen.ctl])]
        exact .percent .auf ⟨haddr, hp, hsp, .inr ⟨rfl, by omega⟩⟩

theorem positionSet_effect {f : CanixFrame} (hcmd : f.byte 1 = hcanHesRolladenPositionSet)
    (hgroup : isGroupInRolladen p (f.byte 2) = true) :
    FrameEffect p f (positionSet selfaddr p (f.byte 3)).1.fahrt := by
  unfold positionSet
  split
  · rename_i h200
    exact tasterSet_effect p ⟨hcmd, .inl ⟨h200, rfl⟩⟩ hgroup
  · split
    · rename_i h201
      exact tasterSet_effect p ⟨hcmd, .inr ⟨h201, rfl⟩⟩ hgroup
    · split
      · rename_i h202
        have hstop := rolladenCmdStop_fahrt { p with longPressedCounter := -1 }
        dsimp only
        rw [hstop]
        exact .halt (.inl ⟨hgroup, hcmd, h202⟩)
      · split
        · exact .keep
        · exact prozentSet_effect p ⟨hcmd, ‹_›, ‹_›, ‹_›, ‹_›⟩ hgroup

theorem tasterDown_effect {f : CanixFrame} (hcmd : f.byte 1 = hcanHesTasterDown)
    (hgroup : isGroupInRolladen p (f.byte 2) = true) :
    FrameEffect p f (tasterDown selfaddr p).1.fahrt := by
  unfold tasterDown
  split
  · exact .keep
  · rename_i hfree
    rw [not_or, Bool.not_eq_true, not_not] at hfree
    have hobeyed : Obeyed p f := ⟨hgroup, hfree.1, hfree.2⟩
    split
    · rename_i hpower
      have hstop := rolladenCmdStop_fahrt { p with changeDirCounter := 7 }
      dsimp only
      rw [hstop]
      exact .halt (.inr ⟨hobeyed, .inr ⟨hcmd, hpower⟩⟩)
    · rename_i hpower
      rw [Bool.not_eq_true] at hpower
      have haddr : Addressed p f := ⟨hgroup, hfree.1, hfree.2, hpower⟩
      by_cases hr : SollReached p p.lastDir
      · rw [setSollLaufzeit_reached p hr]
        exact .lose ⟨hobeyed, .inr (.inr ⟨hpower, hcmd, hr⟩)⟩
      · have hctl := setSollLaufzeit_ctl p hr
        obtain ⟨hlauf, hsollf, hkalf⟩ := setSollLaufzeit_fields p hr
        dsimp only
        by_cases hsoll : (setSollLaufzeit p p.lastDir).2.sollLaufzeit = -1
        · -- the calibration target is taken for "no target"
          obtain ⟨hdir, hsumme, hkal, hzeit⟩ := setSollLaufzeit_sentinel p hr hsoll
          have hpos : 0 < p.laufzeit := by
            by_contra hle
            exact hr (.inl ⟨hdir, by omega⟩)
          have hfahrt : (setSollLaufzeit p p.lastDir).2.fahrt =
              ⟨p.laufzeit, -1, (p.ziel .ab).kalibrieren, p.ctl.preset⟩ := by
            unfold DeviceDataRolladen.fahrt
            rw [hlauf, hsoll, hkalf, hctl, hdir]
            rfl
          rw [if_neg (not_not.mpr hsoll)]
          dsimp only
          rw [hfahrt]
          exact .preset ⟨haddr, hcmd, hdir, hpos, hsumme, hkal, hzeit⟩
        · rw [if_pos hsoll]
          dsimp only
          rw [rolladenCmdDrive_fahrt p hctl, hlauf, hsollf, hkalf]
          exact .order p.lastDir ⟨haddr, hr, .inr ⟨hcmd, rfl⟩⟩

theorem rolladenSwitch_effect (f : CanixFrame) :
    FrameEffect p f (rolladenSwitch selfaddr p f).1.fahrt := by
  unfold rolladenSwitch
  dsimp only
  split
  · rename_i hcmd
    split
    · rename_i hgroup
      exact positionSet_effect p hcmd hgroup
    · exact .keep
  · split
    · rename_i hcmd
      split
      · rename_i hgroup
        exact tasterDown_effect p hcmd hgroup
      · exact .keep
    · split
      · split
        · exact .keep
        · exact .keep
      · split
        · rename_i hcmd
          split
          · rename_i hgroup
            exact .define hgroup hcmd
          · exact .keep
        · -- the other commands only answer
          split
          · exact .keep
          · split
            · exact .keep
            · split
              · exact .keep
              · exact .keep

/-- **Every frame has one of the effects on the drive.** -/
theorem canCallback_effect (selfaddr : UInt16) (f : CanixFrame) :
    FrameEffect p f (rolladenCanCallback selfaddr p f).1.fahrt := by
  have hmute : (rolladenCanCallback selfaddr p f).1.fahrt =
      (rolladenSwitch selfaddr p f).1.fahrt := by
    unfold rolladenCanCallback
    dsimp only
    split
    · split
      · rfl
      · split
        · rfl
        · rfl
    · rfl
  rw [hmute]
  exact rolladenSwitch_effect p f

/-- `ROLLADEN_POSITION_SET` is handled by the switch alone. -/
theorem canCallback_positionSet (selfaddr : UInt16) {f : CanixFrame}
    (hcmd : f.byte 1 = hcanHesRolladenPositionSet)
    (hgroup : isGroupInRolladen p (f.byte 2) = true) :
    (rolladenCanCallback selfaddr p f).1 = (positionSet selfaddr p (f.byte 3)).1 := by
  unfold rolladenCanCallback rolladenSwitch
  rw [hcmd, hgroup]
  simp [hcanHesRolladenPositionSet, hcanHesMuteOff, hcanHesMuteOn]

/-- An order in percent that is not blocked. -/
theorem canCallback_percent (selfaddr : UInt16) {f : CanixFrame} (hp : PercentOrder f)
    (ho : Obeyed p f) :
    (rolladenCanCallback selfaddr p f).1 =
      if p.power ∨ p.sollPower ∨ prozentSoll p (f.byte 3) = p.laufzeit then
        { p with sollLaufzeit := -1 }
      else
        rolladenCmdDrive { p with
          sollLaufzeit := prozentSoll p (f.byte 3)
          kalibrieren := false
          sollDir := if prozentSoll p (f.byte 3) < p.laufzeit then .ab else .auf } := by
  obtain ⟨hcmd, h200, h201, h202, h222⟩ := hp
  rw [canCallback_positionSet p selfaddr hcmd ho.group]
  unfold positionSet
  rw [if_neg h200, if_neg h201, if_neg h202, if_neg h222]
  unfold prozentSet
  rw [if_neg (by simp [ho.mute, ho.free])]

end

/-- `ROLLADEN_POSITION_SET` -/
def positionOrder (src : UInt16) (group order : UInt8) : CanixFrame where
  src := src
  dst := hcanMulticastInfo
  proto := hcanProtoSfp
  size := 4
  data := payload [hcanSrvHes, hcanHesRolladenPositionSet, group, order]

/-- A shutter on button 1 as it comes out of the box. -/
def neuerRolladen (laufzeit : UInt16) (feature : UInt8) : DeviceDataRolladen where
  config :=
    { portPower := 0, portDir := 1, taster := 1, feature := feature, laufzeit := laufzeit
      maxRekalib := 0, gruppe0 := 255, gruppe1 := 255, gruppe2 := 255, gruppe3 := 255
      mute := 255 }
  mute := false
  kalibrieren := false
  summeLaufzeit := 0
  laufzeit := 0
  sollLaufzeit := 0
  stoppuhr := 0
  dir := .auf
  sollDir := .auf
  exeDir := false
  lastDir := .auf
  sollPower := false
  power := false
  exePower := false
  blockingTimer := 0
  changeDirCounter := 0
  longPressedCounter := 0

/-! ## The direction of a drive -/

namespace RelayCtl

variable (c : RelayCtl)

/-- Where the shutter goes while the order to drive lasts: as the direction
relay stands, or as it will stand when the power goes on. -/
def heading : Dir := if c.power then c.dir else if c.exeDir then c.sollDir else c.dir

theorem heading_on {c : RelayCtl} (h : c.power = true) : c.heading = c.dir := by
  unfold heading
  rw [if_pos h]

theorem heading_off {c : RelayCtl} (h : c.power = false) :
    c.heading = if c.exeDir then c.sollDir else c.dir := by
  unfold heading
  rw [h, if_neg Bool.false_ne_true]

theorem heading_drive_ab {c : RelayCtl} (h : c.power = false) : (c.drive .ab).heading = .ab := by
  rw [heading_off ((drive_power c .ab).trans h)]
  rfl

/-- An order up goes up if the direction relay is up, or is about to move. -/
theorem heading_drive_auf {c : RelayCtl} (h : c.power = false)
    (hup : c.dir = .auf ∨ c.exeDir = true) : (c.drive .auf).heading = .auf := by
  rw [heading_off ((drive_power c .auf).trans h)]
  show (if c.exeDir = true then Dir.auf else c.dir) = .auf
  rcases hup with hdir | hexe
  · rw [hdir]
    split
    · rfl
    · rfl
  · rw [if_pos hexe]

theorem drive_sollPower (d : Dir) : (c.drive d).sollPower = true := by
  unfold drive
  dsimp only
  split
  · rfl
  · rfl

theorem drive_sollDir (d : Dir) : (c.drive d).sollDir = d := by
  unfold drive
  dsimp only
  split
  · rename_i h
    exact h.symm ▸ rfl
  · rfl

/-- After a tick the direction relay stands as the drive goes. -/
theorem relays_heading : c.relays.heading = c.relays.dir := by
  unfold heading
  split
  · rfl
  · split
    · exact (relays_exeDir ‹_›).symm
    · rfl

/-- **A tick does not turn a drive round.** -/
theorem heading_relays {c : RelayCtl} (hc : PowerSafe c) (hsp : c.sollPower = true) :
    c.relays.heading = c.heading := by
  have hexe : c.blocking.exeDir = c.exeDir := by
    unfold blocking
    split
    · rfl
    · rfl
  rw [relays_heading]
  cases hp : c.power with
  | true => rw [hc.relays_dir hp, heading_on hp]
  | false =>
      rw [relays_dir, hexe, c.blocking_dir, c.blocking_sollDir, heading_off hp]
      by_cases he : c.exeDir = true
      · by_cases hd : c.dir = c.sollDir
        · simp [he, hd]
        · simp [he, hd]
      · simp [he]

/-- The blocking timer counts down. -/
theorem relays_blockingTimer : c.relays.blockingTimer = c.blockingTimer - 1 := by
  have hblock : c.blocking.blockingTimer = c.blockingTimer - 1 := by
    unfold blocking
    split
    · rfl
    · split
      · show c.blockingTimer = c.blockingTimer - 1
        omega
      · show c.blockingTimer = c.blockingTimer - 1
        omega
  rw [← hblock]
  unfold relays executePower executeDir
  split
  · split
    · rfl
    · rfl
  · split
    · rfl
    · rfl

/-- Without an order to drive the power goes off and stays off. -/
theorem relays_rest {c : RelayCtl} (hp : c.power = false) (hsp : c.sollPower = false) :
    c.relays.power = false := (PowerSafe.of_off hp).relays_halt hsp

/-- A drive keeps the power. -/
theorem relays_drive {c : RelayCtl} (hp : c.power = true) (hsp : c.sollPower = true) :
    c.relays.power = true := by
  rw [relays_power, c.blocking_power, c.blocking_sollPower, hp, hsp]
  simp

end RelayCtl

end OpenHcan.Rolladen
