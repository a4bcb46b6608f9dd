import OpenHcan.Devices.RolladenAutomat
import OpenHcan.Lib.Demux

/-!
# PowerportAutomat — a light that stays off by day (`devices/powerportAutomat.c`)

An automat stands between a switch and a group of powerports. It passes on what the
switch says, but while it is on and the last report of the brightness is above the
threshold it does not pass on that the switch was turned on.
`helligkeitswertueberschreitung` is not read.
-/

namespace OpenHcan.PowerportAutomat

open Lib Powerport
open RolladenAutomat (hcanHesHelligkeitsInfo)

/-- `eds_powerportAutomat_block_t`, without the fields that are not used. -/
structure EdsPowerportAutomatBlock where
  powerportGruppe : UInt8
  stellerGruppe : UInt8
  automatikEinSchalterGruppe : UInt8
  helligkeitsGruppe : UInt8
  helligkeitsschwelle : UInt16
deriving DecidableEq, Repr

/-- `device_data_powerportAutomat`, without `msgIstVersendet`, which is not used. -/
structure DeviceDataPowerportAutomat where
  config : EdsPowerportAutomatBlock
  brightness : UInt16
  automatikEin : Bool
deriving DecidableEq, Repr

/-- `powerportAutomat_init` -/
def powerportAutomatInit (c : EdsPowerportAutomatBlock) : DeviceDataPowerportAutomat :=
  ⟨c, 65535, true⟩

/-- POWER_GROUP_ON or POWER_GROUP_OFF for the powerports -/
def stellbefehl (selfaddr : UInt16) (powerportGruppe active : UInt8) : CanixFrame :=
  sfpFrame selfaddr hcanMulticastControl [hcanSrvHes, active, powerportGruppe]

/-- `sendMessage`, and the frames it sends. -/
def sendMessage (selfaddr : UInt16) (p : DeviceDataPowerportAutomat) (active : UInt8) :
    List CanixFrame :=
  if p.automatikEin = true ∧ hcanHesPowerGroupOn = active ∧ p.brightness ≠ 65535 ∧
      p.brightness > p.config.helligkeitsschwelle then []
  else [stellbefehl selfaddr p.config.powerportGruppe active]

/-- `(gruppe != 255) && (frame->data[2] == gruppe)` -/
def Fuer (gruppe : UInt8) (frame : CanixFrame) : Prop := gruppe ≠ 255 ∧ frame.byte 2 = gruppe

instance (gruppe : UInt8) (frame : CanixFrame) : Decidable (Fuer gruppe frame) :=
  inferInstanceAs (Decidable (_ ∧ _))

/-- `powerportAutomat_can_callback`, and the frames it sends. -/
def powerportAutomatCanCallback (selfaddr : UInt16) (p : DeviceDataPowerportAutomat)
    (frame : CanixFrame) : DeviceDataPowerportAutomat × List CanixFrame :=
  if frame.byte 1 = hcanHesSchalterOn then
    if Fuer p.config.automatikEinSchalterGruppe frame then ({ p with automatikEin := true }, [])
    else if Fuer p.config.stellerGruppe frame then (p, sendMessage selfaddr p hcanHesPowerGroupOn)
    else (p, [])
  else if frame.byte 1 = hcanHesSchalterOff then
    if Fuer p.config.automatikEinSchalterGruppe frame then ({ p with automatikEin := false }, [])
    else if Fuer p.config.stellerGruppe frame then (p, sendMessage selfaddr p hcanHesPowerGroupOff)
    else (p, [])
  else if frame.byte 1 = hcanHesHelligkeitsInfo then
    if Fuer p.config.helligkeitsGruppe frame then
      ({ p with brightness := UInt16.ofNat (word (frame.byte 3) (frame.byte 4)) }, [])
    else (p, [])
  else (p, [])

/-! ## What an automat is for -/

section

variable (c : EdsPowerportAutomatBlock)

/-- The automation is on: its switch has not been heard of, or was turned on last.
The newest frame is the first. -/
def automatikAn : List CanixFrame → Bool
  | [] => true
  | f :: past =>
      if Fuer c.automatikEinSchalterGruppe f ∧ f.byte 1 = hcanHesSchalterOn then true
      else if Fuer c.automatikEinSchalterGruppe f ∧ f.byte 1 = hcanHesSchalterOff then false
      else automatikAn past

/-- The brightness that was reported last. -/
def gemeldet : List CanixFrame → Option UInt16
  | [] => none
  | f :: past =>
      if Fuer c.helligkeitsGruppe f ∧ f.byte 1 = hcanHesHelligkeitsInfo then
        some (UInt16.ofNat (word (f.byte 3) (f.byte 4)))
      else gemeldet past

/-- The automation is on, and it was too bright when it was last heard of. 65535 is no
brightness. -/
def ZuHell (past : List CanixFrame) : Prop :=
  automatikAn c past = true ∧
    ∃ v ∈ gemeldet c past, v ≠ 65535 ∧ v > c.helligkeitsschwelle

instance (past : List CanixFrame) : Decidable (ZuHell c past) :=
  inferInstanceAs (Decidable (_ ∧ _))

/-- The frame is of the switch for the powerports. The switch of the automation goes first. -/
def VomSteller (f : CanixFrame) : Prop :=
  Fuer c.stellerGruppe f ∧ ¬ Fuer c.automatikEinSchalterGruppe f

instance (f : CanixFrame) : Decidable (VomSteller c f) := inferInstanceAs (Decidable (_ ∧ _))

/-- What is passed on: off always, on unless it is too bright. -/
def weiter (past : List CanixFrame) (f : CanixFrame) : List UInt8 :=
  if VomSteller c f ∧ f.byte 1 = hcanHesSchalterOff then [hcanHesPowerGroupOff]
  else if VomSteller c f ∧ f.byte 1 = hcanHesSchalterOn ∧ ¬ ZuHell c past then
    [hcanHesPowerGroupOn]
  else []

/-- The past grows, and what is passed on depends on it. -/
def weiterStep (past : List CanixFrame) (f : CanixFrame) : List CanixFrame × List UInt8 :=
  (f :: past, weiter c past f)

end

/-! ## An automat keeps to it -/

/-- The data of an automat are what the past says. -/
structure Weiss (c : EdsPowerportAutomatBlock) (p : DeviceDataPowerportAutomat)
    (past : List CanixFrame) : Prop where
  config : p.config = c
  automatikEin : p.automatikEin = automatikAn c past
  brightness : p.brightness = (gemeldet c past).getD 65535

variable {c : EdsPowerportAutomatBlock} {p : DeviceDataPowerportAutomat} {past : List CanixFrame}

/-- The condition of `sendMessage` is that it is too bright. -/
theorem Weiss.zuHell_iff (h : Weiss c p past) :
    (p.automatikEin = true ∧ p.brightness ≠ 65535 ∧ p.brightness > p.config.helligkeitsschwelle) ↔
      ZuHell c past := by
  rw [h.config, h.automatikEin, h.brightness, ZuHell]
  cases gemeldet c past with
  | none => simp
  | some v => simp

theorem Weiss.sendMessage_on (h : Weiss c p past) (selfaddr : UInt16) :
    sendMessage selfaddr p hcanHesPowerGroupOn =
      (if ZuHell c past then [] else [hcanHesPowerGroupOn]).map
        (stellbefehl selfaddr c.powerportGruppe) := by
  rw [sendMessage, h.config]
  by_cases hhell : ZuHell c past
  · obtain ⟨hein, hmark, hueber⟩ := h.zuHell_iff.mpr hhell
    rw [h.config] at hueber
    rw [if_pos ⟨hein, rfl, hmark, hueber⟩, if_pos hhell, List.map_nil]
  · rw [if_neg hhell, if_neg, List.map_singleton]
    rintro ⟨hein, -, hrest⟩
    rw [← h.config] at hrest
    exact hhell (h.zuHell_iff.mp ⟨hein, hrest⟩)

/-- Off is always possible. -/
theorem sendMessage_off (selfaddr : UInt16) (p : DeviceDataPowerportAutomat) :
    sendMessage selfaddr p hcanHesPowerGroupOff =
      [stellbefehl selfaddr p.config.powerportGruppe hcanHesPowerGroupOff] := by
  rw [sendMessage, if_neg]
  rintro ⟨-, hon, -⟩
  exact absurd hon (by decide)

/-! What a frame does to the data, and what is sent, one by one. -/

theorem callback_config (selfaddr : UInt16) (p : DeviceDataPowerportAutomat) (f : CanixFrame) :
    (powerportAutomatCanCallback selfaddr p f).1.config = p.config := by
  unfold powerportAutomatCanCallback
  split_ifs
  all_goals rfl

theorem callback_automatikEin (selfaddr : UInt16) (p : DeviceDataPowerportAutomat)
    (f : CanixFrame) :
    (powerportAutomatCanCallback selfaddr p f).1.automatikEin =
      if Fuer p.config.automatikEinSchalterGruppe f ∧ f.byte 1 = hcanHesSchalterOn then true
      else if Fuer p.config.automatikEinSchalterGruppe f ∧ f.byte 1 = hcanHesSchalterOff then false
      else p.automatikEin := by
  by_cases hauto : Fuer p.config.automatikEinSchalterGruppe f
  · simp only [powerportAutomatCanCallback, hauto, if_true, true_and]
    split_ifs
    all_goals rfl
  · simp only [powerportAutomatCanCallback, hauto, if_false, false_and]
    split_ifs
    all_goals rfl

theorem callback_brightness (selfaddr : UInt16) (p : DeviceDataPowerportAutomat)
    (f : CanixFrame) :
    (powerportAutomatCanCallback selfaddr p f).1.brightness =
      if Fuer p.config.helligkeitsGruppe f ∧ f.byte 1 = hcanHesHelligkeitsInfo then
        UInt16.ofNat (word (f.byte 3) (f.byte 4))
      else p.brightness := by
  by_cases hinfo : f.byte 1 = hcanHesHelligkeitsInfo
  · have hon : hcanHesHelligkeitsInfo ≠ hcanHesSchalterOn := by decide
    have hoff : hcanHesHelligkeitsInfo ≠ hcanHesSchalterOff := by decide
    simp only [powerportAutomatCanCallback, hinfo, hon, hoff, if_false, if_true, and_true]
    split_ifs
    all_goals rfl
  · simp only [powerportAutomatCanCallback, hinfo, if_false, and_false]
    split_ifs
    all_goals rfl

theorem callback_sent (selfaddr : UInt16) (p : DeviceDataPowerportAutomat) (f : CanixFrame) :
    (powerportAutomatCanCallback selfaddr p f).2 =
      if VomSteller p.config f ∧ f.byte 1 = hcanHesSchalterOff then
        sendMessage selfaddr p hcanHesPowerGroupOff
      else if VomSteller p.config f ∧ f.byte 1 = hcanHesSchalterOn then
        sendMessage selfaddr p hcanHesPowerGroupOn
      else [] := by
  by_cases hsteller : VomSteller p.config f
  · obtain ⟨hfuer, hauto⟩ := hsteller
    by_cases hon : f.byte 1 = hcanHesSchalterOn
    · simp only [powerportAutomatCanCallback, VomSteller, hon, hfuer, hauto, if_true, if_false,
        not_false_eq_true, and_self, true_and]
      rw [if_neg (by decide)]
    · simp only [powerportAutomatCanCallback, VomSteller, hon, hfuer, hauto, if_true, if_false,
        not_false_eq_true, and_self, true_and]
      split_ifs
      all_goals rfl
  · -- a frame of the automation's switch, or of neither
    have hnicht : ¬ Fuer p.config.automatikEinSchalterGruppe f →
        ¬ Fuer p.config.stellerGruppe f := fun hauto hfuer => hsteller ⟨hfuer, hauto⟩
    simp only [powerportAutomatCanCallback, hsteller, false_and, if_false]
    by_cases hauto : Fuer p.config.automatikEinSchalterGruppe f
    · simp only [hauto, if_true]
      split_ifs
      all_goals rfl
    · simp only [hauto, hnicht hauto, if_false]
      split_ifs
      all_goals rfl

/-- **The step**: the data stay what the past says, and what is sent is what is passed on. -/
theorem weiss_step (selfaddr : UInt16) (p : DeviceDataPowerportAutomat) (past : List CanixFrame)
    (f : CanixFrame) (h : Weiss c p past) :
    Weiss c (powerportAutomatCanCallback selfaddr p f).1 (weiterStep c past f).1 ∧
      (powerportAutomatCanCallback selfaddr p f).2 =
        (weiterStep c past f).2.map (stellbefehl selfaddr c.powerportGruppe) := by
  refine ⟨⟨(callback_config selfaddr p f).trans h.config, ?_, ?_⟩, ?_⟩
  · rw [callback_automatikEin, h.config, h.automatikEin]
    rfl
  · rw [callback_brightness, h.config, h.brightness]
    simp only [weiterStep, gemeldet]
    split_ifs
    · rfl
    · rfl
  · rw [callback_sent, h.config, weiterStep, weiter, sendMessage_off, h.config]
    by_cases hoff : VomSteller c f ∧ f.byte 1 = hcanHesSchalterOff
    · rw [if_pos hoff, if_pos hoff, List.map_singleton]
    · rw [if_neg hoff, if_neg hoff, h.sendMessage_on]
      by_cases hon : VomSteller c f ∧ f.byte 1 = hcanHesSchalterOn
      · by_cases hhell : ZuHell c past
        · simp [hon, hhell]
        · simp [hon, hhell]
      · rw [if_neg hon, if_neg fun h => hon ⟨h.1, h.2.1⟩, List.map_nil]

/-- **An automat passes on what its switch says, but not that it is turned on by day**:
in every run the frames it sends are those the past allows. Off always goes. -/
theorem steller_mit_automat (selfaddr : UInt16) (c : EdsPowerportAutomatBlock)
    (fs : List CanixFrame) :
    (emit (powerportAutomatCanCallback selfaddr) (powerportAutomatInit c) fs).2 =
      (emit (weiterStep c) [] fs).2.map (stellbefehl selfaddr c.powerportGruppe) := by
  have hstart : Weiss c (powerportAutomatInit c) [] := ⟨rfl, rfl, rfl⟩
  have hrun := emit_simulates id (stellbefehl selfaddr c.powerportGruppe)
    (weiss_step (c := c) selfaddr) fs _ _ hstart
  rw [List.map_id] at hrun
  exact hrun.2

end OpenHcan.PowerportAutomat
