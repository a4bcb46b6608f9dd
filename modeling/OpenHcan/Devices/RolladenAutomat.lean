import OpenHcan.Devices.Powerport
import OpenHcan.Devices.Zeitzone
import OpenHcan.Lib.History

/-!
# RolladenAutomat — a shutter by the time of day (`devices/rolladenAutomat.c`)

An automat drives its shutters in its time zones, at most once in each. With a
brightness sensor it waits until it has been bright, or dark, for 15 minutes.
The seconds are counted in the zones only: outside of a zone, and while the
automation is off, the counter keeps its value.
-/

namespace OpenHcan.RolladenAutomat

open Lib Powerport Zeitzone

set_option maxRecDepth 100000

def hcanHesHelligkeitsInfo : UInt8 := 71

/-- `HELLIGKEIT_IM_TOLERANZBEREICH`, `HELLIGKEITS_…_ERKANNT` -/
inductive Schwellwert
  | imToleranzbereich
  | unterschreitungErkannt
  | ueberschreitungErkannt
deriving DecidableEq, Repr

/-- `eds_rolladenAutomat_block_t`, without the features, which are not used. -/
structure EdsRolladenAutomatBlock where
  rolladenGruppe : UInt8
  rolladenSollPosition : UInt8
  automatikEinSchalterGruppe : UInt8
  zeitzone0Id : UInt8
  zeitzone1Id : UInt8
  helligkeitsGruppe : UInt8
  helligkeitsschwelle : UInt16
  helligkeitswertueberschreitung : UInt8
deriving DecidableEq, Repr

/-- `zeitzonen_ids` -/
def EdsRolladenAutomatBlock.zeitzonenIds (c : EdsRolladenAutomatBlock) : List UInt8 :=
  [c.zeitzone0Id, c.zeitzone1Id]

/-- `device_data_rolladenAutomat` -/
structure DeviceDataRolladenAutomat where
  config : EdsRolladenAutomatBlock
  brightness : UInt16
  msgIstVersendet : Bool
  automatikEin : Bool
  schwellwertErkanntSecsCnt : UInt16
  schwellwertErkannt : Schwellwert
deriving DecidableEq, Repr

/-- What the functions of an automat read and write: its data and the frames the
board has sent. -/
structure AutomatIO where
  dev : DeviceDataRolladenAutomat
  sent : List CanixFrame
deriving DecidableEq, Repr

/-- `rolladenAutomat_init` -/
def rolladenAutomatInit (p : DeviceDataRolladenAutomat) : DeviceDataRolladenAutomat :=
  { p with
    brightness := 65535
    msgIstVersendet := false
    automatikEin := true
    schwellwertErkanntSecsCnt := 0
    schwellwertErkannt := .imToleranzbereich }

/-- The position order: the ends are ordered so that the shutter can calibrate itself. -/
def auftrag (selfaddr : UInt16) (c : EdsRolladenAutomatBlock) : CanixFrame :=
  let sollPos := c.rolladenSollPosition
  let pos := if sollPos ≥ 100 then 201 else if sollPos ≤ 0 then 200 else sollPos
  sfpFrame selfaddr hcanMulticastControl
    [hcanSrvHes, hcanHesRolladenPositionSet, c.rolladenGruppe, pos]

/-- `sendMessage` -/
def sendMessage (selfaddr : UInt16) (s : AutomatIO) : AutomatIO :=
  if s.dev.msgIstVersendet then s
  else ⟨{ s.dev with msgIstVersendet := true }, s.sent ++ [auftrag selfaddr s.dev.config]⟩

/-- The brightness is over the threshold, or below it. -/
def EdsRolladenAutomatBlock.erkannt (c : EdsRolladenAutomatBlock) (brightness : UInt16) : Bool :=
  if c.helligkeitswertueberschreitung ≠ 0 then brightness > c.helligkeitsschwelle
  else brightness < c.helligkeitsschwelle

/-- A second is counted, or the counter starts again. -/
def zaehlen (p : DeviceDataRolladenAutomat) : DeviceDataRolladenAutomat :=
  if p.config.erkannt p.brightness then
    { p with
      schwellwertErkanntSecsCnt := p.schwellwertErkanntSecsCnt + 1
      schwellwertErkannt :=
        if p.config.helligkeitswertueberschreitung ≠ 0 then .ueberschreitungErkannt
        else .unterschreitungErkannt }
  else
    { p with schwellwertErkanntSecsCnt := 0, schwellwertErkannt := .imToleranzbereich }

/-- The loop over the zones, up to the first one that matches. -/
def zeitzonen (selfaddr : UInt16) (found : Bool) (s : AutomatIO) : AutomatIO :=
  if found then
    if s.dev.config.helligkeitsGruppe = 255 then sendMessage selfaddr s
    else if s.dev.brightness ≠ 65535 then { s with dev := zaehlen s.dev }
    else s
  else { s with dev := { s.dev with msgIstVersendet := false } }

/-- `if (SchwellwertErkanntSecsCnt == 900) …` -/
def nachFuenfzehnMinuten (selfaddr : UInt16) (s : AutomatIO) : AutomatIO :=
  if s.dev.schwellwertErkanntSecsCnt = 900 then
    let s := sendMessage selfaddr s
    { s with dev := { s.dev with schwellwertErkanntSecsCnt := 0 } }
  else s

/-- `rolladenAutomat_timer_handler` -/
def rolladenAutomatTimerHandler (selfaddr : UInt16) (u : Uhrzeit) (s : AutomatIO)
    (zyklus : UInt8) : AutomatIO :=
  if zyklus ≠ 1 then s
  else if s.dev.automatikEin = false then s
  else
    nachFuenfzehnMinuten selfaddr (zeitzonen selfaddr (zeitzoneMatch u s.dev.config.zeitzonenIds) s)

/-- `rolladenAutomat_can_callback` -/
def rolladenAutomatCanCallback (frame : CanixFrame) (p : DeviceDataRolladenAutomat) :
    DeviceDataRolladenAutomat :=
  if frame.byte 1 = hcanHesSchalterOn then
    if frame.byte 2 = p.config.automatikEinSchalterGruppe then { p with automatikEin := true }
    else p
  else if frame.byte 1 = hcanHesSchalterOff then
    if frame.byte 2 = p.config.automatikEinSchalterGruppe then { p with automatikEin := false }
    else p
  else if frame.byte 1 = hcanHesHelligkeitsInfo then
    if p.config.helligkeitsGruppe ≠ 255 ∧ frame.byte 2 = p.config.helligkeitsGruppe then
      { p with brightness := UInt16.ofNat (word (frame.byte 3) (frame.byte 4)) }
    else p
  else p

/-! ## The machine -/

/-- A HES frame, or a call of the one-second timer handler at a time of day. -/
inductive AutomatEvent
  | frame (f : CanixFrame)
  | tick (u : Uhrzeit)
deriving DecidableEq, Repr

def automatStep (selfaddr : UInt16) (s : AutomatIO) : AutomatEvent → AutomatIO
  | .frame f => { s with dev := rolladenAutomatCanCallback f s.dev }
  | .tick u => rolladenAutomatTimerHandler selfaddr u s 1

/-- An automat after a start of the board. -/
def automatStart (c : EdsRolladenAutomatBlock) : AutomatIO :=
  ⟨rolladenAutomatInit ⟨c, 0, false, false, 0, .imToleranzbereich⟩, []⟩

/-! ## The past -/

section

variable (c : EdsRolladenAutomatBlock)

/-- The automation is on: no switch has been heard of, or the last one was on. -/
def automatikAn : List AutomatEvent → Bool
  | [] => true
  | .tick _ :: past => automatikAn past
  | .frame f :: past =>
      if f.byte 2 = c.automatikEinSchalterGruppe ∧ f.byte 1 = hcanHesSchalterOn then true
      else if f.byte 2 = c.automatikEinSchalterGruppe ∧ f.byte 1 = hcanHesSchalterOff then false
      else automatikAn past

/-- The last brightness. The value 65535 stands for none. -/
def helligkeit : List AutomatEvent → UInt16
  | [] => 65535
  | .tick _ :: past => helligkeit past
  | .frame f :: past =>
      if f.byte 2 = c.helligkeitsGruppe ∧ f.byte 1 = hcanHesHelligkeitsInfo then
        UInt16.ofNat (word (f.byte 3) (f.byte 4))
      else helligkeit past

/-- A second in a zone, with the automation on and a brightness. -/
def Aktiv (past : List AutomatEvent) (u : Uhrzeit) : Prop :=
  automatikAn c past = true ∧ zeitzoneMatch u c.zeitzonenIds = true ∧ helligkeit c past ≠ 65535

instance (past : List AutomatEvent) (u : Uhrzeit) : Decidable (Aktiv c past u) := by
  unfold Aktiv
  infer_instance

/-- A second in a zone, with the automation on, in which the brightness condition holds. -/
def Erfuellt (past : List AutomatEvent) (u : Uhrzeit) : Prop :=
  Aktiv c past u ∧ c.erkannt (helligkeit c past) = true

instance (past : List AutomatEvent) (u : Uhrzeit) : Decidable (Erfuellt c past u) := by
  unfold Erfuellt
  infer_instance

/-- For how many seconds, up to now, the brightness condition has held. -/
def folge : List AutomatEvent → Nat
  | [] => 0
  | .frame _ :: past => folge past
  | .tick u :: past => if Erfuellt c past u then folge past + 1 else 0

/-- An event sends nothing, or it is the last of 900 seconds in which the brightness
condition has held, and the order is sent. -/
def AuftragRichtig (selfaddr : UInt16) (k : AutomatIO × List AutomatEvent) (e : AutomatEvent) :
    Prop :=
  (automatStep selfaddr k.1 e).sent = k.1.sent ∨
    ∃ u, e = .tick u ∧ Erfuellt c k.2 u ∧ 900 ≤ folge c (e :: k.2) ∧
      (automatStep selfaddr k.1 e).sent = k.1.sent ++ [auftrag selfaddr c]

/-- All orders of a run are right, and where all ticks are in a zone, there is at most one. -/
def Beauftragt (selfaddr : UInt16) (es : List AutomatEvent) : Prop :=
  Guarded (recorded (automatStep selfaddr)) (AuftragRichtig c selfaddr) (automatStart c, []) es ∧
    ∀ pre mid post, es = pre ++ mid ++ post →
      (∀ u, .tick u ∈ mid → zeitzoneMatch u c.zeitzonenIds = true) →
      (run (automatStep selfaddr) (automatStart c) (pre ++ mid)).sent.length ≤
        (run (automatStep selfaddr) (automatStart c) pre).sent.length + 1

/-- While the counter is running, every second is in a zone, with the automation on and a
brightness. -/
def LaeuftDurch (k : AutomatIO × List AutomatEvent) : AutomatEvent → Prop
  | .frame _ => True
  | .tick u => k.1.dev.schwellwertErkanntSecsCnt ≠ 0 → Aktiv c k.2 u

instance (k : AutomatIO × List AutomatEvent) (e : AutomatEvent) : Decidable (LaeuftDurch c k e) :=
  match e with
  | .frame _ => .isTrue trivial
  | .tick _ => inferInstanceAs (Decidable (_ → _))

end

/-! ## One second -/

section

variable {selfaddr : UInt16} {c : EdsRolladenAutomatBlock} {s s' : AutomatIO} {u : Uhrzeit}

/-- What the data know of a second in a zone. -/
def AktivJetzt (u : Uhrzeit) (p : DeviceDataRolladenAutomat) : Prop :=
  p.automatikEin = true ∧ zeitzoneMatch u p.config.zeitzonenIds = true ∧ p.brightness ≠ 65535

/-- A tick leaves the configuration, the switch and the brightness alone. -/
structure TickBleibt (s s' : AutomatIO) : Prop where
  config : s'.dev.config = s.dev.config
  automatikEin : s'.dev.automatikEin = s.dev.automatikEin
  brightness : s'.dev.brightness = s.dev.brightness

/-- What a tick does to the counter, the latch and the frames of an automat with a sensor. -/
inductive TickEffect (selfaddr : UInt16) (u : Uhrzeit) (s s' : AutomatIO) : Prop
  | pause : ¬ AktivJetzt u s.dev →
      s'.dev.schwellwertErkanntSecsCnt = s.dev.schwellwertErkanntSecsCnt → s'.sent = s.sent →
      (s'.dev.msgIstVersendet = s.dev.msgIstVersendet ∨
        zeitzoneMatch u s.dev.config.zeitzonenIds = false ∧ s'.dev.msgIstVersendet = false) →
      TickEffect selfaddr u s s'
  | neustart : AktivJetzt u s.dev → s.dev.config.erkannt s.dev.brightness = false →
      s'.dev.schwellwertErkanntSecsCnt = 0 → s'.sent = s.sent →
      s'.dev.msgIstVersendet = s.dev.msgIstVersendet → TickEffect selfaddr u s s'
  | gezaehlt : AktivJetzt u s.dev → s.dev.config.erkannt s.dev.brightness = true →
      s'.dev.schwellwertErkanntSecsCnt.toNat = s.dev.schwellwertErkanntSecsCnt.toNat + 1 →
      s'.dev.schwellwertErkanntSecsCnt.toNat < 900 → s'.sent = s.sent →
      s'.dev.msgIstVersendet = s.dev.msgIstVersendet → TickEffect selfaddr u s s'
  | voll : AktivJetzt u s.dev → s.dev.config.erkannt s.dev.brightness = true →
      s.dev.schwellwertErkanntSecsCnt.toNat = 899 → s'.dev.schwellwertErkanntSecsCnt = 0 →
      s'.dev.msgIstVersendet = true →
      (s.dev.msgIstVersendet = true ∧ s'.sent = s.sent ∨
        s.dev.msgIstVersendet = false ∧ s'.sent = s.sent ++ [auftrag selfaddr s.dev.config]) →
      TickEffect selfaddr u s s'

/-- The check of the 900 seconds does nothing before. -/
theorem nachFuenfzehnMinuten_of_lt (h : s.dev.schwellwertErkanntSecsCnt.toNat < 900) :
    nachFuenfzehnMinuten selfaddr s = s := by
  unfold nachFuenfzehnMinuten
  rw [if_neg]
  intro heq
  rw [heq] at h
  exact absurd h (by decide)

/-- A counter that is full: the order is sent if the latch is open. -/
theorem nachFuenfzehnMinuten_voll (selfaddr : UInt16)
    (h : s.dev.schwellwertErkanntSecsCnt = 900) :
    TickBleibt s (nachFuenfzehnMinuten selfaddr s) ∧
      (nachFuenfzehnMinuten selfaddr s).dev.schwellwertErkanntSecsCnt = 0 ∧
      (nachFuenfzehnMinuten selfaddr s).dev.msgIstVersendet = true ∧
      (s.dev.msgIstVersendet = true ∧ (nachFuenfzehnMinuten selfaddr s).sent = s.sent ∨
        s.dev.msgIstVersendet = false ∧
          (nachFuenfzehnMinuten selfaddr s).sent = s.sent ++ [auftrag selfaddr s.dev.config]) := by
  unfold nachFuenfzehnMinuten sendMessage
  rw [if_pos h]
  cases hmsg : s.dev.msgIstVersendet with
  | true =>
      rw [if_pos rfl]
      exact ⟨⟨rfl, rfl, rfl⟩, rfl, hmsg, Or.inl ⟨rfl, rfl⟩⟩
  | false =>
      rw [if_neg Bool.false_ne_true]
      exact ⟨⟨rfl, rfl, rfl⟩, rfl, rfl, Or.inr ⟨rfl, rfl⟩⟩

theorem zeitzonen_aktiv (h : AktivJetzt u s.dev) (hsensor : s.dev.config.helligkeitsGruppe ≠ 255) :
    zeitzonen selfaddr (zeitzoneMatch u s.dev.config.zeitzonenIds) s = ⟨zaehlen s.dev, s.sent⟩ := by
  unfold zeitzonen
  rw [if_pos h.2.1, if_neg hsensor, if_pos h.2.2]

/-- A second that counts. -/
theorem zaehlen_effect (selfaddr : UInt16) (haktiv : AktivJetzt u s.dev)
    (hcnt : s.dev.schwellwertErkanntSecsCnt.toNat < 900) :
    TickBleibt s (nachFuenfzehnMinuten selfaddr ⟨zaehlen s.dev, s.sent⟩) ∧
      TickEffect selfaddr u s (nachFuenfzehnMinuten selfaddr ⟨zaehlen s.dev, s.sent⟩) := by
  unfold zaehlen
  cases herkannt : s.dev.config.erkannt s.dev.brightness with
  | false =>
      rw [if_neg Bool.false_ne_true,
        nachFuenfzehnMinuten_of_lt (by show (0 : UInt16).toNat < 900; decide)]
      exact ⟨⟨rfl, rfl, rfl⟩, TickEffect.neustart haktiv herkannt rfl rfl rfl⟩
  | true =>
      rw [if_pos rfl]
      have hnext : (s.dev.schwellwertErkanntSecsCnt + 1).toNat =
          s.dev.schwellwertErkanntSecsCnt.toNat + 1 := by
        rw [UInt16.toNat_add]
        show (s.dev.schwellwertErkanntSecsCnt.toNat + 1) % 65536 = _
        omega
      by_cases hvoll : s.dev.schwellwertErkanntSecsCnt.toNat = 899
      · have h900 : s.dev.schwellwertErkanntSecsCnt + 1 = 900 := by
          apply UInt16.toNat_inj.mp
          rw [hnext, hvoll]
          rfl
        obtain ⟨hbleibt, hzero, hmsg, hsent⟩ := nachFuenfzehnMinuten_voll
          selfaddr (s := ⟨⟨s.dev.config, s.dev.brightness, s.dev.msgIstVersendet,
            s.dev.automatikEin, s.dev.schwellwertErkanntSecsCnt + 1,
            if s.dev.config.helligkeitswertueberschreitung ≠ 0 then .ueberschreitungErkannt
            else .unterschreitungErkannt⟩, s.sent⟩) h900
        exact ⟨⟨hbleibt.config, hbleibt.automatikEin, hbleibt.brightness⟩,
          TickEffect.voll haktiv herkannt hvoll hzero hmsg hsent⟩
      · have hlt : (s.dev.schwellwertErkanntSecsCnt + 1).toNat < 900 := by omega
        rw [nachFuenfzehnMinuten_of_lt hlt]
        exact ⟨⟨rfl, rfl, rfl⟩, TickEffect.gezaehlt haktiv herkannt hnext hlt rfl rfl⟩

/-- **One second** of an automat with a sensor. -/
theorem tick_effect (selfaddr : UInt16) (u : Uhrzeit)
    (hsensor : s.dev.config.helligkeitsGruppe ≠ 255)
    (hcnt : s.dev.schwellwertErkanntSecsCnt.toNat < 900) :
    TickBleibt s (rolladenAutomatTimerHandler selfaddr u s 1) ∧
      TickEffect selfaddr u s (rolladenAutomatTimerHandler selfaddr u s 1) := by
  unfold rolladenAutomatTimerHandler
  rw [if_neg (by decide)]
  by_cases haus : s.dev.automatikEin = false
  · rw [if_pos haus]
    refine ⟨⟨rfl, rfl, rfl⟩, TickEffect.pause ?_ rfl rfl (Or.inl rfl)⟩
    intro h
    rw [h.1] at haus
    exact Bool.noConfusion haus
  · have hein : s.dev.automatikEin = true := by simpa using haus
    rw [if_neg haus]
    by_cases hzone : zeitzoneMatch u s.dev.config.zeitzonenIds = true
    · by_cases hhell : s.dev.brightness = 65535
      · -- in a zone, but nothing is known of the brightness
        have hsame : zeitzonen selfaddr (zeitzoneMatch u s.dev.config.zeitzonenIds) s = s := by
          unfold zeitzonen
          rw [if_pos hzone, if_neg hsensor, if_neg (not_not_intro hhell)]
        rw [hsame, nachFuenfzehnMinuten_of_lt hcnt]
        exact ⟨⟨rfl, rfl, rfl⟩, TickEffect.pause (fun h => h.2.2 hhell) rfl rfl (Or.inl rfl)⟩
      · have haktiv : AktivJetzt u s.dev := ⟨hein, hzone, hhell⟩
        rw [zeitzonen_aktiv haktiv hsensor]
        exact zaehlen_effect selfaddr haktiv hcnt
    · -- outside of the zones the latch opens and the counter stays
      have hopen : zeitzonen selfaddr (zeitzoneMatch u s.dev.config.zeitzonenIds) s =
          ⟨⟨s.dev.config, s.dev.brightness, false, s.dev.automatikEin,
            s.dev.schwellwertErkanntSecsCnt, s.dev.schwellwertErkannt⟩, s.sent⟩ := by
        unfold zeitzonen
        rw [if_neg hzone]
      rw [hopen, nachFuenfzehnMinuten_of_lt (by exact hcnt)]
      exact ⟨⟨rfl, rfl, rfl⟩,
        TickEffect.pause (fun h => hzone h.2.1) rfl rfl
          (Or.inr ⟨Bool.eq_false_iff.mpr hzone, rfl⟩)⟩

/-! ## Whole runs -/

/-- What every run keeps: the data are what the past says, and the counter is below 900. -/
structure AutomatInv (c : EdsRolladenAutomatBlock) (k : AutomatIO × List AutomatEvent) : Prop where
  config : k.1.dev.config = c
  automatikEin : k.1.dev.automatikEin = automatikAn c k.2
  brightness : k.1.dev.brightness = helligkeit c k.2
  counter : k.1.dev.schwellwertErkanntSecsCnt.toNat < 900

variable {k : AutomatIO × List AutomatEvent} {e : AutomatEvent}

theorem automatInv_start : AutomatInv c (automatStart c, []) :=
  ⟨rfl, rfl, rfl, by show (0 : UInt16).toNat < 900; decide⟩

theorem AutomatInv.aktiv_iff (h : AutomatInv c k) : AktivJetzt u k.1.dev ↔ Aktiv c k.2 u := by
  unfold AktivJetzt Aktiv
  rw [h.config, h.automatikEin, h.brightness]

theorem AutomatInv.erfuellt (h : AutomatInv c k) (haktiv : AktivJetzt u k.1.dev)
    (herkannt : k.1.dev.config.erkannt k.1.dev.brightness = true) : Erfuellt c k.2 u := by
  rw [h.config, h.brightness] at herkannt
  exact ⟨h.aktiv_iff.mp haktiv, herkannt⟩

/-- What a frame does to the data is what it does to the past. -/
theorem AutomatInv.frame (h : AutomatInv c k) (hsensor : c.helligkeitsGruppe ≠ 255)
    (f : CanixFrame) : AutomatInv c (recorded (automatStep selfaddr) k (.frame f)) := by
  obtain ⟨⟨p, sent⟩, past⟩ := k
  obtain ⟨rfl, hein, hhell, hcnt⟩ := h
  have hein' : p.automatikEin = automatikAn p.config past := hein
  have hhell' : p.brightness = helligkeit p.config past := hhell
  show AutomatInv p.config (⟨rolladenAutomatCanCallback f p, sent⟩, .frame f :: past)
  unfold rolladenAutomatCanCallback
  by_cases hon : f.byte 1 = hcanHesSchalterOn
  · have hinfo : f.byte 1 ≠ hcanHesHelligkeitsInfo := by rw [hon]; decide
    have hoff : f.byte 1 ≠ hcanHesSchalterOff := by rw [hon]; decide
    rw [if_pos hon]
    split
    · rename_i hgruppe
      exact ⟨rfl, by simp [automatikAn, hon, hgruppe], by simp [helligkeit, hinfo, hhell'], hcnt⟩
    · rename_i hgruppe
      exact ⟨rfl, by simp [automatikAn, hgruppe, hein'], by simp [helligkeit, hinfo, hhell'], hcnt⟩
  · rw [if_neg hon]
    by_cases hoff : f.byte 1 = hcanHesSchalterOff
    · have hinfo : f.byte 1 ≠ hcanHesHelligkeitsInfo := by rw [hoff]; decide
      have hne : hcanHesSchalterOff ≠ hcanHesSchalterOn := by decide
      rw [if_pos hoff]
      split
      · rename_i hgruppe
        exact ⟨rfl, by simp [automatikAn, hne, hoff, hgruppe], by simp [helligkeit, hinfo, hhell'],
          hcnt⟩
      · rename_i hgruppe
        exact ⟨rfl, by simp [automatikAn, hgruppe, hein'], by simp [helligkeit, hinfo, hhell'],
          hcnt⟩
    · rw [if_neg hoff]
      split
      · rename_i hinfo
        split
        · rename_i hgruppe
          exact ⟨rfl, by simp [automatikAn, hon, hoff, hein'],
            by simp [helligkeit, hinfo, hgruppe.2], hcnt⟩
        · rename_i hgruppe
          have hother : f.byte 2 ≠ p.config.helligkeitsGruppe := fun heq => hgruppe ⟨hsensor, heq⟩
          exact ⟨rfl, by simp [automatikAn, hon, hoff, hein'], by simp [helligkeit, hother, hhell'],
            hcnt⟩
      · rename_i hinfo
        exact ⟨rfl, by simp [automatikAn, hon, hoff, hein'], by simp [helligkeit, hinfo, hhell'],
          hcnt⟩

/-- A frame leaves the counter and the latch alone. -/
theorem rolladenAutomatCanCallback_bleibt (f : CanixFrame) (p : DeviceDataRolladenAutomat) :
    (rolladenAutomatCanCallback f p).schwellwertErkanntSecsCnt = p.schwellwertErkanntSecsCnt ∧
      (rolladenAutomatCanCallback f p).msgIstVersendet = p.msgIstVersendet := by
  unfold rolladenAutomatCanCallback
  repeat' split
  all_goals exact ⟨rfl, rfl⟩

/-- A tick leaves the counter below 900. -/
theorem TickEffect.counter_lt (h : TickEffect selfaddr u s s')
    (hcnt : s.dev.schwellwertErkanntSecsCnt.toNat < 900) :
    s'.dev.schwellwertErkanntSecsCnt.toNat < 900 := by
  cases h with
  | pause _ hsame => rwa [hsame]
  | neustart _ _ hzero =>
      rw [hzero]
      decide
  | gezaehlt _ _ _ hlt => exact hlt
  | voll _ _ _ hzero =>
      rw [hzero]
      decide

/-- **The invariant step** of an automat with a sensor. -/
theorem AutomatInv.step (h : AutomatInv c k) (hsensor : c.helligkeitsGruppe ≠ 255)
    (e : AutomatEvent) : AutomatInv c (recorded (automatStep selfaddr) k e) := by
  cases e with
  | frame f => exact h.frame hsensor f
  | tick u =>
      obtain ⟨hbleibt, heffect⟩ := tick_effect selfaddr u
        (h.config.symm ▸ hsensor) h.counter
      exact ⟨hbleibt.config.trans h.config, hbleibt.automatikEin.trans h.automatikEin,
        hbleibt.brightness.trans h.brightness, heffect.counter_lt h.counter⟩

/-- The counter knows no more seconds than there were in a row. -/
def Durchgehend (c : EdsRolladenAutomatBlock) (k : AutomatIO × List AutomatEvent) : Prop :=
  AutomatInv c k ∧ k.1.dev.schwellwertErkanntSecsCnt.toNat ≤ folge c k.2

theorem Durchgehend.step (h : Durchgehend c k) (hsensor : c.helligkeitsGruppe ≠ 255)
    (hguard : LaeuftDurch c k e) : Durchgehend c (recorded (automatStep selfaddr) k e) := by
  refine ⟨h.1.step hsensor e, ?_⟩
  obtain ⟨hinv, hcount⟩ := h
  cases e with
  | frame f =>
      show (rolladenAutomatCanCallback f k.1.dev).schwellwertErkanntSecsCnt.toNat ≤ folge c k.2
      rw [(rolladenAutomatCanCallback_bleibt f k.1.dev).1]
      exact hcount
  | tick u =>
      obtain ⟨-, heffect⟩ := tick_effect selfaddr u
        (hinv.config.symm ▸ hsensor) hinv.counter
      show (rolladenAutomatTimerHandler selfaddr u k.1 1).dev.schwellwertErkanntSecsCnt.toNat ≤
        if Erfuellt c k.2 u then folge c k.2 + 1 else 0
      cases heffect with
      | pause hnicht hsame =>
          have hzero : k.1.dev.schwellwertErkanntSecsCnt = 0 := by
            by_contra hne
            exact hnicht (hinv.aktiv_iff.mpr (hguard hne))
          rw [hsame, hzero]
          exact Nat.zero_le _
      | neustart _ _ hzero =>
          rw [hzero]
          exact Nat.zero_le _
      | gezaehlt haktiv herkannt hnext =>
          rw [if_pos (hinv.erfuellt haktiv herkannt), hnext]
          exact Nat.succ_le_succ hcount
      | voll _ _ _ hzero =>
          rw [hzero]
          exact Nat.zero_le _

/-- An order comes after 900 seconds in a row. -/
theorem Durchgehend.auftragRichtig (h : Durchgehend c k) (hsensor : c.helligkeitsGruppe ≠ 255) :
    AuftragRichtig c selfaddr k e := by
  obtain ⟨hinv, hcount⟩ := h
  cases e with
  | frame f => exact Or.inl rfl
  | tick u =>
      obtain ⟨-, heffect⟩ := tick_effect selfaddr u
        (hinv.config.symm ▸ hsensor) hinv.counter
      cases heffect with
      | pause _ _ hsent => exact Or.inl hsent
      | neustart _ _ _ hsent => exact Or.inl hsent
      | gezaehlt _ _ _ _ hsent => exact Or.inl hsent
      | voll haktiv herkannt hfull _ _ hsent =>
          rcases hsent with ⟨-, hsent⟩ | ⟨-, hsent⟩
          · exact Or.inl hsent
          · have herf := hinv.erfuellt haktiv herkannt
            refine Or.inr ⟨u, rfl, herf, ?_, ?_⟩
            · show 900 ≤ if Erfuellt c k.2 u then folge c k.2 + 1 else 0
              rw [if_pos herf]
              omega
            · rw [← hinv.config]
              exact hsent

/-- Every order of a run is right whose counter runs through. -/
theorem auftragRichtig_run (hsensor : c.helligkeitsGruppe ≠ 255) (es : List AutomatEvent)
    (hguard : Guarded (recorded (automatStep selfaddr)) (LaeuftDurch c) (automatStart c, []) es) :
    Guarded (recorded (automatStep selfaddr)) (AuftragRichtig c selfaddr) (automatStart c, []) es :=
  guarded_of_guarded (fun _ _ hg hk => Durchgehend.step hk hsensor hg)
    (fun _ _ _ hk => Durchgehend.auftragRichtig hk hsensor) es _ ⟨automatInv_start, Nat.zero_le _⟩
    hguard

/-! ## One order in a zone -/

/-- Since the `n` orders sent at first, nothing has been sent, or one order, and the
latch is closed. -/
def HoechstensEiner (c : EdsRolladenAutomatBlock) (n : Nat) (k : AutomatIO × List AutomatEvent) :
    Prop :=
  AutomatInv c k ∧
    (k.1.sent.length = n ∨ k.1.dev.msgIstVersendet = true ∧ k.1.sent.length = n + 1)

/-- A tick in a zone does not open the latch. -/
theorem HoechstensEiner.step {n : Nat} (h : HoechstensEiner c n k)
    (hsensor : c.helligkeitsGruppe ≠ 255)
    (hzone : ∀ u, e = .tick u → zeitzoneMatch u c.zeitzonenIds = true) :
    HoechstensEiner c n (recorded (automatStep selfaddr) k e) := by
  refine ⟨h.1.step hsensor e, ?_⟩
  obtain ⟨hinv, hcount⟩ := h
  cases e with
  | frame f =>
      show k.1.sent.length = n ∨
        (rolladenAutomatCanCallback f k.1.dev).msgIstVersendet = true ∧ k.1.sent.length = n + 1
      rw [(rolladenAutomatCanCallback_bleibt f k.1.dev).2]
      exact hcount
  | tick u =>
      obtain ⟨-, heffect⟩ := tick_effect selfaddr u
        (hinv.config.symm ▸ hsensor) hinv.counter
      show (rolladenAutomatTimerHandler selfaddr u k.1 1).sent.length = n ∨
        (rolladenAutomatTimerHandler selfaddr u k.1 1).dev.msgIstVersendet = true ∧
          (rolladenAutomatTimerHandler selfaddr u k.1 1).sent.length = n + 1
      cases heffect with
      | pause _ _ hsent hmsg =>
          rcases hmsg with hmsg | ⟨hnone, -⟩
          · rw [hsent, hmsg]
            exact hcount
          · rw [hinv.config, hzone u rfl] at hnone
            exact Bool.noConfusion hnone
      | neustart _ _ _ hsent hmsg =>
          rw [hsent, hmsg]
          exact hcount
      | gezaehlt _ _ _ _ hsent hmsg =>
          rw [hsent, hmsg]
          exact hcount
      | voll _ _ _ _ hmsg hsent =>
          rcases hsent with ⟨-, hsent⟩ | ⟨hopen, hsent⟩
          · rw [hsent, hmsg]
            exact hcount.imp id fun hsecond => ⟨rfl, hsecond.2⟩
          · -- the latch was open, so nothing had been sent
            rcases hcount with hnone | ⟨hclosed, -⟩
            · rw [hsent, List.length_append, hnone]
              exact Or.inr ⟨hmsg, rfl⟩
            · rw [hopen] at hclosed
              exact Bool.noConfusion hclosed

/-- Between two ticks outside of the zones at most one order is sent. -/
theorem hoechstensEiner_run (hsensor : c.helligkeitsGruppe ≠ 255) (pre mid : List AutomatEvent)
    (hzone : ∀ u, .tick u ∈ mid → zeitzoneMatch u c.zeitzonenIds = true) :
    (run (automatStep selfaddr) (automatStart c) (pre ++ mid)).sent.length ≤
      (run (automatStep selfaddr) (automatStart c) pre).sent.length + 1 := by
  have hpre : AutomatInv c (run (recorded (automatStep selfaddr)) (automatStart c, []) pre) :=
    run_invariant (fun k e hk => hk.step hsensor e) pre _ automatInv_start
  have hall : Guarded (recorded (automatStep selfaddr))
      (fun _ e => ∀ u, e = .tick u → zeitzoneMatch u c.zeitzonenIds = true)
      (run (recorded (automatStep selfaddr)) (automatStart c, []) pre) mid :=
    guarded_of_forall mid _ fun e he u hu => hzone u (hu ▸ he)
  have hmid := run_guarded
    (I := HoechstensEiner c (run (automatStep selfaddr) (automatStart c) pre).sent.length)
    (fun k e hg hk => hk.step hsensor hg) mid _ hall ⟨hpre, Or.inl (by rw [run_recorded])⟩
  rw [run_recorded, run_recorded, ← run_append] at hmid
  rcases hmid.2 with hnone | ⟨-, hone⟩
  · exact Nat.le_succ_of_le (Nat.le_of_eq hnone)
  · exact Nat.le_of_eq hone

/-! ## Many seconds -/

theorem TickBleibt.trans {s'' : AutomatIO} (h : TickBleibt s s') (h' : TickBleibt s' s'') :
    TickBleibt s s'' :=
  ⟨h'.config.trans h.config, h'.automatikEin.trans h.automatikEin,
    h'.brightness.trans h.brightness⟩

theorem TickBleibt.aktivJetzt_iff (h : TickBleibt s s') :
    AktivJetzt u s'.dev ↔ AktivJetzt u s.dev := by
  unfold AktivJetzt
  rw [h.config, h.automatikEin, h.brightness]

theorem TickBleibt.erkannt (h : TickBleibt s s') :
    s'.dev.config.erkannt s'.dev.brightness = s.dev.config.erkannt s.dev.brightness := by
  rw [h.config, h.brightness]

/-- Seconds in which the brightness condition holds are counted. -/
theorem gezaehlt_run (selfaddr : UInt16) (hsensor : s.dev.config.helligkeitsGruppe ≠ 255)
    (haktiv : AktivJetzt u s.dev) (herkannt : s.dev.config.erkannt s.dev.brightness = true) (n : Nat)
    (hcnt : s.dev.schwellwertErkanntSecsCnt.toNat + n < 900) :
    TickBleibt s (run (automatStep selfaddr) s (List.replicate n (.tick u))) ∧
      (run (automatStep selfaddr) s
          (List.replicate n (.tick u))).dev.schwellwertErkanntSecsCnt.toNat =
        s.dev.schwellwertErkanntSecsCnt.toNat + n ∧
      (run (automatStep selfaddr) s (List.replicate n (.tick u))).dev.msgIstVersendet =
        s.dev.msgIstVersendet := by
  induction n generalizing s with
  | zero => exact ⟨⟨rfl, rfl, rfl⟩, rfl, rfl⟩
  | succ n ih =>
      obtain ⟨hbleibt, heffect⟩ : TickBleibt s (automatStep selfaddr s (.tick u)) ∧
          TickEffect selfaddr u s (automatStep selfaddr s (.tick u)) :=
        tick_effect selfaddr _ hsensor (by omega)
      rw [List.replicate_succ, run_cons]
      cases heffect with
      | pause hnicht => exact absurd haktiv hnicht
      | neustart _ hnicht =>
          rw [herkannt] at hnicht
          exact Bool.noConfusion hnicht
      | voll _ _ hfull => omega
      | gezaehlt _ _ hnext _ _ hmsg =>
          obtain ⟨hbleibt', hcount, hmsg'⟩ := ih (s := automatStep selfaddr s (.tick u))
            (hbleibt.config.symm ▸ hsensor) (hbleibt.aktivJetzt_iff.mpr haktiv)
            (hbleibt.erkannt.trans herkannt) (by rw [hnext]; omega)
          refine ⟨hbleibt.trans hbleibt', ?_, hmsg'.trans hmsg⟩
          rw [hcount, hnext]
          omega

/-- A pause does not clear the counter: after 899 seconds and a pause the next second
sends the order. -/
theorem sent_nach_pause {u' : Uhrzeit} (selfaddr : UInt16)
    (hsensor : s.dev.config.helligkeitsGruppe ≠ 255)
    (hcnt : s.dev.schwellwertErkanntSecsCnt.toNat = 899) (hmsg : s.dev.msgIstVersendet = false)
    (hpause : ¬ AktivJetzt u' s.dev) (haktiv : AktivJetzt u s.dev)
    (herkannt : s.dev.config.erkannt s.dev.brightness = true) :
    (automatStep selfaddr (automatStep selfaddr s (.tick u')) (.tick u)).sent =
      (automatStep selfaddr s (.tick u')).sent ++ [auftrag selfaddr s.dev.config] := by
  obtain ⟨hbleibt, heffect⟩ : TickBleibt s (automatStep selfaddr s (.tick u')) ∧
      TickEffect selfaddr u' s (automatStep selfaddr s (.tick u')) :=
    tick_effect selfaddr _ hsensor (by omega)
  have hnoch : (automatStep selfaddr s (.tick u')).dev.schwellwertErkanntSecsCnt.toNat = 899 ∧
      (automatStep selfaddr s (.tick u')).dev.msgIstVersendet = false := by
    cases heffect with
    | pause _ hsame _ hopen =>
        exact ⟨hsame ▸ hcnt, hopen.elim (fun h => h.trans hmsg) And.right⟩
    | neustart h => exact absurd h hpause
    | gezaehlt h => exact absurd h hpause
    | voll h => exact absurd h hpause
  generalize automatStep selfaddr s (.tick u') = t at hbleibt hnoch ⊢
  have haktiv' : AktivJetzt u t.dev := hbleibt.aktivJetzt_iff.mpr haktiv
  have herkannt' : t.dev.config.erkannt t.dev.brightness = true := hbleibt.erkannt.trans herkannt
  obtain ⟨-, heffect'⟩ : TickBleibt t (automatStep selfaddr t (.tick u)) ∧
      TickEffect selfaddr u t (automatStep selfaddr t (.tick u)) :=
    tick_effect selfaddr u (hbleibt.config.symm ▸ hsensor) (by omega)
  cases heffect' with
  | pause hnicht => exact absurd haktiv' hnicht
  | neustart _ hnicht =>
      rw [herkannt'] at hnicht
      exact Bool.noConfusion hnicht
  | gezaehlt _ _ hnext hlt => omega
  | voll _ _ _ _ _ hsent =>
      rcases hsent with ⟨hclosed, -⟩ | ⟨-, hsent⟩
      · rw [hnoch.2] at hclosed
        exact Bool.noConfusion hclosed
      · rw [hsent, hbleibt.config]

/-- A counter does not stop in a row of seconds in a zone. -/
theorem laeuftDurch_replicate (n : Nat) (haktiv : Aktiv c k.2 u) :
    Guarded (recorded (automatStep selfaddr)) (LaeuftDurch c) k (List.replicate n (.tick u)) :=
  guarded_of_guarded (G := fun _ e => e = .tick u) (I := fun k => Aktiv c k.2 u)
    (fun _ _ he h => he ▸ h) (fun _ _ he h => he ▸ fun _ => h) _ k haktiv
    (guarded_of_forall _ _ fun _ he => List.eq_of_mem_replicate he)

end

/-- **The automat with a brightness sensor**: an order comes only after 900 seconds in a row
in which the brightness condition has held, and at most one between two ticks outside of the
zones, if the counter runs only through seconds in a zone, with the automation on. -/
theorem rolladenAutomat_beauftragt (selfaddr : UInt16) (c : EdsRolladenAutomatBlock)
    (hsensor : c.helligkeitsGruppe ≠ 255) (es : List AutomatEvent)
    (hguard : Guarded (recorded (automatStep selfaddr)) (LaeuftDurch c) (automatStart c, []) es) :
    Beauftragt c selfaddr es :=
  ⟨auftragRichtig_run hsensor es hguard,
    fun pre mid _ _ hzone => hoechstensEiner_run hsensor pre mid hzone⟩

/-- A shutter that closes in zone 3 when it gets dark. -/
private def nachtAutomat : EdsRolladenAutomatBlock := ⟨20, 0, 60, 3, 255, 71, 100, 0⟩

private def dunkel : AutomatEvent :=
  .frame (sfpFrame 9 hcanMulticastInfo [hcanSrvHes, hcanHesHelligkeitsInfo, 71, 0, 40])

private def uhrzeit (hour : UInt8) : Uhrzeit :=
  ⟨[some ⟨3, 0xff, 17, 0, 22, 0⟩], ⟨2, hour, 30, 0, 5, 11, 24⟩⟩

/-- A dark evening: the order is right. -/
theorem rolladenAutomat_beauftragt_abends :
    Beauftragt nachtAutomat 7 ([dunkel] ++ List.replicate 1000 (.tick (uhrzeit 18))) := by
  refine rolladenAutomat_beauftragt 7 nachtAutomat (by decide) _ ?_
  rw [guarded_append]
  exact ⟨⟨trivial, trivial⟩, laeuftDurch_replicate 1000 (by decide)⟩

/-- It has been dark for 899 seconds when the zone ends. Of the next evening one second
is enough. -/
theorem nachtAutomat_not_beauftragt :
    ¬ Beauftragt nachtAutomat 7 ([dunkel] ++ List.replicate 899 (.tick (uhrzeit 18)) ++
      [.tick (uhrzeit 12), .tick (uhrzeit 18)]) := by
  intro hall
  have hlast := ((guarded_append _ _ _).mp hall.1).2.2.1
  rw [run_append, run_recorded, run_recorded, run_cons, run_nil] at hlast
  -- 899 seconds are counted
  obtain ⟨hbleibt, hcount, hmsg⟩ := gezaehlt_run 7 (u := uhrzeit 18)
    (s := automatStep 7 (automatStart nachtAutomat) dunkel) (by decide)
    ⟨rfl, by decide, by decide⟩ (by decide) 899 (by decide)
  generalize run (automatStep 7) (automatStep 7 (automatStart nachtAutomat) dunkel)
    (List.replicate 899 (.tick (uhrzeit 18))) = s at hbleibt hcount hmsg hlast
  have hmittags : ¬ AktivJetzt (uhrzeit 12) s.dev := fun h =>
    absurd (hbleibt.aktivJetzt_iff.mp h).2.1 (by decide)
  have habends : AktivJetzt (uhrzeit 18) s.dev :=
    hbleibt.aktivJetzt_iff.mpr ⟨rfl, by decide, by decide⟩
  have hsent := sent_nach_pause 7 (s := s) (by rw [hbleibt.config]; decide) hcount
    hmsg hmittags habends (hbleibt.erkannt.trans (by decide))
  rcases hlast with hsame | ⟨u, -, -, hfolge, -⟩
  · -- the order has been sent
    have hlength := congrArg List.length (hsent.symm.trans hsame)
    rw [List.length_append] at hlength
    exact absurd hlength (Nat.succ_ne_self _)
  · -- it was the first second in a row
    have hnone (past : List AutomatEvent) : folge nachtAutomat (.tick (uhrzeit 12) :: past) = 0 :=
      if_neg fun h => absurd h.1.2.1 (by decide)
    rw [recorded, folge, hnone] at hfolge
    split at hfolge
    all_goals exact absurd hfolge (by decide)

end OpenHcan.RolladenAutomat
