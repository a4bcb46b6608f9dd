import OpenHcan.Devices.Powerport
import OpenHcan.Lib.History

/-!
# Taster — a push button (`devices/taster.c`)

A button is sampled every 10 ms. It counts the samples at which it is pressed:
the count that reaches `time` sends `TASTER_DOWN`, and a release sends
`TASTER_UP` if the count was over 3. The two thresholds are not the same, and
the debouncing of one second moves only the first one.

`tasteSample` is the sample of any button; a `multitaster` samples its button
the same way.
-/

namespace OpenHcan.Taster

open Lib Powerport

set_option maxRecDepth 100000

/-- The bits of `config.feature`. -/
inductive TasterFeature
  | entprell1s
  | rolladenAuf
  | rolladenZu
  | powerportAn
  | powerportAus
deriving DecidableEq, Repr

/-- `1<<FEATURE_TASTER_…` -/
def TasterFeature.mask : TasterFeature → UInt8
  | .entprell1s => 1
  | .rolladenAuf => 2
  | .rolladenZu => 4
  | .powerportAn => 8
  | .powerportAus => 16

/-- `eds_taster_block_t` -/
structure EdsTasterBlock where
  port : UInt8
  feature : UInt8
  gruppe : UInt8
deriving DecidableEq, Repr

/-- `config.feature & (1<<FEATURE_TASTER_…)` -/
def EdsTasterBlock.has (c : EdsTasterBlock) (f : TasterFeature) : Bool := c.feature &&& f.mask ≠ 0

/-- `device_data_taster` -/
structure DeviceDataTaster where
  config : EdsTasterBlock
  pressed : UInt8
deriving DecidableEq, Repr

/-- What the functions of a button read and write: its data and the frames the
board has sent. -/
structure TasterIO where
  dev : DeviceDataTaster
  sent : List CanixFrame
deriving DecidableEq, Repr

/-! ## A sample -/

/-- The counter of the samples at which the button is pressed. -/
def zaehle (status : Bool) (pressed : UInt8) : UInt8 :=
  if status then (if pressed < 255 then pressed + 1 else pressed) else 0

/-- What a release sends: `up`, if the counter is over 3. -/
def beimLoslassen (up : Option CanixFrame) (status : Bool) (pressed : UInt8) : List CanixFrame :=
  if status = false ∧ pressed > 3 then up.toList else []

/-- What the counter sends that has reached `time`. -/
def beimDruecken (time : UInt8) (down : CanixFrame) (pressed : UInt8) : List CanixFrame :=
  if pressed = time then [down] else []

/-- What one sample sends. -/
def tasteSample (time : UInt8) (up : Option CanixFrame) (down : CanixFrame) (status : Bool)
    (pressed : UInt8) : List CanixFrame :=
  beimLoslassen up status pressed ++ beimDruecken time down (zaehle status pressed)

/-- A frame of a button. -/
def tasterFrame (selfaddr : UInt16) (cmd gruppe : UInt8) (data : List UInt8) : CanixFrame :=
  sfpFrame selfaddr hcanMulticastControl (hcanSrvHes :: cmd :: gruppe :: data)

/-! ## The button -/

section

variable (selfaddr : UInt16) (c : EdsTasterBlock)

/-- The debouncing time. -/
def EdsTasterBlock.time : UInt8 := if c.has .entprell1s then 6 else 3

/-- The frame of a release. A button that only gives edges to a powerport sends none. -/
def EdsTasterBlock.up : Option CanixFrame :=
  if c.has .rolladenZu ∨ c.has .rolladenAuf then
    some (tasterFrame selfaddr hcanHesRolladenPositionSet c.gruppe [222])
  else if ¬ (c.has .powerportAn ∨ c.has .powerportAus) then
    some (tasterFrame selfaddr hcanHesTasterUp c.gruppe [c.port])
  else none

/-- The frame of a press. -/
def EdsTasterBlock.down : CanixFrame :=
  if c.has .rolladenZu then tasterFrame selfaddr hcanHesRolladenPositionSet c.gruppe [200]
  else if c.has .rolladenAuf then tasterFrame selfaddr hcanHesRolladenPositionSet c.gruppe [201]
  else if c.has .powerportAn then tasterFrame selfaddr hcanHesPowerGroupOn c.gruppe []
  else if c.has .powerportAus then tasterFrame selfaddr hcanHesPowerGroupOff c.gruppe []
  else tasterFrame selfaddr hcanHesTasterDown c.gruppe [c.port]

end

/-- The button is pressed: `!inputport_read(1, port)`. -/
def gedrueckt (inputportRead : Bool → UInt8 → UInt8) (port : UInt8) : Bool :=
  inputportRead true port = 0

/-- `taster_timer_handler` -/
def tasterTimerHandler (selfaddr : UInt16) (inputportRead : Bool → UInt8 → UInt8) (s : TasterIO)
    (zyklus : UInt8) : TasterIO :=
  if zyklus ≠ 100 then s
  else
    let status := gedrueckt inputportRead s.dev.config.port
    ⟨{ s.dev with pressed := zaehle status s.dev.pressed },
      s.sent ++ tasteSample s.dev.config.time (s.dev.config.up selfaddr)
        (s.dev.config.down selfaddr) status s.dev.pressed⟩

/-- A button after a start of the board: `devices_init` has cleared the memory. -/
def tasterStart (c : EdsTasterBlock) : TasterIO := ⟨⟨c, 0⟩, []⟩

/-- One sample of the input ports. `taster_can_callback` does nothing. -/
def tasterStep (selfaddr : UInt16) (s : TasterIO) (inputportRead : Bool → UInt8 → UInt8) :
    TasterIO :=
  tasterTimerHandler selfaddr inputportRead s 100

/-! ## Pairs of frames -/

/-- The frames alternate, `TASTER_DOWN` first unless the group `offen` is open.
Each `TASTER_UP` goes to a group that fits the group before it. -/
def Gepaart (passt : UInt8 → UInt8 → Prop) : Option UInt8 → List CanixFrame → Prop
  | _, [] => True
  | none, f :: fs => f.byte 1 = hcanHesTasterDown ∧ Gepaart passt (some (f.byte 2)) fs
  | some g, f :: fs =>
      f.byte 1 = hcanHesTasterUp ∧ passt g (f.byte 2) ∧ Gepaart passt none fs

/-- The group that is open after the frames. -/
def offeneGruppe : Option UInt8 → List CanixFrame → Option UInt8
  | offen, [] => offen
  | none, f :: fs => offeneGruppe (some (f.byte 2)) fs
  | some _, _ :: fs => offeneGruppe none fs

/-- A press of `n` samples is on the same side of both thresholds. -/
def Eindeutig (time : UInt8) (n : Nat) : Prop := 3 < n ↔ time.toNat ≤ n

instance (time : UInt8) (n : Nat) : Decidable (Eindeutig time n) :=
  inferInstanceAs (Decidable (3 < n ↔ time.toNat ≤ n))

section

variable {passt : UInt8 → UInt8 → Prop}

theorem gepaart_append (fs gs : List CanixFrame) (offen : Option UInt8) :
    Gepaart passt offen (fs ++ gs) ↔
      Gepaart passt offen fs ∧ Gepaart passt (offeneGruppe offen fs) gs := by
  induction fs generalizing offen with
  | nil => cases offen <;> simp [Gepaart, offeneGruppe]
  | cons f fs ih =>
      cases offen with
      | none => simp [Gepaart, offeneGruppe, ih, and_assoc]
      | some g => simp [Gepaart, offeneGruppe, ih, and_assoc]

theorem offeneGruppe_append (fs gs : List CanixFrame) (offen : Option UInt8) :
    offeneGruppe offen (fs ++ gs) = offeneGruppe (offeneGruppe offen fs) gs := by
  induction fs generalizing offen with
  | nil => cases offen <;> simp [offeneGruppe]
  | cons f fs ih => cases offen <;> simp [offeneGruppe, ih]

@[simp] theorem tasterFrame_cmd (selfaddr : UInt16) (cmd gruppe : UInt8) (data : List UInt8) :
    (tasterFrame selfaddr cmd gruppe data).byte 1 = cmd := by
  simp [tasterFrame]

@[simp] theorem tasterFrame_gruppe (selfaddr : UInt16) (cmd gruppe : UInt8) (data : List UInt8) :
    (tasterFrame selfaddr cmd gruppe data).byte 2 = gruppe := by
  simp [tasterFrame]

/-- Relation of a button to its frames: the counter is the length `n` of the press, and
the group of the last `TASTER_DOWN` is open from the debouncing time on. It fits `gruppe`. -/
structure Paarung (passt : UInt8 → UInt8 → Prop) (time gruppe : UInt8) (n : Nat) (pressed : UInt8)
    (sent : List CanixFrame) : Prop where
  gepaart : Gepaart passt none sent
  pressed : pressed.toNat = min n 255
  zu : n < time.toNat → offeneGruppe none sent = none
  offen : time.toNat ≤ n → ∃ g, offeneGruppe none sent = some g ∧ passt g gruppe

variable {time gruppe pressed : UInt8} {n : Nat} {sent : List CanixFrame}

theorem paarung_start (htime : 0 < time) : Paarung passt time gruppe 0 0 [] where
  gepaart := trivial
  pressed := rfl
  zu := fun _ => rfl
  offen := fun h => absurd (Nat.le_zero.mp h) (Nat.ne_of_gt htime)

theorem zaehle_true (h : pressed.toNat = min n 255) :
    (zaehle true pressed).toNat = min (n + 1) 255 := by
  show (if pressed < 255 then pressed + 1 else pressed).toNat = _
  split
  · rename_i hlt
    have hval : pressed.toNat < 255 := hlt
    rw [UInt8.toNat_add]
    show (pressed.toNat + 1) % 256 = _
    omega
  · rename_i hge
    have hval : ¬ pressed.toNat < 255 := hge
    omega

/-- **A pressed sample** keeps the pairs. -/
theorem Paarung.druecken (h : Paarung passt time gruppe n pressed sent)
    (hpasst : passt gruppe gruppe)
    (htime : 0 < time) (hmax : time < 255) (selfaddr : UInt16) (up : Option CanixFrame)
    (data : List UInt8) :
    Paarung passt time gruppe (n + 1) (zaehle true pressed)
      (sent ++ tasteSample time up (tasterFrame selfaddr hcanHesTasterDown gruppe data) true
        pressed) := by
  have hnext := zaehle_true h.pressed
  have hpos : 0 < time.toNat := htime
  have hlt : time.toNat < 255 := hmax
  unfold tasteSample beimLoslassen beimDruecken
  rw [if_neg (fun hand => Bool.noConfusion hand.1), List.nil_append]
  by_cases hreach : zaehle true pressed = time
  · -- the counter reaches the debouncing time: the group is opened
    rw [if_pos hreach]
    rw [hreach] at hnext ⊢
    have hn : n < time.toNat := by omega
    have hzu := h.zu hn
    refine ⟨?_, hnext, fun hlt' => by omega, fun _ => ⟨gruppe, ?_, hpasst⟩⟩
    · rw [gepaart_append, hzu]
      exact ⟨h.gepaart, tasterFrame_cmd _ _ _ _, trivial⟩
    · rw [offeneGruppe_append, hzu]
      simp [offeneGruppe]
  · rw [if_neg hreach, List.append_nil]
    have hne : (zaehle true pressed).toNat ≠ time.toNat := fun heq =>
      hreach (UInt8.toNat_inj.mp heq)
    exact ⟨h.gepaart, hnext, fun hlt' => h.zu (by omega), fun hge => h.offen (by omega)⟩

/-- **A release** keeps the pairs, if the press is on the same side of both thresholds. -/
theorem Paarung.loslassen (h : Paarung passt time gruppe n pressed sent) (hn : Eindeutig time n)
    (htime : 0 < time) (selfaddr : UInt16) (data : List UInt8) (down : CanixFrame) :
    Paarung passt time gruppe 0 (zaehle false pressed)
      (sent ++ tasteSample time (some (tasterFrame selfaddr hcanHesTasterUp gruppe data)) down
        false pressed) := by
  have hpos : 0 < time.toNat := htime
  have hzero : zaehle false pressed = 0 := rfl
  unfold tasteSample beimDruecken
  rw [hzero, if_neg (fun heq => by rw [← heq] at htime; exact absurd htime (by decide)),
    List.append_nil]
  have hover : pressed > 3 ↔ 3 < n := by
    have hdef : pressed > 3 ↔ 3 < pressed.toNat := Iff.rfl
    rw [hdef, h.pressed]
    omega
  unfold beimLoslassen
  by_cases hlang : 3 < n
  · -- the group is open, and the release closes it
    obtain ⟨g, hoffen, hpasst⟩ := h.offen (hn.mp hlang)
    rw [if_pos ⟨rfl, hover.mpr hlang⟩]
    refine ⟨?_, rfl, fun _ => ?_, fun hge => absurd hge (by omega)⟩
    · rw [gepaart_append, hoffen]
      refine ⟨h.gepaart, tasterFrame_cmd _ _ _ _, ?_, trivial⟩
      rw [tasterFrame_gruppe]
      exact hpasst
    · rw [offeneGruppe_append, hoffen]
      rfl
  · rw [if_neg (fun hand => hlang (hover.mp hand.2)), List.append_nil]
    have hkurz : n < time.toNat := Nat.lt_of_not_le fun hle => hlang (hn.mpr hle)
    exact ⟨h.gepaart, rfl, fun _ => h.zu hkurz, fun hge => absurd hge (by omega)⟩

/-- **One sample**: `n` goes on counting. -/
theorem Paarung.sample (h : Paarung passt time gruppe n pressed sent) (hpasst : passt gruppe gruppe)
    (htime : 0 < time) (hmax : time < 255) (selfaddr : UInt16) (data : List UInt8) {status : Bool}
    (hn : status = false → Eindeutig time n) :
    Paarung passt time gruppe (if status then n + 1 else 0) (zaehle status pressed)
      (sent ++ tasteSample time (some (tasterFrame selfaddr hcanHesTasterUp gruppe data))
        (tasterFrame selfaddr hcanHesTasterDown gruppe data) status pressed) := by
  cases status with
  | true => exact h.druecken hpasst htime hmax selfaddr _ data
  | false => exact h.loslassen (hn rfl) htime selfaddr data _

/-- The group is another one from now on. -/
theorem Paarung.gruppe_wechselt {gruppe' : UInt8} (h : Paarung passt time gruppe n pressed sent)
    (hpasst : time.toNat ≤ n → ∀ g, passt g gruppe → passt g gruppe') :
    Paarung passt time gruppe' n pressed sent where
  gepaart := h.gepaart
  pressed := h.pressed
  zu := h.zu
  offen := fun hge =>
    let ⟨g, hoffen, hg⟩ := h.offen hge
    ⟨g, hoffen, hpasst hge g hg⟩

end

/-! ## Runs of a button -/

/-- The samples up to now at which the button at `port` is pressed, one after the other. -/
def druckLaenge (port : UInt8) : List (Bool → UInt8 → UInt8) → Nat
  | [] => 0
  | r :: past => if gedrueckt r port then druckLaenge port past + 1 else 0

/-- A release ends a press that is on the same side of both thresholds. -/
def TasterEindeutig (c : EdsTasterBlock) (k : TasterIO × List (Bool → UInt8 → UInt8))
    (r : Bool → UInt8 → UInt8) : Prop :=
  gedrueckt r c.port = false → Eindeutig c.time (druckLaenge c.port k.2)

instance (c : EdsTasterBlock) (k : TasterIO × List (Bool → UInt8 → UInt8))
    (r : Bool → UInt8 → UInt8) : Decidable (TasterEindeutig c k r) :=
  inferInstanceAs (Decidable (_ → _))

/-- The button gives no edges to a shutter or a powerport. -/
structure EdsTasterBlock.OhneFlanken (c : EdsTasterBlock) : Prop where
  rolladenAuf : c.has .rolladenAuf = false
  rolladenZu : c.has .rolladenZu = false
  powerportAn : c.has .powerportAn = false
  powerportAus : c.has .powerportAus = false

section

variable {selfaddr : UInt16} {c : EdsTasterBlock}

theorem EdsTasterBlock.OhneFlanken.up (h : c.OhneFlanken) :
    c.up selfaddr = some (tasterFrame selfaddr hcanHesTasterUp c.gruppe [c.port]) := by
  simp [EdsTasterBlock.up, h.rolladenAuf, h.rolladenZu, h.powerportAn, h.powerportAus]

theorem EdsTasterBlock.OhneFlanken.down (h : c.OhneFlanken) :
    c.down selfaddr = tasterFrame selfaddr hcanHesTasterDown c.gruppe [c.port] := by
  simp [EdsTasterBlock.down, h.rolladenAuf, h.rolladenZu, h.powerportAn, h.powerportAus]

theorem EdsTasterBlock.time_pos : 0 < c.time := by
  unfold EdsTasterBlock.time
  cases c.has .entprell1s <;> decide

theorem EdsTasterBlock.time_lt : c.time < 255 := by
  unfold EdsTasterBlock.time
  cases c.has .entprell1s <;> decide

/-- The pairs of a button with its past. -/
def TasterInv (c : EdsTasterBlock) (k : TasterIO × List (Bool → UInt8 → UInt8)) : Prop :=
  k.1.dev.config = c ∧
    Paarung Eq c.time c.gruppe (druckLaenge c.port k.2) k.1.dev.pressed k.1.sent

theorem tasterInv_step (hc : c.OhneFlanken) {k : TasterIO × List (Bool → UInt8 → UInt8)}
    {r : Bool → UInt8 → UInt8} (hg : TasterEindeutig c k r) (h : TasterInv c k) :
    TasterInv c (recorded (tasterStep selfaddr) k r) := by
  obtain ⟨rfl, hpaar⟩ := h
  have hnext := hpaar.sample rfl EdsTasterBlock.time_pos EdsTasterBlock.time_lt selfaddr
    [k.1.dev.config.port] hg
  rw [← hc.up, ← hc.down] at hnext
  exact ⟨rfl, hnext⟩

/-- **The pairs of a button**: `TASTER_DOWN` and `TASTER_UP` alternate, in one group. -/
theorem taster_run_gepaart (hc : c.OhneFlanken) (rs : List (Bool → UInt8 → UInt8))
    (hg : Guarded (recorded (tasterStep selfaddr)) (TasterEindeutig c) (tasterStart c, []) rs) :
    Gepaart Eq none (run (tasterStep selfaddr) (tasterStart c) rs).sent := by
  have hinv := run_guarded (I := TasterInv c) (fun k r hg hk => tasterInv_step hc hg hk) rs
    (tasterStart c, []) hg ⟨rfl, paarung_start EdsTasterBlock.time_pos⟩
  rw [run_recorded] at hinv
  exact hinv.2.gepaart

end

end OpenHcan.Taster
