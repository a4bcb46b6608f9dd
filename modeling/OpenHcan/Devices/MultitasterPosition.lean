import Mathlib.Algebra.Group.Nat.Defs
import OpenHcan.Devices.Multitaster

/-!
# MultitasterPosition — the groups on the scale of the knob

`n` groups share the 1023 steps of the knob, `oneScale = 1023 / n` for each.
The position is searched among the first ten marks of that scale. The
remainder of the division is left over at the top: there the knob selects a
group too many, and from nine groups on no mark is found at all.
-/

namespace OpenHcan.Multitaster

open Lib Taster

set_option maxRecDepth 100000

/-! ## The statement -/

/-- A frame of the knob. Its values have ten bits. -/
def PotiFrame (c : EdsMultitasterBlock) (f : CanixFrame) : Prop :=
  f.byte 1 = hcanHesPotiPosChanged ∧ f.byte 2 = c.potiGruppe ∧ (adcWert f).toNat ≤ 1023

/-- The data after the frames. -/
def nachFrames (p : DeviceDataMultitaster) (fs : List CanixFrame) : DeviceDataMultitaster :=
  run (fun p f => multitasterCanCallback f p) p fs

/-- The knob selects one of the configured groups: the position is a function of the
last value, monotone, and onto the groups. -/
structure GruppenGewaehlt (c : EdsMultitasterBlock) (p : DeviceDataMultitaster)
    (pos : UInt16 → Nat) : Prop where
  gruppe : ∀ fs, (∀ f ∈ fs, PotiFrame c f) →
    getGroup (nachFrames p fs) ∈ c.gruppen.toList.takeWhile (· ≠ 255)
  letzter : ∀ fs f, (∀ g ∈ fs, PotiFrame c g) → PotiFrame c f →
    (nachFrames p (fs ++ [f])).lastPotiPos.toNat = pos (adcWert f)
  monoton : ∀ a b, a.toNat ≤ b.toNat → b.toNat ≤ 1023 → pos a ≤ pos b
  jede : ∀ i < c.numOfPotiScaleDivisions, ∃ a : UInt16, a.toNat ≤ 1023 ∧ pos a = i

/-- The initialisation divides by a number of groups, and the knob selects them all. -/
def SkalaPasst (c : EdsMultitasterBlock) : Prop :=
  ∃ p, multitasterInit ⟨c, 0, 0, 0⟩ = some p ∧
    (1 ≤ c.numOfPotiScaleDivisions → ∃ pos, GruppenGewaehlt c p pos)

/-! ## The search -/

section

variable {s : Nat} {a : UInt16}

/-- The marks of the scale do not overflow. -/
theorem le_skala_iff (hs : s ≤ 1023) {i : Nat} (hi : i < 10) :
    a ≤ UInt16.ofNat i * UInt16.ofNat s ↔ a.toNat ≤ i * s := by
  have hmul : i * s ≤ 9 * 1023 := Nat.mul_le_mul (by omega) hs
  have hval : (UInt16.ofNat i * UInt16.ofNat s).toNat = i * s := by
    rw [UInt16.toNat_mul, UInt16.toNat_ofNat_of_lt' (by show i < 65536; omega),
      UInt16.toNat_ofNat_of_lt' (by show s < 65536; omega)]
    exact Nat.mod_eq_of_lt (by omega)
  rw [UInt16.le_iff_toNat_le, hval]

theorem skalenstrich_of_le (hs0 : 0 < s) (hs : s ≤ 1023) (ha : a.toNat ≤ 9 * s) :
    skalenstrich (UInt16.ofNat s) a = some ((a.toNat + s - 1) / s) := by
  have hq : (a.toNat + s - 1) / s < 10 := by
    rw [Nat.div_lt_iff_lt_mul hs0]
    omega
  unfold skalenstrich
  rw [List.find?_range_eq_some]
  refine ⟨?_, List.mem_range.mpr hq, fun j hj => ?_⟩
  · have hlt : a.toNat + s - 1 < s * ((a.toNat + s - 1) / s + 1) := Nat.lt_mul_div_succ _ hs0
    rw [decide_eq_true_iff, le_skala_iff hs hq, Nat.mul_comm]
    rw [Nat.mul_add] at hlt
    omega
  · have hle : (j + 1) * s ≤ a.toNat + s - 1 := (Nat.le_div_iff_mul_le hs0).mp hj
    rw [Bool.not_eq_true', decide_eq_false_iff_not, le_skala_iff hs (Nat.lt_trans hj hq)]
    rw [Nat.add_mul] at hle
    omega

/-- Over the last mark nothing is found. -/
theorem skalenstrich_of_lt (hs : s ≤ 1023) (ha : 9 * s < a.toNat) :
    skalenstrich (UInt16.ofNat s) a = none := by
  unfold skalenstrich
  rw [List.find?_range_eq_none]
  intro i hi
  have hi10 : i < 10 := hi
  have hmul : i * s ≤ 9 * s := Nat.mul_le_mul_right s (by omega)
  rw [Bool.not_eq_true', decide_eq_false_iff_not, le_skala_iff hs hi]
  omega

end

/-! ## The position -/

section

variable {c : EdsMultitasterBlock} {s : Nat} {p : DeviceDataMultitaster} {f : CanixFrame}

theorem poti_callback (h : PotiFrame p.config f) :
    multitasterCanCallback f p = potiAuf (adcWert f) p := by
  unfold multitasterCanCallback
  rw [if_pos h.1, if_pos h.2.1]

/-- Up to the ninth mark the position is a division. -/
theorem potiAuf_pos (hs0 : 0 < s) (hs : s ≤ 1023) (hscale : p.oneScale = UInt16.ofNat s)
    {a : UInt16} (ha : a.toNat ≤ 9 * s) :
    (potiAuf a p).lastPotiPos.toNat = (a.toNat - 1) / s := by
  unfold potiAuf
  rw [hscale, skalenstrich_of_le hs0 hs ha]
  show (if a = 0 then (0 : UInt8) else UInt8.ofNat ((a.toNat + s - 1) / s) - 1).toNat = _
  by_cases hzero : a = 0
  · rw [if_pos hzero, hzero]
    exact (Nat.zero_div s).symm
  · have hpos : a.toNat ≠ 0 := fun heq => hzero (UInt16.toNat_inj.mp heq)
    have hstep : (a.toNat + s - 1) / s = (a.toNat - 1) / s + 1 := by
      rw [← Nat.add_div_right _ hs0]
      congr 1
      omega
    have hq : (a.toNat - 1) / s < 10 := by
      rw [Nat.div_lt_iff_lt_mul hs0]
      omega
    rw [if_neg hzero, hstep]
    generalize (a.toNat - 1) / s = q at hq
    have hcancel : UInt8.ofNat (q + 1) - 1 = UInt8.ofNat q := by
      rw [UInt8.ofNat_add]
      exact UInt8.add_sub_cancel _ _
    rw [hcancel]
    exact UInt8.toNat_ofNat_of_lt' (by show q < 256; omega)

theorem potiAuf_bleibt (hs : s ≤ 1023) (hscale : p.oneScale = UInt16.ofNat s) {a : UInt16}
    (ha : 9 * s < a.toNat) : potiAuf a p = p := by
  unfold potiAuf
  rw [hscale, skalenstrich_of_lt hs ha]

theorem nachFrames_snoc (fs : List CanixFrame) (f : CanixFrame) :
    nachFrames p (fs ++ [f]) = multitasterCanCallback f (nachFrames p fs) := by
  unfold nachFrames
  rw [run_append]
  rfl

/-- Frames leave the scale as it is. -/
theorem nachFrames_scale (fs : List CanixFrame) :
    (nachFrames p fs).config = p.config ∧ (nachFrames p fs).oneScale = p.oneScale := by
  apply run_invariant (I := fun q => q.config = p.config ∧ q.oneScale = p.oneScale) _ fs p ⟨rfl, rfl⟩
  rintro q f ⟨hconfig, hscale⟩
  obtain ⟨pos, heq⟩ := canCallback_eq f q
  rw [heq]
  exact ⟨hconfig, hscale⟩

/-- The last value up to the ninth mark decides the position. -/
theorem nachFrames_pos (hs0 : 0 < s) (hs : s ≤ 1023) (hscale : p.oneScale = UInt16.ofNat s)
    (fs : List CanixFrame) (hf : PotiFrame p.config f) (ha : (adcWert f).toNat ≤ 9 * s) :
    (nachFrames p (fs ++ [f])).lastPotiPos.toNat = ((adcWert f).toNat - 1) / s := by
  obtain ⟨hconfig, hkeep⟩ := nachFrames_scale (p := p) fs
  rw [nachFrames_snoc, poti_callback (hconfig.symm ▸ hf)]
  exact potiAuf_pos hs0 hs (hkeep.trans hscale) ha

/-- A last value over the ninth mark is not looked at. -/
theorem nachFrames_ueber (hs : s ≤ 1023) (hscale : p.oneScale = UInt16.ofNat s)
    (fs : List CanixFrame) (hf : PotiFrame p.config f) (ha : 9 * s < (adcWert f).toNat) :
    nachFrames p (fs ++ [f]) = nachFrames p fs := by
  obtain ⟨hconfig, hkeep⟩ := nachFrames_scale (p := p) fs
  rw [nachFrames_snoc, poti_callback (hconfig.symm ▸ hf)]
  exact potiAuf_bleibt hs (hkeep.trans hscale) ha

/-! ## The groups -/

theorem numOfPotiScaleDivisions_le : c.numOfPotiScaleDivisions ≤ 10 := by
  have hle := (List.takeWhile_prefix (fun g : UInt8 => g ≠ 255) (l := c.gruppen.toList)).length_le
  rwa [Vector.length_toList] at hle

/-- A position below the number of groups selects one of them. -/
theorem getGroup_mem (hconfig : p.config = c)
    (hpos : p.lastPotiPos.toNat < c.numOfPotiScaleDivisions) :
    getGroup p ∈ c.gruppen.toList.takeWhile (· ≠ 255) := by
  have hpre := List.takeWhile_prefix (fun g : UInt8 => g ≠ 255) (l := c.gruppen.toList)
  unfold getGroup
  rw [hconfig, List.prefix_iff_getElem?.mp hpre _ hpos]
  exact List.getElem_mem hpos

/-- The position after the last group selects no group. -/
theorem getGroup_not_mem (hconfig : p.config = c)
    (hpos : p.lastPotiPos.toNat = c.numOfPotiScaleDivisions) :
    getGroup p ∉ c.gruppen.toList.takeWhile (· ≠ 255) := by
  have hnext : getGroup p = 255 := by
    have hsplit := List.takeWhile_append_dropWhile (p := fun g : UInt8 => g ≠ 255)
      (l := c.gruppen.toList)
    have hhead := List.head?_dropWhile_not (fun g : UInt8 => g ≠ 255) c.gruppen.toList
    unfold EdsMultitasterBlock.numOfPotiScaleDivisions at hpos
    unfold getGroup
    rw [hconfig, hpos]
    nth_rewrite 1 [← hsplit]
    rw [ List.getElem?_append_right (Nat.le_refl _), Nat.sub_self,
      ← List.head?_eq_getElem?]
    cases hd : (c.gruppen.toList.dropWhile fun g => g ≠ 255).head? with
    | none => rfl
    | some g =>
        rw [hd] at hhead
        simpa using hhead
  intro hmem
  have h255 := List.all_eq_true.mp List.all_takeWhile _ hmem
  rw [hnext] at h255
  exact absurd h255 (by decide)

theorem multitasterInit_eq (h : 1 ≤ c.numOfPotiScaleDivisions) :
    multitasterInit ⟨c, 0, 0, 0⟩ =
      some ⟨c, 0, 0, UInt16.ofNat (1023 / c.numOfPotiScaleDivisions)⟩ := by
  unfold multitasterInit detectAndSetOneScale
  dsimp only
  generalize c.numOfPotiScaleDivisions = n at h ⊢
  cases n with
  | zero => exact absurd h (by decide)
  | succ n => rfl

/-- A frame of the knob at `a`. -/
def potiFrame (c : EdsMultitasterBlock) (a : UInt16) : CanixFrame :=
  sfpFrame 0 hcanMulticastControl
    [hcanSrvHes, hcanHesPotiPosChanged, c.potiGruppe, hiByte a.toNat, loByte a.toNat]

@[simp] theorem adcWert_potiFrame (a : UInt16) : adcWert (potiFrame c a) = a := by
  have hword : word (hiByte a.toNat) (loByte a.toNat) = a.toNat := word_hiByte_loByte a.toNat_lt
  have hhi : (potiFrame c a).byte 3 = hiByte a.toNat := sfpFrame_byte _ _ _ (by decide)
  have hlo : (potiFrame c a).byte 4 = loByte a.toNat := sfpFrame_byte _ _ _ (by decide)
  unfold adcWert
  rw [hhi, hlo, hword]
  exact UInt16.ofNat_toNat

theorem potiFrame_spec {a : UInt16} (ha : a.toNat ≤ 1023) : PotiFrame c (potiFrame c a) := by
  refine ⟨sfpFrame_byte _ _ _ (by decide), sfpFrame_byte _ _ _ (by decide), ?_⟩
  rw [adcWert_potiFrame]
  exact ha

/-- **A scale without a remainder**: every group has its part of the knob. -/
theorem gruppenGewaehlt_of_mul {n s : Nat} (hn : c.numOfPotiScaleDivisions = n) (hn0 : 1 ≤ n)
    (hn9 : n ≤ 9) (hmul : n * s = 1023) :
    GruppenGewaehlt c ⟨c, 0, 0, UInt16.ofNat s⟩ fun a => (a.toNat - 1) / s := by
  have hs0 : 0 < s := Nat.pos_of_ne_zero fun hzero => by
    rw [hzero] at hmul
    omega
  have hs : s ≤ 1023 := hmul ▸ Nat.le_mul_of_pos_left s hn0
  have hlast (a : Nat) (ha : a ≤ 1023) : (a - 1) / s < n := by
    rw [Nat.div_lt_iff_lt_mul hs0, hmul]
    omega
  have hninth (a : Nat) (ha : a ≤ 1023) : a ≤ 9 * s := by
    have hle : n * s ≤ 9 * s := Nat.mul_le_mul_right s hn9
    omega
  have hpos (fs : List CanixFrame) (f : CanixFrame) (hf : PotiFrame c f) :=
    nachFrames_pos (p := ⟨c, 0, 0, UInt16.ofNat s⟩) hs0 hs rfl fs hf (hninth _ hf.2.2)
  refine ⟨fun fs hfs => ?_, fun fs f _ hf => hpos fs f hf, fun a b hab _ => ?_, fun i hi => ?_⟩
  · apply getGroup_mem (nachFrames_scale fs).1
    rw [hn]
    rcases List.eq_nil_or_concat fs with rfl | ⟨pre, f, rfl⟩
    · exact hn0
    · have hf : PotiFrame c f := hfs f (by simp)
      rw [List.concat_eq_append, hpos pre f hf]
      exact hlast _ hf.2.2
  · exact Nat.div_le_div_right (Nat.sub_le_sub_right hab 1)
  · rw [hn] at hi
    have hle : (i + 1) * s ≤ n * s := Nat.mul_le_mul_right s hi
    have hval : (UInt16.ofNat (i * s + 1)).toNat = i * s + 1 := by
      apply UInt16.toNat_ofNat_of_lt'
      show i * s + 1 < 65536
      rw [Nat.add_mul] at hle
      omega
    refine ⟨UInt16.ofNat (i * s + 1), ?_, ?_⟩
    · rw [hval]
      rw [Nat.add_mul] at hle
      omega
    · rw [hval, Nat.add_sub_cancel]
      exact Nat.mul_div_cancel i hs0

variable {pos : UInt16 → Nat}

/-- A remainder that reaches the next mark: the last value selects a group too many. -/
theorem not_gruppenGewaehlt_rest (hs0 : 0 < s) (hs : s ≤ 1023) (h9 : 1023 ≤ 9 * s)
    (hrest : 1022 / s = c.numOfPotiScaleDivisions) :
    ¬ GruppenGewaehlt c ⟨c, 0, 0, UInt16.ofNat s⟩ pos := by
  intro h
  have hframe : PotiFrame c (potiFrame c 1023) := potiFrame_spec (by decide)
  have hmem := h.gruppe [potiFrame c 1023] (by simpa using hframe)
  refine getGroup_not_mem (nachFrames_scale _).1 ?_ hmem
  have hpos := nachFrames_pos (p := ⟨c, 0, 0, UInt16.ofNat s⟩) hs0 hs rfl [] hframe
    (by rw [adcWert_potiFrame]; exact h9)
  rw [adcWert_potiFrame] at hpos
  exact hpos.trans hrest

/-- A scale that ends below the last value: the position depends on an earlier value. -/
theorem not_gruppenGewaehlt_ueber (hs0 : 0 < s) (hs : s ≤ 500) (h9 : 9 * s < 1023) :
    ¬ GruppenGewaehlt c ⟨c, 0, 0, UInt16.ofNat s⟩ pos := by
  intro h
  have hframe (a : UInt16) (ha : a.toNat ≤ 1023) : PotiFrame c (potiFrame c a) := potiFrame_spec ha
  have hstay (a : UInt16) (ha : a.toNat ≤ 9 * s) : (a.toNat - 1) / s = pos 1023 := by
    have ha' : a.toNat ≤ 1023 := by omega
    have hlast := h.letzter [potiFrame c a] (potiFrame c 1023) (by simpa using hframe a ha')
      (hframe 1023 (by decide))
    rw [adcWert_potiFrame] at hlast
    rw [← hlast, nachFrames_ueber (by omega) rfl [potiFrame c a] (hframe 1023 (by decide))
      (by rw [adcWert_potiFrame]; exact h9)]
    have hpos := nachFrames_pos (p := ⟨c, 0, 0, UInt16.ofNat s⟩) hs0 (by omega) rfl [] (hframe a ha')
      (by rw [adcWert_potiFrame]; exact ha)
    rw [adcWert_potiFrame] at hpos
    exact hpos.symm
  have hval : (UInt16.ofNat (s + 1)).toNat = s + 1 :=
    UInt16.toNat_ofNat_of_lt' (by show s + 1 < 65536; omega)
  have hzero := hstay 0 (Nat.zero_le _)
  have hone := hstay (UInt16.ofNat (s + 1)) (by omega)
  rw [hval, Nat.add_sub_cancel, Nat.div_self hs0, ← hzero] at hone
  simp at hone

end

/-- **The scale of a multitaster** fits one group or three groups, and no other number. -/
theorem skalaPasst_iff (c : EdsMultitasterBlock) :
    SkalaPasst c ↔ c.numOfPotiScaleDivisions = 1 ∨ c.numOfPotiScaleDivisions = 3 := by
  constructor
  · rintro ⟨p, hinit, hpos⟩
    have h10 := numOfPotiScaleDivisions_le (c := c)
    have h1 : 1 ≤ c.numOfPotiScaleDivisions := by
      apply Nat.pos_of_ne_zero
      intro hzero
      unfold multitasterInit detectAndSetOneScale at hinit
      rw [hzero] at hinit
      exact nomatch hinit
    obtain ⟨pos, hgewaehlt⟩ := hpos h1
    rw [multitasterInit_eq h1] at hinit
    obtain rfl := Option.some.inj hinit
    generalize hn : c.numOfPotiScaleDivisions = n at h1 h10 hgewaehlt
    by_contra hother
    push Not at hother
    have hcases : n = 2 ∨ n = 4 ∨ n = 5 ∨ n = 6 ∨ n = 7 ∨ n = 8 ∨ n = 9 ∨ n = 10 := by omega
    rcases hcases with rfl | rfl | rfl | rfl | rfl | rfl | rfl | rfl
    · exact not_gruppenGewaehlt_rest (by decide) (by decide) (by decide) hn.symm hgewaehlt
    · exact not_gruppenGewaehlt_rest (by decide) (by decide) (by decide) hn.symm hgewaehlt
    · exact not_gruppenGewaehlt_rest (by decide) (by decide) (by decide) hn.symm hgewaehlt
    · exact not_gruppenGewaehlt_rest (by decide) (by decide) (by decide) hn.symm hgewaehlt
    · exact not_gruppenGewaehlt_rest (by decide) (by decide) (by decide) hn.symm hgewaehlt
    · exact not_gruppenGewaehlt_rest (by decide) (by decide) (by decide) hn.symm hgewaehlt
    · exact not_gruppenGewaehlt_ueber (by decide) (by decide) (by decide) hgewaehlt
    · exact not_gruppenGewaehlt_ueber (by decide) (by decide) (by decide) hgewaehlt
  · rintro (hn | hn)
    · refine ⟨_, multitasterInit_eq (by omega), fun _ => ⟨fun a => (a.toNat - 1) / 1023, ?_⟩⟩
      rw [hn]
      exact gruppenGewaehlt_of_mul hn (by decide) (by decide) rfl
    · refine ⟨_, multitasterInit_eq (by omega), fun _ => ⟨fun a => (a.toNat - 1) / 341, ?_⟩⟩
      rw [hn]
      exact gruppenGewaehlt_of_mul hn (by decide) (by decide) rfl

/-- Two groups: at the upper end the knob selects the third one, which is not configured. -/
theorem zweiGruppen_not_skalaPasst :
    ¬ SkalaPasst ⟨9, 4, 0, #v[50, 51, 255, 255, 255, 255, 255, 255, 255, 255]⟩ := by
  rintro ⟨p, hinit, hpos⟩
  obtain ⟨pos, hgewaehlt⟩ := hpos (by decide)
  rw [multitasterInit_eq (by decide)] at hinit
  obtain rfl := Option.some.inj hinit
  exact not_gruppenGewaehlt_rest (s := 511) (by decide) (by decide) (by decide) (by decide) hgewaehlt

end OpenHcan.Multitaster
