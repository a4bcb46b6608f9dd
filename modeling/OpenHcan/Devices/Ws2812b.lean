import Mathlib.Algebra.Group.Nat.Defs

/-!
# Ws2812b — the bytes of an LED strip (`devices/ws2812b.c`)

A strip may be longer than the colour array; the array is then sent again and
again. `ws2812_sendarray_mask` counts the bytes of a round, but it sets the
counter back one byte too early for every round after the first one: the
rounds have 90, 89, 89, … bytes.

The pulses that carry a byte are not modelled: a strip gets a list of bytes.
-/

namespace OpenHcan.Ws2812b

set_option maxRecDepth 100000

/-- `maxLedStructLen` -/
abbrev maxLedStructLen : Nat := 30

/-- `struct cRGB` -/
structure CRGB where
  g : UInt8
  r : UInt8
  b : UInt8
deriving DecidableEq, Repr

/-- `device_data_ws2812b`, as far as it is sent. -/
structure DeviceDataWs2812b where
  port : UInt8
  anzLEDs : UInt16
  sLED : Vector CRGB maxLedStructLen

/-- The three bytes of an element. -/
def CRGB.bytes (c : CRGB) : List UInt8 := [c.g, c.r, c.b]

/-- `((uint8_t*)ledarray)[i]` -/
def byteAt (ledarray : Vector CRGB maxLedStructLen) (i : Nat) : UInt8 :=
  (ledarray.toList.flatMap CRGB.bytes).getD i 0

/-- The loop of `ws2812_sendarray_mask`: `data` is the offset from `dataStart`. -/
def sendBytes (ledarray : Vector CRGB maxLedStructLen) : Nat → Nat → UInt8 → List UInt8
  | 0, _, _ => []
  | datlen + 1, data, counter =>
      byteAt ledarray data ::
        if counter = 30 * 3 - 1 then sendBytes ledarray datlen 0 (0 + 1)
        else sendBytes ledarray datlen (data + 1) (counter + 1)

/-- `ws2812_sendarray_mask` -/
def ws2812SendarrayMask (ledarray : Vector CRGB maxLedStructLen) (datlen : UInt16) : List UInt8 :=
  sendBytes ledarray datlen.toNat 0 0

/-- `ws2812_setleds`: the pin of port D, and what it sends. Pin 2 is left out. -/
def ws2812Setleds (p : DeviceDataWs2812b) : UInt8 × List UInt8 :=
  let port := if p.port > 1 then p.port + 1 else p.port
  let leds := p.anzLEDs
  (port, ws2812SendarrayMask p.sLED (leds + leds + leds))

/-- Every LED of the strip gets the three bytes of an element: LED `k` those of
element `k mod maxLedStructLen`. -/
def Wiederholt (p : DeviceDataWs2812b) : Prop :=
  (ws2812Setleds p).2 = (List.range p.anzLEDs.toNat).flatMap fun k =>
    (p.sLED.get ⟨k % maxLedStructLen, Nat.mod_lt k (by decide)⟩).bytes

/-! ## The rounds -/

/-- The offset of the byte that is sent at `t`: the first round has 90 bytes, the
others have 89. -/
def leseindex (t : Nat) : Nat := if t < 90 then t else (t - 90) % 89

/-- The counter at `t`. It counts the last byte of a round as the first one of the next. -/
def zaehler (t : Nat) : Nat := if t < 90 then t else (t - 90) % 89 + 1

section

variable {ledarray : Vector CRGB maxLedStructLen}

/-- The counter is reset at the end of a round. -/
theorem zaehler_reset {t : Nat} (h : zaehler t = 89) : leseindex (t + 1) = 0 ∧ zaehler (t + 1) = 1 := by
  unfold zaehler at h
  unfold leseindex zaehler
  split at h
  · obtain rfl := h
    exact ⟨rfl, rfl⟩
  · have hend : (t - 90) % 89 = 88 := by omega
    have hnext : (t + 1 - 90) % 89 = 0 := by omega
    rw [if_neg (by omega), if_neg (by omega), hnext]
    exact ⟨rfl, rfl⟩

theorem zaehler_weiter {t : Nat} (h : zaehler t ≠ 89) :
    leseindex (t + 1) = leseindex t + 1 ∧ zaehler (t + 1) = zaehler t + 1 := by
  unfold zaehler at h
  unfold leseindex zaehler
  split at h
  · rw [if_pos (by omega), if_pos (by omega), if_pos (by omega), if_pos (by omega)]
    exact ⟨rfl, rfl⟩
  · have hnext : (t + 1 - 90) % 89 = (t - 90) % 89 + 1 := by omega
    rw [if_neg (by omega), if_neg (by omega), if_neg (by omega), if_neg (by omega), hnext]
    exact ⟨rfl, rfl⟩

theorem zaehler_lt (t : Nat) : zaehler t < 90 := by
  unfold zaehler
  split
  · assumption
  · omega

theorem sendBytes_succ (datlen data : Nat) (counter : UInt8) :
    sendBytes ledarray (datlen + 1) data counter =
      byteAt ledarray data ::
        if counter = 30 * 3 - 1 then sendBytes ledarray datlen 0 (0 + 1)
        else sendBytes ledarray datlen (data + 1) (counter + 1) := rfl

/-- **The stream**, byte by byte, from any byte on. -/
theorem sendBytes_eq (n t : Nat) :
    sendBytes ledarray n (leseindex t) (UInt8.ofNat (zaehler t)) =
      (List.range n).map fun i => byteAt ledarray (leseindex (t + i)) := by
  induction n generalizing t with
  | zero => rfl
  | succ n ih =>
      have hlt := zaehler_lt t
      have hval : (UInt8.ofNat (zaehler t)).toNat = zaehler t :=
        UInt8.toNat_ofNat_of_lt' (by show zaehler t < 256; omega)
      have htail : (List.range (n + 1)).map (fun i => byteAt ledarray (leseindex (t + i))) =
          byteAt ledarray (leseindex t) ::
            (List.range n).map fun i => byteAt ledarray (leseindex (t + 1 + i)) := by
        rw [List.range_succ_eq_map, List.map_cons, List.map_map]
        congr 2
        funext i
        show byteAt ledarray (leseindex (t + (i + 1))) = _
        rw [Nat.add_assoc, Nat.add_comm 1 i]
      rw [htail, ← ih (t + 1), sendBytes_succ]
      by_cases hend : zaehler t = 89
      · obtain ⟨hidx, hcnt⟩ := zaehler_reset hend
        rw [hidx, hcnt, hend, if_pos (by decide)]
        rfl
      · obtain ⟨hidx, hcnt⟩ := zaehler_weiter hend
        rw [hidx, hcnt, if_neg, UInt8.ofNat_add]
        · rfl
        · intro heq
          apply hend
          rw [heq] at hval
          exact hval.symm

theorem ws2812SendarrayMask_eq (datlen : UInt16) :
    ws2812SendarrayMask ledarray datlen =
      (List.range datlen.toNat).map fun t => byteAt ledarray (leseindex t) := by
  have h : sendBytes ledarray datlen.toNat (leseindex 0) (UInt8.ofNat (zaehler 0)) = _ :=
    sendBytes_eq datlen.toNat 0
  simp only [Nat.zero_add] at h
  exact h

/-- The bytes of an element, as bytes of the array. -/
theorem bytes_eq (j : Nat) (hj : j < maxLedStructLen) :
    (ledarray.get ⟨j, hj⟩).bytes =
      [byteAt ledarray (3 * j), byteAt ledarray (3 * j + 1), byteAt ledarray (3 * j + 2)] := by
  have hflat (cs : List CRGB) (k : Nat) (hk : k < cs.length) :
      cs[k].bytes = [(cs.flatMap CRGB.bytes).getD (3 * k) 0,
        (cs.flatMap CRGB.bytes).getD (3 * k + 1) 0, (cs.flatMap CRGB.bytes).getD (3 * k + 2) 0] := by
    induction cs generalizing k with
    | nil => exact absurd hk (Nat.not_lt_zero k)
    | cons c cs ih =>
        cases k with
        | zero => rfl
        | succ k => exact ih k (Nat.lt_of_succ_lt_succ hk)
  have hlen : ledarray.toList.length = maxLedStructLen := Vector.length_toList
  have h := hflat ledarray.toList j (by rw [hlen]; exact hj)
  exact h

/-- What the strip should get, byte by byte. -/
theorem elemente_eq (n : Nat) :
    ((List.range n).flatMap fun k =>
      (ledarray.get ⟨k % maxLedStructLen, Nat.mod_lt k (by decide)⟩).bytes) =
      (List.range (3 * n)).map fun t => byteAt ledarray (t % 90) := by
  induction n with
  | zero => rfl
  | succ n ih =>
      have h0 : (3 * n) % 90 = 3 * (n % 30) := by omega
      have h1 : (3 * n + 1) % 90 = 3 * (n % 30) + 1 := by omega
      have h2 : (3 * n + 2) % 90 = 3 * (n % 30) + 2 := by omega
      rw [List.range_succ, List.flatMap_append, ih, List.flatMap_singleton, bytes_eq]
      rw [Nat.mul_add, Nat.mul_one, List.range_succ, List.range_succ, List.range_succ]
      simp [h0, h1, h2]

end

/-! ## The repetition -/

section

variable {f : Nat → UInt8} {n : Nat}

/-- Two streams of one array. -/
theorem map_range_eq_iff {g h : Nat → UInt8} {m n : Nat} :
    (List.range m).map g = (List.range n).map h ↔ m = n ∧ ∀ t < n, g t = h t := by
  constructor
  · intro heq
    have hlen : m = n := by simpa using congrArg List.length heq
    refine ⟨hlen, fun t ht => ?_⟩
    have hget := congrArg (fun l => l[t]?) heq
    simpa [hlen, ht] using hget
  · rintro ⟨rfl, heq⟩
    exact List.map_congr_left fun t ht => heq t (List.mem_range.mp ht)

/-- The second round is right, and the third one shows that its bytes are all equal. -/
theorem gleich_of_runden (h : ∀ t < n, f (leseindex t) = f (t % 90)) (j : Nat) (hj : j ≤ 88)
    (hn : 180 + j ≤ n) : f j = f 89 := by
  induction j with
  | zero => exact h 179 (by omega)
  | succ j ih =>
      have hstep := h (180 + j) (by omega)
      have hidx : leseindex (180 + j) = j + 1 := by
        unfold leseindex
        rw [if_neg (by omega)]
        omega
      rw [hidx, show (180 + j) % 90 = j by omega] at hstep
      rw [hstep]
      exact ih (by omega) (by omega)

/-- Two rounds are right for every array. -/
theorem zweiRunden {t : Nat} (ht : t < 179) : leseindex t = t % 90 := by
  unfold leseindex
  split
  · omega
  · omega

/-- An array whose first bytes are all equal to the last one. -/
theorem runden_of_gleich (h : ∀ j, j ≤ 88 → 180 + j ≤ n → f j = f 89) (t : Nat) (ht : t < n) :
    f (leseindex t) = f (t % 90) := by
  have hall (i : Nat) (hi : i < 90) (hn : 180 + i ≤ n ∨ i = 89) : f i = f 89 := by
    by_cases h89 : i = 89
    · rw [h89]
    · exact h i (by omega) (by omega)
  rcases Nat.lt_or_ge t 179 with hlt | hge
  · rw [zweiRunden hlt]
  · have hidx : leseindex t = (t - 90) % 89 := if_neg (by omega)
    rw [hidx, hall ((t - 90) % 89) (by omega) (by omega), hall (t % 90) (by omega) (by omega)]

end

/-- The repetition, byte by byte. -/
theorem wiederholt_bytes (p : DeviceDataWs2812b) :
    Wiederholt p ↔ p.anzLEDs.toNat ≤ 21845 ∧ ∀ t < 3 * p.anzLEDs.toNat,
      byteAt p.sLED (leseindex t) = byteAt p.sLED (t % 90) := by
  have hlen : (p.anzLEDs + p.anzLEDs + p.anzLEDs).toNat = 3 * p.anzLEDs.toNat % 65536 := by
    rw [UInt16.toNat_add, UInt16.toNat_add]
    show ((p.anzLEDs.toNat + p.anzLEDs.toNat) % 65536 + p.anzLEDs.toNat) % 65536 = _
    omega
  have hfit : 3 * p.anzLEDs.toNat % 65536 = 3 * p.anzLEDs.toNat ↔ p.anzLEDs.toNat ≤ 21845 := by
    have hbound := p.anzLEDs.toNat_lt
    omega
  unfold Wiederholt
  rw [elemente_eq]
  show ws2812SendarrayMask p.sLED (p.anzLEDs + p.anzLEDs + p.anzLEDs) = _ ↔ _
  rw [ws2812SendarrayMask_eq, map_range_eq_iff, hlen, hfit]

/-- **The repetition of the colours** is right for every content of the array up to
59 LEDs. A longer strip is right only if its length in bytes fits into 16 bits and
the bytes that the third round reads are all the same. -/
theorem wiederholt_iff (p : DeviceDataWs2812b) :
    Wiederholt p ↔ p.anzLEDs.toNat ≤ 59 ∨
      p.anzLEDs.toNat ≤ 21845 ∧
        ∀ j, j ≤ 88 → 180 + j ≤ 3 * p.anzLEDs.toNat → byteAt p.sLED j = byteAt p.sLED 89 := by
  rw [wiederholt_bytes]
  constructor
  · rintro ⟨hfit, hbytes⟩
    exact Or.inr ⟨hfit, fun j hj hn => gleich_of_runden hbytes j hj hn⟩
  · rintro (hkurz | ⟨hfit, hgleich⟩)
    · exact ⟨by omega, fun t ht => by rw [zweiRunden (by omega)]⟩
    · exact ⟨hfit, runden_of_gleich hgleich⟩

/-- A strip of 60 LEDs on which only the first byte of the array is lit. -/
theorem sechzigLEDs_not_wiederholt :
    ¬ Wiederholt ⟨0, 60, (Vector.replicate 30 ⟨0, 0, 0⟩).set 0 ⟨1, 0, 0⟩⟩ := by
  intro h
  have hbytes := ((wiederholt_bytes _).mp h).2
  exact absurd (gleich_of_runden hbytes 0 (by decide) (by decide)) (by decide)

end OpenHcan.Ws2812b
