import Mathlib.Data.List.Basic

/-!
# Crc16 — the checksum of host and bootloader

`ihexfile::_crc16_update` on the host, `_crc16_update` of avr-libc on the
board: the same reflected CRC with the polynomial 0xA001. Both sides run it
over 16-bit words, high byte first.
-/

namespace OpenHcan.Flash

set_option maxRecDepth 100000

/-- One bit of `_crc16_update`. -/
def crc16Bit (crc : UInt16) : UInt16 :=
  if crc &&& 1 ≠ 0 then (crc >>> 1) ^^^ 0xA001 else crc >>> 1

/-- `n` bits, from the lowest. -/
def crc16Bits : Nat → UInt16 → UInt16
  | 0, crc => crc
  | n + 1, crc => crc16Bits n (crc16Bit crc)

/-- `_crc16_update` -/
def crc16Update (crc : UInt16) (a : UInt8) : UInt16 := crc16Bits 8 (crc ^^^ a.toUInt16)

/-- The loop over `n` words: `lo` and `hi` give the bytes of word `i`. -/
def crc16Words (lo hi : Nat → UInt8) : Nat → UInt16
  | 0 => 0xffff
  | n + 1 => crc16Update (crc16Update (crc16Words lo hi n) (hi n)) (lo n)

theorem crc16Words_succ (lo hi : Nat → UInt8) (n : Nat) :
    crc16Words lo hi (n + 1) = crc16Update (crc16Update (crc16Words lo hi n) (hi n)) (lo n) := rfl

/-- The checksum looks at the words it counts and at nothing else. -/
theorem crc16Words_congr {lo hi lo' hi' : Nat → UInt8} {n : Nat}
    (hlo : ∀ i, i < n → lo i = lo' i) (hhi : ∀ i, i < n → hi i = hi' i) :
    crc16Words lo hi n = crc16Words lo' hi' n := by
  induction n with
  | zero => rfl
  | succ n ih =>
      unfold crc16Words
      rw [ih (fun i hi' => hlo i (by omega)) (fun i hi' => hhi i (by omega)),
        hlo n (by omega), hhi n (by omega)]

/-- The word 0xffff takes the start value to 0, and zeros keep it there. -/
theorem crc16Words_zero {lo hi : Nat → UInt8} {n : Nat} (h0 : lo 0 = 0xff ∧ hi 0 = 0xff)
    (h : ∀ i, 1 ≤ i → i ≤ n → lo i = 0 ∧ hi i = 0) : crc16Words lo hi (n + 1) = 0 := by
  induction n with
  | zero =>
      unfold crc16Words crc16Words
      rw [h0.1, h0.2]
      decide
  | succ n ih =>
      unfold crc16Words
      obtain ⟨hlo, hhi⟩ := h (n + 1) (by omega) (Nat.le_refl _)
      rw [ih (fun i h1 hi' => h i h1 (by omega)), hlo, hhi]
      decide

end OpenHcan.Flash
