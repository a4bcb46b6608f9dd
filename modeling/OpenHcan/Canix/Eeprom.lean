import OpenHcan.Canix.Frame

/-!
# Eeprom — the board's internal EEPROM

The EEPROM is a total function from addresses to bytes. The cells at and
behind the size of the part are whatever an out-of-range access returns.
Addresses are 16 bits wide (`ptr`).
-/

namespace OpenHcan

/-- The microcontrollers the firmwares are built for. -/
inductive Mcu
  | atmega32
  | atmega328p
  | atmega644p
deriving DecidableEq, Repr

abbrev Eeprom := Nat → UInt8

/-- The value of a 16-bit pointer expression. -/
def ptr (p : Nat) : Nat := p % 65536

theorem ptr_of_lt {p : Nat} (h : p < 65536) : ptr p = p := Nat.mod_eq_of_lt h

/-- `eeprom_read_byte` -/
def eepromReadByte (m : Eeprom) (p : Nat) : UInt8 := m p

/-- `eeprom_write_byte` -/
def eepromWriteByte (m : Eeprom) (p : Nat) (v : UInt8) : Eeprom :=
  fun q => if q = p then v else m q

/-- `eeprom_read_word` (little endian). -/
def eepromReadWord (m : Eeprom) (p : Nat) : Nat :=
  word (eepromReadByte m (p + 1)) (eepromReadByte m p)

@[simp] theorem eepromReadByte_write_self (m : Eeprom) (p : Nat) (v : UInt8) :
    eepromReadByte (eepromWriteByte m p v) p = v := by
  simp [eepromReadByte, eepromWriteByte]

theorem eepromWriteByte_of_ne (m : Eeprom) {p q : Nat} (v : UInt8) (h : q ≠ p) :
    eepromWriteByte m p v q = m q := by
  simp [eepromWriteByte, h]

@[simp] theorem eepromWriteByte_self (m : Eeprom) (p : Nat) (v : UInt8) :
    eepromWriteByte m p v p = v := by
  simp [eepromWriteByte]

/-- Writing what is there already changes nothing. -/
theorem eepromWriteByte_eq_self_iff (m : Eeprom) (p : Nat) (v : UInt8) :
    eepromWriteByte m p v = m ↔ m p = v := by
  constructor
  · intro h
    rw [← h, eepromWriteByte_self]
  · rintro rfl
    funext q
    by_cases hq : q = p
    · subst hq; simp
    · exact eepromWriteByte_of_ne m _ hq

end OpenHcan
