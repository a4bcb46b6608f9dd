import Mathlib.Data.List.TakeWhile
import Mathlib.Data.Rat.Defs
import Mathlib.Algebra.Order.Ring.Unbundled.Rat
import Mathlib.Tactic.NormNum

/-!
# CString — texts in C memory

A pointer to characters is the list of what lies from there on; behind its end
there are zero bytes. The functions of `string.h`, `stdlib.h` and `stdio.h`
are those the C standard describes, in the C locale.

A `float` is its exact value. The formats round that value to the nearest
decimal, ties to even.
-/

namespace OpenHcan.Lib

/-! ## Strings -/

/-- The terminator of a string. -/
def nul : Char := Char.ofNat 0

/-- The string a pointer refers to. -/
def text (s : List Char) : List Char := s.takeWhile fun ch => ch != nul

/-- `strnlen` -/
def strnlen (s : List Char) (n : Nat) : Nat := min (text s).length n

/-- `strncmp(s, t, n) == 0` -/
def strncmpEq : Nat → List Char → List Char → Bool
  | 0, _, _ => true
  | n + 1, s, t =>
      s.headD nul == t.headD nul && (s.headD nul == nul || strncmpEq n s.tail t.tail)

/-- `size_t` subtraction. -/
def sizeSub (a b : Nat) : Nat := (a + 2 ^ 64 - b) % 2 ^ 64

@[simp] theorem text_nil : text [] = [] := rfl

theorem text_cons (ch : Char) (s : List Char) :
    text (ch :: s) = if ch = nul then [] else ch :: text s := by
  rw [text, List.takeWhile_cons]
  by_cases h : ch = nul
  · simp [h]
  · simp [h, text]

theorem nul_notMem_text (s : List Char) : nul ∉ text s := by
  intro h
  have hne := List.mem_takeWhile_imp h
  simp at hne

/-- A text without terminator is followed by what lies behind it. -/
theorem text_append {s : List Char} (h : nul ∉ s) (t : List Char) :
    text (s ++ t) = s ++ text t := by
  apply List.takeWhile_append_of_pos
  intro ch hch
  have hne : ch ≠ nul := fun heq => h (heq ▸ hch)
  simpa using hne

/-- `strncmp` finds no difference iff the two strings have the same first `n`
characters. -/
theorem strncmpEq_iff (n : Nat) (s t : List Char) :
    strncmpEq n s t = true ↔ (text s).take n = (text t).take n := by
  induction n generalizing s t with
  | zero => simp [strncmpEq]
  | succ n ih =>
      cases s with
      | nil =>
          cases t with
          | nil => simp [strncmpEq]
          | cons b t =>
              rw [text_cons]
              by_cases hb : b = nul
              · simp [strncmpEq, hb]
              · simp [strncmpEq, hb, Ne.symm hb]
      | cons a s =>
          cases t with
          | nil =>
              rw [text_cons]
              by_cases ha : a = nul
              · simp [strncmpEq, ha]
              · simp [strncmpEq, ha]
          | cons b t =>
              rw [text_cons, text_cons]
              by_cases ha : a = nul
              · by_cases hb : b = nul
                · simp [strncmpEq, ha, hb]
                · simp [strncmpEq, ha, hb, Ne.symm hb]
              · by_cases hab : a = b
                · subst hab
                  simp [strncmpEq, ha, ih]
                · by_cases hb : b = nul
                  · simp [strncmpEq, ha, hb]
                  · simp [strncmpEq, ha, hb, hab]

/-! ## Numbers -/

/-- `isspace` -/
def isspace (ch : Char) : Bool := ch == ' ' || (9 ≤ ch.toNat && ch.toNat ≤ 13)

/-- The number a word of decimal digits stands for. -/
def decimal (ds : List Char) : Nat :=
  ds.foldl (fun n ch => n * 10 + (ch.toNat - '0'.toNat)) 0

/-- A number as `%u` prints it. -/
def printU (n : Nat) : List Char := Nat.toDigits 10 n

/-- A `long` is cut off at its ends. -/
def clampLong (longMax : Nat) (v : Int) : Int := max (-(longMax : Int) - 1) (min v longMax)

theorem clampLong_of_le {longMax n : Nat} (h : n ≤ longMax) : clampLong longMax n = n := by
  rw [clampLong]
  omega

/-- `strtol(s, &rest, 10)`: the number and `rest`. Without a digit the number
is 0 and `rest` is `s`. -/
def strtol (longMax : Nat) (s : List Char) : Int × List Char :=
  let body := s.dropWhile isspace
  let negative := body.head? == some '-'
  let digits := if negative || body.head? == some '+' then body.tail else body
  let ds := digits.takeWhile Char.isDigit
  if ds.isEmpty then (0, s)
  else (clampLong longMax (if negative then -(decimal ds : Int) else decimal ds),
    digits.dropWhile Char.isDigit)

theorem isspace_of_isDigit {ch : Char} (h : ch.isDigit = true) : isspace ch = false := by
  simp only [Char.isDigit, Bool.and_eq_true, decide_eq_true_eq] at h
  have h48 : 48 ≤ ch.toNat := UInt32.le_iff_toNat_le.mp h.1
  have hne : ch ≠ ' ' := by
    rintro rfl
    exact absurd h48 (by decide)
  simp [isspace, hne]
  omega

/-- On a digit `strtol` reads the longest row of digits. -/
theorem strtol_digits (longMax : Nat) {ds rest : List Char} (hne : ds ≠ [])
    (hds : ∀ ch ∈ ds, ch.isDigit = true) (hrest : rest.head?.all fun ch => !ch.isDigit) :
    strtol longMax (ds ++ rest) = (clampLong longMax (decimal ds), rest) := by
  obtain ⟨d, ds', rfl⟩ := List.exists_cons_of_ne_nil hne
  have hd : d.isDigit = true := hds d (by simp)
  have hspace : isspace d = false := isspace_of_isDigit hd
  have hminus : d ≠ '-' := by
    intro heq
    subst heq
    simp at hd
  have hplus : d ≠ '+' := by
    intro heq
    subst heq
    simp at hd
  have htake : rest.takeWhile Char.isDigit = [] := by
    cases rest with
    | nil => rfl
    | cons ch rest => simp_all
  have hdrop : rest.dropWhile Char.isDigit = rest := by
    cases rest with
    | nil => rfl
    | cons ch rest => simp_all
  have hbody : (d :: ds' ++ rest).dropWhile isspace = d :: ds' ++ rest := by
    simp [hspace]
  rw [strtol, hbody]
  simp only [List.cons_append, List.head?_cons, Option.some_beq_some,
    beq_eq_false_iff_ne.mpr hminus, beq_eq_false_iff_ne.mpr hplus, Bool.false_or,
    Bool.false_eq_true, if_false]
  rw [← List.cons_append, List.takeWhile_append_of_pos hds, List.dropWhile_append_of_pos hds,
    htake, hdrop]
  simp

theorem isDigit_of_mem_printU {n : Nat} {ch : Char} (h : ch ∈ printU n) : ch.isDigit = true :=
  Nat.isDigit_of_mem_toDigits (by decide) (by decide) h

theorem notMem_printU {ch : Char} (hch : ch.isDigit = false) (n : Nat) : ch ∉ printU n := by
  intro hmem
  rw [isDigit_of_mem_printU hmem] at hch
  cases hch

/-- A printed number reads as itself. -/
theorem decimal_printU (n : Nat) : decimal (printU n) = n := by
  have hcomm : decimal (printU n) = Nat.ofDigitChars 10 (printU n) 0 := by
    unfold decimal Nat.ofDigitChars
    simp only [Nat.mul_comm]
  rw [hcomm, printU, Nat.ofDigitChars_toDigits (by decide) (by decide)]

theorem strtol_printU {longMax n : Nat} (h : n ≤ longMax) : (strtol longMax (printU n)).1 = n := by
  have hread := @strtol_digits longMax (printU n) [] Nat.toDigits_ne_nil
    (fun ch hch => isDigit_of_mem_printU hch) rfl
  rw [List.append_nil] at hread
  rw [hread]
  show clampLong longMax (decimal (printU n)) = n
  rw [decimal_printU, clampLong_of_le h]

/-! ## Floats -/

/-- The value of a `float`: a magnitude with its sign, an infinity or no
number. -/
inductive CFloat where
  | finite (negative : Bool) (magnitude : Rat)
  | infinite (negative : Bool)
  | nan
deriving DecidableEq, Repr

/-- `n / 16.0`, which a `float` holds exactly for a 16-bit `n`. -/
def CFloat.sixteenths (n : Nat) : CFloat := .finite false (n / 16)

/-- The comparison `x > n` with a whole number. -/
def CFloat.greater (x : CFloat) (n : Nat) : Bool :=
  match x with
  | .finite negative magnitude => !negative && decide ((n : Rat) < magnitude)
  | .infinite negative => !negative
  | .nan => false

/-- The quotient rounded to the nearest whole number, ties to even. -/
def roundHalfEven (a b : Nat) : Nat :=
  if 2 * (a % b) < b ∨ (2 * (a % b) = b ∧ (a / b) % 2 = 0) then a / b else a / b + 1

/-- `%.1f`, `%.2f`: the value with `digits` decimal places. -/
def CFloat.print (digits : Nat) (x : CFloat) : List Char :=
  match x with
  | .finite negative magnitude =>
      let n := roundHalfEven (magnitude.num.toNat * 10 ^ digits) magnitude.den
      let places := printU (n % 10 ^ digits)
      (if negative then ['-'] else []) ++ printU (n / 10 ^ digits) ++ '.' ::
        (List.replicate (digits - places.length) '0' ++ places)
  | .infinite negative => (if negative then ['-'] else []) ++ "inf".toList
  | .nan => "nan".toList

/-- `(uint16_t)(16. * x)`. Outside of the range the C standard leaves the
result open; the conversion keeps the low bits of the integer. -/
def CFloat.sixteenthsOf (x : CFloat) : UInt16 :=
  match x with
  | .finite negative magnitude =>
      let n := UInt16.ofNat ((16 * magnitude).num.toNat / (16 * magnitude).den)
      if negative then -n else n
  | .infinite _ => 0
  | .nan => 0

theorem CFloat.sixteenths_injective : Function.Injective CFloat.sixteenths := by
  intro m n h
  have hq : (m : Rat) / 16 = n / 16 := by
    simpa [CFloat.sixteenths] using h
  have hmn : (m : Rat) = n := by
    have h16 : (16 : Rat) ≠ 0 := by norm_num
    exact (div_left_inj' h16).mp hq
  exact_mod_cast hmn

end OpenHcan.Lib
