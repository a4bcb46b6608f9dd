import OpenHcan.Lib.Base128
import OpenHcan.Lib.Demux

/-!
# Framing — packets in a byte stream

A packet is a header byte, the length of its body in digits of seven bits, and
the body. The automaton takes the stream apart, one byte after the other: after
the last byte of a packet it delivers the packet, and a length it does not take
is delivered as a `bad` one, with the next byte being a header again.
-/

namespace OpenHcan.Lib

/-- Between two packets, in the length of one, or in its body. -/
inductive Framing
  | header
  | length (h : UInt8) (count rem mult : Nat)
  | body (h : UInt8) (rem : Nat) (got : List UInt8)
deriving DecidableEq, Repr

/-- What the automaton delivers. -/
inductive Framed
  | packet (h : UInt8) (body : List UInt8)
  | bad
deriving DecidableEq, Repr

variable (digits : Nat) (fits : Nat → Bool)

/-- The length has been read. -/
def lengthDone (h : UInt8) (rem : Nat) : Framing × List Framed :=
  if !fits rem then (.header, [.bad])
  else if rem = 0 then (.header, [.packet h []])
  else (.body h rem [], [])

/-- A byte comes. At most `digits` bytes are a length. -/
def frameStep : Framing → UInt8 → Framing × List Framed
  | .header, b => (.length b 0 0 1, [])
  | .length h count rem mult, b =>
      if b.toNat < 128 then lengthDone fits h (rem + b.toNat % 128 * mult)
      else if count + 1 = digits then (.header, [.bad])
      else (.length h (count + 1) (rem + b.toNat % 128 * mult) (mult * 128), [])
  | .body h rem got, b =>
      if got.length + 1 = rem then (.header, [.packet h (got ++ [b])])
      else (.body h rem (got ++ [b]), [])

variable {digits fits}

/-- The bytes of a body, of which `got` are there. -/
theorem emit_body (h : UInt8) {rem : Nat} (bytes : List UInt8) : ∀ {got : List UInt8},
    bytes ≠ [] → got.length + bytes.length = rem →
    emit (frameStep digits fits) (.body h rem got) bytes =
      (.header, [.packet h (got ++ bytes)]) := by
  induction bytes with
  | nil => exact fun hne => absurd rfl hne
  | cons b bytes ih =>
      intro got _ hlen
      rw [List.length_cons] at hlen
      rw [emit_cons]
      cases bytes with
      | nil =>
          have hlast : got.length + 1 = rem := hlen
          simp only [frameStep, hlast, if_true, emit_nil, List.append_nil]
      | cons c bytes =>
          have hmore : ¬ got.length + 1 = rem := by
            rw [List.length_cons] at hlen
            omega
          have hrest : (got ++ [b]).length + (c :: bytes).length = rem := by
            simp only [List.length_append, List.length_cons, List.length_nil] at hlen ⊢
            omega
          simp only [frameStep, hmore, if_false]
          rw [ih (List.cons_ne_nil c bytes) hrest]
          simp

/-- As long as bytes are missing nothing is delivered. -/
theorem emit_body_short (h : UInt8) {rem : Nat} (bytes : List UInt8) : ∀ {got : List UInt8},
    got.length + bytes.length < rem →
    emit (frameStep digits fits) (.body h rem got) bytes = (.body h rem (got ++ bytes), []) := by
  induction bytes with
  | nil =>
      intro got _
      simp
  | cons b bytes ih =>
      intro got hlen
      have hmore : ¬ got.length + 1 = rem := by
        rw [List.length_cons] at hlen
        omega
      have hrest : (got ++ [b]).length + bytes.length < rem := by
        simp only [List.length_append, List.length_cons, List.length_nil] at hlen ⊢
        omega
      rw [emit_cons]
      simp only [frameStep, hmore, if_false]
      rw [ih hrest]
      simp

/-! ## Whole packets -/

/-- A packet on the wire. -/
def frame (k : Nat) (p : UInt8 × List UInt8) : List UInt8 := p.1 :: base128 k p.2.length ++ p.2

end OpenHcan.Lib
