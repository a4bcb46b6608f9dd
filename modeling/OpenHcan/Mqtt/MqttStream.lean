import OpenHcan.Mqtt.MqttReadBack

/-!
# MqttStream — packets from a socket

`MQTTPacket_readnb` takes a packet off a socket that may have a part of it only.
It keeps in `MQTTTransport` how far it has come, and the next call goes on from
there. Whatever the pieces in which the bytes arrive, the packets are those of
the automaton of `Framing`, which sees one byte after the other.
-/

namespace OpenHcan.Mqtt

open Lib

/-! ## The functions -/

/-- What `getfn` returns: -1, 0 for call again, or the bytes it has read. -/
inductive Got
  | error
  | again
  | bytes (l : List UInt8)
deriving DecidableEq, Repr

/-- `MQTTTransport`, but for the source and its function. -/
structure MQTTTransport where
  multiplier : Nat
  rem_len : Nat
  len : Nat
  state : Nat
deriving DecidableEq, Repr

/-- A length byte is counted, and its digit is added. -/
def MQTTTransport.digit (trp : MQTTTransport) (c : UInt8) : MQTTTransport :=
  { trp with
    len := trp.len + 1
    rem_len := trp.rem_len + c.toNat % 128 * trp.multiplier
    multiplier := trp.multiplier * 128 }

/-- The buffer, the transport and what `sck` stands for. -/
structure Reader (σ : Type) where
  buf : Nat → UInt8
  trp : MQTTTransport
  sck : σ

section

variable {σ : Type} (getfn : σ → Nat → Got × σ)

/-- The loop of `MQTTPacket_decodenb`, with `left` bytes to `trp->len` being 4. -/
def decodenbLoop : Nat → MQTTTransport → σ → Int × MQTTTransport × σ
  | 0, trp, sck => (mqttPacketReadError, trp, sck)
  | left + 1, trp, sck =>
      match getfn sck 1 with
      | (.error, sck) => (mqttPacketReadError, trp, sck)
      | (.again, sck) => (0, trp, sck)
      | (.bytes l, sck) =>
          let c := l.headD 0
          let trp := trp.digit c
          if c.toNat < 128 then (trp.len, trp, sck) else decodenbLoop left trp sck

/-- `MQTTPacket_decodenb` -/
def mqttPacketDecodenb (trp : MQTTTransport) (sck : σ) : Int × MQTTTransport × σ :=
  let trp := if trp.len = 0 then { trp with multiplier := 1, rem_len := 0 } else trp
  decodenbLoop getfn (4 - trp.len) trp sck

/-- `exit:` of `MQTTPacket_readnb` -/
def readnbExit (rc : Int) (buf : Nat → UInt8) (trp : MQTTTransport) (sck : σ) : Int × Reader σ :=
  (rc, ⟨buf, { trp with state := 0 }, sck⟩)

/-- The type of the packet in the buffer. -/
def packetType (buf : Nat → UInt8) : Int := (MQTTHeader.ofByte (buf 0)).type

/-- `case 2:` the rest of the packet. -/
def readnbRest (buf : Nat → UInt8) (trp : MQTTTransport) (sck : σ) : Int × Reader σ :=
  if trp.rem_len = 0 then readnbExit (packetType buf) buf trp sck
  else
    match getfn sck trp.rem_len with
    | (.error, sck) => readnbExit (-1) buf trp sck
    | (.again, sck) => (0, ⟨buf, trp, sck⟩)
    | (.bytes l, sck) =>
        let buf := ((Writer.mk buf trp.len).puts l).buf
        let trp := { trp with rem_len := trp.rem_len - l.length, len := trp.len + l.length }
        if trp.rem_len = 0 then readnbExit (packetType buf) buf trp sck else (0, ⟨buf, trp, sck⟩)

/-- `case 1:` the remaining length, which is put back into the buffer. -/
def readnbLength (buflen : Nat) (buf : Nat → UInt8) (trp : MQTTTransport) (sck : σ) :
    Int × Reader σ :=
  let (frc, trp, sck) := mqttPacketDecodenb getfn trp sck
  if frc = mqttPacketReadError then readnbExit (-1) buf trp sck
  else if frc = 0 then (0, ⟨buf, trp, sck⟩)
  else
    let buf := ((Writer.mk buf 1).puts (mqttPacketEncode trp.rem_len)).buf
    let trp := { trp with len := 1 + (mqttPacketEncode trp.rem_len).length }
    if trp.rem_len + trp.len > buflen then readnbExit (-1) buf trp sck
    else readnbRest getfn buf { trp with state := 2 } sck

/-- `case 0:` the header byte. -/
def readnbHeader (buflen : Nat) (buf : Nat → UInt8) (trp : MQTTTransport) (sck : σ) :
    Int × Reader σ :=
  match getfn sck 1 with
  | (.error, sck) => readnbExit (-1) buf trp sck
  | (.again, sck) => (0, ⟨buf, trp, sck⟩)
  | (.bytes l, sck) =>
      let buf := ((Writer.mk buf 0).puts l).buf
      readnbLength getfn buflen buf { trp with len := 0, state := 1 } sck

/-- `MQTTPacket_readnb`: the type of a packet, 0 for call again, or -1. -/
def mqttPacketReadnb (buflen : Nat) (r : Reader σ) : Int × Reader σ :=
  if r.trp.state = 1 then readnbLength getfn buflen r.buf r.trp r.sck
  else if r.trp.state = 2 then readnbRest getfn r.buf r.trp r.sck
  else readnbHeader getfn buflen r.buf { r.trp with state := 0 } r.sck

end

/-- A socket: the pieces in which the bytes arrive. Before an empty one the
timeout of the socket passes. -/
abbrev Socket := List (List UInt8)

/-- `transport_getdatanb` with `recv`: what is there, at most `count` bytes. A
timeout is a zero, and so is the end of the connection. -/
def transportGetdatanb : Socket → Nat → Got × Socket
  | [], _ => (.again, [])
  | [] :: segs, _ => (.again, segs)
  | seg :: segs, count =>
      (.bytes (seg.take count),
        if seg.length ≤ count then segs else seg.drop count :: segs)

/-- What `recv` leaves, and what it gives. -/
theorem getdatanb_cases (sck : Socket) {count : Nat} (h : 0 < count) :
    (∃ sck', transportGetdatanb sck count = (.again, sck') ∧ sck'.flatten = sck.flatten ∧
      sck'.length ≤ sck.length ∧ (sck ≠ [] → sck'.length < sck.length)) ∨
    (∃ l sck', transportGetdatanb sck count = (.bytes l, sck') ∧ l ≠ [] ∧ l.length ≤ count ∧
      l ++ sck'.flatten = sck.flatten ∧ sck'.length ≤ sck.length) := by
  match sck with
  | [] => exact .inl ⟨[], rfl, rfl, Nat.le_refl _, fun h => absurd rfl h⟩
  | [] :: segs => exact .inl ⟨segs, rfl, rfl, Nat.le_succ _, fun _ => Nat.lt_succ_self _⟩
  | (b :: seg) :: segs =>
      refine .inr ⟨(b :: seg).take count, _, rfl, ?_, by simp, ?_, ?_⟩
      · obtain ⟨count, rfl⟩ : ∃ i, count = i + 1 := ⟨count - 1, by omega⟩
        simp
      · split
        · rename_i hle
          rw [List.take_of_length_le hle, List.flatten_cons]
        · rw [List.flatten_cons, List.flatten_cons, ← List.append_assoc, List.take_append_drop]
      · split
        · exact Nat.le_succ _
        · exact Nat.le_refl _

theorem getdatanb_one (sck : Socket) :
    (∃ sck', transportGetdatanb sck 1 = (.again, sck') ∧ sck'.flatten = sck.flatten ∧
      sck'.length ≤ sck.length ∧ (sck ≠ [] → sck'.length < sck.length)) ∨
    (∃ c sck', transportGetdatanb sck 1 = (.bytes [c], sck') ∧
      c :: sck'.flatten = sck.flatten ∧ sck'.length ≤ sck.length) := by
  obtain hagain | ⟨l, sck', heq, hne, hlen, hflat, hle⟩ := getdatanb_cases sck Nat.one_pos
  · exact .inl hagain
  · match l, hne, hlen with
    | [c], _, _ => exact .inr ⟨c, sck', heq, hflat, hle⟩

/-! ## The automaton -/

/-- The whole packet fits the buffer. -/
def fitsBuf (buflen : Nat) (n : Nat) : Bool :=
  n + (1 + (mqttPacketEncode n).length) ≤ buflen

/-- The automaton of a reader with a buffer of `buflen` bytes. -/
def mqttFraming (buflen : Nat) : Framing → UInt8 → Framing × List Framed :=
  frameStep 4 (fitsBuf buflen)

/-- How far a reader has come. -/
inductive Reached (buflen : Nat) : Framing → (Nat → UInt8) → MQTTTransport → Prop
  | header {buf : Nat → UInt8} {trp : MQTTTransport} (hstate : trp.state = 0) :
      Reached buflen .header buf trp
  | length {buf : Nat → UInt8} {trp : MQTTTransport} {h : UInt8} {count rem mult : Nat}
      (hstate : trp.state = 1) (hcount : trp.len = count) (hlt : count < 4)
      (hbyte : buf 0 = h) (hmult : mult = 128 ^ count) (hrem : rem < mult)
      (hvalue : count ≠ 0 → trp.rem_len = rem ∧ trp.multiplier = mult) :
      Reached buflen (.length h count rem mult) buf trp
  | body {buf : Nat → UInt8} {trp : MQTTTransport} {h : UInt8} {rem : Nat} {got : List UInt8}
      (hstate : trp.state = 2) (hrem : trp.rem_len + got.length = rem) (hpos : 0 < trp.rem_len)
      (hbound : rem < 128 ^ 4) (hlen : trp.len = bodyStart rem + got.length)
      (hbuf : Holds buf 0 (h :: mqttPacketEncode rem ++ got)) :
      Reached buflen (.body h rem got) buf trp

/-- What the caller of `MQTTPacket_readnb` learns of what the automaton
delivers, if it delivers anything. -/
def Learns (evs : List Framed) (rc : Int) (buf : Nat → UInt8) : Prop :=
  match evs with
  | [] => rc = 0
  | [.packet h body] => rc = h.toNat / 16 ∧ Holds buf 0 (frame 4 (h, body)) ∧ body.length < 128 ^ 4
  | [.bad] => rc = -1
  | _ => False

/-- What a part of `MQTTPacket_readnb` does that starts where the automaton is
at `a`: it takes some bytes off the socket, and what the automaton does with
them is what the result shows. -/
def Follows (buflen : Nat) (a : Framing) (sck : Socket) (res : Int × Reader Socket) : Prop :=
  ∃ taken,
    taken ++ res.2.sck.flatten = sck.flatten ∧
    res.2.sck.length ≤ sck.length ∧
    (sck ≠ [] → taken ≠ [] ∨ res.2.sck.length < sck.length) ∧
    Reached buflen (emit (mqttFraming buflen) a taken).1 res.2.buf res.2.trp ∧
    Learns (emit (mqttFraming buflen) a taken).2 res.1 res.2.buf

/-! ## Part by part -/

/-- A part after some bytes that are taken already. -/
theorem Follows.after {buflen : Nat} {a a' : Framing} {sck sck' : Socket} {taken : List UInt8}
    {res : Int × Reader Socket} (hemit : emit (mqttFraming buflen) a taken = (a', []))
    (hflat : taken ++ sck'.flatten = sck.flatten) (hle : sck'.length ≤ sck.length)
    (hne : taken ≠ []) (h : Follows buflen a' sck' res) : Follows buflen a sck res := by
  obtain ⟨more, hmore, hlen, -, hreached, hlearns⟩ := h
  have hboth : emit (mqttFraming buflen) a (taken ++ more) = emit (mqttFraming buflen) a' more := by
    rw [emit_append, hemit]
    rfl
  refine ⟨taken ++ more, ?_, Nat.le_trans hlen hle, ?_, ?_, ?_⟩
  · rw [List.append_assoc, hmore, hflat]
  · exact fun _ => .inl (List.append_ne_nil_of_left_ne_nil hne more)
  · rwa [hboth]
  · rwa [hboth]

/-- Where the automaton gives up, the reader starts again. -/
theorem Follows.bad {buflen : Nat} {a : Framing} {sck sck' : Socket} {taken : List UInt8}
    (buf : Nat → UInt8) (trp : MQTTTransport)
    (hemit : emit (mqttFraming buflen) a taken = (.header, [.bad]))
    (hflat : taken ++ sck'.flatten = sck.flatten) (hle : sck'.length ≤ sck.length)
    (hprog : sck ≠ [] → taken ≠ [] ∨ sck'.length < sck.length) :
    Follows buflen a sck (readnbExit (-1) buf trp sck') := by
  refine ⟨taken, hflat, hle, hprog, ?_, ?_⟩
  · rw [hemit]
    exact .header rfl
  · rw [hemit]
    exact rfl

/-- Where the automaton has a packet, the buffer holds it. -/
theorem Follows.packet {buflen : Nat} {a : Framing} {sck sck' : Socket} {taken : List UInt8}
    {h : UInt8} {body : List UInt8} {buf : Nat → UInt8} (trp : MQTTTransport)
    (hemit : emit (mqttFraming buflen) a taken = (.header, [.packet h body]))
    (hbuf : Holds buf 0 (frame 4 (h, body))) (hbound : body.length < 128 ^ 4)
    (hflat : taken ++ sck'.flatten = sck.flatten) (hle : sck'.length ≤ sck.length)
    (hne : taken ≠ []) : Follows buflen a sck (readnbExit (packetType buf) buf trp sck') := by
  refine ⟨taken, hflat, hle, fun _ => .inl hne, ?_, ?_⟩
  · rw [hemit]
    exact .header rfl
  · rw [hemit]
    refine ⟨?_, hbuf, hbound⟩
    simp only [readnbExit, packetType, MQTTHeader.ofByte, (holds_cons.mp hbuf).1]
    rfl

/-- `case 2:` with bytes missing. -/
theorem follows_rest {buflen : Nat} {h : UInt8} {rem : Nat} {got : List UInt8}
    {buf : Nat → UInt8} {trp : MQTTTransport} (hr : Reached buflen (.body h rem got) buf trp)
    (sck : Socket) :
    Follows buflen (.body h rem got) sck (readnbRest transportGetdatanb buf trp sck) := by
  cases hr with
  | body hstate hrem hpos hbound hlen hbuf =>
  have hne : ¬ trp.rem_len = 0 := by omega
  simp only [readnbRest, hne, if_false]
  obtain ⟨sck', heq, hflat, hle, hlt⟩ | ⟨l, sck', heq, hl, hcount, hflat, hle⟩ :=
    getdatanb_cases sck hpos
  · rw [heq]
    exact ⟨[], hflat, hle, fun hsck => .inr (hlt hsck),
      .body hstate hrem hpos hbound hlen hbuf, rfl⟩
  · rw [heq]
    have hlength : 0 + (h :: mqttPacketEncode rem ++ got).length = trp.len := by
      rw [List.length_append, List.length_cons, hlen, bodyStart]
      omega
    -- the new bytes lie behind those that are there
    have hbuf' : Holds ((Writer.mk buf trp.len).puts l).buf 0
        (h :: mqttPacketEncode rem ++ (got ++ l)) := by
      rw [← List.append_assoc, ← hlength]
      exact hbuf.puts l
    rcases Nat.eq_or_lt_of_le hcount with hall | hsome
    · have hzero : trp.rem_len - l.length = 0 := by omega
      have hbody : (got ++ l).length = rem := by
        rw [List.length_append]
        omega
      have hemit : emit (mqttFraming buflen) (.body h rem got) l =
          (.header, [.packet h (got ++ l)]) := emit_body h l hl (by omega)
      simp only [hzero, if_true]
      refine Follows.packet _ hemit ?_ (by rwa [hbody]) hflat hle hl
      rw [frame, hbody]
      exact hbuf'
    · have hmore : ¬ trp.rem_len - l.length = 0 := by omega
      have hemit : emit (mqttFraming buflen) (.body h rem got) l = (.body h rem (got ++ l), []) :=
        emit_body_short h l (by omega)
      simp only [hmore, if_false]
      refine ⟨l, hflat, hle, fun _ => .inl hl, ?_, ?_⟩
      · rw [hemit]
        refine .body hstate ?_ (Nat.pos_of_ne_zero hmore) hbound ?_ hbuf'
        · rw [List.length_append]
          simp only
          omega
        · rw [List.length_append]
          simp only
          omega
      · rw [hemit]
        exact rfl

/-- The value so far has no more digits than have been read. -/
structure MQTTTransport.Digits (trp : MQTTTransport) : Prop where
  mult : trp.multiplier = 128 ^ trp.len
  rem : trp.rem_len < trp.multiplier

theorem MQTTTransport.Digits.digit {trp : MQTTTransport} (h : trp.Digits) (c : UInt8) :
    (trp.digit c).Digits := by
  constructor
  · show trp.multiplier * 128 = 128 ^ (trp.len + 1)
    rw [h.mult, pow_succ]
  · show trp.rem_len + c.toNat % 128 * trp.multiplier < trp.multiplier * 128
    have hdigit : c.toNat % 128 ≤ 127 := by omega
    have hmul : c.toNat % 128 * trp.multiplier ≤ 127 * trp.multiplier :=
      Nat.mul_le_mul_right _ hdigit
    have hrem := h.rem
    omega

theorem MQTTTransport.Digits.lt {trp : MQTTTransport} (h : trp.Digits) (hlen : trp.len ≤ 4) :
    trp.rem_len < 128 ^ 4 := by
  have hpow : 128 ^ trp.len ≤ 128 ^ 4 := Nat.pow_le_pow_right (by omega) hlen
  have hrem := h.rem
  rw [h.mult] at hrem
  omega

/-- What the loop over the length bytes comes to. -/
inductive LengthLoop (buflen : Nat) (h : UInt8) (trp : MQTTTransport) (taken : List UInt8) :
    Int → MQTTTransport → Prop
  | bad {trp' : MQTTTransport}
      (hemit : emit (mqttFraming buflen) (.length h trp.len trp.rem_len trp.multiplier) taken =
        (.header, [.bad])) :
      LengthLoop buflen h trp taken mqttPacketReadError trp'
  | again {trp' : MQTTTransport}
      (hemit : emit (mqttFraming buflen) (.length h trp.len trp.rem_len trp.multiplier) taken =
        (.length h trp'.len trp'.rem_len trp'.multiplier, []))
      (hlen : trp'.len < 4) (hdigits : trp'.Digits) (hstate : trp'.state = trp.state) :
      LengthLoop buflen h trp taken 0 trp'
  | done {frc : Int} {trp' : MQTTTransport}
      (hemit : emit (mqttFraming buflen) (.length h trp.len trp.rem_len trp.multiplier) taken =
        lengthDone (fitsBuf buflen) h trp'.rem_len)
      (hpos : 0 < frc) (hne : taken ≠ []) (hrem : trp'.rem_len < 128 ^ 4)
      (hstate : trp'.state = trp.state) :
      LengthLoop buflen h trp taken frc trp'

/-- The loop with a byte more. -/
theorem LengthLoop.of_emit_eq {buflen : Nat} {h : UInt8} {trp trp₁ trp' : MQTTTransport}
    {taken taken' : List UInt8} {frc : Int} (hl : LengthLoop buflen h trp₁ taken frc trp')
    (hemit : emit (mqttFraming buflen) (.length h trp.len trp.rem_len trp.multiplier) taken' =
      emit (mqttFraming buflen) (.length h trp₁.len trp₁.rem_len trp₁.multiplier) taken)
    (hne : taken' ≠ []) (hstate : trp₁.state = trp.state) :
    LengthLoop buflen h trp taken' frc trp' := by
  cases hl with
  | bad h1 => exact .bad (hemit.trans h1)
  | again h1 hlen hdigits hs => exact .again (hemit.trans h1) hlen hdigits (hs.trans hstate)
  | done h1 hpos _ hrem hs => exact .done (hemit.trans h1) hpos hne hrem (hs.trans hstate)

/-- A length byte that is the last one. -/
theorem emit_lastDigit {buflen : Nat} {h : UInt8} {trp : MQTTTransport} {c : UInt8}
    (hc : c.toNat < 128) :
    emit (mqttFraming buflen) (.length h trp.len trp.rem_len trp.multiplier) [c] =
      lengthDone (fitsBuf buflen) h (trp.digit c).rem_len := by
  simp only [emit_cons, emit_nil, mqttFraming, frameStep, hc, if_true, List.append_nil]
  rfl

/-- A length byte after which another one must come. -/
theorem emit_digit {buflen : Nat} {h : UInt8} {trp : MQTTTransport} {c : UInt8}
    (hc : ¬ c.toNat < 128) :
    emit (mqttFraming buflen) (.length h trp.len trp.rem_len trp.multiplier) [c] =
      if trp.len + 1 = 4 then (.header, [.bad])
      else (.length h (trp.digit c).len (trp.digit c).rem_len (trp.digit c).multiplier, []) := by
  simp only [emit_cons, emit_nil, mqttFraming, frameStep, hc, if_false, List.append_nil]
  split
  · rfl
  · rfl

/-- What the loop has taken off the socket, and what it comes to. -/
def LengthLoopOf (buflen : Nat) (h : UInt8) (trp : MQTTTransport) (sck : Socket)
    (res : Int × MQTTTransport × Socket) : Prop :=
  ∃ taken, LengthLoop buflen h trp taken res.1 res.2.1 ∧
    taken ++ res.2.2.flatten = sck.flatten ∧ res.2.2.length ≤ sck.length ∧
    (sck ≠ [] → taken ≠ [] ∨ res.2.2.length < sck.length)

theorem lengthLoop_spec (buflen : Nat) (h : UInt8) {left : Nat} : ∀ {trp : MQTTTransport},
    0 < left → trp.len + left = 4 → trp.Digits → ∀ sck : Socket,
    LengthLoopOf buflen h trp sck (decodenbLoop transportGetdatanb left trp sck) := by
  induction left with
  | zero => exact fun hpos => absurd hpos (Nat.lt_irrefl 0)
  | succ left ih =>
      intro trp _ hlen hdigits sck
      obtain ⟨sck', heq, hflat, hle, hlt⟩ | ⟨c, sck', heq, hflat, hle⟩ := getdatanb_one sck
      · have hmore : trp.len < 4 := by omega
        simp only [decodenbLoop, heq]
        exact ⟨[], .again rfl hmore hdigits rfl, hflat, hle, fun hsck => .inr (hlt hsck)⟩
      simp only [decodenbLoop, heq, List.headD_cons]
      by_cases hc : c.toNat < 128
      · simp only [hc, if_true]
        have hlast : (trp.digit c).len ≤ 4 := by
          show trp.len + 1 ≤ 4
          omega
        have hfrc : (0 : Int) < ((trp.digit c).len : Int) := by
          show (0 : Int) < ((trp.len + 1 : Nat) : Int)
          omega
        exact ⟨[c], .done (emit_lastDigit hc) hfrc (List.cons_ne_nil c [])
          ((hdigits.digit c).lt hlast) rfl, hflat, hle, fun _ => .inl (List.cons_ne_nil c [])⟩
      · simp only [hc, if_false]
        have hemit := @emit_digit buflen h trp c hc
        cases left with
        | zero =>
            -- the fourth byte is not the last one
            rw [if_pos (by omega)] at hemit
            exact ⟨[c], .bad hemit, hflat, hle, fun _ => .inl (List.cons_ne_nil c [])⟩
        | succ left =>
            rw [if_neg (by omega)] at hemit
            have hlen' : (trp.digit c).len + (left + 1) = 4 := by
              show trp.len + 1 + (left + 1) = 4
              omega
            obtain ⟨taken, hloop, hflat', hle', -⟩ :=
              ih (Nat.succ_pos left) hlen' (hdigits.digit c) sck'
            have hboth : emit (mqttFraming buflen)
                (.length h trp.len trp.rem_len trp.multiplier) ([c] ++ taken) =
                emit (mqttFraming buflen) (.length h (trp.digit c).len (trp.digit c).rem_len
                  (trp.digit c).multiplier) taken := by
              rw [emit_append, hemit]
              rfl
            refine ⟨[c] ++ taken, ?_, ?_, Nat.le_trans hle' hle,
              fun _ => .inl (List.cons_ne_nil c taken)⟩
            · exact hloop.of_emit_eq hboth (List.cons_ne_nil c taken) rfl
            · rw [List.append_assoc, hflat']
              exact hflat

/-- What `case 1:` does when the length is known: the packet is too long for the buffer,
or its rest is to come. -/
theorem follows_behindLength {buflen : Nat} {a : Framing} {h : UInt8} {buf : Nat → UInt8}
    {trp : MQTTTransport} {sck sck' : Socket} {taken : List UInt8}
    (hemit : emit (mqttFraming buflen) a taken = lengthDone (fitsBuf buflen) h trp.rem_len)
    (hbyte : buf 0 = h) (hbound : trp.rem_len < 128 ^ 4)
    (hflat : taken ++ sck'.flatten = sck.flatten) (hle : sck'.length ≤ sck.length)
    (hne : taken ≠ []) :
    Follows buflen a sck
      (let buf := ((Writer.mk buf 1).puts (mqttPacketEncode trp.rem_len)).buf
      let trp := { trp with len := 1 + (mqttPacketEncode trp.rem_len).length }
      if trp.rem_len + trp.len > buflen then readnbExit (-1) buf trp sck'
      else readnbRest transportGetdatanb buf { trp with state := 2 } sck') := by
  have hbuf : Holds ((Writer.mk buf 1).puts (mqttPacketEncode trp.rem_len)).buf 0
      (h :: mqttPacketEncode trp.rem_len) := by
    have hhead : Holds buf 0 [h] := holds_cons.mpr ⟨hbyte, holds_nil _ _⟩
    exact hhead.puts (mqttPacketEncode trp.rem_len)
  have hfits : fitsBuf buflen trp.rem_len =
      !decide (trp.rem_len + (1 + (mqttPacketEncode trp.rem_len).length) > buflen) := by
    rw [fitsBuf, ← decide_not]
    exact decide_eq_decide.mpr (by omega)
  rw [lengthDone, hfits, Bool.not_not] at hemit
  by_cases hbig : trp.rem_len + (1 + (mqttPacketEncode trp.rem_len).length) > buflen
  · rw [if_pos (decide_eq_true hbig)] at hemit
    simp only [hbig, if_true]
    exact Follows.bad _ _ hemit hflat hle fun _ => .inl hne
  · rw [if_neg (by rw [decide_eq_true_eq]; exact hbig)] at hemit
    simp only [hbig, if_false]
    by_cases hzero : trp.rem_len = 0
    · rw [if_pos hzero] at hemit
      simp only [readnbRest, hzero, if_true]
      rw [hzero] at hbuf
      refine Follows.packet _ hemit ?_ (by decide) hflat hle hne
      rw [frame, List.append_nil]
      exact hbuf
    · rw [if_neg hzero] at hemit
      refine Follows.after hemit hflat hle hne (follows_rest (.body rfl ?_ ?_ hbound ?_ ?_) sck')
      · exact Nat.add_zero _
      · exact Nat.pos_of_ne_zero hzero
      · rfl
      · rw [List.append_nil]
        exact hbuf

/-- `case 1:`, wherever in the length the reader is. -/
theorem follows_length {buflen : Nat} {h : UInt8} {count rem mult : Nat} {buf : Nat → UInt8}
    {trp : MQTTTransport} (hr : Reached buflen (.length h count rem mult) buf trp)
    (sck : Socket) :
    Follows buflen (.length h count rem mult) sck
      (readnbLength transportGetdatanb buflen buf trp sck) := by
  cases hr with
  | length hstate hcount hlt hbyte hmult hrem hvalue =>
  -- what `MQTTPacket_decodenb` starts its loop with
  obtain ⟨trp₁, htrp₁, hlen₁, hrem₁, hmult₁, hstate₁⟩ : ∃ trp₁ : MQTTTransport,
      (if trp.len = 0 then { trp with multiplier := 1, rem_len := 0 } else trp) = trp₁ ∧
      trp₁.len = count ∧ trp₁.rem_len = rem ∧ trp₁.multiplier = mult ∧ trp₁.state = 1 := by
    by_cases hzero : trp.len = 0
    · have hc : count = 0 := by omega
      subst hc
      rw [pow_zero] at hmult
      rw [if_pos hzero]
      exact ⟨_, rfl, hzero, by simp only; omega, hmult.symm, hstate⟩
    · rw [if_neg hzero]
      obtain ⟨h1, h2⟩ := hvalue (by omega)
      exact ⟨trp, rfl, hcount, h1, h2, hstate⟩
  have hdigits : trp₁.Digits := ⟨by rw [hmult₁, hlen₁, hmult], by rwa [hrem₁, hmult₁]⟩
  obtain ⟨taken, hloop, hflat, hle, hprog⟩ := @lengthLoop_spec buflen h (4 - trp₁.len) trp₁
    (by omega) (by omega) hdigits sck
  have hdec : mqttPacketDecodenb transportGetdatanb trp sck =
      decodenbLoop transportGetdatanb (4 - trp₁.len) trp₁ sck := by
    rw [mqttPacketDecodenb, htrp₁]
  rw [readnbLength, hdec]
  generalize decodenbLoop transportGetdatanb (4 - trp₁.len) trp₁ sck = res
    at hloop hflat hle hprog ⊢
  obtain ⟨frc, trp', sck'⟩ := res
  simp only at hloop hflat hle hprog ⊢
  have hstart : ∀ bytes, emit (mqttFraming buflen) (.length h count rem mult) bytes =
      emit (mqttFraming buflen) (.length h trp₁.len trp₁.rem_len trp₁.multiplier) bytes := by
    intro bytes
    rw [hlen₁, hrem₁, hmult₁]
  cases hloop with
  | bad hemit =>
      rw [if_pos rfl]
      exact Follows.bad buf trp' ((hstart taken).trans hemit) hflat hle hprog
  | again hemit hlen' hdigits' hstate' =>
      rw [if_neg (by decide), if_pos rfl]
      refine ⟨taken, hflat, hle, hprog, ?_, ?_⟩
      · rw [hstart, hemit]
        exact .length (hstate'.trans hstate₁) rfl hlen' hbyte hdigits'.mult hdigits'.rem
          fun _ => ⟨rfl, rfl⟩
      · rw [hstart, hemit]
        exact rfl
  | done hemit hpos hne hbound hstate' =>
      have hnerr : ¬ frc = mqttPacketReadError := by
        rw [mqttPacketReadError]
        omega
      rw [if_neg hnerr, if_neg (by omega)]
      exact follows_behindLength ((hstart taken).trans hemit) hbyte hbound hflat hle hne

/-- **One call of `MQTTPacket_readnb`** goes on with the automaton. -/
theorem follows_readnb {buflen : Nat} {a : Framing} {r : Reader Socket}
    (hr : Reached buflen a r.buf r.trp) :
    Follows buflen a r.sck (mqttPacketReadnb transportGetdatanb buflen r) := by
  cases hr with
  | header hstate =>
      simp only [mqttPacketReadnb, hstate, readnbHeader]
      rw [if_neg (by decide), if_neg (by decide)]
      obtain ⟨sck', heq, hflat, hle, hlt⟩ | ⟨c, sck', heq, hflat, hle⟩ := getdatanb_one r.sck
      · rw [heq]
        exact ⟨[], hflat, hle, fun hsck => .inr (hlt hsck), .header rfl, rfl⟩
      · rw [heq]
        have hemit : emit (mqttFraming buflen) .header [c] = (.length c 0 0 1, []) := rfl
        refine Follows.after hemit hflat hle (List.cons_ne_nil c []) (follows_length ?_ sck')
        have hbyte : ((Writer.mk r.buf 0).puts [c]).buf 0 = c :=
          (holds_cons.mp (Writer.holds_puts (Writer.mk r.buf 0) [c])).1
        exact .length rfl rfl (by decide) hbyte rfl (by decide) fun h => absurd rfl h
  | length hstate hcount hlt hbyte hmult hrem hvalue =>
      rw [mqttPacketReadnb, if_pos hstate]
      exact follows_length (.length hstate hcount hlt hbyte hmult hrem hvalue) r.sck
  | body hstate hrem hpos hbound hlen hbuf =>
      rw [mqttPacketReadnb, if_neg (by omega), if_pos hstate]
      exact follows_rest (.body hstate hrem hpos hbound hlen hbuf) r.sck

/-! ## Call after call -/

/-- The bytes of the packet in the buffer. -/
def packetBytes (buf : Nat → UInt8) : List UInt8 :=
  let (len, mylen) := mqttPacketDecodeBuf buf 1
  (List.range (1 + len + mylen)).map buf

/-- What a call returns that is not a call again: the packet, or an error. -/
def returned (res : Int × Reader Socket) : List (Int × List UInt8) :=
  if res.1 = 0 then [] else if res.1 = -1 then [(-1, [])] else [(res.1, packetBytes res.2.buf)]

/-- What `n` calls return, and the reader after them. -/
def readnbs (buflen : Nat) : Nat → Reader Socket → List (Int × List UInt8) × Reader Socket
  | 0, r => ([], r)
  | n + 1, r =>
      let res := mqttPacketReadnb transportGetdatanb buflen r
      let (outs, r) := readnbs buflen n res.2
      (returned res ++ outs, r)

/-- What a caller sees of what the automaton delivers. A packet of type 0 looks
like a call again. -/
def seen : Framed → List (Int × List UInt8)
  | .packet h body => if h.toNat / 16 = 0 then [] else [((h.toNat / 16 : Nat), frame 4 (h, body))]
  | .bad => [(-1, [])]

theorem holds_map_range {β : Type} {buf : Nat → β} {l : List β} (h : Holds buf 0 l) :
    (List.range l.length).map buf = l := by
  apply List.ext_getElem
  · simp
  · intro i h1 h2
    rw [List.getElem_map, List.getElem_range]
    have := h i h2
    rwa [Nat.zero_add] at this

theorem packetBytes_frame {buf : Nat → UInt8} {h : UInt8} {body : List UInt8}
    (hbuf : Holds buf 0 (frame 4 (h, body))) (hlen : body.length < 128 ^ 4) :
    packetBytes buf = frame 4 (h, body) := by
  have hdigits : Holds buf 1 (mqttPacketEncode body.length) :=
    (holds_append.mp (holds_cons.mp hbuf).2).1
  have hlength : (frame 4 (h, body)).length =
      1 + (mqttPacketEncode body.length).length + body.length := by
    simp only [frame, mqttPacketEncode, List.cons_append, List.length_cons, List.length_append]
    omega
  have hmap := holds_map_range hbuf
  rw [hlength] at hmap
  simp only [packetBytes, decodeBuf_encode hdigits hlen]
  exact hmap

theorem returned_of_learns {evs : List Framed} {res : Int × Reader Socket}
    (h : Learns evs res.1 res.2.buf) : returned res = evs.flatMap seen := by
  match evs, h with
  | [], h =>
      have hrc : res.1 = 0 := h
      rw [returned, if_pos hrc]
      rfl
  | [.packet h body], ⟨hrc, hbuf, hlen⟩ =>
      have hneg : ¬ res.1 = -1 := by omega
      by_cases hzero : h.toNat / 16 = 0
      · have hrc' : res.1 = 0 := by omega
        rw [returned, if_pos hrc']
        simp [seen, hzero]
      · have hrc' : ¬ res.1 = 0 := by omega
        rw [returned, if_neg hrc', if_neg hneg, packetBytes_frame hbuf hlen, hrc]
        simp [seen, hzero]
  | [.bad], h =>
      have hrc : res.1 = -1 := h
      rw [returned, hrc]
      rfl

/-- A run of calls goes on with the automaton. -/
theorem readnbs_follow {buflen : Nat} (n : Nat) : ∀ {a : Framing} {r : Reader Socket},
    Reached buflen a r.buf r.trp →
    ∃ taken, taken ++ (readnbs buflen n r).2.sck.flatten = r.sck.flatten ∧
      (r.sck.flatten.length + r.sck.length ≤ n → (readnbs buflen n r).2.sck = []) ∧
      Reached buflen (emit (mqttFraming buflen) a taken).1 (readnbs buflen n r).2.buf
        (readnbs buflen n r).2.trp ∧
      (readnbs buflen n r).1 = (emit (mqttFraming buflen) a taken).2.flatMap seen := by
  induction n with
  | zero =>
      intro a r hr
      refine ⟨[], rfl, ?_, hr, rfl⟩
      intro hle
      have hlength : r.sck.length = 0 := by omega
      exact List.length_eq_zero_iff.mp hlength
  | succ n ih =>
      intro a r hr
      obtain ⟨taken, hflat, hle, hprog, hreached, hlearns⟩ := follows_readnb hr
      obtain ⟨more, hflat', hempty, hreached', houts⟩ := ih hreached
      have hflatlen := congrArg List.length hflat
      rw [List.length_append] at hflatlen
      refine ⟨taken ++ more, ?_, ?_, ?_, ?_⟩
      · rw [List.append_assoc]
        exact (congrArg (taken ++ ·) hflat').trans hflat
      · intro hsize
        refine hempty ?_
        by_cases hsck : r.sck = []
        · rw [hsck] at hflatlen hle
          simp only [List.flatten_nil, List.length_nil] at hflatlen hle
          omega
        · rcases hprog hsck with hne | hlt
          · have hpos := List.length_pos_iff.mpr hne
            omega
          · omega
      · rw [emit_append]
        exact hreached'
      · rw [emit_append, List.flatMap_append, ← returned_of_learns hlearns, ← houts]
        rfl

/-- **The packets do not depend on the pieces** in which the bytes arrive: as
many calls as it takes return what the automaton finds in the stream. -/
theorem readnbs_stream {buflen n : Nat} {r : Reader Socket} (hstate : r.trp.state = 0)
    (hn : r.sck.flatten.length + r.sck.length ≤ n) :
    (readnbs buflen n r).1 =
      (emit (mqttFraming buflen) .header r.sck.flatten).2.flatMap seen := by
  obtain ⟨taken, hflat, hempty, -, houts⟩ :=
    @readnbs_follow buflen n .header r (.header hstate)
  rw [hempty hn, List.flatten_nil, List.append_nil] at hflat
  rw [houts, hflat]

/-! ## From serializer to reader -/

/-- A publish and a disconnect arrive in three pieces, with a pause. -/
def dreiStuecke : Reader Socket where
  buf := zeroed
  trp := ⟨0, 0, 0, 0⟩
  sck := [lampeOn.wire.take 1, lampeOn.wire.drop 1 ++ [224], [], [0]]

theorem readnbs_stream_dreiStuecke : (readnbs 14 20 dreiStuecke).1 =
    (emit (mqttFraming 14) .header dreiStuecke.sck.flatten).2.flatMap seen :=
  readnbs_stream rfl (by decide)

end OpenHcan.Mqtt
