import OpenHcan.Mqtt.MainLoop
import OpenHcan.Mqtt.MqttStream

/-!
# MqttClient — the main loop down to the bytes of the socket

`MainLoop` takes the publish of a turn as given. Here it comes out of the
socket: `rxFromBroker` zeroes the buffer and calls `MQTTPacket_readnb` once.
What is not a whole packet by then returns 0, and the main loop takes a 0 for a
lost connection: it opens a new one, and the rest of the packet never arrives.

The loop over the bytes is the loop of `MainLoop` with the publishes that
`receivedAt` finds, and between two turns no packet is half read.
-/

namespace OpenHcan.Mqtt

open Lib

set_option maxRecDepth 100000

/-- `dStrLen`, the size of the buffer. -/
def dStrLen : Nat := 4000

/-- `memset(buf, '\0', buflen)` -/
def memset0 (buf : Nat → UInt8) : Nat → UInt8 := fun i => if i < dStrLen then 0 else buf i

/-- The characters from `p` up to `q`. -/
def charsFromTo (buf : Nat → UInt8) (p q : Nat) : List Char :=
  (List.range (q - p)).map fun i => Char.ofNat (buf (p + i)).toNat

/-! ## A connection -/

/-- The variables of the main loop, and the connection to the broker. -/
structure Client where
  main : Main
  reader : Reader Socket

/-- The publish in the buffer, if `rxFromBroker` takes one out of it: topic and
payload are pointers, and behind the payload the buffer is zero. -/
def receivedIn (junk : PublishOut) (buf : Nat → UInt8) : Option Received :=
  let (rcd, out) := mqttDeserializePublish buf { junk with payloadlen := 0 }
  if rcd = 1 ∧ 0 < out.payloadlen then
    some ⟨charsFromTo buf out.topicData out.payload,
      charsFromTo buf out.payload (out.payload + out.payloadlen.toNat)⟩
  else none

/-- `MQTTPacket_readnb` as `rxFromBroker` calls it. -/
def readnbZeroed (r : Reader Socket) : Int × Reader Socket :=
  mqttPacketReadnb transportGetdatanb dStrLen { r with buf := memset0 r.buf }

/-- The publish that `rxFromBroker` finds. -/
def receivedAt (junk : PublishOut) (r : Reader Socket) : Option Received :=
  let (rc, r) := readnbZeroed r
  if rc = MsgType.publish.code then receivedIn junk r.buf else none

/-- A turn: what `Turn` has but for the publish, the bytes that have arrived,
what the other direction has left in the buffer, the new connection if there is
one, and what the variables hold that are not initialised. -/
structure NetTurn where
  turn : Turn
  arrived : Socket
  left : Nat → UInt8
  reconnect : Option Socket
  junk : PublishOut
  granted : SubackOut
  connack : ConnackOut

/-- The pieces that have arrived lie behind those that are there. -/
def Reader.arrive (r : Reader Socket) (t : NetTurn) : Reader Socket :=
  { r with sck := r.sck ++ t.arrived, buf := t.left }

section State

variable {σ : Type} {getfn : σ → Nat → Got × σ}

end State

/-- A whole packet that lies at the front of the socket. -/
def PacketAhead (sck : Socket) (h : UInt8) (body : List UInt8) : Prop :=
  ∃ taken rest, taken ++ rest = sck.flatten ∧
    emit (mqttFraming dStrLen) .header taken = (.header, [.packet h body])

/-- The turn with the publish `received`. -/
def NetTurn.having (t : NetTurn) (received : Option Received) : Turn :=
  { t.turn with received := received }

/-- The turn of `MainLoop` that a turn is. -/
def NetTurn.abstract (t : NetTurn) (r : Reader Socket) : Turn :=
  t.having (receivedAt t.junk (r.arrive t))

/-- The turn has a publish only if a whole packet was there for it. -/
def Justified (t : NetTurn) (r : Reader Socket) (turn : Turn) : Prop :=
  turn = t.abstract r ∧ ∀ rx, turn.received = some rx → ∃ h body,
    PacketAhead (r.sck ++ t.arrived) h body ∧ h.toNat / 16 = MsgType.publish.code ∧
      rx.payload ≠ [] ∧ rx.topicRx = (body.drop 2).map fun b => Char.ofNat b.toNat

/-- The turns of `MainLoop` for a run down to the bytes, each with a whole packet
for its publish, and with no packet half read when it begins. -/
inductive Refined (lib : CLib) : Client → List NetTurn → List Turn → Client → Prop
  | nil {c : Client} : Refined lib c [] [] c
  | cons {c c₁ c' : Client} {t : NetTurn} {ts : List NetTurn} {turn : Turn} {turns : List Turn}
      (hstate : c.reader.trp.state = 0) (hjust : Justified t c.reader turn)
      (hmain : c₁.main = mainTurn lib c.main turn) (hrest : Refined lib c₁ ts turns c') :
      Refined lib c (t :: ts) (turn :: turns) c'

theorem Refined.main {lib : CLib} {c c' : Client} {ts : List NetTurn} {turns : List Turn}
    (h : Refined lib c ts turns c') : c'.main = run (mainTurn lib) c.main turns := by
  induction h with
  | nil => rfl
  | cons _ _ hmain _ ih => rw [ih, run_cons, hmain]

end OpenHcan.Mqtt
