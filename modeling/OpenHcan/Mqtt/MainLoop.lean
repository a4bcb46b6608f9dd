import OpenHcan.Lib.Machine
import OpenHcan.Lib.RingBuffer
import OpenHcan.Mqtt.PrepareMsg

/-!
# MainLoop — the ring of messages for the CAN bus

The main loop of `hcan4mqttha`, as far as it fills and empties `mqttRxBuf`. A
turn may first queue a request of its own, without looking at the ring; when
`select` has found something it reads a publish, if the ring has a free slot,
and then writes the oldest message of the ring to the bus.

What `time` returns, what `select` finds and what the broker sends are
arbitrary. The direction from the bus to the broker is left out but for what
it leaves in its own ring and in the device table; a lost connection to the
broker is set up again or ends the program.
-/

namespace OpenHcan.Mqtt

open Lib

set_option maxRecDepth 100000

/-! ## Requests -/

namespace Hes

def heizungDetailsRequest : UInt8 := 50
def deviceStatesRequest : UInt8 := 75
def devicesConfigsRequest : UInt8 := 76

end Hes

/-- `strtok(s, "/")`: the first token, and what is behind it. -/
def strtok (s : List Char) : Option (List Char × List Char) :=
  let s := (text s).dropWhile fun ch => ch == '/'
  if s.isEmpty then none
  else some (s.takeWhile fun ch => ch != '/', s.dropWhile fun ch => ch != '/')

/-- `prepareReqMsg4cb`: the length of the message, or an error. -/
def prepareReqMsg4cb (lib : CLib) (msg : List Char) (msg4cb : CanFrame) : Int × CanFrame :=
  match strtok msg with
  | none => (0, msg4cb)
  | some (token, rest) =>
      if isKey token "RQC".toList then
        (2, { msg4cb with data := Function.update msg4cb.data 1 Hes.devicesConfigsRequest })
      else if isKey token "RQS".toList then
        (2, { msg4cb with data := Function.update msg4cb.data 1 Hes.deviceStatesRequest })
      else if isKey token "RQH".toList then
        match strtok rest with
        | none => (-19, msg4cb)
        | some (token, _) =>
            let data := Function.update msg4cb.data 2 (UInt8.ofInt (strtol lib.longMax token).1)
            (3, { msg4cb with data := Function.update data 1 Hes.heizungDetailsRequest })
      else (0, msg4cb)

/-! ## The loop -/

/-- The variables of `main`; `queued` and `written` are the messages that went
into the ring and to the socket, oldest first. -/
structure Main where
  g : Gateway
  haOnlineStateChanged : Bool
  rqsMsgSent : Bool
  timeoutSecsHaOnline : Int
  timeoutSecsRqs : Int
  queued : List CanFrame
  written : List CanFrame

/-- `mqttRxBuf[mqttBufWIdx] = f; mqttBufWIdx++;` -/
def Ring.push (r : Ring) (f : CanFrame) : Ring :=
  { r with buf := Function.update r.buf r.wIdx f, wIdx := nextIdx r.wIdx }

/-- `mqttBufRIdx++;` -/
def Ring.pop (r : Ring) : Ring := { r with rIdx := nextIdx r.rIdx }

/-- The message `f` goes into the ring. -/
def Main.enqueue (s : Main) (f : CanFrame) : Main :=
  { s with g := { s.g with mqttRx := s.g.mqttRx.push f }, queued := s.queued ++ [f] }

/-- `createReqMsg4cb` -/
def createReqMsg4cb (lib : CLib) (msg : List Char) (s : Main) : Main :=
  let (msgLen, f) := prepareReqMsg4cb lib msg (s.g.mqttRx.buf s.g.mqttRx.wIdx)
  if msgLen > 0 then s.enqueue (completeMsg4cb (UInt8.ofInt msgLen) f)
  else { s with g := { s.g with mqttRx := s.g.mqttRx.withOld f } }

/-- What the loop does before `select`, with what `time` returns. -/
def requestPart (lib : CLib) (s : Main) (now : Int) : Main :=
  if s.g.ha.haOnline then
    if s.haOnlineStateChanged then
      { createReqMsg4cb lib "RQC".toList s with
        timeoutSecsRqs := 120 + now
        rqsMsgSent := false
        haOnlineStateChanged := false }
    else if !s.rqsMsgSent && now > s.timeoutSecsRqs then
      { createReqMsg4cb lib "RQS".toList s with rqsMsgSent := true }
    else s
  else if s.haOnlineStateChanged then
    { s with timeoutSecsHaOnline := 600 + now, haOnlineStateChanged := false }
  else if now > s.timeoutSecsHaOnline then
    { s with
      g := { s.g with ha := { s.g.ha with haOnline := true } }
      haOnlineStateChanged := true }
  else s

/-- `rxFromBroker`; without a publish nothing happens here. -/
def rxFromBroker (lib : CLib) (s : Main) : Option Received → Main
  | none => s
  | some rx =>
      if rx.payload.isEmpty then s
      else if isKey rx.topicRx "homeassistant/status".toList then
        { s with
          g := { s.g with ha := { s.g.ha with haOnline := isKey rx.payload "online".toList } }
          haOnlineStateChanged := true }
      else
        let (g, rtn) := createMsg4cb lib s.g rx
        { s with
          g := g
          queued := if rtn > 0 then s.queued ++ [g.mqttRx.buf s.g.mqttRx.wIdx] else s.queued }

/-- A turn: what `time` returns, whether `select` has returned a positive
number and the broker's socket is readable, the publish there is, and what the
other direction leaves. -/
structure Turn where
  now : Int
  selected : Bool
  mqttReadable : Bool
  received : Option Received
  canRx : Ring
  dev : DevTable

/-- The broker's socket is read if the ring has a free slot. -/
def brokerPart (lib : CLib) (s : Main) (t : Turn) : Main :=
  if t.mqttReadable then
    if nextIdx s.g.mqttRx.wIdx = s.g.mqttRx.rIdx then s else rxFromBroker lib s t.received
  else s

/-- The other direction. -/
def canPart (s : Main) (t : Turn) : Main :=
  { s with g := { s.g with canRx := t.canRx, ha := { s.g.ha with dev := t.dev } } }

/-- `tx2cb`, and the read index goes on. -/
def writePart (s : Main) : Main :=
  if s.g.mqttRx.waiting then
    { s with
      g := { s.g with mqttRx := s.g.mqttRx.pop }
      written := s.written ++ [s.g.mqttRx.buf s.g.mqttRx.rIdx] }
  else s

/-- A turn of the loop of `main`. -/
def mainTurn (lib : CLib) (s : Main) (t : Turn) : Main :=
  let s := requestPart lib s t.now
  if t.selected then writePart (canPart (brokerPart lib s t) t) else s

/-- The messages in a ring, oldest first. -/
def Ring.contents (r : Ring) : List CanFrame :=
  ringContents 16 (fun i => r.buf (UInt8.ofNat i)) r.wIdx.toNat r.rIdx.toNat

/-- Both indices are inside the buffer. -/
structure Ring.Ok (r : Ring) : Prop where
  wIdx : r.wIdx.toNat < 16
  rIdx : r.rIdx.toNat < 16

/-- The requests that may come without a publish. -/
def Main.pending (s : Main) : Nat :=
  if s.g.ha.haOnline then
    if s.haOnlineStateChanged then 2 else if s.rqsMsgSent then 0 else 1
  else 2

end OpenHcan.Mqtt
