import OpenHcan.Lib.Framing
import OpenHcan.Lib.Writer

/-!
# MqttPacket — the packets of the broker

What `MQTTPacket.c` and its four companions make and read. A packet is a header
byte with the type and three flags, the remaining length in digits of seven
bits, and as many bytes. A serializer compares the length with that of the
buffer first and writes nothing if it is too short; a deserializer gets a buffer
in which the whole packet lies.

Lengths are those of texts and payloads in memory. A pointer is the offset from
the start of the buffer, and the buffer is all of the memory from there on.
-/

namespace OpenHcan.Mqtt

open Lib

/-! ## Header and remaining length -/

/-- `enum msgTypes` -/
inductive MsgType
  | connect | connack | publish | puback | pubrec | pubrel | pubcomp
  | subscribe | suback | unsubscribe | unsuback | pingreq | pingresp | disconnect
deriving DecidableEq, Repr

/-- The number of the type on the wire. -/
def MsgType.code : MsgType → Nat
  | .connect => 1
  | .connack => 2
  | .publish => 3
  | .puback => 4
  | .pubrec => 5
  | .pubrel => 6
  | .pubcomp => 7
  | .subscribe => 8
  | .suback => 9
  | .unsubscribe => 10
  | .unsuback => 11
  | .pingreq => 12
  | .pingresp => 13
  | .disconnect => 14

def mqttPacketBufferTooShort : Int := -2
def mqttPacketReadError : Int := -1

/-- `MQTTHeader`: the fields of the header byte. -/
structure MQTTHeader where
  type : Nat
  dup : Nat
  qos : Nat
  retain : Nat
deriving DecidableEq, Repr

/-- The bit fields of the union, `retain` the lowest. -/
def MQTTHeader.byte (h : MQTTHeader) : UInt8 :=
  UInt8.ofNat (h.retain % 2 + 2 * (h.qos % 4) + 8 * (h.dup % 2) + 16 * (h.type % 16))

def MQTTHeader.ofByte (b : UInt8) : MQTTHeader where
  type := b.toNat / 16
  dup := b.toNat / 8 % 2
  qos := b.toNat / 2 % 4
  retain := b.toNat % 2

/-- `MQTTPacket_encode`: an `int` has at most five digits. -/
def mqttPacketEncode (length : Nat) : List UInt8 := base128 4 length

/-- `MQTTPacket_len` -/
def mqttPacketLen (rem_len : Nat) : Nat :=
  let rem_len := rem_len + 1
  if rem_len < 128 then rem_len + 1
  else if rem_len < 16384 then rem_len + 2
  else if rem_len < 2097151 then rem_len + 3
  else rem_len + 4

/-- The loop of `MQTTPacket_decode`: `left` more bytes may be read. The source
of the bytes may fail. -/
def decodeLoop {σ : Type} (getcharfn : σ → Option UInt8 × σ) :
    Nat → Nat → Nat → Nat → σ → Nat × Nat × σ
  | 0, len, value, _, s => (len + 1, value, s)
  | left + 1, len, value, multiplier, s =>
      match getcharfn s with
      | (none, s) => (len + 1, value, s)
      | (some c, s) =>
          let value := value + c.toNat % 128 * multiplier
          if c.toNat < 128 then (len + 1, value, s)
          else decodeLoop getcharfn left (len + 1) value (multiplier * 128) s

/-- `MQTTPacket_decode`: the number of bytes, the value, and what is left. -/
def mqttPacketDecode {σ : Type} (getcharfn : σ → Option UInt8 × σ) (s : σ) : Nat × Nat × σ :=
  decodeLoop getcharfn 4 0 0 1 s

/-- `bufchar` -/
def bufchar (buf : Nat → UInt8) (bufptr : Nat) : Option UInt8 × Nat :=
  (some (buf bufptr), bufptr + 1)

/-- `MQTTPacket_decodeBuf` -/
def mqttPacketDecodeBuf (buf : Nat → UInt8) (p : Nat) : Nat × Nat :=
  let (len, value, _) := mqttPacketDecode (bufchar buf) p
  (len, value)

/-! ## Numbers and texts -/

/-- `readInt`; the pointer goes on by two. -/
def readInt (buf : Nat → UInt8) (p : Nat) : Nat := 256 * (buf p).toNat + (buf (p + 1)).toNat

/-- The two bytes of `writeInt`. -/
def intBytes (anInt : Nat) : List UInt8 := [UInt8.ofNat (anInt / 256), UInt8.ofNat (anInt % 256)]

/-- `writeInt` -/
def writeInt (w : Writer UInt8) (anInt : Nat) : Writer UInt8 :=
  (w.put (UInt8.ofNat (anInt / 256))).put (UInt8.ofNat (anInt % 256))

/-- `MQTTString`: a text that ends with a NUL, or one with a length; `none` is
the null pointer. -/
structure MQTTString where
  cstring : Option (List UInt8)
  lenstring : Option (List UInt8)
deriving DecidableEq, Repr

/-- `MQTTString_initializer`, with a C string. -/
def MQTTString.ofCString (s : List UInt8) : MQTTString := ⟨some s, none⟩

/-- `MQTTstrlen` -/
def mqttStrlen (mqttstring : MQTTString) : Nat :=
  match mqttstring.cstring with
  | some s => s.length
  | none => (mqttstring.lenstring.getD []).length

/-- `writeCString` -/
def writeCString (w : Writer UInt8) (string : List UInt8) : Writer UInt8 :=
  (writeInt w string.length).puts string

/-- The bytes of a literal. -/
def ascii (s : String) : List UInt8 := s.toList.map fun c => UInt8.ofNat c.toNat

/-- `writeMQTTString` -/
def writeMQTTString (w : Writer UInt8) (mqttstring : MQTTString) : Writer UInt8 :=
  if 0 < (mqttstring.lenstring.getD []).length then
    (writeInt w (mqttstring.lenstring.getD []).length).puts (mqttstring.lenstring.getD [])
  else
    match mqttstring.cstring with
    | some s => writeCString w s
    | none => writeInt w 0

/-- `readMQTTLenString`: the result, the length, the start of the text, and the
pointer. The length is read even where the text does not fit. -/
def readMQTTLenString (buf : Nat → UInt8) (p enddata : Nat) (len data : Nat) :
    Bool × Nat × Nat × Nat :=
  if p + 1 < enddata then
    let len := readInt buf p
    if p + 2 + len ≤ enddata then (true, len, p + 2, p + 2 + len) else (false, len, data, p + 2)
  else (false, len, data, p)

/-! ## Serializers -/

/-- Type, flags and remaining length in front of what `body` writes, if
`MQTTPacket_len` is not more than the buffer holds. The result is the length, or
an error, and the buffer. -/
def serialize (buf : Nat → UInt8) (buflen : Int) (header : MQTTHeader) (rem_len : Nat)
    (body : Writer UInt8 → Writer UInt8) : Int × (Nat → UInt8) :=
  if (mqttPacketLen rem_len : Int) > buflen then (mqttPacketBufferTooShort, buf)
  else
    let ptr := (Writer.mk buf 0).put header.byte
    let ptr := ptr.puts (mqttPacketEncode rem_len)
    let ptr := body ptr
    (ptr.ptr, ptr.buf)

/-- `MQTTSerialize_publishLength` -/
def mqttSerializePublishLength (qos : Nat) (topicName : MQTTString) (payloadlen : Nat) : Nat :=
  let len := 2 + mqttStrlen topicName + payloadlen
  if qos > 0 then len + 2 else len

/-- `MQTTSerialize_publish` -/
def mqttSerializePublish (buf : Nat → UInt8) (buflen : Int) (dup qos retained : Nat)
    (packetid : UInt16) (topicName : MQTTString) (payload : List UInt8) : Int × (Nat → UInt8) :=
  serialize buf buflen ⟨MsgType.publish.code, dup, qos, retained⟩
    (mqttSerializePublishLength qos topicName payload.length) fun ptr =>
      let ptr := writeMQTTString ptr topicName
      let ptr := if qos > 0 then writeInt ptr packetid.toNat else ptr
      ptr.puts payload

/-- `MQTTSerialize_ack`, with a comparison of its own. -/
def mqttSerializeAck (buf : Nat → UInt8) (buflen : Int) (packettype dup : Nat)
    (packetid : UInt16) : Int × (Nat → UInt8) :=
  if buflen < 4 then (mqttPacketBufferTooShort, buf)
  else
    let qos := if packettype = MsgType.pubrel.code then 1 else 0
    let ptr := (Writer.mk buf 0).put (MQTTHeader.byte ⟨packettype, dup, qos, 0⟩)
    let ptr := ptr.puts (mqttPacketEncode 2)
    let ptr := writeInt ptr packetid.toNat
    (ptr.ptr, ptr.buf)

/-- `MQTTSerialize_puback` -/
def mqttSerializePuback (buf : Nat → UInt8) (buflen : Int) (packetid : UInt16) :
    Int × (Nat → UInt8) :=
  mqttSerializeAck buf buflen MsgType.puback.code 0 packetid

/-- `MQTTSerialize_pubrel` -/
def mqttSerializePubrel (buf : Nat → UInt8) (buflen : Int) (dup : Nat) (packetid : UInt16) :
    Int × (Nat → UInt8) :=
  mqttSerializeAck buf buflen MsgType.pubrel.code dup packetid

/-- `MQTTSerialize_pubcomp` -/
def mqttSerializePubcomp (buf : Nat → UInt8) (buflen : Int) (packetid : UInt16) :
    Int × (Nat → UInt8) :=
  mqttSerializeAck buf buflen MsgType.pubcomp.code 0 packetid

/-- `MQTTSerialize_subscribeLength`; a filter comes with its quality of service. -/
def mqttSerializeSubscribeLength (filters : List (MQTTString × UInt8)) : Nat :=
  filters.foldl (fun len f => len + (2 + mqttStrlen f.1 + 1)) 2

/-- `MQTTSerialize_subscribe` -/
def mqttSerializeSubscribe (buf : Nat → UInt8) (buflen : Int) (dup : Nat) (packetid : UInt16)
    (filters : List (MQTTString × UInt8)) : Int × (Nat → UInt8) :=
  serialize buf buflen ⟨MsgType.subscribe.code, dup, 1, 0⟩
    (mqttSerializeSubscribeLength filters) fun ptr =>
      filters.foldl (fun ptr f => (writeMQTTString ptr f.1).put f.2)
        (writeInt ptr packetid.toNat)

/-- `MQTTPacket_willOptions` -/
structure MQTTPacketWillOptions where
  topicName : MQTTString
  message : MQTTString
  retained : Nat
  qos : Nat

/-- `MQTTPacket_connectData` -/
structure MQTTPacketConnectData where
  mqttVersion : Nat
  clientID : MQTTString
  keepAliveInterval : UInt16
  cleansession : Nat
  willFlag : Bool
  will : MQTTPacketWillOptions
  username : MQTTString
  password : MQTTString

/-- `s.cstring || s.lenstring.data` -/
def MQTTString.given (s : MQTTString) : Bool := s.cstring.isSome || s.lenstring.isSome

/-- The space of a text. -/
def MQTTString.space (s : MQTTString) : Nat := mqttStrlen s + 2

/-- `MQTTSerialize_connectLength` -/
def mqttSerializeConnectLength (options : MQTTPacketConnectData) : Nat :=
  let len := if options.mqttVersion = 3 then 12 else if options.mqttVersion = 4 then 10 else 0
  let len := len + options.clientID.space
  let len :=
    if options.willFlag then len + options.will.topicName.space + options.will.message.space
    else len
  let len := if options.username.given then len + options.username.space else len
  if options.password.given then len + options.password.space else len

/-- The bit fields of `MQTTConnectFlags`; the lowest bit is unused. -/
def connectFlags (options : MQTTPacketConnectData) : UInt8 :=
  UInt8.ofNat (2 * (options.cleansession % 2)
    + (if options.willFlag then
        4 + 8 * (options.will.qos % 4) + 32 * (options.will.retained % 2) else 0)
    + (if options.password.given then 64 else 0)
    + (if options.username.given then 128 else 0))

/-- `MQTTSerialize_connect` -/
def mqttSerializeConnect (buf : Nat → UInt8) (buflen : Int) (options : MQTTPacketConnectData) :
    Int × (Nat → UInt8) :=
  serialize buf buflen ⟨MsgType.connect.code, 0, 0, 0⟩
    (mqttSerializeConnectLength options) fun ptr =>
      let ptr :=
        if options.mqttVersion = 4 then (writeCString ptr (ascii "MQTT")).put 4
        else (writeCString ptr (ascii "MQIsdp")).put 3
      let ptr := ptr.put (connectFlags options)
      let ptr := writeInt ptr options.keepAliveInterval.toNat
      let ptr := writeMQTTString ptr options.clientID
      let ptr :=
        if options.willFlag then
          writeMQTTString (writeMQTTString ptr options.will.topicName) options.will.message
        else ptr
      let ptr := if options.username.given then writeMQTTString ptr options.username else ptr
      if options.password.given then writeMQTTString ptr options.password else ptr

/-- `MQTTSerialize_zero`, with a comparison of its own. -/
def mqttSerializeZero (buf : Nat → UInt8) (buflen : Int) (packettype : Nat) :
    Int × (Nat → UInt8) :=
  if buflen < 2 then (mqttPacketBufferTooShort, buf)
  else
    let ptr := (Writer.mk buf 0).put (MQTTHeader.byte ⟨packettype, 0, 0, 0⟩)
    let ptr := ptr.puts (mqttPacketEncode 0)
    (ptr.ptr, ptr.buf)

/-- `MQTTSerialize_disconnect` -/
def mqttSerializeDisconnect (buf : Nat → UInt8) (buflen : Int) : Int × (Nat → UInt8) :=
  mqttSerializeZero buf buflen MsgType.disconnect.code

/-- `MQTTSerialize_pingreq` -/
def mqttSerializePingreq (buf : Nat → UInt8) (buflen : Int) : Int × (Nat → UInt8) :=
  mqttSerializeZero buf buflen MsgType.pingreq.code

/-! ## Deserializers

What is not read keeps the value that the variable of the caller had. -/

/-- The variables that `MQTTDeserialize_publish` fills; topic and payload are
pointers into the buffer. -/
structure PublishOut where
  dup : Nat
  qos : Nat
  retained : Nat
  packetid : Nat
  topicLen : Nat
  topicData : Nat
  payload : Nat
  payloadlen : Int
deriving DecidableEq, Repr

/-- `MQTTDeserialize_publish`. Where the topic does not fit, the result is still
the number of length bytes. -/
def mqttDeserializePublish (buf : Nat → UInt8) (out : PublishOut) : Int × PublishOut :=
  let header := MQTTHeader.ofByte (buf 0)
  if header.type ≠ MsgType.publish.code then (0, out)
  else
    let out := { out with dup := header.dup, qos := header.qos, retained := header.retain }
    let (rc, mylen) := mqttPacketDecodeBuf buf 1
    let enddata := 1 + rc + mylen
    let (ok, len, data, curdata) :=
      readMQTTLenString buf (1 + rc) enddata out.topicLen out.topicData
    let out := { out with topicLen := len, topicData := data }
    if !ok || (enddata : Int) - curdata < 0 then (rc, out)
    else
      let packetid := if out.qos > 0 then readInt buf curdata else out.packetid
      let curdata := if out.qos > 0 then curdata + 2 else curdata
      (1, { out with
        packetid := packetid
        payloadlen := (enddata : Int) - curdata
        payload := curdata })

/-- The variables that `MQTTDeserialize_ack` fills. -/
structure AckOut where
  packettype : Nat
  dup : Nat
  packetid : Nat
deriving DecidableEq, Repr

/-- `MQTTDeserialize_ack` -/
def mqttDeserializeAck (buf : Nat → UInt8) (out : AckOut) : Int × AckOut :=
  let header := MQTTHeader.ofByte (buf 0)
  let out := { out with dup := header.dup, packettype := header.type }
  let (rc, mylen) := mqttPacketDecodeBuf buf 1
  if mylen < 2 then (rc, out) else (1, { out with packetid := readInt buf (1 + rc) })

/-- The variables that `MQTTDeserialize_connack` fills. -/
structure ConnackOut where
  sessionPresent : Nat
  connackRc : UInt8
deriving DecidableEq, Repr

/-- The variables that `MQTTDeserialize_suback` fills. -/
structure SubackOut where
  packetid : Nat
  count : Nat
  grantedQoSs : Nat → UInt8

end OpenHcan.Mqtt
