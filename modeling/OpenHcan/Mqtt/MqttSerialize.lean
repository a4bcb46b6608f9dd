import OpenHcan.Mqtt.MqttPacket

/-!
# MqttSerialize — what the serializers write

Every serializer writes a frame: the header byte, the length of the body, and
the body. `MQTTPacket_len` is the length of the frame but for four lengths of
the body at which it is one more, so a frame that fits is refused there.
-/

namespace OpenHcan.Mqtt

open Lib

/-! ## Header and length -/

/-- The lengths of a body for which `MQTTPacket_len` is one too large. -/
def atDigitBound (n : Nat) : Bool := n == 127 || n == 16383 || n == 2097150 || n == 2097151

/-- The text that is written. -/
def MQTTString.written (s : MQTTString) : List UInt8 :=
  if 0 < (s.lenstring.getD []).length then s.lenstring.getD [] else s.cstring.getD []

/-- The length that is announced is that of the text that is written. -/
def MQTTString.Ok (s : MQTTString) : Prop := s.written.length = mqttStrlen s

instance (s : MQTTString) : Decidable s.Ok := inferInstanceAs (Decidable (_ = _))

theorem MQTTString.ok_of_lenstring (s : Option (List UInt8)) : (MQTTString.mk none s).Ok := by
  simp only [MQTTString.Ok, MQTTString.written, mqttStrlen]
  split
  · rfl
  · rename_i h
    rw [Option.getD_none, List.length_nil]
    omega

/-- The bytes of a text. -/
def textBytes (s : MQTTString) : List UInt8 := intBytes s.written.length ++ s.written

/-- A packet as the callers describe it. -/
inductive Outgoing
  | publish (dup qos retained : Nat) (packetid : UInt16) (topicName : MQTTString)
      (payload : List UInt8)
  | subscribe (dup : Nat) (packetid : UInt16) (filters : List (MQTTString × UInt8))
  | connect (options : MQTTPacketConnectData)
  | ack (packettype dup : Nat) (packetid : UInt16)
  | zero (packettype : Nat)

/-- The serializer of the packet. -/
def Outgoing.serialize (p : Outgoing) (buf : Nat → UInt8) (buflen : Int) :
    Int × (Nat → UInt8) :=
  match p with
  | .publish dup qos retained packetid topicName payload =>
      mqttSerializePublish buf buflen dup qos retained packetid topicName payload
  | .subscribe dup packetid filters => mqttSerializeSubscribe buf buflen dup packetid filters
  | .connect options => mqttSerializeConnect buf buflen options
  | .ack packettype dup packetid => mqttSerializeAck buf buflen packettype dup packetid
  | .zero packettype => mqttSerializeZero buf buflen packettype

/-- The header of the packet. -/
def Outgoing.header : Outgoing → MQTTHeader
  | .publish dup qos retained _ _ _ => ⟨MsgType.publish.code, dup, qos, retained⟩
  | .subscribe dup _ _ => ⟨MsgType.subscribe.code, dup, 1, 0⟩
  | .connect _ => ⟨MsgType.connect.code, 0, 0, 0⟩
  | .ack packettype dup _ =>
      ⟨packettype, dup, if packettype = MsgType.pubrel.code then 1 else 0, 0⟩
  | .zero packettype => ⟨packettype, 0, 0, 0⟩

/-- The body of a publish. -/
def publishBody (qos : Nat) (packetid : UInt16) (topicName : MQTTString) (payload : List UInt8) :
    List UInt8 :=
  textBytes topicName ++ ((if qos > 0 then intBytes packetid.toNat else []) ++ payload)

/-- Protocol name and version. -/
def protocolBytes (version : Nat) : List UInt8 :=
  if version = 4 then intBytes 4 ++ ascii "MQTT" ++ [4]
  else intBytes 6 ++ ascii "MQIsdp" ++ [3]

/-- The texts of a connect, in order. -/
def connectTexts (options : MQTTPacketConnectData) : List MQTTString :=
  options.clientID :: ((if options.willFlag then [options.will.topicName, options.will.message]
    else []) ++ ((if options.username.given then [options.username] else [])
      ++ if options.password.given then [options.password] else []))

/-- The body of the packet. -/
def Outgoing.body : Outgoing → List UInt8
  | .publish _ qos _ packetid topicName payload => publishBody qos packetid topicName payload
  | .subscribe _ packetid filters =>
      intBytes packetid.toNat ++ filters.flatMap fun f => textBytes f.1 ++ [f.2]
  | .connect options =>
      protocolBytes options.mqttVersion ++ (connectFlags options ::
        (intBytes options.keepAliveInterval.toNat ++ (connectTexts options).flatMap textBytes))
  | .ack _ _ packetid => intBytes packetid.toNat
  | .zero _ => []

/-- Its texts have the announced lengths, and a connect has one of the two
versions that `MQTTSerialize_connectLength` knows. -/
def Outgoing.Ok : Outgoing → Prop
  | .publish _ _ _ _ topicName _ => topicName.Ok
  | .subscribe _ _ filters => ∀ f ∈ filters, f.1.Ok
  | .connect options =>
      (options.mqttVersion = 3 ∨ options.mqttVersion = 4) ∧ ∀ s ∈ connectTexts options, s.Ok
  | .ack _ _ _ => True
  | .zero _ => True

/-- The bytes on the wire. -/
def Outgoing.wire (p : Outgoing) : List UInt8 := frame 4 (p.header.byte, p.body)

/-- The serializers that ask `MQTTPacket_len`. -/
def Outgoing.counted : Outgoing → Bool
  | .publish .. => true
  | .subscribe .. => true
  | .connect _ => true
  | .ack .. => false
  | .zero _ => false

/-- The packet is refused: it does not fit, or it fits exactly and has one of
the four lengths. -/
def Outgoing.refused (p : Outgoing) (buflen : Int) : Prop :=
  buflen < p.wire.length ∨
    (p.counted = true ∧ atDigitBound p.body.length = true ∧ buflen = p.wire.length)

instance (p : Outgoing) (buflen : Int) : Decidable (p.refused buflen) :=
  inferInstanceAs (Decidable (_ ∨ _))

/-- A buffer of zeros. -/
def zeroed : Nat → UInt8 := fun _ => 0

/-- A lamp is switched on. -/
def lampeOn : Outgoing := .publish 0 0 0 0 (.ofCString (ascii "hc/light")) (ascii "ON")

end OpenHcan.Mqtt
