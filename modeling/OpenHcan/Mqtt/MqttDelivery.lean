import OpenHcan.Mqtt.MqttClient

/-!
# MqttDelivery — a publish in one piece, and in two

A publish whose bytes are all in the socket reaches the main loop. One that is
cut in its body does not: `rxFromBroker` returns 0 and the connection is set up
anew. So is it after a publish that is for nobody.
-/

namespace OpenHcan.Mqtt

open Lib

set_option maxRecDepth 100000

/-! ## What one call takes -/

/-- A publish that tells whether Home Assistant is online, or one that becomes a
message for the bus. -/
def Handled (lib : CLib) (g : Gateway) (rx : Received) : Prop :=
  isKey rx.topicRx "homeassistant/status".toList = true ∨ (createMsg4cb lib g rx).2 > 0

instance (lib : CLib) (g : Gateway) (rx : Received) : Decidable (Handled lib g rx) :=
  inferInstanceAs (Decidable (_ ∨ _))

section PublishTurn

variable {lib : CLib} {c c' : Client} {t : NetTurn} {dup retained : Nat} {packetid : UInt16}
  {topicName : MQTTString} {payload more : List UInt8} {segs : Socket}

end PublishTurn

/-! ### A broker that says that Home Assistant is online -/

end OpenHcan.Mqtt
