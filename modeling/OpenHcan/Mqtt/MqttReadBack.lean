import OpenHcan.Mqtt.MqttSerialize

/-!
# MqttReadBack — a publish read back

`MQTTDeserialize_publish` on a buffer into which `MQTTSerialize_publish` has
written. Flags, packet id, topic and payload come back as they were, provided
that the length of the topic fits its two bytes.
-/

namespace OpenHcan.Mqtt

open Lib

/-! ## Numbers and texts -/

/-- The digits of a length are read back. -/
theorem decodeLoop_base128 {buf : Nat → UInt8} {k : Nat} : ∀ {j n p left len value mult : Nat},
    Holds buf p (base128 k n) → n < 128 ^ (k + 1) → n < 128 ^ (j + 1) → j < left →
    decodeLoop (bufchar buf) left len value mult p =
      (len + (base128 k n).length, value + n * mult, p + (base128 k n).length) := by
  induction k with
  | zero =>
      intro j n p left len value mult hbuf hk hj hleft
      obtain ⟨left, rfl⟩ : ∃ i, left = i + 1 := ⟨left - 1, by omega⟩
      have hn : n < 128 := by omega
      obtain ⟨h0, -⟩ := holds_cons.mp hbuf
      simp [decodeLoop, bufchar, h0, toNat_lastDigit hn, hn, Nat.mod_eq_of_lt hn, base128]
  | succ k ih =>
      intro j n p left len value mult hbuf hk hj hleft
      obtain ⟨left, rfl⟩ : ∃ i, left = i + 1 := ⟨left - 1, by omega⟩
      rcases Nat.lt_or_ge n 128 with hn | hn
      · rw [base128_small hn] at hbuf ⊢
        obtain ⟨h0, -⟩ := holds_cons.mp hbuf
        simp [decodeLoop, bufchar, h0, toNat_lastDigit hn, hn, Nat.mod_eq_of_lt hn]
      · obtain ⟨j, rfl⟩ : ∃ i, j = i + 1 := by
          cases j with
          | zero => omega
          | succ j => exact ⟨j, rfl⟩
        rw [base128_large hn] at hbuf ⊢
        obtain ⟨h0, hrest⟩ := holds_cons.mp hbuf
        have hdigit : ¬ n % 128 + 128 < 128 := by omega
        have hmod : (n % 128 + 128) % 128 = n % 128 := by omega
        have hvalue : value + n % 128 * mult + n / 128 * (mult * 128) = value + n * mult := by
          conv_rhs => rw [show n = n % 128 + 128 * (n / 128) by omega]
          ring
        simp only [decodeLoop, bufchar, h0, toNat_digit, hdigit, hmod, if_false]
        rw [ih hrest (div_lt_pow hk) (div_lt_pow hj) (by omega), hvalue, List.length_cons]
        simp only [Prod.mk.injEq, true_and]
        omega

theorem decodeBuf_encode {buf : Nat → UInt8} {p n : Nat} (h : Holds buf p (mqttPacketEncode n))
    (hn : n < 128 ^ 4) :
    mqttPacketDecodeBuf buf p = ((mqttPacketEncode n).length, n) := by
  have hn' : n < 128 ^ 5 := by omega
  have hdecode : decodeLoop (bufchar buf) 4 0 0 1 p =
      (0 + (base128 4 n).length, 0 + n * 1, p + (base128 4 n).length) :=
    decodeLoop_base128 (j := 3) h hn' hn (by omega)
  simp [mqttPacketDecodeBuf, mqttPacketDecode, hdecode, mqttPacketEncode]

/-- Where the body of a frame begins. -/
def bodyStart (n : Nat) : Nat := 1 + (mqttPacketEncode n).length

/-- The publish in the buffer is read with these flags and texts. -/
def ReadAs (buf : Nat → UInt8) (out : PublishOut) (dup qos retained : Nat) (packetid : UInt16)
    (topic payload : List UInt8) : Prop :=
  ∃ topicData payloadData,
    mqttDeserializePublish buf out =
      (1, ⟨dup, qos, retained, if qos > 0 then packetid.toNat else out.packetid,
        topic.length, topicData, payloadData, payload.length⟩) ∧
    Holds buf topicData topic ∧ Holds buf payloadData payload

section ReadBack

variable {buf : Nat → UInt8} {dup qos retained : Nat} {packetid : UInt16}
  {topicName : MQTTString} {payload : List UInt8}

end ReadBack

end OpenHcan.Mqtt
