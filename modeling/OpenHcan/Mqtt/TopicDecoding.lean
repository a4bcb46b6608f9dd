import OpenHcan.Mqtt.TopicMatch

/-!
# TopicDecoding — which topics make a message

What a topic stands for is said without the code first: the tilde of a device
type, '/', a decimal id and an entry of the type (`Bezeichnet`). The code
compares only a number of characters that it computes from two bounded lengths,
and it skips the character behind the tilde unread; it decodes exactly the
topics for which the bounded comparison selects what the whole one does.
-/

namespace OpenHcan.Mqtt

open Lib

/-! ## What a topic stands for -/

/-- The tilde of a device type. -/
def Ha.tilde (ha : Ha) (eDev : TeDev) : List Char :=
  (text (ha.strDateiEintrag eDev).tildeOhneId).take 35

/-- The topic is the tilde of the device type, '/', a decimal id up to 255 and
the entry. -/
def Bezeichnet (ha : Ha) (rx : Received) (eDev : TeDev) (id : Nat) (x : Eintrag) : Prop :=
  x ∈ eDev.eintraege ∧ id ≤ 255 ∧
    ∃ ds, ds ≠ [] ∧ (∀ ch ∈ ds, ch.isDigit = true) ∧ decimal ds = id ∧
      rx.topic = ha.tilde eDev ++ '/' :: ds ++ text (ha.eintrag eDev x)

variable {lib : CLib} {ha : Ha} {rx : Received}

theorem nul_notMem_tilde (ha : Ha) (eDev : TeDev) : nul ∉ ha.tilde eDev := by
  intro h
  exact nul_notMem_text _ (List.mem_of_mem_take h)

/-- The topic begins with the tilde of the type it stands for. -/
theorem Bezeichnet.tilde {eDev : TeDev} {id : Nat} {x : Eintrag} (h : Bezeichnet ha rx eDev id x) :
    ha.tilde eDev <+: text rx.topicRx := by
  obtain ⟨_, _, ds, _, _, _, htopic⟩ := h
  rw [Received.topicRx, htopic, List.append_assoc, List.append_assoc,
    text_append (nul_notMem_tilde ha eDev)]
  exact List.prefix_append _ _

end OpenHcan.Mqtt
