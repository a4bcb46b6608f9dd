import OpenHcan.Lib.BitField

/-!
# WireId — the 29-bit identifier of a frame

Addresses, protocol and priority share the extended CAN identifier. Three
programs build it and three take it apart, each with shifts and masks of its
own; here it is a number with four fields.
-/

namespace OpenHcan

open Lib

/-- The identifier as a number. -/
def wireId (src dst proto prio : Nat) : Nat :=
  src + dst * 2 ^ 10 + proto * 2 ^ 20 + prio * 2 ^ 24

/-- The same put together with shifts and ors on 32 bits. -/
theorem or_wireId {src dst proto prio : Nat} (hsrc : src < 1024) (hdst : dst < 1024)
    (hproto : proto < 8) (hprio : prio < 256) :
    src ||| dst <<< 10 % 2 ^ 32 ||| proto <<< 20 % 2 ^ 32 ||| prio <<< 24 % 2 ^ 32
      = wireId src dst proto prio := by
  have hlow : src ||| dst <<< 10 % 2 ^ 32 = src + dst * 2 ^ 10 :=
    or_field_mod hsrc (by omega)
  have hmid : src + dst * 2 ^ 10 ||| proto <<< 20 % 2 ^ 32
      = src + dst * 2 ^ 10 + proto * 2 ^ 20 := or_field_mod (by omega) (by omega)
  rw [hlow, hmid, wireId]
  exact or_field_mod (by omega) (by omega)

/-- An identifier put together from the five fields it has in the registers of
the CAN controller. -/
theorem or_registers {low mid eid sid high : Nat} (hlow : low < 2 ^ 8) (hmid : mid < 2 ^ 8)
    (heid : eid < 2 ^ 2) (hsid : sid < 2 ^ 3) (hhigh : high < 2 ^ 8) :
    low ||| mid <<< 8 % 2 ^ 32 ||| eid <<< 16 % 2 ^ 32 ||| sid <<< 18 % 2 ^ 32
        ||| high <<< 21 % 2 ^ 32
      = low + mid * 2 ^ 8 + eid * 2 ^ 16 + sid * 2 ^ 18 + high * 2 ^ 21 := by
  have h8 : low ||| mid <<< 8 % 2 ^ 32 = low + mid * 2 ^ 8 := or_field_mod hlow (by omega)
  have h16 : low + mid * 2 ^ 8 ||| eid <<< 16 % 2 ^ 32 = low + mid * 2 ^ 8 + eid * 2 ^ 16 :=
    or_field_mod (by omega) (by omega)
  have h18 : low + mid * 2 ^ 8 + eid * 2 ^ 16 ||| sid <<< 18 % 2 ^ 32
      = low + mid * 2 ^ 8 + eid * 2 ^ 16 + sid * 2 ^ 18 := or_field_mod (by omega) (by omega)
  rw [h8, h16, h18]
  exact or_field_mod (by omega) (by omega)

theorem wireId_lt {src dst proto prio : Nat} (hsrc : src < 1024) (hdst : dst < 1024)
    (hproto : proto < 8) (hprio : prio < 32) : wireId src dst proto prio < 2 ^ 29 := by
  unfold wireId
  omega

theorem wireId_src {src : Nat} (hsrc : src < 1024) (dst proto prio : Nat) :
    wireId src dst proto prio % 1024 = src := by
  unfold wireId
  omega

theorem wireId_dst {src dst : Nat} (hsrc : src < 1024) (hdst : dst < 1024) (proto prio : Nat) :
    wireId src dst proto prio / 2 ^ 10 % 1024 = dst := by
  unfold wireId
  omega

theorem wireId_proto {src dst proto : Nat} (hsrc : src < 1024) (hdst : dst < 1024)
    (hproto : proto < 8) (prio : Nat) : wireId src dst proto prio / 2 ^ 20 % 8 = proto := by
  unfold wireId
  omega

/-! ## Taking an identifier apart -/

theorem toNat_split_src (id : UInt32) :
    (id &&& (0x3ff : UInt32)).toUInt16.toNat = id.toNat % 1024 := by
  have hmask : id.toNat &&& 1023 = id.toNat % 1024 := and_lowMask _ 10
  rw [UInt32.toNat_toUInt16, UInt32.toNat_and]
  show (id.toNat &&& 1023) % 2 ^ 16 = _
  omega

theorem toNat_split_dst (id : UInt32) :
    ((id >>> 10) &&& (0x3ff : UInt32)).toUInt16.toNat = id.toNat / 2 ^ 10 % 1024 := by
  have hmask : id.toNat / 2 ^ 10 &&& 1023 = id.toNat / 2 ^ 10 % 1024 := and_lowMask _ 10
  have hshift : (id >>> 10).toNat = id.toNat / 2 ^ 10 := Nat.shiftRight_eq_div_pow _ 10
  rw [UInt32.toNat_toUInt16, UInt32.toNat_and, hshift]
  show (id.toNat / 2 ^ 10 &&& 1023) % 2 ^ 16 = _
  omega

theorem toNat_split_proto (id : UInt32) :
    ((id >>> 20) &&& (0x7 : UInt32)).toUInt8.toNat = id.toNat / 2 ^ 20 % 8 := by
  have hmask : id.toNat / 2 ^ 20 &&& 7 = id.toNat / 2 ^ 20 % 8 := and_lowMask _ 3
  have hshift : (id >>> 20).toNat = id.toNat / 2 ^ 20 := Nat.shiftRight_eq_div_pow _ 20
  rw [UInt32.toNat_toUInt8, UInt32.toNat_and, hshift]
  show (id.toNat / 2 ^ 20 &&& 7) % 2 ^ 8 = _
  omega

/-- **What is split off an identifier** is what it was put together from. -/
theorem split_wireId {src dst : UInt16} {proto : UInt8} {id : UInt32} {prio : Nat}
    (hsrc : src.toNat < 1024) (hdst : dst.toNat < 1024) (hproto : proto.toNat < 8)
    (hid : id.toNat = wireId src.toNat dst.toNat proto.toNat prio) :
    (id &&& (0x3ff : UInt32)).toUInt16 = src ∧
      ((id >>> 10) &&& (0x3ff : UInt32)).toUInt16 = dst ∧
      ((id >>> 20) &&& (0x7 : UInt32)).toUInt8 = proto := by
  refine ⟨UInt16.toNat_inj.mp ?_, UInt16.toNat_inj.mp ?_, UInt8.toNat_inj.mp ?_⟩
  · rw [toNat_split_src, hid, wireId_src hsrc]
  · rw [toNat_split_dst, hid, wireId_dst hsrc hdst]
  · rw [toNat_split_proto, hid, wireId_proto hsrc hdst hproto]

end OpenHcan
