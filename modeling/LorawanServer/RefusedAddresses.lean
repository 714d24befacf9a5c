import LorawanServer.AddressParts

/-!
# A refused address

`DevAddr::set` writes the type, the network part and the device part one after
the other, and each can be refused when the parts in front of it are already
written. So a refusal leaves the address alone exactly where these parts were
there before.
-/

namespace LorawanServer.RefusedAddresses

open Records BitFields DeviceAddress AddressParts

/-- `DevAddr::set` over a network identifier and a device part. -/
def setNetId (devaddr : DEVADDR) (netid : NETID) (nwkAddr : UInt32) : DEVADDR×ℤ :=
  set devaddr (NetId.getType netid) (NetId.getNwkId netid) nwkAddr

/-- A refusal leaves all bits of the address. -/
def RefusalKeeps (devaddr : DEVADDR) (result : DEVADDR×ℤ) : Prop := result.2≠0 → result.1=devaddr

/-- The address has the leading ones of the type and the network part at its
place already, and the bits of the network part that reach below. -/
def HoldsParts (devaddr : DEVADDR) (t : ℕ) (nwkId : UInt32) : Prop :=
  devaddr.toNat/2^clearBits t=(2^32-2^(32-t)|||nwkId.toNat*2^idShift t)/2^clearBits t ∧
    (devaddr.toNat|||nwkId.toNat*2^idShift t)%2^clearBits t=devaddr.toNat%2^clearBits t

/-- The parts in front of the refused one are there already. -/
def WritesNothing (devaddr : DEVADDR) (t : ℕ) (nwkId nwkAddr : UInt32) : Prop :=
  match addressLayout t with
  | none => True
  | some layout =>
    if layout.nwkIdLimit≤nwkId then getNetIdType devaddr=t
    else layout.nwkAddrLimit≤nwkAddr → HoldsParts devaddr t nwkId

/-- A new type changes nothing exactly when the address has it. -/
theorem newType_eq_iff {t : ℕ} (ht : t<8) {layout : AddressLayout} (hs : layout.Shape t) (devaddr : DEVADDR) :
    (devaddr&&&layout.typeClear)|||layout.typeBits=devaddr ↔ getNetIdType devaddr=t := by
  rw [←UInt32.toNat_inj,hs.newType ht,←typeBits_eq ht]
  constructor
  · intro h
    have hlow := Nat.mod_lt devaddr.toNat (Nat.two_pow_pos (31-t))
    exact getNetIdType_eq ht (by omega) (by omega)
  · exact fun h => (toNat_eq_of_getNetIdType h ht).symm

/-- Equal words have equal quotients and equal remainders. -/
theorem eq_iff_div_mod {x y low : ℕ} : x=y ↔ x/2^low=y/2^low ∧ x%2^low=y%2^low := by
  constructor
  · rintro rfl
    exact ⟨rfl,rfl⟩
  · rintro ⟨hdiv,hmod⟩
    rw [←Nat.div_add_mod x (2^low),hdiv,hmod,Nat.div_add_mod]

/-- Type and network part change nothing exactly when the address has both. -/
theorem newParts_eq_iff {t : ℕ} (ht : t<8) {layout : AddressLayout} (hs : layout.Shape t) {nwkId : UInt32}
    (hid : nwkId.toNat*2^idShift t<2^32) (devaddr : DEVADDR) :
    (((devaddr&&&layout.typeClear)|||layout.typeBits)&&&layout.nwkIdClear)|||(nwkId<<<(32-layout.nwkIdLen))=
      devaddr ↔ HoldsParts devaddr t nwkId := by
  have hlow : devaddr.toNat%2^clearBits t<2^clearBits t := Nat.mod_lt _ (Nat.two_pow_pos _)
  have hdvd : 2^clearBits t∣2^32-2^(32-t) := by
    rw [typeBits_eq ht]
    exact (Nat.pow_dvd_pow 2 hs.clearBits_le).mul_left _
  obtain ⟨quotient,hquotient⟩ := hdvd
  rw [Nat.mul_comm] at hquotient
  rw [←UInt32.toNat_inj,UInt32.toNat_or,hs.clearedNwkId ht,hs.shiftedNwkId ht hid,←typeBits_eq ht,HoldsParts,
    @eq_iff_div_mod _ _ (clearBits t),or_div,or_div,hquotient,mul_add_div_of_lt hlow,
    Nat.mul_div_cancel _ (Nat.two_pow_pos _),Nat.or_mod_two_pow,Nat.mul_add_mod_self_right,Nat.mod_mod,
    ←Nat.or_mod_two_pow,@eq_comm _ (devaddr.toNat/_)]

/-- A network part that fits its type fits the word. -/
theorem nwkId_word {t : ℕ} (ht : t<8) {layout : AddressLayout} (hlayout : addressLayout t=some layout)
    {nwkId : UInt32} (hfit : ¬ layout.nwkIdLimit≤nwkId) : nwkId.toNat*2^idShift t<2^32 := by
  have hlimit : layout.nwkIdLimit.toNat*2^idShift t ≤ 2^32 := by
    interval_cases t <;> cases hlayout <;> decide
  rw [UInt32.le_iff_toNat_le,not_le] at hfit
  exact (Nat.mul_lt_mul_of_pos_right hfit (Nat.two_pow_pos _)).trans_le hlimit

/-- A refusal leaves the address alone exactly when nothing new was written in
front of the refused part. -/
theorem set_keeps_iff (devaddr : DEVADDR) (t : ℕ) (nwkId nwkAddr : UInt32) :
    RefusalKeeps devaddr (set devaddr t nwkId nwkAddr) ↔ WritesNothing devaddr t nwkId nwkAddr := by
  have htype : ERR_CODE_TYPE_OUT_OF_RANGE≠0 := by decide
  have hnwk : ERR_CODE_NWK_OUT_OF_RANGE≠0 := by decide
  have haddr : ERR_CODE_ADDR_OUT_OF_RANGE≠0 := by decide
  cases hlayout : addressLayout t with
  | none =>
    simp only [WritesNothing,RefusalKeeps,DeviceAddress.set,setNetIdType,hlayout,ne_eq,htype,not_false_eq_true,
      if_true,implies_true]
  | some layout =>
    have ht : t<8 := by
      by_contra hno
      obtain ⟨more,rfl⟩ := Nat.exists_eq_add_of_le' (not_lt.mp hno)
      cases hlayout
    obtain ⟨shaped,hshaped,hs⟩ := addressLayout_shape ht
    obtain rfl : shaped=layout := Option.some.inj (hshaped.symm.trans hlayout)
    simp only [WritesNothing,RefusalKeeps,DeviceAddress.set,setNetIdType,setNwkId,setNwkAddr,hlayout,ne_eq,
      not_true_eq_false,if_false]
    by_cases hfit : shaped.nwkIdLimit≤nwkId
    · simp only [hfit,if_true,hnwk,not_false_eq_true,forall_const]
      exact newType_eq_iff ht hs devaddr
    · by_cases hfits : shaped.nwkAddrLimit≤nwkAddr
      · simp only [hfit,hfits,if_true,if_false,not_true_eq_false,haddr,not_false_eq_true,forall_const]
        exact newParts_eq_iff ht hs (nwkId_word ht hlayout hfit) devaddr
      · simp only [hfit,hfits,if_false,not_true_eq_false,false_implies]

/-- For both forms of `set`. -/
theorem refusals_keep_iff (devaddr : DEVADDR) (t : ℕ) (nwkId nwkAddr : UInt32) (netid : NETID) :
    (RefusalKeeps devaddr (set devaddr t nwkId nwkAddr) ↔ WritesNothing devaddr t nwkId nwkAddr) ∧
    (RefusalKeeps devaddr (setNetId devaddr netid nwkAddr) ↔
      WritesNothing devaddr (NetId.getType netid) (NetId.getNwkId netid) nwkAddr) :=
  ⟨set_keeps_iff devaddr t nwkId nwkAddr,set_keeps_iff devaddr _ _ nwkAddr⟩

/-- A device part that does not fit type one leaves its type behind. -/
theorem not_refusalKeeps_typeOne : ¬ RefusalKeeps 0 (set 0 1 0 0x1000000) := by
  rw [RefusalKeeps]
  decide +kernel

end LorawanServer.RefusedAddresses
