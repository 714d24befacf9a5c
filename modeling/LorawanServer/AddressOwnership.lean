import LorawanServer.AddressParts

/-!
# Networks and their addresses

An address that `DevAddr::set` makes of a network identifier is to name that
network, and the ranges of two networks are to be apart. The first holds where
no bit of the parts is misplaced. The second fails only for networks of type
five whose numbers differ in the two bits that the device part clears.
-/

namespace LorawanServer.AddressOwnership

open CppRuntime Records BitFields DeviceAddress AddressParts

/-- The address that a network gives to a device is of its type and names the
network. -/
def Owns (stale : DEVADDR) (netid : NETID) (nwkAddr : UInt32) : Prop :=
  (set stale (NetId.getType netid) (NetId.getNwkId netid) nwkAddr).2=0 ∧
    getNetIdType (ofNetId stale netid nwkAddr)=NetId.getType netid ∧
    getNwkId (ofNetId stale netid nwkAddr)=NetId.getNwkId netid

/-- No address lies in the ranges of both networks. -/
def Apart (left right : NETID) : Prop := ∀ devaddr,¬ (InRange left devaddr ∧ InRange right devaddr)

/-- A network owns an address exactly where no misplaced bit is set. -/
theorem owns_iff (stale : DEVADDR) {netid : NETID} {nwkAddr : UInt32}
    (h : nwkAddr≤getMaxNwkAddr (NetId.getType netid)) : Owns stale netid nwkAddr ↔
      Keeps (NetId.getType netid) (NetId.getNwkId netid).toNat nwkAddr.toNat := by
  have ht := NetId.getType_lt netid
  obtain ⟨layout,hlayout,hs⟩ := addressLayout_shape ht
  have hid := (NetId.getNwkId_lt netid hlayout).2
  have haddr : nwkAddr.toNat<2^addrBits (NetId.getType netid) := by
    have hone : (1 : UInt32)≤layout.nwkAddrLimit := by
      rw [UInt32.le_iff_toNat_le,hs.nwkAddrLimit]
      exact Nat.two_pow_pos _
    have hpos : 0<2^addrBits (NetId.getType netid) := Nat.two_pow_pos _
    rw [getMaxNwkAddr,hlayout,UInt32.le_iff_toNat_le] at h
    dsimp only at h
    rw [UInt32.toNat_sub_of_le _ _ hone,hs.nwkAddrLimit] at h
    change nwkAddr.toNat ≤ 2^addrBits (NetId.getType netid)-1 at h
    omega
  obtain ⟨devaddr,hset,hd⟩ := set_of_lt stale ht hid haddr
  obtain ⟨htype,hnwkId,-⟩ := parts_composed ht hid haddr hd
  rw [Owns,ofNetId,hset,←hnwkId]
  constructor
  · rintro ⟨-,-,he⟩
    exact congrArg UInt32.toNat he
  · intro he
    exact ⟨rfl,htype,UInt32.toNat_inj.mp he⟩

/-- An address in the range of a network is of its type. -/
theorem getNetIdType_of_inRange {netid : NETID} {devaddr : DEVADDR} (h : InRange netid devaddr) :
    getNetIdType devaddr=NetId.getType netid := by
  obtain ⟨nwkAddr,hlt,rfl⟩ := (inRange_iff netid devaddr).mp h
  obtain ⟨layout,-,hs⟩ := addressLayout_shape (NetId.getType_lt netid)
  have hbounds := first_add_le netid
  have hsize : nwkAddr<2^clearBits (NetId.getType netid) :=
    hlt.trans_le (Nat.pow_le_pow_right (by decide) hs.addrBits_le)
  apply getNetIdType_eq (NetId.getType_lt netid)
  · rw [address_toNat hlt]
    omega
  · rw [address_toNat hlt]
    omega

/-- Ranges of one type meet exactly when they begin together. -/
theorem apart_iff_first_ne {left right : NETID} (h : NetId.getType left=NetId.getType right) :
    Apart left right ↔ first left≠first right := by
  constructor
  · intro hapart he
    refine hapart (address left 0) ⟨(inRange_iff left _).mpr ⟨0,size_pos left,rfl⟩,?_⟩
    exact (inRange_iff right _).mpr ⟨0,size_pos right,by rw [address,address,he]⟩
  · rintro hne devaddr ⟨hleft,hright⟩
    obtain ⟨x,hx,rfl⟩ := (inRange_iff left _).mp hleft
    obtain ⟨y,hy,he⟩ := (inRange_iff right _).mp hright
    have hparts := address_parts hy
    rw [←he,←h,address_parts hx] at hparts
    exact hne hparts

/-- The block of a network part decides it but for type five, where two bits of
it are lost. -/
theorem block_eq_iff {t : ℕ} (ht : t<8) (x y : ℕ) :
    x*2^idShift t/2^clearBits t=y*2^idShift t/2^clearBits t ↔ x=y ∨ t=5 ∧ x/4=y/4 := by
  by_cases h5 : t=5
  · subst h5
    change x*2^13/2^15=y*2^13/2^15 ↔ x=y ∨ 5=5 ∧ x/4=y/4
    omega
  · have hle : clearBits t ≤ idShift t := by interval_cases t <;> first | decide | exact absurd rfl h5
    have hcancel : ∀ z,z*2^idShift t/2^clearBits t=z*2^(idShift t-clearBits t) := by
      intro z
      rw [←Nat.sub_add_cancel hle,pow_add,←Nat.mul_assoc,Nat.mul_div_cancel _ (Nat.two_pow_pos _),
        Nat.sub_add_cancel hle]
    rw [hcancel,hcancel,Nat.mul_left_inj (Nat.two_pow_pos _).ne']
    simp only [h5,false_and,or_false]

/-- The ranges of two networks are apart unless both are of type five and their
network parts differ only in the two bits that get lost. -/
theorem apart_iff {left right : NETID}
    (h : (NetId.getType left,NetId.getNwkId left)≠(NetId.getType right,NetId.getNwkId right)) :
    Apart left right ↔ ¬ (NetId.getType left=5 ∧ NetId.getType right=5 ∧
      (NetId.getNwkId left).toNat/4=(NetId.getNwkId right).toNat/4) := by
  by_cases ht : NetId.getType left=NetId.getType right
  · have hid : (NetId.getNwkId left).toNat≠(NetId.getNwkId right).toNat :=
      fun he => h (Prod.ext ht (UInt32.toNat_inj.mp he))
    have hblock := block_eq_iff (NetId.getType_lt left) (NetId.getNwkId left).toNat (NetId.getNwkId right).toNat
    rw [apart_iff_first_ne ht,first,first,←ht,ne_eq,not_iff_not]
    rw [Nat.add_left_cancel_iff,Nat.mul_left_inj (Nat.two_pow_pos _).ne',hblock]
    simp only [hid,false_or,and_self_left]
  · refine iff_of_true ?_ fun hfive => ht (hfive.1.trans hfive.2.1.symm)
    rintro devaddr ⟨hleft,hright⟩
    exact ht ((getNetIdType_of_inRange hleft).symm.trans (getNetIdType_of_inRange hright))

/-- A network owns its addresses exactly where no misplaced bit is set, and the
ranges of different networks are apart exactly where no lost bit tells them
apart. -/
theorem owns_and_apart_iff (stale : DEVADDR) (netid : NETID) (nwkAddr : UInt32) (left right : NETID) :
    (nwkAddr≤getMaxNwkAddr (NetId.getType netid) →
      (Owns stale netid nwkAddr ↔
        Keeps (NetId.getType netid) (NetId.getNwkId netid).toNat nwkAddr.toNat)) ∧
    ((NetId.getType left,NetId.getNwkId left)≠(NetId.getType right,NetId.getNwkId right) →
      (Apart left right ↔ ¬ (NetId.getType left=5 ∧ NetId.getType right=5 ∧
        (NetId.getNwkId left).toNat/4=(NetId.getNwkId right).toNat/4))) :=
  ⟨fun h => owns_iff stale h,fun h => apart_iff h⟩

/-- Networks 0 and 1 of type five have one range. -/
theorem not_apart_five : ¬ Apart #v[0x00,0x00,0xa0] #v[0x01,0x00,0xa0] := by
  intro h
  refine h 0xf8000000 ⟨⟨?_,?_⟩,⟨?_,?_⟩⟩ <;> decide +kernel

end LorawanServer.AddressOwnership
