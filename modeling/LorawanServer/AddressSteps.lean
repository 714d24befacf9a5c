import LorawanServer.AddressParts

/-!
# Moving inside one network

`setAddr`, `increment` and `decrement` replace the device part of an address.
Increments from the smallest address of a network reach its largest one, each
by one. The device part of type five clears two bits of the network part, and
type four reads one bit of the device part as the lowest one of the network
part, so there a move can change the network.
-/

namespace LorawanServer.AddressSteps

open Records BitFields DeviceAddress AddressParts

/-- `DevAddr::setAddr`. -/
def setAddr (devaddr : DEVADDR) (nwkAddr : UInt32) : DEVADDR×ℤ :=
  setNwkAddr devaddr (getNetIdType devaddr) nwkAddr

/-- `DevAddr::decrement`. -/
def decrement (devaddr : DEVADDR) : DEVADDR×ℤ := setAddr devaddr (getNwkAddr devaddr-1)

/-- The object after some calls of `increment`. -/
def increments (devaddr : DEVADDR) (count : ℕ) : DEVADDR := (fun d => (increment d).1)^[count] devaddr

/-- Increments over objects that held something before reach every address of
the network. -/
structure Enumerates (stale other : DEVADDR) (netid : NETID) : Prop where
  /-- As many increments as the largest device part succeed, each by one. -/
  succeeds : ∀ count<(getMaxNwkAddr (NetId.getType netid)).toNat,
    (increment (increments (ofNetIdBound stale netid false) count)).2=0 ∧
    (increment (increments (ofNetIdBound stale netid false) count)).1.toNat=
      (increments (ofNetIdBound stale netid false) count).toNat+1
  /-- They end at the largest address. -/
  reached : increments (ofNetIdBound stale netid false) (getMaxNwkAddr (NetId.getType netid)).toNat=
    ofNetIdBound other netid true
  /-- There the next one fails and changes nothing. -/
  refused : (increment (ofNetIdBound other netid true)).2≠0 ∧
    (increment (ofNetIdBound other netid true)).1=ofNetIdBound other netid true

/-- Increments inside the block of a network. -/
theorem increments_address {netid : NETID} {nwkAddr count : ℕ} (h : nwkAddr+count<size netid) :
    increments (address netid nwkAddr) count=address netid (nwkAddr+count) := by
  induction count with
  | zero => rfl
  | succ count ih =>
    have hlast := increment_address (show nwkAddr+count<size netid by omega)
    rw [if_pos (by omega)] at hlast
    rw [increments,Function.iterate_succ_apply',←increments,ih (by omega),hlast,Nat.add_assoc]

/-- The increments of every network enumerate it. -/
theorem increments_enumerate (stale other : DEVADDR) (netid : NETID) : Enumerates stale other netid := by
  have hpos := size_pos netid
  have hmax := getMaxNwkAddr_toNat netid
  have hat : ∀ count<size netid,increments (ofNetIdBound stale netid false) count=address netid count := by
    intro count hc
    rw [ofNetIdBound_min,increments_address (by omega),Nat.zero_add]
  constructor
  · intro count hc
    have hnext := increment_address (show count<size netid by omega)
    rw [if_pos (by omega)] at hnext
    rw [hat count (by omega),hnext,address_toNat (by omega),address_toNat (by omega)]
    exact ⟨rfl,(Nat.add_assoc _ _ _).symm⟩
  · rw [hat _ (by omega),hmax,ofNetIdBound_max]
  · have hlast := increment_address (show size netid-1<size netid by omega)
    rw [if_neg (by omega)] at hlast
    rw [ofNetIdBound_max,hlast]
    exact ⟨show ERR_CODE_ADDR_OUT_OF_RANGE≠0 by decide,rfl⟩

/-- A call either puts the wanted device part into the same network or fails
and changes nothing. -/
def KeepsNetwork (devaddr : DEVADDR) (wanted : ℤ) (result : DEVADDR×ℤ) : Prop :=
  (result.2=0 ∧ ((getNwkAddr result.1).toNat : ℤ)=wanted ∧ getNetIdType result.1=getNetIdType devaddr ∧
      getNwkId result.1=getNwkId devaddr) ∨
    (result.2≠0 ∧ result.1=devaddr)

/-- All three calls do, and a step forth and back restores the address. -/
structure MovesInside (devaddr : DEVADDR) (nwkAddr : UInt32) : Prop where
  /-- `setAddr`. -/
  setAddr : KeepsNetwork devaddr nwkAddr.toNat (setAddr devaddr nwkAddr)
  /-- `increment`. -/
  increment : KeepsNetwork devaddr ((getNwkAddr devaddr).toNat+1) (increment devaddr)
  /-- `decrement`. -/
  decrement : KeepsNetwork devaddr ((getNwkAddr devaddr).toNat-1) (decrement devaddr)
  /-- Forth and back. -/
  restores : (DeviceAddress.increment devaddr).2=0 →
    (AddressSteps.decrement (DeviceAddress.increment devaddr).1).2=0 →
    (AddressSteps.decrement (DeviceAddress.increment devaddr).1).1=devaddr

/-- A new device part does not touch what is read as the network part: bit
seven stays in type four, and the two bits above the device part of type five
are zero. -/
def SparesNwkId (t d nwkAddr : ℕ) : Prop :=
  match t with
  | 4 => nwkAddr/2^7%2=d/2^7%2
  | 5 => d/2^13%4=0
  | _ => True

/-- Every device part that one of the calls writes does not. -/
structure Spares (devaddr : DEVADDR) (nwkAddr : UInt32) : Prop where
  /-- The given one, if it fits. -/
  given : nwkAddr.toNat<2^addrBits (getNetIdType devaddr) →
    SparesNwkId (getNetIdType devaddr) devaddr.toNat nwkAddr.toNat
  /-- The next one, if there is one. -/
  next : (getNwkAddr devaddr).toNat+1<2^addrBits (getNetIdType devaddr) →
    SparesNwkId (getNetIdType devaddr) devaddr.toNat ((getNwkAddr devaddr).toNat+1)
  /-- The previous one, if there is one. -/
  previous : 0<(getNwkAddr devaddr).toNat →
    SparesNwkId (getNetIdType devaddr) devaddr.toNat ((getNwkAddr devaddr).toNat-1)

/-- A network part directly above the device part is a quotient. -/
theorem readNwkId_eq {t : ℕ} (ht : t<8) (h4 : t≠4) (d : ℕ) :
    readNwkId t d=d/2^addrBits t%2^(31-t-addrBits t) := by
  obtain ⟨layout,-,hs⟩ := addressLayout_shape ht
  have hle : addrBits t ≤ 31-t := hs.addrBits_le.trans hs.clearBits_le
  rw [readNwkId,if_neg h4,←Nat.mod_mul_right_div_self,←pow_add,Nat.add_sub_cancel' hle]

/-- The network part is read from another device part as before exactly when
its bits are spared. -/
theorem readNwkId_moved {t : ℕ} (ht : t<8) (d : ℕ) {nwkAddr : ℕ} (ha : nwkAddr<2^addrBits t) :
    readNwkId t (d/2^clearBits t*2^clearBits t+nwkAddr)=readNwkId t d ↔ SparesNwkId t d nwkAddr := by
  have haligned : t≠4 → clearBits t=addrBits t →
      readNwkId t (d/2^clearBits t*2^clearBits t+nwkAddr)=readNwkId t d := by
    intro h4 hclear
    rw [readNwkId_eq ht h4,readNwkId_eq ht h4,hclear,mul_add_div_of_lt ha]
  interval_cases t
  · exact iff_of_true (haligned (by decide) rfl) trivial
  · exact iff_of_true (haligned (by decide) rfl) trivial
  · exact iff_of_true (haligned (by decide) rfl) trivial
  · exact iff_of_true (haligned (by decide) rfl) trivial
  · change nwkAddr<2^15 at ha
    change (d/2^15*2^15+nwkAddr)%2^27/2^16*2+(d/2^15*2^15+nwkAddr)%2^8/2^7=d%2^27/2^16*2+d%2^8/2^7 ↔
      nwkAddr/2^7%2=d/2^7%2
    have hhigh : (d/2^15*2^15+nwkAddr)%2^27/2^16=d%2^27/2^16 := by omega
    rw [hhigh]
    omega
  · change nwkAddr<2^13 at ha
    have hread := @readNwkId_eq 5 (by decide) (by decide)
    change ∀ d,readNwkId 5 d=d/2^13%2^13 at hread
    rw [hread,hread]
    change (d/2^15*2^15+nwkAddr)/2^13%2^13=d/2^13%2^13 ↔ d/2^13%4=0
    have hquotient : (d/2^15*2^15+nwkAddr)/2^13=d/2^15*4 := by omega
    rw [hquotient]
    omega
  · exact iff_of_true (haligned (by decide) rfl) trivial
  · exact iff_of_true (haligned (by decide) rfl) trivial

/-- Number of an address with another device part. -/
def movedTo (t d nwkAddr : ℕ) : ℕ := d/2^clearBits t*2^clearBits t+nwkAddr

/-- It stays among the addresses of the type. -/
theorem movedTo_bounds {devaddr : DEVADDR} {t nwkAddr : ℕ} (h : getNetIdType devaddr=t) (ht : t<8)
    (ha : nwkAddr<2^addrBits t) : 2^32-2^(32-t) ≤ movedTo t devaddr.toNat nwkAddr ∧
      movedTo t devaddr.toNat nwkAddr<2^32-2^(32-t)+2^(31-t) := by
  obtain ⟨layout,-,hs⟩ := addressLayout_shape ht
  have hbounds := bounds_of_getNetIdType h ht
  have haddr : nwkAddr<2^clearBits t := ha.trans_le (Nat.pow_le_pow_right (by decide) hs.addrBits_le)
  have hpow : 2^(31-t)=2^(31-t-clearBits t)*2^clearBits t := by rw [←pow_add,Nat.sub_add_cancel hs.clearBits_le]
  -- both ends are multiples of the block that a device part spans
  rw [typeBits_eq ht,hpow,←Nat.mul_assoc] at hbounds ⊢
  rw [←Nat.add_mul] at hbounds ⊢
  have hlow := (Nat.le_div_iff_mul_le (Nat.two_pow_pos _)).mpr hbounds.1
  have hhigh := (Nat.div_lt_iff_lt_mul (Nat.two_pow_pos _)).mpr hbounds.2
  constructor
  · exact (Nat.mul_le_mul_right _ hlow).trans (Nat.le_add_right _ _)
  · have hblock := Nat.mul_le_mul_right (2^clearBits t) (Nat.succ_le_of_lt hhigh)
    rw [Nat.succ_mul] at hblock
    rw [movedTo]
    omega

/-- What the getters read from it. -/
theorem parts_movedTo {devaddr moved : DEVADDR} {t nwkAddr : ℕ} (h : getNetIdType devaddr=t) (ht : t<8)
    (ha : nwkAddr<2^addrBits t) (hm : moved.toNat=movedTo t devaddr.toNat nwkAddr) :
    getNetIdType moved=t ∧ (getNwkAddr moved).toNat=nwkAddr ∧
      (getNwkId moved=getNwkId devaddr ↔ SparesNwkId t devaddr.toNat nwkAddr) := by
  obtain ⟨layout,-,hs⟩ := addressLayout_shape ht
  have hbounds := movedTo_bounds h ht ha
  have htype : getNetIdType moved=t := getNetIdType_eq ht (by rw [hm]; exact hbounds.1) (by rw [hm]; exact hbounds.2)
  refine ⟨htype,?_,?_⟩
  · have hdvd : 2^addrBits t∣devaddr.toNat/2^clearBits t*2^clearBits t :=
      (Nat.pow_dvd_pow 2 hs.addrBits_le).mul_left _
    rw [getNwkAddr_toNat htype ht,hm,movedTo,Nat.add_mod,Nat.mod_eq_zero_of_dvd hdvd,Nat.zero_add,Nat.mod_mod,
      Nat.mod_eq_of_lt ha]
  · rw [←UInt32.toNat_inj,getNwkId_toNat htype ht,getNwkId_toNat h ht,hm]
    exact readNwkId_moved ht devaddr.toNat ha

/-- `setAddr` writes a device part that fits. -/
theorem setAddr_of_lt {devaddr : DEVADDR} {t : ℕ} (h : getNetIdType devaddr=t) (ht : t<8) {value : UInt32}
    (ha : value.toNat<2^addrBits t) : ∃ moved : DEVADDR,setAddr devaddr value=(moved,0) ∧
      moved.toNat=movedTo t devaddr.toNat value.toNat := by
  refine ⟨_,?_,UInt32.toNat_ofNat_of_lt' ?_⟩
  · rw [setAddr,h,setNwkAddr_of_parts ht rfl,if_neg (not_le.mpr ha)]
    rfl
  · have hword : 2^(31-t) ≤ 2^(32-t) := Nat.pow_le_pow_right (by decide) (by omega)
    have hall : 2^(32-t) ≤ 2^32 := Nat.pow_le_pow_right (by decide) (by omega)
    have hhigh := (movedTo_bounds h ht ha).2
    rw [movedTo] at hhigh ⊢
    rw [UInt32.size]
    omega

/-- `setAddr` refuses all others. -/
theorem setAddr_of_not_lt {devaddr : DEVADDR} {t : ℕ} (h : getNetIdType devaddr=t) (ht : t<8) {value : UInt32}
    (ha : ¬ value.toNat<2^addrBits t) : setAddr devaddr value=(devaddr,ERR_CODE_ADDR_OUT_OF_RANGE) := by
  rw [setAddr,h,setNwkAddr_of_parts ht rfl,if_pos (not_lt.mp ha)]

/-- An address of no type is never changed. -/
theorem setAddr_of_invalid {devaddr : DEVADDR} (h : ¬ getNetIdType devaddr<8) (value : UInt32) :
    setAddr devaddr value=(devaddr,ERR_CODE_ADDR_OUT_OF_RANGE) := by
  obtain ⟨more,hmore⟩ := Nat.exists_eq_add_of_le' (not_lt.mp h)
  rw [setAddr,hmore]
  rfl

/-- A refusal keeps everything. -/
theorem keepsNetwork_refused (devaddr : DEVADDR) (wanted : ℤ) :
    KeepsNetwork devaddr wanted (devaddr,ERR_CODE_ADDR_OUT_OF_RANGE) :=
  .inr ⟨show ERR_CODE_ADDR_OUT_OF_RANGE≠0 by decide,rfl⟩

/-- `setAddr` moves inside the network exactly when the device part spares its
bits. -/
theorem keepsNetwork_setAddr_iff {devaddr : DEVADDR} {t : ℕ} (h : getNetIdType devaddr=t) (ht : t<8)
    {value : UInt32} {wanted : ℤ} (hw : value.toNat<2^addrBits t → wanted=value.toNat) :
    KeepsNetwork devaddr wanted (setAddr devaddr value) ↔
      (value.toNat<2^addrBits t → SparesNwkId t devaddr.toNat value.toNat) := by
  by_cases ha : value.toNat<2^addrBits t
  · obtain ⟨moved,hset,hm⟩ := setAddr_of_lt h ht ha
    obtain ⟨htype,haddr,hid⟩ := parts_movedTo h ht ha hm
    rw [hset,hw ha,imp_iff_right ha,←hid]
    constructor
    · rintro (⟨-,-,-,hsame⟩|⟨hcode,-⟩)
      · exact hsame
      · exact absurd rfl hcode
    · exact fun hsame => .inl ⟨rfl,congrArg Nat.cast haddr,htype.trans h.symm,hsame⟩
  · rw [setAddr_of_not_lt h ht ha]
    exact iff_of_true (keepsNetwork_refused devaddr wanted) fun hlt => absurd hlt ha

/-- The device part of an address leaves room in its word. -/
theorem getNwkAddr_lt {devaddr : DEVADDR} {t : ℕ} (h : getNetIdType devaddr=t) (ht : t<8) :
    (getNwkAddr devaddr).toNat<2^addrBits t ∧ 2^addrBits t ≤ 2^25 := by
  rw [getNwkAddr_toNat h ht]
  refine ⟨Nat.mod_lt _ (Nat.two_pow_pos _),Nat.pow_le_pow_right (by decide) ?_⟩
  interval_cases t <;> decide

/-- The next device part as a number. -/
theorem getNwkAddr_add_one {devaddr : DEVADDR} {t : ℕ} (h : getNetIdType devaddr=t) (ht : t<8) :
    (getNwkAddr devaddr+1).toNat=(getNwkAddr devaddr).toNat+1 := by
  obtain ⟨hlt,hbits⟩ := getNwkAddr_lt h ht
  rw [UInt32.toNat_add]
  exact Nat.mod_eq_of_lt (by change _+1<_; omega)

/-- The previous one, if there is one. -/
theorem getNwkAddr_sub_one {devaddr : DEVADDR} (hpos : 0<(getNwkAddr devaddr).toNat) :
    (getNwkAddr devaddr-1).toNat=(getNwkAddr devaddr).toNat-1 :=
  UInt32.toNat_sub_of_le _ _ (UInt32.le_iff_toNat_le.mpr hpos)

/-- In front of the device part zero there is none that fits. -/
theorem getNwkAddr_sub_one_of_zero {devaddr : DEVADDR} {t : ℕ} (h : getNetIdType devaddr=t) (ht : t<8)
    (hzero : ¬ 0<(getNwkAddr devaddr).toNat) : ¬ (getNwkAddr devaddr-1).toNat<2^addrBits t := by
  obtain ⟨-,hbits⟩ := getNwkAddr_lt h ht
  have hz : getNwkAddr devaddr=0 := UInt32.toNat_inj.mp (Nat.eq_zero_of_not_pos hzero)
  have hmax : ((0 : UInt32)-1).toNat=2^32-1 := rfl
  rw [hz,hmax]
  omega

/-- `increment` is `setAddr` of the next device part. -/
theorem increment_eq_setAddr (devaddr : DEVADDR) : increment devaddr=setAddr devaddr (getNwkAddr devaddr+1) := rfl

/-- A step forth and back leads to the address without the bits above its device
part that a move clears. -/
theorem decrement_increment {devaddr : DEVADDR} {t : ℕ} (h : getNetIdType devaddr=t) (ht : t<8)
    (hnext : (getNwkAddr devaddr).toNat+1<2^addrBits t) : ∃ back : DEVADDR,
      decrement (increment devaddr).1=(back,0) ∧
      back.toNat=movedTo t devaddr.toNat (getNwkAddr devaddr).toNat := by
  obtain ⟨layout,-,hs⟩ := addressLayout_shape ht
  have hadd := getNwkAddr_add_one h ht
  obtain ⟨moved,hset,hm⟩ := setAddr_of_lt h ht (show (getNwkAddr devaddr+1).toNat<2^addrBits t by rwa [hadd])
  obtain ⟨htype,haddr,-⟩ := parts_movedTo h ht (by rwa [hadd]) hm
  have hsub : (getNwkAddr moved-1).toNat=(getNwkAddr devaddr).toNat := by
    rw [getNwkAddr_sub_one (by omega),haddr,hadd,Nat.add_sub_cancel]
  obtain ⟨back,hback,hb⟩ := setAddr_of_lt htype ht (show (getNwkAddr moved-1).toNat<2^addrBits t by omega)
  refine ⟨back,?_,?_⟩
  · rw [increment_eq_setAddr,hset]
    exact hback
  · have hlow : (getNwkAddr devaddr+1).toNat<2^clearBits t := by
      rw [hadd]
      exact hnext.trans_le (Nat.pow_le_pow_right (by decide) hs.addrBits_le)
    rw [hb,hsub,hm,movedTo,movedTo,movedTo,mul_add_div_of_lt hlow]

/-- The address comes back exactly when there were no such bits. -/
theorem movedTo_getNwkAddr {devaddr : DEVADDR} {t : ℕ} (h : getNetIdType devaddr=t) (ht : t<8)
    (hs : SparesNwkId t devaddr.toNat ((getNwkAddr devaddr).toNat+1)) :
    movedTo t devaddr.toNat (getNwkAddr devaddr).toNat=devaddr.toNat := by
  rw [getNwkAddr_toNat h ht] at hs ⊢
  by_cases h5 : t=5
  · subst h5
    change devaddr.toNat/2^13%4=0 at hs
    change devaddr.toNat/2^15*2^15+devaddr.toNat%2^13=devaddr.toNat
    omega
  · have hsame : addrBits t=clearBits t := by interval_cases t <;> first | rfl | exact absurd rfl h5
    rw [movedTo,hsame,Nat.div_add_mod']

/-- `increment` moves inside the network exactly when the next device part spares
its bits. -/
theorem keepsNetwork_increment_iff {devaddr : DEVADDR} {t : ℕ} (h : getNetIdType devaddr=t) (ht : t<8) :
    KeepsNetwork devaddr ((getNwkAddr devaddr).toNat+1) (increment devaddr) ↔
      ((getNwkAddr devaddr).toNat+1<2^addrBits t →
        SparesNwkId t devaddr.toNat ((getNwkAddr devaddr).toNat+1)) := by
  have hadd := getNwkAddr_add_one h ht
  rw [increment_eq_setAddr,keepsNetwork_setAddr_iff h ht fun _ => by rw [hadd]; rfl,hadd]

/-- `decrement` does exactly when the previous one does. -/
theorem keepsNetwork_decrement_iff {devaddr : DEVADDR} {t : ℕ} (h : getNetIdType devaddr=t) (ht : t<8) :
    KeepsNetwork devaddr ((getNwkAddr devaddr).toNat-1) (decrement devaddr) ↔
      (0<(getNwkAddr devaddr).toNat →
        SparesNwkId t devaddr.toNat ((getNwkAddr devaddr).toNat-1)) := by
  by_cases hpos : 0<(getNwkAddr devaddr).toNat
  · have hsub := getNwkAddr_sub_one hpos
    have hlt : (getNwkAddr devaddr-1).toNat<2^addrBits t := by
      have hfits := (getNwkAddr_lt h ht).1
      omega
    rw [decrement,keepsNetwork_setAddr_iff h ht fun _ => by rw [hsub]; omega,imp_iff_right hlt,
      imp_iff_right hpos,hsub]
  · rw [decrement,setAddr_of_not_lt h ht (getNwkAddr_sub_one_of_zero h ht hpos)]
    exact iff_of_true (keepsNetwork_refused devaddr _) fun hlt => absurd hlt hpos

/-- The calls move inside the network exactly when they spare the bits that
are read as the network part. -/
theorem movesInside_iff (devaddr : DEVADDR) (nwkAddr : UInt32) :
    MovesInside devaddr nwkAddr ↔ Spares devaddr nwkAddr := by
  obtain ⟨t,h⟩ : ∃ t,getNetIdType devaddr=t := ⟨_,rfl⟩
  by_cases ht : t<8
  · have hgiven : KeepsNetwork devaddr nwkAddr.toNat (setAddr devaddr nwkAddr) ↔ _ :=
      keepsNetwork_setAddr_iff h ht fun _ => rfl
    have hnext := keepsNetwork_increment_iff h ht
    have hprevious := keepsNetwork_decrement_iff h ht
    subst h
    constructor
    · intro hmoves
      exact ⟨hgiven.mp hmoves.setAddr,hnext.mp hmoves.increment,hprevious.mp hmoves.decrement⟩
    · intro hspares
      refine ⟨hgiven.mpr hspares.given,hnext.mpr hspares.next,hprevious.mpr hspares.previous,fun hcode _ => ?_⟩
      have hfits : (getNwkAddr devaddr).toNat+1<2^addrBits (getNetIdType devaddr) := by
        by_contra hno
        rw [increment_eq_setAddr,setAddr_of_not_lt rfl ht (by rwa [getNwkAddr_add_one rfl ht])] at hcode
        exact absurd hcode (show ERR_CODE_ADDR_OUT_OF_RANGE≠0 by decide)
      obtain ⟨back,hback,hb⟩ := decrement_increment rfl ht hfits
      rw [hback]
      exact UInt32.toNat_inj.mp (hb.trans (movedTo_getNwkAddr rfl ht (hspares.next hfits)))
  · -- an address of no type is never changed, and none of its bits is read
    have hrefused := setAddr_of_invalid (h ▸ ht)
    have hfree : ∀ value,SparesNwkId (getNetIdType devaddr) devaddr.toNat value := by
      intro value
      obtain ⟨more,hmore⟩ := Nat.exists_eq_add_of_le' (not_lt.mp (h ▸ ht))
      rw [hmore]
      trivial
    refine iff_of_true ⟨?_,?_,?_,fun hcode _ => ?_⟩ ⟨fun _ => hfree _,fun _ => hfree _,fun _ => hfree _⟩
    · rw [hrefused]
      exact keepsNetwork_refused devaddr _
    · rw [increment_eq_setAddr,hrefused]
      exact keepsNetwork_refused devaddr _
    · rw [decrement,hrefused]
      exact keepsNetwork_refused devaddr _
    · rw [increment_eq_setAddr,hrefused] at hcode
      exact absurd hcode (show ERR_CODE_ADDR_OUT_OF_RANGE≠0 by decide)

/-- A step of type four over the seventh bit, and one of type five with a bit
above the device part, lead to another network. -/
theorem not_movesInside_carry : ¬ MovesInside 0xf000007f 0 ∧ ¬ MovesInside 0xf8002000 0 := by
  constructor
  · intro h
    have hstep := h.increment
    rw [KeepsNetwork] at hstep
    exact absurd hstep (by decide +kernel)
  · intro h
    have hstep := h.increment
    rw [KeepsNetwork] at hstep
    exact absurd hstep (by decide +kernel)

end LorawanServer.AddressSteps
