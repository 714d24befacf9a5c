import LorawanServer.DeviceAddress

/-!
# Composing and decomposing a device address

`DevAddr::set` writes type, network part and device part, and the getters read
them back. The setters count one bit less in front of the device part of types
three and four than the getters do, and the device part of type five clears
two bits of the network part. So the parts come back for the other types, and
for these three only where the misplaced bits are zero.
-/

namespace LorawanServer.AddressParts

open CppRuntime Records BitFields DeviceAddress

/-- `DEVADDR_TYPE_SIZE`. -/
structure DEVADDR_TYPE_SIZE where
  /-- Bits of the network part. -/
  networkIdBits : ℕ
  /-- Bits of the device part. -/
  devDddrBits : ℕ
  deriving DecidableEq,Repr

/-- `DEVADDR_TYPE_SIZES_1_1`. -/
def DEVADDR_TYPE_SIZES_1_1 : List DEVADDR_TYPE_SIZE :=
  [⟨6,25⟩,⟨6,24⟩,⟨9,20⟩,⟨11,17⟩,⟨12,15⟩,⟨13,13⟩,⟨15,10⟩,⟨17,7⟩]

/-- The row of a type. -/
def typeSize (t : ℕ) : DEVADDR_TYPE_SIZE := DEVADDR_TYPE_SIZES_1_1.getD t ⟨0,0⟩

/-- The parts are written without an error and read back. -/
def Composes (stale : DEVADDR) (t : ℕ) (nwkId nwkAddr : UInt32) : Prop :=
  (set stale t nwkId nwkAddr).2=0 ∧ getNetIdType (set stale t nwkId nwkAddr).1=t ∧
    getNwkId (set stale t nwkId nwkAddr).1=nwkId ∧ getNwkAddr (set stale t nwkId nwkAddr).1=nwkAddr

/-- The parts that are read from an address compose it again. -/
def Reproduces (stale devaddr : DEVADDR) : Prop :=
  (set stale (getNetIdType devaddr) (getNwkId devaddr) (getNwkAddr devaddr)).1=devaddr

/-- The bits that the setters misplace are zero. -/
def Keeps (t nwkId nwkAddr : ℕ) : Prop :=
  match t with
  | 3 => nwkId=0
  | 4 => nwkId=0 ∧ nwkAddr/2^7%2=0
  | 5 => nwkId%4=0
  | _ => True

/-- The bits of an address that the setters misplace are zero. Bit fifteen of
type four is read by no getter. -/
def KeepsAddress (devaddr : DEVADDR) : Prop :=
  Keeps (getNetIdType devaddr) (getNwkId devaddr).toNat (getNwkAddr devaddr).toNat ∧
    (getNetIdType devaddr=4 → devaddr.toNat/2^15%2=0)

/-- The widths of the table are those of the setters. -/
theorem typeSize_eq {t : ℕ} (ht : t<8) {layout : AddressLayout} (hlayout : addressLayout t=some layout) :
    layout.nwkIdLimit.toNat=2^(typeSize t).networkIdBits ∧ addrBits t=(typeSize t).devDddrBits := by
  interval_cases t <;> cases hlayout <;> exact ⟨by decide,rfl⟩

/-- An address of a type has its leading ones and the zero behind them. -/
theorem bounds_of_getNetIdType {devaddr : DEVADDR} {t : ℕ} (h : getNetIdType devaddr=t) (ht : t<8) :
    2^32-2^(32-t) ≤ devaddr.toNat ∧ devaddr.toNat<2^32-2^(32-t)+2^(31-t) := by
  have hlt := devaddr.toNat_lt
  unfold getNetIdType at h
  generalize devaddr.toNat=number at *
  dsimp only at h
  split_ifs at h
  all_goals
    subst h
    omega

/-- Two words with their bits apart. -/
theorem toNat_shiftLeft_or {x y n : UInt32} {low : ℕ} (hn : n.toNat=low) (hx : x.toNat*2^low<2^32)
    (hlow : low<32) (hy : y.toNat<2^low) : (x<<<n|||y).toNat=x.toNat*2^low+y.toNat := by
  rw [UInt32.toNat_or,UInt32.toNat_shiftLeft,hn,Nat.mod_eq_of_lt hlow,Nat.shiftLeft_eq,Nat.mod_eq_of_lt hx,
    or_low hy]

/-- Three words with their bits apart. -/
theorem toNat_shiftLeft_or_or {x y z n m : UInt32} {high low : ℕ} (hn : n.toNat=low+high) (hm : m.toNat=low)
    (hhigh : low+high<32) (hx : x.toNat*2^(low+high)<2^32) (hy : y.toNat<2^high) (hz : z.toNat<2^low) :
    (x<<<n|||y<<<m|||z).toNat=(x.toNat*2^high+y.toNat)*2^low+z.toNat := by
  have hyl : y.toNat*2^low<2^(low+high) := by
    rw [pow_add,Nat.mul_comm (2^low)]
    exact Nat.mul_lt_mul_of_pos_right hy (Nat.two_pow_pos low)
  have hword : 2^(low+high) ≤ 2^32 := Nat.pow_le_pow_right (by decide) hhigh.le
  have hshift : (y<<<m).toNat=y.toNat*2^low := by
    rw [UInt32.toNat_shiftLeft,hm,Nat.mod_eq_of_lt (show low<32 by omega),Nat.shiftLeft_eq,
      Nat.mod_eq_of_lt (hyl.trans_le hword)]
  have htwo : (x<<<n|||y<<<m).toNat=(x.toNat*2^high+y.toNat)*2^low := by
    rw [toNat_shiftLeft_or hn hx hhigh (by rwa [hshift]),hshift,pow_add,Nat.add_mul,Nat.mul_assoc,
      Nat.mul_comm (2^low)]
  rw [UInt32.toNat_or,htwo,or_low hz]

/-- The low bits of a word. -/
theorem toNat_and_mask {x mask : UInt32} {width : ℕ} (h : mask.toNat=2^width-1) :
    (x&&&mask).toNat=x.toNat%2^width := by
  rw [UInt32.toNat_and,h,Nat.and_two_pow_sub_one_eq_mod]

/-- The high bits of a word. -/
theorem toNat_shiftRight_of_lt {x n : UInt32} {low : ℕ} (h : n.toNat=low) (hlow : low<32) :
    (x>>>n).toNat=x.toNat/2^low := by
  rw [UInt32.toNat_shiftRight,h,Nat.mod_eq_of_lt hlow,Nat.shiftRight_eq_div_pow]

/-- A byte of an address as a number. -/
theorem addressByte_toNat (devaddr : DEVADDR) (index : ℕ) :
    (addressByte devaddr index).toNat=devaddr.toNat/2^(8*index)%2^8 := by
  rw [addressByte,UInt32.toNat_ofNat']
  omega

/-- The network part that the getter reads from an address of a type. -/
def readNwkId (t d : ℕ) : ℕ := if t=4 then d%2^27/2^16*2+d%2^8/2^7 else d%2^(31-t)/2^addrBits t

/-- It is read so. -/
theorem getNwkId_toNat {devaddr : DEVADDR} {t : ℕ} (h : getNetIdType devaddr=t) (ht : t<8) :
    (getNwkId devaddr).toNat=readNwkId t devaddr.toNat := by
  have hb := addressByte_toNat devaddr
  have h0 : (addressByte devaddr 0).toNat=devaddr.toNat%2^8 := by rw [hb,Nat.mul_zero,pow_zero,Nat.div_one]
  have h1 := hb 1
  have h2 := hb 2
  have h3 := hb 3
  rw [getNwkId,h]
  generalize addressByte devaddr=b at *
  have hd := devaddr.toNat_lt
  generalize devaddr.toNat=d at *
  interval_cases t
  · have hmask := @toNat_and_mask (b 3) 0x7f 7 rfl
    have hpart := @toNat_shiftRight_of_lt (b 3&&&0x7f) 1 1 rfl (by decide)
    change ((b 3&&&0x7f)>>>1).toNat=d%2^31/2^25
    rw [hpart,hmask,h3]
    omega
  · have hmask := @toNat_and_mask (b 3) 0x3f 6 rfl
    change (b 3&&&0x3f).toNat=d%2^30/2^24
    rw [hmask,h3]
    omega
  · have hmask := @toNat_and_mask (b 3) 0x1f 5 rfl
    have hpart := @toNat_shiftRight_of_lt (b 2) 4 4 rfl (by decide)
    have hjoin := @toNat_shiftLeft_or (b 3&&&0x1f) (b 2>>>4) 4 4 rfl (by omega) (by decide) (by omega)
    change ((b 3&&&0x1f)<<<4|||b 2>>>4).toNat=d%2^29/2^20
    rw [hjoin,hpart,hmask,h3,h2]
    omega
  · have hmask := @toNat_and_mask (b 3) 0xf 4 rfl
    have hpart := @toNat_shiftRight_of_lt (b 2) 1 1 rfl (by decide)
    have hjoin := @toNat_shiftLeft_or (b 3&&&0xf) (b 2>>>1) 7 7 rfl (by omega) (by decide) (by omega)
    change ((b 3&&&0xf)<<<7|||b 2>>>1).toNat=d%2^28/2^17
    rw [hjoin,hpart,hmask,h3,h2]
    omega
  · have hmask := @toNat_and_mask (b 3) 7 3 rfl
    have hpart := @toNat_shiftRight_of_lt (b 0) 7 7 rfl (by decide)
    have hjoin := @toNat_shiftLeft_or_or (b 3&&&7) (b 2) (b 0>>>7) 9 1 8 1 rfl rfl (by decide) (by omega)
      (by omega) (by omega)
    change ((b 3&&&7)<<<9|||b 2<<<1|||b 0>>>7).toNat=d%2^27/2^16*2+d%2^8/2^7
    have hhigh : d/2^(8*3)%2^8%2^3*2^8+d/2^(8*2)%2^8=d%2^27/2^16 := by
      clear hjoin hpart hmask hb h0 h1 h2 h3
      omega
    rw [hjoin,hpart,hmask,h3,h2,h0,hhigh,pow_one]
  · have hmask := @toNat_and_mask (b 3) 3 2 rfl
    have hpart := @toNat_shiftRight_of_lt (b 1) 5 5 rfl (by decide)
    have hjoin := @toNat_shiftLeft_or_or (b 3&&&3) (b 2) (b 1>>>5) 11 3 8 3 rfl rfl (by decide) (by omega)
      (by omega) (by omega)
    change ((b 3&&&3)<<<11|||b 2<<<3|||b 1>>>5).toNat=d%2^26/2^13
    rw [hjoin,hpart,hmask,h3,h2,h1]
    omega
  · have hmask := @toNat_and_mask (b 3) 1 1 rfl
    have hpart := @toNat_shiftRight_of_lt (b 1) 2 2 rfl (by decide)
    have hjoin := @toNat_shiftLeft_or_or (b 3&&&1) (b 2) (b 1>>>2) 14 6 8 6 rfl rfl (by decide) (by omega)
      (by omega) (by omega)
    change ((b 3&&&1)<<<14|||b 2<<<6|||b 1>>>2).toNat=d%2^25/2^10
    rw [hjoin,hpart,hmask,h3,h2,h1]
    omega
  · have hpart := @toNat_shiftRight_of_lt (b 0) 7 7 rfl (by decide)
    have hjoin := @toNat_shiftLeft_or_or (b 2) (b 1) (b 0>>>7) 9 1 8 1 rfl rfl (by decide) (by omega)
      (by omega) (by omega)
    change (b 2<<<9|||b 1<<<1|||b 0>>>7).toNat=d%2^24/2^7
    rw [hjoin,hpart,h2,h1,h0]
    omega

/-- Number of the address that the setters write. -/
def composed (t nwkId nwkAddr : ℕ) : ℕ :=
  2^32-2^(32-t)+(nwkId*2^idShift t/2^clearBits t*2^clearBits t+nwkAddr)

/-- What is below the type stays below it. -/
theorem below_type {t nwkId nwkAddr : ℕ} (ht : t<8) (hid : nwkId*2^idShift t<2^(31-t))
    (ha : nwkAddr<2^addrBits t) : nwkId*2^idShift t/2^clearBits t*2^clearBits t+nwkAddr<2^(31-t) := by
  obtain ⟨layout,-,hs⟩ := addressLayout_shape ht
  have haddr : nwkAddr<2^clearBits t := ha.trans_le (Nat.pow_le_pow_right (by decide) hs.addrBits_le)
  have hpow : 2^(31-t)=2^(31-t-clearBits t)*2^clearBits t := by rw [←pow_add,Nat.sub_add_cancel hs.clearBits_le]
  have hpart : nwkId*2^idShift t/2^clearBits t<2^(31-t-clearBits t) := by
    rw [Nat.div_lt_iff_lt_mul (Nat.two_pow_pos _),←hpow]
    exact hid
  have hblock := Nat.mul_le_mul_right (2^clearBits t) (Nat.succ_le_of_lt hpart)
  rw [Nat.succ_mul,←hpow] at hblock
  omega

/-- The bits below the type. -/
theorem composed_mod {t nwkId nwkAddr : ℕ} (ht : t<8) (hid : nwkId*2^idShift t<2^(31-t))
    (ha : nwkAddr<2^addrBits t) : composed t nwkId nwkAddr%2^(31-t)=
      nwkId*2^idShift t/2^clearBits t*2^clearBits t+nwkAddr := by
  rw [composed,typeBits_eq ht,Nat.mul_add_mod_self_right,Nat.mod_eq_of_lt (below_type ht hid ha)]

/-- A network part directly above the device part is read back. -/
theorem readNwkId_composed_of_aligned {t nwkId nwkAddr : ℕ} (ht : t<8) (hid : nwkId*2^idShift t<2^(31-t))
    (ha : nwkAddr<2^addrBits t) (h4 : t≠4) (hshift : idShift t=addrBits t) (hclear : clearBits t=addrBits t) :
    readNwkId t (composed t nwkId nwkAddr)=nwkId := by
  rw [readNwkId,if_neg h4,composed_mod ht hid ha,hshift,hclear,Nat.mul_div_cancel _ (Nat.two_pow_pos _),
    Nat.mul_comm,Nat.mul_add_div (Nat.two_pow_pos _),Nat.div_eq_of_lt ha,Nat.add_zero]

/-- The getter of the network part reads it back exactly where no misplaced bit
is set. -/
theorem readNwkId_composed {t nwkId nwkAddr : ℕ} (ht : t<8) (hid : nwkId*2^idShift t<2^(31-t))
    (ha : nwkAddr<2^addrBits t) : readNwkId t (composed t nwkId nwkAddr)=nwkId ↔ Keeps t nwkId nwkAddr := by
  have hmod := composed_mod ht hid ha
  have haligned := readNwkId_composed_of_aligned ht hid ha
  generalize composed t nwkId nwkAddr=d at *
  interval_cases t
  · exact iff_of_true (haligned (by decide) rfl rfl) trivial
  · exact iff_of_true (haligned (by decide) rfl rfl) trivial
  · exact iff_of_true (haligned (by decide) rfl rfl) trivial
  · change d%2^28=nwkId*2^18/2^17*2^17+nwkAddr at hmod
    change nwkAddr<2^17 at ha
    change d%2^28/2^17=nwkId ↔ nwkId=0
    rw [hmod]
    omega
  · change d%2^27=nwkId*2^16/2^15*2^15+nwkAddr at hmod
    change nwkAddr<2^15 at ha
    change d%2^27/2^16*2+d%2^8/2^7=nwkId ↔ nwkId=0 ∧ nwkAddr/2^7%2=0
    have hbyte : d%2^8=nwkAddr%2^8 := by omega
    rw [hmod,hbyte]
    omega
  · change d%2^26=nwkId*2^13/2^15*2^15+nwkAddr at hmod
    change nwkAddr<2^13 at ha
    change d%2^26/2^13=nwkId ↔ nwkId%4=0
    rw [hmod]
    omega
  · exact iff_of_true (haligned (by decide) rfl rfl) trivial
  · exact iff_of_true (haligned (by decide) rfl rfl) trivial

/-- The setters write the composed number when the network part stays below the
type. -/
theorem set_of_lt (stale : DEVADDR) {t : ℕ} (ht : t<8) {nwkId nwkAddr : UInt32}
    (hid : nwkId.toNat*2^idShift t<2^(31-t)) (ha : nwkAddr.toNat<2^addrBits t) :
    ∃ devaddr : DEVADDR,set stale t nwkId nwkAddr=(devaddr,0) ∧
      devaddr.toNat=composed t nwkId.toNat nwkAddr.toNat := by
  obtain ⟨layout,hlayout,hs⟩ := addressLayout_shape ht
  have hcovers : 2^(31-t) ≤ layout.nwkIdLimit.toNat*2^idShift t := by
    interval_cases t <;> cases hlayout <;> decide
  have hfit : ¬ layout.nwkIdLimit≤nwkId := by
    rw [UInt32.le_iff_toNat_le]
    intro hle
    exact absurd hid (not_lt.mpr (hcovers.trans (Nat.mul_le_mul_right _ hle)))
  obtain ⟨parts,hparts,hset⟩ := set_parts_of_lt stale ht hlayout hfit hid
  have hword : composed t nwkId.toNat nwkAddr.toNat<2^32 := by
    have hbelow := below_type ht hid ha
    have hle : 2^(31-t) ≤ 2^(32-t) := Nat.pow_le_pow_right (by decide) (by omega)
    have hall : 2^(32-t) ≤ 2^32 := Nat.pow_le_pow_right (by decide) (by omega)
    rw [composed]
    omega
  refine ⟨_,?_,UInt32.toNat_ofNat_of_lt' hword⟩
  rw [hset,setNwkAddr_of_parts ht hparts,if_neg (not_le.mpr ha),composed,Nat.add_assoc]

/-- An address of a type has the zero behind its leading ones. -/
theorem testBit_of_getNetIdType {devaddr : DEVADDR} {t : ℕ} (h : getNetIdType devaddr=t) (ht : t<8) :
    devaddr.toNat.testBit (31-t)=false := by
  have hbounds := bounds_of_getNetIdType h ht
  have hquotient : devaddr.toNat/2^(31-t)=2*(2^t-1) := by
    rw [typeBits_eq ht] at hbounds
    rw [Nat.div_eq_iff (Nat.two_pow_pos _)]
    omega
  rw [Nat.testBit_eq_decide_div_mod_eq,hquotient,Nat.mul_mod_right]
  rfl

/-- A network part that reaches this zero has a bit there. -/
theorem testBit_of_not_lt {t nwkId : ℕ} (ht : t<8) (hlimit : nwkId<2^(typeSize t).networkIdBits)
    (hid : ¬ nwkId*2^idShift t<2^(31-t)) : idShift t ≤ 31-t ∧ nwkId.testBit (31-t-idShift t)=true := by
  have hwidth : idShift t ≤ 31-t ∧ (typeSize t).networkIdBits ≤ 31-t-idShift t+1 := by
    interval_cases t <;> decide
  refine ⟨hwidth.1,Nat.testBit_of_two_pow_le_and_two_pow_add_one_gt ?_ ?_⟩
  · rw [not_lt,←Nat.sub_add_cancel hwidth.1,pow_add] at hid
    exact Nat.le_of_mul_le_mul_right hid (Nat.two_pow_pos _)
  · exact hlimit.trans_le (Nat.pow_le_pow_right (by decide) hwidth.2)

/-- A network part that reaches the zero behind the leading ones changes the
type. Only types three and four accept one. -/
theorem getNetIdType_set_ne (stale : DEVADDR) {t : ℕ} (ht : t<8) {nwkId nwkAddr : UInt32}
    (hlimit : nwkId.toNat<2^(typeSize t).networkIdBits) (ha : nwkAddr.toNat<2^addrBits t)
    (hid : ¬ nwkId.toNat*2^idShift t<2^(31-t)) :
    getNetIdType (set stale t nwkId nwkAddr).1≠t := by
  obtain ⟨layout,hlayout,hs⟩ := addressLayout_shape ht
  obtain ⟨hidLimit,haddrBits⟩ := typeSize_eq ht hlayout
  have hfit : ¬ layout.nwkIdLimit≤nwkId := by
    rw [UInt32.le_iff_toNat_le]
    omega
  have hfits : ¬ layout.nwkAddrLimit≤nwkAddr := by
    rw [UInt32.le_iff_toNat_le,hs.nwkAddrLimit]
    omega
  have hset : set stale t nwkId nwkAddr=((((((stale&&&layout.typeClear)|||layout.typeBits)&&&layout.nwkIdClear)|||
      (nwkId<<<(32-layout.nwkIdLen)))&&&layout.nwkAddrClear)|||nwkAddr,0) := by
    simp only [DeviceAddress.set,setNetIdType,setNwkId,setNwkAddr,hlayout,ne_eq,not_true_eq_false,if_false,hfit,
      hfits]
  obtain ⟨hle,hbit⟩ := testBit_of_not_lt ht hlimit hid
  have hshift : (nwkId<<<(32-layout.nwkIdLen)).toNat.testBit (31-t)=true := by
    rw [UInt32.toNat_shiftLeft,hs.nwkIdShift,Nat.testBit_mod_two_pow,Nat.mod_eq_of_lt (by omega : idShift t<32),
      Nat.testBit_shiftLeft,hbit,decide_eq_true (by omega : 31-t<32),decide_eq_true hle]
    rfl
  have hclear : layout.nwkAddrClear.toNat.testBit (31-t)=true := by
    interval_cases t <;> cases hlayout <;> decide
  intro htype
  have htest := testBit_of_getNetIdType htype ht
  rw [hset,UInt32.toNat_or,UInt32.toNat_and,UInt32.toNat_or,Nat.testBit_or,Nat.testBit_and,Nat.testBit_or,hshift,
    hclear,Bool.or_true,Bool.and_true,Bool.true_or] at htest
  cases htest

/-- Only types three and four accept such a network part, and it is not zero. -/
theorem not_keeps_of_not_lt {t nwkId : ℕ} (ht : t<8) (hlimit : nwkId<2^(typeSize t).networkIdBits)
    (hid : ¬ nwkId*2^idShift t<2^(31-t)) (nwkAddr : ℕ) : ¬ Keeps t nwkId nwkAddr := by
  have hzero : nwkId≠0 := by
    rintro rfl
    rw [Nat.zero_mul] at hid
    exact hid (Nat.two_pow_pos _)
  have htype : t=3 ∨ t=4 := by
    by_contra hother
    have hexact : 2^(typeSize t).networkIdBits*2^idShift t=2^(31-t) := by
      interval_cases t <;> first | rfl | exact absurd (by decide) hother
    rw [←hexact] at hid
    exact hid (Nat.mul_lt_mul_of_pos_right hlimit (Nat.two_pow_pos _))
  rcases htype with rfl|rfl
  · exact hzero
  · exact fun h => hzero h.1

/-- The getter of the device part reads the bits below the network part. -/
theorem getNwkAddr_toNat {devaddr : DEVADDR} {t : ℕ} (h : getNetIdType devaddr=t) (ht : t<8) :
    (getNwkAddr devaddr).toNat=devaddr.toNat%2^addrBits t := by
  obtain ⟨layout,hlayout,hs⟩ := addressLayout_shape ht
  rw [getNwkAddr,h,hlayout]
  exact toNat_and_mask hs.nwkAddrMask

/-- The device part is read back from the composed number. -/
theorem composed_mod_addrBits {t nwkId nwkAddr : ℕ} (ht : t<8) (hid : nwkId*2^idShift t<2^(31-t))
    (ha : nwkAddr<2^addrBits t) : composed t nwkId nwkAddr%2^addrBits t=nwkAddr := by
  obtain ⟨layout,-,hs⟩ := addressLayout_shape ht
  have hdvd : 2^addrBits t∣2^clearBits t := Nat.pow_dvd_pow 2 hs.addrBits_le
  have hbelow : 2^addrBits t∣2^(31-t) := Nat.pow_dvd_pow 2 (hs.addrBits_le.trans hs.clearBits_le)
  have hblock : nwkId*2^idShift t/2^clearBits t*2^clearBits t%2^addrBits t=0 :=
    Nat.mod_eq_zero_of_dvd (hdvd.mul_left _)
  rw [←Nat.mod_mod_of_dvd _ hbelow,composed_mod ht hid ha,Nat.add_mod,hblock,Nat.zero_add,Nat.mod_mod,
    Nat.mod_eq_of_lt ha]

/-- What the getters read from the composed number. -/
theorem parts_composed {devaddr : DEVADDR} {t nwkId nwkAddr : ℕ} (ht : t<8) (hid : nwkId*2^idShift t<2^(31-t))
    (ha : nwkAddr<2^addrBits t) (hd : devaddr.toNat=composed t nwkId nwkAddr) : getNetIdType devaddr=t ∧
      ((getNwkId devaddr).toNat=nwkId ↔ Keeps t nwkId nwkAddr) ∧ (getNwkAddr devaddr).toNat=nwkAddr := by
  have hbelow := below_type ht hid ha
  have htype : getNetIdType devaddr=t := by
    apply getNetIdType_eq ht
    · rw [hd,composed]
      exact Nat.le_add_right _ _
    · rw [hd,composed]
      exact Nat.add_lt_add_left hbelow _
  refine ⟨htype,?_,?_⟩
  · rw [getNwkId_toNat htype ht,hd]
    exact readNwkId_composed ht hid ha
  · rw [getNwkAddr_toNat htype ht,hd,composed_mod_addrBits ht hid ha]

/-- The parts come back exactly where no misplaced bit is set. -/
theorem composes_iff (stale : DEVADDR) {t : ℕ} (ht : t<8) {nwkId nwkAddr : UInt32}
    (hlimit : nwkId.toNat<2^(typeSize t).networkIdBits) (haddr : nwkAddr.toNat<2^(typeSize t).devDddrBits) :
    Composes stale t nwkId nwkAddr ↔ Keeps t nwkId.toNat nwkAddr.toNat := by
  obtain ⟨layout,hlayout,-⟩ := addressLayout_shape ht
  rw [←(typeSize_eq ht hlayout).2] at haddr
  by_cases hid : nwkId.toNat*2^idShift t<2^(31-t)
  · obtain ⟨devaddr,hset,hd⟩ := set_of_lt stale ht hid haddr
    obtain ⟨htype,hnwkId,hnwkAddr⟩ := parts_composed ht hid haddr hd
    rw [Composes,hset,←hnwkId]
    constructor
    · rintro ⟨-,-,h,-⟩
      exact congrArg UInt32.toNat h
    · intro h
      exact ⟨rfl,htype,UInt32.toNat_inj.mp h,UInt32.toNat_inj.mp hnwkAddr⟩
  · refine iff_of_false ?_ (not_keeps_of_not_lt ht hlimit hid _)
    rintro ⟨-,htype,-⟩
    exact getNetIdType_set_ne stale ht hlimit haddr hid htype

/-- The bits below the type come back exactly where no misplaced bit is set. -/
theorem recompose_iff {t low : ℕ} (ht : t<8) (hlow : low<2^(31-t)) :
    readNwkId t low*2^idShift t/2^clearBits t*2^clearBits t+low%2^addrBits t=low ↔
      Keeps t (readNwkId t low) (low%2^addrBits t) ∧ (t=4 → low/2^15%2=0) := by
  have haligned : t≠4 → idShift t=addrBits t → clearBits t=addrBits t →
      readNwkId t low*2^idShift t/2^clearBits t*2^clearBits t+low%2^addrBits t=low := by
    intro h4 hshift hclear
    rw [readNwkId,if_neg h4,Nat.mod_eq_of_lt hlow,hshift,hclear,Nat.mul_div_cancel _ (Nat.two_pow_pos _),
      Nat.div_add_mod']
  interval_cases t
  · exact iff_of_true (haligned (by decide) rfl rfl) ⟨trivial,fun h => absurd h (by decide)⟩
  · exact iff_of_true (haligned (by decide) rfl rfl) ⟨trivial,fun h => absurd h (by decide)⟩
  · exact iff_of_true (haligned (by decide) rfl rfl) ⟨trivial,fun h => absurd h (by decide)⟩
  · have hread : readNwkId 3 low=low/2^17 := congrArg (·/2^17) (Nat.mod_eq_of_lt hlow)
    rw [hread]
    change low/2^17*2^18/2^17*2^17+low%2^17=low ↔ low/2^17=0 ∧ (3=4 → low/2^15%2=0)
    omega
  · have hread : readNwkId 4 low=low/2^16*2+low%2^8/2^7 :=
      congrArg (fun top => top/2^16*2+low%2^8/2^7) (Nat.mod_eq_of_lt hlow)
    rw [hread]
    change (low/2^16*2+low%2^8/2^7)*2^16/2^15*2^15+low%2^15=low ↔
      (low/2^16*2+low%2^8/2^7=0 ∧ low%2^15/2^7%2=0) ∧ (4=4 → low/2^15%2=0)
    omega
  · have hread : readNwkId 5 low=low/2^13 := congrArg (·/2^13) (Nat.mod_eq_of_lt hlow)
    rw [hread]
    change low/2^13*2^13/2^15*2^15+low%2^13=low ↔ low/2^13%4=0 ∧ (5=4 → low/2^15%2=0)
    omega
  · exact iff_of_true (haligned (by decide) rfl rfl) ⟨trivial,fun h => absurd h (by decide)⟩
  · exact iff_of_true (haligned (by decide) rfl rfl) ⟨trivial,fun h => absurd h (by decide)⟩

/-- The getter reads no more bits than the table gives. -/
theorem readNwkId_lt {t : ℕ} (ht : t<8) (d : ℕ) : readNwkId t d<2^(typeSize t).networkIdBits := by
  interval_cases t
  · change d%2^31/2^25<2^6
    omega
  · change d%2^30/2^24<2^6
    omega
  · change d%2^29/2^20<2^9
    omega
  · change d%2^28/2^17<2^11
    omega
  · change d%2^27/2^16*2+d%2^8/2^7<2^12
    omega
  · change d%2^26/2^13<2^13
    omega
  · change d%2^25/2^10<2^15
    omega
  · change d%2^24/2^7<2^17
    omega

/-- The getters read only bits below the type. -/
theorem readNwkId_mod {t : ℕ} (ht : t<8) (d : ℕ) : readNwkId t (d%2^(31-t))=readNwkId t d := by
  have hbyte : 2^8∣2^(31-t) := Nat.pow_dvd_pow 2 (by omega)
  by_cases h4 : t=4
  · subst h4
    rw [readNwkId,readNwkId,if_pos rfl,if_pos rfl,Nat.mod_mod_of_dvd _ hbyte,
      show 31-4=27 from rfl,Nat.mod_mod]
  · rw [readNwkId,readNwkId,if_neg h4,if_neg h4,Nat.mod_mod]

/-- An address is its leading ones and the bits below them. -/
theorem toNat_eq_of_getNetIdType {devaddr : DEVADDR} {t : ℕ} (h : getNetIdType devaddr=t) (ht : t<8) :
    devaddr.toNat=2^32-2^(32-t)+devaddr.toNat%2^(31-t) := by
  have hbounds := bounds_of_getNetIdType h ht
  obtain ⟨low,hlow⟩ := Nat.exists_eq_add_of_le hbounds.1
  have hmod : devaddr.toNat%2^(31-t)=low := by
    rw [hlow,typeBits_eq ht,Nat.mul_add_mod_self_right,Nat.mod_eq_of_lt (by omega)]
  rw [hmod]
  exact hlow

/-- An address is composed again of its parts exactly where no misplaced bit is
set. -/
theorem reproduces_iff (stale : DEVADDR) {devaddr : DEVADDR} (h : getNetIdType devaddr ≤ 7) :
    Reproduces stale devaddr ↔ KeepsAddress devaddr := by
  obtain ⟨t,htype⟩ : ∃ t,getNetIdType devaddr=t := ⟨_,rfl⟩
  rw [htype] at h
  have ht : t<8 := by omega
  have hlow : devaddr.toNat%2^(31-t)<2^(31-t) := Nat.mod_lt _ (Nat.two_pow_pos _)
  have hnwkId : (getNwkId devaddr).toNat=readNwkId t (devaddr.toNat%2^(31-t)) := by
    rw [getNwkId_toNat htype ht,readNwkId_mod ht]
  have hnwkAddr : (getNwkAddr devaddr).toNat=devaddr.toNat%2^(31-t)%2^addrBits t := by
    obtain ⟨layout,-,hs⟩ := addressLayout_shape ht
    rw [getNwkAddr_toNat htype ht,Nat.mod_mod_of_dvd _ (Nat.pow_dvd_pow 2 (hs.addrBits_le.trans hs.clearBits_le))]
  have hlimit : (getNwkId devaddr).toNat<2^(typeSize t).networkIdBits := by
    rw [hnwkId]
    exact readNwkId_lt ht _
  have haddr : (getNwkAddr devaddr).toNat<2^addrBits t := by
    rw [hnwkAddr]
    exact Nat.mod_lt _ (Nat.two_pow_pos _)
  have hunread : (t=4 → devaddr.toNat/2^15%2=0) ↔ (t=4 → devaddr.toNat%2^(31-t)/2^15%2=0) := by
    refine forall_congr' fun h4 => ?_
    subst h4
    change devaddr.toNat/2^15%2=0 ↔ devaddr.toNat%2^27/2^15%2=0
    omega
  rw [Reproduces,KeepsAddress,htype,hunread]
  by_cases hid : (getNwkId devaddr).toNat*2^idShift t<2^(31-t)
  · obtain ⟨written,hset,hwritten⟩ := set_of_lt stale ht hid haddr
    have hwhole := toNat_eq_of_getNetIdType htype ht
    rw [hset,hnwkId,hnwkAddr,←recompose_iff ht hlow,←UInt32.toNat_inj,hwritten,composed,hnwkId,hnwkAddr]
    constructor
    · intro he
      exact Nat.add_left_cancel (he.trans hwhole)
    · intro he
      rw [he]
      exact hwhole.symm
  · refine iff_of_false ?_ fun hkeeps => not_keeps_of_not_lt ht hlimit hid _ hkeeps.1
    intro he
    exact getNetIdType_set_ne stale ht hlimit haddr hid (by rw [he,htype])

/-- Composing and decomposing are inverse exactly where no misplaced bit is
set, whatever the object held before. -/
theorem composes_and_reproduces_iff (stale : DEVADDR) (t : ℕ) (nwkId nwkAddr : UInt32) (devaddr : DEVADDR) :
    (t ≤ 7 → nwkId.toNat<2^(typeSize t).networkIdBits → nwkAddr.toNat<2^(typeSize t).devDddrBits →
      (Composes stale t nwkId nwkAddr ↔ Keeps t nwkId.toNat nwkAddr.toNat)) ∧
    (getNetIdType devaddr ≤ 7 → (Reproduces stale devaddr ↔ KeepsAddress devaddr)) :=
  ⟨fun ht hlimit haddr => composes_iff stale (Nat.lt_succ_of_le ht) hlimit haddr,
    fun h => reproduces_iff stale h⟩

/-- Network one of type three is read back as network two. -/
theorem not_composes_three : ¬ Composes 0 3 1 0 := by
  rintro ⟨-,-,h,-⟩
  exact absurd h (by decide +kernel)

end LorawanServer.AddressParts
