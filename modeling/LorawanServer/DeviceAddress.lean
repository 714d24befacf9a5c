import LorawanServer.BitFields
import LorawanServer.Records

/-!
# Network identifiers and device addresses

`net-id.cpp` and the version 1.1 half of `dev-addr.cpp`, which the build
selects. The eight address types share one shape and differ by the constants
of their row in the layout table. A constructor does not clear the object
first, so the bits it finds there are an argument. Over the code stand the
addresses of one network as a block of consecutive numbers: the smallest and
the largest address are its ends, and an increment moves inside it or fails.
-/

namespace LorawanServer.DeviceAddress

open CppRuntime Records BitFields

/-- The address type is not one of eight. -/
abbrev ERR_CODE_TYPE_OUT_OF_RANGE : ℤ := -604
/-- The network part does not fit the type. -/
abbrev ERR_CODE_NWK_OUT_OF_RANGE : ℤ := -605
/-- The device part does not fit the type. -/
abbrev ERR_CODE_ADDR_OUT_OF_RANGE : ℤ := -606
/-- Every address of the network is taken. -/
abbrev ERR_CODE_ADDR_SPACE_FULL : ℤ := -607

/-- Part of an address that belongs to no type. -/
abbrev INVALID_ID : UInt32 := 0xffffffff

/-- Three bytes of a network identifier. -/
abbrev NETID := Vector UInt8 3

/-- The number that the three bytes write, least byte first. -/
def NETID2int (netid : NETID) : UInt32 :=
  UInt32.ofNat (netid[0].toNat+netid[1].toNat*2^8+netid[2].toNat*2^16)

/-- `MASK_NWK_ID`: the network part of the identifier by its type. -/
def MASK_NWK_ID : ℕ → UInt32
  | 0 => 0x3f
  | 1 => 0x3f
  | 2 => 0x1ff
  | 3 => 0x3ff
  | 4 => 0x7ff
  | 5 => 0x1fff
  | 6 => 0x7fff
  | _ => 0x1ffff

/-- `NetId::getType`: the three upper bits of the last byte. -/
def NetId.getType (netid : NETID) : ℕ := netid[2].toNat/32

/-- `NetId::getNwkId`. -/
def NetId.getNwkId (netid : NETID) : UInt32 := NETID2int netid&&&MASK_NWK_ID (NetId.getType netid)

/-- Constants of one address type. -/
structure AddressLayout where
  /-- Bits that a new type leaves alone. -/
  typeClear : UInt32
  /-- Bits of the type. -/
  typeBits : UInt32
  /-- First network part that does not fit. -/
  nwkIdLimit : UInt32
  /-- `NWKID_CLEAR_1_1`: bits that a new network part leaves alone. -/
  nwkIdClear : UInt32
  /-- Prefix and network part in bits, as `setNwkId_1_1` counts them. -/
  nwkIdLen : UInt32
  /-- First device part that does not fit. -/
  nwkAddrLimit : UInt32
  /-- `NWKADDR_CLEAR_V1_1`: bits that a new device part leaves alone. -/
  nwkAddrClear : UInt32
  /-- Bits that `getNwkAddr_1_1` reads. -/
  nwkAddrMask : UInt32

/-- The cases of `setNetIdType`, `setNwkId_1_1`, `setNwkAddr_1_1` and
`getNwkAddr_1_1`. Types three and four count one bit less than the standard in
front of the device part, and type five clears two bits of the network part
together with the device part. -/
def addressLayout : ℕ → Option AddressLayout
  | 0 => some ⟨0x7fffffff,0x00000000,0x40,0x81FFFFFF,7,0x2000000,0xFE000000,0x1ffffff⟩
  | 1 => some ⟨0x3fffffff,0x80000000,0x40,0xC0FFFFFF,8,0x1000000,0xFF000000,0xffffff⟩
  | 2 => some ⟨0x1fffffff,0xc0000000,0x200,0xE00FFFFF,12,0x100000,0xFFF00000,0xfffff⟩
  | 3 => some ⟨0x0fffffff,0xe0000000,0x800,0xF001FFFF,14,0x20000,0xFFFE0000,0x1ffff⟩
  | 4 => some ⟨0x07ffffff,0xf0000000,0x1000,0xF8007FFF,16,0x8000,0xFFFF8000,0x7fff⟩
  | 5 => some ⟨0x03ffffff,0xf8000000,0x2000,0xFC007FFF,19,0x2000,0xFFFF8000,0x1fff⟩
  | 6 => some ⟨0x01ffffff,0xfc000000,0x8000,0xFE0003FF,22,0x400,0xFFFFFC00,0x3ff⟩
  | 7 => some ⟨0x00ffffff,0xfe000000,0x20000,0xFF00007F,25,0x80,0xFFFFFF80,0x7f⟩
  | _ => none

/-- `DevAddr::getNetIdType`: the leading ones of the last byte, eight when all
bits are set. -/
def getNetIdType (devaddr : DEVADDR) : ℕ :=
  let typePrefix8 := devaddr.toNat/2^24
  if typePrefix8=0xfe then 7
  else if typePrefix8/2=0x7e then 6
  else if typePrefix8/4=0x3e then 5
  else if typePrefix8/8=0x1e then 4
  else if typePrefix8/16=0xe then 3
  else if typePrefix8/32=6 then 2
  else if typePrefix8/64=2 then 1
  else if typePrefix8/128=0 then 0
  else 8

/-- `DevAddr::setNetIdType`, with the object afterwards and the code. -/
def setNetIdType (devaddr : DEVADDR) (value : ℕ) : DEVADDR×ℤ :=
  match addressLayout value with
  | none => (devaddr,ERR_CODE_TYPE_OUT_OF_RANGE)
  | some layout => ((devaddr&&&layout.typeClear)|||layout.typeBits,0)

/-- `DevAddr::setNwkId_1_1`. -/
def setNwkId (devaddr : DEVADDR) (netIdType : ℕ) (value : UInt32) : DEVADDR×ℤ :=
  match addressLayout netIdType with
  | none => (devaddr,ERR_CODE_NWK_OUT_OF_RANGE)
  | some layout =>
    if layout.nwkIdLimit≤value then (devaddr,ERR_CODE_NWK_OUT_OF_RANGE)
    else ((devaddr&&&layout.nwkIdClear)|||(value<<<(32-layout.nwkIdLen)),0)

/-- `DevAddr::setNwkAddr_1_1`. -/
def setNwkAddr (devaddr : DEVADDR) (netIdType : ℕ) (value : UInt32) : DEVADDR×ℤ :=
  match addressLayout netIdType with
  | none => (devaddr,ERR_CODE_ADDR_OUT_OF_RANGE)
  | some layout =>
    if layout.nwkAddrLimit≤value then (devaddr,ERR_CODE_ADDR_OUT_OF_RANGE)
    else ((devaddr&&&layout.nwkAddrClear)|||value,0)

/-- `DevAddr::getNwkAddr_1_1`. -/
def getNwkAddr (devaddr : DEVADDR) : UInt32 :=
  match addressLayout (getNetIdType devaddr) with
  | none => INVALID_ID
  | some layout => devaddr&&&layout.nwkAddrMask

/-- One byte of the address, the last one in front of the others. -/
def addressByte (devaddr : DEVADDR) (index : ℕ) : UInt32 := UInt32.ofNat (devaddr.toNat/2^(8*index)%2^8)

/-- `DevAddr::getNwkId_1_1`. Type four reads its lowest bit from byte zero. -/
def getNwkId (devaddr : DEVADDR) : UInt32 :=
  let b := addressByte devaddr
  match getNetIdType devaddr with
  | 0 => (b 3&&&0x7f)>>>1
  | 1 => b 3&&&0x3f
  | 2 => ((b 3&&&0x1f)<<<4)|||(b 2>>>4)
  | 3 => ((b 3&&&0xf)<<<7)|||(b 2>>>1)
  | 4 => ((b 3&&&7)<<<9)|||(b 2<<<1)|||(b 0>>>7)
  | 5 => ((b 3&&&3)<<<11)|||(b 2<<<3)|||(b 1>>>5)
  | 6 => ((b 3&&&1)<<<14)|||(b 2<<<6)|||(b 1>>>2)
  | 7 => (b 2<<<9)|||(b 1<<<1)|||(b 0>>>7)
  | _ => INVALID_ID

/-- `DevAddr::set` over type, network part and device part: the first part that
does not fit ends it and leaves the later ones as they are. -/
def set (devaddr : DEVADDR) (netTypeId : ℕ) (nwkId nwkAddr : UInt32) : DEVADDR×ℤ :=
  let (devaddr,r) := setNetIdType devaddr netTypeId
  if r≠0 then (devaddr,r)
  else
    let (devaddr,r) := setNwkId devaddr netTypeId nwkId
    if r≠0 then (devaddr,r)
    else setNwkAddr devaddr netTypeId nwkAddr

/-- `DevAddr::getMaxNwkAddr_1_1`; the code of an unknown type wraps. -/
def getMaxNwkAddr (netTypeId : ℕ) : UInt32 :=
  match addressLayout netTypeId with
  | none => UInt32.ofInt ERR_CODE_ADDR_OUT_OF_RANGE
  | some layout => layout.nwkAddrLimit-1

/-- `DevAddr(netid, nwkAddr)` over the bits that the object holds before; its
code is dropped by the constructor. -/
def ofNetId (stale : DEVADDR) (netid : NETID) (nwkAddr : UInt32) : DEVADDR :=
  (set stale (NetId.getType netid) (NetId.getNwkId netid) nwkAddr).1

/-- `DevAddr(netId, retMax)` through `setMaxAddress` and `setMinAddress`. -/
def ofNetIdBound (stale : DEVADDR) (netid : NETID) (retMax : Bool) : DEVADDR :=
  (set stale (NetId.getType netid) (NetId.getNwkId netid)
    (if retMax then getMaxNwkAddr (NetId.getType netid) else 0)).1

/-- `DevAddr::increment` through `setAddr`. -/
def increment (devaddr : DEVADDR) : DEVADDR×ℤ := setNwkAddr devaddr (getNetIdType devaddr) (getNwkAddr devaddr+1)

/-- The last byte has three bits for the type. -/
theorem NetId.getType_lt (netid : NETID) : NetId.getType netid<8 := by
  have hb := netid[2].toNat_lt
  rw [NetId.getType]
  omega

/-- Bits that a new device part clears. -/
def clearBits : ℕ → ℕ
  | 0 => 25
  | 1 => 24
  | 2 => 20
  | 3 => 17
  | 4 => 15
  | 5 => 15
  | 6 => 10
  | _ => 7

/-- Bits of the device part. -/
def addrBits : ℕ → ℕ
  | 5 => 13
  | t => clearBits t

/-- Position of the network part. -/
def idShift : ℕ → ℕ
  | 3 => 18
  | 4 => 16
  | 5 => 13
  | t => clearBits t

/-- The constants of a type as powers of two: the type above its last zero,
the network part between, the device part below. -/
structure AddressLayout.Shape (layout : AddressLayout) (t : ℕ) : Prop where
  /-- A new type keeps what is below it. -/
  typeClear : layout.typeClear.toNat=2^(31-t)-1
  /-- As many leading ones as the type says. -/
  typeBits : layout.typeBits.toNat=2^32-2^(32-t)
  /-- A new network part keeps the type and the device part. -/
  nwkIdClear : layout.nwkIdClear.toNat=2^32-2^(31-t)+(2^clearBits t-1)
  /-- The network part is shifted to its position. -/
  nwkIdShift : (32-layout.nwkIdLen).toNat=idShift t
  /-- Every network part of an identifier fits. -/
  maskFits : (MASK_NWK_ID t).toNat<layout.nwkIdLimit.toNat
  /-- A network part stays below the type. -/
  maskBelow : (MASK_NWK_ID t).toNat*2^idShift t<2^(31-t)
  /-- The device part has its number of bits. -/
  nwkAddrLimit : layout.nwkAddrLimit.toNat=2^addrBits t
  /-- A new device part keeps what is above it. -/
  nwkAddrClear : layout.nwkAddrClear.toNat=2^32-2^clearBits t
  /-- The device part is read below. -/
  nwkAddrMask : layout.nwkAddrMask.toNat=2^addrBits t-1
  /-- The device part is cleared before it is written. -/
  addrBits_le : addrBits t≤clearBits t
  /-- The network part has room. -/
  clearBits_le : clearBits t≤31-t

/-- Every type has a layout of this shape. -/
theorem addressLayout_shape {t : ℕ} (h : t<8) : ∃ layout,addressLayout t=some layout ∧ layout.Shape t := by
  interval_cases t
  all_goals
    refine ⟨_,rfl,?_⟩
    constructor <;> decide

/-- An address is of a type when it has its leading ones and the zero behind
them. -/
theorem getNetIdType_eq {t : ℕ} {devaddr : DEVADDR} (ht : t<8) (hlow : 2^32-2^(32-t)≤devaddr.toNat)
    (hhigh : devaddr.toNat<2^32-2^(32-t)+2^(31-t)) : getNetIdType devaddr=t := by
  have hq : devaddr.toNat/2^24*2^24≤devaddr.toNat ∧ devaddr.toNat<devaddr.toNat/2^24*2^24+2^24 := by omega
  unfold getNetIdType
  generalize devaddr.toNat/2^24=byte at hq
  generalize devaddr.toNat=number at hq hlow hhigh
  interval_cases t
  · rw [if_neg (by omega),if_neg (by omega),if_neg (by omega),if_neg (by omega),if_neg (by omega),if_neg (by omega),if_neg (by omega),if_pos (by omega)]
  · rw [if_neg (by omega),if_neg (by omega),if_neg (by omega),if_neg (by omega),if_neg (by omega),if_neg (by omega),if_pos (by omega)]
  · rw [if_neg (by omega),if_neg (by omega),if_neg (by omega),if_neg (by omega),if_neg (by omega),if_pos (by omega)]
  · rw [if_neg (by omega),if_neg (by omega),if_neg (by omega),if_neg (by omega),if_pos (by omega)]
  · rw [if_neg (by omega),if_neg (by omega),if_neg (by omega),if_pos (by omega)]
  · rw [if_neg (by omega),if_neg (by omega),if_pos (by omega)]
  · rw [if_neg (by omega),if_pos (by omega)]
  · rw [if_pos (by omega)]

/-- Number of the first address of the network. -/
def first (netid : NETID) : ℕ :=
  let t := NetId.getType netid
  2^32-2^(32-t)+(NetId.getNwkId netid).toNat*2^idShift t/2^clearBits t*2^clearBits t

/-- Number of addresses of the network. -/
def size (netid : NETID) : ℕ := 2^addrBits (NetId.getType netid)

/-- The leading ones of a type end above its zero. -/
theorem typeBits_eq {t : ℕ} (h : t<8) : 2^32-2^(32-t)=(2*(2^t-1))*2^(31-t) := by
  interval_cases t <;> rfl

/-- The network part of an identifier is inside its mask. -/
theorem NetId.getNwkId_le (netid : NETID) :
    (NetId.getNwkId netid).toNat≤(MASK_NWK_ID (NetId.getType netid)).toNat := by
  rw [NetId.getNwkId,UInt32.toNat_and]
  exact Nat.and_le_right

/-- A new type over the bits below it. -/
theorem AddressLayout.Shape.newType {layout : AddressLayout} {t : ℕ} (hs : layout.Shape t) (ht : t<8)
    (stale : DEVADDR) : ((stale&&&layout.typeClear)|||layout.typeBits).toNat=
      2*(2^t-1)*2^(31-t)+stale.toNat%2^(31-t) := by
  rw [UInt32.toNat_or,UInt32.toNat_and,hs.typeClear,hs.typeBits,Nat.and_two_pow_sub_one_eq_mod,typeBits_eq ht,
    Nat.or_comm,or_low (Nat.mod_lt _ (Nat.two_pow_pos _))]

/-- What is left of the object when the network part is cleared behind a new
type: the bits of the device part. -/
theorem AddressLayout.Shape.clearedNwkId {layout : AddressLayout} {t : ℕ} (hs : layout.Shape t) (ht : t<8)
    (stale : DEVADDR) : (((stale&&&layout.typeClear)|||layout.typeBits)&&&layout.nwkIdClear).toNat=
      2*(2^t-1)*2^(31-t)+stale.toNat%2^clearBits t := by
  have hnew := hs.newType ht stale
  have hlt : ((stale&&&layout.typeClear)|||layout.typeBits).toNat<2^32 := UInt32.toNat_lt _
  have hdvd : 2^clearBits t∣2^(31-t) := Nat.pow_dvd_pow 2 hs.clearBits_le
  have hmul : 2^clearBits t∣2*(2^t-1)*2^(31-t) := hdvd.mul_left _
  rw [UInt32.toNat_and,hs.nwkIdClear,and_gap hs.clearBits_le (by omega) hlt,hnew,
    mul_add_div_of_lt (Nat.mod_lt _ (Nat.two_pow_pos _)),Nat.add_mod,Nat.mod_eq_zero_of_dvd hmul,Nat.zero_add,
    Nat.mod_mod,Nat.mod_mod_of_dvd _ hdvd]

/-- A network part that fits the word is shifted to its position. -/
theorem AddressLayout.Shape.shiftedNwkId {layout : AddressLayout} {t : ℕ} (hs : layout.Shape t) (ht : t<8)
    {nwkId : UInt32} (hid : nwkId.toNat*2^idShift t<2^32) :
    (nwkId<<<(32-layout.nwkIdLen)).toNat=nwkId.toNat*2^idShift t := by
  have hsl : idShift t<32 := by interval_cases t <;> decide
  rw [UInt32.toNat_shiftLeft,hs.nwkIdShift,Nat.mod_eq_of_lt hsl,Nat.shiftLeft_eq,Nat.mod_eq_of_lt hid]

/-- Type and network part of any object, written over what it holds. A network
part that stays below the type leaves the bits that the device part does not
clear. -/
theorem set_parts_of_lt (stale : DEVADDR) {t : ℕ} (ht : t<8) {layout : AddressLayout}
    (hlayout : addressLayout t=some layout) {nwkId : UInt32} (hfit : ¬ layout.nwkIdLimit≤nwkId)
    (hid : nwkId.toNat*2^idShift t<2^(31-t)) : ∃ parts : DEVADDR,
    parts.toNat/2^clearBits t*2^clearBits t=
      2^32-2^(32-t)+nwkId.toNat*2^idShift t/2^clearBits t*2^clearBits t ∧
    ∀ nwkAddr,set stale t nwkId nwkAddr=setNwkAddr parts t nwkAddr := by
  obtain ⟨shaped,hshaped,hs⟩ := addressLayout_shape ht
  obtain rfl : shaped=layout := Option.some.inj (hshaped.symm.trans hlayout)
  refine ⟨(((stale&&&shaped.typeClear)|||shaped.typeBits)&&&shaped.nwkIdClear)|||
    (nwkId<<<(32-shaped.nwkIdLen)),?_,?_⟩
  · have hpow : 2^clearBits t*2^(31-t-clearBits t)=2^(31-t) := by
      rw [←pow_add,Nat.add_sub_cancel' hs.clearBits_le]
    have hword : nwkId.toNat*2^idShift t<2^32 := hid.trans_le (Nat.pow_le_pow_right (by decide) (by omega))
    have hw : nwkId.toNat*2^idShift t/2^clearBits t<2^(31-t-clearBits t) := by
      rw [Nat.div_lt_iff_lt_mul (Nat.two_pow_pos _),Nat.mul_comm (2^(31-t-clearBits t)),hpow]
      exact hid
    have hq : (2*(2^t-1)*2^(31-t)+stale.toNat%2^clearBits t)/2^clearBits t=
        2*(2^t-1)*2^(31-t-clearBits t) := by
      rw [←hpow,Nat.mul_comm (2^clearBits t),←Nat.mul_assoc,mul_add_div_of_lt (Nat.mod_lt _ (Nat.two_pow_pos _))]
    rw [UInt32.toNat_or,hs.clearedNwkId ht,hs.shiftedNwkId ht hword,or_div,hq,or_low hw,Nat.add_mul,
      Nat.mul_assoc,Nat.mul_comm (2^(31-t-clearBits t)),hpow,typeBits_eq ht]
  · intro nwkAddr
    simp only [set,setNetIdType,setNwkId,hlayout,ne_eq,not_true_eq_false,if_false,hfit]

/-- The network part of an identifier fits and stays below the type. -/
theorem NetId.getNwkId_lt (netid : NETID) {layout : AddressLayout}
    (hlayout : addressLayout (NetId.getType netid)=some layout) : ¬ layout.nwkIdLimit≤NetId.getNwkId netid ∧
    (NetId.getNwkId netid).toNat*2^idShift (NetId.getType netid)<2^(31-NetId.getType netid) := by
  obtain ⟨shaped,hshaped,hs⟩ := addressLayout_shape (NetId.getType_lt netid)
  obtain rfl : shaped=layout := Option.some.inj (hshaped.symm.trans hlayout)
  have hv := NetId.getNwkId_le netid
  refine ⟨?_,(Nat.mul_le_mul_right _ hv).trans_lt hs.maskBelow⟩
  rw [UInt32.le_iff_toNat_le]
  have hm := hs.maskFits
  omega

/-- Type and network part of an identifier over any object: above the device
part stands the first address of the network. -/
theorem set_parts (stale : DEVADDR) (netid : NETID) : ∃ parts : DEVADDR,
    parts.toNat/2^clearBits (NetId.getType netid)*2^clearBits (NetId.getType netid)=first netid ∧
    ∀ nwkAddr,set stale (NetId.getType netid) (NetId.getNwkId netid) nwkAddr=
      setNwkAddr parts (NetId.getType netid) nwkAddr := by
  obtain ⟨layout,hlayout,-⟩ := addressLayout_shape (NetId.getType_lt netid)
  have hlt := NetId.getNwkId_lt netid hlayout
  exact set_parts_of_lt stale (NetId.getType_lt netid) hlayout hlt.1 hlt.2

/-- The first address is aligned to the bits that a new device part clears. -/
theorem first_aligned (netid : NETID) :
    first netid/2^clearBits (NetId.getType netid)*2^clearBits (NetId.getType netid)=first netid := by
  obtain ⟨parts,hp,-⟩ := set_parts 0 netid
  rw [←hp,Nat.mul_div_cancel _ (Nat.two_pow_pos _)]

/-- The addresses of a network have the leading bits of its type. -/
theorem first_add_le (netid : NETID) : 2^32-2^(32-NetId.getType netid)≤first netid ∧
    first netid+2^clearBits (NetId.getType netid)≤
      2^32-2^(32-NetId.getType netid)+2^(31-NetId.getType netid) := by
  obtain ⟨layout,hlayout,hs⟩ := addressLayout_shape (NetId.getType_lt netid)
  have hid := (NetId.getNwkId_lt netid hlayout).2
  rw [first]
  refine ⟨Nat.le_add_right _ _,?_⟩
  rw [Nat.add_assoc]
  apply Nat.add_le_add_left
  have hpow : 2^(31-NetId.getType netid)=
      2^(31-NetId.getType netid-clearBits (NetId.getType netid))*2^clearBits (NetId.getType netid) := by
    rw [←pow_add,Nat.sub_add_cancel hs.clearBits_le]
  rw [hpow] at hid ⊢
  rw [←Nat.succ_mul]
  exact Nat.mul_le_mul_right _ ((Nat.div_lt_iff_lt_mul (Nat.two_pow_pos _)).mpr hid)

/-- The block of a network fits the word. -/
theorem first_add_size_le (netid : NETID) : first netid+size netid≤2^32 := by
  obtain ⟨layout,-,hs⟩ := addressLayout_shape (NetId.getType_lt netid)
  have hb := (first_add_le netid).2
  have hm : size netid≤2^clearBits (NetId.getType netid) := Nat.pow_le_pow_right (by decide) hs.addrBits_le
  have ht : 2^(31-NetId.getType netid)≤2^(32-NetId.getType netid) := Nat.pow_le_pow_right (by decide) (by omega)
  have hw : 2^(32-NetId.getType netid)≤2^32 := Nat.pow_le_pow_right (by decide) (by omega)
  omega

/-- A network has at least one address. -/
theorem size_pos (netid : NETID) : 0<size netid := Nat.two_pow_pos _

/-- Address of the network by its device part. -/
def address (netid : NETID) (nwkAddr : ℕ) : DEVADDR := UInt32.ofNat (first netid+nwkAddr)

/-- Its number. -/
theorem address_toNat {netid : NETID} {nwkAddr : ℕ} (h : nwkAddr<size netid) :
    (address netid nwkAddr).toNat=first netid+nwkAddr := by
  have hb := first_add_size_le netid
  exact UInt32.toNat_ofNat_of_lt' (by rw [UInt32.size]; omega)

/-- A device part that fits is written below the parts above it. -/
theorem setNwkAddr_of_parts {t : ℕ} (ht : t<8) {parts : DEVADDR} {base : ℕ}
    (hp : parts.toNat/2^clearBits t*2^clearBits t=base) (value : UInt32) : setNwkAddr parts t value=
      if 2^addrBits t≤value.toNat then (parts,ERR_CODE_ADDR_OUT_OF_RANGE)
      else (UInt32.ofNat (base+value.toNat),0) := by
  obtain ⟨layout,hlayout,hs⟩ := addressLayout_shape ht
  rw [setNwkAddr,hlayout]
  simp only [UInt32.le_iff_toNat_le,hs.nwkAddrLimit]
  split_ifs with hv
  · rfl
  · have hc : clearBits t≤32 := hs.clearBits_le.trans (by omega)
    have hlow : value.toNat<2^clearBits t :=
      (not_le.mp hv).trans_le (Nat.pow_le_pow_right (by decide) hs.addrBits_le)
    have hd : (parts&&&layout.nwkAddrClear|||value).toNat=base+value.toNat := by
      rw [UInt32.toNat_or,UInt32.toNat_and,hs.nwkAddrClear,and_high hc parts.toNat_lt,or_low hlow,hp]
    rw [←hd,UInt32.ofNat_toNat]

/-- A device part that fits makes the address with that part. -/
theorem setNwkAddr_eq {netid : NETID} {parts : DEVADDR}
    (hp : parts.toNat/2^clearBits (NetId.getType netid)*2^clearBits (NetId.getType netid)=first netid)
    (value : UInt32) : setNwkAddr parts (NetId.getType netid) value=
      if size netid≤value.toNat then (parts,ERR_CODE_ADDR_OUT_OF_RANGE) else (address netid value.toNat,0) :=
  setNwkAddr_of_parts (NetId.getType_lt netid) hp value

/-- The next device part behind any object with the type and the network part. -/
theorem increment_eq {netid : NETID} {parts : DEVADDR}
    (hp : parts.toNat/2^clearBits (NetId.getType netid)*2^clearBits (NetId.getType netid)=first netid) :
    increment parts=if size netid≤parts.toNat%size netid+1 then (parts,ERR_CODE_ADDR_OUT_OF_RANGE)
      else (address netid (parts.toNat%size netid+1),0) := by
  obtain ⟨layout,hlayout,hs⟩ := addressLayout_shape (NetId.getType_lt netid)
  have hb := first_add_le netid
  have hdm := Nat.div_add_mod' parts.toNat (2^clearBits (NetId.getType netid))
  have hml := Nat.mod_lt parts.toNat (Nat.two_pow_pos (clearBits (NetId.getType netid)))
  have ht : getNetIdType parts=NetId.getType netid :=
    getNetIdType_eq (NetId.getType_lt netid) (by omega) (by omega)
  have ha : (getNwkAddr parts).toNat=parts.toNat%size netid := by
    rw [getNwkAddr,ht,hlayout]
    simp only
    rw [UInt32.toNat_and,hs.nwkAddrMask,Nat.and_two_pow_sub_one_eq_mod,size]
  have hn : (getNwkAddr parts+1).toNat=parts.toNat%size netid+1 := by
    have hl := first_add_size_le netid
    have hr := Nat.mod_lt parts.toNat (size_pos netid)
    have hbits : size netid≤2^25 := by
      rw [size]
      apply Nat.pow_le_pow_right (by decide)
      have h8 := NetId.getType_lt netid
      interval_cases NetId.getType netid <;> decide
    rw [UInt32.toNat_add,ha]
    exact Nat.mod_eq_of_lt (by change _+1<_; omega)
  rw [increment,ht,setNwkAddr_eq hp,hn]

/-- An address of the network has its type and network part. -/
theorem address_parts {netid : NETID} {nwkAddr : ℕ} (h : nwkAddr<size netid) :
    (address netid nwkAddr).toNat/2^clearBits (NetId.getType netid)*2^clearBits (NetId.getType netid)=
      first netid := by
  obtain ⟨layout,-,hs⟩ := addressLayout_shape (NetId.getType_lt netid)
  have hlow : nwkAddr<2^clearBits (NetId.getType netid) :=
    h.trans_le (Nat.pow_le_pow_right (by decide) hs.addrBits_le)
  have ha := first_aligned netid
  have hd : (first netid+nwkAddr)/2^clearBits (NetId.getType netid)=
      first netid/2^clearBits (NetId.getType netid) := by
    conv_lhs => rw [←ha,Nat.mul_comm,Nat.mul_add_div (Nat.two_pow_pos _),Nat.div_eq_of_lt hlow,Nat.add_zero]
  rw [address_toNat h,hd,ha]

/-- An increment moves to the next address of the network or fails at the last
one. -/
theorem increment_address {netid : NETID} {nwkAddr : ℕ} (h : nwkAddr<size netid) :
    increment (address netid nwkAddr)=if nwkAddr+1<size netid then (address netid (nwkAddr+1),0)
      else (address netid nwkAddr,ERR_CODE_ADDR_OUT_OF_RANGE) := by
  obtain ⟨layout,-,hs⟩ := addressLayout_shape (NetId.getType_lt netid)
  have hmod : (address netid nwkAddr).toNat%size netid=nwkAddr := by
    have hdvd : size netid∣first netid := by
      rw [←first_aligned netid,size]
      exact (Nat.pow_dvd_pow 2 hs.addrBits_le).mul_left _
    rw [address_toNat h,Nat.add_mod,Nat.mod_eq_zero_of_dvd hdvd,Nat.zero_add,Nat.mod_mod,Nat.mod_eq_of_lt h]
  rw [increment_eq (address_parts h),hmod]
  split_ifs with hlast hnext hnext
  · omega
  · rfl
  · rfl
  · omega

/-- The smallest address of the network, whatever the object held before. -/
theorem ofNetIdBound_min (stale : DEVADDR) (netid : NETID) :
    ofNetIdBound stale netid false=address netid 0 := by
  obtain ⟨parts,hp,hset⟩ := set_parts stale netid
  have hz : (0 : UInt32).toNat=0 := rfl
  have hs := size_pos netid
  simp only [ofNetIdBound,Bool.false_eq_true,if_false]
  rw [hset,setNwkAddr_eq hp,hz,if_neg (by omega)]

/-- The largest device part is one less than the number of addresses. -/
theorem getMaxNwkAddr_toNat (netid : NETID) : (getMaxNwkAddr (NetId.getType netid)).toNat=size netid-1 := by
  obtain ⟨layout,hlayout,hl⟩ := addressLayout_shape (NetId.getType_lt netid)
  have hone : (1 : UInt32)≤layout.nwkAddrLimit := by
    rw [UInt32.le_iff_toNat_le,hl.nwkAddrLimit]
    exact size_pos netid
  rw [getMaxNwkAddr,hlayout]
  simp only
  rw [UInt32.toNat_sub_of_le _ _ hone,hl.nwkAddrLimit,size]
  rfl

/-- The largest address of the network. -/
theorem ofNetIdBound_max (stale : DEVADDR) (netid : NETID) :
    ofNetIdBound stale netid true=address netid (size netid-1) := by
  obtain ⟨parts,hp,hset⟩ := set_parts stale netid
  have hs := size_pos netid
  simp only [ofNetIdBound,if_true]
  rw [hset,setNwkAddr_eq hp,getMaxNwkAddr_toNat netid,if_neg (by omega)]

/-- The address lies between the smallest and the largest one of the network. -/
def InRange (netid : NETID) (devaddr : DEVADDR) : Prop :=
  ofNetIdBound 0 netid false≤devaddr ∧ devaddr≤ofNetIdBound 0 netid true

/-- The range of a network is its block. -/
theorem inRange_iff (netid : NETID) (devaddr : DEVADDR) :
    InRange netid devaddr ↔ ∃ nwkAddr<size netid,devaddr=address netid nwkAddr := by
  have hs := size_pos netid
  rw [InRange,ofNetIdBound_min,ofNetIdBound_max,UInt32.le_iff_toNat_le,UInt32.le_iff_toNat_le,
    address_toNat hs,address_toNat (by omega)]
  constructor
  · rintro ⟨hlow,hhigh⟩
    refine ⟨devaddr.toNat-first netid,by omega,?_⟩
    apply UInt32.toNat_inj.mp
    rw [address_toNat (by omega)]
    omega
  · rintro ⟨nwkAddr,hn,rfl⟩
    rw [address_toNat hn]
    omega

/-- The successor of a constructed address: behind the given device part when
it fits, behind some device part of the network when it does not. -/
theorem increment_ofNetId (stale : DEVADDR) (netid : NETID) (nwkAddr : UInt32) :
    ∃ found<size netid,(nwkAddr.toNat<size netid → found=nwkAddr.toNat) ∧
      increment (ofNetId stale netid nwkAddr)=if found+1<size netid then (address netid (found+1),0)
        else (ofNetId stale netid nwkAddr,ERR_CODE_ADDR_OUT_OF_RANGE) := by
  obtain ⟨parts,hp,hset⟩ := set_parts stale netid
  rw [ofNetId,hset,setNwkAddr_eq hp]
  split_ifs with hbig
  · refine ⟨parts.toNat%size netid,Nat.mod_lt _ (size_pos netid),fun h => absurd hbig (by omega),?_⟩
    rw [increment_eq hp]
    split_ifs with hlast hnext hnext
    · omega
    · rfl
    · rfl
    · omega
  · exact ⟨nwkAddr.toNat,by omega,fun _ => rfl,increment_address (by omega)⟩

/-- Such a successor, when there is one, is an address of the network behind
its first one. -/
theorem increment_ofNetId_address {stale : DEVADDR} {netid : NETID} {nwkAddr : UInt32}
    (h : (increment (ofNetId stale netid nwkAddr)).2=0) : ∃ found,found+1<size netid ∧
      (increment (ofNetId stale netid nwkAddr)).1=address netid (found+1) := by
  obtain ⟨found,-,-,he⟩ := increment_ofNetId stale netid nwkAddr
  rw [he] at h ⊢
  split_ifs at h ⊢ with hlt
  · exact ⟨found,hlt,rfl⟩
  · exact absurd h (show ERR_CODE_ADDR_OUT_OF_RANGE≠0 by decide)

end LorawanServer.DeviceAddress
