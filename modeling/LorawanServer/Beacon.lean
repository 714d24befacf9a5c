import LorawanServer.CppRuntime
import LorawanServer.CyclicCode
import LorawanServer.JustInTime
import LorawanServer.XorLinear

/-!
# Class B beacons

`downstreamBeaconRunner` prepares a packet from the settings of the gateway and
writes a frame of two parts into it, each with its `crc16`. The first part has
the time of the beacon, the second one the place of the gateway. A change of up
to three bits, or one inside sixteen bits of the data of a part, is found by the
two codes.
-/

namespace LorawanServer.Beacon

open CppRuntime CyclicCode XorLinear JustInTime

/-- A shift of the register of `crc16`. -/
def crcShift (r : UInt16) : UInt16 := if r &&& 0x8000≠0 then r <<< 1 ^^^ 0x1021 else r <<< 1

/-- `crc16`. -/
def crc16 (data : Bytes) : UInt16 := data.foldl (fun r byte => crcShift^[8] (r ^^^ (byte.toUInt16 <<< (8 : UInt16)))) 0

/-- The settings of the gateway that the beacons are made of. The place is what
the conversion of the scaled coordinates to 32-bit integers returns. -/
structure BeaconSettings where
  beaconPeriod : UInt32
  beaconFreqHz : UInt32
  beaconFreqNb : UInt8
  beaconFreqStep : UInt32
  beaconDataRate : UInt8
  beaconBandwidthHz : UInt32
  beaconPower : UInt8
  beaconInfoDesc : UInt8
  latitude : ℤ
  longitude : ℤ
  deriving DecidableEq

/-- What follows from the data rate: the rate of the packet and the sizes of the
two reserved fields. -/
structure BeaconRate where
  datarate : UInt32
  rfu1 : ℕ
  rfu2 : ℕ
  deriving DecidableEq

/-- The switch over the data rate; another one stops the gateway. -/
def beaconRate (dataRate : UInt8) : Option BeaconRate :=
  if dataRate=8 then some ⟨8,1,3⟩
  else if dataRate=9 then some ⟨9,2,0⟩
  else if dataRate=10 then some ⟨10,3,1⟩
  else if dataRate=12 then some ⟨12,5,3⟩
  else none

/-- The switch over the bandwidth; another one stops the gateway. -/
def beaconBandwidth (bandwidthHz : UInt32) : Option UInt8 :=
  if bandwidthHz=125000 then some 4
  else if bandwidthHz=500000 then some 6
  else none

/-- The limits of a coordinate. -/
def clampField (field : ℤ) : ℤ := if 0x7fffff<field then 0x7fffff else if field< -0x800000 then -0x800000 else field

/-- The three bytes of a coordinate. -/
def fieldBytes (field : ℤ) : Bytes := leBytes 3 (clampField field%2^24).toNat

/-- The data of the first part. -/
def commonPart (rate : BeaconRate) (seconds : ℕ) : Bytes := List.replicate rate.rfu1 0++leBytes 4 seconds

/-- The data of the second part. -/
def specificPart (settings : BeaconSettings) (rate : BeaconRate) : Bytes :=
  settings.beaconInfoDesc::(fieldBytes settings.latitude++fieldBytes settings.longitude)++List.replicate rate.rfu2 0

/-- Data with its `crc16`. -/
def protect (data : Bytes) : Bytes := data++leBytes 2 (crc16 data).toNat

/-- The frame of the beacon for a time. -/
def beaconFrame (settings : BeaconSettings) (rate : BeaconRate) (seconds : ℕ) : Bytes :=
  protect (commonPart rate seconds)++protect (specificPart settings rate)

/-- The channel of the beacon for a time. -/
def beaconChan (settings : BeaconSettings) (seconds : ℕ) : ℕ :=
  if 1<settings.beaconFreqNb then seconds/settings.beaconPeriod.toNat%settings.beaconFreqNb.toNat else 0

/-- The frequency of the beacon for a time. -/
def beaconFreq (settings : BeaconSettings) (seconds : ℕ) : UInt32 :=
  settings.beaconFreqHz+UInt32.ofNat (beaconChan settings seconds)*settings.beaconFreqStep

/-- The packet for a time, given its timestamp. The payload array and the members
that the runner does not set hold what the memory held before. -/
def beaconPacket (settings : BeaconSettings) (rate : BeaconRate) (bandwidth : UInt8) (uninitialised : LgwPktTx)
    (seconds : ℕ) (countUs : UInt32) : LgwPktTx :=
  {uninitialised with
    freqHz := beaconFreq settings seconds
    txMode := onGps
    countUs
    rfChain := 0
    rfPower := settings.beaconPower.toInt8
    modulation := 0x10
    bandwidth
    datarate := rate.datarate
    coderate := 1
    invertPol := false
    preamble := 10
    noCrc := true
    noHeader := true
    size := UInt16.ofNat (rate.rfu1+4+2+7+rate.rfu2+2)
    payload := beaconFrame settings rate seconds++
      uninitialised.payload.drop (beaconFrame settings rate seconds).length}

/-- The polynomial of `crc16`. -/
def polynomial : BitVec (15+1) := 0x1021#16

/-- The bits of a byte from the top. -/
def byteBits (byte : UInt8) : List Bool := (List.range 8).map fun i => byte.toBitVec.getLsbD (7-i)

/-- The bits of a memory image in the order in which `crc16` takes them. -/
def bitsOf (data : Bytes) : List Bool := data.flatMap byteBits

/-- Number of bits in which two memory images of one length differ. -/
def distance (xs ys : Bytes) : ℕ := (difference (bitsOf xs) (bitsOf ys)).count true

/-- A part of a received frame whose data have the code behind them. -/
def partChecks (size : ℕ) (bytes : Bytes) : Prop :=
  bytes.drop size=leBytes 2 (crc16 (bytes.take size)).toNat

/-- What a receiver tests in a frame of the rate. -/
structure Checks (rate : BeaconRate) (frame : Bytes) : Prop where
  length : frame.length=rate.rfu1+4+2+7+rate.rfu2+2
  common : partChecks (rate.rfu1+4) (frame.take (rate.rfu1+4+2))
  specific : partChecks (7+rate.rfu2) (frame.drop (rate.rfu1+4+2))

/-- A shift of the register as one of a bit vector. -/
theorem crcShift_toBitVec (r : UInt16) : (crcShift r).toBitVec=shift polynomial r.toBitVec := by
  have hm : r &&& 0x8000≠0 ↔ r.toBitVec.msb=true := by
    rw [ne_eq,←UInt16.toBitVec_inj,UInt16.toBitVec_and,show (0x8000 : UInt16).toBitVec=BitVec.twoPow 16 15 from rfl,
      BitVec.and_twoPow,BitVec.msb_eq_getLsbD_last]
    cases r.toBitVec.getLsbD 15 <;> decide
  rw [crcShift,shift]
  by_cases h : r &&& 0x8000≠0
  · rw [if_pos h,if_pos (hm.mp h)]
    rfl
  · rw [if_neg h,if_neg (fun hc => h (hm.mpr hc))]
    rfl

/-- The code is the remainder of the bits. -/
theorem crc16_toBitVec (data : Bytes) : (crc16 data).toBitVec=remainder polynomial 0 (bitsOf data) := by
  have hbyte : ∀ byte : UInt8,(byte.toUInt16 <<< (8 : UInt16)).toBitVec=aligned (byteBits byte) :=
    forall_byte (by decide +kernel)
  have hshift : Function.Semiconj UInt16.toBitVec crcShift (shift polynomial) := crcShift_toBitVec
  have hrun : ∀ (r : UInt16),(data.foldl (fun r byte => crcShift^[8] (r ^^^ (byte.toUInt16 <<< (8 : UInt16)))) r).toBitVec=
      remainder polynomial r.toBitVec (bitsOf data) := by
    induction data with
    | nil => exact fun r => rfl
    | cons byte data ih =>
      intro r
      have hbits : bitsOf (byte::data)=byteBits byte++bitsOf data := List.flatMap_cons
      rw [List.foldl_cons,ih,hbits,remainder_append,
        remainder_aligned polynomial _ (by simp [byteBits] : (byteBits byte).length ≤ 16),
        (hshift.iterate_right 8) (r ^^^ (byte.toUInt16 <<< (8 : UInt16))),UInt16.toBitVec_xor,hbyte]
      rfl
  exact hrun 0

/-- The polynomial has a constant term. -/
theorem polynomial_odd : polynomial.getLsbD 0=true := rfl

/-- With the leading term the polynomial has four terms. -/
theorem polynomial_even : parity polynomial=1 := by decide +kernel

/-- In a frame the register does not come back. -/
theorem polynomial_order : ∀ d<103,(shift polynomial)^[d+1] (top true)≠top true := by decide +kernel

/-- Bits of memory that is put together. -/
theorem bitsOf_append (xs ys : Bytes) : bitsOf (xs++ys)=bitsOf xs++bitsOf ys := List.flatMap_append

/-- Eight bits a byte. -/
theorem length_bitsOf (data : Bytes) : (bitsOf data).length=8*data.length := by
  induction data with
  | nil => rfl
  | cons byte data ih =>
    have hbits : bitsOf (byte::data)=byteBits byte++bitsOf data := List.flatMap_cons
    rw [hbits,List.length_append,ih,byteBits,List.length_map,List.length_range,List.length_cons]
    omega

/-- The bits of the lowest byte of a number. -/
theorem byteBits_ofNat (n : ℕ) : byteBits (UInt8.ofNat n)=(List.range 8).map fun i => n.testBit (7-i) := by
  apply List.map_congr_left
  intro i hi
  rw [UInt8.toBitVec_ofNat',BitVec.getLsbD_ofNat,decide_eq_true (by omega),Bool.true_and]

/-- Different bytes have different bits. -/
theorem byteBits_injective : Function.Injective byteBits := by
  intro x y h
  rw [←UInt8.toBitVec_inj]
  apply BitVec.eq_of_getLsbD_eq
  intro i hi
  have hbit := List.map_inj_left.mp h (7-i) (List.mem_range.mpr (by omega))
  rwa [Nat.sub_sub_self (by omega)] at hbit

/-- Different data have different bits. -/
theorem bitsOf_injective {xs ys : Bytes} (h : bitsOf xs=bitsOf ys) : xs=ys := by
  induction xs generalizing ys with
  | nil =>
    have hl := length_bitsOf ys
    rw [←h] at hl
    exact (List.length_eq_zero_iff.mp (by simpa [bitsOf] using hl.symm)).symm
  | cons x xs ih =>
    cases ys with
    | nil =>
      have hl := length_bitsOf (x::xs)
      rw [h] at hl
      simp [bitsOf] at hl
    | cons y ys =>
      have hb : byteBits x++bitsOf xs=byteBits y++bitsOf ys := h
      obtain ⟨hx,hxs⟩ := List.append_inj hb (by simp [byteBits])
      rw [byteBits_injective hx,ih hxs]

/-- Distances of memory that is put together add up. -/
theorem distance_append {xs ys : Bytes} (h : xs.length=ys.length) (xs' ys' : Bytes) :
    distance (xs++xs') (ys++ys')=distance xs ys+distance xs' ys' := by
  rw [distance,bitsOf_append,bitsOf_append,difference_append (by rw [length_bitsOf,length_bitsOf,h]),
    List.count_append]
  rfl

/-- Memory without a different bit is the same. -/
theorem eq_of_distance {xs ys : Bytes} (h : xs.length=ys.length) (hz : distance xs ys=0) : xs=ys :=
  bitsOf_injective (eq_of_difference (by rw [length_bitsOf,length_bitsOf,h]) hz)

/-- The order of the two bytes of a code does not matter for the distance. -/
theorem distance_code (a b : UInt16) :
    distance (leBytes 2 a.toNat) (leBytes 2 b.toNat)=(word (w := 15) (a.toBitVec ^^^ b.toBitVec)).count true := by
  have hbits : ∀ n : ℕ,bitsOf (leBytes 2 n)=((List.range 8).map fun i => n.testBit (7-i))++
      (List.range 8).map fun i => n.testBit (15-i) := by
    intro n
    have hle : bitsOf (leBytes 2 n)=byteBits (UInt8.ofNat n)++(byteBits (UInt8.ofNat (n/256))++[]) := rfl
    rw [hle,List.append_nil,byteBits_ofNat,byteBits_ofNat]
    congr 1
    apply List.map_congr_left
    intro i hi
    have hi := List.mem_range.mp hi
    rw [show (256 : ℕ)=2^8 from rfl,Nat.testBit_div_two_pow,show 7-i+8=15-i by omega]
  have hdiff : ∀ f g : ℕ → Bool,difference ((List.range 8).map f) ((List.range 8).map g)=
      (List.range 8).map fun i => xor (f i) (g i) := by
    intro f g
    rw [difference,List.zipWith_map,List.zipWith_self]
  have hword : word (w := 15) (a.toBitVec ^^^ b.toBitVec)=
      ((List.range 8).map fun i => xor (a.toNat.testBit (15-i)) (b.toNat.testBit (15-i)))++
        (List.range 8).map fun i => xor (a.toNat.testBit (7-i)) (b.toNat.testBit (7-i)) := by
    have hrange : List.range (15+1)=List.range 8++(List.range 8).map fun i => 8+i := List.range_add
    rw [word,hrange,List.map_append,List.map_map]
    congr 1
    · apply List.map_congr_left
      intro i _
      rw [BitVec.getLsbD_xor]
      rfl
    · apply List.map_congr_left
      intro i hi
      have hi := List.mem_range.mp hi
      rw [Function.comp_apply,BitVec.getLsbD_xor,show 15-(8+i)=7-i by omega]
      rfl
  rw [distance,hbits,hbits,difference_append (by simp),hdiff,hdiff,hword,List.count_append,List.count_append,
    Nat.add_comm]

/-- Different data of one length are four bits apart when each has its code. -/
theorem distance_protect {data data' : Bytes} (h : data.length=data'.length) (hshort : data.length ≤ 11)
    (hne : data≠data') : 4 ≤ distance (protect data) (protect data') := by
  rw [protect,protect,distance_append h,distance_code,crc16_toBitVec,crc16_toBitVec]
  refine four_le_difference polynomial_odd polynomial_even polynomial_order 0 ?_ (fun hc => hne (bitsOf_injective hc)) ?_
  · rw [length_bitsOf,length_bitsOf,h]
  · rw [length_bitsOf]
    omega

/-- A part that checks is its data with their code. -/
theorem eq_protect {size : ℕ} {bytes : Bytes} (h : partChecks size bytes) : bytes=protect (bytes.take size) := by
  rw [protect,←h,List.take_append_drop]

/-- A frame that was damaged on its way: in up to three bits, or inside sixteen
bits of the data of one part. -/
inductive Damaged (rate : BeaconRate) (sent received : Bytes) : Prop where
  | few (same : received.length=sent.length) (some_bit : 0<distance sent received)
      (few_bits : distance sent received ≤ 3)
  | common (data changed behind : Bytes) (size : data.length=rate.rfu1+4) (same : changed.length=data.length)
      (was : sent=data++behind) (is : received=changed++behind)
      (burst : Burst 15 (difference (bitsOf data) (bitsOf changed)))
  | specific (front data changed behind : Bytes) (position : front.length=rate.rfu1+4+2)
      (size : data.length=7+rate.rfu2) (same : changed.length=data.length) (was : sent=front++(data++behind))
      (is : received=front++(changed++behind)) (burst : Burst 15 (difference (bitsOf data) (bitsOf changed)))

/-- Sizes of the fields. -/
theorem beaconRate_sizes {dataRate : UInt8} {rate : BeaconRate} (h : beaconRate dataRate=some rate) :
    rate.rfu1 ≤ 5 ∧ rate.rfu2 ≤ 3 := by
  rw [beaconRate] at h
  split_ifs at h <;> (obtain rfl := Option.some.inj h; exact ⟨by decide,by decide⟩)

/-- Size of the data of the first part. -/
theorem length_commonPart (rate : BeaconRate) (seconds : ℕ) : (commonPart rate seconds).length=rate.rfu1+4 := by
  rw [commonPart,List.length_append,List.length_replicate,leBytes_length]

/-- Size of the data of the second part. -/
theorem length_specificPart (settings : BeaconSettings) (rate : BeaconRate) :
    (specificPart settings rate).length=7+rate.rfu2 := by
  rw [specificPart,List.length_append,List.length_cons,List.length_append,fieldBytes,fieldBytes,leBytes_length,
    leBytes_length,List.length_replicate]

/-- Size of data with their code. -/
theorem length_protect (data : Bytes) : (protect data).length=data.length+2 := by
  rw [protect,List.length_append,leBytes_length]

/-- A frame checks exactly when it is two parts with their codes. -/
theorem checks_iff (rate : BeaconRate) (frame : Bytes) :
    Checks rate frame ↔ ∃ common specific : Bytes,common.length=rate.rfu1+4 ∧ specific.length=7+rate.rfu2 ∧
      frame=protect common++protect specific := by
  constructor
  · intro h
    refine ⟨(frame.take (rate.rfu1+4+2)).take (rate.rfu1+4),(frame.drop (rate.rfu1+4+2)).take (7+rate.rfu2),?_,?_,?_⟩
    · have hl := h.length
      rw [List.length_take,List.length_take]
      omega
    · have hl := h.length
      rw [List.length_take,List.length_drop]
      omega
    · rw [←eq_protect h.common,←eq_protect h.specific,List.take_append_drop]
  · rintro ⟨common,specific,hc,hs,rfl⟩
    have hcode : ∀ {data : Bytes} {size : ℕ},data.length=size → partChecks size (protect data) := by
      intro data size hd
      subst hd
      rw [partChecks,protect,List.drop_left,List.take_left]
    have hl : (protect common).length=rate.rfu1+4+2 := by rw [length_protect,hc]
    refine ⟨?_,?_,?_⟩
    · rw [List.length_append,hl,length_protect,hs]
      omega
    · rw [←hl,List.take_left]
      exact hcode hc
    · rw [←hl,List.drop_left]
      exact hcode hs

/-- The frames of the runner check. -/
theorem checks_beaconFrame (settings : BeaconSettings) (rate : BeaconRate) (seconds : ℕ) :
    Checks rate (beaconFrame settings rate seconds) :=
  (checks_iff _ _).mpr ⟨commonPart rate seconds,specificPart settings rate,length_commonPart _ _,
    length_specificPart _ _,rfl⟩

/-- Frames that check are four bits apart. -/
theorem four_le_distance {rate : BeaconRate} (h1 : rate.rfu1 ≤ 5) (h2 : rate.rfu2 ≤ 3) {sent received : Bytes}
    (hs : Checks rate sent) (hr : Checks rate received) (hne : sent≠received) : 4 ≤ distance sent received := by
  obtain ⟨common,specific,hc,hsp,rfl⟩ := (checks_iff _ _).mp hs
  obtain ⟨common',specific',hc',hsp',rfl⟩ := (checks_iff _ _).mp hr
  have hl : (protect common).length=(protect common').length := by rw [length_protect,length_protect,hc,hc']
  rw [distance_append hl]
  by_cases hcommon : common=common'
  · have hspecific : specific≠specific' := fun hs => hne (by rw [hcommon,hs])
    have hfar := distance_protect (hsp.trans hsp'.symm) (by omega) hspecific
    omega
  · have hfar := distance_protect (hc.trans hc'.symm) (by omega) hcommon
    omega

/-- A burst changes the code. -/
theorem crc16_burst {data changed : Bytes} (same : changed.length=data.length)
    (burst : Burst 15 (difference (bitsOf data) (bitsOf changed))) : crc16 changed≠crc16 data := by
  intro h
  have hlength : (bitsOf data).length=(bitsOf changed).length := by rw [length_bitsOf,length_bitsOf,same]
  rw [←UInt16.toBitVec_inj,crc16_toBitVec,crc16_toBitVec] at h
  exact burst.remainder_ne polynomial_odd ((remainder_eq_iff polynomial 0 hlength).mp h.symm)

/-- Data that are not those of the code fail. -/
theorem not_partChecks {data changed behind : Bytes} (same : changed.length=data.length)
    (hwas : partChecks data.length (data++behind)) (hne : crc16 changed≠crc16 data) :
    ¬ partChecks data.length (changed++behind) := by
  intro his
  rw [partChecks,List.drop_left,List.take_left] at hwas
  rw [partChecks,←same,List.drop_left,List.take_left,hwas] at his
  have hcode := congrArg leValue his
  rw [leValue_leBytes_of_lt (crc16 data).toNat_lt,leValue_leBytes_of_lt (crc16 changed).toNat_lt] at hcode
  exact hne (UInt16.toNat_inj.mp hcode.symm)

/-- Every frame that the runner builds passes its codes, and no damaged one does. -/
theorem beacon_damage_detected {dataRate : UInt8} {rate : BeaconRate} (h : beaconRate dataRate=some rate)
    (settings : BeaconSettings) (seconds : ℕ) :
    Checks rate (beaconFrame settings rate seconds) ∧
      ∀ received,Damaged rate (beaconFrame settings rate seconds) received → ¬ Checks rate received := by
  have hsent := checks_beaconFrame settings rate seconds
  refine ⟨hsent,fun received hd hr => ?_⟩
  generalize beaconFrame settings rate seconds=sent at hsent hd
  cases hd with
  | few same some_bit few_bits =>
    obtain ⟨h1,h2⟩ := beaconRate_sizes h
    have hne : sent≠received := by
      rintro rfl
      have hself : ∀ bits : List Bool,(difference bits bits).count true=0 := by
        intro bits
        rw [difference,List.zipWith_self,List.count_eq_zero]
        simp
      rw [distance,hself] at some_bit
      exact Nat.lt_irrefl 0 some_bit
    have hfar := four_le_distance h1 h2 hsent hr hne
    omega
  | common data changed behind size same was is burst =>
    subst was is
    have hne := crc16_burst same burst
    have hfirst := hsent.common
    have hthen := hr.common
    rw [←size,List.take_length_add_append] at hfirst
    rw [←size,←same,List.take_length_add_append,same] at hthen
    exact not_partChecks same hfirst hne hthen
  | specific front data changed behind position size same was is burst =>
    subst was is
    have hne := crc16_burst same burst
    have hfirst := hsent.specific
    have hthen := hr.specific
    rw [←position,List.drop_left,←size] at hfirst
    rw [←position,List.drop_left,←size] at hthen
    exact not_partChecks same hfirst hne hthen

/-- The rate 9, whose frames have seventeen bytes. -/
theorem beacon_damage_detected_nine :
    Checks ⟨9,2,0⟩ (beaconFrame ⟨128,869525000,0,0,9,125000,14,0,0,0⟩ ⟨9,2,0⟩ 1280) ∧
      ∀ received,Damaged ⟨9,2,0⟩ (beaconFrame ⟨128,869525000,0,0,9,125000,14,0,0,0⟩ ⟨9,2,0⟩ 1280) received →
        ¬ Checks ⟨9,2,0⟩ received :=
  @beacon_damage_detected 9 _ rfl _ _

end LorawanServer.Beacon
