import LorawanServer.ConcentratorChannels
import LorawanServer.GatewaySections

/-!
# Rewriting the configuration file of a gateway

A configuration that is read, written and read again is the same exactly if its
document has a concentrator that keeps its channels, and no number below zero where
the gateway keeps one without a sign.
-/

namespace LorawanServer.GatewayRewriting

open CppRuntime Records JsonDocument Datagram IdentityText BaseNumbers GatewayFile ServerConfiguration
open GatewayConcentrator ConcentratorRewriting ConcentratorChannels GatewaySections

section Identifiers

/-- Zeros in front do not change a number. -/
theorem hexNumber_replicate_append (count : ℕ) (digits : List ℕ) :
    hexNumber (List.replicate count 0++digits)=hexNumber digits := by
  induction count with
  | zero => rfl
  | succ count ih => exact ih

/-- A padded number is printed digits of that number. -/
theorem hexPadded_eq (width value : ℕ) : ∃ digits : List ℕ,hexPadded width value=digits.map hexChar ∧
    (∀ digit∈digits,digit<16) ∧ digits≠[] ∧ hexNumber digits=value := by
  obtain ⟨digits,htext,hdigits,hne,hnumber⟩ : ∃ digits : List ℕ,hexText value=digits.map hexChar ∧
      (∀ digit∈digits,digit<16) ∧ digits≠[] ∧ hexNumber digits=value := by
    rw [hexText]
    split_ifs with hzero
    · exact ⟨[0],rfl,by decide,by decide,hzero.symm⟩
    · refine ⟨(Nat.digits 16 value).reverse,rfl,?_,?_,?_⟩
      · exact fun digit hd => Nat.digits_lt_base (by omega) (List.mem_reverse.mp hd)
      · exact List.reverse_eq_nil_iff.not.mpr (Nat.digits_ne_nil_iff_ne_zero.mpr hzero)
      · rw [hexNumber_reverse,Nat.ofDigits_digits]
  refine ⟨List.replicate (width-(hexText value).length) 0++digits,?_,?_,?_,?_⟩
  · rw [hexPadded,List.map_append,List.map_replicate,← htext]
    rfl
  · intro digit hd
    rcases List.mem_append.mp hd with hpad|hd
    · rw [List.eq_of_mem_replicate hpad]
      decide
    · exact hdigits digit hd
  · exact List.append_ne_nil_of_right_ne_nil _ hne
  · rw [hexNumber_replicate_append,hnumber]

/-- A number of 64 bits has no overflow. -/
theorem unsignedLong_toNat {digits : List ℕ} (hne : digits≠[]) (value : UInt64) :
    unsignedLong false digits value.toNat=.ok value := by
  have hlt := value.toNat_lt
  rw [unsignedLong,if_neg hne,if_neg (by omega),if_neg Bool.false_ne_true,UInt64.ofNat_toNat]

/-- An identifier that is written is read. -/
theorem stoull16_hexPadded (width : ℕ) (id : UInt64) : stoull16 (hexPadded width id.toNat)=.ok id := by
  obtain ⟨digits,htext,hdigits,hne,hnumber⟩ := hexPadded_eq width id.toNat
  rw [htext,stoull16,takeSign_hexChar hdigits]
  dsimp only
  rw [skipMarker_hexChar hdigits,hexDigits_hexChar hdigits,hnumber,unsignedLong_toNat hne]

/-- A digit of base sixteen is one that is printed. -/
theorem digit?_hexChar {digit : ℕ} (h : digit<16) : digit? 16 (hexChar digit)=some digit := by
  rw [digit?,hexDigit_hexChar h,Option.filter_some,if_pos (decide_eq_true h)]

/-- A marker in front of printed digits asks for base sixteen. -/
theorem readNumeral_marker {digits : List ℕ} (h : ∀ digit∈digits,digit<16) (hne : digits≠[]) :
    readNumeral (ascii "0x"++digits.map hexChar)=⟨false,16,digits,[]⟩ := by
  have hall : ∀ byte∈digits.map hexChar,(digit? 16 byte).isSome=true := by
    intro byte hb
    obtain ⟨digit,hd,rfl⟩ := List.mem_map.mp hb
    rw [digit?_hexChar (h digit hd)]
    rfl
  have hread : (digits.map hexChar).filterMap (digit? 16)=digits := by
    rw [List.filterMap_map]
    calc digits.filterMap (digit? 16∘hexChar)=digits.filterMap some :=
          List.filterMap_congr fun digit hd => digit?_hexChar (h digit hd)
      _=digits := List.filterMap_some
  have hbase : takeBase (48::120::digits.map hexChar)=(16,digits.map hexChar) := by
    obtain ⟨first,rest,rfl⟩ := List.exists_cons_of_ne_nil hne
    refine if_pos ⟨.inl rfl,?_⟩
    rw [hexDigit_hexChar (h first List.mem_cons_self)]
    rfl
  have htext : ascii "0x"++digits.map hexChar=48::120::digits.map hexChar := rfl
  have hsign : takeSign ((48::120::digits.map hexChar).dropWhile isCSpace)=(false,48::120::digits.map hexChar) := rfl
  rw [htext,readNumeral,hsign]
  dsimp only
  rw [hbase]
  dsimp only
  rw [List.takeWhile_eq_self_iff.mpr hall,List.dropWhile_eq_nil_iff.mpr hall,hread]

/-- The identifier of a reference payload that is written is read. -/
theorem stoull0_hexPadded (width : ℕ) (id : UInt32) :
    stoull0 (ascii "0x"++hexPadded width id.toNat)=.ok (UInt64.ofNat id.toNat) := by
  have hlt := id.toNat_lt
  obtain ⟨digits,htext,hdigits,hne,hnumber⟩ := hexPadded_eq width id.toNat
  have hvalue : (UInt64.ofNat id.toNat).toNat=id.toNat := by
    rw [UInt64.toNat_ofNat']
    omega
  rw [htext,stoull0,readNumeral_marker hdigits hne]
  change unsignedLong false digits (hexNumber digits)=_
  rw [hnumber,← hvalue,unsignedLong_toNat hne,hvalue]

/-- Printed digits have no zero byte. -/
theorem zero_notMem_hexPadded (width value : ℕ) : 0∉hexPadded width value := by
  obtain ⟨digits,htext,hdigits,-⟩ := hexPadded_eq width value
  rw [htext]
  intro hzero
  obtain ⟨digit,hd,heq⟩ := List.mem_map.mp hzero
  have hlt := hdigits digit hd
  interval_cases digit <;> exact absurd heq (by decide)

end Identifiers

section Gateway

/-- What a test for `int` leaves of a number without a sign. -/
def ifSigned (before n : UInt32) : UInt32 := if n.toNat<2^31 then n else before

/-- A number without a sign is read under a test for `int`. -/
theorem readMember_unsigned {members : Members} {name : String} {n : UInt32}
    (h : members.lookup (ascii name)=some (.int n.toNat)) (before : UInt32) :
    readMember members name uint32? before=ifSigned before n := by
  rw [readMember,getMember,h,Option.bind_some,uint32?,Json.int?,ifSigned]
  split_ifs with hrange hlt hlt
  · have hvalue : UInt32.ofInt (n.toNat : ℤ)=n := by
      have hn := n.toNat_lt
      have hm : ((n.toNat : ℤ)%2^32).toNat=n.toNat := by omega
      rw [UInt32.ofInt,hm,UInt32.ofNat_toNat]
    rw [Option.map_some,Option.getD_some,hvalue]
  · omega
  · omega
  · rfl

/-- The test leaves a number exactly if it fits. -/
theorem ifSigned_eq_iff {before : UInt32} (h : before.toNat<2^31) (n : UInt32) :
    ifSigned before n=n ↔ n.toNat<2^31 := by
  rw [ifSigned]
  split_ifs with hlt
  · exact iff_of_true rfl hlt
  · exact iff_of_false (fun heq => hlt (heq ▸ h)) hlt

/-- A number that is read fits exactly if it is not below zero in the document. -/
theorem readMember_lt_iff {before : UInt32} (h : before.toNat<2^31) (members : Members) (name : String) :
    (readMember members name uint32? before).toNat<2^31 ↔
      ∀ n,getMember members name Json.int?=some n → 0≤n := by
  have hread : readMember members name uint32? before=
      ((getMember members name Json.int?).map UInt32.ofInt).getD before := by
    rw [readMember,getMember,getMember]
    cases members.lookup (ascii name) <;> rfl
  rw [hread]
  cases hn : getMember members name Json.int? with
  | none => exact iff_of_true h fun n hsome => by cases hsome
  | some n =>
    obtain ⟨value,-,hvalue⟩ := Option.bind_eq_some_iff.mp hn
    have hrange : -2^31≤n ∧ n<2^31 := by
      cases value with
      | int value =>
        rw [Json.int?] at hvalue
        split_ifs at hvalue with hrange
        exact Option.some.inj hvalue ▸ hrange
      | _ => cases hvalue
    have hnumber : (UInt32.ofInt n).toNat=(n%2^32).toNat := by
      rw [UInt32.ofInt,UInt32.toNat_ofNat']
      omega
    rw [Option.map_some,Option.getD_some,hnumber]
    constructor
    · intro hlt other hother
      obtain rfl := Option.some.inj hother
      omega
    · intro hall
      have hpos := hall n rfl
      omega

/-- What the timeout is read back as. -/
def rereadUsec (usec : ℤ) : ℤ := if 0≤ usec then 500*(usec/500) else 0

/-- A timeout that is written is read. -/
theorem parsePushTimeout_members {c : GatewayGatewayConfig} (hlow : -2^31≤c.pushTimeoutMs.tvUsec)
    (hhigh : c.pushTimeoutMs.tvUsec<2^31) :
    parsePushTimeout c.members ⟨0,0⟩=⟨0,rereadUsec c.pushTimeoutMs.tvUsec⟩ := by
  set usec := c.pushTimeoutMs.tvUsec with husec
  have hwritten : (UInt32.ofInt (usec.tdiv 500)).toNat=(usec.tdiv 500%2^32).toNat := by
    rw [UInt32.ofInt,UInt32.toNat_ofNat']
    omega
  rw [parsePushTimeout,getMember_eq (show c.members.lookup (ascii "push_timeout_ms")=
    some (.int (UInt32.ofInt (usec.tdiv 500)).toNat) from rfl),int32?,Json.int?,hwritten,rereadUsec]
  by_cases hsign : 0≤ usec
  · have hdiv : usec.tdiv 500=usec/500 := Int.tdiv_eq_ediv_of_nonneg hsign
    have hmod : ((usec.tdiv 500%2^32).toNat : ℤ)=usec/500 := by omega
    have hfactor : (Int32.ofInt (usec/500)).toInt=usec/500 := Int32.toInt_ofInt_of_le (by omega) (by omega)
    have hproduct : (Int32.ofInt (usec/500)*500).toInt=500*(usec/500) := by
      rw [Int32.toInt_mul,hfactor,show (500 : Int32).toInt=500 from rfl,Int.bmod_def]
      split <;> omega
    rw [hmod,if_pos ⟨by omega,by omega⟩,if_pos hsign,Option.map_some]
    dsimp only
    rw [hproduct]
  · have hdiv : usec.tdiv 500= -(-usec/500) := by
      rw [← Int.tdiv_eq_ediv_of_nonneg (by omega),Int.neg_tdiv,neg_neg]
    by_cases hsmall : -usec<500
    · have hmod : ((usec.tdiv 500%2^32).toNat : ℤ)=0 := by omega
      rw [hmod,if_neg hsign]
      rfl
    · rw [if_neg (by omega),if_neg hsign]
      rfl

/-- A timeout is read back as it was exactly if it is a multiple of half a millisecond
and not below zero. -/
theorem rereadUsec_eq_iff (usec : ℤ) : rereadUsec usec=usec ↔ 0≤ usec ∧ usec%500=0 := by
  rw [rereadUsec]
  split_ifs with h
  · omega
  · omega

/-- What a parse leaves of a gateway. -/
structure GatewayShape (c : GatewayGatewayConfig) : Prop where
  /-- The address is a C string. -/
  serverAddr : 0∉c.serverAddr
  /-- So is the path. -/
  gpsTtyPath : 0∉c.gpsTtyPath
  /-- The timeout has no seconds. -/
  tvSec : c.pushTimeoutMs.tvSec=0
  /-- Its microseconds are an `int`. -/
  tvUsec : -2^31≤c.pushTimeoutMs.tvUsec ∧ c.pushTimeoutMs.tvUsec<2^31

/-- A gateway as it is read back. -/
def rereadGateway (c : GatewayGatewayConfig) : GatewayGatewayConfig :=
  {c with
    keepaliveInterval := ifSigned DEFAULT_KEEPALIVE c.keepaliveInterval
    statInterval := ifSigned DEFAULT_KEEPALIVE c.statInterval
    pushTimeoutMs := ⟨0,rereadUsec c.pushTimeoutMs.tvUsec⟩
    gpsEnabled := decide (c.gpsTtyPath≠[])
    beaconPeriod := ifSigned 0 c.beaconPeriod
    beaconFreqHz := ifSigned DEFAULT_BEACON_FREQ_HZ c.beaconFreqHz
    beaconFreqStep := ifSigned 0 c.beaconFreqStep
    beaconBandwidthHz := ifSigned DEFAULT_BEACON_BW_HZ c.beaconBandwidthHz
    autoQuitThreshold := ifSigned 0 c.autoQuitThreshold}

/-- The position is read back. -/
theorem parseCoord_members (c : GatewayGatewayConfig) (before : Coord) :
    parseCoord c.members before=c.refGeoCoordinates := by
  have hread (q : ℚ) : Json.double? (.double q)=some q := rfl
  rw [parseCoord,
    readMember_eq (show c.members.lookup (ascii "ref_latitude")=some (.double c.refGeoCoordinates.lat) from rfl)
      (hread _),
    readMember_eq (show c.members.lookup (ascii "ref_longitude")=some (.double c.refGeoCoordinates.lon) from rfl)
      (hread _),
    readMember_eq (show c.members.lookup (ascii "ref_altitude")=some (.int c.refGeoCoordinates.alt.toInt) from rfl)
      (signed16?_toInt _)]

/-- What follows the identifier is read back. -/
theorem parseGateway_members {c : GatewayGatewayConfig} (h : GatewayShape c) :
    parseGateway GatewayGatewayConfig.fresh.reset c.gatewayId c.members=rereadGateway c := by
  have htimeout : parsePushTimeout c.members GatewayGatewayConfig.fresh.reset.pushTimeoutMs=
      ⟨0,rereadUsec c.pushTimeoutMs.tvUsec⟩ := parsePushTimeout_members h.tvUsec.1 h.tvUsec.2
  have hgps : Json.string? (.string c.gpsTtyPath)=some c.gpsTtyPath := congrArg some (cString_eq_self h.gpsTtyPath)
  rw [parseGateway,htimeout,parseCoord_members,
    readMember_string (show c.members.lookup (ascii "server_address")=some (.string c.serverAddr) from rfl),
    readMember_string (show c.members.lookup (ascii "gps_tty_path")=some (.string c.gpsTtyPath) from rfl),
    readMember_map (show c.members.lookup (ascii "gps_tty_path")=some (.string c.gpsTtyPath) from rfl) hgps,
    readMember_eq (show c.members.lookup (ascii "serv_port_up")=some (.int c.serverPortUp.toNat) from rfl)
      (unsigned16?_toNat _),
    readMember_eq (show c.members.lookup (ascii "serv_port_down")=some (.int c.serverPortDown.toNat) from rfl)
      (unsigned16?_toNat _),
    readMember_unsigned (show c.members.lookup (ascii "keepalive_interval")=
      some (.int c.keepaliveInterval.toNat) from rfl),
    readMember_unsigned (show c.members.lookup (ascii "stat_interval")=some (.int c.statInterval.toNat) from rfl),
    readMember_bool (show c.members.lookup (ascii "forward_crc_valid")=some (.bool c.forwardCRCValid) from rfl),
    readMember_bool (show c.members.lookup (ascii "forward_crc_error")=some (.bool c.forwardCRCError) from rfl),
    readMember_bool (show c.members.lookup (ascii "forward_crc_disabled")=some (.bool c.forwardCRCDisabled) from rfl),
    readMember_bool (show c.members.lookup (ascii "fake_gps")=some (.bool c.fakeGPS) from rfl),
    readMember_unsigned (show c.members.lookup (ascii "beacon_period")=some (.int c.beaconPeriod.toNat) from rfl),
    readMember_unsigned (show c.members.lookup (ascii "beacon_freq_hz")=some (.int c.beaconFreqHz.toNat) from rfl),
    readMember_eq (show c.members.lookup (ascii "beacon_freq_nb")=some (.int c.beaconFreqNb.toNat) from rfl)
      (uint8?_toNat _),
    readMember_unsigned (show c.members.lookup (ascii "beacon_freq_step")=some (.int c.beaconFreqStep.toNat) from rfl),
    readMember_eq (show c.members.lookup (ascii "beacon_datarate")=some (.int c.beaconDataRate.toNat) from rfl)
      (uint8?_toNat _),
    readMember_unsigned (show c.members.lookup (ascii "beacon_bw_hz")=some (.int c.beaconBandwidthHz.toNat) from rfl),
    readMember_eq (show c.members.lookup (ascii "beacon_power")=some (.int c.beaconPower.toNat) from rfl)
      (uint8?_toNat _),
    readMember_eq (show c.members.lookup (ascii "beacon_infodesc")=some (.int c.beaconInfoDesc.toNat) from rfl)
      (uint8?_toNat _),
    readMember_unsigned (show c.members.lookup (ascii "autoquit_threshold")=
      some (.int c.autoQuitThreshold.toNat) from rfl),
    cString_eq_self h.serverAddr,cString_eq_self h.gpsTtyPath]
  rfl

/-- A gateway that is written is read. -/
theorem parse_gateway_members {c : GatewayGatewayConfig} (h : GatewayShape c) :
    GatewayGatewayConfig.fresh.parse (.object c.members)=.ok (rereadGateway c,0) := by
  have hid : parseGatewayId c.members GatewayGatewayConfig.fresh.reset.gatewayId=.ok c.gatewayId := by
    rw [parseGatewayId,getMember_eq (show c.members.lookup (ascii "gateway_ID")=
      some (.string (hexPadded 16 c.gatewayId.toNat)) from rfl)]
    change stoull16 (cString (hexPadded 16 c.gatewayId.toNat))=_
    rw [cString_eq_self (zero_notMem_hexPadded 16 _),stoull16_hexPadded]
  rw [GatewayGatewayConfig.parse,hid]
  change Except.ok (parseGateway GatewayGatewayConfig.fresh.reset c.gatewayId c.members,LORA_OK)=_
  rw [parseGateway_members h]

/-- The numbers without a sign that a gateway reads under a test for `int`. -/
def signedNames : List String :=
  ["keepalive_interval","stat_interval","beacon_period","beacon_freq_hz","beacon_freq_step","beacon_bw_hz",
    "autoquit_threshold"]

/-- None of the numbers that are kept without a sign is below zero in the document, and
the timeout in half milliseconds is a multiple of one as an `int` and not below zero. -/
structure GatewayKept (members : Members) : Prop where
  /-- The numbers are not below zero. -/
  numbers : ∀ name∈signedNames,∀ n,getMember members name Json.int?=some n → 0≤n
  /-- The timeout is not below zero, also when its product wraps around. -/
  timeout : ∀ ms,getMember members "push_timeout_ms" int32?=some ms → 0≤(ms*500).toInt ∧ (ms*500).toInt%500=0

/-- A gateway is read back as it was exactly if its numbers and its timeout are. -/
theorem equal_rereadGateway_iff {c : GatewayGatewayConfig} (h : GatewayShape c) :
    (rereadGateway c).equal c=true ↔
      (∀ n∈[c.keepaliveInterval,c.statInterval,c.beaconPeriod,c.beaconFreqHz,c.beaconFreqStep,c.beaconBandwidthHz,
        c.autoQuitThreshold],n.toNat<2^31) ∧ 0≤c.pushTimeoutMs.tvUsec ∧ c.pushTimeoutMs.tvUsec%500=0 := by
  have hcoord : c.refGeoCoordinates.equal c.refGeoCoordinates=true := by
    simp only [Coord.equal,sub_self,abs_zero,Bool.and_eq_true,decide_eq_true_eq]
    exact ⟨⟨by norm_num,by norm_num⟩,trivial⟩
  have htimeout : (⟨0,rereadUsec c.pushTimeoutMs.tvUsec⟩ : Timeval)=c.pushTimeoutMs ↔
      0≤c.pushTimeoutMs.tvUsec ∧ c.pushTimeoutMs.tvUsec%500=0 := by
    rw [← rereadUsec_eq_iff]
    constructor
    · exact fun heq => congrArg Timeval.tvUsec heq
    · intro heq
      rw [heq,← h.tvSec]
  simp only [GatewayGatewayConfig.equal,Bool.and_eq_true,decide_eq_true_eq]
  simp only [rereadGateway,hcoord,htimeout,true_and,and_true,List.forall_mem_cons,List.not_mem_nil,false_imp_iff,
    implies_true,ifSigned_eq_iff (show DEFAULT_KEEPALIVE.toNat<2^31 by decide),
    ifSigned_eq_iff (show (0 : UInt32).toNat<2^31 by decide),
    ifSigned_eq_iff (show DEFAULT_BEACON_FREQ_HZ.toNat<2^31 by decide),
    ifSigned_eq_iff (show DEFAULT_BEACON_BW_HZ.toNat<2^31 by decide)]
  tauto

/-- A text that is read has no zero byte. -/
theorem zero_notMem_readMember {before : Bytes} (h : 0∉before) (members : Members) (name : String) :
    0∉readMember members name Json.string? before := by
  refine readMember_induction (p := fun text : Bytes => 0∉text) h fun value text htext => ?_
  cases value with
  | string whole =>
    rw [← Option.some.inj htext]
    exact zero_notMem_cString whole
  | _ => cases htext

/-- What a parse leaves of a gateway has that shape. -/
theorem gatewayShape_parseGateway (gatewayId : UInt64) (members : Members) :
    GatewayShape (parseGateway GatewayGatewayConfig.fresh.reset gatewayId members) := by
  have htimeout : (parsePushTimeout members ⟨0,0⟩).tvSec=0 ∧
      -2^31≤(parsePushTimeout members ⟨0,0⟩).tvUsec ∧ (parsePushTimeout members ⟨0,0⟩).tvUsec<2^31 := by
    rw [parsePushTimeout]
    cases getMember members "push_timeout_ms" int32? with
    | none => exact ⟨rfl,by decide,by decide⟩
    | some ms => exact ⟨rfl,(ms*500).le_toInt,(ms*500).toInt_lt⟩
  exact ⟨zero_notMem_readMember List.not_mem_nil members _,zero_notMem_readMember List.not_mem_nil members _,
    htimeout.1,htimeout.2⟩

/-- The numbers that were read fit exactly if the document keeps them. -/
theorem numbers_parseGateway_iff (gatewayId : UInt64) (members : Members) {c : GatewayGatewayConfig}
    (h : c=parseGateway GatewayGatewayConfig.fresh.reset gatewayId members) :
    (∀ n∈[c.keepaliveInterval,c.statInterval,c.beaconPeriod,c.beaconFreqHz,c.beaconFreqStep,c.beaconBandwidthHz,
        c.autoQuitThreshold],n.toNat<2^31) ↔
      ∀ name∈signedNames,∀ n,getMember members name Json.int?=some n → 0≤n := by
  have hkeepalive := readMember_lt_iff (show DEFAULT_KEEPALIVE.toNat<2^31 by decide) members
  have hzero := readMember_lt_iff (show (0 : UInt32).toNat<2^31 by decide) members
  have hfrequency := readMember_lt_iff (show DEFAULT_BEACON_FREQ_HZ.toNat<2^31 by decide) members
  have hbandwidth := readMember_lt_iff (show DEFAULT_BEACON_BW_HZ.toNat<2^31 by decide) members
  rw [h]
  simp only [signedNames,List.forall_mem_cons,List.not_mem_nil,false_imp_iff,implies_true,and_true]
  exact and_congr (hkeepalive _) (and_congr (hkeepalive _) (and_congr (hzero _) (and_congr (hfrequency _)
    (and_congr (hzero _) (and_congr (hbandwidth _) (hzero _))))))

/-- The timeout that was read is kept exactly if the document keeps it. -/
theorem timeout_parseGateway_iff (members : Members) :
    0≤(parsePushTimeout members ⟨0,0⟩).tvUsec ∧ (parsePushTimeout members ⟨0,0⟩).tvUsec%500=0 ↔
      ∀ ms,getMember members "push_timeout_ms" int32?=some ms → 0≤(ms*500).toInt ∧ (ms*500).toInt%500=0 := by
  rw [parsePushTimeout]
  cases getMember members "push_timeout_ms" int32? with
  | none => exact iff_of_true (by decide) fun ms hsome => by cases hsome
  | some ms =>
    constructor
    · intro hkept other hother
      obtain rfl := Option.some.inj hother
      exact hkept
    · exact fun hall => hall ms rfl

/-- What a parse leaves of a gateway is read back as it was exactly if the document keeps it. -/
theorem parse_gateway_ok {members : Members} {c : GatewayGatewayConfig} {r : ℤ}
    (h : GatewayGatewayConfig.fresh.parse (.object members)=.ok (c,r)) :
    GatewayShape c ∧ ((rereadGateway c).equal c=true ↔ GatewayKept members) := by
  rw [GatewayGatewayConfig.parse] at h
  obtain ⟨gatewayId,-,hresult⟩ := bind_eq_ok.mp h
  obtain ⟨rfl,-⟩ := Prod.mk.inj (Except.ok.inj hresult)
  have hshape := gatewayShape_parseGateway gatewayId members
  refine ⟨hshape,?_⟩
  rw [equal_rereadGateway_iff hshape,numbers_parseGateway_iff gatewayId members rfl]
  have htimeout := timeout_parseGateway_iff members
  exact ⟨fun hboth => ⟨hboth.1,htimeout.mp hboth.2⟩,fun hkept => ⟨hkept.numbers,htimeout.mpr hkept.timeout⟩⟩

/-- A gateway that is not read is read back as it was. -/
theorem gateway_fresh : GatewayShape .fresh ∧ (rereadGateway .fresh).equal .fresh=true := by
  have hshape : GatewayShape .fresh := ⟨by decide,by decide,rfl,by decide,by decide⟩
  have hzero : (0 : UInt32).toNat<2^31 := by decide
  refine ⟨hshape,(equal_rereadGateway_iff hshape).mpr ⟨?_,by decide,by decide⟩⟩
  simp only [List.forall_mem_cons,List.not_mem_nil,false_imp_iff,implies_true,and_true]
  exact ⟨hzero,(by decide : DEFAULT_KEEPALIVE.toNat<2^31),hzero,(by decide : DEFAULT_BEACON_FREQ_HZ.toNat<2^31),hzero,
    (by decide : DEFAULT_BEACON_BW_HZ.toNat<2^31),hzero⟩

end Gateway

section Debug

/-- What a parse leaves of the reference payloads and the log. -/
structure DebugShape (c : GatewayDebugConfig) : Prop where
  /-- The reference payloads are a front. -/
  refPayload : Assigned 0 REF_PAYLOAD_SIZE.toNat c.nbRefPayload.toNat c.refPayload
  /-- The name fits its array. -/
  logFileName : 0∉c.logFileName ∧ c.logFileName.length<128

/-- The item of a reference payload. -/
def refPayloadJson (id : UInt32) : Json := .object [(ascii "id",.string (ascii "0x"++hexPadded 8 id.toNat))]

/-- A reference payload that is written is read. -/
theorem refPayloadId_json (id : UInt32) : refPayloadId (refPayloadJson id)=.ok (some id) := by
  have hlt := id.toNat_lt
  have hzero : 0∉ascii "0x"++hexPadded 8 id.toNat := by
    intro h
    rcases List.mem_append.mp h with h|h
    · exact absurd h (by decide)
    · exact zero_notMem_hexPadded 8 _ h
  have hid : UInt32.ofNat (UInt64.ofNat id.toNat).toNat=id := by
    rw [UInt64.toNat_ofNat',Nat.mod_eq_of_lt (by omega),UInt32.ofNat_toNat]
  have hmember : getMember ((object? (refPayloadJson id)).getD []) "id" Json.string?=
      some (ascii "0x"++hexPadded 8 id.toNat) := congrArg some (cString_eq_self hzero)
  rw [refPayloadId,hmember]
  dsimp only
  rw [stoull0_hexPadded,Except.map,hid]

/-- The log and the reference payloads that are written are read. -/
theorem parse_debug_members {c : GatewayDebugConfig} (h : DebugShape c) :
    GatewayDebugConfig.parse (.object c.members)=.ok (c,0) := by
  set entries := c.refPayload.take c.nbRefPayload.toNat with hentries
  have hlength : (entries.map refPayloadJson).length=c.nbRefPayload.toNat := by
    rw [List.length_map,h.refPayload.length_take]
  have hids : (entries.map refPayloadJson).mapM refPayloadId=.ok (entries.map some) := by
    rw [mapM_eq_ok,List.forall₂_map_left_iff,List.forall₂_map_right_iff,List.forall₂_same]
    exact fun id _ => refPayloadId_json id
  have hassign : assignItems (fun before id => id.getD before) (List.replicate REF_PAYLOAD_SIZE.toNat 0)
      (entries.map some)=c.refPayload := by
    rw [hentries,h.refPayload.assignItems_map some]
    conv_rhs => rw [h.refPayload.eq_append]
    exact congrArg (·++_) (List.map_id _)
  rw [GatewayDebugConfig.parse,
    readMember_eq (show c.members.lookup (ascii "log_file")=some (.string (cString c.logFileName)) from rfl)
      (path?_string h.logFileName.1 h.logFileName.2),
    getMember_eq (show c.members.lookup (ascii "ref_payload")=some (.array (entries.map refPayloadJson)) from rfl)]
  dsimp only [array?]
  rw [parseRefPayload,hlength,refPayloadCount,clampedCount_toNat h.refPayload.count_le,
    List.take_of_length_le hlength.le,hids]
  change Except.ok (GatewayDebugConfig.mk c.nbRefPayload (assignItems _ (List.replicate REF_PAYLOAD_SIZE.toNat 0) _)
    c.logFileName,LORA_OK)=_
  rw [hassign]

/-- What a parse leaves has that shape. -/
theorem parse_debug_ok {value : Json} {c : GatewayDebugConfig} {r : ℤ}
    (h : GatewayDebugConfig.parse value=.ok (c,r)) : DebugShape c := by
  cases value with
  | object members =>
    have hlog : 0∉readMember members "log_file" (path? 128) [] ∧
        (readMember members "log_file" (path? 128) []).length<128 :=
      readMember_induction (p := fun text : Bytes => 0∉text ∧ text.length<128) ⟨by decide,by decide⟩
        fun value text => path?_eq_some
    rw [GatewayDebugConfig.parse] at h
    cases hitems : getMember members "ref_payload" array? with
    | none =>
      rw [hitems] at h
      obtain ⟨rfl,-⟩ := Prod.mk.inj (Except.ok.inj h)
      exact ⟨assigned_replicate _ _,hlog⟩
    | some items =>
      rw [hitems] at h
      dsimp only at h
      rw [parseRefPayload] at h
      cases hids : (items.take (refPayloadCount items.length).toNat).mapM refPayloadId with
      | error failure =>
        rw [hids] at h
        cases h
      | ok ids =>
        rw [hids] at h
        obtain ⟨rfl,-⟩ := Prod.mk.inj (Except.ok.inj h)
        obtain ⟨hbound,hle⟩ : (refPayloadCount items.length).toNat≤REF_PAYLOAD_SIZE.toNat ∧
          (refPayloadCount items.length).toNat ≤ items.length := clampedCount _ _
        have hlength : ids.length=(refPayloadCount items.length).toNat := by
          rw [← (mapM_eq_ok.mp hids).length_eq,List.length_take]
          exact Nat.min_eq_left hle
        have hassigned := (assigned_assignItems (fun (before : UInt32) (id : Option UInt32) => id.getD before) 0
          (hlength.trans_le hbound)).1
        rw [hlength] at hassigned
        exact ⟨hassigned,hlog⟩
  | _ => cases h

/-- A cleared log has that shape. -/
theorem debugShape_reset : DebugShape .reset := ⟨assigned_replicate _ _,by decide,by decide⟩

end Debug

section File

variable (undefinedBits : Json → UInt8)

/-- The configuration survives rewriting: its document is read, and gives one that
compares equal. -/
def Survives (c : GatewayConfigFileJson) : Prop :=
  ∃ restored,GatewayConfigFileJson.fresh.parse undefinedBits c.toJSON=.ok (restored,0) ∧ restored.equal c=true

/-- The members of a section of a document. -/
def sectionMembers (document : Json) (name : String) : Members :=
  (getMember ((object? document).getD []) name object?).getD []

/-- The document has a concentrator that keeps its channels, and a gateway, if any,
that keeps its numbers. -/
structure Kept (document : Json) : Prop where
  /-- The concentrator. -/
  concentrator : ConcentratorKept (sectionMembers document "SX130x_conf")
  /-- The gateway. -/
  gateway : GatewayKept (sectionMembers document "gateway_conf")

/-- What a parse leaves of a file. -/
structure FileShape (c : GatewayConfigFileJson) : Prop where
  /-- The concentrator. -/
  sx130xConf : SX130xShape c.sx130xConf
  /-- The gateway. -/
  gatewayConf : GatewayShape c.gatewayConf
  /-- The log. -/
  debugConf : DebugShape c.debugConf

/-- A file as it is read back. -/
def rereadFile (c : GatewayConfigFileJson) : GatewayConfigFileJson :=
  {c with sx130xConf := rereadSX130x c.sx130xConf,gatewayConf := rereadGateway c.gatewayConf}

/-- A file that is written is read. -/
theorem parse_toJSON {c : GatewayConfigFileJson} (h : FileShape c) :
    GatewayConfigFileJson.fresh.parse undefinedBits c.toJSON=.ok (rereadFile c,0) := by
  rw [GatewayConfigFileJson.toJSON]
  set members : Members := [(ascii "SX130x_conf",.object c.sx130xConf.members),
    (ascii "gateway_conf",.object c.gatewayConf.members),(ascii "debug_conf",.object c.debugConf.members)]
  have hsx130x : readSection members "SX130x_conf" (GatewaySX130xConfig.parse undefinedBits) .reset=
      .ok (rereadSX130x c.sx130xConf,0) := parse_sx130x_members undefinedBits h.sx130xConf
  have hgateway : readSection members "gateway_conf" GatewayGatewayConfig.fresh.parse .fresh=
      .ok (rereadGateway c.gatewayConf,0) := parse_gateway_members h.gatewayConf
  have hdebug : readSection members "debug_conf" GatewayDebugConfig.parse .reset=.ok (c.debugConf,0) :=
    parse_debug_members h.debugConf
  refine bind_eq_ok.mpr ⟨_,hsx130x,?_⟩
  dsimp only
  rw [if_neg (not_not_intro rfl)]
  refine bind_eq_ok.mpr ⟨_,hgateway,?_⟩
  dsimp only
  rw [if_neg (not_not_intro rfl)]
  exact bind_eq_ok.mpr ⟨_,hdebug,rfl⟩

/-- What a section leaves: it is there and an object, or it is not read. -/
theorem readSection_ok {α : Type} {members : Members} {name : String} {parse : Json → Except Failure (α×ℤ)}
    {before c : α} {r : ℤ} (hobject : ∀ value result,parse value=.ok result → ∃ part,value=.object part)
    (h : readSection members name parse before=.ok (c,r)) :
    (∃ part,getMember members name object?=some part ∧ parse (.object part)=.ok (c,r)) ∨
      getMember members name object?=none ∧ c=before := by
  rw [readSection] at h
  rw [getMember]
  cases hlookup : members.lookup (ascii name) with
  | none =>
    rw [hlookup] at h
    exact .inr ⟨rfl,(Prod.mk.inj (Except.ok.inj h)).1.symm⟩
  | some value =>
    rw [hlookup] at h
    obtain ⟨part,rfl⟩ := hobject value _ h
    exact .inl ⟨part,rfl,h⟩

/-- The sections of a file that is read with the code of success. -/
theorem parse_file_ok {c : GatewayConfigFileJson} {members : Members}
    (h : GatewayConfigFileJson.fresh.parse undefinedBits (.object members)=.ok (c,0)) :
    readSection members "SX130x_conf" (GatewaySX130xConfig.parse undefinedBits) .reset=.ok (c.sx130xConf,0) ∧
      readSection members "gateway_conf" GatewayGatewayConfig.fresh.parse .fresh=.ok (c.gatewayConf,0) ∧
      readSection members "debug_conf" GatewayDebugConfig.parse .reset=.ok (c.debugConf,0) := by
  rw [GatewayConfigFileJson.parse] at h
  obtain ⟨⟨sx130xConf,r⟩,hsx130x,h⟩ := bind_eq_ok.mp h
  dsimp only at h
  split_ifs at h with hr
  · exact absurd (Prod.mk.inj (Except.ok.inj h)).2 hr
  obtain rfl := not_not.mp hr
  obtain ⟨⟨gatewayConf,r⟩,hgateway,h⟩ := bind_eq_ok.mp h
  dsimp only at h
  split_ifs at h with hr
  · exact absurd (Prod.mk.inj (Except.ok.inj h)).2 hr
  obtain rfl := not_not.mp hr
  obtain ⟨⟨debugConf,r⟩,hdebug,h⟩ := bind_eq_ok.mp h
  obtain ⟨rfl,rfl⟩ := Prod.mk.inj (Except.ok.inj h)
  exact ⟨hsx130x,hgateway,hdebug⟩

/-- The concentrator of a file is read back as it was exactly if the document keeps it. -/
theorem section_sx130x_ok {members : Members} {c : GatewaySX130xConfig}
    (h : readSection members "SX130x_conf" (GatewaySX130xConfig.parse undefinedBits) .reset=.ok (c,0)) :
    SX130xShape c ∧
      ((rereadSX130x c).equal c=true ↔ ConcentratorKept (sectionMembers (.object members) "SX130x_conf")) := by
  have hobject : ∀ value result,GatewaySX130xConfig.parse undefinedBits value=.ok result →
      ∃ part,value=.object part := by
    intro value result hok
    cases value with
    | object part => exact ⟨part,rfl⟩
    | _ => cases hok
  rw [sectionMembers,object?,Option.getD_some]
  rcases readSection_ok hobject h with ⟨part,hpart,hparse⟩|⟨hnone,rfl⟩
  · rw [hpart]
    exact ⟨(parse_sx130x_ok undefinedBits hparse).1,equal_reread_iff_kept hparse⟩
  · rw [hnone]
    refine ⟨sx130xShape_reset,iff_of_false not_equal_reread_reset ?_⟩
    rintro ⟨-,part,hpart,-⟩
    cases hpart

/-- The gateway of a file is read back as it was exactly if the document keeps it. -/
theorem section_gateway_ok {members : Members} {c : GatewayGatewayConfig}
    (h : readSection members "gateway_conf" GatewayGatewayConfig.fresh.parse .fresh=.ok (c,0)) :
    GatewayShape c ∧
      ((rereadGateway c).equal c=true ↔ GatewayKept (sectionMembers (.object members) "gateway_conf")) := by
  have hobject : ∀ value result,GatewayGatewayConfig.fresh.parse value=.ok result →
      ∃ part,value=.object part := by
    intro value result hok
    cases value with
    | object part => exact ⟨part,rfl⟩
    | _ => cases hok
  rw [sectionMembers,object?,Option.getD_some]
  rcases readSection_ok hobject h with ⟨part,hpart,hparse⟩|⟨hnone,rfl⟩
  · rw [hpart]
    exact parse_gateway_ok hparse
  · rw [hnone]
    exact ⟨gateway_fresh.1,iff_of_true gateway_fresh.2 ⟨fun _ _ _ h => (by cases h),fun _ h => (by cases h)⟩⟩

/-- The log of a file has its shape. -/
theorem section_debug_ok {members : Members} {c : GatewayDebugConfig}
    (h : readSection members "debug_conf" GatewayDebugConfig.parse .reset=.ok (c,0)) : DebugShape c := by
  rw [readSection] at h
  cases hlookup : members.lookup (ascii "debug_conf") with
  | none =>
    rw [hlookup] at h
    obtain ⟨rfl,-⟩ := Prod.mk.inj (Except.ok.inj h)
    exact debugShape_reset
  | some value =>
    rw [hlookup] at h
    exact parse_debug_ok h

/-- A configuration that was read survives rewriting exactly if its document keeps the
part for frequency shift keying, the scan times and the numbers of the gateway. -/
theorem survives_iff {document : Json} {c : GatewayConfigFileJson}
    (h : GatewayConfigFileJson.fresh.parse undefinedBits document=.ok (c,0)) :
    Survives undefinedBits c ↔ Kept document := by
  cases document with
  | object members =>
    obtain ⟨hsx130x,hgateway,hdebug⟩ := parse_file_ok undefinedBits h
    obtain ⟨hsshape,hsequal⟩ := section_sx130x_ok undefinedBits hsx130x
    obtain ⟨hgshape,hgequal⟩ := section_gateway_ok hgateway
    have hparse := parse_toJSON undefinedBits ⟨hsshape,hgshape,section_debug_ok hdebug⟩
    have hequal : (rereadFile c).equal c=true ↔
        (rereadSX130x c.sx130xConf).equal c.sx130xConf=true ∧
          (rereadGateway c.gatewayConf).equal c.gatewayConf=true := by
      simp only [GatewayConfigFileJson.equal,Bool.and_eq_true,decide_eq_true_eq]
      exact ⟨fun hall => hall.1,fun hboth => ⟨hboth,rfl⟩⟩
    constructor
    · rintro ⟨restored,hrestored,hsame⟩
      rw [hparse] at hrestored
      obtain ⟨rfl,-⟩ := Prod.mk.inj (Except.ok.inj hrestored)
      obtain ⟨hs,hg⟩ := hequal.mp hsame
      exact ⟨hsequal.mp hs,hgequal.mp hg⟩
    · intro hkept
      exact ⟨rereadFile c,hparse,hequal.mpr ⟨hsequal.mpr hkept.concentrator,hgequal.mpr hkept.gateway⟩⟩
  | _ => cases h

end File

/-- A file with a concentrator that has a channel for frequency shift keying. -/
def withFsk : Json :=
  .object [(ascii "SX130x_conf",.object [(ascii "com_type",.string (ascii "USB")),
      (ascii "chan_FSK",.object [(ascii "enable",.bool true),(ascii "bandwidth",.int 125000)])]),
    (ascii "gateway_conf",.object [(ascii "gateway_ID",.string (ascii "AA555A0000000000")),
      (ascii "keepalive_interval",.int 10),(ascii "push_timeout_ms",.int 100)])]

/-- That file is kept. -/
theorem kept_withFsk : Kept withFsk where
  concentrator :=
    ⟨fun _ h => absurd h List.not_mem_nil,_,rfl,by decide +kernel,by decide +kernel,fun _ h => by cases h⟩
  gateway := by
    refine ⟨fun name hname n hn => ?_,fun ms hms => ?_⟩
    · simp only [signedNames,List.mem_cons,List.not_mem_nil,or_false] at hname
      rcases hname with rfl|rfl|rfl|rfl|rfl|rfl|rfl
      · obtain rfl : 10=n := Option.some.inj hn
        decide
      all_goals cases hn
    · obtain rfl : 100=ms := Option.some.inj hms
      decide

/-- That file survives rewriting. -/
theorem withFsk_survives :
    ∃ c,GatewayConfigFileJson.fresh.parse (fun _ => 0) withFsk=.ok (c,0) ∧ Survives (fun _ => 0) c :=
  ⟨_,rfl,(survives_iff (fun _ => 0) rfl).mpr kept_withFsk⟩

/-- A file with a concentrator that has no channel for frequency shift keying. -/
def withoutFsk : Json :=
  .object [(ascii "SX130x_conf",.object [(ascii "com_type",.string (ascii "SPI"))])]

/-- That file does not survive: its undefined bandwidth comes back as 125 kilohertz. -/
theorem withoutFsk_lost : ∃ c,GatewayConfigFileJson.fresh.parse (fun _ => 0) withoutFsk=.ok (c,0) ∧
    ¬Survives (fun _ => 0) c := by
  refine ⟨_,rfl,?_⟩
  rintro ⟨restored,hparse,hequal⟩
  obtain ⟨rfl,-⟩ := Prod.mk.inj (Except.ok.inj hparse)
  exact absurd hequal (by decide +kernel)

end LorawanServer.GatewayRewriting
