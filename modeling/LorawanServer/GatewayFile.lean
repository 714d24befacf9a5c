import LorawanServer.DatagramSafety
import LorawanServer.Gateways

/-!
# The file of the gateways

The list as a JSON document and back. Counters and the altitude are read under a
test for `int`, which a large one does not pass, and so is the share of the
acknowledged datagrams, which is written as a decimal.
-/

namespace LorawanServer.GatewayFile

open CppRuntime Records JsonDocument Datagram DatagramSafety IdentityText Gateways

/-- A number as a stream in base sixteen writes it. -/
def hexText (value : ℕ) : Bytes :=
  if value=0 then [48] else (Nat.digits 16 value).reverse.map hexChar

section Writer

variable (ltimeString : ℤ → Bytes)

/-- The members of `GatewayStat::toJSON`. The text of the time depends on the time
zone and is an argument. -/
def statMembers (stat : GatewayStat) : Members :=
  [(ascii "gwid",.string (hexText stat.gatewayId.toNat)),
  (ascii "addr",.string stat.addr),
  (ascii "name",.string stat.name),
  (ascii "time",.string (ltimeString stat.t)),
  (ascii "lati",.double stat.lat),
  (ascii "long",.double stat.lon),
  (ascii "alti",.int stat.alt.toNat),
  (ascii "rxnb",.int stat.rxnb.toNat),
  (ascii "rxok",.int stat.rxok.toNat),
  (ascii "rxfw",.int stat.rxfw.toNat),
  (ascii "ackr",.double stat.ackr),
  (ascii "dwnb",.int stat.dwnb.toNat),
  (ascii "txnb",.int stat.txnb.toNat)]

/-- `GatewayStat::toJSON`. -/
def statToJSON (stat : GatewayStat) : Json := .object (statMembers ltimeString stat)

/-- `GatewayList::toJSON`, into an array. -/
def toJSON (list : GatewayList) : Json :=
  .array (list.gateways.toList.map fun gateway => statToJSON ltimeString gateway.2)

/-- `GatewayList::toJsonString`. The writer of the library is an argument. -/
def toJsonString (accept : Json → Bytes) (list : GatewayList) : Bytes := cString (accept (toJSON ltimeString list))

end Writer

/-- The loop of `GatewayList::parse` over the items of an array. -/
def parseItems (host : Host) (gatewayId : UInt64) : GatewayList → List Json → Except Fault GatewayList
  | list,[] => .ok list
  | list,item::rest => do
    let (stat,r) ← GatewayStat.parse host .empty item
    let stat := if gatewayId≠0 then {stat with gatewayId := gatewayId} else stat
    parseItems host gatewayId (if r≠0 then list else list.put stat) rest

/-- `GatewayList::parse` of a document. -/
def parseDocument (host : Host) (gatewayId : UInt64) (list : GatewayList) : Json → Except Fault (GatewayList×ℤ)
  | .array items => do
    let list ← parseItems host gatewayId list items
    return (list,0)
  | _ => .ok (list,ERR_CODE_INVALID_JSON)

/-- `GatewayList::put`: one text with the gateways, under an identifier. A text
with an error leaves no array. -/
def put (host : Host) (gatewayId : UInt64) (list : GatewayList) (value : Bytes) : Except Fault (GatewayList×ℤ) :=
  parseDocument host gatewayId list ((host.parseJson (cString value)).getD .null)

/-- `GatewayList::parse` of a text. -/
def parse (host : Host) (list : GatewayList) (value : Bytes) : Except Fault GatewayList := do
  let (list,_) ← put host 0 list value
  return list

/-- What a file is to keep of a gateway. -/
structure Kept where
  /-- Gateway name. -/
  name : Bytes
  /-- Host name or address. -/
  addr : Bytes
  /-- Altitude. -/
  alt : UInt32
  /-- Radio packets received. -/
  rxnb : UInt64
  /-- With a valid checksum. -/
  rxok : UInt64
  /-- Forwarded. -/
  rxfw : UInt64
  /-- Acknowledged share. -/
  ackr : ℚ
  /-- Downlink datagrams. -/
  dwnb : UInt64
  /-- Packets emitted. -/
  txnb : UInt64
  deriving DecidableEq

/-- What is to be kept of a gateway. -/
def kept (stat : GatewayStat) : Kept :=
  ⟨stat.name,stat.addr,stat.alt,stat.rxnb,stat.rxok,stat.rxfw,stat.ackr,stat.dwnb,stat.txnb⟩

/-- The file of a list is read into an empty list with the same gateways. -/
def RoundTrips (host : Host) (ltimeString : ℤ → Bytes) (accept : Json → Bytes) (list : GatewayList) : Prop :=
  ∃ restored,parse host .empty (toJsonString ltimeString accept list)=.ok restored ∧
    ∀ id : UInt64,restored.gateways[id]?.map kept=list.gateways[id]?.map kept

/-- A gateway that the reader takes as it was written: texts without a zero byte,
an altitude and counters of the type `int` and no share. -/
structure Plain (stat : GatewayStat) : Prop where
  /-- The name has no zero byte. -/
  name : 0∉stat.name
  /-- The address has no zero byte. -/
  addr : 0∉stat.addr
  /-- The altitude is an `int`. -/
  alt : stat.alt.toNat<2^31
  /-- The counter is an `int`. -/
  rxnb : stat.rxnb.toNat<2^31
  /-- The counter is an `int`. -/
  rxok : stat.rxok.toNat<2^31
  /-- The counter is an `int`. -/
  rxfw : stat.rxfw.toNat<2^31
  /-- There is no share. -/
  ackr : stat.ackr=0
  /-- The counter is an `int`. -/
  dwnb : stat.dwnb.toNat<2^31
  /-- The counter is an `int`. -/
  txnb : stat.txnb.toNat<2^31

/-- A number that passes the test for `int`; any other one is zero. -/
def ifInt (value : ℕ) : ℕ := if value<2^31 then value else 0

/-- A gateway as it is read back. -/
def reread (host : Host) (ltimeString : ℤ → Bytes) (stat : GatewayStat) : GatewayStat where
  name := cString stat.name
  gatewayId := stat.gatewayId
  addr := cString stat.addr
  errcode := 0
  t := host.parseDate (cString (ltimeString stat.t))
  lat := stat.lat
  lon := stat.lon
  alt := UInt32.ofInt (ifInt stat.alt.toNat)
  rxnb := UInt64.ofInt (ifInt stat.rxnb.toNat)
  rxok := UInt64.ofInt (ifInt stat.rxok.toNat)
  rxfw := UInt64.ofInt (ifInt stat.rxfw.toNat)
  ackr := 0
  dwnb := UInt64.ofInt (ifInt stat.dwnb.toNat)
  txnb := UInt64.ofInt (ifInt stat.txnb.toNat)

section Identifier

/-- Digits with the most significant one in front write the usual number. -/
theorem hexNumber_reverse (digits : List ℕ) : hexNumber digits.reverse=Nat.ofDigits 16 digits := by
  induction digits with
  | nil => rfl
  | cons digit rest ih =>
    rw [hexNumber] at ih ⊢
    rw [List.reverse_cons,List.foldl_append,ih,Nat.ofDigits_cons]
    simp only [List.foldl_cons,List.foldl_nil]
    omega

/-- The digits of a number are read as that number. -/
theorem identifier_hexText (value : ℕ) : isHex (hexText value)=true ∧ identifier (hexText value)=value := by
  rw [hexText]
  split_ifs with hzero
  · exact ⟨by decide,by rw [hzero]; decide⟩
  have hdigits : ∀ digit∈(Nat.digits 16 value).reverse,digit<16 :=
    fun digit hd => Nat.digits_lt_base (by omega) (List.mem_reverse.mp hd)
  constructor
  · rw [isHex,List.all_eq_true]
    intro byte hb
    obtain ⟨digit,hd,rfl⟩ := List.mem_map.mp hb
    rw [hexDigit_hexChar (hdigits digit hd)]
    rfl
  · rw [identifier,hexDigits_hexChar hdigits,hexNumber_reverse,Nat.ofDigits_digits]

/-- The identifier of a gateway is read back. -/
theorem strtoull16_hexText (id : UInt64) : strtoull16 (cString (hexText id.toNat))=id := by
  have hlt := id.toNat_lt
  obtain ⟨hhex,hvalue⟩ := identifier_hexText id.toNat
  rw [cString_of_isHex hhex,strtoull16_of_isHex hhex,hvalue,Nat.min_eq_left (by omega),UInt64.ofNat_toNat]

end Identifier

section Members

variable {members : Members} {name : String} (stat : GatewayStat) (count : ℕ)

/-- A text is taken up to a zero byte. -/
theorem countMember_string {value : Bytes} (h : members.lookup (ascii name)=some (.string value))
    (set : GatewayStat → Bytes → GatewayStat) :
    countMember members name Json.string? set (stat,count)=(set stat (cString value),count+1) := by
  rw [countMember,getMember,h]
  rfl

/-- A decimal is taken. -/
theorem countMember_double {value : ℚ} (h : members.lookup (ascii name)=some (.double value))
    (set : GatewayStat → ℚ → GatewayStat) :
    countMember members name Json.double? set (stat,count)=(set stat value,count+1) := by
  rw [countMember,getMember,h]
  rfl

/-- A decimal is no `int`. -/
theorem countMember_share {value : ℚ} (h : members.lookup (ascii name)=some (.double value))
    (set : GatewayStat → ℤ → GatewayStat) :
    countMember members name Json.int? set (stat,count)=(stat,count) := by
  rw [countMember,getMember,h]
  rfl

/-- A number is taken if it passes the test for `int`; else its member stays zero. -/
theorem countMember_int {value : ℕ} (h : members.lookup (ascii name)=some (.int value))
    (set : GatewayStat → ℤ → GatewayStat) (hzero : set stat 0=stat) :
    countMember members name Json.int? set (stat,count)=
      (set stat (ifInt value),count+if value<2^31 then 1 else 0) := by
  rw [countMember,getMember,h,Option.bind_some,Json.int?,ifInt]
  by_cases hlt : value<2^31
  · rw [if_pos (by omega),if_pos hlt,if_pos hlt]
  · rw [if_neg (by omega),if_neg hlt,if_neg hlt,Nat.cast_zero,hzero,Nat.add_zero]
    rfl

end Members

/-- A gateway that is written is read. -/
theorem parse_statToJSON (host : Host) (ltimeString : ℤ → Bytes) (stat : GatewayStat) :
    GatewayStat.parse host .empty (statToJSON ltimeString stat)=.ok (reread host ltimeString stat,LORA_OK) := by
  set members := statMembers ltimeString stat with hmembers
  have hid : countGatewayId members (.empty,0)=({GatewayStat.empty with gatewayId := stat.gatewayId},1) := by
    rw [countGatewayId,show members.lookup (ascii "gwid")=some (.string (hexText stat.gatewayId.toNat)) from rfl]
    change ({GatewayStat.empty with gatewayId := strtoull16 (cString (hexText stat.gatewayId.toNat))},1)=_
    rw [strtoull16_hexText]
  have hstat : (countStat host .empty members).1=reread host ltimeString stat := by
    rw [countStat]
    rw [hid,
      countMember_string _ _ (show members.lookup (ascii "addr")=some (.string stat.addr) from rfl),
      countMember_string _ _ (show members.lookup (ascii "name")=some (.string stat.name) from rfl),
      countMember_string _ _ (show members.lookup (ascii "time")=some (.string (ltimeString stat.t)) from rfl),
      countMember_double _ _ (show members.lookup (ascii "lati")=some (.double stat.lat) from rfl),
      countMember_double _ _ (show members.lookup (ascii "long")=some (.double stat.lon) from rfl),
      countMember_int _ _ (show members.lookup (ascii "alti")=some (.int stat.alt.toNat) from rfl) _ rfl,
      countMember_int _ _ (show members.lookup (ascii "rxnb")=some (.int stat.rxnb.toNat) from rfl) _ rfl,
      countMember_int _ _ (show members.lookup (ascii "rxok")=some (.int stat.rxok.toNat) from rfl) _ rfl,
      countMember_int _ _ (show members.lookup (ascii "rxfw")=some (.int stat.rxfw.toNat) from rfl) _ rfl,
      countMember_share _ _ (show members.lookup (ascii "ackr")=some (.double stat.ackr) from rfl),
      countMember_int _ _ (show members.lookup (ascii "dwnb")=some (.int stat.dwnb.toNat) from rfl) _ rfl,
      countMember_int _ _ (show members.lookup (ascii "txnb")=some (.int stat.txnb.toNat) from rfl) _ rfl]
    rfl
  rw [statToJSON,← hmembers,parse_stat_known host (.inl rfl),hstat]

/-- The gateways of a file are put one behind the other. -/
theorem parseItems_written (host : Host) (ltimeString : ℤ → Bytes) {entries : List (UInt64×GatewayStat)}
    (hkeyed : ∀ entry∈entries,entry.2.gatewayId=entry.1) (list : GatewayList) :
    ∃ restored,parseItems host 0 list (entries.map fun entry => statToJSON ltimeString entry.2)=.ok restored ∧
      restored.gateways=OrderedMaps.filled list.gateways (reread host ltimeString) entries := by
  induction entries generalizing list with
  | nil => exact ⟨list,rfl,rfl⟩
  | cons entry rest ih =>
    obtain ⟨restored,hparse,hgateways⟩ := ih (fun other hother => hkeyed other (List.mem_cons_of_mem _ hother))
      (list.put (reread host ltimeString entry.2))
    refine ⟨restored,?_,?_⟩
    · rw [List.map_cons,parseItems,parse_statToJSON]
      exact hparse
    · rw [hgateways,OrderedMaps.filled,OrderedMaps.filled,List.foldl_cons,← hkeyed entry List.mem_cons_self]
      rfl

/-- A list that is written is read, gateway by gateway. -/
theorem parse_toJsonString {host : Host} {ltimeString : ℤ → Bytes} {accept : Json → Bytes} {list : GatewayList}
    (hread : host.parseJson (toJsonString ltimeString accept list)=some (toJSON ltimeString list)) :
    ∃ restored,parse host .empty (toJsonString ltimeString accept list)=.ok restored ∧
      ∀ id : UInt64,restored.gateways[id]?=list.gateways[id]?.map (reread host ltimeString) := by
  have hkeyed : ∀ entry∈list.gateways.toList,entry.2.gatewayId=entry.1 := fun entry hentry =>
    list.keyed entry.1 entry.2 (Std.TreeMap.mem_toList_iff_getElem?_eq_some.mp hentry)
  obtain ⟨restored,hparse,hgateways⟩ := parseItems_written host ltimeString hkeyed .empty
  refine ⟨restored,?_,fun id => ?_⟩
  · have hcut : cString (toJsonString ltimeString accept list)=toJsonString ltimeString accept list :=
      cString_eq_self (zero_notMem_cString _)
    rw [parse,put,hcut,hread,Option.getD_some,toJSON,parseDocument,hparse]
    rfl
  · rw [hgateways,OrderedMaps.getElem?_filled_toList]
    cases list.gateways[id]? with
    | none => exact Std.TreeMap.getElem?_emptyc
    | some stat => rfl

section Fields

/-- A 32-bit number is taken exactly if it is an `int`. -/
theorem ifInt_uint32_iff (value : UInt32) : UInt32.ofInt (ifInt value.toNat)=value ↔ value.toNat<2^31 := by
  rw [ifInt]
  split_ifs with h
  · refine iff_of_true ?_ h
    rw [← UInt32.toNat_inj,uint32_ofInt_toNat value.toNat_lt]
  · refine iff_of_false (fun heq => h ?_) h
    rw [← heq]
    decide

/-- A 64-bit number is taken exactly if it is an `int`. -/
theorem ifInt_uint64_iff (value : UInt64) : UInt64.ofInt (ifInt value.toNat)=value ↔ value.toNat<2^31 := by
  rw [ifInt]
  split_ifs with h
  · refine iff_of_true ?_ h
    have hm : ((value.toNat : ℤ)%2^64).toNat=value.toNat := by
      have hlt := value.toNat_lt
      omega
    rw [UInt64.ofInt,hm,UInt64.ofNat_toNat]
  · refine iff_of_false (fun heq => h ?_) h
    rw [← heq]
    decide

/-- A text is taken whole exactly if it has no zero byte. -/
theorem cString_eq_self_iff (text : Bytes) : cString text=text ↔ 0∉text :=
  ⟨fun h => h ▸ zero_notMem_cString text,cString_eq_self⟩

/-- A gateway is read back as it was exactly if it is plain. -/
theorem kept_reread_iff (host : Host) (ltimeString : ℤ → Bytes) (stat : GatewayStat) :
    kept (reread host ltimeString stat)=kept stat ↔ Plain stat := by
  simp only [kept,reread,Kept.mk.injEq,cString_eq_self_iff,ifInt_uint32_iff,ifInt_uint64_iff]
  constructor
  · rintro ⟨hname,haddr,halt,hrxnb,hrxok,hrxfw,hackr,hdwnb,htxnb⟩
    exact ⟨hname,haddr,halt,hrxnb,hrxok,hrxfw,hackr.symm,hdwnb,htxnb⟩
  · intro h
    exact ⟨h.name,h.addr,h.alt,h.rxnb,h.rxok,h.rxfw,h.ackr.symm,h.dwnb,h.txnb⟩

end Fields

/-- The file of a list, which the reader of the library takes as it was written,
gives the same gateways exactly if all of them are plain. -/
theorem gateways_roundTrip_iff (host : Host) (ltimeString : ℤ → Bytes) (accept : Json → Bytes) (list : GatewayList)
    (hread : host.parseJson (toJsonString ltimeString accept list)=some (toJSON ltimeString list)) :
    RoundTrips host ltimeString accept list ↔
      ∀ (id : UInt64) (stat : GatewayStat),list.gateways[id]?=some stat → Plain stat := by
  obtain ⟨restored,hparse,hgateways⟩ := parse_toJsonString hread
  have hsame : RoundTrips host ltimeString accept list ↔
      ∀ id : UInt64,restored.gateways[id]?.map kept=list.gateways[id]?.map kept := by
    constructor
    · rintro ⟨other,hother,h⟩
      rw [hparse] at hother
      rwa [Except.ok.inj hother]
    · exact fun h => ⟨restored,hparse,h⟩
  rw [hsame]
  refine forall_congr' fun id => ?_
  rw [hgateways]
  cases list.gateways[id]? with
  | none => exact iff_of_true rfl fun stat h => by cases h
  | some stat =>
    rw [Option.map_some,Option.map_some,Option.map_some,Option.some.injEq,kept_reread_iff]
    exact ⟨fun h other hother => Option.some.inj hother ▸ h,fun h => h stat rfl⟩

/-- A gateway with a share of 49.5 percent and one packet too many for an `int`. -/
def busyGateway : GatewayStat :=
  {GatewayStat.empty with gatewayId := 26,name := ascii "gw",addr := ascii "10.0.0.1",rxnb := 2147483648,ackr := 99/2}

/-- The text of the time zero. -/
def epochText (_ : ℤ) : Bytes := ascii "1970-01-01T00:00:00GMT"

/-- A list with that gateway. -/
def busyList : GatewayList := GatewayList.empty.put busyGateway

/-- The text that the writer gives for that list. -/
def busyText (_ : Json) : Bytes :=
  ascii "[\n    \x7b\n        \"gwid\": \"1a\",\n        \"addr\": \"10.0.0.1\",\n        \"name\": \"gw\",\n"++
  ascii "        \"time\": \"1970-01-01T00:00:00GMT\",\n        \"lati\": 0.0,\n        \"long\": 0.0,\n"++
  ascii "        \"alti\": 0,\n        \"rxnb\": 2147483648,\n        \"rxok\": 0,\n        \"rxfw\": 0,\n"++
  ascii "        \"ackr\": 49.5,\n        \"dwnb\": 0,\n        \"txnb\": 0\n    \x7d\n]"

/-- The reader takes that text as it was written. -/
theorem busyText_read : referenceHost.parseJson (toJsonString epochText busyText busyList)=
    some (toJSON epochText busyList) := by decide +kernel

/-- That gateway loses its share and a counter on the way through the file. -/
theorem busy_not_restored : ¬ RoundTrips referenceHost epochText busyText busyList := by
  obtain ⟨restored,hparse,hgateways⟩ := parse_toJsonString busyText_read
  rintro ⟨other,hother,h⟩
  rw [hparse] at hother
  obtain rfl := Except.ok.inj hother
  have hgateway : busyList.gateways[(26 : UInt64)]?=some busyGateway := by decide +kernel
  have hkept := h 26
  rw [hgateways,hgateway,Option.map_some,Option.map_some,Option.map_some,Option.some.injEq,kept_reread_iff] at hkept
  exact absurd hkept.ackr (by decide +kernel)

/-- The file of that gateway. -/
theorem busy_roundTrip : RoundTrips referenceHost epochText busyText busyList ↔
    ∀ (id : UInt64) (stat : GatewayStat),busyList.gateways[id]?=some stat → Plain stat :=
  gateways_roundTrip_iff referenceHost epochText busyText busyList busyText_read

end LorawanServer.GatewayFile
