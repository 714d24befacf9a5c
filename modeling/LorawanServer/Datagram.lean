import LorawanServer.Base64
import LorawanServer.DataFrame
import LorawanServer.JsonDocument

/-!
# Reading a gateway datagram

`SemtechUDPPacket::parse` with everything it calls: the binary prefix, the
place of the JSON text, the members of the radio objects and of the gateway
statistics. The JSON parser, the date parser and the clock are arguments. A
buffer is the received bytes; the listener puts a zero byte behind them, so a
C string ends there at the latest.
-/

namespace LorawanServer.Datagram

open CppRuntime FrameCrypto Records DataFrame JsonDocument Base64

/-- What the reader takes from outside the modelled code. -/
structure Host where
  /-- `rapidjson::Document::Parse` of a C string; nothing for a syntax error. -/
  parseJson : Bytes → Option Json
  /-- `parseDate`, which depends on the time zone of the host. -/
  parseDate : Bytes → ℤ
  /-- The clock that a new reception reads. -/
  now : ℤ
  /-- What a new reception finds in the memory of its gateway timestamp. -/
  tmst : UInt32
  /-- What the listener finds in the memory of its prefix. -/
  dataPrefix : SemtechPrefixGw

/-- A host with the reference reader of JSON, for evaluation on fixed inputs. -/
def referenceHost : Host where
  parseJson := read
  parseDate _ := 0
  now := 0
  tmst := 0
  dataPrefix := ⟨0,0,0,0⟩

/-- `SemtechUDPPacket::parsePrefixGw`: the object to fill and the code. The
identifier is turned into host order before the version is checked. -/
def parsePrefixGw (retPrefix : SemtechPrefixGw) (packet : Bytes) : SemtechPrefixGw×ℤ :=
  if packet.length<12 then (retPrefix,ERR_CODE_PACKET_TOO_SHORT)
  else
    let image : SemtechPrefixGw := {
      version := packet.getD 0 0
      token := UInt16.ofNat (leValue ((packet.drop 1).take 2))
      tag := packet.getD 3 0
      mac := UInt64.ofNat (swapBytes 8 (leValue ((packet.drop 4).take 8)))}
    (image,if image.version≠2 then ERR_CODE_INVALID_PROTOCOL_VERSION else LORA_OK)

/-- The prefix with its identifier in the other byte order. -/
def swapMac (gw : SemtechPrefixGw) : SemtechPrefixGw := {gw with mac := UInt64.ofNat (swapBytes 8 gw.mac.toNat)}

/-- The byte order of the identifier is all that changes. -/
theorem swapMac_tag_token (gw : SemtechPrefixGw) : (swapMac gw).tag=gw.tag ∧ (swapMac gw).token=gw.token := by
  cases gw
  exact ⟨rfl,rfl⟩

/-- A prefix of version 2 in front of a text is read with its identifier in
host order. -/
theorem parsePrefixGw_toBytes {gw : SemtechPrefixGw} (hv : gw.version=2) (retPrefix : SemtechPrefixGw)
    (text : Bytes) : parsePrefixGw retPrefix (gw.toBytes++text)=(swapMac gw,LORA_OK) := by
  obtain ⟨version,token,tag,mac⟩ := gw
  have ht : UInt16.ofNat (leValue (leBytes 2 token.toNat))=token := by
    rw [leValue_leBytes_of_lt token.toNat_lt,UInt16.ofNat_toNat]
  have hm : leValue (leBytes 8 mac.toNat)=mac.toNat := leValue_leBytes_of_lt mac.toNat_lt
  have hl : ¬ ((⟨version,token,tag,mac⟩ : SemtechPrefixGw).toBytes++text).length<12 := by
    simp only [SemtechPrefixGw.toBytes,List.length_append,List.length_cons,leBytes_length]
    omega
  rw [parsePrefixGw,if_neg hl]
  simp only [leBytes] at ht hm
  simp only [SemtechPrefixGw.toBytes,leBytes,List.cons_append,List.nil_append,List.drop_succ_cons,
    List.drop_zero,List.take_succ_cons,List.take_zero,List.getD_cons_zero,List.getD_cons_succ,ht,hm]
  change version=2 at hv
  rw [if_neg (not_not.mpr hv)]
  rfl

/-- `SemtechUDPPacket::getSemtechJSONCharPtr`: the bytes behind the returned
pointer, nothing for a null pointer. -/
def getSemtechJSONCharPtr (packet : Bytes) : Option Bytes :=
  if packet.length≤12 then none
  else match (packet.getD 3 0).toNat with
    | 0 => some (packet.drop 12)
    | 1 => some (packet.drop 4)
    | 2 => some (packet.drop 12)
    | 3 => some (packet.drop 4)
    | 4 => some (packet.drop 4)
    | 5 => some (packet.drop 12)
    | _ => none

/-- Blank of the C library. -/
def isCSpace (byte : UInt8) : Bool := byte=32 || (9≤byte && byte≤13)

/-- `atoi` as `strtol` narrowed to `int`: blanks, a sign and digits. -/
def atoi (text : Bytes) : ℤ :=
  let text := (cString text).dropWhile isCSpace
  let magnitude (digits : Bytes) : ℕ := digitsValue (digits.takeWhile isDigit)
  let value : ℤ := match text with
    | 45::digits => -(min (magnitude digits) (2^63) : ℕ)
    | 43::digits => (min (magnitude digits) (2^63-1) : ℕ)
    | digits => (min (magnitude digits) (2^63-1) : ℕ)
  value.bmod (2^32)

/-- Bandwidth named by a number of kHz; others count as 250. -/
def bandwidthOf : ℤ → Bandwidth
  | 7 => .khz7
  | 10 => .khz10
  | 15 => .khz15
  | 20 => .khz20
  | 31 => .khz31
  | 41 => .khz41
  | 62 => .khz62
  | 125 => .khz125
  | 250 => .khz250
  | 500 => .khz500
  | _ => .khz250

/-- `rfmMetaData::setDatr`. The spreading factor stands between the second
character and the first letter B, the bandwidth from the second character
behind that letter on. -/
def setDatr (m : RfmMetaData) (value : Bytes) : Except Fault RfmMetaData :=
  if value.length<3 then .ok m
  else match value.findIdx? (· = 66) with
    | none => .ok m
    | some p => do
      let s ← substr value 2 (sizeSub p 2)
      let m := {m with spreadingFactor := atoi s}
      let s ← substr value (p+2) value.length
      return {m with bandwith := bandwidthOf (atoi s)}

/-- The first letter B stands behind what has none. -/
theorem findIdx?_letterB {front : Bytes} (h : 66∉front) (behind : Bytes) :
    (front++66::behind).findIdx? (· = 66)=some front.length := by
  have hfront : front.findIdx? (· = 66)=none := by
    rw [List.findIdx?_eq_none_iff]
    intro byte hb
    exact decide_eq_false fun he => h (he ▸ hb)
  rw [List.findIdx?_append,hfront,List.findIdx?_cons]
  simp only [decide_true,if_true,Option.map_some,Option.none_or,Nat.zero_add]

/-- A factor and a bandwidth behind their letters are read. -/
theorem setDatr_factor_width {factor : Bytes} (hletter : 66∉factor) (hlength : factor.length<2^64) (width : Bytes)
    (m : RfmMetaData) : setDatr m (83::70::(factor++66::87::width))=
      .ok {m with spreadingFactor := atoi factor,bandwith := bandwidthOf (atoi width)} := by
  have htotal : (83::70::(factor++66::87::width)).length=factor.length+2+(width.length+2) := by
    simp only [List.length_cons,List.length_append]
    omega
  have hfront : 66∉83::70::factor :=
    List.not_mem_cons_of_ne_of_not_mem (by decide) (List.not_mem_cons_of_ne_of_not_mem (by decide) hletter)
  have hfind : (83::70::(factor++66::87::width)).findIdx? (· = 66)=some (factor.length+2) :=
    findIdx?_letterB hfront (87::width)
  have hfactor : ((83::70::(factor++66::87::width)).drop 2).take (sizeSub (factor.length+2) 2)=factor := by
    have hback : sizeSub (factor.length+2) 2=factor.length := by
      rw [sizeSub]
      omega
    rw [hback]
    exact List.take_left
  have hwidth : ((83::70::(factor++66::87::width)).drop (factor.length+2+2)).take
      (83::70::(factor++66::87::width)).length=width := by
    have hdrop : (83::70::(factor++66::87::width)).drop (factor.length+2+2)=width := by
      rw [List.drop_succ_cons,List.drop_succ_cons,List.drop_length_add_append]
      rfl
    rw [hdrop,List.take_of_length_le (by omega)]
  rw [setDatr,if_neg (by omega),hfind]
  simp only [bind,Except.bind]
  rw [substr_of_le (by omega),substr_of_le (by omega),hfactor,hwidth]
  rfl

/-- `rfmMetaData::setCodr`: three or five characters, told apart by the third. -/
def setCodr (m : RfmMetaData) (value : Bytes) : RfmMetaData :=
  let rate : CodingRate := match value.length,(value.getD 2 0).toNat with
    | 3,53 => .cr45
    | 3,50 => .cr46
    | 3,55 => .cr47
    | 3,49 => .cr48
    | 5,53 => .li45
    | 5,54 => .li46
    | 5,56 => .li48
    | _,_ => .cr46
  {m with codingRate := rate}

/-- `rfmMetaData::setModulation`. -/
def setModulation (m : RfmMetaData) (value : Bytes) : RfmMetaData :=
  {m with modu := if value=ascii "FSK" then .fsk else .lora}

/-- A member with a value of the wanted type. Of equal names the first counts. -/
def getMember {α : Type} (members : Members) (name : String) (get : Json → Option α) : Option α :=
  (members.lookup (ascii name)).bind get

/-- Assignment of a member, if it is there with a value of the wanted type. -/
def setMember {α β : Type} (members : Members) (name : String) (get : Json → Option α)
    (set : β → α → β) (object : β) : β :=
  match getMember members name get with
  | some value => set object value
  | none => object

/-- Conversion of a decimal to an integer, towards zero. -/
def truncate (value : ℚ) : ℤ := value.num.tdiv value.den

/-- Data rate of a radio object, the one member whose reading can throw. -/
def parseDatr (members : Members) (m : RfmMetaData) : Except Fault RfmMetaData :=
  match getMember members "datr" Json.string? with
  | some value => setDatr m value
  | none => .ok m

/-- Radio frame of a radio object; text that is not base64 gives the empty frame. -/
def parseFrame (members : Members) : Bytes :=
  match getMember members "data" Json.string? with
  | some value => (base64Decode value).getD []
  | none => []

/-- `rfmMetaData::parseRX`: reception, announced size and radio frame. The
frequency is truncated to whole MHz. -/
def parseRX (host : Host) (m : RfmMetaData) (members : Members) :
    Except Fault (RfmMetaData×Option ℤ×Bytes) := do
  let m := setMember members "time" Json.string? (fun m v => {m with t := host.parseDate v}) m
  let m := setMember members "tmst" Json.uint? (fun m v => {m with tmst := UInt32.ofNat v}) m
  let m := setMember members "freq" Json.double?
    (fun m v => {m with freq := UInt32.ofInt (truncate v)*1000000}) m
  let m := setMember members "chan" Json.int? (fun m v => {m with chan := UInt8.ofInt v}) m
  let m := setMember members "rfch" Json.int? (fun m v => {m with rfch := UInt8.ofInt v}) m
  let m := setMember members "stat" Json.int? (fun m v => {m with stat := Int8.ofInt v}) m
  let m := setMember members "modu" Json.string? setModulation m
  let m ← parseDatr members m
  let m := setMember members "codr" Json.string? setCodr m
  let m := setMember members "rssi" Json.int? (fun m v => {m with rssi := Int16.ofInt v}) m
  let m := setMember members "lsnr" Json.float? (fun m v => {m with lsnr := v}) m
  return (m,getMember members "size" Json.int?,parseFrame members)

/-- `rfmMetaData::parseTX`. The radio chain is read from the power. -/
def parseTX (m : RfmMetaData) (members : Members) : Except Fault (RfmMetaData×Option ℤ×Bytes) := do
  let m := setMember members "tmst" Json.uint? (fun m v => {m with tmst := UInt32.ofNat v}) m
  let m := setMember members "freq" Json.double?
    (fun m v => {m with freq := UInt32.ofInt (truncate (v*1000000))}) m
  let m := setMember members "powe" Json.int? (fun m v => {m with rfch := UInt8.ofInt v}) m
  let m ← parseDatr members m
  let m := setMember members "codr" Json.string? setCodr m
  let m := setMember members "modu" Json.string? setModulation m
  return (m,getMember members "size" Json.int?,parseFrame members)

/-- `GatewayStat`, without the socket. -/
structure GatewayStat where
  /-- Gateway name. -/
  name : Bytes
  /-- Gateway identifier. -/
  gatewayId : UInt64
  /-- Host name or address. -/
  addr : Bytes
  /-- Zero when the object holds statistics. -/
  errcode : ℤ
  /-- Time of the report. -/
  t : ℤ
  /-- Latitude, degrees. -/
  lat : ℚ
  /-- Longitude, degrees. -/
  lon : ℚ
  /-- Altitude, metres. -/
  alt : UInt32
  /-- Radio packets received. -/
  rxnb : UInt64
  /-- Radio packets received with a valid checksum. -/
  rxok : UInt64
  /-- Radio packets forwarded. -/
  rxfw : UInt64
  /-- Acknowledged share of the upstream datagrams. -/
  ackr : ℚ
  /-- Downlink datagrams received. -/
  dwnb : UInt64
  /-- Packets emitted. -/
  txnb : UInt64
  deriving DecidableEq

/-- The default constructor of `GatewayStat`. -/
def GatewayStat.empty : GatewayStat := ⟨[],0,[],0,0,0,0,0,0,0,0,0,0,0⟩

/-- Value of a hexadecimal digit. -/
def hexDigit? (byte : UInt8) : Option ℕ :=
  if 48≤byte.toNat ∧ byte.toNat≤57 then some (byte.toNat-48)
  else if 97≤byte.toNat ∧ byte.toNat≤102 then some (byte.toNat-87)
  else if 65≤byte.toNat ∧ byte.toNat≤70 then some (byte.toNat-55)
  else none

/-- `strtoull` in base sixteen: blanks, a sign, an optional marker in front of
a digit, and digits up to the largest value. -/
def strtoull16 (text : Bytes) : UInt64 :=
  let text := text.dropWhile isCSpace
  let (negative,text) := match text with
    | 45::rest => (true,rest)
    | 43::rest => (false,rest)
    | rest => (false,rest)
  let text := match text with
    | 48::x::digit::rest => if (x=120 ∨ x=88) ∧ (hexDigit? digit).isSome then digit::rest else text
    | _ => text
  let digits := (text.takeWhile fun byte => (hexDigit? byte).isSome).filterMap hexDigit?
  let value := UInt64.ofNat (min (digits.foldl (fun value digit => 16*value+digit) 0) (2^64-1))
  if negative then 0-value else value

/-- A member of the statistics: it is assigned and counted. -/
def countMember {α : Type} (members : Members) (name : String) (get : Json → Option α)
    (set : GatewayStat → α → GatewayStat) (state : GatewayStat×ℕ) : GatewayStat×ℕ :=
  match getMember members name get with
  | some value => (set state.1 value,state.2+1)
  | none => state

/-- The gateway identifier of the statistics, which counts for any value. -/
def countGatewayId (members : Members) (state : GatewayStat×ℕ) : GatewayStat×ℕ :=
  match members.lookup (ascii "gwid") with
  | none => state
  | some value =>
    match value.uint64?,value.string? with
    | some id,_ => ({state.1 with gatewayId := UInt64.ofNat id},state.2+1)
    | none,some text => ({state.1 with gatewayId := strtoull16 text},state.2+1)
    | none,none => (state.1,state.2+1)

/-- The members of `GatewayStat::parse` with the number of those it knows. -/
def countStat (host : Host) (stat : GatewayStat) (members : Members) : GatewayStat×ℕ :=
  let state := countGatewayId members (stat,0)
  let state := countMember members "addr" Json.string? (fun stat v => {stat with addr := v}) state
  let state := countMember members "name" Json.string? (fun stat v => {stat with name := v}) state
  let state := countMember members "time" Json.string? (fun stat v => {stat with t := host.parseDate v}) state
  let state := countMember members "lati" Json.double? (fun stat v => {stat with lat := v}) state
  let state := countMember members "long" Json.double? (fun stat v => {stat with lon := v}) state
  let state := countMember members "alti" Json.int? (fun stat v => {stat with alt := UInt32.ofInt v}) state
  let state := countMember members "rxnb" Json.int? (fun stat v => {stat with rxnb := UInt64.ofInt v}) state
  let state := countMember members "rxok" Json.int? (fun stat v => {stat with rxok := UInt64.ofInt v}) state
  let state := countMember members "rxfw" Json.int? (fun stat v => {stat with rxfw := UInt64.ofInt v}) state
  let state := countMember members "ackr" Json.int? (fun stat v => {stat with ackr := v}) state
  let state := countMember members "dwnb" Json.int? (fun stat v => {stat with dwnb := UInt64.ofInt v}) state
  countMember members "txnb" Json.int? (fun stat v => {stat with txnb := UInt64.ofInt v}) state

/-- `GatewayStat::parse`. Looking for a member of a value that is not an object
fails an assertion of the JSON library. -/
def GatewayStat.parse (host : Host) (stat : GatewayStat) : Json → Except Fault (GatewayStat×ℤ)
  | .object members =>
    let state := countStat host stat members
    .ok (state.1,if 0<state.2 then LORA_OK else ERR_CODE_NO_GATEWAY_STAT)
  | _ => .error .assertion

/-- The packet object of a reception before its frame is read. -/
def newPacket (gwPrefix : SemtechPrefixGw) (m : RfmMetaData) : SemtechUDPPacket where
  payload := []
  header := RfmHeader.empty
  metadata := [{m with gatewayId := gwPrefix.mac}]
  errcode := LORA_OK
  downlink := false
  gwPrefix := gwPrefix
  devId := DeviceId.empty

/-- The constructor of `SemtechUDPPacket` behind a parsed prefix and reception. -/
def received (crypto : Crypto) (identityService : Option IdentityService) (gwPrefix : SemtechPrefixGw)
    (m : RfmMetaData) (data : Bytes) : Except Fault SemtechUDPPacket := do
  let result ← parseData crypto identityService (newPacket gwPrefix m) data
  return {result.1 with errcode := result.2}

/-- Packets that `parse` returns to its caller. -/
def isReturned (packet : SemtechUDPPacket) : Bool :=
  decide (packet.errcode=LORA_OK ∨ packet.errcode=ERR_CODE_IS_JOIN)

section Reader

variable (host : Host) (crypto : Crypto) (identityService : Option IdentityService)

/-- The packet of one object of the `rxpk` array. -/
def receivedRX (gwPrefix : SemtechPrefixGw) (members : Members) : Except Fault SemtechUDPPacket := do
  let (m,_,data) ← parseRX host (RfmMetaData.initial host.now host.tmst) members
  received crypto identityService gwPrefix m data

/-- The packet of a `txpk` object. -/
def receivedTX (gwPrefix : SemtechPrefixGw) (members : Members) : Except Fault SemtechUDPPacket := do
  let (m,_,data) ← parseTX (RfmMetaData.initial host.now host.tmst) members
  received crypto identityService gwPrefix m data

/-- The loop of `parse` over the `rxpk` array: packets so far and the code of
the last one. A value that is not an object ends the loop. -/
def parseRxpk (gwPrefix : SemtechPrefixGw) :
    List Json → List SemtechUDPPacket → ℤ → Except Fault (List SemtechUDPPacket×ℤ)
  | [],retPackets,r => .ok (retPackets,r)
  | .object members::items,retPackets,_ => do
    let packet ← receivedRX host crypto identityService gwPrefix members
    parseRxpk gwPrefix items (if isReturned packet then retPackets++[packet] else retPackets) packet.errcode
  | _::_,retPackets,_ => .ok (retPackets,ERR_CODE_INVALID_JSON)

/-- The part of `parse` behind the statistics: `rxpk`, or else `txpk`. -/
def parsePackets (gwPrefix : SemtechPrefixGw) (members : Members) :
    Except Fault (List SemtechUDPPacket×ℤ) :=
  match members.lookup (ascii "rxpk"),members.lookup (ascii "txpk") with
  | some (.array items),_ => parseRxpk host crypto identityService gwPrefix items [] LORA_OK
  | some _,_ => .ok ([],ERR_CODE_INVALID_JSON)
  | none,some (.object txpk) => do
    let packet ← receivedTX host crypto identityService gwPrefix txpk
    return (if isReturned packet then [packet] else [],packet.errcode)
  | none,some _ => .ok ([],ERR_CODE_INVALID_JSON)
  | none,none => .ok ([],LORA_OK)

/-- What `parse` returns through its arguments and its code. -/
structure ParseResult where
  /-- The prefix in host order. -/
  retPrefix : SemtechPrefixGw
  /-- Gateway statistics. -/
  retGWStat : GatewayStat
  /-- Accepted data frames and join messages. -/
  retPackets : List SemtechUDPPacket
  /-- The returned code. -/
  code : ℤ
  deriving DecidableEq

/-- The part of `parse` that reads a JSON object. -/
def parseDocument (retPrefix : SemtechPrefixGw) (retGWStat : GatewayStat) (members : Members) :
    Except Fault ParseResult :=
  match members.lookup (ascii "stat") with
  | none => do
    let (retPackets,r) ← parsePackets host crypto identityService retPrefix members
    return ⟨retPrefix,retGWStat,retPackets,r⟩
  | some jstat => do
    let (retGWStat,r) ← GatewayStat.parse host retGWStat jstat
    if r=LORA_OK then
      let retGWStat := {retGWStat with gatewayId := retPrefix.mac,errcode := 0}
      let (retPackets,r) ← parsePackets host crypto identityService retPrefix members
      return ⟨retPrefix,retGWStat,retPackets,r⟩
    else return ⟨retPrefix,retGWStat,[],ERR_CODE_INVALID_STAT⟩

/-- `SemtechUDPPacket::parse` over the received bytes. -/
def parse (retPrefix : SemtechPrefixGw) (retGWStat : GatewayStat) (packet : Bytes) :
    Except Fault ParseResult :=
  let retGWStat := {retGWStat with errcode := ERR_CODE_NO_GATEWAY_STAT}
  let (retPrefix,r) := parsePrefixGw retPrefix packet
  if r≠LORA_OK then .ok ⟨retPrefix,retGWStat,[],r⟩
  else if packet.length=12 then
    .ok ⟨retPrefix,retGWStat,[],if retPrefix.tag=2 then ERR_CODE_PULLOUT else ERR_CODE_PING⟩
  else match getSemtechJSONCharPtr packet with
    | none => .error .nullPointer
    | some json =>
      match host.parseJson (cString json) with
      | some (.object members) => parseDocument host crypto identityService retPrefix retGWStat members
      | _ => .ok ⟨retPrefix,retGWStat,[],ERR_CODE_INVALID_JSON⟩

/-- A PUSH_DATA of version 2 is read as the document behind its prefix. -/
theorem parse_pushData {gw : SemtechPrefixGw} (hv : gw.version=2) (ht : gw.tag=0) {text : Bytes}
    (hne : text≠[]) {members : Members} (hj : host.parseJson (cString text)=some (.object members))
    (retPrefix : SemtechPrefixGw) (retGWStat : GatewayStat) :
    parse host crypto identityService retPrefix retGWStat (gw.toBytes++text)=
      parseDocument host crypto identityService (swapMac gw)
        {retGWStat with errcode := ERR_CODE_NO_GATEWAY_STAT} members := by
  have hl : 0<text.length := List.length_pos_iff.mpr hne
  have hlen : (gw.toBytes++text).length=12+text.length := by
    rw [List.length_append,SemtechPrefixGw.toBytes_length]
  have htag : (gw.toBytes++text).getD 3 0=0 := ht
  have hptr : getSemtechJSONCharPtr (gw.toBytes++text)=some text := by
    rw [getSemtechJSONCharPtr,hlen,if_neg (by omega),htag]
    exact congrArg some (List.drop_left' (SemtechPrefixGw.toBytes_length gw))
  unfold parse
  rw [parsePrefixGw_toBytes hv,hlen,hptr]
  dsimp only
  rw [if_neg (by decide),if_neg (by omega),hj]

end Reader

end LorawanServer.Datagram
