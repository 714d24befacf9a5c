import LorawanServer.BaseNumbers
import LorawanServer.GatewayConcentrator

/-!
# The configuration file of a gateway

`GatewayGatewayConfig`, `GatewayDebugConfig` and `GatewayConfigFileJson`: `parse`,
`toJSON` and the comparison. Numbers without a sign are read under a test for `int`.
Degrees are rationals, and the product for the timeout wraps around.
-/

namespace LorawanServer.GatewaySections

open CppRuntime Records JsonDocument Datagram IdentityText BaseNumbers GatewayFile ServerConfiguration
open GatewayConcentrator

/-- What `std::stoull` makes of the parts of a number. -/
def unsignedLong (negative : Bool) (digits : List ℕ) (magnitude : ℕ) : Except Failure UInt64 :=
  if digits=[] then .error .invalidArgument
  else if 2^64≤ magnitude then .error .outOfRange
  else .ok (if negative then -UInt64.ofNat magnitude else UInt64.ofNat magnitude)

/-- `std::stoull` in base sixteen. -/
def stoull16 (text : Bytes) : Except Failure UInt64 :=
  let (negative,unsigned) := takeSign (text.dropWhile isCSpace)
  let digits := hexDigits (skipMarker unsigned)
  unsignedLong negative digits (hexNumber digits)

/-- `std::stoull` with base zero. -/
def stoull0 (text : Bytes) : Except Failure UInt64 :=
  let n := readNumeral text
  unsignedLong n.negative n.digits n.magnitude

/-- A number in base sixteen as a stream with a width and zeros in front writes it. -/
def hexPadded (width value : ℕ) : Bytes := List.replicate (width-(hexText value).length) 48++hexText value

/-- `DEFAULT_KEEPALIVE`. -/
abbrev DEFAULT_KEEPALIVE : UInt32 := 5

/-- `DEFAULT_BEACON_POWER`. -/
abbrev DEFAULT_BEACON_POWER : UInt8 := 14

/-- `DEFAULT_BEACON_BW_HZ`. -/
abbrev DEFAULT_BEACON_BW_HZ : UInt32 := 125000

/-- `DEFAULT_BEACON_FREQ_HZ`. -/
abbrev DEFAULT_BEACON_FREQ_HZ : UInt32 := 869525000

/-- `DEFAULT_BEACON_DATARATE`. -/
abbrev DEFAULT_BEACON_DATARATE : UInt8 := 9

/-- `DEFAULT_BEACON_FREQ_NB`. -/
abbrev DEFAULT_BEACON_FREQ_NB : UInt8 := 1

/-- `timeval`. -/
structure Timeval where
  /-- Seconds. -/
  tvSec : ℤ
  /-- Microseconds. -/
  tvUsec : ℤ
  deriving DecidableEq

/-- `coord_s`. -/
structure Coord where
  /-- Latitude. -/
  lat : ℚ
  /-- Longitude. -/
  lon : ℚ
  /-- Altitude. -/
  alt : Int16

/-- The class `GatewayGatewayConfig`. -/
structure GatewayGatewayConfig where
  /-- Identifier. -/
  gatewayId : UInt64
  /-- Address of the server. -/
  serverAddr : Bytes
  /-- Path of the receiver of positions. -/
  gpsTtyPath : Bytes
  /-- Port to the server. -/
  serverPortUp : UInt16
  /-- Port from the server. -/
  serverPortDown : UInt16
  /-- Seconds between datagrams that keep the way open. -/
  keepaliveInterval : UInt32
  /-- Seconds between statistics. -/
  statInterval : UInt32
  /-- Timeout of a datagram. -/
  pushTimeoutMs : Timeval
  /-- Packets with a valid checksum are forwarded. -/
  forwardCRCValid : Bool
  /-- Packets with a wrong one are. -/
  forwardCRCError : Bool
  /-- Packets without one are. -/
  forwardCRCDisabled : Bool
  /-- There is a receiver of positions. -/
  gpsEnabled : Bool
  /-- Position. -/
  refGeoCoordinates : Coord
  /-- The position is made up. -/
  fakeGPS : Bool
  /-- Seconds between beacons. -/
  beaconPeriod : UInt32
  /-- Frequency of the beacons. -/
  beaconFreqHz : UInt32
  /-- Number of their frequencies. -/
  beaconFreqNb : UInt8
  /-- Distance of their frequencies. -/
  beaconFreqStep : UInt32
  /-- Their data rate. -/
  beaconDataRate : UInt8
  /-- Their bandwidth. -/
  beaconBandwidthHz : UInt32
  /-- Their power. -/
  beaconPower : UInt8
  /-- Their information descriptor. -/
  beaconInfoDesc : UInt8
  /-- Datagrams without an answer before the end. -/
  autoQuitThreshold : UInt32

/-- The values of a reset next to two texts. -/
def GatewayGatewayConfig.cleared (serverAddr gpsTtyPath : Bytes) : GatewayGatewayConfig where
  gatewayId := 0
  serverAddr := serverAddr
  gpsTtyPath := gpsTtyPath
  serverPortUp := 0
  serverPortDown := 0
  keepaliveInterval := 0
  statInterval := DEFAULT_KEEPALIVE
  pushTimeoutMs := ⟨0,0⟩
  forwardCRCValid := false
  forwardCRCError := false
  forwardCRCDisabled := false
  gpsEnabled := false
  refGeoCoordinates := ⟨0,0,0⟩
  fakeGPS := false
  beaconPeriod := 0
  beaconFreqHz := DEFAULT_BEACON_FREQ_HZ
  beaconFreqNb := DEFAULT_BEACON_FREQ_NB
  beaconFreqStep := 0
  beaconDataRate := DEFAULT_BEACON_DATARATE
  beaconBandwidthHz := DEFAULT_BEACON_BW_HZ
  beaconPower := DEFAULT_BEACON_POWER
  beaconInfoDesc := 0
  autoQuitThreshold := 0

/-- `GatewayGatewayConfig::reset`, which keeps the two texts. -/
def GatewayGatewayConfig.reset (c : GatewayGatewayConfig) : GatewayGatewayConfig := cleared c.serverAddr c.gpsTtyPath

/-- `GatewayGatewayConfig::GatewayGatewayConfig`. -/
def GatewayGatewayConfig.fresh : GatewayGatewayConfig := cleared [] []

/-- `GatewayGatewayConfig::parse` of the identifier. -/
def parseGatewayId (members : Members) (before : UInt64) : Except Failure UInt64 :=
  match getMember members "gateway_ID" Json.string? with
  | some text => stoull16 text
  | none => .ok before

/-- `GatewayGatewayConfig::parse` of the timeout. The product is an `int`. -/
def parsePushTimeout (members : Members) (before : Timeval) : Timeval :=
  match getMember members "push_timeout_ms" int32? with
  | some ms => ⟨0,(ms*500).toInt⟩
  | none => before

/-- `GatewayGatewayConfig::parse` of the position. -/
def parseCoord (members : Members) (before : Coord) : Coord where
  lat := readMember members "ref_latitude" Json.double? before.lat
  lon := readMember members "ref_longitude" Json.double? before.lon
  alt := readMember members "ref_altitude" signed16? before.alt

/-- `GatewayGatewayConfig::parse` behind the identifier. -/
def parseGateway (c : GatewayGatewayConfig) (gatewayId : UInt64) (members : Members) : GatewayGatewayConfig where
  gatewayId := gatewayId
  serverAddr := readMember members "server_address" Json.string? c.serverAddr
  gpsTtyPath := readMember members "gps_tty_path" Json.string? c.gpsTtyPath
  serverPortUp := readMember members "serv_port_up" unsigned16? c.serverPortUp
  serverPortDown := readMember members "serv_port_down" unsigned16? c.serverPortDown
  keepaliveInterval := readMember members "keepalive_interval" uint32? DEFAULT_KEEPALIVE
  statInterval := readMember members "stat_interval" uint32? c.statInterval
  pushTimeoutMs := parsePushTimeout members c.pushTimeoutMs
  forwardCRCValid := readMember members "forward_crc_valid" bool? c.forwardCRCValid
  forwardCRCError := readMember members "forward_crc_error" bool? c.forwardCRCError
  forwardCRCDisabled := readMember members "forward_crc_disabled" bool? c.forwardCRCDisabled
  gpsEnabled := readMember members "gps_tty_path" (fun v => v.string?.map (decide <| · ≠ [])) c.gpsEnabled
  refGeoCoordinates := parseCoord members c.refGeoCoordinates
  fakeGPS := readMember members "fake_gps" bool? c.fakeGPS
  beaconPeriod := readMember members "beacon_period" uint32? c.beaconPeriod
  beaconFreqHz := readMember members "beacon_freq_hz" uint32? DEFAULT_BEACON_FREQ_HZ
  beaconFreqNb := readMember members "beacon_freq_nb" uint8? DEFAULT_BEACON_FREQ_NB
  beaconFreqStep := readMember members "beacon_freq_step" uint32? c.beaconFreqStep
  beaconDataRate := readMember members "beacon_datarate" uint8? DEFAULT_BEACON_DATARATE
  beaconBandwidthHz := readMember members "beacon_bw_hz" uint32? DEFAULT_BEACON_BW_HZ
  beaconPower := readMember members "beacon_power" uint8? DEFAULT_BEACON_POWER
  beaconInfoDesc := readMember members "beacon_infodesc" uint8? c.beaconInfoDesc
  autoQuitThreshold := readMember members "autoquit_threshold" uint32? c.autoQuitThreshold

/-- `GatewayGatewayConfig::parse`, which starts with a reset. -/
def GatewayGatewayConfig.parse (c : GatewayGatewayConfig) : Json → Except Failure (GatewayGatewayConfig×ℤ)
  | .object members => do
    let gatewayId ← parseGatewayId members c.reset.gatewayId
    return (parseGateway c.reset gatewayId members,LORA_OK)
  | _ => .error .notObject

/-- The members of `GatewayGatewayConfig::toJSON`. -/
def GatewayGatewayConfig.members (c : GatewayGatewayConfig) : Members :=
  [(ascii "gateway_ID",.string (hexPadded 16 c.gatewayId.toNat)),
  (ascii "server_address",.string c.serverAddr),
  (ascii "serv_port_up",.int c.serverPortUp.toNat),
  (ascii "serv_port_down",.int c.serverPortDown.toNat),
  (ascii "keepalive_interval",.int c.keepaliveInterval.toNat),
  (ascii "stat_interval",.int c.statInterval.toNat),
  (ascii "push_timeout_ms",.int (UInt32.ofInt (c.pushTimeoutMs.tvUsec.tdiv 500)).toNat),
  (ascii "forward_crc_valid",.bool c.forwardCRCValid),
  (ascii "forward_crc_error",.bool c.forwardCRCError),
  (ascii "forward_crc_disabled",.bool c.forwardCRCDisabled),
  (ascii "gps_tty_path",.string c.gpsTtyPath),
  (ascii "ref_latitude",.double c.refGeoCoordinates.lat),
  (ascii "ref_longitude",.double c.refGeoCoordinates.lon),
  (ascii "ref_altitude",.int c.refGeoCoordinates.alt.toInt),
  (ascii "fake_gps",.bool c.fakeGPS),
  (ascii "beacon_period",.int c.beaconPeriod.toNat),
  (ascii "beacon_freq_hz",.int c.beaconFreqHz.toNat),
  (ascii "beacon_freq_nb",.int c.beaconFreqNb.toNat),
  (ascii "beacon_freq_step",.int c.beaconFreqStep.toNat),
  (ascii "beacon_datarate",.int c.beaconDataRate.toNat),
  (ascii "beacon_bw_hz",.int c.beaconBandwidthHz.toNat),
  (ascii "beacon_power",.int c.beaconPower.toNat),
  (ascii "beacon_infodesc",.int c.beaconInfoDesc.toNat),
  (ascii "autoquit_threshold",.int c.autoQuitThreshold.toNat)]

/-- The comparison of positions: degrees to five places. -/
def Coord.equal (c b : Coord) : Bool :=
  |c.lat-b.lat|<1/100000 && |c.lon-b.lon|<1/100000 && |c.alt.toInt-b.alt.toInt|=0

/-- `GatewayGatewayConfig::operator==`, which does not compare `gpsEnabled`. -/
def GatewayGatewayConfig.equal (c b : GatewayGatewayConfig) : Bool :=
  c.gatewayId=b.gatewayId && c.serverAddr=b.serverAddr && c.serverPortUp=b.serverPortUp &&
    c.serverPortDown=b.serverPortDown && c.keepaliveInterval=b.keepaliveInterval && c.statInterval=b.statInterval &&
    c.pushTimeoutMs=b.pushTimeoutMs && c.forwardCRCValid=b.forwardCRCValid && c.forwardCRCError=b.forwardCRCError &&
    c.forwardCRCDisabled=b.forwardCRCDisabled && c.gpsTtyPath=b.gpsTtyPath &&
    c.refGeoCoordinates.equal b.refGeoCoordinates && c.fakeGPS=b.fakeGPS && c.beaconPeriod=b.beaconPeriod &&
    c.beaconFreqHz=b.beaconFreqHz && c.beaconFreqNb=b.beaconFreqNb && c.beaconFreqStep=b.beaconFreqStep &&
    c.beaconDataRate=b.beaconDataRate && c.beaconBandwidthHz=b.beaconBandwidthHz && c.beaconPower=b.beaconPower &&
    c.beaconInfoDesc=b.beaconInfoDesc && c.autoQuitThreshold=b.autoQuitThreshold

/-- The size of the array of the reference payloads. -/
abbrev REF_PAYLOAD_SIZE : UInt8 := 16

/-- `lgw_conf_debug_s` in the class `GatewayDebugConfig`. Of a reference payload its
identifier is kept; nothing writes the rest. -/
structure GatewayDebugConfig where
  /-- Number of reference payloads. -/
  nbRefPayload : UInt8
  /-- Identifiers of the array of the reference payloads. -/
  refPayload : List UInt32
  /-- Name of the log. -/
  logFileName : Bytes
  deriving DecidableEq

/-- `GatewayDebugConfig::reset`. -/
def GatewayDebugConfig.reset : GatewayDebugConfig := ⟨0,List.replicate REF_PAYLOAD_SIZE.toNat 0,[]⟩

/-- `GatewayDebugConfig::parse` of one reference payload. -/
def refPayloadId (item : Json) : Except Failure (Option UInt32) :=
  match getMember ((object? item).getD []) "id" Json.string? with
  | some text => (stoull0 text).map fun id => some (UInt32.ofNat id.toNat)
  | none => .ok none

/-- The number of reference payloads for a number of items, which is narrowed to a byte first. -/
def refPayloadCount (size : ℕ) : UInt8 :=
  if REF_PAYLOAD_SIZE<UInt8.ofNat size then REF_PAYLOAD_SIZE else UInt8.ofNat size

/-- `GatewayDebugConfig::parse` of the reference payloads. -/
def parseRefPayload (c : GatewayDebugConfig) (items : List Json) : Except Failure GatewayDebugConfig := do
  let nbRefPayload := refPayloadCount items.length
  let ids ← (items.take nbRefPayload.toNat).mapM refPayloadId
  return {c with
    nbRefPayload := nbRefPayload
    refPayload := assignItems (fun before id => id.getD before) c.refPayload ids}

/-- `GatewayDebugConfig::parse`, which starts with a reset. -/
def GatewayDebugConfig.parse : Json → Except Failure (GatewayDebugConfig×ℤ)
  | .object members =>
    let c := {GatewayDebugConfig.reset with logFileName := readMember members "log_file" (path? 128) []}
    match getMember members "ref_payload" array? with
    | some items => (parseRefPayload c items).map fun c => (c,LORA_OK)
    | none => .ok (c,LORA_OK)
  | _ => .error .notObject

/-- The members of `GatewayDebugConfig::toJSON`. -/
def GatewayDebugConfig.members (c : GatewayDebugConfig) : Members :=
  [(ascii "ref_payload",.array ((c.refPayload.take c.nbRefPayload.toNat).map fun id =>
    .object [(ascii "id",.string (ascii "0x"++hexPadded 8 id.toNat))])),
  (ascii "log_file",.string (cString c.logFileName))]

/-- The class `GatewayConfigFileJson`. -/
structure GatewayConfigFileJson where
  /-- The concentrator. -/
  sx130xConf : GatewaySX130xConfig
  /-- The gateway. -/
  gatewayConf : GatewayGatewayConfig
  /-- What helps to find errors. -/
  debugConf : GatewayDebugConfig

/-- `GatewayConfigFileJson::GatewayConfigFileJson`. -/
def GatewayConfigFileJson.fresh : GatewayConfigFileJson := ⟨.reset,.fresh,.reset⟩

/-- A section behind its name, else what was there before with the code of success. -/
def readSection {α : Type} (members : Members) (name : String) (parse : Json → Except Failure (α×ℤ))
    (before : α) : Except Failure (α×ℤ) :=
  match members.lookup (ascii name) with
  | some value => parse value
  | none => .ok (before,0)

/-- `GatewayConfigFileJson::parse`. A section with an error is the last one that is read. -/
def GatewayConfigFileJson.parse (undefinedBits : Json → UInt8) (c : GatewayConfigFileJson) :
    Json → Except Failure (GatewayConfigFileJson×ℤ)
  | .object members => do
    let (sx130xConf,r) ← readSection members "SX130x_conf" (GatewaySX130xConfig.parse undefinedBits) c.sx130xConf
    let c := {c with sx130xConf := sx130xConf}
    if r≠0 then return (c,r)
    let (gatewayConf,r) ← readSection members "gateway_conf" c.gatewayConf.parse c.gatewayConf
    let c := {c with gatewayConf := gatewayConf}
    if r≠0 then return (c,r)
    let (debugConf,r) ← readSection members "debug_conf" GatewayDebugConfig.parse c.debugConf
    return ({c with debugConf := debugConf},r)
  | _ => .error .notObject

/-- `GatewayConfigFileJson::toJSON`. -/
def GatewayConfigFileJson.toJSON (c : GatewayConfigFileJson) : Json :=
  .object [(ascii "SX130x_conf",.object c.sx130xConf.members),
    (ascii "gateway_conf",.object c.gatewayConf.members),
    (ascii "debug_conf",.object c.debugConf.members)]

/-- `GatewayConfigFileJson::operator==`. -/
def GatewayConfigFileJson.equal (c b : GatewayConfigFileJson) : Bool :=
  c.sx130xConf.equal b.sx130xConf && c.gatewayConf.equal b.gatewayConf && c.debugConf=b.debugConf

end LorawanServer.GatewaySections
