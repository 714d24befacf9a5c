import LorawanServer.DeviceAddress
import LorawanServer.GatewayFile

/-!
# The configuration of the server

`Configuration::toString` and `parse` with the parts for the server and for the web
service. The loop over the values of a parameter moves the iterator of the loop
around it, and the name of the channel plan is written into a value that is no
longer used. The configuration of the embedded gateway, which is another file, is
left out.
-/

namespace LorawanServer.ServerConfiguration

open CppRuntime Records JsonDocument Datagram DeviceAddress IdentityText GatewayFile

/-- `IDENTITY_STORAGE`. -/
inductive IdentityStorage where
  /-- `IDENTITY_STORAGE_FILE_JSON`. -/
  | fileJson
  /-- `IDENTITY_STORAGE_DIR_TEXT`. -/
  | dirText
  /-- `IDENTITY_STORAGE_LMDB`. -/
  | lmdb
  deriving DecidableEq

/-- `GW_STAT_STORAGE`. -/
inductive GwStatStorage where
  /-- `GW_STAT_NONE`. -/
  | none
  /-- `GW_STAT_FILE_JSON`. -/
  | fileJson
  /-- `GW_STAT_POST`. -/
  | post
  deriving DecidableEq

/-- `DEVICE_STAT_STORAGE`. -/
inductive DeviceStatStorage where
  /-- `DEVICE_STAT_NONE`. -/
  | none
  /-- `DEVICE_STAT_FILE_JSON`. -/
  | fileJson
  /-- `DEVICE_STAT_FILE_CSV`. -/
  | fileCsv
  /-- `DEVICE_STAT_POST`. -/
  | post
  deriving DecidableEq

/-- `MESSAGE_QUEUE_STORAGE`. -/
inductive MessageQueueStorage where
  /-- `MESSAGE_QUEUE_STORAGE_JSON`. -/
  | json
  /-- `MESSAGE_QUEUE_STORAGE_DIR_TEXT`. -/
  | dirText
  /-- `MESSAGE_QUEUE_STORAGE_LMDB`. -/
  | lmdb
  deriving DecidableEq

/-- `storageType2String`. -/
def storageType2String : IdentityStorage → Bytes
  | .dirText => ascii "txt"
  | .lmdb => ascii "lmdb"
  | .fileJson => ascii "json"

/-- `string2storageType`. -/
def string2storageType (value : Bytes) : IdentityStorage :=
  if value=ascii "txt" then .dirText else if value=ascii "lmdb" then .lmdb else .fileJson

/-- `gwStatStorageType2String`. -/
def gwStatStorageType2String : GwStatStorage → Bytes
  | .fileJson => ascii "file"
  | .post => ascii "post"
  | .none => []

/-- `string2gwStatStorageType`. -/
def string2gwStatStorageType (value : Bytes) : GwStatStorage :=
  if value=ascii "file" then .fileJson else if value=ascii "post" then .post else .none

/-- `deviceStatStorageType2String`. -/
def deviceStatStorageType2String : DeviceStatStorage → Bytes
  | .fileJson => ascii "json"
  | .fileCsv => ascii "csv"
  | .post => ascii "post"
  | .none => ascii "none"

/-- `string2deviceStatStorageType`. -/
def string2deviceStatStorageType (value : Bytes) : DeviceStatStorage :=
  if value=ascii "json" then .fileJson
  else if value=ascii "csv" then .fileCsv
  else if value=ascii "post" then .post
  else .none

/-- `messageQueueStorageType2String`. -/
def messageQueueStorageType2String : MessageQueueStorage → Bytes
  | .dirText => ascii "txt"
  | .lmdb => ascii "lmdb"
  | .json => ascii "json"

/-- `string2messageQueueStorageType`. -/
def string2messageQueueStorageType (value : Bytes) : MessageQueueStorage :=
  if value=ascii "txt" then .dirText else if value=ascii "lmdb" then .lmdb else .json

/-- The names of the formats of a directory as `ServerConfig::toJson` writes them. -/
def messageQueueDirFormat2String (value : Int32) : Bytes :=
  if value=1 then ascii "hex" else if value=2 then ascii "base64" else ascii "bin"

/-- `string2messageQueueDirFormat`. -/
def string2messageQueueDirFormat (value : Bytes) : Int32 :=
  if value=ascii "hex" then 1 else if value=ascii "base64" then 2 else 0

/-- `int2NETID`. -/
def int2NETID (value : UInt32) : NETID :=
  #v[UInt8.ofNat value.toNat,UInt8.ofNat (value.toNat/2^8),UInt8.ofNat (value.toNat/2^16)]

/-- `NetId::toString`. -/
def NetId.toString (netid : NETID) : Bytes := hexText (NETID2int netid).toNat

/-- What a stream in base sixteen reads into an `unsigned`. -/
def extractHex (text : Bytes) : UInt32 :=
  let (negative,unsigned) := takeSign (text.dropWhile isCSpace)
  let magnitude := hexNumber (hexDigits (skipMarker unsigned))
  if 2^32≤ magnitude then 0xffffffff else if negative then -UInt32.ofNat magnitude else UInt32.ofNat magnitude

/-- `NetId::set` of a text. -/
def NetId.ofString (value : Bytes) : NETID := int2NETID (extractHex value)

/-- The default size of the buffer. -/
abbrev DEF_BUFFER_SIZE : Int32 := 4096

/-- The default port of the web service. -/
abbrev DEF_WS_PORT : Int32 := 5002

/-- The class `ServerConfig`. -/
@[ext] structure ServerConfig where
  /-- IPv4 addresses. -/
  listenAddressIPv4 : List Bytes
  /-- IPv6 addresses. -/
  listenAddressIPv6 : List Bytes
  /-- Size of the read buffer. -/
  readBufferSize : Int32
  /-- Verbosity. -/
  verbosity : Int32
  /-- Port of the remote control, zero for none. -/
  controlFPort : UInt8
  /-- Run as a daemon. -/
  daemonize : Bool
  /-- Identities. -/
  identityStorageName : Bytes
  /-- Queue. -/
  queueStorageName : Bytes
  /-- Device history. -/
  deviceHistoryStorageName : Bytes
  /-- Regional settings. -/
  regionalSettingsStorageName : Bytes
  /-- Channel plan. -/
  regionalSettingsChannelPlanName : Bytes
  /-- Kind of the identity storage. -/
  storageType : IdentityStorage
  /-- Kind of the gateway statistics. -/
  gwStatStorageType : GwStatStorage
  /-- Kind of the device statistics. -/
  deviceStatStorageType : DeviceStatStorage
  /-- Kind of the queue. -/
  messageQueueType : MessageQueueStorage
  /-- Format of a queue in a directory: binary, hexadecimal, base 64. -/
  messageQueueDirFormat : Int32
  /-- File of the gateway statistics. -/
  logGWStatisticsFileName : Bytes
  /-- File of the device statistics. -/
  logDeviceStatisticsFileName : Bytes
  /-- Network identifier. -/
  netid : NETID

/-- `ServerConfig::ServerConfig`. -/
def ServerConfig.fresh : ServerConfig :=
  ⟨[],[],DEF_BUFFER_SIZE,0,0,false,[],[],[],[],[],.fileJson,.none,.none,.json,0,[],[],#v[0,0,0]⟩

/-- The class `WebServiceConfig`. -/
@[ext] structure WebServiceConfig where
  /-- The service is on. -/
  enabled : Bool
  /-- Its port. -/
  port : Int32
  /-- Root directory. -/
  html : Bytes
  /-- Database without a name. -/
  defaultDatabase : Bytes
  /-- Named databases. -/
  databases : List Bytes
  /-- Number of threads. -/
  threadCount : Int32
  /-- Number of connections. -/
  connectionLimit : Int32
  /-- Flags of the service. -/
  flags : UInt32
  /-- Issuer of the tokens. -/
  jwtIssuer : Bytes
  /-- Secret of the tokens. -/
  jwtSecret : Bytes
  /-- File of the passwords. -/
  userPasswordListFileName : Bytes

/-- `WebServiceConfig::WebServiceConfig`. -/
def WebServiceConfig.fresh : WebServiceConfig := ⟨true,DEF_WS_PORT,[],[],[],2,1024,0,[],[],[]⟩

/-- The class `Configuration`. -/
structure Configuration where
  /-- Name of the configuration file. -/
  configFileName : Bytes
  /-- Name of the file of the gateways. -/
  gatewaysFileName : Bytes
  /-- Name of the file of the databases. -/
  databaseConfigFileName : Bytes
  /-- Directory of the plugins. -/
  pluginsPath : Bytes
  /-- Parameters of the plugins, each with its values. -/
  pluginsParams : Std.TreeMap Bytes (List Bytes)
  /-- Port of the gateways. -/
  gatewayPort : Int32
  /-- The server. -/
  serverConfig : ServerConfig
  /-- The web service. -/
  wsConfig : WebServiceConfig

/-- `Configuration::Configuration`. -/
def Configuration.fresh : Configuration := ⟨[],[],[],[],∅,4242,.fresh,.fresh⟩

/-- The members of `ServerConfig::toJson`. The value of the channel plan is never set. -/
def ServerConfig.members (c : ServerConfig) : Members :=
  [(ascii "listenAddressIPv4",.array (c.listenAddressIPv4.map .string)),
  (ascii "listenAddressIPv6",.array (c.listenAddressIPv6.map .string)),
  (ascii "identityStorageName",.string c.identityStorageName),
  (ascii "deviceHistoryStorageName",.string c.deviceHistoryStorageName),
  (ascii "regionalSettingsStorageName",.string c.regionalSettingsStorageName),
  (ascii "regionalSettingsChannelPlanName",.null),
  (ascii "queueStorageName",.string c.queueStorageName),
  (ascii "readBufferSize",.int c.readBufferSize.toInt),
  (ascii "verbosity",.int c.verbosity.toInt),
  (ascii "controlFPort",.int c.controlFPort.toNat),
  (ascii "daemonize",.bool c.daemonize),
  (ascii "storageType",.string (storageType2String c.storageType)),
  (ascii "gwStatStorageType",.string (gwStatStorageType2String c.gwStatStorageType)),
  (ascii "logGWStatisticsFileName",.string c.logGWStatisticsFileName),
  (ascii "deviceStatStorageType",.string (deviceStatStorageType2String c.deviceStatStorageType)),
  (ascii "logDeviceStatisticsFileName",.string c.logDeviceStatisticsFileName),
  (ascii "messageQueueStorageType",.string (messageQueueStorageType2String c.messageQueueType)),
  (ascii "messageQueueDirFormat",.string (messageQueueDirFormat2String c.messageQueueDirFormat)),
  (ascii "netId",.string (NetId.toString c.netid))]

/-- The members of `WebServiceConfig::toJson`. The flags are written as an `int`. -/
def WebServiceConfig.members (c : WebServiceConfig) : Members :=
  [(ascii "enabled",.bool c.enabled),
  (ascii "port",.int c.port.toInt),
  (ascii "html",.string c.html),
  (ascii "defaultDatabase",.string c.defaultDatabase),
  (ascii "databases",.array (c.databases.map .string)),
  (ascii "threadCount",.int c.threadCount.toInt),
  (ascii "connectionLimit",.int c.connectionLimit.toInt),
  (ascii "flags",.int c.flags.toInt32.toInt),
  (ascii "issuer",.string c.jwtIssuer),
  (ascii "secret",.string c.jwtSecret),
  (ascii "userListFileName",.string c.userPasswordListFileName)]

/-- The inner loop of `Configuration::toString`: it writes one value for each entry
that is left, because what it moves is the iterator of the entries. The iterator of
the values stays in front of the first one, which is never the end of the values of
another entry, and behind the last entry there is none to ask. -/
def writeValues (value : Bytes) : List (Bytes×List Bytes) → List Json → Except Fault (List Json)
  | [],_ => .error .readOutside
  | _::rest,items => writeValues value rest (items++[.string value])

/-- The outer loop of `Configuration::toString`. -/
def writeParams : List (Bytes×List Bytes) → List Json → Except Fault (List Json)
  | [],params => .ok params
  | (name,[])::rest,params => writeParams rest (params++[.array [.string name]])
  | (name,value::values)::rest,_ => writeValues value ((name,value::values)::rest) [.string name]

/-- The members of the document of `Configuration::toString`. -/
def Configuration.members (c : Configuration) (params : List Json) : Members :=
  [(ascii "configFileName",.string c.configFileName),
  (ascii "gatewaysFileName",.string c.gatewaysFileName),
  (ascii "server",.object c.serverConfig.members),
  (ascii "ws",.object c.wsConfig.members),
  (ascii "databaseConfigFileName",.string c.databaseConfigFileName),
  (ascii "pluginsParams",.array params),
  (ascii "pluginsPath",.string c.pluginsPath),
  (ascii "gatewayPort",.int c.gatewayPort.toInt)]

/-- The document of `Configuration::toString`. -/
def Configuration.document (c : Configuration) : Except Fault Json := do
  let params ← writeParams c.pluginsParams.toList []
  return .object (c.members params)

/-- `Configuration::toString`. The writer of the library is an argument. -/
def Configuration.toString (accept : Json → Bytes) (c : Configuration) : Except Fault Bytes := do
  let document ← c.document
  return cString (accept document)

/-- The strings of an array. -/
def strings? : Json → Option (List Bytes)
  | .array items => some (items.filterMap Json.string?)
  | _ => none

/-- The value of a literal. -/
def bool? : Json → Option Bool
  | .bool value => some value
  | _ => none

/-- The value of an integer as an `int`. -/
def int32? (value : Json) : Option Int32 := value.int?.map Int32.ofInt

/-- The value of an integer of the type `int` as a byte. -/
def uint8? (value : Json) : Option UInt8 := value.int?.map UInt8.ofInt

/-- The value of an integer of the type `int` as an `unsigned`. -/
def uint32? (value : Json) : Option UInt32 := value.int?.map UInt32.ofInt

/-- The value of a member, if it is there with the wanted type, else what was there before. -/
def readMember {α : Type} (members : Members) (name : String) (get : Json → Option α) (before : α) : α :=
  (getMember members name get).getD before

/-- `ServerConfig::parse` of the size of the buffer, which is checked also when it is no number. -/
def parseBufferSize (members : Members) (before : Int32) : Int32 :=
  match members.lookup (ascii "readBufferSize") with
  | some value =>
    let size := (int32? value).getD before
    if size≤0 then DEF_BUFFER_SIZE else size
  | none => before

/-- `ServerConfig::parse` of the format of a directory: a name or a number. -/
def parseDirFormat (members : Members) (before : Int32) : Int32 :=
  let format := ((getMember members "messageQueueDirFormat" Json.string?).map string2messageQueueDirFormat).getD before
  ((getMember members "messageQueueDirFormat" int32?).map (·&&&3)).getD format

/-- `ServerConfig::parse` of the network identifier. A number that is no `int` fails an assertion. -/
def parseNetId (members : Members) (before : NETID) : Except Fault NETID :=
  match members.lookup (ascii "netId") with
  | some (.string text) => .ok (NetId.ofString (cString text))
  | some (.int value) =>
    match Json.int? (.int value) with
    | some value => .ok (int2NETID (UInt32.ofInt value))
    | none => .error .assertion
  | some (.double _) => .error .assertion
  | _ => .ok before

/-- `ServerConfig::parse`. -/
def ServerConfig.parse (c : ServerConfig) : Json → Except Fault (ServerConfig×ℤ)
  | .object members => do
    let netid ← parseNetId members c.netid
    let parsed : ServerConfig := {
      listenAddressIPv4 := c.listenAddressIPv4++readMember members "listenAddressIPv4" strings? []
      listenAddressIPv6 := c.listenAddressIPv6++readMember members "listenAddressIPv6" strings? []
      identityStorageName := readMember members "identityStorageName" Json.string? c.identityStorageName
      deviceHistoryStorageName := readMember members "deviceHistoryStorageName" Json.string? c.deviceHistoryStorageName
      regionalSettingsStorageName :=
        readMember members "regionalSettingsStorageName" Json.string? c.regionalSettingsStorageName
      regionalSettingsChannelPlanName :=
        readMember members "regionalSettingsChannelPlanName" Json.string? c.regionalSettingsChannelPlanName
      queueStorageName := readMember members "queueStorageName" Json.string? c.queueStorageName
      readBufferSize := parseBufferSize members c.readBufferSize
      verbosity := readMember members "verbosity" int32? c.verbosity
      controlFPort := readMember members "controlFPort" uint8? c.controlFPort
      daemonize := readMember members "daemonize" bool? c.daemonize
      storageType := readMember members "storageType" (fun v => v.string?.map string2storageType) c.storageType
      gwStatStorageType :=
        readMember members "gwStatStorageType" (fun v => v.string?.map string2gwStatStorageType) c.gwStatStorageType
      deviceStatStorageType :=
        readMember members "deviceStatStorageType" (fun v => v.string?.map string2deviceStatStorageType)
          c.deviceStatStorageType
      messageQueueType :=
        readMember members "messageQueueStorageType" (fun v => v.string?.map string2messageQueueStorageType)
          c.messageQueueType
      messageQueueDirFormat := parseDirFormat members c.messageQueueDirFormat
      logGWStatisticsFileName := readMember members "logGWStatisticsFileName" Json.string? c.logGWStatisticsFileName
      logDeviceStatisticsFileName :=
        readMember members "logDeviceStatisticsFileName" Json.string? c.logDeviceStatisticsFileName
      netid := netid}
    return (parsed,LORA_OK)
  | _ => .error .assertion

/-- `WebServiceConfig::parse`: what is not there has its default. -/
def WebServiceConfig.parse : Json → Except Fault (WebServiceConfig×ℤ)
  | .object members =>
    let parsed : WebServiceConfig := {
      enabled := readMember members "enabled" bool? true
      port := readMember members "port" int32? DEF_WS_PORT
      html := readMember members "html" Json.string? []
      defaultDatabase := readMember members "defaultDatabase" Json.string? []
      databases := readMember members "databases" strings? []
      threadCount := readMember members "threadCount" int32? 2
      connectionLimit := readMember members "connectionLimit" int32? 1024
      flags := readMember members "flags" uint32? 0
      jwtIssuer := readMember members "issuer" Json.string? []
      jwtSecret := readMember members "secret" Json.string? []
      userPasswordListFileName := readMember members "userListFileName" Json.string? []}
    .ok (parsed,LORA_OK)
  | _ => .error .assertion

/-- One item of the parameters: a name and its values, which are added to those it has. -/
def parseParam (params : Std.TreeMap Bytes (List Bytes)) : Json → Except Fault (Std.TreeMap Bytes (List Bytes))
  | .array [] => .error .assertion
  | .array (name::values) =>
    let pn := name.string?.getD []
    .ok ((values.filterMap Json.string?).foldl (fun params pv => params.insert pn ((params[pn]?.getD [])++[pv])) params)
  | _ => .ok params

/-- The items of the parameters. -/
def parseParams : Std.TreeMap Bytes (List Bytes) → List Json → Except Fault (Std.TreeMap Bytes (List Bytes))
  | params,[] => .ok params
  | params,item::rest => do
    let params ← parseParam params item
    parseParams params rest

/-- `Configuration::parse` of the part for the server. -/
def parseServer (members : Members) (before : ServerConfig) : Except Fault ServerConfig :=
  match members.lookup (ascii "server") with
  | some server => (before.parse server).map Prod.fst
  | none => .ok before

/-- `Configuration::parse` of the part for the web service, which is off when it is not there. -/
def parseWs (members : Members) (before : WebServiceConfig) : Except Fault WebServiceConfig :=
  match members.lookup (ascii "ws") with
  | some ws => (WebServiceConfig.parse ws).map Prod.fst
  | none => .ok {before with enabled := false}

/-- `Configuration::parse` of the parameters of the plugins. -/
def parsePluginsParams (members : Members) (before : Std.TreeMap Bytes (List Bytes)) :
    Except Fault (Std.TreeMap Bytes (List Bytes)) :=
  match members.lookup (ascii "pluginsParams") with
  | some (.array items) => parseParams before items
  | _ => .ok before

/-- `Configuration::parse` of a document. -/
def Configuration.parseDocument (c : Configuration) : Json → Except Fault (Configuration×ℤ)
  | .object members => do
    let serverConfig ← parseServer members c.serverConfig
    let wsConfig ← parseWs members c.wsConfig
    let pluginsParams ← parsePluginsParams members c.pluginsParams
    let parsed : Configuration := {
      configFileName := readMember members "configFileName" Json.string? c.configFileName
      gatewaysFileName := readMember members "gatewaysFileName" Json.string? c.gatewaysFileName
      databaseConfigFileName := readMember members "databaseConfigFileName" Json.string? c.databaseConfigFileName
      pluginsPath := readMember members "pluginsPath" Json.string? c.pluginsPath
      pluginsParams := pluginsParams
      gatewayPort := readMember members "gatewayPort" int32? 4242
      serverConfig := serverConfig
      wsConfig := wsConfig}
    return (parsed,LORA_OK)
  | _ => .ok ({c with gatewayPort := 4242},ERR_CODE_INVALID_JSON)

/-- `Configuration::parse`. A text with an error is no object. -/
def Configuration.parse (host : Host) (c : Configuration) (json : Bytes) : Except Fault (Configuration×ℤ) :=
  c.parseDocument ((host.parseJson (cString json)).getD .null)

/-- Two configurations have the same members. -/
structure Same (restored c : Configuration) : Prop where
  /-- Name of the configuration file. -/
  configFileName : restored.configFileName=c.configFileName
  /-- Name of the file of the gateways. -/
  gatewaysFileName : restored.gatewaysFileName=c.gatewaysFileName
  /-- Name of the file of the databases. -/
  databaseConfigFileName : restored.databaseConfigFileName=c.databaseConfigFileName
  /-- Directory of the plugins. -/
  pluginsPath : restored.pluginsPath=c.pluginsPath
  /-- Parameters of the plugins. -/
  pluginsParams : ∀ name : Bytes,restored.pluginsParams[name]?=c.pluginsParams[name]?
  /-- Port of the gateways. -/
  gatewayPort : restored.gatewayPort=c.gatewayPort
  /-- The server. -/
  serverConfig : restored.serverConfig=c.serverConfig
  /-- The web service. -/
  wsConfig : restored.wsConfig=c.wsConfig

/-- The text of a configuration is there, and a fresh one that reads it has the same members. -/
def Restores (host : Host) (accept : Json → Bytes) (c : Configuration) : Prop :=
  ∃ text restored,c.toString accept=.ok text ∧ Configuration.fresh.parse host text=.ok (restored,LORA_OK) ∧ Same restored c

/-- The configurations in question: a buffer, a format of a directory, and a value for every parameter. -/
structure Proper (c : Configuration) : Prop where
  /-- There is a buffer. -/
  readBufferSize : 0<c.serverConfig.readBufferSize
  /-- The format is binary, hexadecimal or base 64. -/
  messageQueueDirFormat : c.serverConfig.messageQueueDirFormat∈[(0 : Int32),1,2]
  /-- No parameter is without values. -/
  pluginsParams : ∀ entry∈c.pluginsParams.toList,entry.2≠[]

/-- The texts of the configuration. -/
def Configuration.texts (c : Configuration) : List Bytes :=
  [c.configFileName,c.gatewaysFileName,c.databaseConfigFileName,c.pluginsPath,
    c.serverConfig.identityStorageName,c.serverConfig.queueStorageName,c.serverConfig.deviceHistoryStorageName,
    c.serverConfig.regionalSettingsStorageName,c.serverConfig.logGWStatisticsFileName,
    c.serverConfig.logDeviceStatisticsFileName,c.wsConfig.html,c.wsConfig.defaultDatabase,c.wsConfig.jwtIssuer,
    c.wsConfig.jwtSecret,c.wsConfig.userPasswordListFileName]++
  (c.serverConfig.listenAddressIPv4++c.serverConfig.listenAddressIPv6++c.wsConfig.databases)

/-- A configuration without parameters of plugins and without a channel plan, no text of which has a zero byte. -/
structure Plain (c : Configuration) : Prop where
  /-- There are no parameters. -/
  pluginsParams : c.pluginsParams.toList=[]
  /-- No channel plan is named. -/
  regionalSettingsChannelPlanName : c.serverConfig.regionalSettingsChannelPlanName=[]
  /-- The texts are C strings. -/
  texts : ∀ text∈c.texts,0∉text

/-- The inner loop never returns. -/
theorem writeValues_fault (value : Bytes) (entries : List (Bytes×List Bytes)) (items : List Json) :
    writeValues value entries items=.error .readOutside := by
  induction entries generalizing items with
  | nil => rfl
  | cons entry rest ih => exact ih _

/-- The writer does not return with a parameter that has a value. -/
theorem writeParams_fault {entries : List (Bytes×List Bytes)} (hne : entries≠[]) (hvalues : ∀ entry∈entries,entry.2≠[])
    (params : List Json) : writeParams entries params=.error .readOutside := by
  cases entries with
  | nil => exact absurd rfl hne
  | cons entry rest =>
    obtain ⟨name,values⟩ := entry
    cases values with
    | nil => exact absurd rfl (hvalues _ List.mem_cons_self)
    | cons value values => exact writeValues_fault value _ _

/-- The bytes of a network identifier come back from its number. -/
theorem int2NETID_NETID2int (netid : NETID) : int2NETID (NETID2int netid)=netid := by
  have h0 := netid[0].toNat_lt
  have h1 := netid[1].toNat_lt
  have h2 := netid[2].toNat_lt
  have hvalue : (NETID2int netid).toNat=netid[0].toNat+netid[1].toNat*2^8+netid[2].toNat*2^16 := by
    rw [NETID2int,UInt32.toNat_ofNat']
    omega
  have hbyte {byte : UInt8} {number : ℕ} (h : number%2^8=byte.toNat) : UInt8.ofNat number=byte :=
    UInt8.toNat_inj.mp (by rw [UInt8.toNat_ofNat',h])
  have hfirst : UInt8.ofNat (NETID2int netid).toNat=netid[0] := hbyte (by omega)
  have hsecond : UInt8.ofNat ((NETID2int netid).toNat/2^8)=netid[1] := hbyte (by omega)
  have hthird : UInt8.ofNat ((NETID2int netid).toNat/2^16)=netid[2] := hbyte (by omega)
  refine Vector.ext fun i hi => ?_
  rcases i with _|_|_|i
  · exact hfirst
  · exact hsecond
  · exact hthird
  · omega

/-- The number of a network identifier is read back. -/
theorem extractHex_toString (netid : NETID) : extractHex (NetId.toString netid)=NETID2int netid := by
  have hlt := (NETID2int netid).toNat_lt
  have hdigits : ∀ digit∈(Nat.digits 16 (NETID2int netid).toNat).reverse,digit<16 :=
    fun digit hd => Nat.digits_lt_base (by omega) (List.mem_reverse.mp hd)
  by_cases hzero : (NETID2int netid).toNat=0
  · have hdigit : extractHex [48]=0 := by decide +kernel
    rw [NetId.toString,hexText,if_pos hzero,hdigit]
    exact UInt32.toNat_inj.mp hzero.symm
  · rw [NetId.toString,hexText,if_neg hzero,extractHex,takeSign_hexChar hdigits]
    dsimp only
    rw [skipMarker_hexChar hdigits,hexDigits_hexChar hdigits,hexNumber_reverse,Nat.ofDigits_digits,
      if_neg (Nat.not_le.mpr hlt),if_neg Bool.false_ne_true,UInt32.ofNat_toNat]

/-- A network identifier is read back. -/
theorem NetId.ofString_toString (netid : NETID) : NetId.ofString (NetId.toString netid)=netid := by
  rw [NetId.ofString,extractHex_toString,int2NETID_NETID2int]

section Reading

variable {members : Members} {name : String}

/-- A member of the wanted type is read. -/
theorem readMember_eq {α : Type} {get : Json → Option α} {value : Json} {v : α}
    (h : members.lookup (ascii name)=some value) (hget : get value=some v) (before : α) :
    readMember members name get before=v := by
  rw [readMember,getMember,h,Option.bind_some,hget,Option.getD_some]

/-- A literal is read. -/
theorem readMember_bool {value : Bool} (h : members.lookup (ascii name)=some (.bool value)) (before : Bool) :
    readMember members name bool? before=value := readMember_eq h (show bool? (.bool value)=some value from rfl) before

/-- A string is read up to its zero byte. -/
theorem readMember_string {text : Bytes} (h : members.lookup (ascii name)=some (.string text)) (before : Bytes) :
    readMember members name Json.string? before=cString text :=
  readMember_eq h (show Json.string? (.string text)=some (cString text) from rfl) before

/-- The name of a kind of storage is read. -/
theorem readMember_kind {κ : Type} {text : Bytes} (h : members.lookup (ascii name)=some (.string text)) (kind : Bytes → κ)
    (before : κ) : readMember members name (fun v => v.string?.map kind) before=kind (cString text) := by
  rw [readMember,getMember,h]
  rfl

/-- A null is no string. -/
theorem readMember_null (h : members.lookup (ascii name)=some .null) (before : Bytes) :
    readMember members name Json.string? before=before := by
  rw [readMember,getMember,h]
  rfl

/-- An `int` is read as it was written. -/
theorem int?_toInt (n : Int32) : Json.int? (.int n.toInt)=some n.toInt := if_pos ⟨n.le_toInt,n.toInt_lt⟩

/-- An `int` is read as it was written. -/
theorem int32?_toInt (n : Int32) : int32? (.int n.toInt)=some n := by
  rw [int32?,int?_toInt,Option.map_some,Int32.ofInt_toInt]

/-- An `int` is read as it was written. -/
theorem readMember_int32 {n : Int32} (h : members.lookup (ascii name)=some (.int n.toInt)) (before : Int32) :
    readMember members name int32? before=n := readMember_eq h (int32?_toInt n) before

/-- A byte is read as it was written. -/
theorem uint8?_toNat (byte : UInt8) : uint8? (.int byte.toNat)=some byte := by
  have hlt := byte.toNat_lt
  rw [uint8?,Json.int?,if_pos ⟨by omega,by omega⟩,Option.map_some]
  congr 1
  apply UInt8.toNat_inj.mp
  rw [UInt8.ofInt,UInt8.toNat_ofNat']
  omega

/-- Flags come back through their conversion to `int`. -/
theorem uint32?_toInt32 (flags : UInt32) : uint32? (.int flags.toInt32.toInt)=some flags := by
  have hlt := flags.toNat_lt
  have hvalue : flags.toInt32.toInt=(flags.toNat : ℤ).bmod (2^32) := BitVec.toInt_eq_toNat_bmod _
  rw [uint32?,int?_toInt,Option.map_some]
  congr 1
  apply UInt32.toNat_inj.mp
  rw [UInt32.ofInt,UInt32.toNat_ofNat',hvalue,Int.bmod_def]
  split <;> omega

/-- The strings of an array are read up to their zero bytes. -/
theorem readMember_strings {texts : List Bytes} (h : members.lookup (ascii name)=some (.array (texts.map .string)))
    (before : List Bytes) : readMember members name strings? before=texts.map cString := by
  refine readMember_eq h ?_ before
  have hmap : texts.filterMap (Json.string?∘Json.string)=texts.filterMap (some∘cString) := rfl
  rw [strings?,List.filterMap_map,hmap,List.filterMap_eq_map]

end Reading

/-- The part for the server as it is read back. -/
def ServerConfig.reread (c : ServerConfig) : ServerConfig :=
  {c with
    listenAddressIPv4 := c.listenAddressIPv4.map cString
    listenAddressIPv6 := c.listenAddressIPv6.map cString
    identityStorageName := cString c.identityStorageName
    queueStorageName := cString c.queueStorageName
    deviceHistoryStorageName := cString c.deviceHistoryStorageName
    regionalSettingsStorageName := cString c.regionalSettingsStorageName
    regionalSettingsChannelPlanName := []
    logGWStatisticsFileName := cString c.logGWStatisticsFileName
    logDeviceStatisticsFileName := cString c.logDeviceStatisticsFileName}

/-- The part for the web service as it is read back. -/
def WebServiceConfig.reread (c : WebServiceConfig) : WebServiceConfig :=
  {c with
    html := cString c.html
    defaultDatabase := cString c.defaultDatabase
    databases := c.databases.map cString
    jwtIssuer := cString c.jwtIssuer
    jwtSecret := cString c.jwtSecret
    userPasswordListFileName := cString c.userPasswordListFileName}

/-- The part for the web service is read back. -/
theorem WebServiceConfig.parse_members (c : WebServiceConfig) :
    WebServiceConfig.parse (.object c.members)=.ok (c.reread,LORA_OK) := by
  rw [WebServiceConfig.parse,
    readMember_bool (show c.members.lookup (ascii "enabled")=some (.bool c.enabled) from rfl),
    readMember_int32 (show c.members.lookup (ascii "port")=some (.int c.port.toInt) from rfl),
    readMember_string (show c.members.lookup (ascii "html")=some (.string c.html) from rfl),
    readMember_string (show c.members.lookup (ascii "defaultDatabase")=some (.string c.defaultDatabase) from rfl),
    readMember_strings (show c.members.lookup (ascii "databases")=some (.array (c.databases.map .string)) from rfl),
    readMember_int32 (show c.members.lookup (ascii "threadCount")=some (.int c.threadCount.toInt) from rfl),
    readMember_int32 (show c.members.lookup (ascii "connectionLimit")=some (.int c.connectionLimit.toInt) from rfl),
    readMember_eq (show c.members.lookup (ascii "flags")=some (.int c.flags.toInt32.toInt) from rfl) (uint32?_toInt32 _),
    readMember_string (show c.members.lookup (ascii "issuer")=some (.string c.jwtIssuer) from rfl),
    readMember_string (show c.members.lookup (ascii "secret")=some (.string c.jwtSecret) from rfl),
    readMember_string (show c.members.lookup (ascii "userListFileName")=some (.string c.userPasswordListFileName) from rfl)]
  rfl

/-- The kinds of storage are read back. -/
theorem storageTypes_reread :
    (∀ kind,string2storageType (cString (storageType2String kind))=kind) ∧
    (∀ kind,string2gwStatStorageType (cString (gwStatStorageType2String kind))=kind) ∧
    (∀ kind,string2deviceStatStorageType (cString (deviceStatStorageType2String kind))=kind) ∧
    ∀ kind,string2messageQueueStorageType (cString (messageQueueStorageType2String kind))=kind := by
  refine ⟨?_,?_,?_,?_⟩ <;> intro kind <;> cases kind <;> rfl

/-- A format of a directory is read back. -/
theorem messageQueueDirFormat_reread {format : Int32} (h : format∈[(0 : Int32),1,2]) :
    string2messageQueueDirFormat (cString (messageQueueDirFormat2String format))=format := by
  simp only [List.mem_cons,List.not_mem_nil,or_false] at h
  rcases h with rfl|rfl|rfl <;> rfl

/-- A format of a directory is read back. -/
theorem parseDirFormat_members {c : ServerConfig} (h : c.messageQueueDirFormat∈[(0 : Int32),1,2]) (before : Int32) :
    parseDirFormat c.members before=c.messageQueueDirFormat := by
  have hlookup : c.members.lookup (ascii "messageQueueDirFormat")=
      some (.string (messageQueueDirFormat2String c.messageQueueDirFormat)) := rfl
  have hname (text : Bytes) : Json.string? (.string text)=some (cString text) := rfl
  have hnumber (text : Bytes) : int32? (.string text)=none := rfl
  rw [parseDirFormat,getMember,getMember,hlookup,Option.bind_some,Option.bind_some,hname,hnumber,Option.map_some,
    Option.map_none,Option.getD_some,Option.getD_none,messageQueueDirFormat_reread h]

/-- A size of the buffer is read back. -/
theorem parseBufferSize_members {c : ServerConfig} (h : 0<c.readBufferSize) (before : Int32) :
    parseBufferSize c.members before=c.readBufferSize := by
  rw [parseBufferSize,show c.members.lookup (ascii "readBufferSize")=some (.int c.readBufferSize.toInt) from rfl]
  dsimp only
  rw [int32?_toInt,Option.getD_some,if_neg (Int32.not_le.mpr h)]

/-- A network identifier is read back. -/
theorem parseNetId_members (c : ServerConfig) (before : NETID) : parseNetId c.members before=.ok c.netid := by
  rw [parseNetId,show c.members.lookup (ascii "netId")=some (.string (NetId.toString c.netid)) from rfl]
  dsimp only
  rw [NetId.toString,Gateways.cString_of_isHex (identifier_hexText _).1,← NetId.toString,NetId.ofString_toString]

/-- The part for the server is read back. -/
theorem ServerConfig.parse_members {c : ServerConfig} (hsize : 0<c.readBufferSize)
    (hformat : c.messageQueueDirFormat∈[(0 : Int32),1,2]) :
    ServerConfig.fresh.parse (.object c.members)=.ok (c.reread,LORA_OK) := by
  obtain ⟨hstorage,hgw,hdevice,hqueue⟩ := storageTypes_reread
  rw [ServerConfig.parse,parseNetId_members,parseBufferSize_members hsize,parseDirFormat_members hformat,
    readMember_strings (show c.members.lookup (ascii "listenAddressIPv4")=
      some (.array (c.listenAddressIPv4.map .string)) from rfl),
    readMember_strings (show c.members.lookup (ascii "listenAddressIPv6")=
      some (.array (c.listenAddressIPv6.map .string)) from rfl),
    readMember_string (show c.members.lookup (ascii "identityStorageName")=some (.string c.identityStorageName) from rfl),
    readMember_string (show c.members.lookup (ascii "deviceHistoryStorageName")=
      some (.string c.deviceHistoryStorageName) from rfl),
    readMember_string (show c.members.lookup (ascii "regionalSettingsStorageName")=
      some (.string c.regionalSettingsStorageName) from rfl),
    readMember_null (show c.members.lookup (ascii "regionalSettingsChannelPlanName")=some .null from rfl),
    readMember_string (show c.members.lookup (ascii "queueStorageName")=some (.string c.queueStorageName) from rfl),
    readMember_int32 (show c.members.lookup (ascii "verbosity")=some (.int c.verbosity.toInt) from rfl),
    readMember_eq (show c.members.lookup (ascii "controlFPort")=some (.int c.controlFPort.toNat) from rfl)
      (uint8?_toNat _),
    readMember_bool (show c.members.lookup (ascii "daemonize")=some (.bool c.daemonize) from rfl),
    readMember_kind (show c.members.lookup (ascii "storageType")=
      some (.string (storageType2String c.storageType)) from rfl),
    readMember_kind (show c.members.lookup (ascii "gwStatStorageType")=
      some (.string (gwStatStorageType2String c.gwStatStorageType)) from rfl),
    readMember_kind (show c.members.lookup (ascii "deviceStatStorageType")=
      some (.string (deviceStatStorageType2String c.deviceStatStorageType)) from rfl),
    readMember_kind (show c.members.lookup (ascii "messageQueueStorageType")=
      some (.string (messageQueueStorageType2String c.messageQueueType)) from rfl),
    readMember_string (show c.members.lookup (ascii "logGWStatisticsFileName")=
      some (.string c.logGWStatisticsFileName) from rfl),
    readMember_string (show c.members.lookup (ascii "logDeviceStatisticsFileName")=
      some (.string c.logDeviceStatisticsFileName) from rfl),
    hstorage,hgw,hdevice,hqueue]
  rfl

/-- A configuration without parameters as it is read back. -/
def Configuration.reread (c : Configuration) : Configuration where
  configFileName := cString c.configFileName
  gatewaysFileName := cString c.gatewaysFileName
  databaseConfigFileName := cString c.databaseConfigFileName
  pluginsPath := cString c.pluginsPath
  pluginsParams := ∅
  gatewayPort := c.gatewayPort
  serverConfig := c.serverConfig.reread
  wsConfig := c.wsConfig.reread

/-- A document without parameters is read back. -/
theorem Configuration.parseDocument_members {c : Configuration} (hproper : Proper c) :
    Configuration.fresh.parseDocument (.object (c.members []))=.ok (c.reread,LORA_OK) := by
  have hserver : parseServer (c.members []) Configuration.fresh.serverConfig=.ok c.serverConfig.reread := by
    rw [parseServer,show (c.members []).lookup (ascii "server")=some (.object c.serverConfig.members) from rfl]
    dsimp only
    rw [show Configuration.fresh.serverConfig=ServerConfig.fresh from rfl,
      ServerConfig.parse_members hproper.readBufferSize hproper.messageQueueDirFormat]
    rfl
  have hws : parseWs (c.members []) Configuration.fresh.wsConfig=.ok c.wsConfig.reread := by
    rw [parseWs,show (c.members []).lookup (ascii "ws")=some (.object c.wsConfig.members) from rfl]
    dsimp only
    rw [WebServiceConfig.parse_members]
    rfl
  have hparams : parsePluginsParams (c.members []) Configuration.fresh.pluginsParams=.ok ∅ := by
    rw [parsePluginsParams,show (c.members []).lookup (ascii "pluginsParams")=some (.array []) from rfl]
    rfl
  rw [Configuration.parseDocument,hserver,hws,hparams,
    readMember_string (show (c.members []).lookup (ascii "configFileName")=some (.string c.configFileName) from rfl),
    readMember_string (show (c.members []).lookup (ascii "gatewaysFileName")=some (.string c.gatewaysFileName) from rfl),
    readMember_string (show (c.members []).lookup (ascii "databaseConfigFileName")=
      some (.string c.databaseConfigFileName) from rfl),
    readMember_string (show (c.members []).lookup (ascii "pluginsPath")=some (.string c.pluginsPath) from rfl),
    readMember_int32 (show (c.members []).lookup (ascii "gatewayPort")=some (.int c.gatewayPort.toInt) from rfl)]
  rfl

/-- Texts are seen whole exactly if none of them has a zero byte. -/
theorem map_cString_eq_self_iff (texts : List Bytes) : texts.map cString=texts ↔ ∀ text∈texts,0∉text := by
  have hid : texts.map id=texts := List.map_id texts
  calc texts.map cString=texts
      ↔ texts.map cString=texts.map id := by rw [hid]
    _ ↔ ∀ text∈texts,cString text=id text := List.map_inj_left
    _ ↔ ∀ text∈texts,0∉text := forall₂_congr fun text _ => cString_eq_self_iff text

/-- What is read back is what was there exactly if there is no name of a channel plan and no zero byte. -/
theorem same_reread_iff {c : Configuration} (hparams : c.pluginsParams.toList=[]) : Same c.reread c ↔ Plain c := by
  have hempty (name : Bytes) : (∅ : Std.TreeMap Bytes (List Bytes))[name]?=c.pluginsParams[name]? := by
    have hnone : c.pluginsParams[name]?=none := by
      cases h : c.pluginsParams[name]? with
      | none => rfl
      | some values =>
        have hmem := Std.TreeMap.mem_toList_iff_getElem?_eq_some.mpr h
        rw [hparams] at hmem
        cases hmem
    rw [hnone,Std.TreeMap.getElem?_emptyc]
  have htexts : (∀ text∈c.texts,0∉text) ↔
      (0∉c.configFileName ∧ 0∉c.gatewaysFileName ∧ 0∉c.databaseConfigFileName ∧ 0∉c.pluginsPath ∧
        0∉c.serverConfig.identityStorageName ∧ 0∉c.serverConfig.queueStorageName ∧
        0∉c.serverConfig.deviceHistoryStorageName ∧ 0∉c.serverConfig.regionalSettingsStorageName ∧
        0∉c.serverConfig.logGWStatisticsFileName ∧ 0∉c.serverConfig.logDeviceStatisticsFileName ∧
        0∉c.wsConfig.html ∧ 0∉c.wsConfig.defaultDatabase ∧ 0∉c.wsConfig.jwtIssuer ∧ 0∉c.wsConfig.jwtSecret ∧
        0∉c.wsConfig.userPasswordListFileName) ∧
      ((∀ text∈c.serverConfig.listenAddressIPv4,0∉text) ∧ ∀ text∈c.serverConfig.listenAddressIPv6,0∉text) ∧
        ∀ text∈c.wsConfig.databases,0∉text := by
    simp only [Configuration.texts,List.forall_mem_append,List.forall_mem_cons,List.not_mem_nil,false_imp_iff,
      implies_true,and_true]
  constructor
  · intro h
    have hs := h.serverConfig
    have hw := h.wsConfig
    simp only [Configuration.reread,ServerConfig.reread,WebServiceConfig.reread,ServerConfig.ext_iff,
      WebServiceConfig.ext_iff,map_cString_eq_self_iff,cString_eq_self_iff,true_and,and_true] at hs hw
    obtain ⟨h4,h6,hidentity,hqueue,hhistory,hregional,hplan,hgw,hdevice⟩ := hs
    obtain ⟨hhtml,hdefault,hdatabases,hissuer,hsecret,husers⟩ := hw
    refine ⟨hparams,hplan.symm,htexts.mpr ⟨⟨(cString_eq_self_iff _).mp h.configFileName,
      (cString_eq_self_iff _).mp h.gatewaysFileName,(cString_eq_self_iff _).mp h.databaseConfigFileName,
      (cString_eq_self_iff _).mp h.pluginsPath,hidentity,hqueue,hhistory,hregional,hgw,hdevice,hhtml,hdefault,hissuer,
      hsecret,husers⟩,⟨h4,h6⟩,hdatabases⟩⟩
  · intro h
    obtain ⟨⟨hconfig,hgateways,hdatabase,hpath,hidentity,hqueue,hhistory,hregional,hgw,hdevice,hhtml,hdefault,hissuer,
      hsecret,husers⟩,⟨h4,h6⟩,hdatabases⟩ := htexts.mp h.texts
    refine ⟨cString_eq_self hconfig,cString_eq_self hgateways,cString_eq_self hdatabase,cString_eq_self hpath,hempty,rfl,
      ?_,?_⟩
    · simp only [Configuration.reread,ServerConfig.reread,ServerConfig.ext_iff,map_cString_eq_self_iff,
        cString_eq_self_iff,true_and,and_true]
      exact ⟨h4,h6,hidentity,hqueue,hhistory,hregional,h.regionalSettingsChannelPlanName.symm,hgw,hdevice⟩
    · simp only [Configuration.reread,WebServiceConfig.reread,WebServiceConfig.ext_iff,map_cString_eq_self_iff,
        cString_eq_self_iff,true_and]
      exact ⟨hhtml,hdefault,hdatabases,hissuer,hsecret,husers⟩

/-- The text of a fresh configuration. -/
def freshText (_ : Json) : Bytes :=
  ascii "\x7b\n    \"configFileName\": \"\",\n    \"gatewaysFileName\": \"\",\n    \"server\": \x7b\n"++
  ascii "        \"listenAddressIPv4\": [],\n        \"listenAddressIPv6\": [],\n"++
  ascii "        \"identityStorageName\": \"\",\n        \"deviceHistoryStorageName\": \"\",\n"++
  ascii "        \"regionalSettingsStorageName\": \"\",\n"++
  ascii "        \"regionalSettingsChannelPlanName\": null,\n        \"queueStorageName\": \"\",\n"++
  ascii "        \"readBufferSize\": 4096,\n        \"verbosity\": 0,\n        \"controlFPort\": 0,\n"++
  ascii "        \"daemonize\": false,\n        \"storageType\": \"json\",\n"++
  ascii "        \"gwStatStorageType\": \"\",\n        \"logGWStatisticsFileName\": \"\",\n"++
  ascii "        \"deviceStatStorageType\": \"none\",\n        \"logDeviceStatisticsFileName\": \"\",\n"++
  ascii "        \"messageQueueStorageType\": \"json\",\n        \"messageQueueDirFormat\": \"bin\",\n"++
  ascii "        \"netId\": \"0\"\n    \x7d,\n    \"ws\": \x7b\n        \"enabled\": true,\n"++
  ascii "        \"port\": 5002,\n        \"html\": \"\",\n        \"defaultDatabase\": \"\",\n"++
  ascii "        \"databases\": [],\n        \"threadCount\": 2,\n        \"connectionLimit\": 1024,\n"++
  ascii "        \"flags\": 0,\n        \"issuer\": \"\",\n        \"secret\": \"\",\n"++
  ascii "        \"userListFileName\": \"\"\n    \x7d,\n    \"databaseConfigFileName\": \"\",\n"++
  ascii "    \"pluginsParams\": [],\n    \"pluginsPath\": \"\",\n    \"gatewayPort\": 4242\n\x7d"

/-- A configuration with one parameter that has one value. -/
def onePlugin : Configuration :=
  {Configuration.fresh with pluginsParams := (∅ : Std.TreeMap Bytes (List Bytes)).insert (ascii "dir") [ascii "tmp"]}

end LorawanServer.ServerConfiguration
