import LorawanServer.ChannelPlan

/-!
# The file of regional channel plans

The event handler of `RegionalParameterChannelPlanFileJson`, a machine of
seventeen states with running counters, and the class itself: its storage, the
indexes by name and number, and loading. A pointer to a plan is the place of the
plan in the storage and the number of clearings before it was taken, because
clearing a vector invalidates every pointer to its elements. Nothing stands for
undefined behaviour: the handler takes the last of no channels.
-/

namespace LorawanServer.ChannelPlanFile

open CppRuntime Records JsonDocument JsonEvents FloatNumbers ChannelPlan

/-- `ERR_CODE_INIT_REGION_NO_DEFAULT`. -/
def ERR_CODE_INIT_REGION_NO_DEFAULT : ℤ := -596

/-- `ERR_REGION_BAND_EMPTY`. -/
def ERR_REGION_BAND_EMPTY : String := "RegionBands array element disappeared"

/-- `JSON_STATE_GATEWAY_CONFIG`. -/
inductive State where
  | none | root | bands | band | bandDefaults | dataRates | dataRate | pSizes | pSize | prptSizes | prptSize
  | rx1DrOffsets | rx1DrOffset | txPowerOfs | uplinks | downlinks | channel
  deriving DecidableEq,Repr

/-- `PARSE_STATE_NAMES`. -/
def PARSE_STATE_NAMES : State → String
  | .none => "none"
  | .root => "root"
  | .bands => "RegionBands"
  | .band => "RegionBands[]"
  | .bandDefaults => "bandDefaults"
  | .dataRates => "band_data_rates"
  | .dataRate => "band_data_rate"
  | .pSizes => "band_p_sizes"
  | .pSize => "band_p_size"
  | .prptSizes => "maxPayloadSizePerDataRate"
  | .prptSize => "maxPayloadSizePerDataRateRepeater"
  | .rx1DrOffsets => "rx1DataRateOffsets"
  | .rx1DrOffset => "rx1DataRateOffsets[]"
  | .txPowerOfs => "txPowerOffsets"
  | .uplinks => "uplinkChannels"
  | .downlinks => "downlinkChannels"
  | .channel => "up/downlinkChannels[]"

/-- `JSON_KEY_GATEWAY_CONFIG`. -/
inductive Key where
  | none | regionalParametersVersion | regionBands | id | name
  | cn | maxUplinkEIRP | defaultDownlinkTXPower | pingSlotFrequency | implementsTXParamSetup
  | supportsExtraChannels | defaultRegion | bandDefaults | dataRates | uplinkChannels | downlinkChannels
  | maxPayloadSizePerDataRate | maxPayloadSizePerDataRateRepeater | rx1DataRateOffsets | txPowerOffsets
  | rx2Frequency | rx2DataRate | receiveDelay1 | receiveDelay2 | joinAcceptDelay1 | joinAcceptDelay2
  | uplink | downlink | modulation | bandwidth | spreadingFactor | bps
  | m | n
  | frequency | minDR | maxDR | enabled | custom
  deriving DecidableEq,Repr

/-- `ATTR_REGION_BAND_NAMES`, with the key of every index. -/
def ATTR_REGION_BAND_NAMES : List (Key×String) :=
  [(.none,""),(.regionalParametersVersion,"regionalParametersVersion"),(.regionBands,"RegionBands"),(.id,"id"),
    (.name,"name"),(.cn,"cn"),(.maxUplinkEIRP,"maxUplinkEIRP"),(.defaultDownlinkTXPower,"defaultDownlinkTXPower"),
    (.pingSlotFrequency,"pingSlotFrequency"),(.implementsTXParamSetup,"implementsTXParamSetup"),
    (.supportsExtraChannels,"supportsExtraChannels"),(.defaultRegion,"defaultRegion"),
    (.bandDefaults,"bandDefaults"),(.dataRates,"dataRates"),(.uplinkChannels,"uplinkChannels"),
    (.downlinkChannels,"downlinkChannels"),(.maxPayloadSizePerDataRate,"maxPayloadSizePerDataRate"),
    (.maxPayloadSizePerDataRateRepeater,"maxPayloadSizePerDataRateRepeater"),
    (.rx1DataRateOffsets,"rx1DataRateOffsets"),(.txPowerOffsets,"txPowerOffsets"),(.rx2Frequency,"RX2Frequency"),
    (.rx2DataRate,"RX2DataRate"),(.receiveDelay1,"ReceiveDelay1"),(.receiveDelay2,"ReceiveDelay2"),
    (.joinAcceptDelay1,"JoinAcceptDelay1"),(.joinAcceptDelay2,"JoinAcceptDelay2"),(.uplink,"uplink"),
    (.downlink,"downlink"),(.modulation,"modulation"),(.bandwidth,"bandwidth"),
    (.spreadingFactor,"spreadingFactor"),(.bps,"bps"),(.m,"m"),(.n,"n"),(.frequency,"frequency"),(.minDR,"minDR"),
    (.maxDR,"maxDR"),(.enabled,"enabled"),(.custom,"custom")]

/-- `getAttrByName`. The search starts behind the empty name. -/
def getAttrByName (name : Bytes) : Key :=
  match (ATTR_REGION_BAND_NAMES.drop 1).find? fun attr => ascii attr.2=cString name with
  | some attr => attr.1
  | none => .none

/-- The class `RegionBandsJsonHandler`, with the storage and the description of
the object that it fills. -/
structure RegionBandsJsonHandler where
  /-- Storage of the object. -/
  storage : RegionBands
  /-- Description of the error. -/
  errDescription : Bytes
  /-- The last name. -/
  keyIndex : Key
  /-- The place in the file. -/
  state : State
  /-- The array of channels around the place. -/
  prevState : State
  /-- Data rates of the plan that have begun. -/
  dataRateCount : ℕ
  /-- Longest payloads that have ended. -/
  maxPayloadSizePerDataRateCount : ℕ
  /-- Longest payloads with a repeater that have ended. -/
  maxPayloadSizePerDataRateRepeaterCount : ℕ
  /-- Lists of data rates of the first window that have ended. -/
  rx1DataRateOffsetCount : ℕ
  /-- Power steps so far. -/
  txPowerOffsetCount : ℕ

namespace RegionBandsJsonHandler

/-- The constructor. -/
def new (storage : RegionBands) (errDescription : Bytes) : RegionBandsJsonHandler :=
  ⟨storage,errDescription,.none,.none,.none,0,0,0,0,0⟩

/-- `applyErrorDescription`. -/
def applyErrorDescription (h : RegionBandsJsonHandler) (reason : Bytes) : RegionBandsJsonHandler :=
  let index := ATTR_REGION_BAND_NAMES.findIdx fun attr => attr.1=h.keyIndex
  let attr := ATTR_REGION_BAND_NAMES.getD index (.none,"")
  let text := ascii "reason: "++reason++ascii ", key: "++ascii attr.2++ascii "("++decimal index++ascii ")"++
    ascii ", state: "++ascii (PARSE_STATE_NAMES h.state)
  {h with errDescription := text}

/-- A call that is refused with a description. -/
def refuse (h : RegionBandsJsonHandler) (reason : String) : RegionBandsJsonHandler×Bool :=
  (h.applyErrorDescription (ascii reason),false)

/-- A change of the last plan. -/
def setBack (h : RegionBandsJsonHandler) (f : RegionalParameterChannelPlan → RegionalParameterChannelPlan) :
    RegionBandsJsonHandler := {h with storage := {h.storage with bands := h.storage.bands.modifyLast f}}

/-- A change of the last plan, if there is one. -/
def onBack (h : RegionBandsJsonHandler) (f : RegionalParameterChannelPlan → RegionalParameterChannelPlan) :
    RegionBandsJsonHandler×Bool :=
  if h.storage.bands=[] then h.refuse ERR_REGION_BAND_EMPTY else (h.setBack f,true)

/-- A change of one element. -/
def modifyAt {α : Type*} {n : ℕ} (v : Vector α n) (i : ℕ) (f : α → α) : Vector α n :=
  if h : i<n then v.set i (f (v.get ⟨i,h⟩)) h else v

/-- A change of the data rate that has begun last. -/
def onDataRate (h : RegionBandsJsonHandler) (f : DataRate → DataRate) : RegionBandsJsonHandler×Bool :=
  if h.storage.bands=[] then h.refuse ERR_REGION_BAND_EMPTY
  else if DATA_RATE_SIZE<h.dataRateCount then h.refuse "dataRates array size bigger than 8 elements"
  else (h.setBack fun rb => {rb with dataRates := modifyAt rb.dataRates (h.dataRateCount-1) f},true)

/-- The number of a member of the last channel. -/
def channelInteger (key : Key) (val : ℤ) : Option (Channel → Channel) :=
  match key with
  | .frequency => some fun c => {c with frequency := Int32.ofInt val}
  | .minDR => some fun c => {c with minDR := Int32.ofInt val}
  | .maxDR => some fun c => {c with maxDR := Int32.ofInt val}
  | _ => none

/-- The number of a member of the defaults. -/
def defaultsInteger (key : Key) (val : ℤ) : Option (BandDefaults → BandDefaults) :=
  match key with
  | .rx2Frequency => some fun d => {d with RX2Frequency := Int32.ofInt val}
  | .rx2DataRate => some fun d => {d with RX2DataRate := Int32.ofInt val}
  | .receiveDelay1 => some fun d => {d with ReceiveDelay1 := Int32.ofInt val}
  | .receiveDelay2 => some fun d => {d with ReceiveDelay2 := Int32.ofInt val}
  | .joinAcceptDelay1 => some fun d => {d with JoinAcceptDelay1 := Int32.ofInt val}
  | .joinAcceptDelay2 => some fun d => {d with JoinAcceptDelay2 := Int32.ofInt val}
  | _ => none

/-- The number of a member of the longest payloads. -/
def sizeInteger (key : Key) (val : ℤ) : Option (MaxPayloadSize → MaxPayloadSize) :=
  match key with
  | .m => some fun p => {p with m := UInt8.ofInt val}
  | .n => some fun p => {p with n := UInt8.ofInt val}
  | _ => none

/-- `Integer`. -/
def integer (h : RegionBandsJsonHandler) (val : ℤ) : RegionBandsJsonHandler×Bool :=
  match h.state with
  | .txPowerOfs =>
    if h.storage.bands=[] then (h,false)
    else if TX_POWER_OFFSET_MAX_SIZE≤h.txPowerOffsetCount then h.refuse "Too many tx offsets"
    else
      ({h.setBack fun rb => {rb with txPowerOffsets := rb.txPowerOffsets++[Int8.ofInt val]} with
        txPowerOffsetCount := h.txPowerOffsetCount+1},true)
  | .bandDefaults =>
    match defaultsInteger h.keyIndex val with
    | some f => h.onBack fun rb => {rb with bandDefaults := f rb.bandDefaults}
    | none => h.refuse ERR_REGION_BAND_EMPTY
  | .rx1DrOffset =>
    if h.storage.bands=[] then h.refuse ERR_REGION_BAND_EMPTY
    else if DATA_RATE_SIZE≤h.rx1DataRateOffsetCount then h.refuse "rx1DataRateOffset more than 8 elements"
    else
      (h.setBack fun rb => {rb with
        rx1DataRateOffsets := modifyAt rb.rx1DataRateOffsets h.rx1DataRateOffsetCount (·++[UInt8.ofInt val])},true)
  | .channel =>
    let back := h.storage.bands.getLastD .new
    match h.prevState,channelInteger h.keyIndex val with
    | .uplinks,some f =>
      if back.uplinkChannels=[] then h.refuse ERR_REGION_BAND_EMPTY
      else h.onBack fun rb => {rb with uplinkChannels := rb.uplinkChannels.modifyLast f}
    | .downlinks,some f =>
      if back.downlinkChannels=[] then h.refuse ERR_REGION_BAND_EMPTY
      else h.onBack fun rb => {rb with downlinkChannels := rb.downlinkChannels.modifyLast f}
    | _,_ => h.refuse ERR_REGION_BAND_EMPTY
  | .pSize =>
    if h.storage.bands=[] then h.refuse ERR_REGION_BAND_EMPTY
    else if DATA_RATE_SIZE≤h.maxPayloadSizePerDataRateCount then
      h.refuse "UInt maxPayloadSizePerDataRate more than 8 elements"
    else match sizeInteger h.keyIndex val with
    | some f =>
      (h.setBack fun rb => {rb with
        maxPayloadSizePerDataRate := modifyAt rb.maxPayloadSizePerDataRate h.maxPayloadSizePerDataRateCount f},true)
    | none => h.refuse "Unexpected number in the maxPayloadSizePerDataRate"
  | .prptSize =>
    if h.storage.bands=[] then h.refuse ERR_REGION_BAND_EMPTY
    else if DATA_RATE_SIZE≤h.maxPayloadSizePerDataRateRepeaterCount then
      h.refuse "maxPayloadSizePerDataRateRepeater has more than 8 elements"
    else match sizeInteger h.keyIndex val with
    | some f =>
      (h.setBack fun rb => {rb with
        maxPayloadSizePerDataRateRepeater :=
          modifyAt rb.maxPayloadSizePerDataRateRepeater h.maxPayloadSizePerDataRateRepeaterCount f},true)
    | none => h.refuse ERR_REGION_BAND_EMPTY
  | .dataRate =>
    match h.keyIndex with
    | .bandwidth => h.onDataRate fun r => {r with bandwidth := int2BANDWIDTH (Int32.ofInt val).toInt}
    | .spreadingFactor => h.onDataRate fun r => {r with spreadingFactor := UInt32.ofInt val}
    | .bps => h.onDataRate fun r => {r with bps := UInt32.ofInt val}
    | _ => h.refuse "Unexpected integer"
  | .band =>
    match h.keyIndex with
    | .defaultDownlinkTXPower => h.onBack fun rb => {rb with defaultDownlinkTXPower := Int32.ofInt val}
    | .pingSlotFrequency => h.onBack fun rb => {rb with pingSlotFrequency := Int32.ofInt val}
    | .maxUplinkEIRP => h.onBack fun rb => {rb with maxUplinkEIRP := toFloat val}
    | .id => h.onBack fun rb => {rb with id := UInt8.ofInt val}
    | _ => h.refuse "Unexpected integer value"
  | _ => h.refuse "Unexpected integer value"

/-- `Bool`. The flags of any channel go to the last channel of uplinks. -/
def bool (h : RegionBandsJsonHandler) (b : Bool) : Option (RegionBandsJsonHandler×Bool) :=
  let back := h.storage.bands.getLastD .new
  match h.keyIndex with
  | .supportsExtraChannels => some (h.onBack fun rb => {rb with supportsExtraChannels := b})
  | .implementsTXParamSetup => some (h.onBack fun rb => {rb with implementsTXParamSetup := b})
  | .defaultRegion => some (h.onBack fun rb => {rb with defaultRegion := b})
  | .uplink =>
    if h.state=.dataRate then some (h.onDataRate fun r => {r with uplink := b})
    else some (h.refuse "Unexpected boolean")
  | .downlink =>
    if h.state=.dataRate then some (h.onDataRate fun r => {r with downlink := b})
    else some (h.refuse "Unexpected boolean")
  | .enabled => channelFlag h back fun c => {c with enabled := b}
  | .custom => channelFlag h back fun c => {c with custom := b}
  | _ => some (h.refuse "Unexpected boolean value")
where
  /-- The part of `Bool` for the flags of a channel. -/
  channelFlag (h : RegionBandsJsonHandler) (back : RegionalParameterChannelPlan) (f : Channel → Channel) :
      Option (RegionBandsJsonHandler×Bool) :=
    if h.state≠.channel ∨ h.storage.bands=[] then some (h.refuse ERR_REGION_BAND_EMPTY)
    else if h.prevState=.uplinks ∧ back.uplinkChannels=[] then
      some (h.refuse "uplinkChannels array element disappeared ")
    else if h.prevState=.downlinks ∧ back.downlinkChannels=[] then
      some (h.refuse "downlinkChannels array element disappeared")
    -- the last element of an empty vector
    else if back.uplinkChannels=[] then none
    else some (h.setBack fun rb => {rb with uplinkChannels := rb.uplinkChannels.modifyLast f},true)

/-- `Double`. -/
def double (h : RegionBandsJsonHandler) (d : ℚ) : RegionBandsJsonHandler×Bool :=
  match h.state,h.keyIndex with
  | .band,.maxUplinkEIRP => h.onBack fun rb => {rb with maxUplinkEIRP := toFloat d}
  | .band,_ => (h,false)
  | .dataRate,.bandwidth => h.onDataRate fun r => {r with bandwidth := double2BANDWIDTH d}
  | _,_ => h.refuse "Unexpected float number"

/-- `String`. -/
def string (h : RegionBandsJsonHandler) (s : Bytes) : RegionBandsJsonHandler×Bool :=
  match h.keyIndex with
  | .regionalParametersVersion =>
    if h.state=.root then
      ({h with storage := {h.storage with regionalParametersVersion := string2REGIONAL_PARAMETERS_VERSION s}},true)
    else h.refuse "String JK_REGIONALPARAMETERSVERSION"
  | .name => if h.state=.band then h.onBack fun rb => {rb with name := s} else h.refuse "String JK_NAME"
  | .cn => if h.state=.band then h.onBack fun rb => {rb with cn := s} else h.refuse "String JK_CN"
  | .modulation =>
    if h.state=.dataRate then h.onDataRate fun r => {r with modulation := string2MODULATION s}
    else h.refuse "Unexpected boolean"
  | _ => (h,false)

/-- `StartObject`. -/
def startObject (h : RegionBandsJsonHandler) : RegionBandsJsonHandler×Bool :=
  match h.state with
  | .none => ({h with state := .root},true)
  | .bands => ({h with state := .band,storage := {h.storage with bands := h.storage.bands++[.new]}},true)
  | .band =>
    let h := {h with
      dataRateCount := 0
      maxPayloadSizePerDataRateCount := 0
      maxPayloadSizePerDataRateRepeaterCount := 0
      rx1DataRateOffsetCount := 0
      txPowerOffsetCount := 0}
    if h.keyIndex=.bandDefaults then ({h with state := .bandDefaults},true)
    else h.refuse "Object JRB_BAND JK_BANDDEFAULTS"
  | .dataRates => ({h with state := .dataRate,dataRateCount := h.dataRateCount+1},true)
  | .pSizes => ({h with state := .pSize},true)
  | .prptSizes => ({h with state := .prptSize},true)
  | .uplinks =>
    let h := {h with state := .channel}
    if h.storage.bands=[] then h.refuse "Object JRB_BAND_UPLINKS"
    else (h.setBack fun rb => {rb with uplinkChannels := rb.uplinkChannels++[.new]},true)
  | .downlinks =>
    let h := {h with state := .channel}
    if h.storage.bands=[] then h.refuse "Object JRB_BAND_DOWNLINKS"
    else (h.setBack fun rb => {rb with downlinkChannels := rb.downlinkChannels++[.new]},true)
  | _ => h.refuse "Unexpected object"

/-- `Key`. -/
def key (h : RegionBandsJsonHandler) (str : Bytes) : RegionBandsJsonHandler×Bool :=
  let h := {h with keyIndex := getAttrByName str}
  if h.keyIndex=.none then (h.applyErrorDescription (ascii "Unknown attribute "++str),false) else (h,true)

/-- `EndObject`. -/
def endObject (h : RegionBandsJsonHandler) : RegionBandsJsonHandler×Bool :=
  match h.state with
  | .band => ({h with state := .bands},true)
  | .root => ({h with state := .none},true)
  | .bandDefaults => ({h with state := .band},true)
  | .dataRate => ({h with state := .dataRates},true)
  | .pSize =>
    ({h with state := .pSizes,maxPayloadSizePerDataRateCount := h.maxPayloadSizePerDataRateCount+1},true)
  | .prptSize =>
    ({h with state := .prptSizes
             maxPayloadSizePerDataRateRepeaterCount := h.maxPayloadSizePerDataRateRepeaterCount+1},true)
  | .channel => ({h with state := h.prevState},true)
  | _ => h.refuse "Unexpected end of object"

/-- `StartArray`. -/
def startArray (h : RegionBandsJsonHandler) : RegionBandsJsonHandler×Bool :=
  match h.state,h.keyIndex with
  | .root,.regionBands => ({h with state := .bands},true)
  | .root,_ => h.refuse "Unexpected array"
  | .band,.dataRates => ({h with state := .dataRates},true)
  | .band,.maxPayloadSizePerDataRate => ({h with state := .pSizes},true)
  | .band,.maxPayloadSizePerDataRateRepeater => ({h with state := .prptSizes},true)
  | .band,.rx1DataRateOffsets => ({h with state := .rx1DrOffsets},true)
  | .band,.txPowerOffsets => ({h with state := .txPowerOfs},true)
  | .band,.uplinkChannels => ({h with prevState := .uplinks,state := .uplinks},true)
  | .band,.downlinkChannels => ({h with prevState := .downlinks,state := .downlinks},true)
  | .band,_ => h.refuse "Unexpected array in the band"
  | .rx1DrOffsets,_ => ({h with state := .rx1DrOffset},true)
  | _,_ => h.refuse "Unexpected array"

/-- `EndArray`. -/
def endArray (h : RegionBandsJsonHandler) : RegionBandsJsonHandler×Bool :=
  match h.state with
  | .root => (h,true)
  | .band => ({h with state := .bands},true)
  | .bands => ({h with state := .root},true)
  | .dataRates | .pSizes | .prptSizes | .rx1DrOffsets | .txPowerOfs | .uplinks | .downlinks =>
    ({h with state := .band},true)
  | .rx1DrOffset => ({h with state := .rx1DrOffsets,rx1DataRateOffsetCount := h.rx1DataRateOffsetCount+1},true)
  | _ => h.refuse "Unexpected end of array"

/-- The calls of the reader. An integer of 32 bits goes to `Integer`; `null` is
taken by the base class. -/
def call (h : RegionBandsJsonHandler) : Event → Option (RegionBandsJsonHandler×Bool)
  | .null => some (h,true)
  | .bool b => h.bool b
  | .number true magnitude =>
    if magnitude≤2^31 then some (h.integer (-magnitude)) else some (h.refuse "Unexpected too big Int64 number")
  | .number false magnitude =>
    if magnitude<2^32 then some (h.integer magnitude) else some (h.refuse "Unexpected too big UInt64 number")
  | .double text => some (h.double (toDouble (decimalValue text)))
  | .string text => some (h.string text)
  | .startObject => some h.startObject
  | .key text => some (h.key text)
  | .endObject => some h.endObject
  | .startArray => some h.startArray
  | .endArray => some h.endArray

/-- A call in a run that may have become undefined. -/
def step : Option RegionBandsJsonHandler → Event → Option RegionBandsJsonHandler×Bool
  | none,_ => (none,false)
  | some h,event =>
    match h.call event with
    | none => (none,false)
    | some (h,go) => (some h,go)

end RegionBandsJsonHandler

/-- A pointer to a plan of a storage. -/
structure Pointer where
  /-- Clearings of the storage before the pointer was taken. -/
  generation : ℕ
  /-- Place in the vector. -/
  index : ℕ
  deriving DecidableEq

/-- The class `RegionalParameterChannelPlanFileJson`. -/
structure RegionalParameterChannelPlanFileJson where
  /-- The plans. -/
  storage : RegionBands
  /-- How often the plans were cleared. -/
  generation : ℕ
  /-- Plans by name. -/
  nameIndex : Std.TreeMap Bytes Pointer
  /-- Plans by number. -/
  idIndex : Std.TreeMap ℤ Pointer
  /-- The default plan. -/
  defaultRegionBand : Option Pointer
  /-- Code of the last error. -/
  errCode : ℤ
  /-- Its description. -/
  errDescription : Bytes

/-- What the reader adds to a load. -/
structure Platform where
  /-- The number is refused. -/
  tooBig : Bytes → Bool
  /-- Code of the error in a text, and its description up to the place. -/
  parseError : Bytes → ℤ×Bytes

namespace RegionalParameterChannelPlanFileJson

/-- The constructor. -/
def new : RegionalParameterChannelPlanFileJson := ⟨.new,0,∅,∅,none,0,[]⟩

/-- `clear`. The index by number stays. -/
def clear (s : RegionalParameterChannelPlanFileJson) : RegionalParameterChannelPlanFileJson :=
  {s with storage := {s.storage with bands := []},generation := s.generation+1,nameIndex := ∅,defaultRegionBand := none}

/-- One plan of `buildIndex`. -/
def addIndex (s : RegionalParameterChannelPlanFileJson) (it : RegionalParameterChannelPlan×ℕ) :
    RegionalParameterChannelPlanFileJson :=
  let pointer : Pointer := ⟨s.generation,it.2⟩
  {s with
    nameIndex := s.nameIndex.insert it.1.name pointer
    idIndex := s.idIndex.insert (it.1.id.toNat : ℤ) pointer
    defaultRegionBand := if it.1.defaultRegion then some pointer else s.defaultRegionBand}

/-- `buildIndex`. -/
def buildIndex (s : RegionalParameterChannelPlanFileJson) : RegionalParameterChannelPlanFileJson×ℤ :=
  let s := s.storage.bands.zipIdx.foldl addIndex {s with nameIndex := ∅,idIndex := ∅,defaultRegionBand := none}
  let s :=
    if s.defaultRegionBand=none ∧ s.storage.bands≠[] then {s with defaultRegionBand := some ⟨s.generation,0⟩} else s
  (s,if s.storage.bands=[] then ERR_CODE_INIT_REGION_NO_DEFAULT else LORA_OK)

/-- `get` by name. -/
def getByName (s : RegionalParameterChannelPlanFileJson) (name : Bytes) : Option Pointer :=
  match s.nameIndex[name]? with
  | none => s.defaultRegionBand
  | some pointer => some pointer

/-- `get` by number. -/
def getById (s : RegionalParameterChannelPlanFileJson) (id : ℤ) : Option Pointer :=
  match s.idIndex[id]? with
  | none => s.defaultRegionBand
  | some pointer => some pointer

/-- `loadFile` of a file, if there is one, with the object afterwards and the
code. -/
def loadFile (platform : Platform) (s : RegionalParameterChannelPlanFileJson) (file : Option Bytes) :
    Option (RegionalParameterChannelPlanFileJson×ℤ) :=
  match file with
  | none => some (s,ERR_CODE_INVALID_JSON)
  | some text => do
    let (handler,whole) := parse platform.tooBig RegionBandsJsonHandler.step (some (.new s.storage s.errDescription)) text
    let h ← handler
    let (code,description) := platform.parseError text
    if whole then return ({s with storage := h.storage,errCode := 0,errDescription := []},0)
    else
      let text := description++ascii ",  "++h.errDescription
      return ({s with storage := h.storage,errCode := code,errDescription := text},ERR_CODE_INVALID_JSON)

/-- `load`. -/
def load (platform : Platform) (s : RegionalParameterChannelPlanFileJson) (file : Option Bytes) :
    Option (RegionalParameterChannelPlanFileJson×ℤ) := do
  let (s,r) ← loadFile platform s.clear file
  if r=0 then return s.buildIndex else return (s,r)

end RegionalParameterChannelPlanFileJson

end LorawanServer.ChannelPlanFile
