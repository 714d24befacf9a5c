import LorawanServer.FloatNumbers
import LorawanServer.Records

/-!
# Regional channel plans and their text

The classes of `regional-parameter-channel-plan.h`, with the widths of their
members, and `toJsonString`. Every text is also written with the calls that a
reader makes of it.
-/

namespace LorawanServer.ChannelPlan

open CppRuntime Records IdentityText JsonDocument JsonEvents FloatNumbers
open SimulatedUplink (intText floatText)

/-- `DATA_RATE_SIZE`. -/
abbrev DATA_RATE_SIZE : ℕ := 8

/-- `TX_POWER_OFFSET_MAX_SIZE`. -/
def TX_POWER_OFFSET_MAX_SIZE : ℕ := 16

/-- The class `DataRate`. -/
structure DataRate where
  /-- For uplinks. -/
  uplink : Bool
  /-- For downlinks. -/
  downlink : Bool
  /-- Modulation. -/
  modulation : Modulation
  /-- Bandwidth. -/
  bandwidth : Bandwidth
  /-- `SPREADING_FACTOR`, by its number. -/
  spreadingFactor : UInt32
  /-- Bits per second of FSK. -/
  bps : UInt32
  deriving DecidableEq

/-- The class `Channel`. -/
structure Channel where
  /-- Frequency in Hz. -/
  frequency : Int32
  /-- Lowest data rate. -/
  minDR : Int32
  /-- Highest data rate. -/
  maxDR : Int32
  /-- The channel is in use. -/
  enabled : Bool
  /-- The channel was configured by the user. -/
  custom : Bool
  deriving DecidableEq

/-- The class `BandDefaults`. -/
structure BandDefaults where
  /-- Frequency of the second window. -/
  RX2Frequency : Int32
  /-- Data rate of the second window. -/
  RX2DataRate : Int32
  /-- Delay of the first window. -/
  ReceiveDelay1 : Int32
  /-- Delay of the second window. -/
  ReceiveDelay2 : Int32
  /-- Delay of the first join window. -/
  JoinAcceptDelay1 : Int32
  /-- Delay of the second join window. -/
  JoinAcceptDelay2 : Int32
  deriving DecidableEq

/-- The class `MaxPayloadSize`. -/
structure MaxPayloadSize where
  /-- Longest MAC payload. -/
  m : UInt8
  /-- Longest application payload without options. -/
  n : UInt8
  deriving DecidableEq

/-- The class `RegionalParameterChannelPlan`. -/
structure RegionalParameterChannelPlan where
  /-- Number of the plan. -/
  id : UInt8
  /-- Name of the plan. -/
  name : Bytes
  /-- Common name. -/
  cn : Bytes
  /-- Highest radiated power in dBm, the value of a `float`. -/
  maxUplinkEIRP : ℚ
  /-- Power of downlinks. -/
  defaultDownlinkTXPower : Int32
  /-- Frequency of the ping slots. -/
  pingSlotFrequency : Int32
  /-- The plan has the command for transmit parameters. -/
  implementsTXParamSetup : Bool
  /-- The default region. -/
  defaultRegion : Bool
  /-- The plan takes more channels. -/
  supportsExtraChannels : Bool
  /-- Defaults of the band. -/
  bandDefaults : BandDefaults
  /-- Data rates. -/
  dataRates : Vector DataRate DATA_RATE_SIZE
  /-- Longest payloads. -/
  maxPayloadSizePerDataRate : Vector MaxPayloadSize DATA_RATE_SIZE
  /-- Longest payloads with a repeater. -/
  maxPayloadSizePerDataRateRepeater : Vector MaxPayloadSize DATA_RATE_SIZE
  /-- Data rates of the first window. -/
  rx1DataRateOffsets : Vector (List UInt8) DATA_RATE_SIZE
  /-- Steps below the highest power. -/
  txPowerOffsets : List Int8
  /-- Channels of uplinks. -/
  uplinkChannels : List Channel
  /-- Channels of downlinks. -/
  downlinkChannels : List Channel
  deriving DecidableEq

/-- The class `RegionBands`. -/
structure RegionBands where
  /-- `REGIONAL_PARAMETERS_VERSION`, the same bit fields as `LORAWAN_VERSION`. -/
  regionalParametersVersion : LorawanVersion
  /-- The plans. -/
  bands : List RegionalParameterChannelPlan
  deriving DecidableEq

/-- The constructor `DataRate()`. -/
def DataRate.new : DataRate := ⟨true,true,.lora,.khz125,11,0⟩

/-- The constructor `Channel()`. -/
def Channel.new : Channel := ⟨0,0,0,true,false⟩

/-- The constructor `BandDefaults()`. -/
def BandDefaults.new : BandDefaults := ⟨0,0,0,0,0,0⟩

/-- The constructor `MaxPayloadSize()`. -/
def MaxPayloadSize.new : MaxPayloadSize := ⟨0,0⟩

/-- The constructor `RegionalParameterChannelPlan()`. -/
def RegionalParameterChannelPlan.new : RegionalParameterChannelPlan where
  id := 0
  name := []
  cn := []
  maxUplinkEIRP := 0
  defaultDownlinkTXPower := 0
  pingSlotFrequency := 0
  implementsTXParamSetup := false
  defaultRegion := false
  supportsExtraChannels := false
  bandDefaults := .new
  dataRates := Vector.replicate _ .new
  maxPayloadSizePerDataRate := Vector.replicate _ .new
  maxPayloadSizePerDataRateRepeater := Vector.replicate _ .new
  rx1DataRateOffsets := Vector.replicate _ []
  txPowerOffsets := []
  uplinkChannels := []
  downlinkChannels := []

/-- The constructor `RegionBands()`. -/
def RegionBands.new : RegionBands := ⟨⟨0,0,0⟩,[]⟩

/-- `REGIONAL_PARAMETERS_VERSION2string`. -/
def REGIONAL_PARAMETERS_VERSION2string (value : LorawanVersion) : Bytes := LORAWAN_VERSION2string value

/-- `string2REGIONAL_PARAMETERS_VERSION`, statement for statement
`string2LORAWAN_VERSION`. -/
def string2REGIONAL_PARAMETERS_VERSION (value : Bytes) : LorawanVersion := string2LORAWAN_VERSION value

/-- `MODULATION2String`. -/
def MODULATION2String : Modulation → Bytes
  | .fsk => ascii "FSK"
  | .lora => ascii "LORA"

/-- `string2MODULATION`. -/
def string2MODULATION (value : Bytes) : Modulation := if cString value=ascii "FSK" then .fsk else .lora

/-- `BANDWIDTH2String`. -/
def BANDWIDTH2String : Bandwidth → Bytes
  | .khz7 => ascii "7.8"
  | .khz10 => ascii "10.4"
  | .khz15 => ascii "15.6"
  | .khz20 => ascii "20.8"
  | .khz31 => ascii "31.2"
  | .khz41 => ascii "41.6"
  | .khz62 => ascii "62.5"
  | .khz125 => ascii "125"
  | .khz250 => ascii "250"
  | .khz500 => ascii "500"

/-- `int2BANDWIDTH`. -/
def int2BANDWIDTH (value : ℤ) : Bandwidth :=
  if value=7 then .khz7
  else if value=10 then .khz10
  else if value=15 then .khz15
  else if value=20 then .khz20
  else if value=31 then .khz31
  else if value=41 then .khz41
  else if value=62 then .khz62
  else if value=125 then .khz125
  else if value=250 then .khz250
  else if value=500 then .khz500
  else .khz7

/-- `double2BANDWIDTH`. Past 500 the first comparison decides. -/
def double2BANDWIDTH (value : ℚ) : Bandwidth :=
  if value≤500 then int2BANDWIDTH (if value<0 then ⌈value⌉ else ⌊value⌋)
  else if 7000≤value then .khz7
  else if 10000≤value then .khz10
  else if 15000≤value then .khz15
  else if 20000≤value then .khz20
  else if 31000≤value then .khz31
  else if 41000≤value then .khz41
  else if 62000≤value then .khz62
  else if 125000≤value then .khz125
  else if 250000≤value then .khz250
  else if 500000≤value then .khz500
  else .khz7

/-- `STR_TRUE_FALSE`. -/
def boolText (value : Bool) : Bytes := if value then ascii "true" else ascii "false"

/-- `DataRate::toJsonString`. -/
def DataRate.toJsonString (r : DataRate) : Bytes := objectText
  [(ascii "uplink",boolText r.uplink),(ascii "downlink",boolText r.downlink),
    (ascii "modulation",quoted (MODULATION2String r.modulation)),(ascii "bandwidth",BANDWIDTH2String r.bandwidth),
    (ascii "spreadingFactor",intText r.spreadingFactor.toNat),(ascii "bps",intText r.bps.toNat)]

/-- `Channel::toJsonString`. -/
def Channel.toJsonString (c : Channel) : Bytes := objectText
  [(ascii "frequency",intText c.frequency.toInt),(ascii "minDR",intText c.minDR.toInt),
    (ascii "maxDR",intText c.maxDR.toInt),(ascii "enabled",boolText c.enabled),(ascii "custom",boolText c.custom)]

/-- `BandDefaults::toJsonString`. -/
def BandDefaults.toJsonString (d : BandDefaults) : Bytes := objectText
  [(ascii "RX2Frequency",intText d.RX2Frequency.toInt),(ascii "RX2DataRate",intText d.RX2DataRate.toInt),
    (ascii "ReceiveDelay1",intText d.ReceiveDelay1.toInt),(ascii "ReceiveDelay2",intText d.ReceiveDelay2.toInt),
    (ascii "JoinAcceptDelay1",intText d.JoinAcceptDelay1.toInt),
    (ascii "JoinAcceptDelay2",intText d.JoinAcceptDelay2.toInt)]

/-- `MaxPayloadSize::toJsonString`. -/
def MaxPayloadSize.toJsonString (s : MaxPayloadSize) : Bytes := objectText
  [(ascii "m",intText s.m.toNat),(ascii "n",intText s.n.toNat)]

/-- `RegionalParameterChannelPlan::toJsonString`. -/
def RegionalParameterChannelPlan.toJsonString (b : RegionalParameterChannelPlan) : Bytes := objectText
  [(ascii "id",intText b.id.toNat),(ascii "name",quoted b.name),(ascii "cn",quoted b.cn),
    (ascii "implementsTXParamSetup",boolText b.implementsTXParamSetup),
    (ascii "maxUplinkEIRP",floatText b.maxUplinkEIRP),
    (ascii "pingSlotFrequency",intText b.pingSlotFrequency.toInt),
    (ascii "defaultDownlinkTXPower",intText b.defaultDownlinkTXPower.toInt),
    (ascii "supportsExtraChannels",boolText b.supportsExtraChannels),
    (ascii "defaultRegion",boolText b.defaultRegion),(ascii "bandDefaults",b.bandDefaults.toJsonString),
    (ascii "dataRates",arrayText (b.dataRates.toList.map DataRate.toJsonString)),
    (ascii "uplinkChannels",arrayText (b.uplinkChannels.map Channel.toJsonString)),
    (ascii "downlinkChannels",arrayText (b.downlinkChannels.map Channel.toJsonString)),
    (ascii "maxPayloadSizePerDataRate",arrayText (b.maxPayloadSizePerDataRate.toList.map MaxPayloadSize.toJsonString)),
    (ascii "maxPayloadSizePerDataRateRepeater",
      arrayText (b.maxPayloadSizePerDataRateRepeater.toList.map MaxPayloadSize.toJsonString)),
    (ascii "rx1DataRateOffsets",
      arrayText (b.rx1DataRateOffsets.toList.map fun v => arrayText (v.map fun offset => intText offset.toNat))),
    (ascii "txPowerOffsets",arrayText (b.txPowerOffsets.map fun offset => intText offset.toInt))]

/-- `RegionBands::toJsonString`. -/
def RegionBands.toJsonString (rb : RegionBands) : Bytes := objectText
  [(ascii "regionalParametersVersion",quoted (REGIONAL_PARAMETERS_VERSION2string rb.regionalParametersVersion)),
    (ascii "RegionBands",arrayText (rb.bands.map RegionalParameterChannelPlan.toJsonString))]

/-- A bandwidth with its calls. -/
def bandwidthWritten (value : Bandwidth) : Written :=
  match value with
  | .khz125 => .int 125
  | .khz250 => .int 250
  | .khz500 => .int 500
  | other => .double (BANDWIDTH2String other)

/-- A `float` with its calls: from one million on it is no integer. -/
def floatWritten (value : ℚ) : Written :=
  if abs value<10^6 then .int ⌊value⌋ else .double (floatText value)

/-- A data rate with its calls. -/
def DataRate.written (r : DataRate) : Written := .object
  [(ascii "uplink",.bool r.uplink),(ascii "downlink",.bool r.downlink),
    (ascii "modulation",.string (MODULATION2String r.modulation)),(ascii "bandwidth",bandwidthWritten r.bandwidth),
    (ascii "spreadingFactor",.int r.spreadingFactor.toNat),(ascii "bps",.int r.bps.toNat)]

/-- A channel with its calls. -/
def Channel.written (c : Channel) : Written := .object
  [(ascii "frequency",.int c.frequency.toInt),(ascii "minDR",.int c.minDR.toInt),
    (ascii "maxDR",.int c.maxDR.toInt),(ascii "enabled",.bool c.enabled),(ascii "custom",.bool c.custom)]

/-- Defaults of a band with their calls. -/
def BandDefaults.written (d : BandDefaults) : Written := .object
  [(ascii "RX2Frequency",.int d.RX2Frequency.toInt),(ascii "RX2DataRate",.int d.RX2DataRate.toInt),
    (ascii "ReceiveDelay1",.int d.ReceiveDelay1.toInt),(ascii "ReceiveDelay2",.int d.ReceiveDelay2.toInt),
    (ascii "JoinAcceptDelay1",.int d.JoinAcceptDelay1.toInt),(ascii "JoinAcceptDelay2",.int d.JoinAcceptDelay2.toInt)]

/-- Longest payloads with their calls. -/
def MaxPayloadSize.written (s : MaxPayloadSize) : Written := .object
  [(ascii "m",.int s.m.toNat),(ascii "n",.int s.n.toNat)]

/-- Data rates of the first window with their calls. -/
def offsetsWritten (offsets : List UInt8) : Written := .array (offsets.map fun offset => .int offset.toNat)

/-- A plan with its calls. -/
def RegionalParameterChannelPlan.written (b : RegionalParameterChannelPlan) : Written := .object
  [(ascii "id",.int b.id.toNat),(ascii "name",.string b.name),(ascii "cn",.string b.cn),
    (ascii "implementsTXParamSetup",.bool b.implementsTXParamSetup),
    (ascii "maxUplinkEIRP",floatWritten b.maxUplinkEIRP),
    (ascii "pingSlotFrequency",.int b.pingSlotFrequency.toInt),
    (ascii "defaultDownlinkTXPower",.int b.defaultDownlinkTXPower.toInt),
    (ascii "supportsExtraChannels",.bool b.supportsExtraChannels),
    (ascii "defaultRegion",.bool b.defaultRegion),(ascii "bandDefaults",b.bandDefaults.written),
    (ascii "dataRates",.array (b.dataRates.toList.map DataRate.written)),
    (ascii "uplinkChannels",.array (b.uplinkChannels.map Channel.written)),
    (ascii "downlinkChannels",.array (b.downlinkChannels.map Channel.written)),
    (ascii "maxPayloadSizePerDataRate",.array (b.maxPayloadSizePerDataRate.toList.map MaxPayloadSize.written)),
    (ascii "maxPayloadSizePerDataRateRepeater",
      .array (b.maxPayloadSizePerDataRateRepeater.toList.map MaxPayloadSize.written)),
    (ascii "rx1DataRateOffsets",.array (b.rx1DataRateOffsets.toList.map offsetsWritten)),
    (ascii "txPowerOffsets",.array (b.txPowerOffsets.map fun offset => .int offset.toInt))]

/-- All plans with their calls. -/
def RegionBands.written (rb : RegionBands) : Written := .object
  [(ascii "regionalParametersVersion",
      .string (REGIONAL_PARAMETERS_VERSION2string rb.regionalParametersVersion)),
    (ascii "RegionBands",.array (rb.bands.map RegionalParameterChannelPlan.written))]

/-- What the text needs to be JSON: names without characters that JSON escapes,
integral powers in the range of a `float`, and no more steps than the loader
takes. -/
structure RegionalParameterChannelPlan.IsWritable (b : RegionalParameterChannelPlan) : Prop where
  /-- The name spells itself. -/
  name : ∀ byte∈b.name,IsClean byte
  /-- So does the common name. -/
  cn : ∀ byte∈b.cn,IsClean byte
  /-- The power is integral and finite. -/
  power : ∃ n : ℤ,b.maxUplinkEIRP=n ∧ abs n<2^128
  /-- The steps fit. -/
  offsets : b.txPowerOffsets.length≤TX_POWER_OFFSET_MAX_SIZE

/-- The text of an integer. -/
@[simp] theorem int_text (n : ℤ) : (Written.int n).text=intText n := by
  rw [Written.int,signed,intText]
  simp only [decide_eq_true_eq]

/-- The text of a literal. -/
@[simp] theorem bool_text (value : Bool) : (Written.bool value).text=boolText value := rfl

/-- The text of a string. -/
@[simp] theorem string_text (text : Bytes) : (Written.string text).text=quoted text := rfl

/-- The text of a bandwidth. -/
@[simp] theorem bandwidthWritten_text (value : Bandwidth) : (bandwidthWritten value).text=BANDWIDTH2String value := by
  cases value <;> decide +kernel

/-- The text of an object. -/
@[simp] theorem object_text (members : List (Bytes×Written)) :
    (Written.object members).text=objectText (members.map fun m => (m.1,m.2.text)) := rfl

/-- The text of an array. -/
@[simp] theorem array_text (items : List Written) : (Written.array items).text=arrayText (items.map Written.text) := rfl

/-- The text of a data rate. -/
@[simp] theorem DataRate.written_text (r : DataRate) : r.written.text=r.toJsonString := by
  simp [DataRate.written,DataRate.toJsonString]

/-- The text of a channel. -/
@[simp] theorem Channel.written_text (c : Channel) : c.written.text=c.toJsonString := by
  simp [Channel.written,Channel.toJsonString]

/-- The text of the defaults. -/
@[simp] theorem BandDefaults.written_text (d : BandDefaults) : d.written.text=d.toJsonString := by
  simp [BandDefaults.written,BandDefaults.toJsonString]

/-- The text of the longest payloads. -/
@[simp] theorem MaxPayloadSize.written_text (s : MaxPayloadSize) : s.written.text=s.toJsonString := by
  simp [MaxPayloadSize.written,MaxPayloadSize.toJsonString]

/-- The text of data rates of the first window. -/
@[simp] theorem offsetsWritten_text (offsets : List UInt8) :
    (offsetsWritten offsets).text=arrayText (offsets.map fun offset => intText offset.toNat) := by
  simp [offsetsWritten,Function.comp_def]

/-- The text of an integral power. -/
theorem floatWritten_text {value : ℚ} (h : ∃ n : ℤ,value=n) : (floatWritten value).text=floatText value := by
  obtain ⟨n,rfl⟩ := h
  rw [floatWritten]
  split
  · next hsmall =>
    have hn : abs n<10^6 := by exact_mod_cast hsmall
    rw [int_text,Int.floor_intCast,floatText_int hn]
  · rfl

/-- The text of a plan. -/
theorem RegionalParameterChannelPlan.written_text {b : RegionalParameterChannelPlan} (h : b.IsWritable) :
    b.written.text=b.toJsonString := by
  obtain ⟨n,hn,-⟩ := h.power
  simp [RegionalParameterChannelPlan.written,RegionalParameterChannelPlan.toJsonString,floatWritten_text ⟨n,hn⟩,
    Function.comp_def]

/-- The text of all plans. -/
theorem RegionBands.written_text {rb : RegionBands} (h : ∀ b∈rb.bands,b.IsWritable) :
    rb.written.text=rb.toJsonString := by
  have hbands : rb.bands.map (fun b => b.written.text)=rb.bands.map RegionalParameterChannelPlan.toJsonString :=
    List.map_congr_left fun b hb => RegionalParameterChannelPlan.written_text (h b hb)
  simp only [RegionBands.written,RegionBands.toJsonString,object_text,array_text,string_text,List.map_cons,
    List.map_nil,List.map_map,Function.comp_def,hbands]

/-- An object whose names are clean. -/
theorem isRead_named {tooBig : Bytes → Bool} (names : List Bytes) {members : List (Bytes×Written)}
    (hnames : members.map Prod.fst=names)
    (hclean : (names.all fun name => name.all fun byte => decide (IsClean byte))=true) (hne : members≠[])
    (h : ∀ m∈members,m.2.IsRead tooBig) : (Written.object members).IsRead tooBig := by
  refine isRead_object hne fun m hm => ⟨?_,h m hm⟩
  have hname : m.1∈names := hnames ▸ List.mem_map_of_mem hm
  exact isClean_of_all (List.all_eq_true.mp hclean _ hname)

/-- An unsigned number of at most 32 bits. -/
theorem isRead_nat {tooBig : Bytes → Bool} {n : ℕ} (h : n<2^32) : (Written.int n).IsRead tooBig :=
  isRead_int (by omega) (by omega)

/-- An `int`. -/
theorem isRead_int32 {tooBig : Bytes → Bool} (n : Int32) : (Written.int n.toInt).IsRead tooBig := by
  have hlow := n.le_toInt
  have hhigh := n.toInt_lt
  exact isRead_int (by omega) (by omega)

/-- A channel. -/
theorem isRead_channel {tooBig : Bytes → Bool} (c : Channel) : c.written.IsRead tooBig := by
  refine isRead_named (["frequency","minDR","maxDR","enabled","custom"].map ascii) rfl (by decide +kernel)
    (List.cons_ne_nil _ _) ?_
  simp only [List.forall_mem_cons,List.not_mem_nil,false_imp_iff,implies_true,and_true]
  exact ⟨isRead_int32 _,isRead_int32 _,isRead_int32 _,isRead_bool _,isRead_bool _⟩

/-- Defaults of a band. -/
theorem isRead_bandDefaults {tooBig : Bytes → Bool} (d : BandDefaults) : d.written.IsRead tooBig := by
  refine isRead_named (["RX2Frequency","RX2DataRate","ReceiveDelay1","ReceiveDelay2","JoinAcceptDelay1",
    "JoinAcceptDelay2"].map ascii) rfl (by decide +kernel) (List.cons_ne_nil _ _) ?_
  simp only [List.forall_mem_cons,List.not_mem_nil,false_imp_iff,implies_true,and_true]
  exact ⟨isRead_int32 _,isRead_int32 _,isRead_int32 _,isRead_int32 _,isRead_int32 _,isRead_int32 _⟩

/-- Longest payloads. -/
theorem isRead_maxPayloadSize {tooBig : Bytes → Bool} (p : MaxPayloadSize) : p.written.IsRead tooBig := by
  have hm := p.m.toNat_lt
  have hn := p.n.toNat_lt
  refine isRead_named (["m","n"].map ascii) rfl (by decide +kernel) (List.cons_ne_nil _ _) ?_
  simp only [List.forall_mem_cons,List.not_mem_nil,false_imp_iff,implies_true,and_true]
  exact ⟨isRead_nat (by omega),isRead_nat (by omega)⟩

/-- Data rates of the first window. -/
theorem isRead_offsets {tooBig : Bytes → Bool} (offsets : List UInt8) : (offsetsWritten offsets).IsRead tooBig := by
  refine isRead_array fun item hi => ?_
  obtain ⟨offset,-,rfl⟩ := List.mem_map.mp hi
  have h := offset.toNat_lt
  exact isRead_nat (by omega)

/-- An array of written values. -/
theorem isRead_map {ι : Type*} {tooBig : Bytes → Bool} {write : ι → Written} {items : List ι}
    (h : ∀ item∈items,(write item).IsRead tooBig) : (Written.array (items.map write)).IsRead tooBig := by
  refine isRead_array fun w hw => ?_
  obtain ⟨item,hi,rfl⟩ := List.mem_map.mp hw
  exact h item hi

section Reading

variable {tooBig : Bytes → Bool} (hbig : ∀ value : ℚ,abs value<2^128 → tooBig (floatText value)=false)
include hbig

/-- A number with a point is read. -/
theorem isRead_point (whole fraction : ℕ) {value : ℚ} (hvalue : abs value<2^128)
    (h : floatText value=decimal whole++46::decimal fraction) :
    (Written.double (decimal whole++46::decimal fraction)).IsRead tooBig := by
  have hf := isNumeral_decimal fraction
  have htext : decimal whole++46::decimal fraction=signed false (decimal whole++(46::decimal fraction++[])) := by
    rw [List.append_nil]
    rfl
  have hfits := hbig value hvalue
  rw [h,htext] at hfits
  rw [htext]
  exact isRead_double (isNumeral_decimal whole) (.digits hf.ne_nil hf.all_digits) .none (.inl (List.cons_ne_nil _ _)) hfits

/-- A bandwidth is read. -/
theorem isRead_bandwidth (value : Bandwidth) : (bandwidthWritten value).IsRead tooBig := by
  have hint : ∀ n : ℕ,n<2^64 → (Written.int n).IsRead tooBig := fun n hn => isRead_int (by omega) (by exact_mod_cast hn)
  have htable : (∃ n : ℕ,n<2^64 ∧ bandwidthWritten value=.int n) ∨
      ∃ whole fraction power,abs power<2^128 ∧ floatText power=decimal whole++46::decimal fraction ∧
        bandwidthWritten value=.double (decimal whole++46::decimal fraction) := by
    cases value
    · exact .inr ⟨7,8,78/10,by decide +kernel,by decide +kernel,congrArg Written.double (by decide +kernel)⟩
    · exact .inr ⟨10,4,104/10,by decide +kernel,by decide +kernel,congrArg Written.double (by decide +kernel)⟩
    · exact .inr ⟨15,6,156/10,by decide +kernel,by decide +kernel,congrArg Written.double (by decide +kernel)⟩
    · exact .inr ⟨20,8,208/10,by decide +kernel,by decide +kernel,congrArg Written.double (by decide +kernel)⟩
    · exact .inr ⟨31,2,312/10,by decide +kernel,by decide +kernel,congrArg Written.double (by decide +kernel)⟩
    · exact .inr ⟨41,6,416/10,by decide +kernel,by decide +kernel,congrArg Written.double (by decide +kernel)⟩
    · exact .inr ⟨62,5,625/10,by decide +kernel,by decide +kernel,congrArg Written.double (by decide +kernel)⟩
    · exact .inl ⟨125,by decide,rfl⟩
    · exact .inl ⟨250,by decide,rfl⟩
    · exact .inl ⟨500,by decide,rfl⟩
  rcases htable with ⟨n,hn,heq⟩|⟨whole,fraction,power,hp,ht,heq⟩
  · rw [heq]
    exact hint n hn
  · rw [heq]
    exact isRead_point hbig whole fraction hp ht

/-- An integral power is read. -/
theorem isRead_float {value : ℚ} (h : ∃ n : ℤ,value=n ∧ abs n<2^128) : (floatWritten value).IsRead tooBig := by
  obtain ⟨n,rfl,hrange⟩ := h
  rw [floatWritten]
  split
  · next hsmall =>
    have hn : abs n<10^6 := by exact_mod_cast hsmall
    obtain ⟨hlow,hhigh⟩ := abs_lt.mp hn
    rw [Int.floor_intCast]
    exact isRead_int (by omega) (by omega)
  · next hsmall =>
    have hn : 10^6≤abs n := by
      by_contra hlt
      exact hsmall (by exact_mod_cast not_le.mp hlt)
    obtain ⟨whole,fraction,exponent,htext,hw,hf,he,hne⟩ := floatText_large hn
    have hfits := hbig n (by exact_mod_cast hrange)
    rw [htext] at hfits ⊢
    exact isRead_double hw hf he (.inr hne) hfits

/-- A data rate is read. -/
theorem isRead_dataRate (r : DataRate) : r.written.IsRead tooBig := by
  have hmodulation : ∀ byte∈MODULATION2String r.modulation,IsClean byte := by
    cases r.modulation <;> exact isClean_of_all (by decide +kernel)
  refine isRead_named (["uplink","downlink","modulation","bandwidth","spreadingFactor","bps"].map ascii) rfl
    (by decide +kernel) (List.cons_ne_nil _ _) ?_
  simp only [List.forall_mem_cons,List.not_mem_nil,false_imp_iff,implies_true,and_true]
  exact ⟨isRead_bool _,isRead_bool _,isRead_string hmodulation,isRead_bandwidth hbig _,
    isRead_nat r.spreadingFactor.toNat_lt,isRead_nat r.bps.toNat_lt⟩

/-- A plan is read. -/
theorem isRead_plan {b : RegionalParameterChannelPlan} (h : b.IsWritable) : b.written.IsRead tooBig := by
  have hid := b.id.toNat_lt
  refine isRead_named (["id","name","cn","implementsTXParamSetup","maxUplinkEIRP","pingSlotFrequency",
    "defaultDownlinkTXPower","supportsExtraChannels","defaultRegion","bandDefaults","dataRates","uplinkChannels",
    "downlinkChannels","maxPayloadSizePerDataRate","maxPayloadSizePerDataRateRepeater","rx1DataRateOffsets",
    "txPowerOffsets"].map ascii) rfl (by decide +kernel) (List.cons_ne_nil _ _) ?_
  simp only [List.forall_mem_cons,List.not_mem_nil,false_imp_iff,implies_true,and_true]
  refine ⟨isRead_nat (by omega),isRead_string h.name,isRead_string h.cn,isRead_bool _,isRead_float hbig h.power,
    isRead_int32 _,isRead_int32 _,isRead_bool _,isRead_bool _,isRead_bandDefaults _,
    isRead_map fun r _ => isRead_dataRate hbig r,isRead_map fun c _ => isRead_channel c,
    isRead_map fun c _ => isRead_channel c,isRead_map fun p _ => isRead_maxPayloadSize p,
    isRead_map fun p _ => isRead_maxPayloadSize p,isRead_map fun offsets _ => isRead_offsets offsets,
    isRead_map fun offset _ => ?_⟩
  have hlow := offset.le_toInt
  have hhigh := offset.toInt_lt
  exact isRead_int (by omega) (by omega)

/-- All plans are read. -/
theorem isRead_bands {rb : RegionBands} (h : ∀ b∈rb.bands,b.IsWritable) : rb.written.IsRead tooBig := by
  refine isRead_named (["regionalParametersVersion","RegionBands"].map ascii) rfl (by decide +kernel)
    (List.cons_ne_nil _ _) ?_
  simp only [List.forall_mem_cons,List.not_mem_nil,false_imp_iff,implies_true,and_true]
  exact ⟨isRead_string (isClean_version _),isRead_map fun b hb => isRead_plan hbig (h b hb)⟩

/-- The text of all plans is read as its calls. -/
theorem readEvents_bands {rb : RegionBands} (h : ∀ b∈rb.bands,b.IsWritable) :
    readEvents tooBig rb.toJsonString=(rb.written.events,true) := by
  rw [←RegionBands.written_text h]
  exact readEvents_written (isRead_bands hbig h)

end Reading

end LorawanServer.ChannelPlan
