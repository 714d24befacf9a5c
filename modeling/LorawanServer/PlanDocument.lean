import LorawanServer.ChannelPlanMoves

/-!
# Documents of channel plans

A valid document as a tree: members with values of their kinds, every name once
in its object, and no array longer than its place in a plan. A document says in
which order its members stand. Beside the calls that a reader makes of it stands
what a member writes into a plan when its array starts at a given place.
-/

namespace LorawanServer.PlanDocument

open CppRuntime Records JsonEvents FloatNumbers ChannelPlan ChannelPlanFile ChannelPlanMoves
open RegionBandsJsonHandler (modifyAt)

/-- A number that the reader passes on as an `int` or an `unsigned`. -/
structure Number where
  /-- The number. -/
  value : ℤ
  /-- No less than the least `int`. -/
  low : -2^31≤value
  /-- No more than the greatest `unsigned`. -/
  high : value<2^32

/-- Its call. -/
def Number.event (n : Number) : Event := .number (decide (n.value<0)) n.value.natAbs

/-- Members of one kind of object, and what each of them writes. -/
class Member (μ : Type) (α : outParam Type) where
  /-- Key of the name. -/
  key : μ → Key
  /-- Call of the value. -/
  event : μ → Event
  /-- What is written. -/
  write : μ → α → α
  /-- The name is in the table. -/
  key_ne_none : ∀ m,key m≠.none
  /-- Members of different names are written in any order. -/
  commute : ∀ m m' a,key m≠ key m' → write m (write m' a)=write m' (write m a)

/-- The name of a key. -/
def nameOf (key : Key) : String := ((ATTR_REGION_BAND_NAMES.find? fun attr => attr.1=key).getD (.none,"")).2

/-- Every name is found again. -/
theorem names_nameOf {key : Key} (h : key≠.none) : Names (nameOf key) key := by
  have hall : ∀ attr∈ATTR_REGION_BAND_NAMES.drop 1,getAttrByName (ascii (nameOf attr.1))=attr.1 := by decide +kernel
  have hmem : key∈(ATTR_REGION_BAND_NAMES.drop 1).map Prod.fst := by
    cases key with
    | none => exact absurd rfl h
    | _ => decide
  obtain ⟨attr,ha,rfl⟩ := List.mem_map.mp hmem
  exact ⟨hall attr ha,h⟩

/-- A member of a data rate. -/
inductive RateMember where
  | uplink (value : Bool)
  | downlink (value : Bool)
  | modulation (text : Bytes)
  | bandwidth (n : Number)
  | bandwidthDouble (text : Bytes)
  | spreadingFactor (n : Number)
  | bps (n : Number)

instance : Member RateMember DataRate where
  key
    | .uplink _ => .uplink
    | .downlink _ => .downlink
    | .modulation _ => .modulation
    | .bandwidth _ => .bandwidth
    | .bandwidthDouble _ => .bandwidth
    | .spreadingFactor _ => .spreadingFactor
    | .bps _ => .bps
  event
    | .uplink value => .bool value
    | .downlink value => .bool value
    | .modulation text => .string text
    | .bandwidth n => n.event
    | .bandwidthDouble text => .double text
    | .spreadingFactor n => n.event
    | .bps n => n.event
  write
    | .uplink value,r => {r with uplink := value}
    | .downlink value,r => {r with downlink := value}
    | .modulation text,r => {r with modulation := string2MODULATION text}
    | .bandwidth n,r => {r with bandwidth := int2BANDWIDTH (Int32.ofInt n.value).toInt}
    | .bandwidthDouble text,r => {r with bandwidth := double2BANDWIDTH (toDouble (decimalValue text))}
    | .spreadingFactor n,r => {r with spreadingFactor := UInt32.ofInt n.value}
    | .bps n,r => {r with bps := UInt32.ofInt n.value}
  key_ne_none m h := by cases m <;> cases h
  commute m m' a h := by
    cases m <;> cases m' <;> first | rfl | exact absurd rfl h

/-- A member of a channel. -/
inductive ChannelMember where
  | frequency (n : Number)
  | minDR (n : Number)
  | maxDR (n : Number)
  | enabled (value : Bool)
  | custom (value : Bool)

/-- The member is a flag. -/
def ChannelMember.IsFlag : ChannelMember → Prop
  | .enabled _ => True
  | .custom _ => True
  | _ => False

instance : Member ChannelMember Channel where
  key
    | .frequency _ => .frequency
    | .minDR _ => .minDR
    | .maxDR _ => .maxDR
    | .enabled _ => .enabled
    | .custom _ => .custom
  event
    | .frequency n => n.event
    | .minDR n => n.event
    | .maxDR n => n.event
    | .enabled value => .bool value
    | .custom value => .bool value
  write
    | .frequency n,c => {c with frequency := Int32.ofInt n.value}
    | .minDR n,c => {c with minDR := Int32.ofInt n.value}
    | .maxDR n,c => {c with maxDR := Int32.ofInt n.value}
    | .enabled value,c => {c with enabled := value}
    | .custom value,c => {c with custom := value}
  key_ne_none m h := by cases m <;> cases h
  commute m m' a h := by
    cases m <;> cases m' <;> first | rfl | exact absurd rfl h

/-- A member of the defaults. -/
inductive DefaultsMember where
  | rx2Frequency (n : Number)
  | rx2DataRate (n : Number)
  | receiveDelay1 (n : Number)
  | receiveDelay2 (n : Number)
  | joinAcceptDelay1 (n : Number)
  | joinAcceptDelay2 (n : Number)

instance : Member DefaultsMember BandDefaults where
  key
    | .rx2Frequency _ => .rx2Frequency
    | .rx2DataRate _ => .rx2DataRate
    | .receiveDelay1 _ => .receiveDelay1
    | .receiveDelay2 _ => .receiveDelay2
    | .joinAcceptDelay1 _ => .joinAcceptDelay1
    | .joinAcceptDelay2 _ => .joinAcceptDelay2
  event
    | .rx2Frequency n => n.event
    | .rx2DataRate n => n.event
    | .receiveDelay1 n => n.event
    | .receiveDelay2 n => n.event
    | .joinAcceptDelay1 n => n.event
    | .joinAcceptDelay2 n => n.event
  write
    | .rx2Frequency n,d => {d with RX2Frequency := Int32.ofInt n.value}
    | .rx2DataRate n,d => {d with RX2DataRate := Int32.ofInt n.value}
    | .receiveDelay1 n,d => {d with ReceiveDelay1 := Int32.ofInt n.value}
    | .receiveDelay2 n,d => {d with ReceiveDelay2 := Int32.ofInt n.value}
    | .joinAcceptDelay1 n,d => {d with JoinAcceptDelay1 := Int32.ofInt n.value}
    | .joinAcceptDelay2 n,d => {d with JoinAcceptDelay2 := Int32.ofInt n.value}
  key_ne_none m h := by cases m <;> cases h
  commute m m' a h := by
    cases m <;> cases m' <;> first | rfl | exact absurd rfl h

/-- A member of the longest payloads. -/
inductive SizeMember where
  | m (n : Number)
  | n (n : Number)

instance : Member SizeMember MaxPayloadSize where
  key
    | .m _ => .m
    | .n _ => .n
  event
    | .m n => n.event
    | .n n => n.event
  write
    | .m n,p => {p with m := UInt8.ofInt n.value}
    | .n n,p => {p with n := UInt8.ofInt n.value}
  key_ne_none m h := by cases m <;> cases h
  commute m m' a h := by
    cases m <;> cases m' <;> first | rfl | exact absurd rfl h

/-- A member of a plan that is no object and no array. -/
inductive ScalarMember where
  | id (n : Number)
  | name (text : Bytes)
  | cn (text : Bytes)
  | maxUplinkEIRP (n : Number)
  | maxUplinkEIRPDouble (text : Bytes)
  | defaultDownlinkTXPower (n : Number)
  | pingSlotFrequency (n : Number)
  | implementsTXParamSetup (value : Bool)
  | supportsExtraChannels (value : Bool)
  | defaultRegion (value : Bool)

instance : Member ScalarMember RegionalParameterChannelPlan where
  key
    | .id _ => .id
    | .name _ => .name
    | .cn _ => .cn
    | .maxUplinkEIRP _ => .maxUplinkEIRP
    | .maxUplinkEIRPDouble _ => .maxUplinkEIRP
    | .defaultDownlinkTXPower _ => .defaultDownlinkTXPower
    | .pingSlotFrequency _ => .pingSlotFrequency
    | .implementsTXParamSetup _ => .implementsTXParamSetup
    | .supportsExtraChannels _ => .supportsExtraChannels
    | .defaultRegion _ => .defaultRegion
  event
    | .id n => n.event
    | .name text => .string text
    | .cn text => .string text
    | .maxUplinkEIRP n => n.event
    | .maxUplinkEIRPDouble text => .double text
    | .defaultDownlinkTXPower n => n.event
    | .pingSlotFrequency n => n.event
    | .implementsTXParamSetup value => .bool value
    | .supportsExtraChannels value => .bool value
    | .defaultRegion value => .bool value
  write
    | .id n,rb => {rb with id := UInt8.ofInt n.value}
    | .name text,rb => {rb with name := text}
    | .cn text,rb => {rb with cn := text}
    | .maxUplinkEIRP n,rb => {rb with maxUplinkEIRP := toFloat n.value}
    | .maxUplinkEIRPDouble text,rb => {rb with maxUplinkEIRP := toFloat (toDouble (decimalValue text))}
    | .defaultDownlinkTXPower n,rb => {rb with defaultDownlinkTXPower := Int32.ofInt n.value}
    | .pingSlotFrequency n,rb => {rb with pingSlotFrequency := Int32.ofInt n.value}
    | .implementsTXParamSetup value,rb => {rb with implementsTXParamSetup := value}
    | .supportsExtraChannels value,rb => {rb with supportsExtraChannels := value}
    | .defaultRegion value,rb => {rb with defaultRegion := value}
  key_ne_none m h := by cases m <;> cases h
  commute m m' a h := by
    cases m <;> cases m' <;> first | rfl | exact absurd rfl h

/-- An object: its members as they stand in the text, every name once. -/
structure Object (μ : Type) {α : Type} [Member μ α] where
  /-- The members. -/
  members : List μ
  /-- No name occurs twice. -/
  distinct : (members.map Member.key).Nodup

namespace Object

variable {μ α : Type} [Member μ α]

/-- The calls for the members. -/
def inner (o : Object μ) : List Event :=
  o.members.flatMap fun m => [.key (ascii (nameOf (Member.key m))),Member.event m]

/-- The calls for an object. -/
def events (o : Object μ) : List Event := .startObject::(o.inner++[.endObject])

/-- What the members write. -/
def write (o : Object μ) (a : α) : α := o.members.foldl (fun a m => Member.write m a) a

/-- The same members in another order. -/
def Reordered (o o' : Object μ) : Prop := o.members.Perm o'.members

/-- The order of the members does not matter. -/
theorem write_reordered {o o' : Object μ} (h : o.Reordered o') : o.write=o'.write := by
  funext a
  refine h.foldl_eq' (fun m hm m' hm' a => ?_) a
  by_cases hkey : Member.key m=Member.key m'
  · rw [List.inj_on_of_nodup_map o.distinct hm hm' hkey]
  · exact (Member.commute m m' a hkey).symm

end Object

/-- A member of a plan. -/
inductive BandMember where
  | scalar (m : ScalarMember)
  | bandDefaults (o : Object DefaultsMember)
  | dataRates (items : List (Object RateMember))
  | uplinkChannels (items : List (Object ChannelMember))
  | downlinkChannels (items : List (Object ChannelMember))
  | maxPayloadSizePerDataRate (items : List (Object SizeMember))
  | maxPayloadSizePerDataRateRepeater (items : List (Object SizeMember))
  | rx1DataRateOffsets (items : List (List Number))
  | txPowerOffsets (items : List Number)

/-- Changes of the places of a vector from one place on. -/
def placeFrom {α : Type*} {n : ℕ} (v : Vector α n) (start : ℕ) : List (α → α) → Vector α n
  | [] => v
  | f::rest => placeFrom (modifyAt v start f) (start+1) rest

namespace BandMember

/-- Key of the name. -/
def key : BandMember → Key
  | .scalar m => Member.key m
  | .bandDefaults _ => .bandDefaults
  | .dataRates _ => .dataRates
  | .uplinkChannels _ => .uplinkChannels
  | .downlinkChannels _ => .downlinkChannels
  | .maxPayloadSizePerDataRate _ => .maxPayloadSizePerDataRate
  | .maxPayloadSizePerDataRateRepeater _ => .maxPayloadSizePerDataRateRepeater
  | .rx1DataRateOffsets _ => .rx1DataRateOffsets
  | .txPowerOffsets _ => .txPowerOffsets

/-- The calls for an array. -/
def arrayEvents (items : List (List Event)) : List Event := .startArray::(items.flatten++[.endArray])

/-- The calls for the value. -/
def value : BandMember → List Event
  | .scalar m => [Member.event m]
  | .bandDefaults o => o.events
  | .dataRates items => arrayEvents (items.map Object.events)
  | .uplinkChannels items => arrayEvents (items.map Object.events)
  | .downlinkChannels items => arrayEvents (items.map Object.events)
  | .maxPayloadSizePerDataRate items => arrayEvents (items.map Object.events)
  | .maxPayloadSizePerDataRateRepeater items => arrayEvents (items.map Object.events)
  | .rx1DataRateOffsets items => arrayEvents (items.map fun list => arrayEvents (list.map fun n => [n.event]))
  | .txPowerOffsets items => arrayEvents (items.map fun n => [n.event])

/-- The calls for the member. -/
def events (m : BandMember) : List Event := .key (ascii (nameOf m.key))::m.value

/-- Elements of an array whose places are counted. -/
def count : BandMember → ℕ
  | .dataRates items => items.length
  | .maxPayloadSizePerDataRate items => items.length
  | .maxPayloadSizePerDataRateRepeater items => items.length
  | .rx1DataRateOffsets items => items.length
  | .txPowerOffsets items => items.length
  | _ => 0

/-- The array is no longer than a plan has places for it. -/
def IsSized : BandMember → Prop
  | .dataRates items => items.length≤DATA_RATE_SIZE
  | .maxPayloadSizePerDataRate items => items.length≤DATA_RATE_SIZE
  | .maxPayloadSizePerDataRateRepeater items => items.length≤DATA_RATE_SIZE
  | .rx1DataRateOffsets items => items.length≤DATA_RATE_SIZE
  | .txPowerOffsets items => items.length≤TX_POWER_OFFSET_MAX_SIZE
  | _ => True

/-- No channel of a downlink array has a flag. -/
def IsFlagless : BandMember → Prop
  | .downlinkChannels items => ∀ o∈items,∀ m∈o.members,¬m.IsFlag
  | _ => True

/-- What the member writes when its array starts at a place. -/
def write (m : BandMember) (start : ℕ) (b : RegionalParameterChannelPlan) : RegionalParameterChannelPlan :=
  match m with
  | .scalar m => Member.write m b
  | .bandDefaults o => {b with bandDefaults := o.write b.bandDefaults}
  | .dataRates items => {b with dataRates := placeFrom b.dataRates start (items.map Object.write)}
  | .uplinkChannels items => {b with uplinkChannels := b.uplinkChannels++items.map fun o => o.write .new}
  | .downlinkChannels items => {b with downlinkChannels := b.downlinkChannels++items.map fun o => o.write .new}
  | .maxPayloadSizePerDataRate items =>
    {b with maxPayloadSizePerDataRate := placeFrom b.maxPayloadSizePerDataRate start (items.map Object.write)}
  | .maxPayloadSizePerDataRateRepeater items =>
    {b with
      maxPayloadSizePerDataRateRepeater := placeFrom b.maxPayloadSizePerDataRateRepeater start (items.map Object.write)}
  | .rx1DataRateOffsets items =>
    {b with
      rx1DataRateOffsets :=
        placeFrom b.rx1DataRateOffsets start (items.map fun list old => old++list.map fun n => UInt8.ofInt n.value)}
  | .txPowerOffsets items => {b with txPowerOffsets := b.txPowerOffsets++items.map fun n => Int8.ofInt n.value}

/-- Every item that is written has a place. -/
def Within {ι : Type*} (size start : ℕ) (items : List ι) (isWritten : ι → Prop) : Prop :=
  ∀ i item,items[i]?=some item → isWritten item → start+i< size

/-- Every item has a place when the array starts at the given one. -/
def Fits (start : ℕ) : BandMember → Prop
  | .dataRates items => Within DATA_RATE_SIZE start items fun o => o.members≠[]
  | .maxPayloadSizePerDataRate items => Within DATA_RATE_SIZE start items fun o => o.members≠[]
  | .maxPayloadSizePerDataRateRepeater items => Within DATA_RATE_SIZE start items fun o => o.members≠[]
  | .rx1DataRateOffsets items => Within DATA_RATE_SIZE start items fun list => list≠[]
  | .txPowerOffsets items => Within TX_POWER_OFFSET_MAX_SIZE start items fun _ => True
  | _ => True

/-- The array starts at its first place, or all that it writes is there before. -/
def Stays (start : ℕ) : BandMember → Prop
  | .dataRates items => start=0 ∨ ∀ o∈items,o.write .new=.new
  | .maxPayloadSizePerDataRate items => start=0 ∨ ∀ o∈items,o.write .new=.new
  | .maxPayloadSizePerDataRateRepeater items => start=0 ∨ ∀ o∈items,o.write .new=.new
  | .rx1DataRateOffsets items => start=0 ∨ ∀ list∈items,list=[]
  | _ => True

/-- The member is the same but for the order inside the defaults, the data rates
and the channels. -/
inductive Reordered : BandMember → BandMember → Prop
  /-- Nothing moves. -/
  | same (m : BandMember) : Reordered m m
  /-- Inside the defaults. -/
  | bandDefaults {o o' : Object DefaultsMember} (h : o.Reordered o') : Reordered (.bandDefaults o) (.bandDefaults o')
  /-- Inside data rates. -/
  | dataRates {items items' : List (Object RateMember)} (h : List.Forall₂ Object.Reordered items items') :
    Reordered (.dataRates items) (.dataRates items')
  /-- Inside uplink channels. -/
  | uplinkChannels {items items' : List (Object ChannelMember)} (h : List.Forall₂ Object.Reordered items items') :
    Reordered (.uplinkChannels items) (.uplinkChannels items')
  /-- Inside downlink channels. -/
  | downlinkChannels {items items' : List (Object ChannelMember)} (h : List.Forall₂ Object.Reordered items items') :
    Reordered (.downlinkChannels items) (.downlinkChannels items')

end BandMember

/-- A plan in a document. -/
structure Band where
  /-- Its members as they stand in the text. -/
  members : List BandMember
  /-- No name occurs twice. -/
  distinct : (members.map BandMember.key).Nodup
  /-- No array is too long. -/
  sized : ∀ m∈members,m.IsSized

namespace Band

/-- The calls for the members. -/
def inner (band : Band) : List Event := band.members.flatMap BandMember.events

/-- The calls for a plan. -/
def events (band : Band) : List Event := .startObject::(band.inner++[.endObject])

/-- The plan has defaults. -/
def HasDefaults (band : Band) : Prop := .bandDefaults∈band.members.map BandMember.key

instance (band : Band) : Decidable band.HasDefaults :=
  inferInstanceAs (Decidable (.bandDefaults∈band.members.map BandMember.key))

/-- Elements of the array of a name. -/
def count (band : Band) (key : Key) : ℕ := ((band.members.filter fun m => m.key=key).map BandMember.count).sum

/-- The same members in another order, and in another order inside. -/
def Reordered (band band' : Band) : Prop :=
  ∃ members,List.Forall₂ BandMember.Reordered band.members members ∧ members.Perm band'.members

end Band

/-- A document: the plans, and the version in front of them or behind them. -/
structure Document where
  /-- The version in front of the plans. -/
  leading : Option Bytes
  /-- The plans. -/
  bands : List Band
  /-- The version behind the plans. -/
  trailing : Option Bytes
  /-- There is one version at most. -/
  distinct : leading=none ∨ trailing=none

namespace Document

/-- The calls for the version. -/
def versionEvents : Option Bytes → List Event
  | none => []
  | some text => [.key (ascii (nameOf .regionalParametersVersion)),.string text]

/-- The calls for a document. -/
def events (d : Document) : List Event :=
  .startObject::(versionEvents d.leading++.key (ascii (nameOf .regionBands))::
    (BandMember.arrayEvents (d.bands.map Band.events)++(versionEvents d.trailing++[.endObject])))

/-- The same plans with their members in another order. -/
def Reordered (d d' : Document) : Prop :=
  d.leading=d'.leading ∧ d.trailing=d'.trailing ∧ List.Forall₂ Band.Reordered d.bands d'.bands

end Document

end LorawanServer.PlanDocument
