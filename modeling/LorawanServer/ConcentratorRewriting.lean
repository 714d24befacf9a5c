import LorawanServer.GatewayConcentrator

/-!
# Rewriting the configuration of a concentrator

What is written is read back member by member. Two members are not: the scan time of
a channel that has none, and for frequency shift keying an undefined bandwidth, which
is written as one of twenty kilohertz, or a frequency below zero.
-/

namespace LorawanServer.ConcentratorRewriting

open CppRuntime Records JsonDocument Datagram IdentityText ServerConfiguration GatewayConcentrator

section Numbers

/-- A small number is an `unsigned`. -/
theorem uint?_natCast {value : ℕ} (h : value<2^32) : Json.uint? (.int value)=some value := by
  rw [Json.uint?,if_pos ⟨by omega,by omega⟩,Int.toNat_natCast]

/-- A small number is an `int`. -/
theorem int?_of_lt {value : ℤ} (hlow : -2^31≤value) (hhigh : value<2^31) : Json.int? (.int value)=some value :=
  if_pos ⟨hlow,hhigh⟩

/-- Four bytes are read as they were written. -/
theorem unsigned32?_toNat (n : UInt32) : unsigned32? (.int n.toNat)=some n := by
  rw [unsigned32?,uint?_natCast n.toNat_lt,Option.map_some,UInt32.ofNat_toNat]

/-- Two bytes are read as they were written. -/
theorem unsigned16?_toNat (n : UInt16) : unsigned16? (.int n.toNat)=some n := by
  have hlt := n.toNat_lt
  rw [unsigned16?,uint?_natCast (by omega),Option.map_some,UInt16.ofNat_toNat]

/-- A byte is read as it was written. -/
theorem unsigned8?_toNat (n : UInt8) : unsigned8? (.int n.toNat)=some n := by
  have hlt := n.toNat_lt
  rw [unsigned8?,uint?_natCast (by omega),Option.map_some,UInt8.ofNat_toNat]

/-- Two bytes with a sign are read as they were written. -/
theorem signed16?_toInt (n : Int16) : signed16? (.int n.toInt)=some n := by
  have hlow := n.le_toInt
  have hhigh := n.toInt_lt
  rw [signed16?,int?_of_lt (by omega) (by omega),Option.map_some,Int16.ofInt_toInt]

/-- A byte with a sign is read as it was written. -/
theorem signed8?_toInt (n : Int8) : signed8? (.int n.toInt)=some n := by
  have hlow := n.le_toInt
  have hhigh := n.toInt_lt
  rw [signed8?,int?_of_lt (by omega) (by omega),Option.map_some,Int8.ofInt_toInt]

/-- A text that fits is read as it was written. -/
theorem path?_string {size : ℕ} {text : Bytes} (hzero : 0∉text) (hsize : text.length<size) :
    path? size (.string (cString text))=some text := by
  have hstring : Json.string? (.string (cString text))=some text := by
    rw [Json.string?,cString_eq_self hzero,cString_eq_self hzero]
  rw [path?,hstring,Option.filter_some,if_pos (decide_eq_true hsize)]

/-- A text that is taken fits and has no zero byte. -/
theorem path?_eq_some {size : ℕ} {value : Json} {text : Bytes} (h : path? size value=some text) :
    0∉text ∧ text.length<size := by
  obtain ⟨hstring,hsize⟩ := Option.filter_eq_some_iff.mp h
  refine ⟨?_,of_decide_eq_true hsize⟩
  cases value with
  | string whole =>
    rw [← Option.some.inj hstring]
    exact zero_notMem_cString whole
  | _ => cases hstring

/-- The bandwidths that the switch gives come back through hertz. -/
theorem bandwidthHz2index_index2hz {b : UInt8} (h : b∈[BW_500KHZ,BW_250KHZ,BW_125KHZ,BW_UNDEFINED]) :
    bandwidthHz2index (bandwidthIndex2hz b)=b := by
  simp only [List.mem_cons,List.not_mem_nil,or_false] at h
  rcases h with rfl|rfl|rfl|rfl <;> rfl

/-- The switch gives one of four bandwidths. -/
theorem bandwidthHz2index_mem (bw : ℕ) :
    bandwidthHz2index bw∈[BW_500KHZ,BW_250KHZ,BW_125KHZ,BW_UNDEFINED] := by
  rw [bandwidthHz2index]
  split_ifs <;> decide

/-- A bandwidth is small enough for `unsigned`. -/
theorem bandwidthIndex2hz_lt (b : UInt8) : bandwidthIndex2hz b<2^32 := by
  rw [bandwidthIndex2hz]
  split_ifs <;> decide

end Numbers

section Members

variable {members part : Members}

/-- A part with `enable` is found. -/
theorem enabledPart_eq {name : Bytes} (h : members.lookup name=some (.object part))
    (henable : (part.lookup (ascii "enable")).isSome=true) : enabledPart members name=some part := by
  rw [enabledPart,h,Option.bind_some,object?,Option.filter_some,if_pos henable]

/-- A part with `enable` is read. -/
theorem readPart_eq {α : Type} {name : Bytes} (h : members.lookup name=some (.object part))
    (henable : (part.lookup (ascii "enable")).isSome=true) (get : α → Members → α) (before : α) :
    readPart members name get before=get before part := by
  rw [readPart,enabledPart_eq h henable,Option.map_some,Option.getD_some]

/-- A read from an array of a written member. -/
theorem getMember_eq {α : Type} {name : String} {get : Json → Option α} {value : Json}
    (h : members.lookup (ascii name)=some value) : getMember members name get=get value := by
  rw [getMember,h,Option.bind_some]

/-- A member of the wanted type is read through a function. -/
theorem readMember_map {α β : Type} {name : String} {get : Json → Option α} {value : Json} {v : α}
    (h : members.lookup (ascii name)=some value) (hget : get value=some v) (f : α → β) (before : β) :
    readMember members name (fun value => (get value).map f) before=f v := by
  rw [readMember,getMember,h,Option.bind_some,hget,Option.map_some,Option.getD_some]

/-- What a read keeps true. -/
theorem readMember_induction {α : Type} {p : α → Prop} {name : String} {get : Json → Option α} {before : α}
    (hbefore : p before) (hget : ∀ value v,get value=some v → p v) : p (readMember members name get before) := by
  rw [readMember]
  cases h : getMember members name get with
  | none => exact hbefore
  | some v =>
    obtain ⟨value,-,hv⟩ := Option.bind_eq_some_iff.mp h
    exact hget value v hv

/-- What a part with `enable` keeps true. -/
theorem readPart_induction {α : Type} {p : α → Prop} {name : Bytes} {get : α → Members → α} {before : α}
    (hbefore : p before) (hget : ∀ part,p (get before part)) : p (readPart members name get before) := by
  rw [readPart]
  cases enabledPart members name with
  | none => exact hbefore
  | some part => exact hget part

end Members

section Items

variable {α β : Type}

/-- A cleared array of which the front is assigned. -/
theorem assignItems_replicate (assign : α → β → α) (zero : α) (items : List β) (size : ℕ)
    (h : items.length≤ size) :
    assignItems assign (List.replicate size zero) items=
      items.map (assign zero)++List.replicate (size-items.length) zero := by
  induction items generalizing size with
  | nil =>
    rw [List.map_nil,List.nil_append,List.length_nil,Nat.sub_zero]
    cases size <;> rfl
  | cons item rest ih =>
    rw [List.length_cons] at h
    obtain ⟨less,rfl⟩ : ∃ less,size=less+1 := ⟨size-1,by omega⟩
    rw [List.replicate_succ,assignItems,ih less (by omega),List.map_cons,List.cons_append,List.length_cons,
      Nat.add_sub_add_right]

/-- The items that are read. -/
theorem mapM_eq_ok {ε : Type} {f : α → Except ε β} {items : List α} {results : List β} :
    items.mapM f=.ok results ↔ List.Forall₂ (fun item result => f item=.ok result) items results := by
  induction items generalizing results with
  | nil =>
    rw [List.mapM_nil,List.forall₂_nil_left_iff]
    exact ⟨fun h => (Except.ok.inj h).symm,fun h => by rw [h]; rfl⟩
  | cons item rest ih =>
    rw [List.mapM_cons,bind_eq_ok,List.forall₂_cons_left_iff]
    constructor
    · rintro ⟨result,hresult,hrest⟩
      obtain ⟨results,hresults,hcons⟩ := bind_eq_ok.mp hrest
      exact ⟨result,results,hresult,ih.mp hresults,(Except.ok.inj hcons).symm⟩
    · rintro ⟨result,results,hresult,hresults,rfl⟩
      exact ⟨result,hresult,bind_eq_ok.mpr ⟨results,ih.mpr hresults,rfl⟩⟩

/-- A cleared array of which a front was assigned. -/
structure Assigned (zero : α) (size count : ℕ) (elements : List α) : Prop where
  /-- The front fits. -/
  count_le : count≤ size
  /-- The array has its size. -/
  length_eq : elements.length=size
  /-- The rest is clear. -/
  drop_eq : elements.drop count=List.replicate (size-count) zero

/-- The front and the rest. -/
theorem Assigned.eq_append {zero : α} {size count : ℕ} {elements : List α} (h : Assigned zero size count elements) :
    elements=elements.take count++List.replicate (size-count) zero := by
  rw [← h.drop_eq,List.take_append_drop]

/-- The front has its length. -/
theorem Assigned.length_take {zero : α} {size count : ℕ} {elements : List α}
    (h : Assigned zero size count elements) :
    (elements.take count).length=count := by
  rw [List.length_take,h.length_eq]
  exact Nat.min_eq_left h.count_le

/-- A loop over a cleared array assigns its front. -/
theorem assigned_assignItems (assign : α → β → α) (zero : α) {items : List β} {size : ℕ}
    (h : items.length≤ size) :
    Assigned zero size items.length (assignItems assign (List.replicate size zero) items) ∧
      (assignItems assign (List.replicate size zero) items).take items.length=items.map (assign zero) := by
  have hlength : (items.map (assign zero)).length=items.length := List.length_map _
  rw [assignItems_replicate assign zero items size h]
  refine ⟨⟨h,?_,List.drop_left' hlength⟩,List.take_left' hlength⟩
  rw [List.length_append,List.length_map,List.length_replicate]
  omega

/-- A cleared array. -/
theorem assigned_replicate (zero : α) (size : ℕ) : Assigned zero size 0 (List.replicate size zero) :=
  ⟨Nat.zero_le size,List.length_replicate,rfl⟩

/-- The front of an array that is written is assigned as it was read before. -/
theorem Assigned.assignItems_map {assign : α → β → α} {zero : α} {size count : ℕ} {elements : List α}
    (h : Assigned zero size count elements) (write : α → β) :
    assignItems assign (List.replicate size zero) ((elements.take count).map write)=
      ((elements.take count).map fun element => assign zero (write element))++List.replicate (size-count) zero := by
  have hlength : ((elements.take count).map write).length=count := by rw [List.length_map,h.length_take]
  have hle : ((elements.take count).map write).length≤ size := hlength.trans_le h.count_le
  rw [assignItems_replicate assign zero _ size hle,List.map_map,hlength]
  rfl

/-- A number of items that is narrowed to a byte and then bounded. -/
theorem clampedCount (bound : UInt8) (size : ℕ) :
    (if bound<UInt8.ofNat size then bound else UInt8.ofNat size).toNat≤bound.toNat ∧
      (if bound<UInt8.ofNat size then bound else UInt8.ofNat size).toNat≤ size := by
  have hmod : (UInt8.ofNat size).toNat=size%2^8 := UInt8.toNat_ofNat'
  split_ifs with h
  · have hlt := UInt8.lt_iff_toNat_lt.mp h
    omega
  · have hle := UInt8.le_iff_toNat_le.mp (UInt8.not_lt.mp h)
    omega

/-- A number of items within the bound is kept. -/
theorem clampedCount_toNat {bound count : UInt8} (h : count.toNat≤bound.toNat) :
    (if bound<UInt8.ofNat count.toNat then bound else UInt8.ofNat count.toNat)=count := by
  rw [UInt8.ofNat_toNat,if_neg (UInt8.not_lt.mpr (UInt8.le_iff_toNat_le.mpr h))]

end Items

section Sx1261

/-- A channel as it is read back. -/
def rereadChannel (channel : LgwConfChanLbt) : LgwConfChanLbt :=
  {channel with scanTimeUs := scanTime channel.scanTimeUs.toNat}

/-- A channel that is written is read. -/
theorem parseLbtChannel_members {channel : LgwConfChanLbt}
    (h : channel.bandwidth∈[BW_500KHZ,BW_250KHZ,BW_125KHZ,BW_UNDEFINED]) (before : LgwConfChanLbt) :
    parseLbtChannel before channel.members=rereadChannel channel := by
  rw [parseLbtChannel,
    readMember_eq (show channel.members.lookup (ascii "freq_hz")=some (.int channel.freqHz.toNat) from rfl)
      (unsigned32?_toNat _),
    readMember_map (show channel.members.lookup (ascii "bandwidth")=
      some (.int (bandwidthIndex2hz channel.bandwidth)) from rfl) (uint?_natCast (bandwidthIndex2hz_lt _)),
    readMember_map (show channel.members.lookup (ascii "scan_time_us")=some (.int channel.scanTimeUs.toNat) from rfl)
      (uint?_natCast channel.scanTimeUs.toNat_lt),
    readMember_eq (show channel.members.lookup (ascii "transmit_time_ms")=
      some (.int channel.transmitTimeMs.toNat) from rfl) (unsigned16?_toNat _),
    bandwidthHz2index_index2hz h]
  rfl

/-- The spectral scan that is written is read. -/
theorem parseSpectralScan_members (scan before : SpectralScan) : parseSpectralScan before scan.members=scan := by
  rw [parseSpectralScan,
    readMember_bool (show scan.members.lookup (ascii "enable")=some (.bool scan.enable) from rfl),
    readMember_eq (show scan.members.lookup (ascii "freq_start")=some (.int scan.freqHzStart.toNat) from rfl)
      (unsigned32?_toNat _),
    readMember_eq (show scan.members.lookup (ascii "nb_chan")=some (.int scan.nbChan.toNat) from rfl)
      (unsigned8?_toNat _),
    readMember_eq (show scan.members.lookup (ascii "nb_scan")=some (.int scan.nbScan.toNat) from rfl)
      (unsigned16?_toNat _),
    readMember_eq (show scan.members.lookup (ascii "pace_s")=some (.int scan.paceS.toNat) from rfl)
      (unsigned32?_toNat _)]

/-- The channels of listening before talking: they fill the front of a cleared array,
and their bandwidths are those of the switch. -/
structure LbtShape (lbt : LgwConfLbt) : Prop where
  /-- The array behind the channels is clear. -/
  channels : Assigned .zero LGW_LBT_CHANNEL_NB_MAX.toNat lbt.nbChannel.toNat lbt.channels
  /-- The bandwidths are those of the switch. -/
  bandwidth : ∀ channel∈lbt.channels.take lbt.nbChannel.toNat,
    channel.bandwidth∈[BW_500KHZ,BW_250KHZ,BW_125KHZ,BW_UNDEFINED]

/-- Listening before talking as it is read back. -/
def rereadLbt (lbt : LgwConfLbt) : LgwConfLbt :=
  {lbt with channels := (lbt.channels.take lbt.nbChannel.toNat).map rereadChannel++
    List.replicate (LGW_LBT_CHANNEL_NB_MAX.toNat-lbt.nbChannel.toNat) .zero}

/-- Listening before talking that is written is read. -/
theorem parseLbt_members {lbt : LgwConfLbt} (h : LbtShape lbt) :
    parseLbt GatewaySX1261Config.reset.lbt lbt.members=.ok (rereadLbt lbt) := by
  set entries := lbt.channels.take lbt.nbChannel.toNat with hentries
  have hlength : entries.length=lbt.nbChannel.toNat := h.channels.length_take
  have hcount : lbtChannelCount (entries.map fun channel => Json.object channel.members).length=lbt.nbChannel := by
    rw [List.length_map,hlength,lbtChannelCount,clampedCount_toNat h.channels.count_le]
  have hobjects : (entries.map fun channel => Json.object channel.members).mapM objectOf=
      .ok (entries.map LgwConfChanLbt.members) := by
    rw [mapM_eq_ok,List.forall₂_map_left_iff,List.forall₂_map_right_iff,List.forall₂_same]
    exact fun channel _ => rfl
  have hread : entries.map (fun channel => parseLbtChannel .zero channel.members)=entries.map rereadChannel :=
    List.map_congr_left fun channel hchannel => parseLbtChannel_members (h.bandwidth channel hchannel) .zero
  rw [parseLbt,
    readMember_bool (show lbt.members.lookup (ascii "enable")=some (.bool lbt.enable) from rfl),
    readMember_eq (show lbt.members.lookup (ascii "rssi_target")=some (.int lbt.rssiTarget.toInt) from rfl)
      (signed8?_toInt _),
    getMember_eq (show lbt.members.lookup (ascii "channels")=
      some (.array (entries.map fun channel => .object channel.members)) from rfl)]
  dsimp only [array?]
  rw [parseLbtChannels,hcount,List.take_of_length_le (by rw [List.length_map,hlength]),hobjects]
  change Except.ok _=Except.ok _
  rw [show GatewaySX1261Config.reset.lbt.channels=List.replicate LGW_LBT_CHANNEL_NB_MAX.toNat .zero from rfl,
    h.channels.assignItems_map LgwConfChanLbt.members,hread]
  rfl

/-- What a parse leaves of the additional radio. -/
structure Sx1261Shape (c : GatewaySX1261Config) : Prop where
  /-- The path fits its array. -/
  spiPath : 0∉c.sx1261.spiPath ∧ c.sx1261.spiPath.length<64
  /-- One of the two parts switches the radio on. -/
  enable : c.sx1261.enable=(c.spectralScan.enable || c.lbt.enable)
  /-- The channels are a front. -/
  lbt : LbtShape c.lbt

/-- The additional radio as it is read back. -/
def rereadSx1261 (c : GatewaySX1261Config) : GatewaySX1261Config := {c with lbt := rereadLbt c.lbt}

/-- The additional radio that is written is read. -/
theorem parse_sx1261_members {c : GatewaySX1261Config} (h : Sx1261Shape c) :
    GatewaySX1261Config.reset.parse (.object c.members)=.ok (rereadSx1261 c,0) := by
  have hscan : enabledPart c.members (ascii "spectral_scan")=some c.spectralScan.members := enabledPart_eq rfl rfl
  have hlbt : enabledPart c.members (ascii "lbt")=some c.lbt.members := enabledPart_eq rfl rfl
  rw [GatewaySX1261Config.parse,hscan,hlbt,Option.map_some,Option.map_some,Option.getD_some,Option.getD_some,
    parseSpectralScan_members,parseLbt_members h.lbt,
    readMember_eq (show c.members.lookup (ascii "spi_path")=some (.string (cString c.sx1261.spiPath)) from rfl)
      (path?_string h.spiPath.1 h.spiPath.2),
    readMember_eq (show c.members.lookup (ascii "rssi_offset")=some (.int c.sx1261.rssiOffset.toInt) from rfl)
      (signed8?_toInt _)]
  have henable : (c.spectralScan.enable || c.lbt.enable || false)=c.sx1261.enable := by rw [Bool.or_false,h.enable]
  change Except.ok (GatewaySX1261Config.mk ⟨c.spectralScan.enable || c.lbt.enable || false,_,_⟩ _ _,(0 : ℤ))=_
  rw [henable]
  rfl

/-- A cleared additional radio has that shape. -/
theorem sx1261Shape_reset : Sx1261Shape .reset :=
  ⟨⟨by decide,by decide⟩,rfl,assigned_replicate _ _,fun _ h => absurd h List.not_mem_nil⟩

/-- The bandwidth that is read is one of the switch. -/
theorem parseLbtChannel_bandwidth (members : Members) :
    (parseLbtChannel .zero members).bandwidth∈[BW_500KHZ,BW_250KHZ,BW_125KHZ,BW_UNDEFINED] := by
  refine readMember_induction (by decide) fun value v hv => ?_
  obtain ⟨bw,-,rfl⟩ := Option.map_eq_some_iff.mp hv
  exact bandwidthHz2index_mem bw

/-- An object is taken for its members. -/
theorem objectOf_eq_ok {value : Json} {members : Members} (h : objectOf value=.ok members) : value=.object members := by
  cases value with
  | object members => rw [Except.ok.inj h]
  | _ => cases h

/-- The channel that an item gives. -/
def ChannelOf (item : Json) (channel : LgwConfChanLbt) : Prop :=
  ∃ members,item=.object members ∧ channel=parseLbtChannel .zero members

/-- The channels that are read are those of the items in front. -/
theorem parseLbtChannels_ok {lbt result : LgwConfLbt} {items : List Json}
    (hclear : lbt.channels=List.replicate LGW_LBT_CHANNEL_NB_MAX.toNat .zero)
    (h : parseLbtChannels lbt items=.ok result) :
    LbtShape result ∧ List.Forall₂ ChannelOf (items.take (lbtChannelCount items.length).toNat)
      (result.channels.take result.nbChannel.toNat) := by
  rw [parseLbtChannels,bind_eq_ok] at h
  obtain ⟨objects,hobjects,hresult⟩ := h
  obtain rfl := Except.ok.inj hresult
  rw [mapM_eq_ok] at hobjects
  set nbChannel := lbtChannelCount items.length with hnb
  obtain ⟨hbound,hle⟩ : nbChannel.toNat≤LGW_LBT_CHANNEL_NB_MAX.toNat ∧ nbChannel.toNat ≤ items.length :=
    clampedCount _ _
  have hlength : objects.length=nbChannel.toNat := by
    rw [← hobjects.length_eq,List.length_take]
    omega
  obtain ⟨hassigned,htake⟩ := assigned_assignItems parseLbtChannel .zero
    (hlength.trans_le hbound)
  rw [hlength] at hassigned htake
  dsimp only
  rw [hclear,htake]
  refine ⟨⟨hassigned,?_⟩,?_⟩
  · intro channel hchannel
    dsimp only at hchannel
    rw [htake] at hchannel
    obtain ⟨members,-,rfl⟩ := List.mem_map.mp hchannel
    exact parseLbtChannel_bandwidth members
  · rw [List.forall₂_map_right_iff]
    exact hobjects.imp fun item members hitem => ⟨members,objectOf_eq_ok hitem,rfl⟩

/-- The items of the channels that are read. -/
def lbtItems (members : Members) : List Json :=
  match (enabledPart members (ascii "lbt")).bind fun part => getMember part "channels" array? with
  | some items => items.take (lbtChannelCount items.length).toNat
  | none => []

/-- Listening before talking that is not read has no channels. -/
theorem lbtShape_of_clear {lbt : LgwConfLbt} (hcount : lbt.nbChannel=0)
    (hclear : lbt.channels=List.replicate LGW_LBT_CHANNEL_NB_MAX.toNat .zero) : LbtShape lbt := by
  refine ⟨?_,?_⟩ <;> rw [hcount,hclear]
  · exact assigned_replicate _ _
  · exact fun _ h => absurd h List.not_mem_nil

/-- What is read of listening before talking. -/
theorem parseLbt_ok {members : Members} {lbt : LgwConfLbt}
    (h : ((enabledPart members (ascii "lbt")).map (parseLbt GatewaySX1261Config.reset.lbt)).getD
      (.ok GatewaySX1261Config.reset.lbt)=.ok lbt) :
    LbtShape lbt ∧ List.Forall₂ ChannelOf (lbtItems members) (lbt.channels.take lbt.nbChannel.toNat) ∧
      ((enabledPart members (ascii "lbt")).isSome=false → lbt.enable=false) := by
  rw [lbtItems]
  cases hpart : enabledPart members (ascii "lbt") with
  | none =>
    rw [hpart] at h
    obtain rfl := Except.ok.inj h
    exact ⟨lbtShape_of_clear rfl rfl,.nil,fun _ => rfl⟩
  | some part =>
    rw [hpart,Option.map_some,Option.getD_some,parseLbt] at h
    rw [Option.bind_some]
    cases hitems : getMember part "channels" array? with
    | none =>
      rw [hitems] at h
      obtain rfl := Except.ok.inj h
      exact ⟨lbtShape_of_clear rfl rfl,.nil,fun hnone => by cases hnone⟩
    | some items =>
      rw [hitems] at h
      obtain ⟨hshape,hforall⟩ := parseLbtChannels_ok rfl h
      exact ⟨hshape,hforall,fun hnone => by cases hnone⟩

/-- The spectral scan that is not read is off. -/
theorem spectralScan_enable_of_none {members : Members}
    (h : (enabledPart members (ascii "spectral_scan")).isSome=false) :
    (((enabledPart members (ascii "spectral_scan")).map (parseSpectralScan GatewaySX1261Config.reset.spectralScan)).getD
      GatewaySX1261Config.reset.spectralScan).enable=false := by
  rw [Option.isSome_eq_false_iff,Option.isNone_iff_eq_none] at h
  rw [h]
  rfl

/-- What a parse leaves of the additional radio has that shape, with the channels of the items. -/
theorem parse_sx1261_ok {members : Members} {c : GatewaySX1261Config} {r : ℤ}
    (h : GatewaySX1261Config.reset.parse (.object members)=.ok (c,r)) :
    Sx1261Shape c ∧ List.Forall₂ ChannelOf (lbtItems members) (c.lbt.channels.take c.lbt.nbChannel.toNat) := by
  rw [GatewaySX1261Config.parse] at h
  obtain ⟨lbt,hlbt,hresult⟩ := bind_eq_ok.mp h
  obtain ⟨rfl,-⟩ := Prod.mk.inj (Except.ok.inj hresult)
  obtain ⟨hshape,hforall,hoff⟩ := parseLbt_ok hlbt
  refine ⟨⟨?_,?_,hshape⟩,hforall⟩
  · exact readMember_induction (p := fun text : Bytes => 0∉text ∧ text.length<64) ⟨by decide,by decide⟩
      fun value text => path?_eq_some
  · have hscan := @spectralScan_enable_of_none members
    dsimp only
    rw [show GatewaySX1261Config.reset.sx1261.enable=false from rfl,Bool.or_false]
    congr 1
    · cases hsome : (enabledPart members (ascii "spectral_scan")).isSome with
      | false => rw [hscan hsome,Bool.and_false]
      | true => rw [Bool.true_and]
    · cases hsome : (enabledPart members (ascii "lbt")).isSome with
      | false => rw [hoff hsome,Bool.and_false]
      | true => rw [Bool.true_and]

/-- A scan time that is read is kept. -/
theorem scanTime_scanTime (us : ℕ) : scanTime (scanTime us).toNat=scanTime us := by
  by_cases h : us=128
  · rw [h]
    rfl
  · rw [show scanTime us=LGW_LBT_SCAN_TIME_5000_US from if_neg h]
    rfl

/-- A channel is read back as it was exactly if its item has a scan time. -/
theorem rereadChannel_eq_iff {item : Json} {channel : LgwConfChanLbt} (h : ChannelOf item channel) :
    rereadChannel channel=channel ↔
      (getMember ((object? item).getD []) "scan_time_us" Json.uint?).isSome=true := by
  obtain ⟨members,rfl,rfl⟩ := h
  have hscan : (parseLbtChannel .zero members).scanTimeUs=
      ((getMember members "scan_time_us" Json.uint?).map scanTime).getD 0 := by
    change readMember members "scan_time_us" (fun v => v.uint?.map scanTime) 0=_
    rw [readMember,getMember,getMember]
    cases members.lookup (ascii "scan_time_us") <;> rfl
  rw [rereadChannel,LgwConfChanLbt.mk.injEq]
  simp only [true_and,and_true]
  rw [hscan,object?,Option.getD_some]
  cases getMember members "scan_time_us" Json.uint? with
  | none => exact iff_of_false (by decide) (by decide)
  | some us => exact iff_of_true (scanTime_scanTime us) rfl

end Sx1261

section Radio

/-- What a parse leaves of a radio. -/
structure RadioShape (chain : RfChain) : Prop where
  /-- A radio that is off is clear. -/
  off : chain.rfConf.enable=false → chain=.zero
  /-- The types that have a text. -/
  type : chain.rfConf.type∈[LgwRadioType.none,.sx1255,.sx1257,.sx1250]
  /-- The gains are a front. -/
  lut : Assigned .zero TX_GAIN_LUT_SIZE_MAX chain.txLut.size.toNat chain.txLut.lut
  /-- Nothing writes the offsets of the signal. -/
  offset : ∀ gain∈chain.txLut.lut.take chain.txLut.size.toNat,gain.offsetI=0 ∧ gain.offsetQ=0

/-- A gain that is written is read. -/
theorem parseTxGain_members {gain : LgwTxGain} (h : gain.offsetI=0 ∧ gain.offsetQ=0) :
    parseTxGain .zero (.object gain.members)=gain := by
  obtain ⟨hi,hq⟩ := h
  rw [parseTxGain,
    readMember_eq (show gain.members.lookup (ascii "rf_power")=some (.int gain.rfPower.toInt) from rfl)
      (signed8?_toInt _),
    readMember_eq (show gain.members.lookup (ascii "dig_gain")=some (.int gain.digGain.toNat) from rfl)
      (unsigned8?_toNat _),
    readMember_eq (show gain.members.lookup (ascii "pa_gain")=some (.int gain.paGain.toNat) from rfl)
      (unsigned8?_toNat _),
    readMember_eq (show gain.members.lookup (ascii "dac_gain")=some (.int gain.dacGain.toNat) from rfl)
      (unsigned8?_toNat _),
    readMember_eq (show gain.members.lookup (ascii "mix_gain")=some (.int gain.mixGain.toNat) from rfl)
      (unsigned8?_toNat _),
    getMember_eq (show gain.members.lookup (ascii "pwr_idx")=some (.int gain.pwrIdx.toNat) from rfl),unsigned8?_toNat,
    Option.getD_some,show LgwTxGain.zero.offsetI=gain.offsetI from hi.symm,
    show LgwTxGain.zero.offsetQ=gain.offsetQ from hq.symm]

/-- The compensation that is written is read. -/
theorem parseRssiTcomp_members (tcomp before : LgwRssiTcomp) : parseRssiTcomp before tcomp.members=tcomp := by
  have hread (q : ℚ) : number? (.double q)=some q := rfl
  rw [parseRssiTcomp,
    readMember_eq (show tcomp.members.lookup (ascii "coeff_a")=some (.double tcomp.coeffA) from rfl) (hread _),
    readMember_eq (show tcomp.members.lookup (ascii "coeff_b")=some (.double tcomp.coeffB) from rfl) (hread _),
    readMember_eq (show tcomp.members.lookup (ascii "coeff_c")=some (.double tcomp.coeffC) from rfl) (hread _),
    readMember_eq (show tcomp.members.lookup (ascii "coeff_d")=some (.double tcomp.coeffD) from rfl) (hread _),
    readMember_eq (show tcomp.members.lookup (ascii "coeff_e")=some (.double tcomp.coeffE) from rfl) (hread _)]

/-- The type of a radio is read back. -/
theorem radioType?_reread {type : LgwRadioType} (h : type∈[LgwRadioType.none,.sx1255,.sx1257,.sx1250]) :
    (radioType? (cString (lgwRadioType2string type))).getD .none=type := by
  simp only [List.mem_cons,List.not_mem_nil,or_false] at h
  rcases h with rfl|rfl|rfl|rfl <;> rfl

/-- The member for the type of a radio is read back. -/
theorem readMember_type {chain : RfChain} (h : chain.rfConf.type∈[LgwRadioType.none,.sx1255,.sx1257,.sx1250]) :
    readMember chain.members "type" (fun v => v.string?.bind radioType?) .none=chain.rfConf.type := by
  rw [readMember,getMember,show chain.members.lookup (ascii "type")=
    some (.string (lgwRadioType2string chain.rfConf.type)) from rfl,Option.bind_some]
  exact radioType?_reread h

/-- The gains that are written are read. -/
theorem parseTxGainLut_members {chain : RfChain} (h : RadioShape chain) :
    parseTxGainLut RfChain.zero.txLut
      ((chain.txLut.lut.take chain.txLut.size.toNat).map fun gain => .object gain.members)=chain.txLut := by
  set entries := chain.txLut.lut.take chain.txLut.size.toNat with hentries
  have hlength : (entries.map fun gain => Json.object gain.members).length=chain.txLut.size.toNat := by
    rw [List.length_map,h.lut.length_take]
  have hread : entries.map (fun gain => parseTxGain .zero (.object gain.members))=entries := by
    calc entries.map (fun gain => parseTxGain .zero (.object gain.members))=entries.map id :=
          List.map_congr_left fun gain hgain => parseTxGain_members (h.offset gain hgain)
      _ = entries := List.map_id entries
  rw [parseTxGainLut,hlength,Nat.min_eq_left h.lut.count_le,List.take_of_length_le hlength.le,UInt8.ofNat_toNat,
    show RfChain.zero.txLut.lut=List.replicate TX_GAIN_LUT_SIZE_MAX .zero from rfl,
    h.lut.assignItems_map fun gain => Json.object gain.members,hread,← h.lut.eq_append]

/-- A radio that is written is read. -/
theorem parseRadio_members {chain : RfChain} (h : RadioShape chain) : parseRadio .zero chain.members=chain := by
  rw [parseRadio,readMember_bool (show chain.members.lookup (ascii "enable")=some (.bool chain.rfConf.enable) from rfl)]
  cases henable : chain.rfConf.enable with
  | false =>
    rw [if_neg Bool.false_ne_true,h.off henable]
    rfl
  | true =>
    rw [if_pos rfl,parseRfConf,readMember_type h.type,
      readMember_eq (show chain.members.lookup (ascii "freq")=some (.int chain.rfConf.freqHz.toNat) from rfl)
        (unsigned32?_toNat _),
      readMember_eq (show chain.members.lookup (ascii "rssi_offset")=some (.double chain.rfConf.rssiOffset) from rfl)
        (show number? (.double chain.rfConf.rssiOffset)=some chain.rfConf.rssiOffset from rfl),
      readMember_bool (show chain.members.lookup (ascii "tx_enable")=some (.bool chain.rfConf.txEnable) from rfl),
      readMember_bool (show chain.members.lookup (ascii "single_input_mode")=
        some (.bool chain.rfConf.singleInputMode) from rfl),
      readMember_eq (show chain.members.lookup (ascii "tx_freq_min")=some (.int chain.txFreqMin.toNat) from rfl)
        (unsigned32?_toNat _),
      readMember_eq (show chain.members.lookup (ascii "tx_freq_max")=some (.int chain.txFreqMax.toNat) from rfl)
        (unsigned32?_toNat _),
      getMember_eq (show chain.members.lookup (ascii "rssi_tcomp")=
        some (.object chain.rfConf.rssiTcomp.members) from rfl),
      getMember_eq (show chain.members.lookup (ascii "tx_gain_lut")=some (.array
        ((chain.txLut.lut.take chain.txLut.size.toNat).map fun gain => .object gain.members)) from rfl)]
    dsimp only [object?,array?]
    rw [parseRssiTcomp_members,parseTxGainLut_members h,← henable]

/-- A radio that is clear has that shape. -/
theorem radioShape_zero : RadioShape .zero :=
  ⟨fun _ => rfl,by decide,assigned_replicate _ _,fun _ h => absurd h List.not_mem_nil⟩

/-- What a parse leaves of a radio has that shape. -/
theorem radioShape_parseRadio (part : Members) : RadioShape (parseRadio .zero part) := by
  rw [parseRadio]
  split_ifs with henable
  · have htype : readMember part "type" (fun v => v.string?.bind radioType?) LgwRadioType.none∈
        [LgwRadioType.none,.sx1255,.sx1257,.sx1250] := by
      refine readMember_induction (by decide) fun value type htype => ?_
      obtain ⟨text,-,htext⟩ := Option.bind_eq_some_iff.mp htype
      rw [radioType?] at htext
      split_ifs at htext <;> rw [← Option.some.inj htext] <;> decide
    cases hitems : getMember part "tx_gain_lut" array? with
    | none => exact ⟨fun h => (Bool.false_ne_true h.symm).elim,htype,assigned_replicate _ _,
        fun _ h => absurd h List.not_mem_nil⟩
    | some items =>
      have hsize : (UInt8.ofNat (min items.length TX_GAIN_LUT_SIZE_MAX)).toNat=
          (items.take (min items.length TX_GAIN_LUT_SIZE_MAX)).length := by
        have hle : min items.length TX_GAIN_LUT_SIZE_MAX≤16 := Nat.min_le_right _ _
        rw [UInt8.toNat_ofNat',List.length_take]
        omega
      obtain ⟨hassigned,htake⟩ := @assigned_assignItems _ _ parseTxGain .zero
        (items.take (min items.length TX_GAIN_LUT_SIZE_MAX)) TX_GAIN_LUT_SIZE_MAX
        (by rw [List.length_take]; omega)
      rw [← hsize] at hassigned htake
      refine ⟨fun h => (Bool.false_ne_true h.symm).elim,htype,hassigned,fun gain hgain => ?_⟩
      change gain∈(parseTxGainLut RfChain.zero.txLut items).lut.take
        (UInt8.ofNat (min items.length TX_GAIN_LUT_SIZE_MAX)).toNat at hgain
      rw [parseTxGainLut,show RfChain.zero.txLut.lut=List.replicate TX_GAIN_LUT_SIZE_MAX .zero from rfl,htake] at hgain
      obtain ⟨item,-,rfl⟩ := List.mem_map.mp hgain
      cases item <;> exact ⟨rfl,rfl⟩
  · exact ⟨fun _ => rfl,by decide,assigned_replicate _ _,fun _ h => absurd h List.not_mem_nil⟩

end Radio

end LorawanServer.ConcentratorRewriting
