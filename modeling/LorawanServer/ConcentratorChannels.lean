import LorawanServer.ConcentratorRewriting

/-!
# Rewriting the channels of a concentrator

The channels and the spreading factors, and with them the whole of a concentrator. All
of it is read back except what listening before talking and frequency shift keying lose.
-/

namespace LorawanServer.ConcentratorChannels

open CppRuntime Records JsonDocument Datagram IdentityText ServerConfiguration GatewayConcentrator ConcentratorRewriting

section Channels

/-- A channel for all spreading factors as it is read back. -/
def rereadSF (chan : LgwConfRxif) : LgwConfRxif :=
  {LgwConfRxif.zero with enable := chan.enable,rfChain := chan.rfChain,freqHz := chan.freqHz}

/-- A channel for all spreading factors that is written is read. -/
theorem parseChannelSF_members (chan : LgwConfRxif) :
    parseChannelSF .zero (channelSFMembers chan)=rereadSF chan := by
  rw [parseChannelSF,
    readMember_bool (show (channelSFMembers chan).lookup (ascii "enable")=some (.bool chan.enable) from rfl),
    readMember_eq (show (channelSFMembers chan).lookup (ascii "radio")=some (.int chan.rfChain.toNat) from rfl)
      (unsigned8?_toNat _),
    readMember_int32 (show (channelSFMembers chan).lookup (ascii "if")=some (.int chan.freqHz.toInt) from rfl)]
  rfl

/-- What a parse leaves of the channel for one spreading factor. -/
structure StdShape (chan : LgwConfRxif) : Prop where
  /-- The bandwidth is one of the switch. -/
  bandwidth : chan.bandwidth∈[BW_500KHZ,BW_250KHZ,BW_125KHZ,BW_UNDEFINED]
  /-- Nothing writes the synchronisation word. -/
  syncWord : chan.syncWordSize=0 ∧ chan.syncWord=0

/-- The channel for one spreading factor that is written is read. -/
theorem parseChannelStd_members {chan : LgwConfRxif} (h : StdShape chan) :
    parseChannelStd .zero (channelStdMembers chan)=chan := by
  obtain ⟨hsize,hword⟩ := h.syncWord
  have himplicit : ((channelStdMembers chan).lookup (ascii "implicit_hdr")).isSome=true := rfl
  rw [parseChannelStd,parseImplicit,if_pos himplicit,parseChannelSF,
    readMember_bool (show (channelStdMembers chan).lookup (ascii "enable")=some (.bool chan.enable) from rfl),
    readMember_eq (show (channelStdMembers chan).lookup (ascii "radio")=some (.int chan.rfChain.toNat) from rfl)
      (unsigned8?_toNat _),
    readMember_int32 (show (channelStdMembers chan).lookup (ascii "if")=some (.int chan.freqHz.toInt) from rfl),
    readMember_map (show (channelStdMembers chan).lookup (ascii "bandwidth")=
      some (.int (bandwidthIndex2hz chan.bandwidth)) from rfl) (uint?_natCast (bandwidthIndex2hz_lt _)),
    readMember_eq (show (channelStdMembers chan).lookup (ascii "spread_factor")=
      some (.int chan.datarate.toNat) from rfl) (unsigned32?_toNat _),
    readMember_bool (show (channelStdMembers chan).lookup (ascii "implicit_hdr")=
      some (.bool chan.implicitHdr) from rfl),
    readMember_eq (show (channelStdMembers chan).lookup (ascii "implicit_payload_length")=
      some (.int chan.implicitPayloadLength.toNat) from rfl) (unsigned8?_toNat _),
    readMember_bool (show (channelStdMembers chan).lookup (ascii "implicit_crc_en")=
      some (.bool chan.implicitCrcEn) from rfl),
    readMember_eq (show (channelStdMembers chan).lookup (ascii "implicit_coderate")=
      some (.int chan.implicitCoderate.toNat) from rfl) (unsigned8?_toNat _),
    bandwidthHz2index_index2hz h.bandwidth,show LgwConfRxif.zero.syncWordSize=chan.syncWordSize from hsize.symm,
    show LgwConfRxif.zero.syncWord=chan.syncWord from hword.symm]

/-- A channel that is clear has that shape. -/
theorem stdShape_zero : StdShape .zero := ⟨by decide,rfl,rfl⟩

/-- What a parse leaves of the channel for one spreading factor has that shape. -/
theorem stdShape_parseChannelStd (part : Members) : StdShape (parseChannelStd .zero part) := by
  have hbandwidth : readMember part "bandwidth" (fun v => v.uint?.map bandwidthHz2index) 0∈
      [BW_500KHZ,BW_250KHZ,BW_125KHZ,BW_UNDEFINED] := by
    refine readMember_induction (by decide) fun value v hv => ?_
    obtain ⟨bw,-,rfl⟩ := Option.map_eq_some_iff.mp hv
    exact bandwidthHz2index_mem bw
  rw [parseChannelStd,parseImplicit]
  split_ifs <;> exact ⟨hbandwidth,rfl,rfl⟩

/-- The channel for frequency shift keying as it is read back. A frequency below zero
is no `unsigned`, and an undefined bandwidth is written as twenty kilohertz. -/
def rereadFSK (chan : LgwConfRxif) : LgwConfRxif :=
  {LgwConfRxif.zero with
    enable := chan.enable
    rfChain := chan.rfChain
    freqHz := if 0≤chan.freqHz.toInt then chan.freqHz else 0
    bandwidth := if chan.bandwidth=BW_UNDEFINED then BW_125KHZ else chan.bandwidth
    datarate := chan.datarate}

/-- The frequency of frequency shift keying is read under a test for `unsigned`. -/
theorem readMember_fskFrequency (chan : LgwConfRxif) :
    readMember (channelFSKMembers chan) "if" (fun v => v.uint?.map Int32.ofNat) 0=
      if 0≤chan.freqHz.toInt then chan.freqHz else 0 := by
  have hhigh := chan.freqHz.toInt_lt
  rw [readMember,getMember,
    show (channelFSKMembers chan).lookup (ascii "if")=some (.int chan.freqHz.toInt) from rfl,
    Option.bind_some,Json.uint?]
  split_ifs with hnumber hzero
  · rw [Option.map_some,Option.getD_some,← Int32.ofInt_eq_ofNat,Int.toNat_of_nonneg hzero,Int32.ofInt_toInt]
  · omega
  · omega
  · rfl

/-- The bandwidth of frequency shift keying is read through hertz. -/
theorem fskBandwidthIndex_members {chan : LgwConfRxif}
    (h : chan.bandwidth∈[BW_500KHZ,BW_250KHZ,BW_125KHZ,BW_UNDEFINED]) (datarate : UInt32) :
    fskBandwidthIndex (fskBandwidthHz datarate (channelFSKMembers chan))=
      if chan.bandwidth=BW_UNDEFINED then BW_125KHZ else chan.bandwidth := by
  have hdeviation : readMember (channelFSKMembers chan) "freq_deviation" unsigned32? 0=0 := rfl
  have hbandwidth : unsigned32? (.int (bandwidthIndex2hz chan.bandwidth))=
      some (UInt32.ofNat (bandwidthIndex2hz chan.bandwidth)) := by
    rw [unsigned32?,uint?_natCast (bandwidthIndex2hz_lt _),Option.map_some]
  rw [fskBandwidthHz,readMember_eq (show (channelFSKMembers chan).lookup (ascii "bandwidth")=
    some (.int (bandwidthIndex2hz chan.bandwidth)) from rfl) hbandwidth,hdeviation,if_neg fun hzero => hzero.2 rfl]
  simp only [List.mem_cons,List.not_mem_nil,or_false] at h
  rcases h with h|h|h|h <;> rw [h] <;> rfl

/-- The channel for frequency shift keying that is written is read. -/
theorem parseChannelFSK_members {chan : LgwConfRxif}
    (h : chan.bandwidth∈[BW_500KHZ,BW_250KHZ,BW_125KHZ,BW_UNDEFINED]) :
    parseChannelFSK .zero (channelFSKMembers chan)=rereadFSK chan := by
  have hradio : uint8? (.int chan.rfChain.toNat)=some chan.rfChain := uint8?_toNat _
  rw [parseChannelFSK,
    readMember_bool (show (channelFSKMembers chan).lookup (ascii "enable")=some (.bool chan.enable) from rfl),
    readMember_eq (show (channelFSKMembers chan).lookup (ascii "radio")=some (.int chan.rfChain.toNat) from rfl) hradio,
    show LgwConfRxif.zero.freqHz=0 from rfl,readMember_fskFrequency,
    readMember_eq (show (channelFSKMembers chan).lookup (ascii "datarate")=some (.int chan.datarate.toNat) from rfl)
      (unsigned32?_toNat _),fskBandwidthIndex_members h]
  rfl

/-- What a parse leaves of the channel for frequency shift keying. -/
structure FskShape (chan : LgwConfRxif) : Prop where
  /-- The bandwidth is one of the classes. -/
  bandwidth : chan.bandwidth∈[BW_500KHZ,BW_250KHZ,BW_125KHZ,BW_UNDEFINED]
  /-- Nothing writes the other members. -/
  rest : chan={LgwConfRxif.zero with
    enable := chan.enable,rfChain := chan.rfChain,freqHz := chan.freqHz,bandwidth := chan.bandwidth,
    datarate := chan.datarate}

/-- The channel for frequency shift keying is read back as it was exactly if its bandwidth
is defined and its frequency is not below zero. -/
theorem rereadFSK_eq_iff {chan : LgwConfRxif} (h : FskShape chan) :
    rereadFSK chan=chan ↔ chan.bandwidth≠BW_UNDEFINED ∧ 0≤chan.freqHz.toInt := by
  have hfrequency : (if 0≤chan.freqHz.toInt then chan.freqHz else 0)=chan.freqHz ↔ 0≤chan.freqHz.toInt := by
    split_ifs with hzero
    · exact iff_of_true rfl hzero
    · refine iff_of_false (fun heq => hzero ?_) hzero
      rw [← heq]
      decide
  have hbandwidth : (if chan.bandwidth=BW_UNDEFINED then BW_125KHZ else chan.bandwidth)=chan.bandwidth ↔
      chan.bandwidth≠BW_UNDEFINED := by
    split_ifs with hundefined
    · refine iff_of_false (fun heq => ?_) (not_not_intro hundefined)
      rw [hundefined] at heq
      exact absurd heq (by decide)
    · exact iff_of_true rfl hundefined
  have hrest := h.rest
  rw [rereadFSK]
  refine Iff.trans ?_ (and_congr hbandwidth hfrequency)
  constructor
  · intro heq
    exact ⟨congrArg LgwConfRxif.bandwidth heq,congrArg LgwConfRxif.freqHz heq⟩
  · rintro ⟨hb,hf⟩
    rw [hb,hf]
    exact hrest.symm

/-- The class of a bandwidth is one of four. -/
theorem fskBandwidthIndex_mem (bw : UInt32) : fskBandwidthIndex bw∈[BW_500KHZ,BW_250KHZ,BW_125KHZ,BW_UNDEFINED] := by
  rw [fskBandwidthIndex]
  split_ifs <;> decide

/-- A channel that is clear has that shape. -/
theorem fskShape_zero : FskShape .zero := ⟨by decide,rfl⟩

/-- What a parse leaves of the channel for frequency shift keying has that shape. -/
theorem fskShape_parseChannelFSK (part : Members) : FskShape (parseChannelFSK .zero part) :=
  ⟨fskBandwidthIndex_mem _,rfl⟩

end Channels

section Concentrator

variable (undefinedBits : Json → UInt8)

/-- The item of a spreading factor gives its bit. -/
theorem spreadingFactorBit_written {n : ℕ} (h : n<8) :
    spreadingFactorBit undefinedBits (.int (n+5))=UInt8.ofNat (2^n) := by
  have hnumber : Json.uint? (.int ((n : ℤ)+5))=some (n+5) := by
    rw [show ((n : ℤ)+5)=((n+5 : ℕ) : ℤ) by omega,uint?_natCast (by omega)]
  have hmod : (n+5)%256=n+5 := by omega
  rw [spreadingFactorBit,hnumber]
  dsimp only
  rw [hmod,if_pos ⟨by omega,by omega⟩,Nat.add_sub_cancel]

/-- The bits are those of the spreading factors. -/
theorem foldl_testBit (bits : UInt8) :
    ((List.range 8).filter bits.toNat.testBit).foldl (fun bits n => bits|||UInt8.ofNat (2^n)) 0=bits := by
  have hall : ∀ k : Fin 256,
      ((List.range 8).filter k.val.testBit).foldl (fun bits n => bits|||UInt8.ofNat (2^n)) 0=UInt8.ofNat k.val := by
    decide +kernel
  have hbits := hall ⟨bits.toNat,bits.toNat_lt⟩
  rwa [UInt8.ofNat_toNat] at hbits

/-- The spreading factors that are written are read. -/
theorem parseSpreadingFactors_spreadingFactors (bits : UInt8) :
    parseSpreadingFactors undefinedBits (spreadingFactors bits)=bits := by
  rw [parseSpreadingFactors,spreadingFactors,List.foldl_map]
  refine Eq.trans (List.foldl_ext _ _ _ fun before n hn => ?_) (foldl_testBit bits)
  rw [spreadingFactorBit_written undefinedBits (List.mem_range.mp (List.mem_filter.mp hn).1)]

/-- What a parse leaves of a concentrator. -/
structure SX130xShape (c : GatewaySX130xConfig) : Prop where
  /-- The additional radio. -/
  sx1261Config : Sx1261Shape c.sx1261Config
  /-- The interface is known. -/
  comType : c.boardConf.comType≠.unknown
  /-- The path fits its array. -/
  comPath : 0∉c.boardConf.comPath ∧ c.boardConf.comPath.length<64
  /-- Fine timestamps that are off have one mode. -/
  tsConf : c.tsConf.enable=false → c.tsConf.mode=.highCapacity
  /-- The radios. -/
  rfChains : ∀ i,RadioShape (c.rfChains.get i)
  /-- The channels for all spreading factors. -/
  ifConfs : ∀ i,rereadSF (c.ifConfs.get i)=c.ifConfs.get i
  /-- The channel for one spreading factor. -/
  ifStdConf : StdShape c.ifStdConf
  /-- The channel for frequency shift keying. -/
  ifFSKConf : FskShape c.ifFSKConf

/-- A concentrator as it is read back. -/
def rereadSX130x (c : GatewaySX130xConfig) : GatewaySX130xConfig :=
  {c with sx1261Config := rereadSx1261 c.sx1261Config,ifFSKConf := rereadFSK c.ifFSKConf}

/-- The interface is read back. -/
theorem parseComType_members {c : GatewaySX130xConfig} (h : c.boardConf.comType≠.unknown) :
    parseComType c.members=c.boardConf.comType := by
  rw [parseComType,getMember_eq (show c.members.lookup (ascii "com_type")=
    some (.string (lgwComType2string c.boardConf.comType)) from rfl)]
  cases hcom : c.boardConf.comType with
  | spi => rfl
  | usb => rfl
  | unknown => exact absurd hcom h

/-- The board is read back. -/
theorem parseBoardConf_members {c : GatewaySX130xConfig} (h : SX130xShape c) (before : LgwConfBoard) :
    parseBoardConf before c.members=c.boardConf := by
  rw [parseBoardConf,parseComType_members h.comType,
    readMember_bool (show c.members.lookup (ascii "lorawan_public")=some (.bool c.boardConf.lorawanPublic) from rfl),
    readMember_eq (show c.members.lookup (ascii "clksrc")=some (.int c.boardConf.clksrc.toNat) from rfl)
      (unsigned8?_toNat _),
    readMember_bool (show c.members.lookup (ascii "full_duplex")=some (.bool c.boardConf.fullDuplex) from rfl),
    readMember_eq (show c.members.lookup (ascii "com_path")=some (.string (cString c.boardConf.comPath)) from rfl)
      (path?_string h.comPath.1 h.comPath.2)]

/-- The fine timestamps are read back. -/
theorem parseFineTimestamp_members {ts : LgwConfFtime} (h : ts.enable=false → ts.mode=.highCapacity)
    (before : LgwConfFtime) : parseFineTimestamp before ts.members=ts := by
  rw [parseFineTimestamp,readMember_bool (show ts.members.lookup (ascii "enable")=some (.bool ts.enable) from rfl)]
  cases henable : ts.enable with
  | false =>
    rw [if_neg Bool.false_ne_true,← h henable,← henable]
  | true =>
    have hmode : readMember ts.members "mode" (fun v => v.string?.bind ftimeMode?) .highCapacity=ts.mode := by
      rw [readMember,getMember,show ts.members.lookup (ascii "mode")=
        some (.string (lgwFtimeMode2string ts.mode)) from rfl]
      cases ts.mode <;> rfl
    rw [if_pos rfl,hmode,← henable]

/-- A radio behind a reset is clear. -/
theorem reset_rfChains (i : Fin LGW_RF_CHAIN_NB) : GatewaySX130xConfig.reset.rfChains.get i=.zero :=
  Vector.get_replicate _ _ i

/-- A channel behind a reset is clear. -/
theorem reset_ifConfs (i : Fin LGW_MULTI_NB) : GatewaySX130xConfig.reset.ifConfs.get i=.zero :=
  Vector.get_replicate _ _ i

/-- A radio is written under its name. -/
theorem lookup_radioName (c : GatewaySX130xConfig) (i : Fin LGW_RF_CHAIN_NB) :
    c.members.lookup (radioName i)=some (.object (c.rfChains.get i).members) := by
  fin_cases i <;> rfl

/-- A channel is written under its name. -/
theorem lookup_channelName (c : GatewaySX130xConfig) (i : Fin LGW_MULTI_NB) :
    c.members.lookup (channelName i)=some (.object (channelSFMembers (c.ifConfs.get i))) := by
  fin_cases i <;> rfl

/-- The spreading factors are read back. -/
theorem parseMultisfDatarate_members (c : GatewaySX130xConfig) :
    parseMultisfDatarate undefinedBits c.members=c.multisfDatarate := by
  rw [parseMultisfDatarate,getMember_eq (show c.members.lookup (ascii "chan_multiSF_All")=some (.object
    [(ascii "spreading_factor_enable",.array (spreadingFactors c.multisfDatarate))]) from rfl)]
  exact parseSpreadingFactors_spreadingFactors undefinedBits c.multisfDatarate

/-- What is behind the test of the interface is read back. -/
theorem parseChannels_members {c : GatewaySX130xConfig} (h : SX130xShape c) (sx1261Config : GatewaySX1261Config) :
    parseChannels undefinedBits {GatewaySX130xConfig.reset with sx1261Config := sx1261Config} c.members=
      {rereadSX130x c with sx1261Config := sx1261Config} := by
  have htime : readPart c.members (ascii "fine_timestamp") parseFineTimestamp GatewaySX130xConfig.reset.tsConf=
      c.tsConf := by
    rw [readPart_eq (show c.members.lookup (ascii "fine_timestamp")=some (.object c.tsConf.members) from rfl) rfl,
      parseFineTimestamp_members h.tsConf]
  have hradios : (Vector.ofFn fun i : Fin LGW_RF_CHAIN_NB =>
      readPart c.members (radioName i) parseRadio (GatewaySX130xConfig.reset.rfChains.get i))=c.rfChains := by
    ext i hi : 1
    rw [Vector.getElem_ofFn,readPart_eq (lookup_radioName c ⟨i,hi⟩) rfl,reset_rfChains]
    exact parseRadio_members (h.rfChains ⟨i,hi⟩)
  have hchannels : (Vector.ofFn fun i : Fin LGW_MULTI_NB =>
      readPart c.members (channelName i) parseChannelSF (GatewaySX130xConfig.reset.ifConfs.get i))=c.ifConfs := by
    ext i hi : 1
    rw [Vector.getElem_ofFn,readPart_eq (lookup_channelName c ⟨i,hi⟩) rfl,reset_ifConfs,parseChannelSF_members]
    exact h.ifConfs ⟨i,hi⟩
  have hstd : readPart c.members (ascii "chan_Lora_std") parseChannelStd GatewaySX130xConfig.reset.ifStdConf=
      c.ifStdConf := by
    rw [readPart_eq (show c.members.lookup (ascii "chan_Lora_std")=
      some (.object (channelStdMembers c.ifStdConf)) from rfl) rfl]
    exact parseChannelStd_members h.ifStdConf
  have hfsk : readPart c.members (ascii "chan_FSK") parseChannelFSK GatewaySX130xConfig.reset.ifFSKConf=
      rereadFSK c.ifFSKConf := by
    rw [readPart_eq (show c.members.lookup (ascii "chan_FSK")=
      some (.object (channelFSKMembers c.ifFSKConf)) from rfl) rfl]
    exact parseChannelFSK_members h.ifFSKConf.bandwidth
  rw [parseChannels,htime,hradios,hchannels,hstd,hfsk,parseBoardConf_members h,parseMultisfDatarate_members,
    readMember_eq (show c.members.lookup (ascii "antenna_gain")=some (.int c.antennaGain.toInt) from rfl)
      (signed8?_toInt _)]
  rfl

/-- A concentrator that is written is read. -/
theorem parse_sx130x_members {c : GatewaySX130xConfig} (h : SX130xShape c) :
    GatewaySX130xConfig.parse undefinedBits (.object c.members)=.ok (rereadSX130x c,0) := by
  have hsx1261 : parseSx1261 GatewaySX130xConfig.reset.sx1261Config c.members=
      .ok (rereadSx1261 c.sx1261Config,0) := by
    rw [parseSx1261,show c.members.lookup (ascii "sx1261_conf")=some (.object c.sx1261Config.members) from rfl]
    exact parse_sx1261_members h.sx1261Config
  rw [GatewaySX130xConfig.parse,hsx1261,parseComType_members h.comType]
  change (if c.boardConf.comType=.unknown then _ else _)=_
  rw [if_neg h.comType,parseChannels_members undefinedBits h]
  rfl

/-- A concentrator that is clear has that shape. -/
theorem sx130xShape_reset : SX130xShape .reset where
  sx1261Config := sx1261Shape_reset
  comType := by decide
  comPath := ⟨by decide,by decide⟩
  tsConf := fun _ => rfl
  rfChains := fun i => by
    rw [reset_rfChains]
    exact radioShape_zero
  ifConfs := fun i => by
    rw [reset_ifConfs]
    rfl
  ifStdConf := stdShape_zero
  ifFSKConf := fskShape_zero

/-- The members of the additional radio in a document. -/
def sx1261Members (members : Members) : Members := (getMember members "sx1261_conf" object?).getD []

/-- What is read behind the test of the interface has that shape. -/
theorem sx130xShape_parseChannels {members : Members} {sx1261Config : GatewaySX1261Config}
    (h : Sx1261Shape sx1261Config) (hcom : parseComType members≠.unknown) :
    SX130xShape
      (parseChannels undefinedBits {GatewaySX130xConfig.reset with sx1261Config := sx1261Config} members) := by
  refine ⟨h,hcom,?_,?_,?_,?_,?_,?_⟩
  · exact readMember_induction (p := fun text : Bytes => 0∉text ∧ text.length<64)
      (show 0∉([] : Bytes) ∧ ([] : Bytes).length<64 by decide) fun value text => path?_eq_some
  · refine readPart_induction (p := fun ts : LgwConfFtime => ts.enable=false → ts.mode=.highCapacity)
      (fun _ => rfl) fun part hoff => ?_
    exact if_neg fun henable => Bool.false_ne_true (hoff.symm.trans henable)
  · intro i
    have hget : (parseChannels undefinedBits {GatewaySX130xConfig.reset with sx1261Config := sx1261Config}
        members).rfChains.get i=readPart members (radioName i) parseRadio (GatewaySX130xConfig.reset.rfChains.get i) :=
      Vector.get_ofFn _ i
    rw [hget,reset_rfChains]
    exact readPart_induction (p := RadioShape) radioShape_zero radioShape_parseRadio
  · intro i
    have hget : (parseChannels undefinedBits {GatewaySX130xConfig.reset with sx1261Config := sx1261Config}
        members).ifConfs.get i=
          readPart members (channelName i) parseChannelSF (GatewaySX130xConfig.reset.ifConfs.get i) :=
      Vector.get_ofFn _ i
    rw [hget,reset_ifConfs]
    exact readPart_induction (p := fun chan : LgwConfRxif => rereadSF chan=chan) rfl fun part => rfl
  · exact readPart_induction (p := StdShape) stdShape_zero stdShape_parseChannelStd
  · exact readPart_induction (p := FskShape) fskShape_zero fskShape_parseChannelFSK

/-- The channels of listening before talking. -/
def lbtChannels (c : GatewaySX130xConfig) : List LgwConfChanLbt :=
  c.sx1261Config.lbt.channels.take c.sx1261Config.lbt.nbChannel.toNat

/-- What a parse that succeeds leaves of a concentrator has that shape. -/
theorem parse_sx130x_ok {members : Members} {c : GatewaySX130xConfig}
    (h : GatewaySX130xConfig.parse undefinedBits (.object members)=.ok (c,0)) :
    SX130xShape c ∧ List.Forall₂ ChannelOf (lbtItems (sx1261Members members)) (lbtChannels c) ∧
      c.ifFSKConf=readPart members (ascii "chan_FSK") parseChannelFSK .zero := by
  rw [GatewaySX130xConfig.parse] at h
  obtain ⟨⟨sx1261Config,r⟩,hsx1261,hresult⟩ := bind_eq_ok.mp h
  have hradio : Sx1261Shape sx1261Config ∧ List.Forall₂ ChannelOf (lbtItems (sx1261Members members))
      (sx1261Config.lbt.channels.take sx1261Config.lbt.nbChannel.toNat) := by
    rw [parseSx1261] at hsx1261
    rw [sx1261Members,getMember]
    cases hlookup : members.lookup (ascii "sx1261_conf") with
    | none =>
      rw [hlookup] at hsx1261
      obtain ⟨rfl,-⟩ := Prod.mk.inj (Except.ok.inj hsx1261)
      exact ⟨sx1261Shape_reset,.nil⟩
    | some value =>
      rw [hlookup] at hsx1261
      cases value with
      | object part => exact parse_sx1261_ok hsx1261
      | _ => cases hsx1261
  dsimp only at hresult
  split_ifs at hresult with hr hcom
  · exact absurd (Prod.mk.inj (Except.ok.inj hresult)).2 hr
  · cases (Prod.mk.inj (Except.ok.inj hresult)).2
  · obtain ⟨rfl,-⟩ := Prod.mk.inj (Except.ok.inj hresult)
    exact ⟨sx130xShape_parseChannels undefinedBits hradio.1 hcom,hradio.2,rfl⟩

end Concentrator

section Kept

/-- A front and what is behind it are read back as they were exactly if every channel is. -/
theorem take_rereadLbt_iff {lbt : LgwConfLbt} (h : LbtShape lbt) :
    (rereadLbt lbt).channels.take lbt.nbChannel.toNat=lbt.channels.take lbt.nbChannel.toNat ↔
      ∀ channel∈lbt.channels.take lbt.nbChannel.toNat,rereadChannel channel=channel := by
  set entries := lbt.channels.take lbt.nbChannel.toNat with hentries
  have hlength : (entries.map rereadChannel).length=lbt.nbChannel.toNat := by
    rw [List.length_map,h.channels.length_take]
  have hid : entries.map id=entries := List.map_id entries
  rw [show (rereadLbt lbt).channels=entries.map rereadChannel++_ from rfl,List.take_left' hlength]
  calc entries.map rereadChannel=entries
      ↔ entries.map rereadChannel=entries.map id := by rw [hid]
    _ ↔ ∀ channel∈entries,rereadChannel channel=channel := List.map_inj_left

/-- A concentrator is read back as it was exactly if its channels and its frequency
shift keying are. -/
theorem equal_rereadSX130x_iff {c : GatewaySX130xConfig} (h : SX130xShape c) :
    (rereadSX130x c).equal c=true ↔
      (∀ channel∈lbtChannels c,rereadChannel channel=channel) ∧ rereadFSK c.ifFSKConf=c.ifFSKConf := by
  have hradio : (rereadSx1261 c.sx1261Config).equal c.sx1261Config=true ↔
      ∀ channel∈lbtChannels c,rereadChannel channel=channel := by
    rw [lbtChannels,← take_rereadLbt_iff h.sx1261Config.lbt]
    simp only [GatewaySX1261Config.equal,Bool.and_eq_true,decide_eq_true_eq]
    exact ⟨fun heq => heq.2,fun heq => ⟨⟨⟨rfl,rfl⟩,rfl⟩,heq⟩⟩
  rw [← hradio]
  simp only [GatewaySX130xConfig.equal,Bool.and_eq_true,decide_eq_true_eq]
  simp only [rereadSX130x,true_and,and_true]

/-- The part for frequency shift keying has a bandwidth, or a deviation to take one from,
of at most 500 kilohertz, and its frequency fits `int`. -/
structure FskKept (part : Members) : Prop where
  /-- The bandwidth is defined. -/
  bandwidth_pos : fskBandwidthHz (readMember part "datarate" unsigned32? 0) part≠0
  /-- It is not too wide. -/
  bandwidth_le : fskBandwidthHz (readMember part "datarate" unsigned32? 0) part≤500000
  /-- The frequency fits `int`. -/
  frequency : ∀ hz,getMember part "if" Json.uint?=some hz → hz<2^31

/-- A class of bandwidths is defined up to 500 kilohertz. -/
theorem fskBandwidthIndex_ne_iff (bw : UInt32) : fskBandwidthIndex bw≠BW_UNDEFINED ↔ bw≠0 ∧ bw≤500000 := by
  rw [fskBandwidthIndex]
  split_ifs with hzero hnarrow hmiddle hwide
  · exact iff_of_false (fun h => h rfl) fun h => h.1 hzero
  · exact iff_of_true (by decide) ⟨hzero,UInt32.le_trans hnarrow (by decide)⟩
  · exact iff_of_true (by decide) ⟨hzero,UInt32.le_trans hmiddle (by decide)⟩
  · exact iff_of_true (by decide) ⟨hzero,hwide⟩
  · exact iff_of_false (fun h => h rfl) fun h => hwide h.2

/-- A number of 32 bits is not below zero as an `int` exactly if it fits. -/
theorem int32_ofNat_nonneg_iff {hz : ℕ} (h : hz<2^32) : 0≤(Int32.ofNat hz).toInt ↔ hz<2^31 := by
  have hvalue : (Int32.ofNat hz).toInt=(hz : ℤ).bmod (2^32) := Int32.toInt_ofNat'
  rw [hvalue,Int.bmod_def]
  split <;> omega

/-- An `unsigned` fits 32 bits. -/
theorem uint?_lt {value : Json} {number : ℕ} (h : value.uint?=some number) : number<2^32 := by
  cases value with
  | int value =>
    rw [Json.uint?] at h
    split_ifs at h with hrange
    rw [← Option.some.inj h]
    omega
  | _ => cases h

/-- Frequency shift keying is read back as it was exactly if its part is there and kept. -/
theorem rereadFSK_readPart_iff (members : Members) :
    rereadFSK (readPart members (ascii "chan_FSK") parseChannelFSK .zero)=
        readPart members (ascii "chan_FSK") parseChannelFSK .zero ↔
      ∃ part,enabledPart members (ascii "chan_FSK")=some part ∧ FskKept part := by
  rw [readPart]
  cases hpart : enabledPart members (ascii "chan_FSK") with
  | none =>
    rw [Option.map_none,Option.getD_none,rereadFSK_eq_iff fskShape_zero]
    refine iff_of_false (fun h => h.1 rfl) ?_
    rintro ⟨part,hsome,-⟩
    cases hsome
  | some part =>
    have hfrequency : 0≤(parseChannelFSK .zero part).freqHz.toInt ↔
        ∀ hz,getMember part "if" Json.uint?=some hz → hz<2^31 := by
      have hread : (parseChannelFSK .zero part).freqHz=
          ((getMember part "if" Json.uint?).map Int32.ofNat).getD 0 := by
        change readMember part "if" (fun v => v.uint?.map Int32.ofNat) 0=_
        rw [readMember,getMember,getMember]
        cases part.lookup (ascii "if") <;> rfl
      rw [hread]
      cases hhz : getMember part "if" Json.uint? with
      | none => exact iff_of_true (by decide) fun hz hsome => by cases hsome
      | some hz =>
        obtain ⟨value,-,hvalue⟩ := Option.bind_eq_some_iff.mp hhz
        rw [Option.map_some,Option.getD_some,int32_ofNat_nonneg_iff (uint?_lt hvalue)]
        exact ⟨fun hlt other hother => Option.some.inj hother ▸ hlt,fun hall => hall hz rfl⟩
    have hbandwidth : (parseChannelFSK .zero part).bandwidth≠BW_UNDEFINED ↔
        fskBandwidthHz (readMember part "datarate" unsigned32? 0) part≠0 ∧
          fskBandwidthHz (readMember part "datarate" unsigned32? 0) part≤500000 := fskBandwidthIndex_ne_iff _
    rw [Option.map_some,Option.getD_some,rereadFSK_eq_iff (fskShape_parseChannelFSK part),hbandwidth,hfrequency]
    constructor
    · rintro ⟨⟨hpos,hle⟩,hall⟩
      exact ⟨part,rfl,hpos,hle,hall⟩
    · rintro ⟨other,hother,hkept⟩
      obtain rfl := Option.some.inj hother
      exact ⟨⟨hkept.bandwidth_pos,hkept.bandwidth_le⟩,hkept.frequency⟩

/-- The part for the concentrator has a kept part for frequency shift keying, and every
channel of listening before talking that is read has a scan time. -/
structure ConcentratorKept (members : Members) : Prop where
  /-- Every channel has a scan time. -/
  scanTimes : ∀ item∈lbtItems (sx1261Members members),
    (getMember ((object? item).getD []) "scan_time_us" Json.uint?).isSome=true
  /-- Frequency shift keying. -/
  fsk : ∃ part,enabledPart members (ascii "chan_FSK")=some part ∧ FskKept part

/-- Elements that correspond to items have a property exactly if the items have it. -/
theorem forall_mem_iff_of_forall₂ {α β : Type} {r : α → β → Prop} {p : α → Prop} {q : β → Prop}
    (hpq : ∀ a b,r a b → (q b ↔ p a)) {items : List α} {elements : List β}
    (h : List.Forall₂ r items elements) :
    (∀ element∈elements,q element) ↔ ∀ item∈items,p item := by
  induction h with
  | nil => exact iff_of_true (fun _ hmem => absurd hmem List.not_mem_nil) fun _ hmem => absurd hmem List.not_mem_nil
  | cons hab _ ih => rw [List.forall_mem_cons,List.forall_mem_cons,ih,hpq _ _ hab]

/-- A concentrator that was read is read back as it was exactly if its document keeps it. -/
theorem equal_reread_iff_kept {undefinedBits : Json → UInt8} {members : Members} {c : GatewaySX130xConfig}
    (h : GatewaySX130xConfig.parse undefinedBits (.object members)=.ok (c,0)) :
    (rereadSX130x c).equal c=true ↔ ConcentratorKept members := by
  obtain ⟨hshape,hchannels,hfsk⟩ := parse_sx130x_ok undefinedBits h
  have hscan := forall_mem_iff_of_forall₂ (fun _ _ hof => rereadChannel_eq_iff hof) hchannels
  rw [equal_rereadSX130x_iff hshape,hscan,hfsk,rereadFSK_readPart_iff]
  exact ⟨fun hboth => ⟨hboth.1,hboth.2⟩,fun hkept => ⟨hkept.scanTimes,hkept.fsk⟩⟩

/-- A concentrator that is clear is not read back as it was. -/
theorem not_equal_reread_reset : ¬(rereadSX130x .reset).equal .reset=true := by
  rw [equal_rereadSX130x_iff sx130xShape_reset]
  rintro ⟨-,hfsk⟩
  exact absurd (congrArg LgwConfRxif.bandwidth hfsk) (by decide)

end Kept

end LorawanServer.ConcentratorChannels
