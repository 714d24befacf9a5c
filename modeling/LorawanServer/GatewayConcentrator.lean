import LorawanServer.ServerConfiguration

/-!
# The configuration of a concentrator

`GatewaySX1261Config` and `GatewaySX130xConfig`: `parse`, `toJSON` and the comparison.
Bandwidths are kept as numbers of the hardware and written in hertz. Arrays are lists
of their length, an array of characters is the text it holds, as `strncpy` fills it up
with zeros, and the members of the records that nothing writes stay zero. What the
language leaves undefined for a spreading factor is an argument.
-/

namespace LorawanServer.GatewayConcentrator

open CppRuntime Records JsonDocument Datagram ServerConfiguration

/-- The ways in which reading ends without a configuration. -/
inductive Failure where
  /-- `std::invalid_argument`, thrown for a text without digits. -/
  | invalidArgument
  /-- `std::out_of_range`, thrown for a number that is too large. -/
  | outOfRange
  /-- The library is asked for a member of a value that is no object. -/
  | notObject
  deriving DecidableEq,Repr

/-- The members of an object. -/
def object? : Json → Option Members
  | .object members => some members
  | _ => none

/-- The items of an array. -/
def array? : Json → Option (List Json)
  | .array items => some items
  | _ => none

/-- The members of an object; of another value they must not be asked for. -/
def objectOf : Json → Except Failure Members
  | .object members => .ok members
  | _ => .error .notObject

/-- The value of an integer of the type `unsigned`. -/
def unsigned32? (value : Json) : Option UInt32 := value.uint?.map UInt32.ofNat

/-- The value of an integer of the type `unsigned`, narrowed to two bytes. -/
def unsigned16? (value : Json) : Option UInt16 := value.uint?.map UInt16.ofNat

/-- The value of an integer of the type `unsigned`, narrowed to a byte. -/
def unsigned8? (value : Json) : Option UInt8 := value.uint?.map UInt8.ofNat

/-- The value of an integer of the type `int`, narrowed to two bytes. -/
def signed16? (value : Json) : Option Int16 := value.int?.map Int16.ofInt

/-- The value of an integer of the type `int`, narrowed to a byte. -/
def signed8? (value : Json) : Option Int8 := value.int?.map Int8.ofInt

/-- The value of an integer of the type `int` or of a decimal. -/
def number? (value : Json) : Option ℚ :=
  match value.int? with
  | some number => some number
  | none => value.double?

/-- A text that fits an array of the given size with its zero byte. -/
def path? (size : ℕ) (value : Json) : Option Bytes := value.string?.filter fun text => text.length<size

/-- The members of an object behind a name, if `enable` is one of them. -/
def enabledPart (members : Members) (name : Bytes) : Option Members :=
  ((members.lookup name).bind object?).filter fun part => (part.lookup (ascii "enable")).isSome

/-- The loop over an array that assigns its elements from the items of a list. -/
def assignItems {α β : Type} (assign : α → β → α) : List α → List β → List α
  | element::elements,item::items => assign element item::assignItems assign elements items
  | elements,_ => elements

/-- `LGW_RF_CHAIN_NB`. -/
abbrev LGW_RF_CHAIN_NB : ℕ := 2

/-- `LGW_MULTI_NB`. -/
abbrev LGW_MULTI_NB : ℕ := 8

/-- `LGW_LBT_CHANNEL_NB_MAX`. -/
abbrev LGW_LBT_CHANNEL_NB_MAX : UInt8 := 16

/-- `TX_GAIN_LUT_SIZE_MAX`. -/
abbrev TX_GAIN_LUT_SIZE_MAX : ℕ := 16

/-- `BW_UNDEFINED`. -/
abbrev BW_UNDEFINED : UInt8 := 0

/-- `BW_500KHZ`. -/
abbrev BW_500KHZ : UInt8 := 6

/-- `BW_250KHZ`. -/
abbrev BW_250KHZ : UInt8 := 5

/-- `BW_125KHZ`. -/
abbrev BW_125KHZ : UInt8 := 4

/-- `LGW_LBT_SCAN_TIME_128_US`. -/
abbrev LGW_LBT_SCAN_TIME_128_US : UInt32 := 128

/-- `LGW_LBT_SCAN_TIME_5000_US`. -/
abbrev LGW_LBT_SCAN_TIME_5000_US : UInt32 := 5000

/-- `bandwidthIndex2hz`. -/
def bandwidthIndex2hz (bandwidthIndex : UInt8) : ℕ :=
  if bandwidthIndex=BW_500KHZ then 500000
  else if bandwidthIndex=BW_250KHZ then 250000
  else if bandwidthIndex=BW_125KHZ then 125000
  else if bandwidthIndex=3 then 62000
  else if bandwidthIndex=2 then 41000
  else if bandwidthIndex=1 then 31000
  else if bandwidthIndex=0 then 20000
  else 15000

/-- The switch over a bandwidth in hertz. -/
def bandwidthHz2index (bw : ℕ) : UInt8 :=
  if bw=500000 then BW_500KHZ
  else if bw=250000 then BW_250KHZ
  else if bw=125000 then BW_125KHZ
  else BW_UNDEFINED

/-- The switch over a scan time in microseconds. -/
def scanTime (us : ℕ) : UInt32 :=
  if us=128 then LGW_LBT_SCAN_TIME_128_US else LGW_LBT_SCAN_TIME_5000_US

/-- `lgw_conf_sx1261_s`. -/
structure LgwConfSx1261 where
  /-- The radio is on. -/
  enable : Bool
  /-- Path of the device. -/
  spiPath : Bytes
  /-- Offset of the signal strength. -/
  rssiOffset : Int8
  deriving DecidableEq

/-- `spectral_scan_t`. -/
structure SpectralScan where
  /-- The scan is on. -/
  enable : Bool
  /-- First channel, in hertz. -/
  freqHzStart : UInt32
  /-- Number of channels. -/
  nbChan : UInt8
  /-- Points for each frequency. -/
  nbScan : UInt16
  /-- Seconds between two scans. -/
  paceS : UInt32
  deriving DecidableEq

/-- `lgw_conf_chan_lbt_s`. -/
structure LgwConfChanLbt where
  /-- Frequency. -/
  freqHz : UInt32
  /-- Number of the bandwidth. -/
  bandwidth : UInt8
  /-- Time of the carrier sense, zero before one is read. -/
  scanTimeUs : UInt32
  /-- Duration of a transmission. -/
  transmitTimeMs : UInt16
  deriving DecidableEq

/-- `lgw_conf_lbt_s`. -/
structure LgwConfLbt where
  /-- Listening before talking is on. -/
  enable : Bool
  /-- Threshold of a busy channel. -/
  rssiTarget : Int8
  /-- Number of channels. -/
  nbChannel : UInt8
  /-- The array of the channels. -/
  channels : List LgwConfChanLbt
  deriving DecidableEq

/-- The class `GatewaySX1261Config`. -/
structure GatewaySX1261Config where
  /-- The additional radio. -/
  sx1261 : LgwConfSx1261
  /-- The spectral scan. -/
  spectralScan : SpectralScan
  /-- Listening before talking. -/
  lbt : LgwConfLbt
  deriving DecidableEq

/-- A channel that `memset` has cleared. -/
def LgwConfChanLbt.zero : LgwConfChanLbt := ⟨0,0,0,0⟩

/-- `GatewaySX1261Config::reset`. -/
def GatewaySX1261Config.reset : GatewaySX1261Config :=
  ⟨⟨false,[],0⟩,⟨false,0,0,0,0⟩,⟨false,0,0,List.replicate LGW_LBT_CHANNEL_NB_MAX.toNat .zero⟩⟩

/-- `GatewaySX1261Config::parse` of the spectral scan. -/
def parseSpectralScan (scan : SpectralScan) (part : Members) : SpectralScan where
  enable := readMember part "enable" bool? scan.enable
  freqHzStart := readMember part "freq_start" unsigned32? scan.freqHzStart
  nbChan := readMember part "nb_chan" unsigned8? scan.nbChan
  nbScan := readMember part "nb_scan" unsigned16? scan.nbScan
  paceS := readMember part "pace_s" unsigned32? scan.paceS

/-- `GatewaySX1261Config::parse` of one channel. -/
def parseLbtChannel (channel : LgwConfChanLbt) (members : Members) : LgwConfChanLbt where
  freqHz := readMember members "freq_hz" unsigned32? channel.freqHz
  bandwidth := readMember members "bandwidth" (fun v => v.uint?.map bandwidthHz2index) channel.bandwidth
  scanTimeUs := readMember members "scan_time_us" (fun v => v.uint?.map scanTime) channel.scanTimeUs
  transmitTimeMs := readMember members "transmit_time_ms" unsigned16? channel.transmitTimeMs

/-- The number of channels for a number of items, which is narrowed to a byte first. -/
def lbtChannelCount (size : ℕ) : UInt8 :=
  if LGW_LBT_CHANNEL_NB_MAX<UInt8.ofNat size then LGW_LBT_CHANNEL_NB_MAX else UInt8.ofNat size

/-- `GatewaySX1261Config::parse` of the channels. -/
def parseLbtChannels (lbt : LgwConfLbt) (items : List Json) : Except Failure LgwConfLbt := do
  let nbChannel := lbtChannelCount items.length
  let channels ← (items.take nbChannel.toNat).mapM objectOf
  return {lbt with nbChannel := nbChannel, channels := assignItems parseLbtChannel lbt.channels channels}

/-- `GatewaySX1261Config::parse` of listening before talking. -/
def parseLbt (lbt : LgwConfLbt) (part : Members) : Except Failure LgwConfLbt :=
  let lbt := {lbt with
    enable := readMember part "enable" bool? lbt.enable
    rssiTarget := readMember part "rssi_target" signed8? lbt.rssiTarget}
  match getMember part "channels" array? with
  | some items => parseLbtChannels lbt items
  | none => .ok lbt

/-- `GatewaySX1261Config::parse`. Both parts switch the radio on. -/
def GatewaySX1261Config.parse (c : GatewaySX1261Config) : Json → Except Failure (GatewaySX1261Config×ℤ)
  | .object members => do
    let scanPart := enabledPart members (ascii "spectral_scan")
    let lbtPart := enabledPart members (ascii "lbt")
    let spectralScan := (scanPart.map (parseSpectralScan c.spectralScan)).getD c.spectralScan
    let lbt ← (lbtPart.map (parseLbt c.lbt)).getD (.ok c.lbt)
    let sx1261 : LgwConfSx1261 := {
      enable := scanPart.isSome && spectralScan.enable || lbtPart.isSome && lbt.enable || c.sx1261.enable
      spiPath := readMember members "spi_path" (path? 64) c.sx1261.spiPath
      rssiOffset := readMember members "rssi_offset" signed8? c.sx1261.rssiOffset}
    return (⟨sx1261,spectralScan,lbt⟩,0)
  | _ => .error .notObject

/-- The members of a channel. -/
def LgwConfChanLbt.members (channel : LgwConfChanLbt) : Members :=
  [(ascii "freq_hz",.int channel.freqHz.toNat),
  (ascii "bandwidth",.int (bandwidthIndex2hz channel.bandwidth)),
  (ascii "scan_time_us",.int channel.scanTimeUs.toNat),
  (ascii "transmit_time_ms",.int channel.transmitTimeMs.toNat)]

/-- The members of the spectral scan. -/
def SpectralScan.members (scan : SpectralScan) : Members :=
  [(ascii "enable",.bool scan.enable),
  (ascii "freq_start",.int scan.freqHzStart.toNat),
  (ascii "nb_chan",.int scan.nbChan.toNat),
  (ascii "nb_scan",.int scan.nbScan.toNat),
  (ascii "pace_s",.int scan.paceS.toNat)]

/-- The members of listening before talking. -/
def LgwConfLbt.members (lbt : LgwConfLbt) : Members :=
  [(ascii "enable",.bool lbt.enable),
  (ascii "rssi_target",.int lbt.rssiTarget.toInt),
  (ascii "channels",.array ((lbt.channels.take lbt.nbChannel.toNat).map fun channel => .object channel.members))]

/-- The members of `GatewaySX1261Config::toJSON`. -/
def GatewaySX1261Config.members (c : GatewaySX1261Config) : Members :=
  [(ascii "spi_path",.string (cString c.sx1261.spiPath)),
  (ascii "rssi_offset",.int c.sx1261.rssiOffset.toInt),
  (ascii "spectral_scan",.object c.spectralScan.members),
  (ascii "lbt",.object c.lbt.members)]

/-- `GatewaySX1261Config::operator==`: of listening before talking only the channels count. -/
def GatewaySX1261Config.equal (c b : GatewaySX1261Config) : Bool :=
  c.lbt.nbChannel=b.lbt.nbChannel && c.sx1261=b.sx1261 && c.spectralScan=b.spectralScan &&
    c.lbt.channels.take c.lbt.nbChannel.toNat=b.lbt.channels.take c.lbt.nbChannel.toNat

/-- `lgw_com_type_t`. -/
inductive LgwComType where
  /-- `LGW_COM_SPI`. -/
  | spi
  /-- `LGW_COM_USB`. -/
  | usb
  /-- `LGW_COM_UNKNOWN`. -/
  | unknown
  deriving DecidableEq

/-- `lgw_ftime_mode_t`. -/
inductive LgwFtimeMode where
  /-- `LGW_FTIME_MODE_HIGH_CAPACITY`. -/
  | highCapacity
  /-- `LGW_FTIME_MODE_ALL_SF`. -/
  | allSf
  deriving DecidableEq

/-- `lgw_radio_type_t`. -/
inductive LgwRadioType where
  /-- `LGW_RADIO_TYPE_NONE`. -/
  | none
  /-- `LGW_RADIO_TYPE_SX1255`. -/
  | sx1255
  /-- `LGW_RADIO_TYPE_SX1257`. -/
  | sx1257
  /-- `LGW_RADIO_TYPE_SX1272`. -/
  | sx1272
  /-- `LGW_RADIO_TYPE_SX1276`. -/
  | sx1276
  /-- `LGW_RADIO_TYPE_SX1250`. -/
  | sx1250
  deriving DecidableEq

/-- `lgw_com_type_t2string`. -/
def lgwComType2string : LgwComType → Bytes
  | .spi => ascii "SPI"
  | .usb => ascii "USB"
  | .unknown => ascii "unknown"

/-- `lgw_ftime_mode_t2string`. -/
def lgwFtimeMode2string : LgwFtimeMode → Bytes
  | .highCapacity => ascii "high_capacity"
  | .allSf => ascii "all_sf"

/-- `lgw_radio_type_t2string`. -/
def lgwRadioType2string : LgwRadioType → Bytes
  | .sx1255 => ascii "SX1255"
  | .sx1257 => ascii "SX1257"
  | .sx1272 => ascii "SX1272"
  | .sx1276 => ascii "SX1276"
  | .sx1250 => ascii "SX1250"
  | .none => ascii "none"

/-- `lgw_conf_board_s`. -/
structure LgwConfBoard where
  /-- The network is public. -/
  lorawanPublic : Bool
  /-- Chain that provides the clock. -/
  clksrc : UInt8
  /-- Full duplex. -/
  fullDuplex : Bool
  /-- Communication interface. -/
  comType : LgwComType
  /-- Path of the device. -/
  comPath : Bytes
  deriving DecidableEq

/-- `lgw_conf_ftime_s`. -/
structure LgwConfFtime where
  /-- Fine timestamps are on. -/
  enable : Bool
  /-- Their mode. -/
  mode : LgwFtimeMode
  deriving DecidableEq

/-- `lgw_rssi_tcomp_s`. -/
structure LgwRssiTcomp where
  /-- First coefficient. -/
  coeffA : ℚ
  /-- Second coefficient. -/
  coeffB : ℚ
  /-- Third coefficient. -/
  coeffC : ℚ
  /-- Fourth coefficient. -/
  coeffD : ℚ
  /-- Fifth coefficient. -/
  coeffE : ℚ
  deriving DecidableEq

/-- `lgw_conf_rxrf_s`. -/
structure LgwConfRxrf where
  /-- The chain is on. -/
  enable : Bool
  /-- Center frequency. -/
  freqHz : UInt32
  /-- Offset of the signal strength. -/
  rssiOffset : ℚ
  /-- Its compensation for the temperature. -/
  rssiTcomp : LgwRssiTcomp
  /-- Type of the radio. -/
  type : LgwRadioType
  /-- The chain transmits. -/
  txEnable : Bool
  /-- Single input. -/
  singleInputMode : Bool
  deriving DecidableEq

/-- `lgw_tx_gain_s`. -/
structure LgwTxGain where
  /-- Power at the connector. -/
  rfPower : Int8
  /-- Digital gain. -/
  digGain : UInt8
  /-- Gain of the amplifier. -/
  paGain : UInt8
  /-- Gain of the converter. -/
  dacGain : UInt8
  /-- Gain of the mixer. -/
  mixGain : UInt8
  /-- Offset of one part of the signal, which nothing reads. -/
  offsetI : Int8
  /-- Offset of the other part. -/
  offsetQ : Int8
  /-- Index of the power. -/
  pwrIdx : UInt8
  deriving DecidableEq

/-- `lgw_tx_gain_lut_s`. -/
structure LgwTxGainLut where
  /-- The array of the gains. -/
  lut : List LgwTxGain
  /-- Number of gains. -/
  size : UInt8
  deriving DecidableEq

/-- What `rfConfs`, `tx_freq_min`, `tx_freq_max` and `txLut` hold for one chain. -/
structure RfChain where
  /-- Element of `rfConfs`. -/
  rfConf : LgwConfRxrf
  /-- Element of `tx_freq_min`. -/
  txFreqMin : UInt32
  /-- Element of `tx_freq_max`. -/
  txFreqMax : UInt32
  /-- Element of `txLut`. -/
  txLut : LgwTxGainLut
  deriving DecidableEq

/-- `lgw_conf_rxif_s`. -/
structure LgwConfRxif where
  /-- The chain is on. -/
  enable : Bool
  /-- Its radio. -/
  rfChain : UInt8
  /-- Frequency, relative to the one of the radio. -/
  freqHz : Int32
  /-- Number of the bandwidth. -/
  bandwidth : UInt8
  /-- Data rate. -/
  datarate : UInt32
  /-- Size of the synchronisation word, which nothing reads. -/
  syncWordSize : UInt8
  /-- Synchronisation word, which nothing reads. -/
  syncWord : UInt64
  /-- Implicit header. -/
  implicitHdr : Bool
  /-- Length of the payload behind an implicit header. -/
  implicitPayloadLength : UInt8
  /-- Checksum behind an implicit header. -/
  implicitCrcEn : Bool
  /-- Coding rate behind an implicit header. -/
  implicitCoderate : UInt8
  deriving DecidableEq

/-- The class `GatewaySX130xConfig`. -/
structure GatewaySX130xConfig where
  /-- The additional radio. -/
  sx1261Config : GatewaySX1261Config
  /-- The board. -/
  boardConf : LgwConfBoard
  /-- Gain of the antenna. -/
  antennaGain : Int8
  /-- Fine timestamps. -/
  tsConf : LgwConfFtime
  /-- The radios. -/
  rfChains : Vector RfChain LGW_RF_CHAIN_NB
  /-- The channels for all spreading factors. -/
  ifConfs : Vector LgwConfRxif LGW_MULTI_NB
  /-- The channel for one spreading factor. -/
  ifStdConf : LgwConfRxif
  /-- The channel for frequency shift keying. -/
  ifFSKConf : LgwConfRxif
  /-- `demodConf.multisf_datarate`, a bit for each spreading factor. -/
  multisfDatarate : UInt8
  deriving DecidableEq

/-- A gain that `memset` has cleared. -/
def LgwTxGain.zero : LgwTxGain := ⟨0,0,0,0,0,0,0,0⟩

/-- A radio that `memset` has cleared. -/
def RfChain.zero : RfChain :=
  ⟨⟨false,0,0,⟨0,0,0,0,0⟩,.none,false,false⟩,0,0,⟨List.replicate TX_GAIN_LUT_SIZE_MAX .zero,0⟩⟩

/-- A channel that `memset` has cleared. -/
def LgwConfRxif.zero : LgwConfRxif := ⟨false,0,0,0,0,0,0,false,0,false,0⟩

/-- `GatewaySX130xConfig::reset`. -/
def GatewaySX130xConfig.reset : GatewaySX130xConfig :=
  ⟨.reset,⟨false,0,false,.spi,[]⟩,0,⟨false,.highCapacity⟩,Vector.replicate _ .zero,Vector.replicate _ .zero,
    .zero,.zero,0⟩

/-- `GatewaySX130xConfig::parse` of the communication interface. -/
def parseComType (members : Members) : LgwComType :=
  match getMember members "com_type" Json.string? with
  | some s =>
    if s=ascii "USB" ∨ s=ascii "usb" then .usb
    else if s=ascii "SPI" ∨ s=ascii "spi" then .spi
    else .unknown
  | none => .unknown

/-- `GatewaySX130xConfig::parse` of the board. -/
def parseBoardConf (board : LgwConfBoard) (members : Members) : LgwConfBoard where
  lorawanPublic := readMember members "lorawan_public" bool? board.lorawanPublic
  clksrc := readMember members "clksrc" unsigned8? board.clksrc
  fullDuplex := readMember members "full_duplex" bool? board.fullDuplex
  comType := parseComType members
  comPath := readMember members "com_path" (path? 64) board.comPath

/-- The mode for a text; another text leaves it. -/
def ftimeMode? (s : Bytes) : Option LgwFtimeMode :=
  if s=ascii "high_capacity" ∨ s=ascii "HIGH_CAPACITY" then some .highCapacity
  else if s=ascii "all_sf" ∨ s=ascii "ALL_SF" then some .allSf
  else none

/-- `GatewaySX130xConfig::parse` of the fine timestamps. -/
def parseFineTimestamp (ts : LgwConfFtime) (part : Members) : LgwConfFtime :=
  let enable := readMember part "enable" bool? ts.enable
  let mode := readMember part "mode" (fun v => v.string?.bind ftimeMode?) .highCapacity
  ⟨enable,if enable then mode else .highCapacity⟩

/-- The type of a radio for a text; another text leaves it. -/
def radioType? (s : Bytes) : Option LgwRadioType :=
  if s=ascii "SX1255" then some .sx1255
  else if s=ascii "SX1257" then some .sx1257
  else if s=ascii "SX1250" then some .sx1250
  else none

/-- `GatewaySX130xConfig::parse` of the compensation for the temperature. -/
def parseRssiTcomp (tcomp : LgwRssiTcomp) (part : Members) : LgwRssiTcomp where
  coeffA := readMember part "coeff_a" number? tcomp.coeffA
  coeffB := readMember part "coeff_b" number? tcomp.coeffB
  coeffC := readMember part "coeff_c" number? tcomp.coeffC
  coeffD := readMember part "coeff_d" number? tcomp.coeffD
  coeffE := readMember part "coeff_e" number? tcomp.coeffE

/-- `GatewaySX130xConfig::parse` of a radio that is on. -/
def parseRfConf (rfConf : LgwConfRxrf) (part : Members) : LgwConfRxrf where
  enable := true
  freqHz := readMember part "freq" unsigned32? rfConf.freqHz
  rssiOffset := readMember part "rssi_offset" number? rfConf.rssiOffset
  rssiTcomp :=
    match getMember part "rssi_tcomp" object? with
    | some tcomp => parseRssiTcomp rfConf.rssiTcomp tcomp
    | none => rfConf.rssiTcomp
  type := readMember part "type" (fun v => v.string?.bind radioType?) .none
  txEnable := readMember part "tx_enable" bool? rfConf.txEnable
  singleInputMode := readMember part "single_input_mode" bool? rfConf.singleInputMode

/-- `GatewaySX130xConfig::parse` of one gain. An index of the power sets the gain of the mixer. -/
def parseTxGain (gain : LgwTxGain) : Json → LgwTxGain
  | .object members =>
    let pwrIdx := getMember members "pwr_idx" unsigned8?
    { rfPower := readMember members "rf_power" signed8? gain.rfPower
      digGain := readMember members "dig_gain" unsigned8? gain.digGain
      paGain := readMember members "pa_gain" unsigned8? gain.paGain
      dacGain := readMember members "dac_gain" unsigned8? gain.dacGain
      mixGain := readMember members "mix_gain" unsigned8? (if pwrIdx.isSome then 5 else gain.mixGain)
      offsetI := gain.offsetI
      offsetQ := gain.offsetQ
      pwrIdx := pwrIdx.getD gain.pwrIdx }
  | _ => gain

/-- `GatewaySX130xConfig::parse` of the gains. -/
def parseTxGainLut (txLut : LgwTxGainLut) (items : List Json) : LgwTxGainLut :=
  let sz := min items.length TX_GAIN_LUT_SIZE_MAX
  ⟨assignItems parseTxGain txLut.lut (items.take sz),UInt8.ofNat sz⟩

/-- `GatewaySX130xConfig::parse` of one radio. Of a radio that is off nothing else is read. -/
def parseRadio (chain : RfChain) (part : Members) : RfChain :=
  if readMember part "enable" bool? chain.rfConf.enable then
    { rfConf := parseRfConf chain.rfConf part
      txFreqMin := readMember part "tx_freq_min" unsigned32? chain.txFreqMin
      txFreqMax := readMember part "tx_freq_max" unsigned32? chain.txFreqMax
      txLut :=
        match getMember part "tx_gain_lut" array? with
        | some items => parseTxGainLut chain.txLut items
        | none => chain.txLut }
  else {chain with rfConf := {chain.rfConf with enable := false,type := .none}}

section SpreadingFactors

variable (undefinedBits : Json → UInt8)

/-- The bit `1 << (n - 5)` of an item. What an item that is not of the type `unsigned`
or a shift by a distance outside `int` gives is an argument. -/
def spreadingFactorBit (item : Json) : UInt8 :=
  match item.uint? with
  | some value =>
    let n := value%256
    if 5≤n ∧ n<37 then UInt8.ofNat (2^(n-5)) else undefinedBits item
  | none => undefinedBits item

/-- `GatewaySX130xConfig::parse` of the spreading factors. -/
def parseSpreadingFactors (items : List Json) : UInt8 :=
  items.foldl (fun bits item => bits|||spreadingFactorBit undefinedBits item) 0

/-- `GatewaySX130xConfig::parse` of the bits of the demodulators, all of them without an array. -/
def parseMultisfDatarate (members : Members) : UInt8 :=
  let demod := (getMember members "chan_multiSF_All" object?).getD []
  match getMember demod "spreading_factor_enable" array? with
  | some items => parseSpreadingFactors undefinedBits items
  | none => 0xff

/-- `GatewaySX130xConfig::parse` of a channel for all spreading factors. -/
def parseChannelSF (chan : LgwConfRxif) (part : Members) : LgwConfRxif :=
  {chan with
    enable := readMember part "enable" bool? chan.enable
    rfChain := readMember part "radio" unsigned8? chan.rfChain
    freqHz := readMember part "if" int32? chan.freqHz}

/-- `GatewaySX130xConfig::parse` of what follows an implicit header. -/
def parseImplicit (chan : LgwConfRxif) (part : Members) : LgwConfRxif :=
  if (part.lookup (ascii "implicit_hdr")).isSome then
    {chan with
      implicitHdr := readMember part "implicit_hdr" bool? chan.implicitHdr
      implicitPayloadLength := readMember part "implicit_payload_length" unsigned8? chan.implicitPayloadLength
      implicitCrcEn := readMember part "implicit_crc_en" bool? chan.implicitCrcEn
      implicitCoderate := readMember part "implicit_coderate" unsigned8? chan.implicitCoderate}
  else chan

/-- `GatewaySX130xConfig::parse` of the channel for one spreading factor. -/
def parseChannelStd (chan : LgwConfRxif) (part : Members) : LgwConfRxif :=
  let chan := {parseChannelSF chan part with
    bandwidth := readMember part "bandwidth" (fun v => v.uint?.map bandwidthHz2index) chan.bandwidth
    datarate := readMember part "spread_factor" unsigned32? chan.datarate}
  parseImplicit chan part

/-- The bandwidth in hertz that `GatewaySX130xConfig::parse` computes for frequency shift keying. -/
def fskBandwidthHz (datarate : UInt32) (part : Members) : UInt32 :=
  let bw := readMember part "bandwidth" unsigned32? 0
  let frequencyDeviation := readMember part "freq_deviation" unsigned32? 0
  if bw=0 ∧ frequencyDeviation≠0 then 2*frequencyDeviation+datarate else bw

/-- The number of the narrowest bandwidth that is wide enough. -/
def fskBandwidthIndex (bw : UInt32) : UInt8 :=
  if bw=0 then BW_UNDEFINED
  else if bw≤125000 then BW_125KHZ
  else if bw≤250000 then BW_250KHZ
  else if bw≤500000 then BW_500KHZ
  else BW_UNDEFINED

/-- `GatewaySX130xConfig::parse` of the channel for frequency shift keying. Its radio is
read under a test for `int` and its frequency under one for `unsigned`. -/
def parseChannelFSK (chan : LgwConfRxif) (part : Members) : LgwConfRxif :=
  let datarate := readMember part "datarate" unsigned32? chan.datarate
  {chan with
    enable := readMember part "enable" bool? chan.enable
    rfChain := readMember part "radio" uint8? chan.rfChain
    freqHz := readMember part "if" (fun v => v.uint?.map Int32.ofNat) chan.freqHz
    datarate := datarate
    bandwidth := fskBandwidthIndex (fskBandwidthHz datarate part)}

/-- `"radio_0"` with the digit of an index. -/
def radioName (radioIndex : ℕ) : Bytes := ascii "radio_"++[UInt8.ofNat (48+radioIndex)]

/-- `"chan_multiSF_0"` with the digit of an index. -/
def channelName (ch : ℕ) : Bytes := ascii "chan_multiSF_"++[UInt8.ofNat (48+ch)]

/-- What is read from a part that has `enable`, else what was there before. -/
def readPart {α : Type} (members : Members) (name : Bytes) (get : α → Members → α) (before : α) : α :=
  ((enabledPart members name).map (get before)).getD before

/-- `GatewaySX130xConfig::parse` of the additional radio. -/
def parseSx1261 (before : GatewaySX1261Config) (members : Members) : Except Failure (GatewaySX1261Config×ℤ) :=
  match members.lookup (ascii "sx1261_conf") with
  | some jSx1261 => before.parse jSx1261
  | none => .ok (before,0)

/-- `GatewaySX130xConfig::parse` behind the test of the interface. -/
def parseChannels (c : GatewaySX130xConfig) (members : Members) : GatewaySX130xConfig where
  sx1261Config := c.sx1261Config
  boardConf := parseBoardConf c.boardConf members
  antennaGain := readMember members "antenna_gain" signed8? c.antennaGain
  tsConf := readPart members (ascii "fine_timestamp") parseFineTimestamp c.tsConf
  rfChains := .ofFn fun i => readPart members (radioName i) parseRadio (c.rfChains.get i)
  ifConfs := .ofFn fun i => readPart members (channelName i) parseChannelSF (c.ifConfs.get i)
  ifStdConf := readPart members (ascii "chan_Lora_std") parseChannelStd c.ifStdConf
  ifFSKConf := readPart members (ascii "chan_FSK") parseChannelFSK c.ifFSKConf
  multisfDatarate := parseMultisfDatarate undefinedBits members

/-- `GatewaySX130xConfig::parse`, which starts with a reset. -/
def GatewaySX130xConfig.parse : Json → Except Failure (GatewaySX130xConfig×ℤ)
  | .object members => do
    let c := GatewaySX130xConfig.reset
    let (sx1261Config,r) ← parseSx1261 c.sx1261Config members
    let c := {c with sx1261Config := sx1261Config}
    if r≠0 then return (c,r)
    let comType := parseComType members
    if comType=.unknown then return ({c with boardConf := {c.boardConf with comType := comType}},ERR_CODE_INVALID_JSON)
    return (parseChannels undefinedBits c members,0)
  | _ => .error .notObject

end SpreadingFactors

/-- The members of a gain. -/
def LgwTxGain.members (gain : LgwTxGain) : Members :=
  [(ascii "rf_power",.int gain.rfPower.toInt),
  (ascii "pa_gain",.int gain.paGain.toNat),
  (ascii "pwr_idx",.int gain.pwrIdx.toNat),
  (ascii "dig_gain",.int gain.digGain.toNat),
  (ascii "dac_gain",.int gain.dacGain.toNat),
  (ascii "mix_gain",.int gain.mixGain.toNat)]

/-- The members of the compensation for the temperature. -/
def LgwRssiTcomp.members (tcomp : LgwRssiTcomp) : Members :=
  [(ascii "coeff_a",.double tcomp.coeffA),
  (ascii "coeff_b",.double tcomp.coeffB),
  (ascii "coeff_c",.double tcomp.coeffC),
  (ascii "coeff_d",.double tcomp.coeffD),
  (ascii "coeff_e",.double tcomp.coeffE)]

/-- The members of a radio. -/
def RfChain.members (chain : RfChain) : Members :=
  [(ascii "enable",.bool chain.rfConf.enable),
  (ascii "type",.string (lgwRadioType2string chain.rfConf.type)),
  (ascii "freq",.int chain.rfConf.freqHz.toNat),
  (ascii "rssi_offset",.double chain.rfConf.rssiOffset),
  (ascii "rssi_tcomp",.object chain.rfConf.rssiTcomp.members),
  (ascii "tx_enable",.bool chain.rfConf.txEnable),
  (ascii "single_input_mode",.bool chain.rfConf.singleInputMode),
  (ascii "tx_freq_min",.int chain.txFreqMin.toNat),
  (ascii "tx_freq_max",.int chain.txFreqMax.toNat),
  (ascii "tx_gain_lut",.array ((chain.txLut.lut.take chain.txLut.size.toNat).map fun gain => .object gain.members))]

/-- The spreading factors of the bits that are set. -/
def spreadingFactors (multisfDatarate : UInt8) : List Json :=
  ((List.range 8).filter multisfDatarate.toNat.testBit).map fun n : ℕ => .int (n+5)

/-- The members of a channel for all spreading factors. -/
def channelSFMembers (chan : LgwConfRxif) : Members :=
  [(ascii "enable",.bool chan.enable),
  (ascii "radio",.int chan.rfChain.toNat),
  (ascii "if",.int chan.freqHz.toInt)]

/-- The members of the channel for one spreading factor. -/
def channelStdMembers (chan : LgwConfRxif) : Members :=
  [(ascii "enable",.bool chan.enable),
  (ascii "radio",.int chan.rfChain.toNat),
  (ascii "if",.int chan.freqHz.toInt),
  (ascii "bandwidth",.int (bandwidthIndex2hz chan.bandwidth)),
  (ascii "spread_factor",.int chan.datarate.toNat),
  (ascii "implicit_hdr",.bool chan.implicitHdr),
  (ascii "implicit_payload_length",.int chan.implicitPayloadLength.toNat),
  (ascii "implicit_crc_en",.bool chan.implicitCrcEn),
  (ascii "implicit_coderate",.int chan.implicitCoderate.toNat)]

/-- The members of the channel for frequency shift keying. -/
def channelFSKMembers (chan : LgwConfRxif) : Members :=
  [(ascii "enable",.bool chan.enable),
  (ascii "radio",.int chan.rfChain.toNat),
  (ascii "if",.int chan.freqHz.toInt),
  (ascii "bandwidth",.int (bandwidthIndex2hz chan.bandwidth)),
  (ascii "datarate",.int chan.datarate.toNat)]

/-- The members of the fine timestamps. -/
def LgwConfFtime.members (ts : LgwConfFtime) : Members :=
  [(ascii "enable",.bool ts.enable),(ascii "mode",.string (lgwFtimeMode2string ts.mode))]

/-- The members in front of the radios. -/
def GatewaySX130xConfig.boardMembers (c : GatewaySX130xConfig) : Members :=
  [(ascii "sx1261_conf",.object c.sx1261Config.members),
  (ascii "com_type",.string (lgwComType2string c.boardConf.comType)),
  (ascii "com_path",.string (cString c.boardConf.comPath)),
  (ascii "lorawan_public",.bool c.boardConf.lorawanPublic),
  (ascii "clksrc",.int c.boardConf.clksrc.toNat),
  (ascii "antenna_gain",.int c.antennaGain.toInt),
  (ascii "full_duplex",.bool c.boardConf.fullDuplex),
  (ascii "fine_timestamp",.object c.tsConf.members)]

/-- The radios. -/
def GatewaySX130xConfig.radioMembers (c : GatewaySX130xConfig) : Members :=
  (List.finRange LGW_RF_CHAIN_NB).map fun i : Fin _ => (radioName i,.object (c.rfChains.get i).members)

/-- The channels for all spreading factors. -/
def GatewaySX130xConfig.channelMembers (c : GatewaySX130xConfig) : Members :=
  (List.finRange LGW_MULTI_NB).map fun i : Fin _ => (channelName i,.object (channelSFMembers (c.ifConfs.get i)))

/-- The members behind these channels. -/
def GatewaySX130xConfig.modemMembers (c : GatewaySX130xConfig) : Members :=
  [(ascii "chan_multiSF_All",.object [(ascii "spreading_factor_enable",.array (spreadingFactors c.multisfDatarate))]),
  (ascii "chan_Lora_std",.object (channelStdMembers c.ifStdConf)),
  (ascii "chan_FSK",.object (channelFSKMembers c.ifFSKConf))]

/-- The members of `GatewaySX130xConfig::toJSON`. -/
def GatewaySX130xConfig.members (c : GatewaySX130xConfig) : Members :=
  c.boardMembers++c.radioMembers++c.channelMembers++c.modemMembers

/-- `GatewaySX130xConfig::operator==`. -/
def GatewaySX130xConfig.equal (c b : GatewaySX130xConfig) : Bool :=
  c.rfChains=b.rfChains && c.ifConfs=b.ifConfs && c.sx1261Config.equal b.sx1261Config &&
    c.antennaGain=b.antennaGain && c.boardConf=b.boardConf && c.ifStdConf=b.ifStdConf &&
    c.ifFSKConf=b.ifFSKConf && c.multisfDatarate=b.multisfDatarate && c.tsConf=b.tsConf

end LorawanServer.GatewayConcentrator
