import LorawanServer.CppRuntime

/-!
# Records of the network server

The packed structures and classes of `utillora.h` and the return codes of
`errlist.h`, as far as the modelled code reads them. Fixed-size identifiers
are the integers of their little-endian memory image, keys and names stay byte
arrays, and bit fields are read from the byte that holds them. The reported
signal to noise ratio is an exact rational, since the code only orders it.
-/

namespace LorawanServer.Records

open CppRuntime

/-- Four address bytes, as the `uint32_t` with the same memory image. -/
abbrev DEVADDR := UInt32

/-- Eight identifier bytes, as the `uint64_t` with the same memory image. -/
abbrev DEVEUI := UInt64

/-- Session and root keys. -/
abbrev KEY128 := Vector UInt8 16

/-- Join nonce bytes. -/
abbrev JOINNONCE := Vector UInt8 3

/-- Device name, padded with zero bytes. -/
abbrev DEVICENAME := Vector UInt8 8

/-- Success code. -/
abbrev LORA_OK : ℤ := 0
/-- Radio frame shorter than its fixed header. -/
abbrev ERR_CODE_INVALID_RFM_HEADER : ℤ := -510
/-- Datagram with an unknown tag. -/
abbrev ERR_CODE_INVALID_PACKET : ℤ := -523
/-- Body that is not the expected JSON value. -/
abbrev ERR_CODE_INVALID_JSON : ℤ := -524
/-- No identity is stored for the device address. -/
abbrev ERR_CODE_DEVICE_ADDRESS_NOTFOUND : ℤ := -525
/-- Missing collaborator of a reply. -/
abbrev ERR_CODE_WRONG_PARAM : ℤ := -534
/-- No gateway statistics in the datagram. -/
abbrev ERR_CODE_NO_GATEWAY_STAT : ℤ := -538
/-- Protocol version other than two. -/
abbrev ERR_CODE_INVALID_PROTOCOL_VERSION : ℤ := -539
/-- Datagram shorter than its prefix. -/
abbrev ERR_CODE_PACKET_TOO_SHORT : ℤ := -540
/-- Empty datagram of a gateway. -/
abbrev ERR_CODE_PING : ℤ := -561
/-- Empty pull request of a gateway. -/
abbrev ERR_CODE_PULLOUT : ℤ := -562
/-- Statistics object without a known member. -/
abbrev ERR_CODE_INVALID_STAT : ℤ := -563
/-- The message integrity code does not match. -/
abbrev ERR_CODE_INVALID_MIC : ℤ := -572
/-- No gateway reported the packet. -/
abbrev ERR_CODE_BEST_GATEWAY_NOT_FOUND : ℤ := -575
/-- The packet carries no MAC command. -/
abbrev ERR_CODE_NO_MAC : ℤ := -577
/-- The identity service is not attached. -/
abbrev ERR_CODE_INIT_IDENTITY : ℤ := -580
/-- The receiver queue is not attached. -/
abbrev ERR_CODE_INIT_QUEUE : ℤ := -581
/-- The gateway is not in the gateway list. -/
abbrev ERR_CODE_GATEWAY_NOT_FOUND : ℤ := -585
/-- Control payload without a MAC command. -/
abbrev ERR_CODE_INVALID_CONTROL_PACKET : ℤ := -587
/-- The gateway never sent a pull request. -/
abbrev ERR_CODE_GATEWAY_NO_YET_PULL_DATA : ℤ := -593
/-- No channel plan for the device. -/
abbrev ERR_CODE_NO_REGION_BAND : ℤ := -597
/-- The frame is a join message. -/
abbrev ERR_CODE_IS_JOIN : ℤ := -599
/-- Join request of a wrong size. -/
abbrev ERR_CODE_BAD_JOIN_REQUEST : ℤ := -600

/-- Result code of a failed service call. -/
abbrev ErrorCode := {code : ℤ // code ≠ LORA_OK}

/-- How a device got its session keys. -/
inductive Activation where
  /-- Keys stored in advance. -/
  | abp
  /-- Keys agreed over the air. -/
  | otaa
  deriving DecidableEq,Repr

/-- Receive window behaviour of a device. -/
inductive DeviceClass where
  /-- Windows after each uplink. -/
  | classA
  /-- Scheduled windows. -/
  | classB
  /-- Always listening. -/
  | classC
  deriving DecidableEq,Repr

/-- `LORAWAN_VERSION`, one byte of three bit fields. -/
structure LorawanVersion where
  /-- Major version. -/
  major : BitVec 2
  /-- Minor version, which selects the treatment of MAC payloads. -/
  minor : BitVec 2
  /-- Release number. -/
  release : BitVec 4
  deriving DecidableEq,Repr

/-- `DEVICEID` and the class `DeviceId`, which hold the same members. -/
structure DeviceId where
  /-- Activation type. -/
  activation : Activation
  /-- Device class. -/
  deviceclass : DeviceClass
  /-- Device identifier. -/
  devEUI : DEVEUI
  /-- Network session key. -/
  nwkSKey : KEY128
  /-- Application session key. -/
  appSKey : KEY128
  /-- LoRaWAN version of the device. -/
  version : LorawanVersion
  /-- Join server identifier. -/
  appEUI : DEVEUI
  /-- Application root key. -/
  appKey : KEY128
  /-- Network root key. -/
  nwkKey : KEY128
  /-- Last device nonce. -/
  devNonce : UInt16
  /-- Last join nonce. -/
  joinNonce : JOINNONCE
  /-- Device name. -/
  name : DEVICENAME
  deriving DecidableEq

/-- The key of sixteen zero bytes. -/
def zeroKey : KEY128 := Vector.replicate 16 0

/-- The default constructor of `DeviceId`. The activation and the class are
left uninitialised there; no modelled function reads them. -/
def DeviceId.empty : DeviceId :=
  ⟨.abp,.classA,0,zeroKey,zeroKey,⟨1,0,0⟩,0,zeroKey,zeroKey,0,Vector.replicate 3 0,
    Vector.replicate 8 0⟩

/-- A device identity together with the network address it is stored under. -/
structure NetworkIdentity extends DeviceId where
  /-- Network address. -/
  devaddr : DEVADDR
  deriving DecidableEq

/-- What the modelled code asks of an `IdentityService`. -/
structure IdentityService where
  /-- Identity stored for a network address. -/
  get : DEVADDR → Except ErrorCode DeviceId
  /-- Identity and address stored for a device identifier. -/
  getNetworkIdentity : DEVEUI → Except ErrorCode NetworkIdentity
  /-- Right of a device to control the network service. -/
  canControlService : DEVADDR → Bool

/-- Modulation of a received packet. -/
inductive Modulation where
  /-- Chirp spread spectrum. -/
  | lora
  /-- Frequency shift keying. -/
  | fsk
  deriving DecidableEq,Repr

/-- Bandwidth enumeration. -/
inductive Bandwidth where
  | khz7 | khz10 | khz15 | khz20 | khz31 | khz41 | khz62 | khz125 | khz250 | khz500
  deriving DecidableEq,Repr

/-- Coding rate enumeration. -/
inductive CodingRate where
  | off | cr45 | cr46 | cr47 | cr48 | li45 | li46 | li48
  deriving DecidableEq,Repr

/-- `rfmMetaData`: what one gateway reports about one received packet. -/
structure RfmMetaData where
  /-- Identifier of the reporting gateway. -/
  gatewayId : UInt64
  /-- Receive time, seconds. -/
  t : ℤ
  /-- Gateway timestamp of the reception, microseconds. -/
  tmst : UInt32
  /-- Channel. -/
  chan : UInt8
  /-- Radio chain. -/
  rfch : UInt8
  /-- Frequency, Hz. -/
  freq : UInt32
  /-- Checksum status. -/
  stat : Int8
  /-- Modulation. -/
  modu : Modulation
  /-- Bandwidth, spelt as in the source. -/
  bandwith : Bandwidth
  /-- Spreading factor; the enumeration is filled by a cast from any `int`. -/
  spreadingFactor : ℤ
  /-- Coding rate. -/
  codingRate : CodingRate
  /-- Bit rate of an FSK packet. -/
  bps : UInt32
  /-- Signal strength, dBm. -/
  rssi : Int16
  /-- Signal to noise ratio, dB. -/
  lsnr : ℚ
  deriving DecidableEq

/-- The default constructor of `rfmMetaData`. It reads the clock and leaves the
gateway timestamp as it finds it, so both are arguments; the ratio 5.1 is the
decimal one. -/
def RfmMetaData.initial (t : ℤ) (tmst : UInt32) : RfmMetaData where
  gatewayId := 0
  t := t
  tmst := tmst
  chan := 0
  rfch := 0
  freq := 868900000
  stat := 0
  modu := .lora
  bandwith := .khz250
  spreadingFactor := 7
  codingRate := .cr46
  bps := 0
  rssi := -35
  lsnr := 51/10

/-- `SEMTECH_PREFIX_GW`: the first twelve bytes of a gateway datagram. -/
structure SemtechPrefixGw where
  /-- Protocol version. -/
  version : UInt8
  /-- Random token, repeated in the acknowledgement. -/
  token : UInt16
  /-- Message type. -/
  tag : UInt8
  /-- Gateway identifier. -/
  mac : DEVEUI
  deriving DecidableEq,Repr

/-- Memory image of the prefix. -/
def SemtechPrefixGw.toBytes (p : SemtechPrefixGw) : Bytes :=
  p.version::(leBytes 2 p.token.toNat++p.tag::leBytes 8 p.mac.toNat)

/-- The prefix is twelve bytes long. -/
@[simp] theorem SemtechPrefixGw.toBytes_length (p : SemtechPrefixGw) : p.toBytes.length=12 := by
  simp only [SemtechPrefixGw.toBytes,List.length_cons,List.length_append,leBytes_length]

/-- `RFM_HEADER`: MHDR and FHDR of a data frame without its options. -/
structure PackedRfmHeader where
  /-- MAC header byte. -/
  macheader : UInt8
  /-- Device address. -/
  devaddr : DEVADDR
  /-- Frame control byte. -/
  fctrl : UInt8
  /-- Frame counter. -/
  fcnt : UInt16
  deriving DecidableEq,Repr

/-- The class `RFMHeader`. -/
structure RfmHeader where
  /-- Fixed part of the header. -/
  header : PackedRfmHeader
  /-- Frame options; only the first `foptslen` bytes are meaningful. -/
  fopts : Vector UInt8 15
  /-- Frame port. -/
  fport : UInt8
  deriving DecidableEq

/-- The default constructor of `RFMHeader`. -/
def RfmHeader.empty : RfmHeader := ⟨⟨0,0,0,0⟩,Vector.replicate 15 0,0⟩

/-- The class `SemtechUDPPacket`, without the socket address it logs. -/
structure SemtechUDPPacket where
  /-- Decrypted frame payload, or the body of a join message. -/
  payload : Bytes
  /-- Frame header. -/
  header : RfmHeader
  /-- One entry for each gateway that received the packet. -/
  metadata : List RfmMetaData
  /-- Result of parsing the radio frame. -/
  errcode : ℤ
  /-- True for a frame from the server to a device. -/
  downlink : Bool
  /-- Datagram prefix with the gateway identifier. -/
  gwPrefix : SemtechPrefixGw
  /-- Identity and keys of the device. -/
  devId : DeviceId
  deriving DecidableEq

/-- The default constructor of `SemtechUDPPacket`. -/
def SemtechUDPPacket.empty : SemtechUDPPacket where
  payload := []
  header := {RfmHeader.empty with header := ⟨0x40,0,0,0⟩}
  metadata := []
  errcode := 0
  downlink := false
  gwPrefix := ⟨2,0,0,0⟩
  devId := DeviceId.empty

/-- Message type of a join request. -/
abbrev MTYPE_JOIN_REQUEST : ℕ := 0
/-- Message type of a join accept. -/
abbrev MTYPE_JOIN_ACCEPT : ℕ := 1
/-- Message type of an unconfirmed uplink. -/
abbrev MTYPE_UNCONFIRMED_DATA_UP : ℕ := 2
/-- Message type of an unconfirmed downlink. -/
abbrev MTYPE_UNCONFIRMED_DATA_DOWN : ℕ := 3

/-- The three upper bits of a MAC header. -/
def mtype (macheader : UInt8) : ℕ := macheader.toNat/32

/-- Assignment to the message type, which keeps the other five bits. -/
def setMtype (macheader : UInt8) (value : ℕ) : UInt8 := UInt8.ofNat (macheader.toNat%32+32*(value%8))

/-- The four lower bits of a frame control byte. -/
def foptslen (fctrl : UInt8) : ℕ := fctrl.toNat%16

/-- Assignment to the options length, which keeps the other four bits. -/
def setFoptslen (fctrl : UInt8) (value : ℕ) : UInt8 := UInt8.ofNat (fctrl.toNat/16*16+value%16)

/-- Assignment to the adaptive data rate bit. -/
def setAdr (fctrl : UInt8) (value : Bool) : UInt8 :=
  UInt8.ofNat (fctrl.toNat%128+if value then 128 else 0)

/-- The options length fits its four bits. -/
theorem foptslen_lt (fctrl : UInt8) : foptslen fctrl<16 := by
  rw [foptslen]
  omega

/-- The options length reads back as assigned. -/
theorem foptslen_setFoptslen {value : ℕ} (h : value<16) (fctrl : UInt8) :
    foptslen (setFoptslen fctrl value)=value := by
  have hf := fctrl.toNat_lt
  rw [foptslen,setFoptslen,UInt8.toNat_ofNat']
  omega

/-- The adaptive data rate bit does not touch the options length. -/
theorem foptslen_setAdr (fctrl : UInt8) (value : Bool) : foptslen (setAdr fctrl value)=foptslen fctrl := by
  have hf := fctrl.toNat_lt
  rw [foptslen,foptslen,setAdr,UInt8.toNat_ofNat']
  cases value with
  | false =>
    rw [if_neg (by decide)]
    omega
  | true =>
    rw [if_pos rfl]
    omega

/-- The message type reads back as assigned. -/
theorem mtype_setMtype {value : ℕ} (h : value<8) (macheader : UInt8) :
    mtype (setMtype macheader value)=value := by
  rw [mtype,setMtype,UInt8.toNat_ofNat']
  omega

/-- Memory image of the fixed header, `RFMHeader::toBinary`. -/
def PackedRfmHeader.toBytes (h : PackedRfmHeader) : Bytes :=
  h.macheader::(leBytes 4 h.devaddr.toNat++h.fctrl::leBytes 2 h.fcnt.toNat)

/-- The fixed header over the first eight bytes of an image. -/
def PackedRfmHeader.ofBytes (image : Bytes) : PackedRfmHeader where
  macheader := image.getD 0 0
  devaddr := UInt32.ofNat (leValue ((image.drop 1).take 4))
  fctrl := image.getD 5 0
  fcnt := UInt16.ofNat (leValue ((image.drop 6).take 2))

/-- The fixed header is eight bytes long. -/
@[simp] theorem PackedRfmHeader.toBytes_length (h : PackedRfmHeader) : h.toBytes.length=8 := by
  simp only [PackedRfmHeader.toBytes,List.length_cons,List.length_append,leBytes_length]

/-- A written header reads back, whatever follows it. -/
theorem PackedRfmHeader.ofBytes_toBytes (h : PackedRfmHeader) (rest : Bytes) :
    PackedRfmHeader.ofBytes (h.toBytes++rest)=h := by
  obtain ⟨macheader,devaddr,fctrl,fcnt⟩ := h
  have ha : UInt32.ofNat (leValue (leBytes 4 devaddr.toNat))=devaddr := by
    rw [leValue_leBytes_of_lt devaddr.toNat_lt,UInt32.ofNat_toNat]
  have hc : UInt16.ofNat (leValue (leBytes 2 fcnt.toNat))=fcnt := by
    rw [leValue_leBytes_of_lt fcnt.toNat_lt,UInt16.ofNat_toNat]
  simp only [leBytes] at ha hc
  simp only [PackedRfmHeader.ofBytes,PackedRfmHeader.toBytes,leBytes,List.cons_append,List.nil_append,
    List.drop_succ_cons,List.drop_zero,List.take_succ_cons,List.take_zero,List.getD_cons_zero,
    List.getD_cons_succ,ha,hc]

/-- Only the first eight bytes of an image matter. -/
theorem PackedRfmHeader.ofBytes_take (image : Bytes) :
    PackedRfmHeader.ofBytes (image.take 8)=PackedRfmHeader.ofBytes image := by
  have ha : (((image.take 8).drop 1).take 4)=(image.drop 1).take 4 := by
    rw [List.drop_take,List.take_take]
    rfl
  have hc : (((image.take 8).drop 6).take 2)=(image.drop 6).take 2 := by
    rw [List.drop_take,List.take_take]
    rfl
  simp only [PackedRfmHeader.ofBytes,ha,hc,List.getD_eq_getElem?_getD,List.getElem?_take]
  rfl

/-- `RFMHeader::parse` on an existing header object. The flag tells whether
the whole fixed header was supplied. -/
def RfmHeader.parse (h : RfmHeader) (value : Bytes) : RfmHeader×Bool :=
  let header := PackedRfmHeader.ofBytes (value.take 8++h.header.toBytes.drop value.length)
  let len := foptslen header.fctrl
  let fopts := if len≠0 ∧ 8+len≤value.length then overwrite h.fopts ((value.drop 8).take len) else h.fopts
  let fport := if 8+len<value.length then value.getD (8+len) 0 else h.fport
  (⟨header,fopts,fport⟩,decide (8≤value.length))

/-- A complete frame determines the fixed header alone. -/
theorem RfmHeader.parse_header {value : Bytes} (hv : 8≤value.length) (h : RfmHeader) :
    (RfmHeader.parse h value).1.header=PackedRfmHeader.ofBytes value := by
  have hd : h.header.toBytes.drop value.length=[] :=
    List.drop_eq_nil_of_le (by rw [PackedRfmHeader.toBytes_length]; exact hv)
  dsimp only [RfmHeader.parse]
  rw [hd,List.append_nil,PackedRfmHeader.ofBytes_take]

/-- The port is the byte behind the options when there is one. -/
theorem RfmHeader.parse_fport {value : Bytes} (hv : 8≤value.length) (h : RfmHeader) :
    (RfmHeader.parse h value).1.fport=
      if 8+foptslen (PackedRfmHeader.ofBytes value).fctrl<value.length then
        value.getD (8+foptslen (PackedRfmHeader.ofBytes value).fctrl) 0 else h.fport := by
  have hh := RfmHeader.parse_header hv h
  dsimp only [RfmHeader.parse] at hh ⊢
  rw [hh]

/-- The options of a frame that holds them are the bytes behind the header. -/
theorem RfmHeader.parse_fopts {value : Bytes} (hv : 8≤value.length) (h : RfmHeader)
    (hl : 8+foptslen (PackedRfmHeader.ofBytes value).fctrl≤value.length) :
    (RfmHeader.parse h value).1.fopts.toList.take (foptslen (PackedRfmHeader.ofBytes value).fctrl)=
      (value.drop 8).take (foptslen (PackedRfmHeader.ofBytes value).fctrl) := by
  have hh := RfmHeader.parse_header hv h
  have hf := foptslen_lt (PackedRfmHeader.ofBytes value).fctrl
  dsimp only [RfmHeader.parse] at hh ⊢
  rw [hh]
  generalize foptslen (PackedRfmHeader.ofBytes value).fctrl=len at hl hf ⊢
  by_cases hz : len=0
  · rw [hz,List.take_zero,List.take_zero]
  · have hs : ((value.drop 8).take len).length=len := by
      rw [List.length_take,List.length_drop]
      omega
    have ho := overwrite_take h.fopts (hs.trans_le (by omega))
    rw [hs] at ho
    rw [if_pos ⟨hz,hl⟩,ho]

end LorawanServer.Records
