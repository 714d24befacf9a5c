import LorawanServer.DataFrame

/-!
# Writing a radio frame

The four frame writers of `utillora.cpp` and the setters that fill a packet
before it is serialised. Each writer puts the fixed header, an optional port
and the payload in front of an integrity code over exactly these bytes, but
chooses its own counter, key, direction and place for the payload. A sealed
frame of at most 255 bytes is always accepted by `parseData` behind the right
key, and its fields are the ones that were written.
-/

namespace LorawanServer.FrameBuilders

open CppRuntime Keystream FrameCrypto Records DataFrame

/-- Value of one hexadecimal digit; any other character counts as zero. -/
def hexDigit (c : UInt8) : ℕ :=
  if 48≤c.toNat ∧ c.toNat≤57 then c.toNat-48
  else if 97≤c.toNat ∧ c.toNat≤102 then c.toNat-97+10
  else if 65≤c.toNat ∧ c.toNat≤70 then c.toNat-65+10
  else 0

/-- `hexdec`: two digits; a zero byte in front ends the number. -/
def hexdec (high low : UInt8) : UInt8 :=
  if high=0 then 0 else UInt8.ofNat (16*hexDigit high+hexDigit low)

/-- `setAddr`: four bytes in network order, or eight hexadecimal digits with
the most significant byte first; shorter texts clear the address. -/
def setAddr (value : Bytes) : DEVADDR :=
  if value.length=4 then UInt32.ofNat (swapBytes 4 (leValue value))
  else if value.length<8 then 0
  else UInt32.ofNat (leValue [
    hexdec (value.getD 6 0) (value.getD 7 0),hexdec (value.getD 4 0) (value.getD 5 0),
    hexdec (value.getD 2 0) (value.getD 3 0),hexdec (value.getD 0 0) (value.getD 1 0)])

/-- `SemtechUDPPacket::setDeviceAddr`. -/
def setDeviceAddr (packet : SemtechUDPPacket) (value : Bytes) : SemtechUDPPacket :=
  {packet with header := {packet.header with header := {packet.header.header with devaddr := setAddr value}}}

/-- `SemtechUDPPacket::setFrameCounter`. -/
def setFrameCounter (packet : SemtechUDPPacket) (value : UInt16) : SemtechUDPPacket :=
  {packet with header := {packet.header with header := {packet.header.header with fcnt := value}}}

/-- `SemtechUDPPacket::setPayload`, which also clears the frame control byte. -/
def setPayload (packet : SemtechUDPPacket) (port : UInt8) (value : Bytes) : SemtechUDPPacket :=
  {packet with
    header := {packet.header with fport := port,header := {packet.header.header with fctrl := 0}}
    payload := value}

/-- `SemtechUDPPacket::setFOpts`: more than fifteen bytes become the payload
of port 0. -/
def setFOpts (packet : SemtechUDPPacket) (value : Bytes) : SemtechUDPPacket :=
  let header := packet.header.header
  if 15<value.length then
    {packet with
      header := {packet.header with fport := 0,header := {header with fctrl := setFoptslen header.fctrl 0}}
      payload := value}
  else
    {packet with header := {packet.header with
      header := {header with fctrl := setFoptslen header.fctrl value.length}
      fopts := overwrite packet.header.fopts value}}

/-- The code over the bytes written so far, with their number narrowed to
`unsigned char`. -/
def sealCode (crypto : Crypto) (header : PackedRfmHeader) (body : Bytes) (direction : UInt8)
    (key : KEY128) : UInt32 :=
  let msg := header.toBytes++body
  calculateMIC crypto msg (UInt8.ofNat msg.length) header.fcnt.toNat direction header.devaddr key

/-- The tail that all writers share: the code is appended to the bytes. -/
def sealFrame (crypto : Crypto) (header : PackedRfmHeader) (body : Bytes) (direction : UInt8)
    (key : KEY128) : Bytes :=
  header.toBytes++body++leBytes 4 (sealCode crypto header body direction key).toNat

/-- `SemtechUDPPacket::serialize2RfmPacket`. The options are not written. -/
def serialize2RfmPacket (crypto : Crypto) (packet : SemtechUDPPacket) : Bytes :=
  let header := packet.header.header
  let p := encryptPayload crypto packet.payload header.fcnt.toNat (direction packet.downlink)
    header.devaddr packet.devId.appSKey
  sealFrame crypto header (packet.header.fport::p) (direction packet.downlink) packet.devId.nwkSKey

/-- Header of a downlink with its MAC payload in the options or on port 0. -/
def macHeader (header : PackedRfmHeader) (size : ℕ) : PackedRfmHeader :=
  if size≤15 then {header with fctrl := setAdr (setFoptslen header.fctrl size) true} else header

/-- Bytes behind that header: port 0 precedes a payload outside the options. -/
def macBody (size : ℕ) (frmPayload : Bytes) : Bytes := if size≤15 then frmPayload else 0::frmPayload

/-- The frame of `SemtechUDPPacket::mkPullResponse`. For minor version 1 the
payload is enciphered before the counter of the received packet is replaced. -/
def pullResponseFrame (crypto : Crypto) (received : PackedRfmHeader) (data : Bytes) (deviceId : DeviceId)
    (fcnt : UInt16) : Bytes :=
  let frmPayload := if deviceId.version.minor=1 then
    encryptPayload crypto data received.fcnt.toNat 1 received.devaddr deviceId.nwkSKey else data
  let header := {received with
    macheader := setMtype received.macheader MTYPE_UNCONFIRMED_DATA_DOWN,fctrl := 0,fcnt := fcnt}
  sealFrame crypto (macHeader header data.length) (macBody data.length frmPayload) 1 deviceId.nwkSKey

/-- The frame of `SemtechUDPPacket::mkMACRequest`, built over an empty header
and with the uplink direction. -/
def macRequestFrame (crypto : Crypto) (data : Bytes) (networkId : NetworkIdentity) (fCnt : UInt16) : Bytes :=
  let header := {RfmHeader.empty.header with
    macheader := setMtype RfmHeader.empty.header.macheader MTYPE_UNCONFIRMED_DATA_DOWN,fcnt := fCnt}
  let frmPayload := if networkId.version.minor=1 then
    encryptPayload crypto data fCnt.toNat 0 header.devaddr networkId.nwkSKey else data
  sealFrame crypto (macHeader header data.length) (macBody data.length frmPayload) 0 networkId.nwkSKey

/-- The frame of `SemtechUDPPacket::mkPushDataPacket`: port 1, enciphered with
the network session key for either minor version. -/
def pushDataFrame (crypto : Crypto) (macheader : UInt8) (typ : ℕ) (payload : Bytes)
    (networkIdentity : NetworkIdentity) (fCnt : UInt16) : Bytes :=
  let header : PackedRfmHeader := ⟨setMtype macheader typ,networkIdentity.devaddr,0,fCnt⟩
  let direction := UInt8.ofNat (mtype header.macheader%2)
  let frmPayload := encryptPayload crypto payload fCnt.toNat direction header.devaddr networkIdentity.nwkSKey
  sealFrame crypto header (1::frmPayload) direction networkIdentity.nwkSKey

/-- The PULL_RESP datagram of `toTxJsonString`, by its varying parts: RF chain
0, inverted polarity and no radio CRC are the same in every one. -/
structure PullResp where
  /-- Version, token and tag. -/
  pullPrefix : Bytes
  /-- Gateway time of the transmission; nothing means at once. -/
  tmst : Option UInt32
  /-- Reception that supplies frequency, modulation, data rate and coding rate. -/
  reception : RfmMetaData
  /-- Transmission power, dBm. -/
  power : ℤ
  /-- Radio frame, sent in base64 together with its size. -/
  data : Bytes
  deriving DecidableEq

/-- `SemtechUDPPacket::toTxJsonString`; a packet without metadata gives the
empty string, here nothing. The transmission is a second after the reception. -/
def toTxJsonString (packet : SemtechUDPPacket) (payloadString : Bytes) (receivedTime : UInt32)
    (power : ℤ) : Option PullResp :=
  match packet.metadata with
  | [] => none
  | reception::_ => some {
    pullPrefix := packet.gwPrefix.version::(leBytes 2 packet.gwPrefix.token.toNat++[3])
    tmst := if receivedTime=0 then none else some (receivedTime+1000000)
    reception := reception
    power := power
    data := payloadString}

/-- `SemtechUDPPacket::mkPullResponse`; the counter is an `int` there and its
sixteen low bits reach the frame. -/
def mkPullResponse (crypto : Crypto) (packet : SemtechUDPPacket) (data : Bytes) (deviceId : DeviceId)
    (receivedTime : UInt32) (fcnt power : ℤ) : Option PullResp :=
  toTxJsonString packet
    (pullResponseFrame crypto packet.header.header data deviceId (UInt16.ofInt fcnt)) receivedTime power

/-- `SemtechUDPPacket::mkMACRequest`; the gateway and the received time are
not used, the request goes out at once. -/
def mkMACRequest (crypto : Crypto) (packet : SemtechUDPPacket) (_gwId : DEVEUI) (data : Bytes)
    (networkId : NetworkIdentity) (_receivedTime : UInt32) (fCnt power : ℤ) : Option PullResp :=
  toTxJsonString packet (macRequestFrame crypto data networkId (UInt16.ofInt fCnt)) 0 power

/-- The datagram carries the frame it was made for. -/
theorem toTxJsonString_data {packet : SemtechUDPPacket} {payloadString : Bytes} {receivedTime : UInt32}
    {power : ℤ} {datagram : PullResp}
    (h : toTxJsonString packet payloadString receivedTime power=some datagram) :
    datagram.data=payloadString := by
  rw [toTxJsonString] at h
  split at h
  · cases h
  · rw [←Option.some.inj h]

/-- A packet with a reception gives a datagram. -/
theorem toTxJsonString_isSome {packet : SemtechUDPPacket} (h : packet.metadata≠[]) (payloadString : Bytes)
    (receivedTime : UInt32) (power : ℤ) :
    ∃ datagram,toTxJsonString packet payloadString receivedTime power=some datagram := by
  obtain ⟨reception,rest,hm⟩ := List.exists_cons_of_ne_nil h
  rw [toTxJsonString,hm]
  exact ⟨_,rfl⟩

/-- A sealed frame is its header, its body and four more bytes. -/
theorem sealFrame_length (crypto : Crypto) (header : PackedRfmHeader) (body : Bytes) (direction : UInt8)
    (key : KEY128) : (sealFrame crypto header body direction key).length=12+body.length := by
  simp only [sealFrame,List.length_append,PackedRfmHeader.toBytes_length,leBytes_length]
  omega

/-- The header of a sealed frame reads back. -/
theorem ofBytes_sealFrame (crypto : Crypto) (header : PackedRfmHeader) (body : Bytes) (direction : UInt8)
    (key : KEY128) :
    PackedRfmHeader.ofBytes (sealFrame crypto header body direction key)=header := by
  simp only [sealFrame,List.append_assoc]
  exact PackedRfmHeader.ofBytes_toBytes header _

/-- The first byte of a sealed frame is the MAC header. -/
theorem isJoinType_sealFrame {header : PackedRfmHeader} (hm : 2 ≤ mtype header.macheader) (crypto : Crypto)
    (body : Bytes) (direction : UInt8) (key : KEY128) :
    isJoinType (sealFrame crypto header body direction key)=false := by
  have hh : (sealFrame crypto header body direction key).headD 0=header.macheader := rfl
  rw [isJoinType,hh]
  exact decide_eq_false (by omega)

/-- Bytes behind the header of a sealed frame. -/
theorem drop_sealFrame (crypto : Crypto) (header : PackedRfmHeader) (body : Bytes) (direction : UInt8)
    (key : KEY128) {n : ℕ} (hn : n≤body.length) :
    (sealFrame crypto header body direction key).drop (8+n)=
      body.drop n++leBytes 4 (sealCode crypto header body direction key).toNat := by
  rw [sealFrame,List.append_assoc,←List.drop_drop,
    List.drop_left' (PackedRfmHeader.toBytes_length header),List.drop_append_of_le_length hn]

/-- The code that the reader computes over a sealed frame. -/
theorem frameMic_sealFrame {header : PackedRfmHeader} {body : Bytes} (hl : body.length≤247)
    (crypto : Crypto) (packet : SemtechUDPPacket) (written : UInt8) (key : KEY128) (id : DeviceId) :
    frameMic crypto (withHeader packet (sealFrame crypto header body written key))
        (sealFrame crypto header body written key) id=
      calculateMIC crypto (header.toBytes++body) (UInt8.ofNat (8+body.length)) header.fcnt.toNat
        (direction packet.downlink) header.devaddr id.nwkSKey := by
  have hlen := sealFrame_length crypto header body written key
  have hsize : UInt8.ofNat (12+body.length)-4=UInt8.ofNat (8+body.length) := by
    apply UInt8.toNat_inj.mp
    rw [UInt8.toNat_sub,UInt8.toNat_ofNat',UInt8.toNat_ofNat']
    change (2^8-4+(12+body.length)%2^8)%2^8=(8+body.length)%2^8
    omega
  have hbyte : (UInt8.ofNat (8+body.length)).toNat=8+body.length := by
    rw [UInt8.toNat_ofNat']
    omega
  have hwhole : (header.toBytes++body).length=8+body.length := by
    rw [List.length_append,PackedRfmHeader.toBytes_length]
  have htake : (sealFrame crypto header body written key).take (8+body.length)=header.toBytes++body := by
    rw [sealFrame,←hwhole,List.take_left]
  have hsame : (header.toBytes++body).take (8+body.length)=header.toBytes++body := by
    rw [←hwhole,List.take_length]
  rw [frameMic,withHeader_header (by omega),ofBytes_sealFrame,hlen,hsize,calculateMIC,calculateMIC,hbyte,
    htake,hsame]
  rfl

/-- A sealed data frame is accepted behind the key and direction it was sealed
with. -/
theorem parseData_sealFrame {header : PackedRfmHeader} {body : Bytes} (hm : 2 ≤ mtype header.macheader)
    (hl : body.length≤247) (crypto : Crypto) {identityService : Option IdentityService} {id : DeviceId}
    (hg : lookup identityService header.devaddr=some id) (packet : SemtechUDPPacket) :
    parseData crypto identityService packet
        (sealFrame crypto header body (direction packet.downlink) id.nwkSKey)=
      .ok (acceptedPacket crypto packet
        (sealFrame crypto header body (direction packet.downlink) id.nwkSKey) id,LORA_OK) := by
  have hlen := sealFrame_length crypto header body (direction packet.downlink) id.nwkSKey
  refine (parseData_ok_iff _ _ _ _ _).mpr ⟨isJoinType_sealFrame hm _ _ _ _,by omega,id,?_,?_,rfl⟩
  · rw [withHeader_header (by omega),ofBytes_sealFrame]
    exact hg
  · have hmsg : (header.toBytes++body).length=8+body.length := by
      rw [List.length_append,PackedRfmHeader.toBytes_length]
    rw [frameMic_sealFrame hl,sealFrame,getMic_append,sealCode,hmsg]

section AcceptedFields

variable (crypto : Crypto) (header : PackedRfmHeader) (body : Bytes) (written : UInt8) (key : KEY128)
  (packet : SemtechUDPPacket) (id : DeviceId)

/-- An accepted sealed frame restores the header. -/
theorem accepted_header :
    (acceptedPacket crypto packet (sealFrame crypto header body written key) id).header.header=header := by
  have hlen := sealFrame_length crypto header body written key
  have h8 : 8≤(sealFrame crypto header body written key).length := by omega
  have hh := withHeader_header h8 packet
  rw [ofBytes_sealFrame] at hh
  exact hh

/-- An accepted sealed frame restores options that its body starts with. -/
theorem accepted_fopts (hl : foptslen header.fctrl≤body.length) :
    (acceptedPacket crypto packet (sealFrame crypto header body written key)
      id).header.fopts.toList.take (foptslen header.fctrl)=body.take (foptslen header.fctrl) := by
  have hlen := sealFrame_length crypto header body written key
  have h8 : 8≤(sealFrame crypto header body written key).length := by omega
  have hf := RfmHeader.parse_fopts h8 (withMacheader packet (sealFrame crypto header body written key)).header
    (by rw [ofBytes_sealFrame]; omega)
  have hd := drop_sealFrame crypto header body written key (Nat.zero_le _)
  rw [ofBytes_sealFrame,hd,List.drop_zero,List.take_append_of_le_length hl] at hf
  exact hf

/-- An accepted sealed frame restores the port behind the options. -/
theorem accepted_fport (hl : foptslen header.fctrl<body.length) :
    (acceptedPacket crypto packet (sealFrame crypto header body written key) id).header.fport=
      body.getD (foptslen header.fctrl) 0 := by
  have hlen := sealFrame_length crypto header body written key
  have h8 : 8≤(sealFrame crypto header body written key).length := by omega
  have hf := RfmHeader.parse_fport h8 (withMacheader packet (sealFrame crypto header body written key)).header
  have hb : (sealFrame crypto header body written key).getD (8+foptslen header.fctrl) 0=
      body.getD (foptslen header.fctrl) 0 := by
    have hd := drop_sealFrame crypto header body written key (Nat.zero_le _)
    rw [Nat.add_zero,List.drop_zero] at hd
    rw [List.getD_eq_getElem?_getD,←List.getElem?_drop,hd,List.getElem?_append_left hl,
      List.getD_eq_getElem?_getD]
  rw [ofBytes_sealFrame,if_pos (by omega),hb] at hf
  exact hf

/-- An accepted sealed frame leaves the deciphered bytes behind its port. -/
theorem accepted_payload (hb : body.length≤247) (hl : foptslen header.fctrl+1<body.length) :
    (acceptedPacket crypto packet (sealFrame crypto header body written key) id).payload=
      decryptPayload crypto (body.drop (foptslen header.fctrl+1)) header.fcnt.toNat
        (direction packet.downlink) header.devaddr
        (payloadKey (body.getD (foptslen header.fctrl) 0) id) := by
  have hlen := sealFrame_length crypto header body written key
  have hh := accepted_header crypto header body written key packet id
  have hp := accepted_fport crypto header body written key packet id (by omega)
  dsimp only [acceptedPacket] at hh hp ⊢
  have hs : payloadSize (12+body.length) (foptslen header.fctrl)=
      ((body.length-1-foptslen header.fctrl : ℕ) : ℤ) := by
    rw [payloadSize_eq (by omega) (foptslen_lt _)]
    omega
  have hd : ((sealFrame crypto header body written key).drop (8+1+foptslen header.fctrl)).take
      (body.length-1-foptslen header.fctrl)=body.drop (foptslen header.fctrl+1) := by
    have hn : 8+1+foptslen header.fctrl=8+(foptslen header.fctrl+1) := by omega
    rw [hn,drop_sealFrame crypto header body written key (by omega)]
    exact List.take_left' (by rw [List.length_drop]; omega)
  dsimp only [framePayload]
  rw [hh,hp,hlen,hs,if_pos (by omega),Int.toNat_natCast,hd]
  rfl

/-- An accepted sealed frame without bytes behind its port has no payload. -/
theorem accepted_payload_nil (hb : body.length≤247) (hl : body.length≤foptslen header.fctrl+1) :
    (acceptedPacket crypto packet (sealFrame crypto header body written key) id).payload=[] := by
  have hlen := sealFrame_length crypto header body written key
  have hh := accepted_header crypto header body written key packet id
  dsimp only [acceptedPacket,framePayload] at hh ⊢
  rw [hh,hlen,payloadSize_eq (by omega) (foptslen_lt _),if_neg (by omega)]

end AcceptedFields

end LorawanServer.FrameBuilders
