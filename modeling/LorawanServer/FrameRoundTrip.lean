import LorawanServer.FrameBuilders

/-!
# Which written frames the reader restores

Each frame writer is compared with `parseData` over arbitrary primitives. Port
and options decide for uplinks, version, length and counter for MAC answers;
MAC requests of the server are never readable, because they carry neither the
address nor the direction of their target. The refutations use primitives that
answer differently at a single input.
-/

namespace LorawanServer.FrameRoundTrip

open CppRuntime Keystream FrameCrypto Records DataFrame FrameBuilders

/-- Encryption keeps the length of radio-sized payloads. -/
theorem encryptPayload_length (crypto : Crypto) {payload : Bytes} (h : payload.length≤256)
    (frameCounter : ℕ) (direction : UInt8) (devAddr : DEVADDR) (key : KEY128) :
    (encryptPayload crypto payload frameCounter direction devAddr key).length=payload.length := by
  rw [encryptPayload_eq_xorStream crypto h,xorStream_length]

/-- Deciphering restores a radio-sized payload exactly when both keystreams
agree on it. -/
theorem decrypt_encrypt_iff (crypto : Crypto) {payload : Bytes} (h : payload.length≤256)
    (leftCounter rightCounter : ℕ) (direction : UInt8) (devAddr : DEVADDR) (leftKey rightKey : KEY128) :
    decryptPayload crypto (encryptPayload crypto payload leftCounter direction devAddr leftKey)
        rightCounter direction devAddr rightKey=payload ↔
      ∀ i<payload.length,payloadStream crypto leftCounter direction devAddr leftKey i=
        payloadStream crypto rightCounter direction devAddr rightKey i := by
  have he := encryptPayload_length crypto h leftCounter direction devAddr leftKey
  rw [decryptPayload,encryptPayload_eq_xorStream crypto (by omega),encryptPayload_eq_xorStream crypto h]
  exact xorStream_xorStream_iff _ _ _

/-- Deciphering changes a plain radio-sized payload unless its keystream is zero. -/
theorem decrypt_plain_iff (crypto : Crypto) {payload : Bytes} (h : payload.length≤256)
    (frameCounter : ℕ) (direction : UInt8) (devAddr : DEVADDR) (key : KEY128) :
    decryptPayload crypto payload frameCounter direction devAddr key=payload ↔
      ∀ i<payload.length,payloadStream crypto frameCounter direction devAddr key i=0 := by
  rw [decryptPayload,encryptPayload_eq_xorStream crypto h]
  exact xorStream_fixed_iff _ _

/-- First counter blocks of two counters differ when their low sixteen bits do. -/
theorem blockA_counter {left right : UInt16} (h : left≠right) (direction : UInt8) (devAddr : DEVADDR) :
    blockA left.toNat direction devAddr 1≠blockA right.toNat direction devAddr 1 := by
  intro he
  have h0 : UInt8.ofNat left.toNat=UInt8.ofNat right.toNat := congrArg (fun v => v[10]) he
  have h1 : UInt8.ofNat (left.toNat/256)=UInt8.ofNat (right.toNat/256) := congrArg (fun v => v[11]) he
  have e0 := congrArg UInt8.toNat h0
  have e1 := congrArg UInt8.toNat h1
  rw [UInt8.toNat_ofNat',UInt8.toNat_ofNat'] at e0 e1
  have hl := left.toNat_lt
  have hr := right.toNat_lt
  apply h
  apply UInt16.toNat_inj.mp
  omega

/-- The chosen input of the separating cipher starts a keystream of ones. -/
theorem spot_stream (key macKey : KEY128) (frameCounter : ℕ) (direction : UInt8) (devAddr : DEVADDR)
    (message : Bytes) :
    payloadStream (spotCrypto key (blockA frameCounter direction devAddr 1) macKey message) frameCounter
      direction devAddr key 0=1 := by
  rw [payloadStream_zero]
  dsimp only [spotCrypto]
  rw [if_pos ⟨rfl,rfl⟩]
  rfl

/-- Every other input of the separating cipher gives a keystream of zeros. -/
theorem spot_stream_other {key aesKey : KEY128} {block : Vector UInt8 16} {frameCounter : ℕ}
    {direction : UInt8} {devAddr : DEVADDR}
    (h : ¬(key=aesKey ∧ blockA frameCounter direction devAddr 1=block)) (macKey : KEY128)
    (message : Bytes) :
    payloadStream (spotCrypto aesKey block macKey message) frameCounter direction devAddr key 0=0 := by
  rw [payloadStream_zero]
  dsimp only [spotCrypto]
  rw [if_neg h]
  rfl

/-- An uplink built by the four setters in the order address, counter,
payload, options. -/
def builtUplink (p : SemtechUDPPacket) (addr : Bytes) (fcnt : UInt16) (port : UInt8)
    (payload fopts : Bytes) : SemtechUDPPacket :=
  setFOpts (setPayload (setFrameCounter (setDeviceAddr p addr) fcnt) port payload) fopts

/-- The reader restores counter, port, options and payload of an uplink, for
all primitives, all services that know the device and all uplink readers. -/
def UplinkRestored (p : SemtechUDPPacket) (fcnt : UInt16) (port : UInt8) (payload fopts : Bytes) : Prop :=
  ∀ (crypto : Crypto) (identityService : Option IdentityService) (reader : SemtechUDPPacket),
    reader.downlink=false → lookup identityService p.header.header.devaddr=some p.devId →
    ∃ result,parseData crypto identityService reader (serialize2RfmPacket crypto p)=.ok (result,LORA_OK) ∧
      result.header.header.fcnt=fcnt ∧ result.header.fport=port ∧
      foptslen result.header.header.fctrl=fopts.length ∧
      result.header.fopts.toList.take fopts.length=fopts ∧ result.payload=payload

section Uplink

variable {p : SemtechUDPPacket} {payload fopts : Bytes}

/-- Header that the setters leave in the packet. -/
def builtHeader (p : SemtechUDPPacket) (addr : Bytes) (fcnt : UInt16) (fopts : Bytes) : PackedRfmHeader :=
  ⟨p.header.header.macheader,setAddr addr,setFoptslen 0 fopts.length,fcnt⟩

/-- The serialised uplink is a sealed frame of port and enciphered payload. -/
theorem serialize_builtUplink (hd : p.downlink=false) (hf : fopts.length≤15) (crypto : Crypto)
    (addr : Bytes) (fcnt : UInt16) (port : UInt8) (payload : Bytes) :
    serialize2RfmPacket crypto (builtUplink p addr fcnt port payload fopts)=
      sealFrame crypto (builtHeader p addr fcnt fopts)
        (port::encryptPayload crypto payload fcnt.toNat 0 (setAddr addr) p.devId.appSKey) 0
        p.devId.nwkSKey := by
  have hn : ¬15<fopts.length := by omega
  dsimp only [serialize2RfmPacket,builtUplink,setFOpts,setPayload,setFrameCounter,setDeviceAddr]
  rw [if_neg hn]
  dsimp only
  rw [hd]
  rfl

/-- The setters leave the identity alone and set the address. -/
theorem builtUplink_identity (hf : fopts.length≤15) (addr : Bytes) (fcnt : UInt16) (port : UInt8) :
    (builtUplink p addr fcnt port payload fopts).devId=p.devId ∧
      (builtUplink p addr fcnt port payload fopts).header.header.devaddr=setAddr addr := by
  have hn : ¬15<fopts.length := by omega
  dsimp only [builtUplink,setFOpts,setPayload,setFrameCounter,setDeviceAddr]
  rw [if_neg hn]
  exact ⟨rfl,rfl⟩

/-- The serialised uplink is accepted by every reader that knows the device. -/
theorem parseData_builtUplink (hd : p.downlink=false) (hm : 2 ≤ mtype p.header.header.macheader)
    (hp : payload.length≤242) (hf : fopts.length≤15) (addr : Bytes) (fcnt : UInt16) (port : UInt8)
    (crypto : Crypto) {identityService : Option IdentityService} {reader : SemtechUDPPacket}
    (hr : reader.downlink=false) (hg : lookup identityService (setAddr addr)=some p.devId) :
    parseData crypto identityService reader
        (serialize2RfmPacket crypto (builtUplink p addr fcnt port payload fopts))=
      .ok (acceptedPacket crypto reader (sealFrame crypto (builtHeader p addr fcnt fopts)
        (port::encryptPayload crypto payload fcnt.toNat 0 (setAddr addr) p.devId.appSKey) 0
        p.devId.nwkSKey) p.devId,LORA_OK) := by
  have h256 : payload.length≤256 := by omega
  have hl := encryptPayload_length crypto h256 fcnt.toNat 0 (setAddr addr) p.devId.appSKey
  have hm' : 2 ≤ mtype (builtHeader p addr fcnt fopts).macheader := hm
  have hb : (port::encryptPayload crypto payload fcnt.toNat 0 (setAddr addr) p.devId.appSKey).length≤247 := by
    rw [List.length_cons]
    omega
  have hs := parseData_sealFrame hm' hb crypto hg reader
  rw [hr] at hs
  rw [serialize_builtUplink hd hf]
  exact hs

/-- An uplink is read back as far as its sealed frame is. -/
theorem uplinkRestored_iff_fields (hd : p.downlink=false) (hm : 2 ≤ mtype p.header.header.macheader)
    (hp : payload.length≤242) (hf : fopts.length≤15) (addr : Bytes) (fcnt : UInt16) (port : UInt8) :
    UplinkRestored (builtUplink p addr fcnt port payload fopts) fcnt port payload fopts ↔
      ∀ (crypto : Crypto) (reader : SemtechUDPPacket),reader.downlink=false →
        let body := port::encryptPayload crypto payload fcnt.toNat 0 (setAddr addr) p.devId.appSKey
        let result := acceptedPacket crypto reader
          (sealFrame crypto (builtHeader p addr fcnt fopts) body 0 p.devId.nwkSKey) p.devId
        result.header.fport=port ∧ result.header.fopts.toList.take fopts.length=fopts ∧
          result.payload=payload := by
  obtain ⟨hid,haddr⟩ := builtUplink_identity (p:=p) hf addr fcnt port
  constructor
  · intro h crypto reader hr
    obtain ⟨result,hok,-,hport,-,hopts,hpay⟩ :=
      h crypto (some (constService p.devId)) reader hr (by rw [hid]; rfl)
    rw [parseData_builtUplink hd hm hp hf addr fcnt port crypto hr rfl] at hok
    obtain rfl := congrArg Prod.fst (Except.ok.inj hok)
    exact ⟨hport,hopts,hpay⟩
  · intro h crypto identityService reader hr hg
    rw [hid,haddr] at hg
    obtain ⟨hport,hopts,hpay⟩ := h crypto reader hr
    refine ⟨_,parseData_builtUplink hd hm hp hf addr fcnt port crypto hr hg,?_,hport,?_,hopts,hpay⟩
    · rw [accepted_header]
      rfl
    · rw [accepted_header]
      exact foptslen_setFoptslen (by omega) 0

/-- Options in the control byte but not in the frame cost payload bytes. -/
theorem payload_lost (hp : payload.length≤242) (hf : fopts.length≤15) (hne : fopts≠[])
    (hpos : 0<payload.length) (crypto : Crypto) (reader : SemtechUDPPacket) (addr : Bytes) (fcnt : UInt16)
    (port : UInt8) :
    (acceptedPacket crypto reader (sealFrame crypto (builtHeader p addr fcnt fopts)
      (port::encryptPayload crypto payload fcnt.toNat 0 (setAddr addr) p.devId.appSKey) 0
      p.devId.nwkSKey) p.devId).payload≠payload := by
  have hk : 0<fopts.length := List.length_pos_of_ne_nil hne
  have hl : foptslen (builtHeader p addr fcnt fopts).fctrl=fopts.length :=
    foptslen_setFoptslen (by omega) 0
  have h256 : payload.length≤256 := by omega
  have he := encryptPayload_length crypto h256 fcnt.toNat 0 (setAddr addr) p.devId.appSKey
  intro h
  have hlen := congrArg List.length h
  by_cases hs : fopts.length<payload.length
  · rw [accepted_payload _ _ _ _ _ _ _ (by rw [List.length_cons]; omega)
      (by rw [List.length_cons,hl]; omega),hl,List.drop_succ_cons,decryptPayload,
      encryptPayload_length crypto (by rw [List.length_drop]; omega),List.length_drop] at hlen
    omega
  · rw [accepted_payload_nil _ _ _ _ _ _ _ (by rw [List.length_cons]; omega)
      (by rw [List.length_cons,hl]; omega),List.length_nil] at hlen
    omega

/-- Without options the port reads back and the payload is deciphered with the
key of the port. -/
theorem fields_without_options (hp : payload.length≤242) (hpos : 0<payload.length) (crypto : Crypto)
    {reader : SemtechUDPPacket} (hr : reader.downlink=false) (addr : Bytes) (fcnt : UInt16)
    (port : UInt8) :
    let body := port::encryptPayload crypto payload fcnt.toNat 0 (setAddr addr) p.devId.appSKey
    let result := acceptedPacket crypto reader
      (sealFrame crypto (builtHeader p addr fcnt []) body 0 p.devId.nwkSKey) p.devId
    result.header.fport=port ∧ result.payload=decryptPayload crypto
      (encryptPayload crypto payload fcnt.toNat 0 (setAddr addr) p.devId.appSKey) fcnt.toNat 0
      (setAddr addr) (payloadKey port p.devId) := by
  have hl : foptslen (builtHeader p addr fcnt []).fctrl=0 := rfl
  have h256 : payload.length≤256 := by omega
  have he := encryptPayload_length crypto h256 fcnt.toNat 0 (setAddr addr) p.devId.appSKey
  constructor
  · rw [accepted_fport _ _ _ _ _ _ _ (by rw [List.length_cons,hl]; omega),hl]
    rfl
  · rw [accepted_payload _ _ _ _ _ _ _ (by rw [List.length_cons]; omega)
      (by rw [List.length_cons,hl]; omega),hl,hr]
    rfl

/-- An uplink survives the writer and the reader exactly when it has no frame
options and its port is not 0 or both session keys are equal: the writer drops
the options and always enciphers with the application key. -/
theorem uplink_restored_iff (hd : p.downlink=false) (hm : 2 ≤ mtype p.header.header.macheader)
    (hpos : 1≤payload.length) (hp : payload.length≤242) (hf : fopts.length≤15) (addr : Bytes)
    (fcnt : UInt16) (port : UInt8) :
    UplinkRestored (builtUplink p addr fcnt port payload fopts) fcnt port payload fopts ↔
      fopts=[] ∧ (port≠0 ∨ p.devId.nwkSKey=p.devId.appSKey) := by
  rw [uplinkRestored_iff_fields hd hm hp hf]
  constructor
  · intro h
    have hnil : fopts=[] := by
      by_contra hne
      exact payload_lost hp hf hne hpos (spotCrypto zeroKey zeroKey zeroKey []) SemtechUDPPacket.empty addr
        fcnt port (h _ _ rfl).2.2
    subst hnil
    refine ⟨rfl,?_⟩
    by_contra hn
    obtain ⟨hport,hkey⟩ := not_or.mp hn
    rw [not_not] at hport
    let crypto := spotCrypto p.devId.nwkSKey (blockA fcnt.toNat 0 (setAddr addr) 1) zeroKey []
    have hres := (h crypto SemtechUDPPacket.empty rfl).2.2
    rw [(fields_without_options hp hpos crypto rfl addr fcnt port).2,decrypt_encrypt_iff crypto (by omega)]
      at hres
    have hz := hres 0 hpos
    rw [payloadKey,if_pos hport,spot_stream,spot_stream_other (fun hc => hkey hc.1.symm)] at hz
    exact absurd hz (by decide)
  · rintro ⟨rfl,hk⟩ crypto reader hr
    obtain ⟨hport,hpay⟩ := fields_without_options (p:=p) hp hpos crypto hr addr fcnt port
    refine ⟨hport,by rw [List.length_nil,List.take_zero],?_⟩
    have hkey : payloadKey port p.devId=p.devId.appSKey := by
      rw [payloadKey]
      split
      · next hz => exact hk.resolve_left (not_not.mpr hz)
      · rfl
    rw [hpay,hkey]
    exact (decrypt_encrypt_iff crypto (by omega) _ _ _ _ _ _).mpr fun _ _ => rfl

/-- A one-byte uplink on port 1 without options is restored. -/
theorem uplink_restored_port_one :
    SemtechUDPPacket.empty.downlink=false ∧ 2 ≤ mtype SemtechUDPPacket.empty.header.header.macheader ∧
      UplinkRestored (builtUplink SemtechUDPPacket.empty [] 7 1 [0x2a] []) 7 1 [0x2a] [] :=
  ⟨rfl,by decide,(uplink_restored_iff rfl (by decide) (by decide) (by decide) (by decide) [] 7 1).mpr
    ⟨rfl,Or.inl (by decide)⟩⟩

/-- A one-byte uplink on port 1 with one option byte is not restored. -/
theorem uplink_with_option_lost :
    ¬ UplinkRestored (builtUplink SemtechUDPPacket.empty [] 7 1 [0x2a] [0x02]) 7 1 [0x2a] [0x02] := by
  rw [uplinkRestored_iff_fields rfl (by decide) (by decide) (by decide)]
  intro h
  exact payload_lost (by decide) (by decide) (by decide) (by decide) (spotCrypto zeroKey zeroKey zeroKey [])
    SemtechUDPPacket.empty [] 7 1 (h _ _ rfl).2.2

end Uplink

/-- The answer of `mkPullResponse` is readable at the device: the frame of its
datagram is accepted with the counter and the address of the request and gives
the MAC commands back. -/
def MacAnswerDecodes (received : SemtechUDPPacket) (data : Bytes) (id : DeviceId) (t : UInt32)
    (fcnt : UInt16) (power : ℤ) : Prop :=
  ∀ (crypto : Crypto) (identityService : Option IdentityService) (device : SemtechUDPPacket),
    device.downlink=true → lookup identityService received.header.header.devaddr=some id →
    ∃ datagram result,
      mkPullResponse crypto received data id t fcnt.toNat power=some datagram ∧
      parseData crypto identityService device datagram.data=.ok (result,LORA_OK) ∧
      result.header.header.fcnt=fcnt ∧ result.header.header.devaddr=received.header.header.devaddr ∧
      getMACs result=data

/-- Header of an answer or a request with its payload in the right place. -/
theorem foptslen_macHeader {header : PackedRfmHeader} (hz : header.fctrl=0) (size : ℕ) :
    foptslen (macHeader header size).fctrl=if size≤15 then size else 0 := by
  rw [macHeader]
  split
  · next hs => rw [foptslen_setAdr,foptslen_setFoptslen (by omega)]
  · rw [hz]
    rfl

/-- The remaining header fields do not depend on the place of the payload. -/
theorem macHeader_fields (header : PackedRfmHeader) (size : ℕ) :
    (macHeader header size).macheader=header.macheader ∧ (macHeader header size).devaddr=header.devaddr ∧
      (macHeader header size).fcnt=header.fcnt := by
  rw [macHeader]
  split
  · exact ⟨rfl,rfl,rfl⟩
  · exact ⟨rfl,rfl,rfl⟩

/-- The body of an answer or request adds at most its port. -/
theorem macBody_length (size : ℕ) (frmPayload : Bytes) : (macBody size frmPayload).length≤frmPayload.length+1 := by
  rw [macBody]
  split
  · omega
  · rw [List.length_cons]

/-- MAC commands in the options are read as they stand, on port 0 they are
deciphered with the network session key. -/
theorem getMACs_accepted {header : PackedRfmHeader} (hz : header.fctrl=0) {data frmPayload : Bytes}
    (hl : frmPayload.length=data.length) (hpos : 1≤data.length) (hmax : data.length≤242) (crypto : Crypto)
    (device : SemtechUDPPacket) (written : UInt8) (key : KEY128) (id : DeviceId) :
    getMACs (acceptedPacket crypto device (sealFrame crypto (macHeader header data.length)
        (macBody data.length frmPayload) written key) id)=
      if data.length≤15 then frmPayload
      else decryptPayload crypto frmPayload header.fcnt.toNat (direction device.downlink) header.devaddr
        id.nwkSKey := by
  have hf := foptslen_macHeader hz data.length
  obtain ⟨-,haddr,hcnt⟩ := macHeader_fields header data.length
  by_cases hs : data.length≤15
  · rw [if_pos hs] at hf ⊢
    have hb : macBody data.length frmPayload=frmPayload := if_pos hs
    have ho := accepted_fopts crypto (macHeader header data.length) frmPayload written key device id
      (by omega)
    rw [hf] at ho
    rw [hb,getMACs,accepted_header,hf,if_pos (by omega),ho,←hl,List.take_length]
  · rw [if_neg hs] at hf ⊢
    have hb : macBody data.length frmPayload=0::frmPayload := if_neg hs
    have hport := accepted_fport crypto (macHeader header data.length) (0::frmPayload) written key device id
      (by rw [hf,List.length_cons]; omega)
    have hpay := accepted_payload crypto (macHeader header data.length) (0::frmPayload) written key device id
      (by rw [List.length_cons]; omega) (by rw [hf,List.length_cons]; omega)
    rw [hf] at hport hpay
    have hdec : decryptPayload crypto frmPayload header.fcnt.toNat (direction device.downlink)
        header.devaddr id.nwkSKey≠[] := by
      intro he
      have hn := congrArg List.length he
      rw [decryptPayload,encryptPayload_length crypto (by omega),List.length_nil] at hn
      omega
    have hp : (acceptedPacket crypto device (sealFrame crypto (macHeader header data.length)
        (0::frmPayload) written key) id).payload=decryptPayload crypto frmPayload header.fcnt.toNat
          (direction device.downlink) header.devaddr id.nwkSKey := by
      rw [hpay,hcnt,haddr]
      rfl
    rw [hb,getMACs,accepted_header,hf,if_neg (by omega),hport,hp,
      if_pos ⟨rfl,List.length_pos_of_ne_nil hdec⟩]

section Answer

variable {received : SemtechUDPPacket} {data : Bytes} {id : DeviceId}

/-- Header of an answer before its payload is placed. -/
def answerHeader (received : PackedRfmHeader) (fcnt : UInt16) : PackedRfmHeader :=
  {received with macheader := setMtype received.macheader MTYPE_UNCONFIRMED_DATA_DOWN,fctrl := 0,fcnt := fcnt}

/-- Payload of an answer as it is written. -/
def answerPayload (crypto : Crypto) (received : PackedRfmHeader) (data : Bytes) (id : DeviceId) : Bytes :=
  if id.version.minor=1 then encryptPayload crypto data received.fcnt.toNat 1 received.devaddr id.nwkSKey
  else data

/-- The payload of an answer has the length of its commands. -/
theorem answerPayload_length (hmax : data.length≤242) (crypto : Crypto) (received : PackedRfmHeader) :
    (answerPayload crypto received data id).length=data.length := by
  rw [answerPayload]
  split
  · exact encryptPayload_length crypto (by omega) _ _ _ _
  · rfl

/-- The frame of an answer is sealed over its header and its placed payload. -/
theorem pullResponseFrame_eq (crypto : Crypto) (received : PackedRfmHeader) (data : Bytes) (id : DeviceId)
    (fcnt : UInt16) :
    pullResponseFrame crypto received data id fcnt=
      sealFrame crypto (macHeader (answerHeader received fcnt) data.length)
        (macBody data.length (answerPayload crypto received data id)) 1 id.nwkSKey := rfl

/-- A packet with a reception is answered by a datagram around that frame. -/
theorem mkPullResponse_data (hmeta : received.metadata≠[]) (crypto : Crypto) (t : UInt32) (fcnt : UInt16)
    (power : ℤ) :
    ∃ datagram,mkPullResponse crypto received data id t fcnt.toNat power=some datagram ∧
      datagram.data=pullResponseFrame crypto received.header.header data id fcnt := by
  rw [mkPullResponse,uint16_ofInt_natCast,UInt16.ofNat_toNat]
  obtain ⟨datagram,hd⟩ := toTxJsonString_isSome hmeta
    (pullResponseFrame crypto received.header.header data id fcnt) t power
  exact ⟨datagram,hd,toTxJsonString_data hd⟩

/-- The frame of an answer is accepted by the device. -/
theorem parseData_pullResponseFrame (hmax : data.length≤242) (received : PackedRfmHeader) (fcnt : UInt16)
    (crypto : Crypto) {identityService : Option IdentityService} {device : SemtechUDPPacket}
    (hd : device.downlink=true) (hg : lookup identityService received.devaddr=some id) :
    parseData crypto identityService device (pullResponseFrame crypto received data id fcnt)=
      .ok (acceptedPacket crypto device (pullResponseFrame crypto received data id fcnt) id,LORA_OK) := by
  obtain ⟨hmac,haddr,-⟩ := macHeader_fields (answerHeader received fcnt) data.length
  have hlen : (answerPayload crypto received data id).length=data.length :=
    answerPayload_length hmax crypto received
  have hbody := macBody_length data.length (answerPayload crypto received data id)
  have hm : 2 ≤ mtype (macHeader (answerHeader received fcnt) data.length).macheader := by
    rw [hmac,answerHeader,mtype_setMtype (by decide)]
    decide
  have hb : (macBody data.length (answerPayload crypto received data id)).length≤247 := by
    omega
  have hs := parseData_sealFrame hm hb crypto (by rw [haddr]; exact hg) device
  rw [hd] at hs
  exact hs

/-- An answer is readable exactly when its commands come back; counter and
address always do. -/
theorem macAnswerDecodes_iff_commands (hmeta : received.metadata≠[]) (hpos : 1≤data.length)
    (hmax : data.length≤242) (t : UInt32) (fcnt : UInt16) (power : ℤ) :
    MacAnswerDecodes received data id t fcnt power ↔
      ∀ crypto : Crypto,
        (if data.length≤15 then answerPayload crypto received.header.header data id
        else decryptPayload crypto (answerPayload crypto received.header.header data id) fcnt.toNat 1
          received.header.header.devaddr id.nwkSKey)=data := by
  constructor
  · intro h crypto
    obtain ⟨datagram,result,hmk,hok,-,-,hmacs⟩ := h crypto (some (constService id))
      {SemtechUDPPacket.empty with downlink := true} rfl rfl
    obtain ⟨sent,hs,hdata⟩ := mkPullResponse_data hmeta crypto t fcnt power
    obtain rfl : sent=datagram := Option.some.inj (hs.symm.trans hmk)
    rw [hdata,parseData_pullResponseFrame hmax received.header.header fcnt crypto rfl rfl] at hok
    obtain rfl := congrArg Prod.fst (Except.ok.inj hok)
    rw [pullResponseFrame_eq,getMACs_accepted rfl (answerPayload_length hmax crypto _) hpos hmax] at hmacs
    exact hmacs
  · intro h crypto identityService device hd hg
    obtain ⟨sent,hs,hdata⟩ := mkPullResponse_data hmeta crypto t fcnt power
    obtain ⟨-,haddr,hfcnt⟩ := macHeader_fields (answerHeader received.header.header fcnt) data.length
    have hok := parseData_pullResponseFrame hmax received.header.header fcnt crypto hd hg
    rw [←hdata] at hok
    refine ⟨sent,_,hs,hok,?_,?_,?_⟩
    · rw [hdata,pullResponseFrame_eq,accepted_header,hfcnt]
      rfl
    · rw [hdata,pullResponseFrame_eq,accepted_header,haddr]
      rfl
    · rw [hdata,pullResponseFrame_eq,getMACs_accepted rfl (answerPayload_length hmax crypto _) hpos hmax,hd]
      exact h crypto

/-- Enciphered options do not come back under every cipher. -/
theorem enciphered_options_changed (hpos : 1≤data.length) (hmax : data.length≤242)
    (hv : id.version.minor=1) (received : PackedRfmHeader) :
    ∃ crypto,answerPayload crypto received data id≠data := by
  refine ⟨spotCrypto id.nwkSKey (blockA received.fcnt.toNat 1 received.devaddr 1) zeroKey [],?_⟩
  rw [answerPayload,if_pos hv]
  intro h
  have hz := (decrypt_plain_iff _ (by omega) _ _ _ _).mp h 0 hpos
  rw [spot_stream] at hz
  exact absurd hz (by decide)

/-- Plain commands on port 0 do not survive the reader under every cipher. -/
theorem plain_port_zero_changed (hpos : 1≤data.length) (hmax : data.length≤242) (fcnt : UInt16)
    (devaddr : DEVADDR) (key : KEY128) :
    ∃ crypto,decryptPayload crypto data fcnt.toNat 1 devaddr key≠data := by
  refine ⟨spotCrypto key (blockA fcnt.toNat 1 devaddr 1) zeroKey [],fun h => ?_⟩
  have hz := (decrypt_plain_iff _ (by omega) _ _ _ _).mp h 0 hpos
  rw [spot_stream] at hz
  exact absurd hz (by decide)

/-- Deciphering under every cipher needs the counter of the enciphering. -/
theorem decipher_counter_iff (hpos : 1≤data.length) (hmax : data.length≤242) (written read : UInt16)
    (devaddr : DEVADDR) (key : KEY128) :
    (∀ crypto,decryptPayload crypto (encryptPayload crypto data written.toNat 1 devaddr key) read.toNat 1
      devaddr key=data) ↔ written=read := by
  constructor
  · intro h
    by_contra hne
    have hz := (decrypt_encrypt_iff (spotCrypto key (blockA written.toNat 1 devaddr 1) zeroKey []) (by omega)
      _ _ _ _ _ _).mp (h _) 0 hpos
    rw [spot_stream,spot_stream_other (fun hc => blockA_counter (Ne.symm hne) 1 devaddr hc.2)] at hz
    exact absurd hz (by decide)
  · rintro rfl crypto
    exact (decrypt_encrypt_iff crypto (by omega) _ _ _ _ _ _).mpr fun _ _ => rfl

/-- A MAC answer is readable at the device exactly when plain commands stand in
the options, or enciphered commands stand on port 0 and the answer reuses the
counter of the request: options are enciphered but never deciphered, port 0 is
deciphered but not always enciphered, and the writer uses the old counter. -/
theorem mac_answer_decodes_iff (hmeta : received.metadata≠[]) (hpos : 1≤data.length)
    (hmax : data.length≤242) (t : UInt32) (fcnt : UInt16) (power : ℤ) :
    MacAnswerDecodes received data id t fcnt power ↔
      (id.version.minor≠1 ∧ data.length≤15) ∨
        (id.version.minor=1 ∧ 15<data.length ∧ received.header.header.fcnt=fcnt) := by
  rw [macAnswerDecodes_iff_commands hmeta hpos hmax]
  by_cases hs : data.length≤15
  · by_cases hv : id.version.minor=1
    · obtain ⟨crypto,hc⟩ := enciphered_options_changed hpos hmax hv received.header.header
      simp only [hs,if_true]
      exact ⟨fun h => absurd (h crypto) hc,by rintro (⟨hn,-⟩ | ⟨-,hl,-⟩); exacts [absurd hv hn,by omega]⟩
    · simp only [hs,hv,if_true,if_false,answerPayload,ne_eq,not_false_eq_true,true_and,true_or,implies_true]
  · by_cases hv : id.version.minor=1
    · have hl : 15<data.length := by omega
      simp only [hs,hv,hl,if_true,if_false,answerPayload,ne_eq,not_true_eq_false,false_and,false_or,true_and]
      exact decipher_counter_iff hpos hmax _ _ _ _
    · obtain ⟨crypto,hc⟩ := plain_port_zero_changed hpos hmax fcnt received.header.header.devaddr id.nwkSKey
      simp only [hs,hv,if_false,answerPayload,ne_eq,not_false_eq_true,and_false,false_and,or_false,iff_false]
      exact fun h => hc (h crypto)

/-- A received packet with one reception and counter 3. -/
def sampleReceived : SemtechUDPPacket :=
  {SemtechUDPPacket.empty with
    header := {RfmHeader.empty with header := ⟨0x40,1,0,3⟩}
    metadata := [RfmMetaData.initial 0 0]}

/-- A short answer to a device of minor version 0 is readable. -/
theorem mac_answer_decodes_short :
    sampleReceived.metadata≠[] ∧ MacAnswerDecodes sampleReceived [0x02,0x05,0x01] DeviceId.empty 1 9 14 :=
  ⟨by decide,(mac_answer_decodes_iff (by decide) (by decide) (by decide) 1 9 14).mpr
    (Or.inl ⟨by decide,by decide⟩)⟩

/-- A device of minor version 1. -/
def sampleDevice : DeviceId := {DeviceId.empty with version := ⟨1,1,0⟩}

/-- A short answer to a device of minor version 1 is not readable. -/
theorem mac_answer_enciphered_options :
    ¬ MacAnswerDecodes sampleReceived [0x02,0x05,0x01] sampleDevice 1 9 14 := by
  rw [macAnswerDecodes_iff_commands (by decide) (by decide) (by decide)]
  intro h
  have hpos : 1≤([0x02,0x05,0x01] : Bytes).length := by decide
  have hv : sampleDevice.version.minor=1 := rfl
  obtain ⟨crypto,hc⟩ := enciphered_options_changed hpos (by decide) hv sampleReceived.header.header
  exact hc (h crypto)

end Answer

/-- A request of `mkMACRequest` is readable at its target: it is addressed to
the device, accepted there with its counter, and gives the commands back. -/
def MacRequestDecodes (packet : SemtechUDPPacket) (gw : DEVEUI) (data : Bytes) (nid : NetworkIdentity)
    (t : UInt32) (fCnt : UInt16) (power : ℤ) : Prop :=
  ∀ (crypto : Crypto) (identityService : Option IdentityService) (device : SemtechUDPPacket),
    device.downlink=true → lookup identityService nid.devaddr=some nid.toDeviceId →
    ∃ datagram result,
      mkMACRequest crypto packet gw data nid t fCnt.toNat power=some datagram ∧
      (PackedRfmHeader.ofBytes datagram.data).devaddr=nid.devaddr ∧
      parseData crypto identityService device datagram.data=.ok (result,LORA_OK) ∧
      result.header.header.fcnt=fCnt ∧ getMACs result=data

section Request

/-- Header of a request before its payload is placed. -/
def requestHeader (fCnt : UInt16) : PackedRfmHeader := ⟨setMtype 0 MTYPE_UNCONFIRMED_DATA_DOWN,0,0,fCnt⟩

/-- Payload of a request as it is written. -/
def requestPayload (crypto : Crypto) (data : Bytes) (nid : NetworkIdentity) (fCnt : UInt16) : Bytes :=
  if nid.version.minor=1 then encryptPayload crypto data fCnt.toNat 0 0 nid.nwkSKey else data

/-- A request is a frame sealed for address 0 and the uplink direction. -/
theorem macRequestFrame_eq (crypto : Crypto) (data : Bytes) (nid : NetworkIdentity) (fCnt : UInt16) :
    macRequestFrame crypto data nid fCnt=sealFrame crypto (macHeader (requestHeader fCnt) data.length)
      (macBody data.length (requestPayload crypto data nid fCnt)) 0 nid.nwkSKey := rfl

/-- The body of a request is no longer than its commands and a port. -/
theorem requestBody_length {data : Bytes} (hmax : data.length≤242) (crypto : Crypto)
    (nid : NetworkIdentity) (fCnt : UInt16) :
    (macBody data.length (requestPayload crypto data nid fCnt)).length≤243 := by
  have hb := macBody_length data.length (requestPayload crypto data nid fCnt)
  have hp : (requestPayload crypto data nid fCnt).length=data.length := by
    rw [requestPayload]
    split
    · exact encryptPayload_length crypto (by omega) _ _ _ _
    · rfl
  omega

/-- A CMAC that only repeats the direction byte of B0. -/
def directionCrypto : Crypto where
  aesEncrypt _ _ := constBlock 0
  cmac _ message := constBlock (message.getD 5 0)

/-- A frame sealed for the uplink direction is refused by a downlink reader. -/
theorem sealed_uplink_refused {header : PackedRfmHeader} {body : Bytes} (hl : body.length≤247)
    {device : SemtechUDPPacket} (hd : device.downlink=true) (identityService : Option IdentityService)
    (key : KEY128) (result : SemtechUDPPacket) :
    parseData directionCrypto identityService device (sealFrame directionCrypto header body 0 key)≠
      .ok (result,LORA_OK) := by
  intro hok
  have hwritten : getMic (sealFrame directionCrypto header body 0 key)=micOf (constBlock 0) := by
    rw [sealFrame,getMic_append]
    rfl
  obtain ⟨-,-,id,-,hm,-⟩ := (parseData_ok_iff _ _ _ _ _).mp hok
  have hcomputed : frameMic directionCrypto (withHeader device (sealFrame directionCrypto header body 0 key))
      (sealFrame directionCrypto header body 0 key) id=micOf (constBlock 1) := by
    rw [frameMic_sealFrame hl,hd]
    rfl
  rw [hwritten,hcomputed] at hm
  exact absurd hm (by decide)

/-- The frame of a request is refused by its target under the direction CMAC. -/
theorem request_refused {data : Bytes} (hmax : data.length≤242) {packet : SemtechUDPPacket} {gw : DEVEUI}
    {nid : NetworkIdentity} {t : UInt32} {fCnt power : ℤ} {datagram : PullResp}
    (hmk : mkMACRequest directionCrypto packet gw data nid t fCnt power=some datagram)
    {device : SemtechUDPPacket} (hd : device.downlink=true) (identityService : Option IdentityService)
    (result : SemtechUDPPacket) :
    parseData directionCrypto identityService device datagram.data≠.ok (result,LORA_OK) := by
  have hdata : datagram.data=macRequestFrame directionCrypto data nid (UInt16.ofInt fCnt) :=
    toTxJsonString_data hmk
  have hb := requestBody_length hmax directionCrypto nid (UInt16.ofInt fCnt)
  rw [hdata,macRequestFrame_eq]
  exact sealed_uplink_refused (by omega) hd _ _ _

/-- No MAC request of the server is readable at its target: the frame carries
address 0 and the uplink direction. -/
theorem mac_request_never_decodes (packet : SemtechUDPPacket) (gw : DEVEUI) (data : Bytes)
    (hmax : data.length≤242) (nid : NetworkIdentity) (t : UInt32) (fCnt : UInt16) (power : ℤ) :
    ¬ MacRequestDecodes packet gw data nid t fCnt power := by
  intro h
  obtain ⟨datagram,result,hmk,-,hok,-,-⟩ := h directionCrypto (some (constService nid.toDeviceId))
    {SemtechUDPPacket.empty with downlink := true} rfl rfl
  exact request_refused hmax hmk rfl _ result hok

/-- A request of one command to the device with address 1. -/
theorem mac_request_dev_status :
    [(0x06 : UInt8)].length≤242 ∧
      ¬ MacRequestDecodes sampleReceived 1 [0x06] ⟨DeviceId.empty,1⟩ 0 5 14 :=
  ⟨by decide,mac_request_never_decodes sampleReceived 1 [0x06] (by decide) ⟨DeviceId.empty,1⟩ 0 5 14⟩

/-- Even the request to the device with address 0 is refused there. -/
theorem mac_request_address_zero_refused :
    ¬ MacRequestDecodes sampleReceived 1 [0x06] ⟨DeviceId.empty,0⟩ 0 5 14 := by
  intro h
  obtain ⟨datagram,result,hmk,-,hok,-,-⟩ := h directionCrypto (some (constService DeviceId.empty))
    {SemtechUDPPacket.empty with downlink := true} rfl rfl
  exact request_refused (by decide) hmk rfl _ result hok

end Request

end LorawanServer.FrameRoundTrip
