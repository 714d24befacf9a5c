import LorawanServer.FrameCrypto

/-!
# Reading a radio frame

`SemtechUDPPacket::parseData` with the predicates that classify a parsed
packet. The length of the payload is computed in `size_t` and then narrowed to
`int`, as in the source. A frame is accepted only behind a complete header, a
stored identity and a matching integrity code; the inversion below says so
once for every later result.
-/

namespace LorawanServer.DataFrame

open CppRuntime FrameCrypto Records

/-- Size of the frame payload as the code computes it, negative for frames
that are too short. -/
def payloadSize (size len : ℕ) : ℤ := toInt32 (sizeSub (sizeSub (sizeSub (sizeSub size 8) 4) 1) len)

/-- The chain of subtractions is one subtraction. -/
theorem payloadSize_eq_toInt32 {len : ℕ} (hl : len<16) (size : ℕ) :
    payloadSize size len=toInt32 (sizeSub size (13+len)) := by
  have hs : 8+(4+(1+len))=13+len := by omega
  rw [payloadSize,sizeSub_sizeSub (by omega),sizeSub_sizeSub (by omega),sizeSub_sizeSub (by omega),hs]

/-- Radio-sized frames leave the two-sided size of the payload. -/
theorem payloadSize_eq {size len : ℕ} (hs : size<2^31) (hl : len<16) :
    payloadSize size len=(size : ℤ)-13-len := by
  rw [payloadSize_eq_toInt32 hl,toInt32_sizeSub hs (by omega)]
  omega

/-- A positive payload size leaves the start of the payload inside the frame. -/
theorem payloadSize_pos {size len : ℕ} (hl : len<16) (h : 0<payloadSize size len) : 13+len<size := by
  by_contra hn
  rw [payloadSize_eq (by omega) hl] at h
  omega

/-- The MAC header byte that `parseData` stores first. The empty string still
has its terminating zero byte. -/
def withMacheader (packet : SemtechUDPPacket) (data : Bytes) : SemtechUDPPacket :=
  {packet with header := {packet.header with header := {packet.header.header with
    macheader := data.headD 0}}}

/-- The packet once the header object has read the frame. -/
def withHeader (packet : SemtechUDPPacket) (data : Bytes) : SemtechUDPPacket :=
  {withMacheader packet data with header := ((withMacheader packet data).header.parse data).1}

/-- Direction of the packet in the counter block and in B0. -/
def direction (downlink : Bool) : UInt8 := if downlink then 1 else 0

/-- The code that `parseData` computes over a received frame. The size of the
message is the length of the frame narrowed to `unsigned char`, less four. -/
def frameMic (crypto : Crypto) (packet : SemtechUDPPacket) (data : Bytes) (id : DeviceId) : UInt32 :=
  calculateMIC crypto data (UInt8.ofNat data.length-4) packet.header.header.fcnt.toNat
    (direction packet.downlink) packet.header.header.devaddr id.nwkSKey

/-- Key that `parseData` selects by the frame port. -/
def payloadKey (fport : UInt8) (id : DeviceId) : KEY128 := if fport=0 then id.nwkSKey else id.appSKey

/-- The memory that `getMic` and `calculateMIC` read: four bytes at the end of
the frame and as many at its front as the eight-bit size names. -/
def readForMic (data : Bytes) : Except Fault Unit := do
  let _ ← readBytes data 4
  let _ ← readBytes data (UInt8.ofNat data.length-4).toNat
  return ()

/-- Both reads stay inside a frame of four bytes or more, also when the
eight-bit size wraps. -/
theorem readForMic_of_le {data : Bytes} (h : 4≤data.length) : readForMic data=.ok () := by
  have hs : (UInt8.ofNat data.length-4).toNat≤data.length := by
    rw [UInt8.toNat_sub,UInt8.toNat_ofNat']
    change (2^8-4+data.length%2^8)%2^8≤data.length
    omega
  rw [readForMic,readBytes_of_le h,readBytes_of_le hs]
  rfl

/-- The part of `parseData` behind a successful identity lookup. -/
def parseKnown (crypto : Crypto) (packet : SemtechUDPPacket) (data : Bytes) (id : DeviceId) :
    Except Fault (SemtechUDPPacket×ℤ) := do
  let len := foptslen packet.header.header.fctrl
  readForMic data
  if getMic data=frameMic crypto packet data id then
    if 0<payloadSize data.length len then
      let p ← substr data (8+1+len) (payloadSize data.length len).toNat
      let payload := decryptPayload crypto p packet.header.header.fcnt.toNat
        (direction packet.downlink) packet.header.header.devaddr (payloadKey packet.header.fport id)
      return ({packet with devId := id,payload := payload,errcode := LORA_OK},LORA_OK)
    else return ({packet with devId := id,payload := [],errcode := LORA_OK},LORA_OK)
  else return ({packet with devId := id,errcode := ERR_CODE_INVALID_MIC},ERR_CODE_INVALID_MIC)

/-- The part of `parseData` behind a failed identity lookup: the enciphered
payload is kept. -/
def parseUnknown (packet : SemtechUDPPacket) (data : Bytes) : Except Fault (SemtechUDPPacket×ℤ) := do
  let packet := {packet with errcode := ERR_CODE_DEVICE_ADDRESS_NOTFOUND}
  let len := foptslen packet.header.header.fctrl
  if 0<payloadSize data.length len then
    let p ← substr data (8+1+len) (payloadSize data.length len).toNat
    return ({packet with payload := p},ERR_CODE_DEVICE_ADDRESS_NOTFOUND)
  else return (packet,ERR_CODE_DEVICE_ADDRESS_NOTFOUND)

/-- `SemtechUDPPacket::parseData`. A missing identity service is a null
pointer there; the result pairs the updated packet with the returned code. -/
def parseData (crypto : Crypto) (identityService : Option IdentityService) (packet : SemtechUDPPacket)
    (data : Bytes) : Except Fault (SemtechUDPPacket×ℤ) :=
  if mtype (data.headD 0)=MTYPE_JOIN_REQUEST then do
    let payload ← substr data 1 (sizeSub (sizeSub data.length 1) 4)
    return ({withMacheader packet data with payload := payload,errcode := ERR_CODE_IS_JOIN},ERR_CODE_IS_JOIN)
  else if mtype (data.headD 0)=MTYPE_JOIN_ACCEPT then
    .ok ({withMacheader packet data with payload := data,errcode := ERR_CODE_IS_JOIN},ERR_CODE_IS_JOIN)
  else if ((withMacheader packet data).header.parse data).2 then
    match identityService with
    | none => parseUnknown (withHeader packet data) data
    | some service =>
      match service.get (withHeader packet data).header.header.devaddr with
      | .ok id => parseKnown crypto (withHeader packet data) data id
      | .error _ => parseUnknown (withHeader packet data) data
  else .ok (withHeader packet data,ERR_CODE_INVALID_RFM_HEADER)

/-- `SemtechUDPPacket::hasMACPayload`. -/
def hasMACPayload (packet : SemtechUDPPacket) : Bool :=
  decide (foptslen packet.header.header.fctrl≠0) ||
    (decide (packet.header.fport=0) && decide (0<packet.payload.length))

/-- `SemtechUDPPacket::hasApplicationPayload`. -/
def hasApplicationPayload (packet : SemtechUDPPacket) : Bool :=
  decide (1≤packet.header.fport.toNat) && decide (packet.header.fport.toNat≤223) &&
    decide (0<packet.payload.length)

/-- `SemtechUDPPacket::isPayloadMAC`. -/
def isPayloadMAC (packet : SemtechUDPPacket) : Bool :=
  decide (packet.header.fport=0) && decide (0<packet.payload.length)

/-- `SemtechUDPPacket::getMACs`: the frame options, or the payload of port 0. -/
def getMACs (packet : SemtechUDPPacket) : Bytes :=
  if foptslen packet.header.header.fctrl≠0 then
    packet.header.fopts.toList.take (foptslen packet.header.header.fctrl)
  else if packet.header.fport=0 ∧ 0<packet.payload.length then packet.payload
  else []

/-- The payload that an accepted frame leaves in the packet. -/
def framePayload (crypto : Crypto) (packet : SemtechUDPPacket) (data : Bytes) (id : DeviceId) : Bytes :=
  let len := foptslen packet.header.header.fctrl
  if 0<payloadSize data.length len then
    decryptPayload crypto ((data.drop (8+1+len)).take (payloadSize data.length len).toNat)
      packet.header.header.fcnt.toNat (direction packet.downlink) packet.header.header.devaddr
      (payloadKey packet.header.fport id)
  else []

/-- Behind a stored identity a complete frame is accepted with its payload or
refused for its integrity code; nothing is thrown. -/
theorem parseKnown_eq {data : Bytes} (h8 : 8≤data.length) (crypto : Crypto) (packet : SemtechUDPPacket)
    (id : DeviceId) :
    parseKnown crypto packet data id=.ok (
      if getMic data=frameMic crypto packet data id then
        ({packet with devId := id,payload := framePayload crypto packet data id,errcode := LORA_OK},LORA_OK)
      else ({packet with devId := id,errcode := ERR_CODE_INVALID_MIC},ERR_CODE_INVALID_MIC)) := by
  have hl := foptslen_lt packet.header.header.fctrl
  dsimp only [parseKnown,framePayload]
  rw [readForMic_of_le (by omega)]
  dsimp only [bind,Except.bind]
  by_cases hm : getMic data=frameMic crypto packet data id
  · rw [if_pos hm,if_pos hm]
    by_cases hp : 0<payloadSize data.length (foptslen packet.header.header.fctrl)
    · have hi := payloadSize_pos hl hp
      rw [if_pos hp,if_pos hp,substr_of_le (by omega)]
      rfl
    · rw [if_neg hp,if_neg hp]
      rfl
  · rw [if_neg hm,if_neg hm]
    rfl

/-- Behind a failed lookup the frame is reported as unknown; nothing is thrown. -/
theorem parseUnknown_eq (packet : SemtechUDPPacket) (data : Bytes) :
    ∃ payload,parseUnknown packet data=.ok (
      {packet with errcode := ERR_CODE_DEVICE_ADDRESS_NOTFOUND,payload := payload},
      ERR_CODE_DEVICE_ADDRESS_NOTFOUND) := by
  have hl := foptslen_lt packet.header.header.fctrl
  unfold parseUnknown
  dsimp only
  split
  · next hp =>
    have hi := payloadSize_pos hl hp
    rw [substr_of_le (by omega)]
    exact ⟨_,rfl⟩
  · exact ⟨packet.payload,rfl⟩

/-- Whether the first byte announces a join request or a join accept. -/
def isJoinType (data : Bytes) : Bool := decide (mtype (data.headD 0)<2)

/-- Join messages return the code of a join. -/
theorem parseData_of_join {data : Bytes} (hj : isJoinType data=true) {crypto : Crypto}
    {identityService : Option IdentityService} {packet result : SemtechUDPPacket} {code : ℤ}
    (h : parseData crypto identityService packet data=.ok (result,code)) : code=ERR_CODE_IS_JOIN := by
  unfold parseData at h
  split at h
  · obtain ⟨payload,-,hr⟩ := bind_eq_ok.mp h
    exact (Prod.mk.inj (Except.ok.inj hr)).2.symm
  · next hr =>
    split at h
    · exact (Prod.mk.inj (Except.ok.inj h)).2.symm
    · next ha =>
      have hm : mtype (data.headD 0)<2 := of_decide_eq_true hj
      interval_cases hv : mtype (data.headD 0)
      · exact absurd rfl hr
      · exact absurd rfl ha

/-- The identity an optional service stores for an address. -/
def lookup (identityService : Option IdentityService) (devaddr : DEVADDR) : Option DeviceId :=
  match identityService with
  | none => none
  | some service => (service.get devaddr).toOption

/-- A service that stores one identity for every address. -/
def constService (id : DeviceId) : IdentityService where
  get _ := .ok id
  getNetworkIdentity _ := .ok ⟨id,0⟩
  canControlService _ := true

/-- On other frames the header decides between a short frame and the lookup. -/
theorem parseData_of_not_join {data : Bytes} (hj : isJoinType data=false) (crypto : Crypto)
    (identityService : Option IdentityService) (packet : SemtechUDPPacket) :
    parseData crypto identityService packet data=
      if 8≤data.length then
        match lookup identityService (withHeader packet data).header.header.devaddr with
        | some id => parseKnown crypto (withHeader packet data) data id
        | none => parseUnknown (withHeader packet data) data
      else .ok (withHeader packet data,ERR_CODE_INVALID_RFM_HEADER) := by
  have hm : ¬ mtype (data.headD 0)<2 := of_decide_eq_false hj
  have hr : mtype (data.headD 0)≠MTYPE_JOIN_REQUEST := fun he => hm (by rw [he]; decide)
  have ha : mtype (data.headD 0)≠MTYPE_JOIN_ACCEPT := fun he => hm (by rw [he]; decide)
  have hf : ((withMacheader packet data).header.parse data).2=decide (8≤data.length) := rfl
  unfold parseData
  rw [if_neg hr,if_neg ha,hf]
  simp only [decide_eq_true_eq]
  split
  · cases identityService with
    | none => rfl
    | some service =>
      dsimp only [lookup]
      cases service.get (withHeader packet data).header.header.devaddr with
      | error code => rfl
      | ok id => rfl
  · rfl

/-- The packet that `parseData` leaves behind an accepted frame. -/
def acceptedPacket (crypto : Crypto) (packet : SemtechUDPPacket) (data : Bytes) (id : DeviceId) :
    SemtechUDPPacket :=
  {withHeader packet data with
    devId := id
    payload := framePayload crypto (withHeader packet data) data id
    errcode := LORA_OK}

/-- A complete frame supplies the whole fixed header of the packet. -/
theorem withHeader_header {data : Bytes} (hl : 8≤data.length) (packet : SemtechUDPPacket) :
    (withHeader packet data).header.header=PackedRfmHeader.ofBytes data :=
  RfmHeader.parse_header hl _

/-- Exact acceptance: a data frame with a complete header, a stored identity
and a matching code, and no other frame, returns success. -/
theorem parseData_ok_iff (crypto : Crypto) (identityService : Option IdentityService)
    (packet result : SemtechUDPPacket) (data : Bytes) :
    parseData crypto identityService packet data=.ok (result,LORA_OK) ↔
      isJoinType data=false ∧ 8≤data.length ∧ ∃ id,
        lookup identityService (withHeader packet data).header.header.devaddr=some id ∧
        getMic data=frameMic crypto (withHeader packet data) data id ∧
        result=acceptedPacket crypto packet data id := by
  cases hj : isJoinType data with
  | true =>
    exact ⟨fun h => absurd (parseData_of_join hj h) (by decide),fun h => absurd h.1 (by decide)⟩
  | false =>
    rw [parseData_of_not_join hj]
    by_cases hl : 8≤data.length
    · rw [if_pos hl]
      cases hg : lookup identityService (withHeader packet data).header.header.devaddr with
      | none =>
        obtain ⟨payload,hu⟩ := parseUnknown_eq (withHeader packet data) data
        simp only [hu,Except.ok.injEq,Prod.mk.injEq,reduceCtorEq,false_and,exists_false,and_false,
          iff_false,not_and]
        exact fun _ => by decide
      | some id =>
        simp only [parseKnown_eq hl,Except.ok.injEq,Option.some.injEq,exists_eq_left',true_and,hl]
        split
        · next hm => simp only [hm,true_and,Prod.mk.injEq,and_true,acceptedPacket,eq_comm]
        · next hm =>
          simp only [hm,false_and,Prod.mk.injEq,iff_false,not_and]
          exact fun _ => by decide
    · rw [if_neg hl]
      simp only [hl,false_and,and_false,iff_false,Except.ok.injEq,Prod.mk.injEq,not_and]
      exact fun _ => by decide

/-- Exactly the join messages return the code of a join. -/
theorem parseData_join_iff {crypto : Crypto} {identityService : Option IdentityService}
    {packet result : SemtechUDPPacket} {data : Bytes} {code : ℤ}
    (h : parseData crypto identityService packet data=.ok (result,code)) :
    code=ERR_CODE_IS_JOIN ↔ isJoinType data=true := by
  refine ⟨fun hc => ?_,fun hj => parseData_of_join hj h⟩
  cases hj : isJoinType data with
  | true => rfl
  | false =>
    rw [parseData_of_not_join hj,hc] at h
    split_ifs at h with hl
    · cases hg : lookup identityService (withHeader packet data).header.header.devaddr with
      | none =>
        obtain ⟨payload,hu⟩ := parseUnknown_eq (withHeader packet data) data
        rw [hg] at h
        exact absurd (Prod.mk.inj (Except.ok.inj (hu.symm.trans h))).2 (by decide)
      | some id =>
        rw [hg] at h
        have hk := (parseKnown_eq hl _ _ _).symm.trans h
        split_ifs at hk
        · exact absurd (Prod.mk.inj (Except.ok.inj hk)).2 (by decide)
        · exact absurd (Prod.mk.inj (Except.ok.inj hk)).2 (by decide)
    · exact absurd (Prod.mk.inj (Except.ok.inj h)).2 (by decide)

/-- The packet with other receptions and another prefix. -/
def withOrigin (metadata : List RfmMetaData) (gwPrefix : SemtechPrefixGw) (packet : SemtechUDPPacket) :
    SemtechUDPPacket := {packet with metadata := metadata,gwPrefix := gwPrefix}

/-- Behind a known address receptions and prefix pass through untouched. -/
theorem parseKnown_withOrigin (metadata : List RfmMetaData) (gwPrefix : SemtechPrefixGw) (crypto : Crypto)
    (packet : SemtechUDPPacket) (data : Bytes) (id : DeviceId) :
    parseKnown crypto (withOrigin metadata gwPrefix packet) data id=
      (parseKnown crypto packet data id).map fun result => (withOrigin metadata gwPrefix result.1,result.2) := by
  unfold parseKnown
  cases readForMic data with
  | error fault => rfl
  | ok read =>
    have hm : frameMic crypto (withOrigin metadata gwPrefix packet) data id=frameMic crypto packet data id := rfl
    have hf : (withOrigin metadata gwPrefix packet).header=packet.header := rfl
    dsimp only [bind,Except.bind]
    rw [hm,hf]
    split_ifs
    · cases substr data (8+1+foptslen packet.header.header.fctrl)
          (payloadSize data.length (foptslen packet.header.header.fctrl)).toNat with
      | error fault => rfl
      | ok p => rfl
    · rfl
    · rfl

/-- So they do behind an unknown one. -/
theorem parseUnknown_withOrigin (metadata : List RfmMetaData) (gwPrefix : SemtechPrefixGw)
    (packet : SemtechUDPPacket) (data : Bytes) :
    parseUnknown (withOrigin metadata gwPrefix packet) data=
      (parseUnknown packet data).map fun result => (withOrigin metadata gwPrefix result.1,result.2) := by
  have hf : (withOrigin metadata gwPrefix packet).header=packet.header := rfl
  unfold parseUnknown
  dsimp only
  rw [hf]
  split_ifs
  · cases substr data (8+1+foptslen packet.header.header.fctrl)
        (payloadSize data.length (foptslen packet.header.header.fctrl)).toNat with
    | error fault => rfl
    | ok p => rfl
  · rfl

/-- The reader neither uses nor changes the receptions and the prefix. -/
theorem parseData_withOrigin (metadata : List RfmMetaData) (gwPrefix : SemtechPrefixGw) (crypto : Crypto)
    (identityService : Option IdentityService) (packet : SemtechUDPPacket) (data : Bytes) :
    parseData crypto identityService (withOrigin metadata gwPrefix packet) data=
      (parseData crypto identityService packet data).map fun result =>
        (withOrigin metadata gwPrefix result.1,result.2) := by
  have hh : withHeader (withOrigin metadata gwPrefix packet) data=
      withOrigin metadata gwPrefix (withHeader packet data) := rfl
  have hw : (withMacheader (withOrigin metadata gwPrefix packet) data).header=(withMacheader packet data).header := rfl
  have ha : (withOrigin metadata gwPrefix (withHeader packet data)).header=(withHeader packet data).header := rfl
  unfold parseData
  rw [hh,hw,ha]
  split_ifs
  · cases substr data 1 (sizeSub (sizeSub data.length 1) 4) with
    | error fault => rfl
    | ok payload => rfl
  · rfl
  · cases identityService with
    | none => exact parseUnknown_withOrigin metadata gwPrefix _ data
    | some service =>
      dsimp only
      cases service.get (withHeader packet data).header.header.devaddr with
      | error code => exact parseUnknown_withOrigin metadata gwPrefix _ data
      | ok id => exact parseKnown_withOrigin metadata gwPrefix crypto _ data id
  · rfl
/-- The receptions and the prefix of the result are those of the packet. -/
theorem parseData_origin {crypto : Crypto} {identityService : Option IdentityService}
    {packet : SemtechUDPPacket} {data : Bytes} {result : SemtechUDPPacket×ℤ}
    (h : parseData crypto identityService packet data=.ok result) :
    result.1.metadata=packet.metadata ∧ result.1.gwPrefix=packet.gwPrefix := by
  have ho := parseData_withOrigin packet.metadata packet.gwPrefix crypto identityService packet data
  have hp : withOrigin packet.metadata packet.gwPrefix packet=packet := rfl
  rw [hp,h] at ho
  rw [Except.ok.inj ho]
  exact ⟨rfl,rfl⟩

end LorawanServer.DataFrame
