import LorawanServer.PacketReplies

/-!
# Join accept

`PacketQueue::replyJoinRequest`: the guards in the order of the source, the
join accept frame with its integrity code and its encryption, and the datagram
for the best gateway. The network identifier and the assignment of a new
address belong to the identity service and are arbitrary. The transport takes
whole datagrams.
-/

namespace LorawanServer.JoinReplies

open CppRuntime FrameCrypto Records DataFrame FrameBuilders DeviceHistory PacketHandler PacketReplies

/-- The identity service is not attached to the queue. -/
abbrev ERR_CODE_FAIL_IDENTITY_SERVICE : ℤ := -526
/-- No downlink counter is stored for the device. -/
abbrev ERR_CODE_NO_FCNT_DOWN : ℤ := -583
/-- No identity is stored for the device identifier. -/
abbrev ERR_CODE_DEVICE_EUI_NOT_FOUND : ℤ := -591
/-- The join identifier is not the stored one. -/
abbrev ERR_CODE_JOIN_EUI_NOT_MATCHED : ℤ := -592

/-- The channel plan members that a join accept reads. -/
structure JoinPlan extends ChannelPlan where
  /-- Delay of the first receive window in seconds. -/
  receiveDelay1 : ℤ
  /-- Data rate of the second receive window. -/
  rx2DataRate : ℤ
  deriving DecidableEq,Repr

/-- What the reply to a join request finds around the queue. -/
structure JoinEnvironment extends Environment where
  /-- Network identifier. -/
  netid : Vector UInt8 3
  /-- `IdentityService::next`: the identity with a new address and nonce. -/
  next : NetworkIdentity → Except ErrorCode NetworkIdentity
  /-- Default channel plan. -/
  defaultPlan : Option JoinPlan

/-- `JOIN_ACCEPT_FRAME_HEADER`. -/
structure JoinAcceptFrameHeader where
  /-- Join nonce. -/
  joinNonce : JOINNONCE
  /-- Network identifier. -/
  netId : Vector UInt8 3
  /-- Address of the device. -/
  devAddr : DEVADDR
  /-- Data rate of the second window in four bits, offset in three, version in one. -/
  dlSettings : UInt8
  /-- Delay of the first window. -/
  rxDelay : UInt8
  deriving DecidableEq

/-- The header before `replyJoinRequest` fills it, where every member is
overwritten. -/
def JoinAcceptFrameHeader.blank : JoinAcceptFrameHeader := ⟨Vector.replicate 3 0,Vector.replicate 3 0,0,0,0⟩

/-- The memory image of the header, twelve bytes. -/
def JoinAcceptFrameHeader.toBytes (hdr : JoinAcceptFrameHeader) : Bytes :=
  hdr.joinNonce.toList++hdr.netId.toList++leBytes 4 hdr.devAddr.toNat++[hdr.dlSettings,hdr.rxDelay]

/-- `IdentityService::joinAccept`: address, nonce and network identifier; a
device without an address gets a new one. -/
def joinAccept (env : JoinEnvironment) (retval : JoinAcceptFrameHeader) (networkIdentity : NetworkIdentity) :
    Except ErrorCode (JoinAcceptFrameHeader×NetworkIdentity) :=
  if networkIdentity.devaddr=0 then
    match env.next networkIdentity with
    | .error code => .error code
    | .ok new => .ok ({retval with netId := env.netid,devAddr := new.devaddr,joinNonce := new.joinNonce},
        {networkIdentity with devaddr := new.devaddr})
  else .ok ({retval with
    netId := env.netid
    devAddr := networkIdentity.devaddr
    joinNonce := networkIdentity.joinNonce},networkIdentity)

/-- The MAC header of a join accept. -/
def joinAcceptMhdr : UInt8 := setMtype 0 MTYPE_JOIN_ACCEPT

/-- `calculateMICJoinResponse`: header byte and header without a block in front. -/
def calculateMICJoinResponse (crypto : Crypto) (hdr : JoinAcceptFrameHeader) (key : KEY128) : UInt32 :=
  micOf (crypto.cmac key (joinAcceptMhdr::hdr.toBytes))

/-- `encryptJoinAcceptResponse`: the bytes behind the header byte are combined
with one enciphered block of zeros. -/
def encryptJoinAcceptResponse (crypto : Crypto) (body : Bytes) (key : KEY128) : Bytes :=
  List.zipWith (· ^^^ ·) body (crypto.aesEncrypt key (Vector.replicate 16 0)).toList

/-- The join accept frame as it is sent, seventeen bytes. -/
def joinAcceptFrame (crypto : Crypto) (hdr : JoinAcceptFrameHeader) (key : KEY128) : Bytes :=
  joinAcceptMhdr::encryptJoinAcceptResponse crypto
    (hdr.toBytes++leBytes 4 (calculateMICJoinResponse crypto hdr key).toNat) key

/-- `SemtechUDPPacket::mkJoinAcceptResponse`. -/
def mkJoinAcceptResponse (packet : SemtechUDPPacket) (frame : Bytes) (receivedTime : UInt32) (power : ℤ) :
    Option PullResp := toTxJsonString packet frame receivedTime power

/-- The guards of `replyJoinRequest` about the request and its device. -/
def joinIdentity (env : JoinEnvironment) (packet : SemtechUDPPacket) : Except ℤ NetworkIdentity :=
  match getJoinRequestFrame packet with
  | none => .error ERR_CODE_BAD_JOIN_REQUEST
  | some joinRequestFrame =>
    match env.identityService with
    | none => .error ERR_CODE_FAIL_IDENTITY_SERVICE
    | some identityService =>
      match identityService.getNetworkIdentity joinRequestFrame.devEUI with
      | .error _ => .error ERR_CODE_DEVICE_EUI_NOT_FOUND
      | .ok nid =>
        if nid.appEUI≠joinRequestFrame.joinEUI then .error ERR_CODE_JOIN_EUI_NOT_MATCHED else .ok nid

/-- Its guards about plan and gateway. -/
def joinTarget (env : JoinEnvironment) (packet : SemtechUDPPacket) : Except ℤ (JoinPlan×GatewayStat) :=
  match env.gatewayList with
  | none => .error ERR_CODE_WRONG_PARAM
  | some gateways =>
    match env.defaultPlan with
    | none => .error ERR_CODE_NO_REGION_BAND
    | some plan =>
      if getBestGatewayAddress packet=0 then .error ERR_CODE_BEST_GATEWAY_NOT_FOUND
      else match gateways[getBestGatewayAddress packet]? with
        | none => .error ERR_CODE_GATEWAY_NOT_FOUND
        | some gateway =>
          if gateway.socket=0 then .error ERR_CODE_GATEWAY_NO_YET_PULL_DATA else .ok (plan,gateway)

/-- The counter of the device; a history service that knows none refuses. -/
def joinCounter (history : Option Storage) (devaddr : DEVADDR) : Except ℤ UInt32 :=
  match history with
  | none => .ok 0
  | some storage =>
    match get storage devaddr with
    | .error _ => .error ERR_CODE_NO_FCNT_DOWN
    | .ok item => .ok item.fcntdown

/-- The settings of the plan, written into the header of the frame. -/
def joinSettings (plan : JoinPlan) (hdr : JoinAcceptFrameHeader) : JoinAcceptFrameHeader :=
  {hdr with rxDelay := UInt8.ofInt plan.receiveDelay1,dlSettings := UInt8.ofInt (plan.rx2DataRate%16)}

/-- The packet with the assigned address and the counter. -/
def assigned (packet : SemtechUDPPacket) (devaddr : DEVADDR) (fcnt : UInt16) : SemtechUDPPacket :=
  {packet with header := {packet.header with header := {packet.header.header with
    devaddr := devaddr,fcnt := fcnt}}}

/-- What `replyJoinRequest` does up to the call of `sendto`, with the address
and the counter of the device. -/
def acceptJoin (env : JoinEnvironment) (history : Option Storage) (packet : SemtechUDPPacket) :
    Except ℤ (DEVADDR×UInt32×SendTo) := do
  let nid ← joinIdentity env packet
  let (plan,gateway) ← joinTarget env packet
  let (hdr,nid) ← (joinAccept env .blank nid).mapError (·.val)
  let frame := joinAcceptFrame env.crypto (joinSettings plan hdr) nid.nwkKey
  let fcntDown ← joinCounter history nid.devaddr
  let response := mkJoinAcceptResponse (assigned packet nid.devaddr fcntDown.toUInt16) frame (tmst packet)
    plan.maxUplinkEIRP
  return (nid.devaddr,fcntDown,⟨gateway.socket,response⟩)

/-- Outcome of the reply to a join request. -/
structure JoinReply where
  /-- Stored counters afterwards; nothing when no history service is attached. -/
  history : Option Storage
  /-- The datagram sent, if the reply got that far. -/
  sendto : Option SendTo
  /-- Returned code. -/
  code : ℤ

/-- `PacketQueue::replyJoinRequest`. -/
def replyJoinRequest (env : JoinEnvironment) (history : Option Storage) (item : SemtechUDPPacketItem)
    (t : Timeval) : JoinReply :=
  match acceptJoin env history item.packet with
  | .error code => ⟨history,none,code⟩
  | .ok (devaddr,fcntDown,sent) =>
    ⟨history.map fun storage => putDown storage devaddr t.tvSec fcntDown,some sent,LORA_OK⟩

/-- The guards about plan and gateway pass exactly when there is a plan and the
best gateway has an open socket. -/
theorem joinTarget_ok_iff (env : JoinEnvironment) (packet : SemtechUDPPacket) (plan : JoinPlan)
    (gateway : GatewayStat) :
    joinTarget env packet=.ok (plan,gateway) ↔ env.defaultPlan=some plan ∧ getBestGatewayAddress packet≠0 ∧
      gateway.socket≠0 ∧
      ∃ gateways,env.gatewayList=some gateways ∧ gateways[getBestGatewayAddress packet]?=some gateway := by
  unfold joinTarget
  cases hg : env.gatewayList with
  | none => simp only [reduceCtorEq,false_and,exists_false,and_false]
  | some gateways =>
    cases hp : env.defaultPlan with
    | none => simp only [reduceCtorEq,false_and]
    | some found =>
      dsimp only
      split_ifs with hb
      · simp only [hb,ne_eq,not_true_eq_false,false_and,and_false]
      · cases hf : gateways[getBestGatewayAddress packet]? with
        | none => simp only [reduceCtorEq,Option.some.injEq,exists_eq_left',hf,and_false]
        | some stat =>
          dsimp only
          split_ifs with hs
          · simp only [Option.some.injEq,exists_eq_left',hf,false_iff,not_and]
            rintro - - hne rfl
            exact hne hs
          · simp only [Except.ok.injEq,Prod.mk.injEq,Option.some.injEq,exists_eq_left',hf,ne_eq,hb,
              not_false_eq_true,true_and]
            exact ⟨fun h => ⟨h.1,h.2 ▸ hs,h.2⟩,fun h => ⟨h.1,h.2.2⟩⟩

/-- The guards about the device pass exactly for a request whose device is
stored with its join identifier. -/
theorem joinIdentity_ok_iff (env : JoinEnvironment) (packet : SemtechUDPPacket) (nid : NetworkIdentity) :
    joinIdentity env packet=.ok nid ↔ ∃ frame identityService,getJoinRequestFrame packet=some frame ∧
      env.identityService=some identityService ∧ identityService.getNetworkIdentity frame.devEUI=.ok nid ∧
      nid.appEUI=frame.joinEUI := by
  unfold joinIdentity
  constructor
  · intro h
    split at h
    · cases h
    · next frame hf =>
      split at h
      · cases h
      · next identityService hs =>
        split at h
        · cases h
        · next found hn =>
          split_ifs at h with he
          obtain rfl := Except.ok.inj h
          exact ⟨frame,identityService,hf,hs,hn,not_not.mp he⟩
  · rintro ⟨frame,identityService,hf,hs,hn,he⟩
    simp only [hf,hs,hn,he,ne_eq,not_true_eq_false,if_false]

/-- Everything that a reply to a join request passes before it is sent. -/
theorem acceptJoin_ok_iff (env : JoinEnvironment) (history : Option Storage) (packet : SemtechUDPPacket)
    (devaddr : DEVADDR) (fcntDown : UInt32) (sent : SendTo) :
    acceptJoin env history packet=.ok (devaddr,fcntDown,sent) ↔ ∃ nid plan gateway hdr accepted,
      joinIdentity env packet=.ok nid ∧ joinTarget env packet=.ok (plan,gateway) ∧
      joinAccept env .blank nid=.ok (hdr,accepted) ∧ joinCounter history accepted.devaddr=.ok fcntDown ∧
      accepted.devaddr=devaddr ∧
      (⟨gateway.socket,mkJoinAcceptResponse (assigned packet accepted.devaddr fcntDown.toUInt16)
        (joinAcceptFrame env.crypto (joinSettings plan hdr) accepted.nwkKey) (tmst packet)
        plan.maxUplinkEIRP⟩ : SendTo)=sent := by
  have hm : ∀ nid result,(joinAccept env .blank nid).mapError (fun code => code.val)=.ok result ↔
      joinAccept env .blank nid=.ok result := by
    intro nid result
    cases joinAccept env .blank nid with
    | error code => simp only [Except.mapError,reduceCtorEq]
    | ok found => simp only [Except.mapError,Except.ok.injEq]
  unfold acceptJoin
  simp only [bind_eq_ok,hm,Prod.exists]
  constructor
  · rintro ⟨nid,hn,plan,gateway,ht,hdr,accepted,ha,counter,hc,he⟩
    simp only [pure,Except.pure,Except.ok.injEq,Prod.mk.injEq] at he
    obtain ⟨hd,rfl,hs⟩ := he
    exact ⟨nid,plan,gateway,hdr,accepted,hn,ht,ha,hc,hd,hs⟩
  · rintro ⟨nid,plan,gateway,hdr,accepted,hn,ht,ha,hc,rfl,rfl⟩
    exact ⟨nid,hn,plan,gateway,ht,hdr,accepted,ha,fcntDown,hc,rfl⟩

end LorawanServer.JoinReplies
