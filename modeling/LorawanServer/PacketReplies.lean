import LorawanServer.FrameBuilders
import LorawanServer.PacketHandler

/-!
# Replies of the packet queue

`PacketQueue::replyMAC` and `PacketQueue::replyControl` with a device history
service attached and a transport that takes whole datagrams. Each reply first
passes its guards in the order of the source, then reads the counter, builds
the datagram, sends it and stores the counter. The answers to MAC commands are
an arbitrary function of the packet.
-/

namespace LorawanServer.PacketReplies

open CppRuntime FrameCrypto Records DataFrame FrameBuilders DeviceHistory PacketHandler

/-- The gateway members that the replies read. -/
structure GatewayStat where
  /-- Gateway identifier. -/
  gatewayId : UInt64
  /-- Socket of the last pull request; zero before the first. -/
  socket : ℤ
  deriving DecidableEq,Repr

/-- What a reply finds around the queue. -/
structure Environment where
  /-- Keyed primitives. -/
  crypto : Crypto
  /-- Identity service. -/
  identityService : Option IdentityService
  /-- Gateway list. -/
  gatewayList : Option (Std.TreeMap UInt64 GatewayStat)
  /-- Channel plan of a device. -/
  channelPlan : DEVADDR → Option ChannelPlan
  /-- Answers to the MAC commands of a packet. -/
  mkResponseMACs : SemtechUDPPacket → Bytes
  /-- Content of an identity that no lookup filled. -/
  uninitialised : NetworkIdentity

/-- The literal `-3.402823466E+38f`, the least finite `float`. -/
def lowestFloat : ℚ := -(2^128-2^104)

/-- `SemtechUDPPacket::getBestGatewayAddress`: the first reception with the
greatest ratio, zero without receptions. -/
def getBestGatewayAddress (packet : SemtechUDPPacket) : UInt64 :=
  (packet.metadata.foldl (fun (best : ℚ×UInt64) reception =>
    if best.1<reception.lsnr then (reception.lsnr,reception.gatewayId) else best) (lowestFloat,0)).2

/-- `SemtechUDPPacket::tmst`. -/
def tmst (packet : SemtechUDPPacket) : UInt32 :=
  match packet.metadata with
  | [] => 0
  | reception::_ => reception.tmst

/-- One call of `sendto`. -/
structure SendTo where
  /-- Gateway socket. -/
  socket : ℤ
  /-- Datagram; nothing when the response is the empty string. -/
  response : Option PullResp
  deriving DecidableEq

/-- Outcome of a reply. -/
structure Reply where
  /-- Stored counters afterwards. -/
  storage : Storage
  /-- The datagram sent, if the reply got that far. -/
  sendto : Option SendTo
  /-- Returned code. -/
  code : ℤ

/-- The counter that a reply reads, zero when none is stored. -/
def readCounter (storage : Storage) (devaddr : DEVADDR) : UInt32 :=
  match get storage devaddr with
  | .ok item => item.fcntdown
  | .error _ => 0

/-- The guards of `replyMAC` up to the open socket. -/
def macTarget (env : Environment) (packet : SemtechUDPPacket) : Except ℤ (ChannelPlan×GatewayStat) :=
  match env.channelPlan packet.header.header.devaddr with
  | none => .error ERR_CODE_NO_REGION_BAND
  | some plan =>
    if getBestGatewayAddress packet=0 then .error ERR_CODE_BEST_GATEWAY_NOT_FOUND
    else match env.gatewayList with
      | none => .error ERR_CODE_WRONG_PARAM
      | some gateways =>
        if hasMACPayload packet=false then .error ERR_CODE_NO_MAC
        else match gateways[getBestGatewayAddress packet]? with
          | none => .error ERR_CODE_GATEWAY_NOT_FOUND
          | some gateway =>
            if gateway.socket=0 then .error ERR_CODE_GATEWAY_NO_YET_PULL_DATA else .ok (plan,gateway)

/-- `PacketQueue::replyMAC`. -/
def replyMAC (env : Environment) (storage : Storage) (item : SemtechUDPPacketItem) (t : Timeval) : Reply :=
  let devaddr := item.packet.header.header.devaddr
  match macTarget env item.packet with
  | .error code => ⟨storage,none,code⟩
  | .ok (plan,gateway) =>
    let id := (lookup env.identityService devaddr).getD DeviceId.empty
    let mrp := env.mkResponseMACs item.packet
    if mrp=[] then ⟨storage,none,LORA_OK⟩
    else
      let fcntdown := readCounter storage devaddr+1
      let response := mkPullResponse env.crypto item.packet mrp id (tmst item.packet)
        (toInt32 fcntdown.toNat) plan.maxUplinkEIRP
      ⟨putDown storage devaddr t.tvSec fcntdown,some ⟨gateway.socket,response⟩,LORA_OK⟩

/-- `CONTROL_DEVICE_HEADER` and the MAC commands behind it. -/
structure ControlDevicePacket where
  /-- Target device. -/
  eui : DEVEUI
  /-- Gateway to send through; zero means the best one. -/
  gwid : UInt64
  /-- MAC commands. -/
  data : Bytes
  deriving DecidableEq

/-- The control packet over a payload of at least eighteen bytes. -/
def controlPacket (payload : Bytes) : ControlDevicePacket where
  eui := UInt64.ofNat (leValue (payload.take 8))
  gwid := UInt64.ofNat (leValue ((payload.drop 8).take 8))
  data := payload.drop 17

/-- The guards of `replyControl`; the socket is not tested there. -/
def controlTarget (env : Environment) (packet : SemtechUDPPacket) : Except ℤ (ChannelPlan×GatewayStat) :=
  match env.channelPlan packet.header.header.devaddr with
  | none => .error ERR_CODE_NO_REGION_BAND
  | some plan =>
    match env.gatewayList with
    | none => .error ERR_CODE_WRONG_PARAM
    | some gateways =>
      if packet.payload.length<18 then .error ERR_CODE_INVALID_CONTROL_PACKET
      else
        let gwid := if (controlPacket packet.payload).gwid=0 then getBestGatewayAddress packet
          else (controlPacket packet.payload).gwid
        if gwid=0 then .error ERR_CODE_BEST_GATEWAY_NOT_FOUND
        else match gateways[gwid]? with
          | none => .error ERR_CODE_GATEWAY_NOT_FOUND
          | some gateway => .ok (plan,gateway)

/-- Identity of the target of a control packet. -/
def controlIdentity (env : Environment) (packet : SemtechUDPPacket) : NetworkIdentity :=
  match env.identityService with
  | none => env.uninitialised
  | some service =>
    match service.getNetworkIdentity (controlPacket packet.payload).eui with
    | .ok nid => nid
    | .error _ => env.uninitialised

/-- `PacketQueue::replyControl`. The call of `mkMACRequest` has one argument
less than its parameter list, so the counter is taken for the received time,
the power for the counter, and the default power 14 is used. -/
def replyControl (env : Environment) (storage : Storage) (item : SemtechUDPPacketItem) (t : Timeval) :
    Reply :=
  match controlTarget env item.packet with
  | .error code => ⟨storage,none,code⟩
  | .ok (plan,gateway) =>
    let nid := controlIdentity env item.packet
    let fCntDown := readCounter storage nid.devaddr+1
    let response := mkMACRequest env.crypto item.packet gateway.gatewayId
      (controlPacket item.packet.payload).data nid fCntDown plan.maxUplinkEIRP 14
    ⟨putDown storage item.packet.header.header.devaddr t.tvSec fCntDown,some ⟨gateway.socket,response⟩,
      LORA_OK⟩

/-- The radio frame in the datagram of a reply. -/
def Reply.frame (reply : Reply) : Option Bytes := do
  let sent ← reply.sendto
  let datagram ← sent.response
  return datagram.data

/-- The counter that a reply reads is the stored one. -/
theorem readCounter_eq (storage : Storage) (devaddr : DEVADDR) :
    readCounter storage devaddr=fcntdown storage devaddr := get_fcntdown storage devaddr

/-- A packet with a best gateway has a first reception. -/
theorem metadata_of_best {packet : SemtechUDPPacket} (h : getBestGatewayAddress packet≠0) :
    ∃ first rest,packet.metadata=first::rest := by
  cases hm : packet.metadata with
  | nil =>
    rw [getBestGatewayAddress,hm] at h
    exact absurd rfl h
  | cons first rest => exact ⟨first,rest,rfl⟩

/-- The guards of `replyMAC` pass exactly when device and gateway are there. -/
theorem macTarget_ok_iff (env : Environment) (packet : SemtechUDPPacket) (plan : ChannelPlan)
    (gateway : GatewayStat) :
    macTarget env packet=.ok (plan,gateway) ↔ env.channelPlan packet.header.header.devaddr=some plan ∧
      hasMACPayload packet=true ∧ getBestGatewayAddress packet≠0 ∧ gateway.socket≠0 ∧
      ∃ gateways,env.gatewayList=some gateways ∧ gateways[getBestGatewayAddress packet]?=some gateway := by
  unfold macTarget
  constructor
  · intro h
    split at h
    · cases h
    · next found hp =>
      split at h
      · cases h
      · next hb =>
        split at h
        · cases h
        · next gateways hl =>
          split at h
          · cases h
          · next hm =>
            split at h
            · cases h
            · next stat hg =>
              split_ifs at h with hs
              obtain ⟨rfl,rfl⟩ := Prod.mk.inj (Except.ok.inj h)
              exact ⟨hp,Bool.eq_true_of_not_eq_false hm,hb,hs,gateways,hl,hg⟩
  · rintro ⟨hp,hm,hb,hs,gateways,hl,hg⟩
    simp only [hp,hb,hl,hm,hg,hs,if_false,Bool.true_eq_false]

end LorawanServer.PacketReplies
