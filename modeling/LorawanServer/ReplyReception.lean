import LorawanServer.JoinReplies
import LorawanServer.ReplyCounters
import LorawanServer.SimulatedUplink

/-!
# Reception data of a reply

A reply goes out through the gateway with the best ratio, but `tmst` and
`toTxJsonString` take the first reception of the packet. The datagram fits its
gateway exactly when the first reception agrees with one of the best gateway in
time stamp, frequency, modulation, data rate and coding rate.
-/

namespace LorawanServer.ReplyReception

open CppRuntime FrameCrypto Records DataFrame FrameBuilders DeviceHistory PacketHandler PacketReplies
open JoinReplies ReplyCounters SimulatedUplink

/-- The time stamp that `toTxJsonString` derives from a reception; nothing means
at once. -/
def sendTime (tmst : UInt32) : Option UInt32 := if tmst=0 then none else some (tmst+1000000)

/-- Two receptions have the same texts for frequency, modulation, data rate and
coding rate. -/
def SameRadio (reception other : RfmMetaData) : Prop :=
  frequency reception=frequency other ∧ modulation reception=modulation other ∧ datr reception=datr other ∧
    codr reception=codr other

/-- The transmission in a datagram is derived from a reception. -/
def DerivedFrom (datagram : PullResp) (reception : RfmMetaData) : Prop :=
  datagram.tmst=sendTime reception.tmst ∧ SameRadio datagram.reception reception

/-- A datagram, if one is sent, goes to the best gateway of the packet and is
derived from a reception of that gateway. -/
def SentThroughBest (env : Environment) (packet : SemtechUDPPacket) (sendto : Option SendTo) : Prop :=
  ∀ sent,sendto=some sent → ∃ gateways gateway datagram,env.gatewayList=some gateways ∧
    gateways[getBestGatewayAddress packet]?=some gateway ∧ sent=⟨gateway.socket,some datagram⟩ ∧
    ∃ reception∈packet.metadata,reception.gatewayId=getBestGatewayAddress packet ∧ DerivedFrom datagram reception

/-- The first reception agrees with one of the best gateway. -/
def FirstAgrees (packet : SemtechUDPPacket) : Prop :=
  ∃ first∈packet.metadata.head?,∃ reception∈packet.metadata,
    reception.gatewayId=getBestGatewayAddress packet ∧ first.tmst=reception.tmst ∧ SameRadio first reception

/-- The best gateway of a packet has an open socket. -/
def BestReachable (env : Environment) (packet : SemtechUDPPacket) : Prop :=
  getBestGatewayAddress packet≠0 ∧ ∃ gateways gateway,env.gatewayList=some gateways ∧
    gateways[getBestGatewayAddress packet]?=some gateway ∧ gateway.socket≠0

/-- The MAC commands of a packet are answered: the device has a plan, its best
gateway can be reached and there is something to answer. -/
structure MacAnswered (env : Environment) (packet : SemtechUDPPacket) : Prop where
  /-- The device has a channel plan. -/
  plan : (env.channelPlan packet.header.header.devaddr).isSome
  /-- The packet has MAC commands. -/
  mac : hasMACPayload packet=true
  /-- The best gateway can be reached. -/
  gateway : BestReachable env packet
  /-- There is an answer. -/
  answer : env.mkResponseMACs packet≠[]

/-- The address that a device uses after its join: the stored one, or else a new
one. -/
def JoinAddress (env : JoinEnvironment) (nid : NetworkIdentity) (devaddr : DEVADDR) : Prop :=
  if nid.devaddr=0 then ∃ new,env.next nid=.ok new ∧ new.devaddr=devaddr else nid.devaddr=devaddr

/-- A join request is answered: its device is stored with its join identifier,
there is a default plan, the best gateway can be reached, and the history, if it
is attached, knows the address of the device. -/
structure JoinAnswered (env : JoinEnvironment) (history : Option Storage) (packet : SemtechUDPPacket) : Prop where
  /-- The device is known and has an address. -/
  device : ∃ frame identityService nid devaddr,getJoinRequestFrame packet=some frame ∧
    env.identityService=some identityService ∧ identityService.getNetworkIdentity frame.devEUI=.ok nid ∧
    nid.appEUI=frame.joinEUI ∧ JoinAddress env nid devaddr ∧
    ∀ storage,history=some storage → (storage[devaddr]?).isSome
  /-- There is a default plan. -/
  plan : env.defaultPlan.isSome
  /-- The best gateway can be reached. -/
  gateway : BestReachable env.toEnvironment packet

/-- What `replyMAC` sends. Without a history service its counter is zero, as it
is with an empty one. -/
def sentMAC (env : Environment) (history : Option Storage) (item : SemtechUDPPacketItem) (t : Timeval) :
    Option SendTo := (replyMAC env (history.getD ∅) item t).sendto

/-- Distinct time stamps are sent as distinct ones. -/
theorem sendTime_inj {tmst other : UInt32} (h : sendTime tmst=sendTime other) : tmst=other := by
  rw [sendTime,sendTime] at h
  split_ifs at h with h0 ho
  · rw [h0,ho]
  · exact UInt32.add_left_inj 1000000 |>.mp (Option.some.inj h)

/-- A datagram built from the packet and its time stamp fits the best gateway
exactly when the first reception agrees with one of it. -/
theorem sentThroughBest_iff {env : Environment} {packet sentPacket : SemtechUDPPacket}
    {gateways : Std.TreeMap UInt64 GatewayStat} {gateway : GatewayStat} (hl : env.gatewayList=some gateways)
    (hg : gateways[getBestGatewayAddress packet]?=some gateway) (hb : getBestGatewayAddress packet≠0)
    (hm : sentPacket.metadata=packet.metadata) (frame : Bytes) (power : ℤ) :
    SentThroughBest env packet
        (some ⟨gateway.socket,toTxJsonString sentPacket frame (tmst packet) power⟩) ↔ FirstAgrees packet := by
  obtain ⟨first,rest,hfirst⟩ := metadata_of_best hb
  have htmst : tmst packet=first.tmst := by
    rw [tmst,hfirst]
  have hhead : packet.metadata.head?=some first := by
    rw [hfirst]
    rfl
  obtain ⟨datagram,hd⟩ := toTxJsonString_isSome (by rw [hm,hfirst]; exact List.cons_ne_nil _ _)
    frame (tmst packet) power
  have hderived : datagram.tmst=sendTime first.tmst ∧ datagram.reception=first := by
    rw [toTxJsonString,hm,hfirst,htmst] at hd
    rw [←Option.some.inj hd]
    exact ⟨rfl,rfl⟩
  rw [hd]
  constructor
  · intro h
    obtain ⟨gateways',gateway',datagram',-,-,hs,reception,hr,hid,hf⟩ := h _ rfl
    obtain ⟨-,hs⟩ := SendTo.mk.inj hs
    rw [←Option.some.inj hs,DerivedFrom,hderived.1,hderived.2] at hf
    exact ⟨first,hhead,reception,hr,hid,sendTime_inj hf.1,hf.2⟩
  · rintro ⟨first',hf',reception,hr,hid,ht,hradio⟩ sent hs
    rw [hhead] at hf'
    obtain rfl := Option.some.inj hf'
    refine ⟨gateways,gateway,datagram,hl,hg,(Option.some.inj hs).symm,reception,hr,hid,?_,?_⟩
    · rw [hderived.1,ht]
    · rw [hderived.2]
      exact hradio

/-- Nothing is sent to a wrong gateway when nothing is sent. -/
theorem sentThroughBest_none (env : Environment) (packet : SemtechUDPPacket) :
    SentThroughBest env packet none := by
  intro sent h
  cases h

/-- Every outcome of `replyMAC`: nothing is sent because a condition is missing,
or a datagram for the best gateway is. -/
theorem sentMAC_cases (env : Environment) (history : Option Storage) (item : SemtechUDPPacketItem) (t : Timeval) :
    (¬MacAnswered env item.packet ∧ sentMAC env history item t=none) ∨
      (MacAnswered env item.packet ∧ ∃ gateways gateway frame power,env.gatewayList=some gateways ∧
        gateways[getBestGatewayAddress item.packet]?=some gateway ∧
        sentMAC env history item t=
          some ⟨gateway.socket,toTxJsonString item.packet frame (tmst item.packet) power⟩) := by
  cases ht : macTarget env item.packet with
  | error code =>
    left
    constructor
    · rintro ⟨hp,hm,⟨hb,gateways,gateway,hl,hg,hs⟩,-⟩
      obtain ⟨plan,hp⟩ := Option.isSome_iff_exists.mp hp
      rw [(macTarget_ok_iff env item.packet plan gateway).mpr ⟨hp,hm,hb,hs,gateways,hl,hg⟩] at ht
      cases ht
    · simp only [sentMAC,replyMAC,ht]
  | ok target =>
    obtain ⟨hp,hm,hb,hs,gateways,hl,hg⟩ := (macTarget_ok_iff env item.packet target.1 target.2).mp ht
    by_cases hr : env.mkResponseMACs item.packet=[]
    · left
      refine ⟨fun h => h.answer hr,?_⟩
      simp only [sentMAC,replyMAC,ht,hr,if_true]
    · right
      refine ⟨⟨Option.isSome_iff_exists.mpr ⟨_,hp⟩,hm,⟨hb,gateways,target.2,hl,hg,hs⟩,hr⟩,
        gateways,target.2,?_⟩
      simp only [sentMAC,replyMAC,ht,hr,if_false,mkPullResponse]
      exact ⟨_,_,hl,hg,rfl⟩

/-- An answer to MAC commands fits its gateway exactly when none is sent or the
first reception agrees with one of that gateway. -/
theorem sentMAC_through_best_iff (env : Environment) (history : Option Storage) (item : SemtechUDPPacketItem)
    (t : Timeval) :
    SentThroughBest env item.packet (sentMAC env history item t) ↔
      (MacAnswered env item.packet → FirstAgrees item.packet) := by
  rcases sentMAC_cases env history item t with ⟨hn,hs⟩ | ⟨ha,gateways,gateway,frame,power,hl,hg,hs⟩
  · rw [hs]
    exact iff_of_true (sentThroughBest_none env item.packet) fun ha => absurd ha hn
  · rw [hs,sentThroughBest_iff hl hg ha.gateway.1 rfl]
    exact ⟨fun h _ => h,fun h => h ha⟩

/-- The identity service accepts a device exactly when it has an address for it. -/
theorem joinAccept_iff (env : JoinEnvironment) (retval : JoinAcceptFrameHeader) (nid : NetworkIdentity)
    (devaddr : DEVADDR) :
    (∃ hdr accepted,joinAccept env retval nid=.ok (hdr,accepted) ∧ accepted.devaddr=devaddr) ↔
      JoinAddress env nid devaddr := by
  rw [JoinAddress]
  unfold joinAccept
  split_ifs with h0
  · cases hn : env.next nid with
    | error code => simp only [reduceCtorEq,false_and,exists_false]
    | ok new =>
      simp only [Except.ok.injEq,Prod.mk.injEq,exists_eq_left']
      constructor
      · rintro ⟨hdr,accepted,⟨-,rfl⟩,ha⟩
        exact ha
      · exact fun ha => ⟨_,_,⟨rfl,rfl⟩,ha⟩
  · simp only [Except.ok.injEq,Prod.mk.injEq]
    constructor
    · rintro ⟨hdr,accepted,⟨-,rfl⟩,ha⟩
      exact ha
    · exact fun ha => ⟨_,_,⟨rfl,rfl⟩,ha⟩

/-- The counter of a join is known exactly when an attached history knows the
address. -/
theorem joinCounter_iff (history : Option Storage) (devaddr : DEVADDR) :
    (∃ fcntDown,joinCounter history devaddr=.ok fcntDown) ↔
      ∀ storage,history=some storage → (storage[devaddr]?).isSome := by
  cases history with
  | none => exact iff_of_true ⟨0,rfl⟩ fun storage h => absurd h (Option.some_ne_none storage).symm
  | some storage =>
    simp only [joinCounter,DeviceHistory.get,Option.some.injEq,forall_eq']
    cases storage[devaddr]? with
    | none => simp only [reduceCtorEq,exists_false,Option.isSome_none,Bool.false_eq_true]
    | some item => simp only [Except.ok.injEq,exists_eq',Option.isSome_some]

/-- A join request is answered exactly when `replyJoinRequest` gets to its
datagram. -/
theorem joinAnswered_iff (env : JoinEnvironment) (history : Option Storage) (packet : SemtechUDPPacket) :
    JoinAnswered env history packet ↔
      ∃ devaddr fcntDown sent,acceptJoin env history packet=.ok (devaddr,fcntDown,sent) := by
  simp only [acceptJoin_ok_iff]
  constructor
  · rintro ⟨⟨frame,identityService,nid,devaddr,hf,hi,hn,he,ha,hc⟩,hp,hb,gateways,gateway,hl,hg,hs⟩
    obtain ⟨plan,hp⟩ := Option.isSome_iff_exists.mp hp
    obtain ⟨hdr,accepted,hacc,rfl⟩ := (joinAccept_iff env .blank nid devaddr).mpr ha
    obtain ⟨fcntDown,hc⟩ := (joinCounter_iff history accepted.devaddr).mpr hc
    exact ⟨_,_,_,nid,plan,gateway,hdr,accepted,
      (joinIdentity_ok_iff env packet nid).mpr ⟨frame,identityService,hf,hi,hn,he⟩,
      (joinTarget_ok_iff env packet plan gateway).mpr ⟨hp,hb,hs,gateways,hl,hg⟩,hacc,hc,rfl,rfl⟩
  · rintro ⟨devaddr,fcntDown,sent,nid,plan,gateway,hdr,accepted,hn,ht,ha,hc,-,-⟩
    obtain ⟨frame,identityService,hf,hi,hn,he⟩ := (joinIdentity_ok_iff env packet nid).mp hn
    obtain ⟨hp,hb,hs,gateways,hl,hg⟩ := (joinTarget_ok_iff env packet plan gateway).mp ht
    exact ⟨⟨frame,identityService,nid,accepted.devaddr,hf,hi,hn,he,
      (joinAccept_iff env .blank nid _).mp ⟨hdr,accepted,ha,rfl⟩,(joinCounter_iff history _).mp ⟨_,hc⟩⟩,
      Option.isSome_iff_exists.mpr ⟨plan,hp⟩,hb,gateways,gateway,hl,hg,hs⟩

/-- Every outcome of `replyJoinRequest`: nothing is sent because a condition is
missing, or a datagram for the best gateway is. -/
theorem replyJoinRequest_cases (env : JoinEnvironment) (history : Option Storage) (item : SemtechUDPPacketItem)
    (t : Timeval) :
    (¬JoinAnswered env history item.packet ∧ (replyJoinRequest env history item t).sendto=none) ∨
      (JoinAnswered env history item.packet ∧ ∃ gateways gateway sentPacket frame power,
        env.gatewayList=some gateways ∧ gateways[getBestGatewayAddress item.packet]?=some gateway ∧
        sentPacket.metadata=item.packet.metadata ∧ (replyJoinRequest env history item t).sendto=
          some ⟨gateway.socket,toTxJsonString sentPacket frame (tmst item.packet) power⟩) := by
  cases ha : acceptJoin env history item.packet with
  | error code =>
    left
    refine ⟨fun h => ?_,by simp only [replyJoinRequest,ha]⟩
    obtain ⟨devaddr,fcntDown,sent,hs⟩ := (joinAnswered_iff env history item.packet).mp h
    rw [ha] at hs
    cases hs
  | ok result =>
    right
    refine ⟨(joinAnswered_iff env history item.packet).mpr ⟨_,_,_,ha⟩,?_⟩
    obtain ⟨nid,plan,gateway,hdr,accepted,-,ht,-,-,-,hs⟩ := (acceptJoin_ok_iff _ _ _ _ _ _).mp ha
    obtain ⟨-,-,-,gateways,hl,hg⟩ := (joinTarget_ok_iff env item.packet plan gateway).mp ht
    refine ⟨gateways,gateway,assigned item.packet accepted.devaddr result.2.1.toUInt16,
      joinAcceptFrame env.crypto (joinSettings plan hdr) accepted.nwkKey,plan.maxUplinkEIRP,hl,hg,rfl,?_⟩
    simp only [replyJoinRequest,ha]
    exact congrArg some hs.symm

/-- So does a join accept. -/
theorem sentJoin_through_best_iff (env : JoinEnvironment) (history : Option Storage)
    (item : SemtechUDPPacketItem) (t : Timeval) :
    SentThroughBest env.toEnvironment item.packet (replyJoinRequest env history item t).sendto ↔
      (JoinAnswered env history item.packet → FirstAgrees item.packet) := by
  rcases replyJoinRequest_cases env history item t with
    ⟨hn,hs⟩ | ⟨ha,gateways,gateway,sentPacket,frame,power,hl,hg,hm,hs⟩
  · rw [hs]
    exact iff_of_true (sentThroughBest_none _ item.packet) fun ha => absurd ha hn
  · rw [hs,sentThroughBest_iff hl hg ha.gateway.1 hm]
    exact ⟨fun h _ => h,fun h => h ha⟩

/-- Both replies to an item fit the gateway they go through exactly when the
reply is not sent or the first reception of the packet agrees with one of its
best gateway. -/
theorem replies_fit_gateway_iff (env : JoinEnvironment) (history : Option Storage) (item : SemtechUDPPacketItem)
    (t : Timeval) :
    (SentThroughBest env.toEnvironment item.packet (sentMAC env.toEnvironment history item t) ↔
        (MacAnswered env.toEnvironment item.packet → FirstAgrees item.packet)) ∧
      (SentThroughBest env.toEnvironment item.packet (replyJoinRequest env history item t).sendto ↔
        (JoinAnswered env history item.packet → FirstAgrees item.packet)) :=
  ⟨sentMAC_through_best_iff env.toEnvironment history item t,sentJoin_through_best_iff env history item t⟩

/-- Services with two gateways that give address 1 to every device. -/
def twoGateways : JoinEnvironment where
  toEnvironment := {sampleEnvironment with
    gatewayList := some (((∅ : Std.TreeMap UInt64 GatewayStat).insert 7 ⟨7,3⟩).insert 8 ⟨8,4⟩)}
  netid := Vector.replicate 3 0
  next nid := .ok {nid with devaddr := 1}
  defaultPlan := some ⟨⟨869525000,14⟩,1,0⟩

/-- A packet that both gateways received, the second one better and later. -/
def twoReceptions : SemtechUDPPacket :=
  {sampleUplink with metadata := [
    {RfmMetaData.initial 0 1000 with gatewayId := 7,lsnr := 1},
    {RfmMetaData.initial 0 5000 with gatewayId := 8,lsnr := 6}]}

/-- The first reception of that packet disagrees with the one of its best
gateway. -/
theorem not_firstAgrees_twoReceptions : ¬FirstAgrees twoReceptions := by
  have hbest : getBestGatewayAddress twoReceptions=8 := by decide +kernel
  rintro ⟨first,hf,reception,hr,hid,ht,-⟩
  obtain rfl := Option.some.inj hf
  rw [hbest] at hid
  rcases List.mem_cons.mp hr with rfl | hr
  · exact absurd hid (by decide)
  · obtain rfl := List.mem_singleton.mp hr
    exact absurd ht (by decide)

/-- The answer to that packet goes through gateway 8 with the time stamp of
gateway 7, and so does a join accept. -/
theorem reply_mixes_receptions :
    ¬SentThroughBest twoGateways.toEnvironment twoReceptions
        (sentMAC twoGateways.toEnvironment none ⟨.replyMac,⟨0,0⟩,twoReceptions⟩ ⟨0,0⟩) ∧
      ¬SentThroughBest twoGateways.toEnvironment {twoReceptions with payload := List.replicate 18 0}
        (replyJoinRequest twoGateways none
          ⟨.joinResponse,⟨0,0⟩,{twoReceptions with payload := List.replicate 18 0}⟩ ⟨0,0⟩).sendto := by
  constructor
  · intro h
    refine not_firstAgrees_twoReceptions ((sentMAC_through_best_iff _ _ _ _).mp h ?_)
    exact ⟨rfl,by decide +kernel,⟨by decide +kernel,_,⟨8,4⟩,rfl,by decide +kernel,by decide⟩,by decide⟩
  · intro h
    refine not_firstAgrees_twoReceptions ((sentJoin_through_best_iff _ _ _ _).mp h ?_)
    refine ⟨⟨⟨0,0,0⟩,_,⟨DeviceId.empty,0⟩,1,by decide +kernel,rfl,rfl,rfl,?_,?_⟩,rfl,by decide +kernel,_,⟨8,4⟩,rfl,
      by decide +kernel,by decide⟩
    · rw [JoinAddress,if_pos rfl]
      exact ⟨_,rfl,rfl⟩
    · intro storage hs
      cases hs

end LorawanServer.ReplyReception
