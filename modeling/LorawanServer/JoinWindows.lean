import LorawanServer.ReplyReception

/-!
# The windows of a join accept

`enqueueJoinResponse` moves one packet object to the first window, queues a
copy, moves the same object on to the second window and queues it again, and
`toTxJsonString` adds one second more. The items are due after five and six
seconds and carry the right frequencies, but the time stamps that are sent lie
six and twelve seconds behind the request.
-/

namespace LorawanServer.JoinWindows

open CppRuntime FrameCrypto Records DataFrame FrameBuilders DeviceHistory PacketHandler PacketReplies
open JoinReplies ReplyCounters ReplyReception

/-- The datagram that a reply to a join request sends. -/
def sentDatagram (reply : JoinReply) : Option PullResp := reply.sendto.bind (·.response)

/-- Frequency of the first reception. -/
def requestFreq (packet : SemtechUDPPacket) : UInt32 :=
  match packet.metadata with
  | [] => 0
  | reception::_ => reception.freq

/-- An item meets a window: it is due then, and every datagram sent for it has
the time stamp and the frequency of the window. -/
structure OnWindow (item : SemtechUDPPacketItem) (due : Timeval) (tmst freq : UInt32) : Prop where
  /-- When the item is due. -/
  due : item.time2send=due
  /-- What is sent for it, wherever and whenever that happens. -/
  sent : ∀ env history t datagram,sentDatagram (replyJoinRequest env history item t)=some datagram →
    datagram.tmst=some tmst ∧ datagram.reception.freq=freq

/-- The handler with a channel plan. -/
def withPlan (processor : LoraPacketProcessor) (plan : ChannelPlan) : LoraPacketProcessor :=
  {processor with deviceChannelPlan := some plan}

/-- The two items that a join request queues meet their windows. -/
def WindowsKept (processor : LoraPacketProcessor) (plan : ChannelPlan) (uninitialised : UInt32)
    (services : Services) (time : Timeval) (addr : DEVADDR) (value : SemtechUDPPacket) : Prop :=
  ∀ services' value',
    enqueueJoinResponse (withPlan processor plan) uninitialised services time addr value=.ok (services',value') →
    ∃ first second,services'.queue=services.queue++[first,second] ∧
      OnWindow first ⟨time.tvSec+joinAcceptDelay1,time.tvUsec⟩
        (tmst value+UInt32.ofInt (joinAcceptDelay1*1000000)) (requestFreq value) ∧
      OnWindow second ⟨time.tvSec+joinAcceptDelay2,time.tvUsec⟩
        (tmst value+UInt32.ofInt (joinAcceptDelay2*1000000)) plan.rx2Frequency

/-- No datagram is ever sent for a request: there is no logger, and the handler
stops, the packet has not the size of a join request or no best gateway. -/
def NeverSent (processor : LoraPacketProcessor) (value : SemtechUDPPacket) : Prop :=
  processor.onLog=false ∨ getJoinRequestFrame value=none ∨ getBestGatewayAddress value=0

/-- Services that answer a join request of any device with one join identifier
through one gateway. -/
def answering (joinEUI : DEVEUI) (gatewayId : UInt64) : JoinEnvironment where
  toEnvironment := {sampleEnvironment with
    identityService := some {constService DeviceId.empty with
      getNetworkIdentity := fun _ => .ok ⟨{DeviceId.empty with appEUI := joinEUI},1⟩}
    gatewayList := some ((∅ : Std.TreeMap UInt64 GatewayStat).insert gatewayId ⟨gatewayId,3⟩)}
  netid := Vector.replicate 3 0
  next nid := .ok nid
  defaultPlan := some ⟨⟨869525000,14⟩,1,0⟩

/-- These services answer. -/
theorem joinAnswered_answering {packet : SemtechUDPPacket} {frame : JoinRequestFrame}
    (hf : getJoinRequestFrame packet=some frame) (hb : getBestGatewayAddress packet≠0) :
    JoinAnswered (answering frame.joinEUI (getBestGatewayAddress packet)) none packet := by
  refine ⟨⟨frame,_,⟨{DeviceId.empty with appEUI := frame.joinEUI},1⟩,1,hf,rfl,rfl,rfl,?_,?_⟩,rfl,hb,_,
    ⟨getBestGatewayAddress packet,3⟩,rfl,?_,?_⟩
  · have hne : (1 : DEVADDR)≠0 := by decide
    rw [JoinAddress,if_neg hne]
  · exact fun storage h => absurd h (Option.some_ne_none storage).symm
  · exact Std.TreeMap.getElem?_insert_self
  · have hne : (3 : ℤ)≠0 := by decide
    exact hne

/-- What is sent for an item comes from its first reception. -/
theorem sentDatagram_eq {env : JoinEnvironment} {history : Option Storage} {item : SemtechUDPPacketItem}
    {t : Timeval} {datagram : PullResp} (h : sentDatagram (replyJoinRequest env history item t)=some datagram) :
    JoinAnswered env history item.packet ∧ datagram.tmst=sendTime (tmst item.packet) ∧
      datagram.reception.freq=requestFreq item.packet := by
  rcases replyJoinRequest_cases env history item t with
    ⟨-,hs⟩ | ⟨ha,gateways,gateway,sentPacket,frame,power,-,-,hm,hs⟩
  · rw [sentDatagram,hs] at h
    cases h
  · obtain ⟨first,rest,hfirst⟩ := metadata_of_best ha.gateway.1
    rw [sentDatagram,hs] at h
    change toTxJsonString sentPacket frame (tmst item.packet) power=some datagram at h
    rw [toTxJsonString,hm,hfirst] at h
    rw [←Option.some.inj h,requestFreq,hfirst]
    exact ⟨ha,rfl,rfl⟩

/-- A join request with a best gateway is answered by some services. -/
theorem exists_sentDatagram {item : SemtechUDPPacketItem} {frame : JoinRequestFrame}
    (hf : getJoinRequestFrame item.packet=some frame) (hb : getBestGatewayAddress item.packet≠0) (t : Timeval) :
    ∃ env datagram,sentDatagram (replyJoinRequest env none item t)=some datagram := by
  refine ⟨answering frame.joinEUI (getBestGatewayAddress item.packet),?_⟩
  rcases replyJoinRequest_cases (answering frame.joinEUI (getBestGatewayAddress item.packet)) none item t with
    ⟨hn,-⟩ | ⟨-,gateways,gateway,sentPacket,answer,power,-,-,hm,hs⟩
  · exact absurd (joinAnswered_answering hf hb) hn
  · obtain ⟨first,rest,hfirst⟩ := metadata_of_best hb
    rw [sentDatagram,hs]
    refine toTxJsonString_isSome ?_ answer (tmst item.packet) power
    rw [hm,hfirst]
    exact List.cons_ne_nil _ _

/-- Moving a packet to a window changes neither its payload nor its best
gateway. -/
theorem setJoinAcceptDelay_keeps (processor : LoraPacketProcessor) (uninitialised : UInt32)
    (value : SemtechUDPPacket) (time : Timeval) (firstWindow : Bool) :
    (setJoinAcceptDelay processor uninitialised value time firstWindow).2.payload=value.payload ∧
      getBestGatewayAddress (setJoinAcceptDelay processor uninitialised value time firstWindow).2=
        getBestGatewayAddress value := by
  refine ⟨rfl,?_⟩
  dsimp only [setJoinAcceptDelay,getBestGatewayAddress]
  cases value.metadata with
  | nil => rfl
  | cons reception rest => rfl

/-- The time stamp and the frequency of a packet that was moved to a window. -/
theorem setJoinAcceptDelay_window (processor : LoraPacketProcessor) (plan : ChannelPlan) (uninitialised : UInt32)
    {value : SemtechUDPPacket} (hm : value.metadata≠[]) (time : Timeval) (firstWindow : Bool) :
    tmst (setJoinAcceptDelay (withPlan processor plan) uninitialised value time firstWindow).2=
        tmst value+UInt32.ofInt ((if firstWindow then joinAcceptDelay1 else joinAcceptDelay2)*1000000) ∧
      requestFreq (setJoinAcceptDelay (withPlan processor plan) uninitialised value time firstWindow).2=
        if firstWindow then requestFreq value else plan.rx2Frequency := by
  obtain ⟨reception,rest,hm⟩ := List.exists_cons_of_ne_nil hm
  simp only [setJoinAcceptDelay,withPlan,tmst,requestFreq,hm,and_self]

/-- Counting a response changes the counter of a packet and nothing else. -/
theorem countJoinResponse_packet (services : Services) (addr : DEVADDR) (time : Timeval)
    (value : SemtechUDPPacket) :
    (countJoinResponse services addr time value).2.payload=value.payload ∧
      (countJoinResponse services addr time value).2.metadata=value.metadata := by
  unfold countJoinResponse
  split
  · exact ⟨rfl,rfl⟩
  · exact ⟨rfl,rfl⟩

/-- How an item of a join request stands to the request: when it is due, how far
its time stamp was moved and to which frequency. -/
structure Moved (value : SemtechUDPPacket) (item : SemtechUDPPacketItem) (due : Timeval) (shift freq : UInt32) :
    Prop where
  /-- When the item is due. -/
  due : item.time2send=due
  /-- It carries the request. -/
  payload : item.packet.payload=value.payload
  /-- Its best gateway is that of the request. -/
  best : getBestGatewayAddress item.packet=getBestGatewayAddress value
  /-- Its time stamp. -/
  tmst : value.metadata≠[] → tmst item.packet=tmst value+shift
  /-- Its frequency. -/
  freq : value.metadata≠[] → requestFreq item.packet=freq

/-- The first item is moved to its window, the second one through both. -/
theorem joinAnswers_moved (processor : LoraPacketProcessor) (plan : ChannelPlan) (uninitialised : UInt32)
    (services : Services) (time : Timeval) (addr : DEVADDR) (value : SemtechUDPPacket) :
    ∃ first second,joinAnswers (withPlan processor plan) uninitialised services time addr value=[first,second] ∧
      Moved value first ⟨time.tvSec+joinAcceptDelay1,time.tvUsec⟩
        (UInt32.ofInt (joinAcceptDelay1*1000000)) (requestFreq value) ∧
      Moved value second ⟨time.tvSec+joinAcceptDelay2,time.tvUsec⟩
        (UInt32.ofInt (joinAcceptDelay1*1000000)+UInt32.ofInt (joinAcceptDelay2*1000000)) plan.rx2Frequency := by
  -- the packet object after each of the four statements that change it
  let moved1 := (setJoinAcceptDelay (withPlan processor plan) uninitialised value time true).2
  let counted1 := countJoinResponse services addr time moved1
  let counted2 := countJoinResponse counted1.1 addr time counted1.2
  let moved2 := (setJoinAcceptDelay (withPlan processor plan) uninitialised counted2.2 time false).2
  obtain ⟨hp1,hb1⟩ := setJoinAcceptDelay_keeps (withPlan processor plan) uninitialised value time true
  obtain ⟨hpc1,hmc1⟩ := countJoinResponse_packet services addr time moved1
  obtain ⟨hpc2,hmc2⟩ := countJoinResponse_packet counted1.1 addr time counted1.2
  obtain ⟨hp2,hb2⟩ := setJoinAcceptDelay_keeps (withPlan processor plan) uninitialised counted2.2 time false
  have htmst : ∀ {packet other : SemtechUDPPacket},packet.metadata=other.metadata →
      PacketReplies.tmst packet=PacketReplies.tmst other ∧ requestFreq packet=requestFreq other ∧
      getBestGatewayAddress packet=getBestGatewayAddress other := by
    intro packet other h
    simp only [PacketReplies.tmst,requestFreq,getBestGatewayAddress,h,and_self]
  have hne : value.metadata≠[] → counted2.2.metadata≠[] := by
    intro hv
    obtain ⟨reception,rest,hr⟩ := List.exists_cons_of_ne_nil hv
    rw [hmc2,hmc1]
    simp only [moved1,setJoinAcceptDelay,hr,ne_eq,reduceCtorEq,not_false_eq_true]
  refine ⟨_,_,rfl,⟨rfl,hpc1.trans hp1,(htmst hmc1).2.2.trans hb1,?_,?_⟩,
    ⟨rfl,hp2.trans (hpc2.trans (hpc1.trans hp1)),?_,?_,?_⟩⟩
  · intro hv
    exact (htmst hmc1).1.trans (setJoinAcceptDelay_window processor plan uninitialised hv time true).1
  · intro hv
    exact (htmst hmc1).2.1.trans (setJoinAcceptDelay_window processor plan uninitialised hv time true).2
  · exact hb2.trans ((htmst (hmc2.trans hmc1)).2.2.trans hb1)
  · intro hv
    rw [←UInt32.add_assoc]
    refine (setJoinAcceptDelay_window processor plan uninitialised (hne hv) time false).1.trans ?_
    refine congrArg (·+UInt32.ofInt (joinAcceptDelay2*1000000)) ?_
    exact (htmst (hmc2.trans hmc1)).1.trans (setJoinAcceptDelay_window processor plan uninitialised hv time true).1
  · intro hv
    exact (setJoinAcceptDelay_window processor plan uninitialised (hne hv) time false).2

/-- With one second added when it is sent, a moved item meets its window only if
nothing is ever sent for it. -/
theorem onWindow_iff {value : SemtechUDPPacket} {item : SemtechUDPPacketItem} {due : Timeval}
    {shift delay freq : UInt32} (h : Moved value item due shift freq) (hne : shift+1000000≠delay) :
    OnWindow item due (tmst value+delay) freq ↔
      getJoinRequestFrame value=none ∨ getBestGatewayAddress value=0 := by
  have hframe : getJoinRequestFrame item.packet=getJoinRequestFrame value := by
    simp only [getJoinRequestFrame,h.payload]
  constructor
  · intro hw
    by_contra hn
    rw [not_or] at hn
    obtain ⟨frame,hf⟩ := Option.ne_none_iff_exists'.mp hn.1
    have hb : getBestGatewayAddress item.packet≠0 := by
      rw [h.best]
      exact hn.2
    obtain ⟨env,datagram,hd⟩ := exists_sentDatagram (hframe.trans hf) hb ⟨0,0⟩
    have hm : value.metadata≠[] := by
      obtain ⟨first,rest,hm⟩ := metadata_of_best hn.2
      rw [hm]
      exact List.cons_ne_nil first rest
    have ht := (hw.sent _ _ _ _ hd).1
    rw [(sentDatagram_eq hd).2.1,h.tmst hm,sendTime] at ht
    split_ifs at ht
    have hs := Option.some.inj ht
    rw [UInt32.add_assoc] at hs
    exact hne ((UInt32.add_right_inj _).mp hs)
  · intro hn
    refine ⟨h.due,fun env history t datagram hd => ?_⟩
    obtain ⟨⟨⟨frame,-,-,-,hf,-⟩,-,hb,-⟩,-⟩ := sentDatagram_eq hd
    rw [hframe] at hf
    rw [h.best] at hb
    rcases hn with hn | hn
    · rw [hn] at hf
      cases hf
    · exact absurd hn hb

/-- A request whose items meet their windows is never answered. -/
theorem WindowsKept.neverSent {processor : LoraPacketProcessor} {plan : ChannelPlan} {uninitialised : UInt32}
    {services : Services} {time : Timeval} {addr : DEVADDR} {value : SemtechUDPPacket}
    (h : WindowsKept processor plan uninitialised services time addr value) : NeverSent processor value := by
  obtain ⟨first,second,hanswers,hfirst,-⟩ :=
    joinAnswers_moved processor plan uninitialised services time addr value
  cases hlog : processor.onLog with
  | false => exact Or.inl hlog
  | true =>
    right
    have hplan : (withPlan processor plan).onLog=true := hlog
    obtain ⟨services',value',he⟩ := enqueueJoinResponse_logged hplan uninitialised services time addr value
    obtain ⟨first',second',hq,hw,-⟩ := h services' value' he
    have hsame := List.append_cancel_left (hq.symm.trans (enqueueJoinResponse_queue he))
    rw [hanswers] at hsame
    rw [(List.cons.inj hsame).1] at hw
    exact (onWindow_iff hfirst (by decide)).mp hw

/-- The two items of a join request meet their windows exactly when no datagram
is ever sent for them. -/
theorem join_windows_kept_iff (processor : LoraPacketProcessor) (plan : ChannelPlan) (uninitialised : UInt32)
    (services : Services) (time : Timeval) (addr : DEVADDR) (value : SemtechUDPPacket) :
    WindowsKept processor plan uninitialised services time addr value ↔ NeverSent processor value := by
  refine ⟨WindowsKept.neverSent,fun hn services' value' he => ?_⟩
  obtain ⟨first,second,hanswers,hfirst,hsecond⟩ :=
    joinAnswers_moved processor plan uninitialised services time addr value
  have hq := enqueueJoinResponse_queue he
  rw [hanswers] at hq
  rcases hn with hlog | hn
  · have hplan : (withPlan processor plan).onLog=false := hlog
    rw [enqueueJoinResponse_unlogged hplan] at he
    cases he
  · exact ⟨first,second,hq,(onWindow_iff hfirst (by decide)).mpr hn,(onWindow_iff hsecond (by decide)).mpr hn⟩

/-- A join request that gateway 7 received at its time stamp 1000000. -/
def sampleJoin : SemtechUDPPacket :=
  {SemtechUDPPacket.empty with
    metadata := [{RfmMetaData.initial 0 1000000 with gatewayId := 7}]
    payload := List.replicate 18 0}

/-- The windows of that request are missed. -/
theorem join_windows_missed :
    ¬WindowsKept ⟨some (constService DeviceId.empty),none,false,true,0⟩ ⟨869525000,14⟩ 0 ⟨none,[],[]⟩ ⟨0,0⟩ 1
      sampleJoin := by
  intro h
  rcases h.neverSent with hlog | hf | hb
  · exact absurd hlog (by decide)
  · exact absurd hf (by decide +kernel)
  · exact absurd hb (by decide +kernel)

end LorawanServer.JoinWindows
