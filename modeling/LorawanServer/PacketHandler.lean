import LorawanServer.DataFrame
import LorawanServer.DeviceHistory

/-!
# The packet handler

`LoraPacketProcessor` receives parsed packets from the listener and hands them
to the packet queue, the receiver queue and the device history. The services
are one record: the stored counters and, in order, everything pushed so far.
Several methods call the logger without testing the pointer; with no logger
these end in a null pointer fault.
-/

namespace LorawanServer.PacketHandler

open CppRuntime Records DataFrame DeviceHistory

/-- `struct timeval`. -/
structure Timeval where
  /-- Seconds. -/
  tvSec : ℤ
  /-- Microseconds. -/
  tvUsec : ℤ
  deriving DecidableEq,Repr

/-- `incTimeval`; a negative count of microseconds is not added. -/
def incTimeval (val : Timeval) (seconds usec : ℤ) : Timeval :=
  let sec := val.tvSec+seconds
  if 0<usec then
    if 1000000≤val.tvUsec+usec then ⟨sec+1,val.tvUsec+usec-1000000⟩ else ⟨sec,val.tvUsec+usec⟩
  else if usec<0 ∧ val.tvUsec<0 then ⟨sec-1,1000000+val.tvUsec⟩
  else ⟨sec,val.tvUsec⟩

/-- `ITEM_PROCESS_MODE`. -/
inductive ItemProcessMode where
  /-- Not set. -/
  | none
  /-- Acknowledgement. -/
  | ack
  /-- Answer to MAC commands. -/
  | replyMac
  /-- Join accept. -/
  | joinResponse
  /-- Control of the network service. -/
  | controlNs
  deriving DecidableEq,Repr

/-- `SemtechUDPPacketItem`. -/
structure SemtechUDPPacketItem where
  /-- What the sender does with the packet. -/
  processMode : ItemProcessMode
  /-- When it does so. -/
  time2send : Timeval
  /-- The packet. -/
  packet : SemtechUDPPacket
  deriving DecidableEq

/-- The channel plan members that the handler and the sender read. -/
structure ChannelPlan where
  /-- Frequency of the second receive window. -/
  rx2Frequency : UInt32
  /-- Transmission power, truncated to `int`. -/
  maxUplinkEIRP : ℤ
  deriving DecidableEq,Repr

/-- `RegionalParameterChannelPlan::joinAcceptDelay1`. -/
def joinAcceptDelay1 : ℤ := 5

/-- `RegionalParameterChannelPlan::joinAcceptDelay2`. -/
def joinAcceptDelay2 : ℤ := 6

/-- What the handler works on. -/
structure Services where
  /-- Stored counters; nothing when no history service is attached. -/
  history : Option Storage
  /-- Items pushed into the packet queue, oldest first. -/
  queue : List SemtechUDPPacketItem
  /-- Packets pushed into the receiver queue, oldest first. -/
  receiver : List (SemtechUDPPacket×Timeval)

/-- The configuration of a `LoraPacketProcessor`. -/
structure LoraPacketProcessor where
  /-- Identity service. -/
  identityService : Option IdentityService
  /-- Default channel plan. -/
  deviceChannelPlan : Option ChannelPlan
  /-- Whether a receiver queue is attached. -/
  receiverQueueService : Bool
  /-- Whether a logger is attached. -/
  onLog : Bool
  /-- Port of control packets; zero when none is reserved. -/
  reservedFPort : UInt8

/-- A call of the logger that does not test the pointer. -/
def log (processor : LoraPacketProcessor) : Except Fault Unit :=
  if processor.onLog then .ok () else .error .nullPointer

/-- `PacketQueue::push`, recorded in order. -/
def push (services : Services) (mode : ItemProcessMode) (time2send : Timeval) (value : SemtechUDPPacket) :
    Services :=
  {services with queue := services.queue++[⟨mode,time2send,value⟩]}

/-- `LoraPacketProcessor::enqueuePayload`. -/
def enqueuePayload (processor : LoraPacketProcessor) (services : Services) (time : Timeval)
    (value : SemtechUDPPacket) : Services×ℤ :=
  if processor.receiverQueueService then
    ({services with receiver := services.receiver++[(value,time)]},LORA_OK)
  else (services,ERR_CODE_INIT_QUEUE)

/-- `DEF_TIMEOUT_US`. -/
def defTimeoutUs : ℤ := 250*1000

/-- `LoraPacketProcessor::enqueueControl`. -/
def enqueueControl (processor : LoraPacketProcessor) (services : Services) (time : Timeval)
    (value : SemtechUDPPacket) : Except Fault Services := do
  log processor
  return push services .controlNs (incTimeval time 0 defTimeoutUs) value

/-- `LoraPacketProcessor::enqueueMAC`. -/
def enqueueMAC (processor : LoraPacketProcessor) (services : Services) (time : Timeval)
    (value : SemtechUDPPacket) : Except Fault Services := do
  log processor
  return push services .replyMac (incTimeval time 0 defTimeoutUs) value

/-- `SemtechUDPPacket::appendMACs`. -/
def appendMACs (packet : SemtechUDPPacket) (macsString : Bytes) : SemtechUDPPacket :=
  let szExists := (getMACs packet).length
  let szNew := szExists+macsString.length
  let fctrl := packet.header.header.fctrl
  if 15<szNew ∨ isPayloadMAC packet=true then
    {packet with
      payload := packet.payload++macsString
      header := {packet.header with
        fopts := Vector.replicate 15 0
        header := {packet.header.header with fctrl := setFoptslen fctrl 0}}}
  else
    {packet with header := {packet.header with
      fopts := overwrite packet.header.fopts (packet.header.fopts.toList.take szExists++macsString)
      header := {packet.header.header with fctrl := setFoptslen fctrl szNew}}}

/-- `LoraPacketProcessor::putMACRequests`: a DevStatusReq is added to the packet. -/
def putMACRequests (processor : LoraPacketProcessor) (value : SemtechUDPPacket) :
    Except Fault SemtechUDPPacket := do
  log processor
  return appendMACs value [6]

/-- The counter of the uplink is stored when a history service is attached. -/
def countUplink (services : Services) (time : Timeval) (packet : SemtechUDPPacket) : Services :=
  let header := packet.header.header
  {services with
    history := services.history.map fun storage =>
      putUp storage header.devaddr time.tvSec header.fcnt.toUInt32}

/-- An application payload goes to the receiver queue. -/
def storePayload (processor : LoraPacketProcessor) (services : Services) (time : Timeval)
    (packet : SemtechUDPPacket) : Services :=
  if hasApplicationPayload packet then (enqueuePayload processor services time packet).1 else services

/-- The part of `LoraPacketProcessor::put` for an identified device. -/
def putIdentified (processor : LoraPacketProcessor) (identityService : IdentityService)
    (services : Services) (time : Timeval) (packet : SemtechUDPPacket) :
    Except Fault (Services×SemtechUDPPacket) := do
  if processor.reservedFPort≠0 ∧ packet.header.fport=processor.reservedFPort then
    if identityService.canControlService packet.header.header.devaddr=true ∧ processor.onLog=true then
      let services ← enqueueControl processor services time packet
      return (services,packet)
    else return (services,packet)
  else
    let services := countUplink services time packet
    let services := storePayload processor services time packet
    if hasMACPayload packet then
      let services ← enqueueMAC processor services time packet
      return (services,packet)
    else
      let packet ← putMACRequests processor packet
      return (services,packet)

/-- `LoraPacketProcessor::put`. -/
def put (processor : LoraPacketProcessor) (services : Services) (time : Timeval)
    (packet : SemtechUDPPacket) : Except Fault (Services×SemtechUDPPacket×ℤ) :=
  match processor.identityService with
  | none => .ok (services,packet,ERR_CODE_INIT_IDENTITY)
  | some identityService =>
    match identityService.get packet.header.header.devaddr with
    | .error code => .ok (services,packet,code.val)
    | .ok id => do
      let (services,packet) ← putIdentified processor identityService services time {packet with devId := id}
      return (services,packet,LORA_OK)

/-- `JOIN_REQUEST_FRAME`. -/
structure JoinRequestFrame where
  /-- Join server identifier. -/
  joinEUI : DEVEUI
  /-- Device identifier. -/
  devEUI : DEVEUI
  /-- Device nonce. -/
  devNonce : UInt16
  deriving DecidableEq,Repr

/-- `SemtechUDPPacket::getJoinRequestFrame`: the payload must have the size of
the frame. -/
def getJoinRequestFrame (packet : SemtechUDPPacket) : Option JoinRequestFrame :=
  if packet.payload.length=18 then some {
    joinEUI := UInt64.ofNat (leValue (packet.payload.take 8))
    devEUI := UInt64.ofNat (leValue ((packet.payload.drop 8).take 8))
    devNonce := UInt16.ofNat (leValue (packet.payload.drop 16))}
  else none

/-- `LoraPacketProcessor::setJoinAcceptDelay`: time to send and the first
reception moved to the window. Without a plan the frequency is the content of
an uninitialised variable. -/
def setJoinAcceptDelay (processor : LoraPacketProcessor) (uninitialised : UInt32) (value : SemtechUDPPacket)
    (time : Timeval) (firstWindow : Bool) : Timeval×SemtechUDPPacket :=
  let delaySecs := match processor.deviceChannelPlan with
    | none => if firstWindow then 5 else 6
    | some _ => if firstWindow then joinAcceptDelay1 else joinAcceptDelay2
  let frequency (reception : RfmMetaData) := match processor.deviceChannelPlan with
    | none => uninitialised
    | some plan => if firstWindow then reception.freq else plan.rx2Frequency
  let metadata := match value.metadata with
    | [] => []
    | reception::rest => {reception with
      tmst := reception.tmst+UInt32.ofInt (delaySecs*1000000)
      t := reception.t+delaySecs
      freq := frequency reception}::rest
  (incTimeval time delaySecs 0,{value with metadata := metadata})

/-- The two statements that count a join response and store the counter in the
packet. -/
def countJoinResponse (services : Services) (addr : DEVADDR) (time : Timeval) (value : SemtechUDPPacket) :
    Services×SemtechUDPPacket :=
  match services.history with
  | none => (services,value)
  | some storage =>
    let counted := incrementDown storage addr time.tvSec
    ({services with history := some counted.1},
      {value with header := {value.header with header := {value.header.header with
        fcnt := counted.2.toUInt16}}})

/-- `LoraPacketProcessor::enqueueJoinResponse`: one item for each window. -/
def enqueueJoinResponse (processor : LoraPacketProcessor) (uninitialised : UInt32) (services : Services)
    (time : Timeval) (addr : DEVADDR) (value : SemtechUDPPacket) :
    Except Fault (Services×SemtechUDPPacket) := do
  let (t,value) := setJoinAcceptDelay processor uninitialised value time true
  let (services,value) := countJoinResponse services addr time value
  let services := push services .joinResponse t value
  let (services,value) := countJoinResponse services addr time value
  let (t,value) := setJoinAcceptDelay processor uninitialised value time false
  let services := push services .joinResponse t value
  log processor
  return (services,value)

/-- `LoraPacketProcessor::join`. -/
def join (processor : LoraPacketProcessor) (uninitialised : UInt32) (services : Services) (time : Timeval)
    (packet : SemtechUDPPacket) : Except Fault (Services×SemtechUDPPacket×ℤ) :=
  match processor.identityService,getJoinRequestFrame packet with
  | none,_ => .ok (services,packet,ERR_CODE_INIT_IDENTITY)
  | some _,none => .ok (services,packet,ERR_CODE_BAD_JOIN_REQUEST)
  | some identityService,some frame =>
    match identityService.getNetworkIdentity frame.devEUI with
    | .error code => .ok (services,packet,code.val)
    | .ok networkIdentity => do
      let (services,packet) ← enqueueJoinResponse processor uninitialised services time
        networkIdentity.devaddr {packet with devId := networkIdentity.toDeviceId}
      return (services,packet,LORA_OK)

/-- Storing an application payload leaves the packet queue alone. -/
theorem storePayload_queue (processor : LoraPacketProcessor) (services : Services) (time : Timeval)
    (packet : SemtechUDPPacket) : (storePayload processor services time packet).queue=services.queue := by
  rw [storePayload]
  split
  · rw [enqueuePayload]
    split
    · rfl
    · rfl
  · rfl

/-- A packet for another port is pushed for a MAC answer or not at all. -/
theorem putIdentified_queue {processor : LoraPacketProcessor} {identityService : IdentityService}
    {services services' : Services} {time : Timeval} {packet packet' : SemtechUDPPacket}
    (hp : ¬(processor.reservedFPort≠0 ∧ packet.header.fport=processor.reservedFPort))
    (h : putIdentified processor identityService services time packet=.ok (services',packet')) :
    services'.queue=services.queue ∨
      services'.queue=services.queue++[⟨.replyMac,incTimeval time 0 defTimeoutUs,packet⟩] := by
  have hq := storePayload_queue processor (countUplink services time packet) time packet
  unfold putIdentified at h
  rw [if_neg hp] at h
  dsimp only at h
  split at h
  · rw [enqueueMAC,log] at h
    split at h
    · obtain ⟨rfl,rfl⟩ := Prod.mk.inj (Except.ok.inj h)
      right
      dsimp only [push]
      rw [hq]
      rfl
    · cases h
  · rw [putMACRequests,log] at h
    split at h
    · obtain ⟨rfl,rfl⟩ := Prod.mk.inj (Except.ok.inj h)
      left
      rw [hq]
      rfl
    · cases h

/-- Only the reserved port leads to the control queue. -/
theorem put_control_port {processor : LoraPacketProcessor} {services services' : Services}
    {time : Timeval} {packet packet' : SemtechUDPPacket} {code : ℤ}
    (hp : processor.reservedFPort=0 ∨ packet.header.fport≠processor.reservedFPort)
    (h : put processor services time packet=.ok (services',packet',code)) :
    ∀ item∈services'.queue,item∈services.queue ∨ item.processMode≠.controlNs := by
  unfold put at h
  split at h
  · obtain ⟨rfl,-⟩ := Prod.mk.inj (Except.ok.inj h)
    exact fun item hi => Or.inl hi
  · next identityService _ =>
    split at h
    · obtain ⟨rfl,-⟩ := Prod.mk.inj (Except.ok.inj h)
      exact fun item hi => Or.inl hi
    · next id _ =>
      obtain ⟨⟨stored,counted⟩,hput,he⟩ := bind_eq_ok.mp h
      obtain ⟨rfl,-⟩ := Prod.mk.inj (Except.ok.inj he)
      intro item hi
      have hport : ¬(processor.reservedFPort≠0 ∧
          ({packet with devId := id} : SemtechUDPPacket).header.fport=processor.reservedFPort) :=
        fun hc => hp.elim hc.1 (fun hne => hne hc.2)
      rcases putIdentified_queue hport hput with hq | hq
      · rw [hq] at hi
        exact Or.inl hi
      · rw [hq,List.mem_append,List.mem_singleton] at hi
        rcases hi with hi | rfl
        · exact Or.inl hi
        · exact Or.inr ItemProcessMode.noConfusion

/-- A join response is queued as long as there is a logger. -/
theorem enqueueJoinResponse_logged {processor : LoraPacketProcessor} (hlog : processor.onLog=true)
    (uninitialised : UInt32) (services : Services) (time : Timeval) (addr : DEVADDR) (value : SemtechUDPPacket) :
    ∃ services' value',
      enqueueJoinResponse processor uninitialised services time addr value=.ok (services',value') := by
  simp only [enqueueJoinResponse,log,hlog,if_true]
  exact ⟨_,_,rfl⟩

/-- Without a logger the handler stops behind its two pushes. -/
theorem enqueueJoinResponse_unlogged {processor : LoraPacketProcessor} (hlog : processor.onLog=false)
    (uninitialised : UInt32) (services : Services) (time : Timeval) (addr : DEVADDR) (value : SemtechUDPPacket) :
    enqueueJoinResponse processor uninitialised services time addr value=.error .nullPointer := by
  simp only [enqueueJoinResponse,log,hlog,Bool.false_eq_true,if_false]
  rfl

/-- A join counts one downlink for each of its two windows when a history
service is attached. -/
theorem enqueueJoinResponse_history {processor : LoraPacketProcessor} {uninitialised : UInt32}
    {services services' : Services} {time : Timeval} {addr : DEVADDR} {value value' : SemtechUDPPacket}
    (h : enqueueJoinResponse processor uninitialised services time addr value=.ok (services',value')) :
    services'.history=services.history.map fun storage =>
      (incrementDown (incrementDown storage addr time.tvSec).1 addr time.tvSec).1 := by
  unfold enqueueJoinResponse at h
  simp only [log] at h
  split at h
  · obtain ⟨rfl,-⟩ := Prod.mk.inj (Except.ok.inj h)
    cases hs : services.history <;> simp only [countJoinResponse,push,hs] <;> rfl
  · cases h

/-- The two items of a join request, one for each window. -/
def joinAnswers (processor : LoraPacketProcessor) (uninitialised : UInt32) (services : Services)
    (time : Timeval) (addr : DEVADDR) (value : SemtechUDPPacket) : List SemtechUDPPacketItem :=
  let window1 := setJoinAcceptDelay processor uninitialised value time true
  let counted1 := countJoinResponse services addr time window1.2
  let counted2 := countJoinResponse counted1.1 addr time counted1.2
  let window2 := setJoinAcceptDelay processor uninitialised counted2.2 time false
  [⟨.joinResponse,window1.1,counted1.2⟩,⟨.joinResponse,window2.1,window2.2⟩]

/-- A join pushes its two answers behind what was pushed before. -/
theorem enqueueJoinResponse_queue {processor : LoraPacketProcessor} {uninitialised : UInt32}
    {services services' : Services} {time : Timeval} {addr : DEVADDR} {value value' : SemtechUDPPacket}
    (h : enqueueJoinResponse processor uninitialised services time addr value=.ok (services',value')) :
    services'.queue=services.queue++joinAnswers processor uninitialised services time addr value := by
  unfold enqueueJoinResponse at h
  simp only [log] at h
  split at h
  · obtain ⟨rfl,-⟩ := Prod.mk.inj (Except.ok.inj h)
    cases hs : services.history with
    | none => simp only [joinAnswers,countJoinResponse,push,hs,List.append_assoc,List.singleton_append]
    | some storage => simp only [joinAnswers,countJoinResponse,push,hs,List.append_assoc,List.singleton_append]
  · cases h

/-- The answers to a join are sent after the delays of the two windows. -/
theorem joinAnswers_times (processor : LoraPacketProcessor) (uninitialised : UInt32) (services : Services)
    (time : Timeval) (addr : DEVADDR) (value : SemtechUDPPacket) :
    (joinAnswers processor uninitialised services time addr value).map (·.time2send)=
      [incTimeval time joinAcceptDelay1 0,incTimeval time joinAcceptDelay2 0] := by
  cases hp : processor.deviceChannelPlan with
  | none => simp only [joinAnswers,setJoinAcceptDelay,hp,List.map_cons,List.map_nil]; rfl
  | some plan => simp only [joinAnswers,setJoinAcceptDelay,hp,List.map_cons,List.map_nil]; rfl

end LorawanServer.PacketHandler
