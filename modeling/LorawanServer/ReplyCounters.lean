import LorawanServer.PacketReplies
import LorawanServer.StepRun

/-!
# Downlink counters over runs of replies

A run handles queue items one after the other, each in an environment of its
own. A step keeps the counters when the frame it sends carries the next counter
of the address in its header, that counter is stored for this address, and no
other counter moves. MAC answers always do; a control command that gets past
its guards sends the power as counter to address 0 and stores the counter of
the target for the sender of the command.
-/

namespace LorawanServer.ReplyCounters

open CppRuntime FrameCrypto Records DataFrame FrameBuilders DeviceHistory PacketHandler PacketReplies StepRun

/-- The reply path of an item. -/
inductive ReplyPath where
  /-- `replyMAC`. -/
  | mac
  /-- `replyControl`. -/
  | control
  deriving DecidableEq,Repr

/-- One item taken from the queue. -/
structure ReplyStep where
  /-- Reply path. -/
  path : ReplyPath
  /-- Services at this time. -/
  env : Environment
  /-- The item. -/
  item : SemtechUDPPacketItem
  /-- Current time. -/
  t : Timeval

/-- The reply to an item. -/
def reply (storage : Storage) (step : ReplyStep) : Reply :=
  match step.path with
  | .mac => replyMAC step.env storage step.item step.t
  | .control => replyControl step.env storage step.item step.t

/-- Stored counters after the reply. -/
def replyStorage (storage : Storage) (step : ReplyStep) : Storage := (reply storage step).storage

/-- Address and counter in the header of the frame that a step sends. -/
def sentHeader (storage : Storage) (step : ReplyStep) : Option (DEVADDR×UInt16) :=
  (reply storage step).frame.map fun frame =>
    ((PackedRfmHeader.ofBytes frame).devaddr,(PackedRfmHeader.ofBytes frame).fcnt)

/-- The frame of the step carries the next counter of its own address, that
counter is stored for this address, and every other counter stays. -/
def CounterKept (storage : Storage) (step : ReplyStep) : Prop :=
  match sentHeader storage step with
  | some (devaddr,fcnt) =>
    fcnt=(fcntdown storage devaddr+1).toUInt16 ∧
      fcntdown (replyStorage storage step) devaddr=fcntdown storage devaddr+1 ∧
      ∀ other≠devaddr,fcntdown (replyStorage storage step) other=fcntdown storage other
  | none => ∀ other,fcntdown (replyStorage storage step) other=fcntdown storage other

/-- Counter of the frame that a step sends to one address. -/
def counterTo (devaddr : DEVADDR) (storage : Storage) (step : ReplyStep) : Option UInt16 :=
  (sentHeader storage step).bind fun header => if header.1=devaddr then some header.2 else none

/-- Counters of the frames sent to one address, in the order of the run. -/
def countersTo (devaddr : DEVADDR) (storage : Storage) (steps : List ReplyStep) : List UInt16 :=
  (outputs replyStorage (counterTo devaddr) storage steps).reduceOption

/-- The step is not a control command that gets past its guards. -/
def NoControlSent (_ : Storage) (step : ReplyStep) : Prop :=
  step.path=.control → ∃ code,controlTarget step.env step.item.packet=.error code

/-- Low sixteen bits of a counter that travels as `int`. -/
theorem ofInt_toInt32 (counter : UInt32) : UInt16.ofInt (toInt32 counter.toNat)=counter.toUInt16 := by
  have hc := counter.toNat_lt
  apply UInt16.toNat_inj.mp
  rw [UInt16.ofInt,UInt16.toNat_ofNat',UInt32.toNat_toUInt16,toInt32]
  split
  · omega
  · omega

/-- Header of the frame in a MAC answer. -/
theorem mkPullResponse_header {crypto : Crypto} {packet : SemtechUDPPacket} {data : Bytes} {id : DeviceId}
    {receivedTime : UInt32} {fcnt power : ℤ} {datagram : PullResp}
    (h : mkPullResponse crypto packet data id receivedTime fcnt power=some datagram) :
    (PackedRfmHeader.ofBytes datagram.data).devaddr=packet.header.header.devaddr ∧
      (PackedRfmHeader.ofBytes datagram.data).fcnt=UInt16.ofInt fcnt := by
  rw [toTxJsonString_data h,pullResponseFrame,ofBytes_sealFrame,macHeader]
  split
  · exact ⟨rfl,rfl⟩
  · exact ⟨rfl,rfl⟩

/-- A best gateway needs a reception. -/
theorem metadata_of_macTarget {env : Environment} {packet : SemtechUDPPacket}
    {target : ChannelPlan×GatewayStat} (h : macTarget env packet=.ok target) : packet.metadata≠[] := by
  obtain ⟨-,-,hb,-⟩ := (macTarget_ok_iff env packet target.1 target.2).mp h
  obtain ⟨first,rest,hm⟩ := metadata_of_best hb
  rw [hm]
  exact List.cons_ne_nil first rest

/-- Every outcome of `replyMAC`: nothing sent and nothing stored, or an answer
with the next counter of the device, stored for the device. -/
theorem replyMAC_cases (env : Environment) (storage : Storage) (item : SemtechUDPPacketItem) (t : Timeval) :
    ((replyMAC env storage item t).frame=none ∧ (replyMAC env storage item t).storage=storage) ∨
      ∃ frame,(replyMAC env storage item t).frame=some frame ∧
        (PackedRfmHeader.ofBytes frame).devaddr=item.packet.header.header.devaddr ∧
        (PackedRfmHeader.ofBytes frame).fcnt=(fcntdown storage item.packet.header.header.devaddr+1).toUInt16 ∧
        (replyMAC env storage item t).storage=putDown storage item.packet.header.header.devaddr t.tvSec
          (fcntdown storage item.packet.header.header.devaddr+1) := by
  cases ht : macTarget env item.packet with
  | error code =>
    left
    simp only [replyMAC,ht]
    exact ⟨rfl,trivial⟩
  | ok target =>
    by_cases hr : env.mkResponseMACs item.packet=[]
    · left
      simp only [replyMAC,ht,hr,if_true]
      exact ⟨rfl,trivial⟩
    · right
      obtain ⟨datagram,hd⟩ : ∃ datagram,mkPullResponse env.crypto item.packet (env.mkResponseMACs item.packet)
          ((lookup env.identityService item.packet.header.header.devaddr).getD DeviceId.empty)
          (tmst item.packet) (toInt32 (readCounter storage item.packet.header.header.devaddr+1).toNat)
          target.1.maxUplinkEIRP=some datagram :=
        toTxJsonString_isSome (metadata_of_macTarget ht) _ _ _
      obtain ⟨haddr,hcnt⟩ := mkPullResponse_header hd
      refine ⟨datagram.data,?_,haddr,?_,?_⟩
      · simp only [replyMAC,ht,hr,if_false,hd]
        rfl
      · rw [hcnt,ofInt_toInt32,readCounter_eq]
      · simp only [replyMAC,ht,hr,if_false,readCounter_eq]

/-- A MAC answer keeps the counters. -/
theorem counterKept_mac (storage : Storage) {step : ReplyStep} (hp : step.path=.mac) :
    CounterKept storage step := by
  have hreply : reply storage step=replyMAC step.env storage step.item step.t := by rw [reply,hp]
  rcases replyMAC_cases step.env storage step.item step.t with ⟨hf,hs⟩ | ⟨frame,hf,haddr,hcnt,hs⟩
  · have hh : sentHeader storage step=none := by rw [sentHeader,hreply,hf,Option.map_none]
    rw [CounterKept,hh]
    intro other
    rw [replyStorage,hreply,hs]
  · have hh : sentHeader storage step=some (step.item.packet.header.header.devaddr,
        (fcntdown storage step.item.packet.header.header.devaddr+1).toUInt16) := by
      rw [sentHeader,hreply,hf,Option.map_some,haddr,hcnt]
    rw [CounterKept,hh]
    refine ⟨rfl,?_,?_⟩
    · rw [replyStorage,hreply,hs,fcntdown_putDown,if_pos rfl]
    · intro other hne
      rw [replyStorage,hreply,hs,fcntdown_putDown,if_neg (Ne.symm hne)]

/-- A step that is no control command past its guards keeps the counters. -/
theorem counterKept_of_noControlSent {storage : Storage} {step : ReplyStep}
    (h : NoControlSent storage step) : CounterKept storage step := by
  cases hp : step.path with
  | mac => exact counterKept_mac storage hp
  | control =>
    obtain ⟨code,hc⟩ := h hp
    have hreply : reply storage step=⟨storage,none,code⟩ := by
      simp only [reply,hp,replyControl,hc]
    have hh : sentHeader storage step=none := by
      rw [sentHeader,hreply]
      rfl
    rw [CounterKept,hh]
    intro other
    rw [replyStorage,hreply]

/-- One step that keeps the counters, seen from one address: it sends the next
counter there and stores it, or leaves the address alone. -/
theorem CounterKept.at_address {storage : Storage} {step : ReplyStep} (h : CounterKept storage step)
    (devaddr : DEVADDR) :
    (counterTo devaddr storage step=some (fcntdown storage devaddr+1).toUInt16 ∧
        fcntdown (replyStorage storage step) devaddr=fcntdown storage devaddr+1) ∨
      (counterTo devaddr storage step=none ∧
        fcntdown (replyStorage storage step) devaddr=fcntdown storage devaddr) := by
  rw [CounterKept] at h
  cases hs : sentHeader storage step with
  | none =>
    rw [hs] at h
    exact Or.inr ⟨by rw [counterTo,hs,Option.bind_none],h devaddr⟩
  | some header =>
    obtain ⟨written,fcnt⟩ := header
    rw [hs] at h
    obtain ⟨hcnt,hstored,hother⟩ := h
    by_cases ha : written=devaddr
    · subst ha
      exact Or.inl ⟨by rw [counterTo,hs,Option.bind_some,if_pos rfl,hcnt],hstored⟩
    · exact Or.inr ⟨by rw [counterTo,hs,Option.bind_some,if_neg ha],hother devaddr (Ne.symm ha)⟩

/-- Where every step keeps the counters, the frames sent to an address carry
consecutive counters from the stored one on. -/
theorem countersTo_consecutive {storage : Storage} {steps : List ReplyStep}
    (h : Along replyStorage CounterKept storage steps) (devaddr : DEVADDR) :
    countersTo devaddr storage steps=(List.range (countersTo devaddr storage steps).length).map
      fun i => (fcntdown storage devaddr+UInt32.ofNat (i+1)).toUInt16 := by
  induction steps generalizing storage with
  | nil => rfl
  | cons step steps ih =>
    obtain ⟨hfirst,hrest⟩ := (along_cons_iff _ _ _ _ _).mp h
    have ht := ih hrest
    rcases hfirst.at_address devaddr with ⟨hsent,hstored⟩ | ⟨hsent,hstored⟩
    · have hc : countersTo devaddr storage (step::steps)=
          (fcntdown storage devaddr+1).toUInt16::countersTo devaddr (replyStorage storage step) steps := by
        rw [countersTo,outputs,hsent,List.reduceOption_cons_of_some]
        rfl
      rw [hc,List.length_cons,List.range_succ_eq_map,List.map_cons,List.map_map]
      congr 1
      rw [ht,List.length_map,List.length_range,hstored]
      apply List.map_congr_left
      intro i _
      dsimp only [Function.comp]
      rw [UInt32.ofNat_add (i+1) 1,UInt32.add_comm (UInt32.ofNat (i+1)),←UInt32.add_assoc]
      rfl
    · have hc : countersTo devaddr storage (step::steps)=
          countersTo devaddr (replyStorage storage step) steps := by
        rw [countersTo,outputs,hsent,List.reduceOption_cons_of_none]
        rfl
      rw [hc]
      rwa [hstored] at ht

/-- In every run in which no control command gets past its guards, every step
keeps the counters, and the frames sent to one address carry consecutive
counters. -/
theorem reply_run_keeps_counters {storage : Storage} {steps : List ReplyStep}
    (h : Along replyStorage NoControlSent storage steps) :
    Along replyStorage CounterKept storage steps ∧
      ∀ devaddr,countersTo devaddr storage steps=
        (List.range (countersTo devaddr storage steps).length).map
          fun i => (fcntdown storage devaddr+UInt32.ofNat (i+1)).toUInt16 := by
  have hk : Along replyStorage CounterKept storage steps :=
    h.imp fun _ _ hs => counterKept_of_noControlSent hs
  exact ⟨hk,countersTo_consecutive hk⟩

/-- Header of the frame in a MAC request: address 0 and whatever stands in the
place of the counter. -/
theorem mkMACRequest_header {crypto : Crypto} {packet : SemtechUDPPacket} {gwId : DEVEUI} {data : Bytes}
    {networkId : NetworkIdentity} {receivedTime : UInt32} {fCnt power : ℤ} {datagram : PullResp}
    (h : mkMACRequest crypto packet gwId data networkId receivedTime fCnt power=some datagram) :
    (PackedRfmHeader.ofBytes datagram.data).devaddr=0 ∧
      (PackedRfmHeader.ofBytes datagram.data).fcnt=UInt16.ofInt fCnt := by
  rw [toTxJsonString_data h,macRequestFrame,ofBytes_sealFrame,macHeader]
  split
  · exact ⟨rfl,rfl⟩
  · exact ⟨rfl,rfl⟩

/-- A control command past its guards, from a packet with a reception, keeps
the counters only by coincidence: it must come from address 0, the counter of
its target must equal that of address 0, and the power must be the next one. -/
theorem counterKept_control_iff {storage : Storage} {step : ReplyStep} (hp : step.path=.control)
    {plan : ChannelPlan} {gateway : GatewayStat}
    (ht : controlTarget step.env step.item.packet=.ok (plan,gateway))
    (hm : step.item.packet.metadata≠[]) :
    CounterKept storage step ↔
      UInt16.ofInt plan.maxUplinkEIRP=(fcntdown storage 0+1).toUInt16 ∧
        step.item.packet.header.header.devaddr=0 ∧
        fcntdown storage (controlIdentity step.env step.item.packet).devaddr=fcntdown storage 0 := by
  let nid := controlIdentity step.env step.item.packet
  let fCntDown := readCounter storage nid.devaddr+1
  obtain ⟨datagram,hd⟩ : ∃ datagram,mkMACRequest step.env.crypto step.item.packet gateway.gatewayId
      (controlPacket step.item.packet.payload).data nid fCntDown plan.maxUplinkEIRP 14=some datagram :=
    toTxJsonString_isSome hm _ _ _
  obtain ⟨haddr,hcnt⟩ := mkMACRequest_header hd
  have hreply : reply storage step=⟨putDown storage step.item.packet.header.header.devaddr step.t.tvSec
      fCntDown,some ⟨gateway.socket,some datagram⟩,LORA_OK⟩ := by
    rw [←hd]
    simp only [reply,hp,replyControl,ht]
    rfl
  have hsent : sentHeader storage step=some (0,UInt16.ofInt plan.maxUplinkEIRP) := by
    rw [sentHeader,hreply,←haddr,←hcnt]
    rfl
  have hf : fCntDown=fcntdown storage nid.devaddr+1 := by
    dsimp only [fCntDown]
    rw [readCounter_eq]
  have hs : ∀ other,fcntdown (replyStorage storage step) other=
      if step.item.packet.header.header.devaddr=other then fcntdown storage nid.devaddr+1
      else fcntdown storage other := by
    intro other
    rw [replyStorage,hreply,fcntdown_putDown,hf]
  rw [CounterKept,hsent]
  constructor
  · rintro ⟨hpower,hstored,-⟩
    rw [hs 0] at hstored
    split at hstored
    · next hz => exact ⟨hpower,hz,(UInt32.add_left_inj 1).mp hstored⟩
    · have hne : fcntdown storage 0+0=fcntdown storage 0+1 := by rwa [UInt32.add_zero]
      exact absurd ((UInt32.add_right_inj _).mp hne) (by decide)
  · rintro ⟨hpower,hz,hsame⟩
    refine ⟨hpower,?_,?_⟩
    · rw [hs 0,if_pos hz,hsame]
    · intro other hne
      rw [hs other,if_neg (fun he => hne (by rw [←he,hz]))]

/-- Services with one gateway, a plan of 14 dBm and one fixed answer. -/
def sampleEnvironment : Environment where
  crypto := ⟨fun _ _ => constBlock 0,fun _ _ => constBlock 0⟩
  identityService := some (constService DeviceId.empty)
  gatewayList := some ((∅ : Std.TreeMap UInt64 GatewayStat).insert 7 ⟨7,3⟩)
  channelPlan _ := some ⟨869525000,14⟩
  mkResponseMACs _ := [0x02,0x05,0x01]
  uninitialised := ⟨DeviceId.empty,0⟩

/-- A packet of device 1 with a LinkCheckReq, received by the gateway. -/
def sampleUplink : SemtechUDPPacket :=
  {SemtechUDPPacket.empty with
    header := {RfmHeader.empty with header := ⟨0x40,1,1,3⟩,fopts := overwrite (Vector.replicate 15 0) [2]}
    metadata := [{RfmMetaData.initial 0 0 with gatewayId := 7}]
    payload := [1,0,0,0,0,0,0,0,7,0,0,0,0,0,0,0,0,6]}

/-- Two answers to that packet carry the counters 1 and 2. -/
theorem reply_run_two_answers :
    let step : ReplyStep := ⟨.mac,sampleEnvironment,⟨.replyMac,⟨0,0⟩,sampleUplink⟩,⟨0,0⟩⟩
    Along replyStorage NoControlSent ∅ [step,step] ∧ countersTo 1 ∅ [step,step]=[1,2] ∧
      Along replyStorage CounterKept ∅ [step,step] := by
  intro step
  have hc : ∀ storage,NoControlSent storage step := fun _ hp => absurd hp (by decide)
  have ha : Along replyStorage NoControlSent ∅ [step,step] := fun before event after hs => by
    have hmem : event∈[step,step] := by
      rw [hs]
      exact List.mem_append_right _ List.mem_cons_self
    have he : event=step := by
      simpa only [List.mem_cons,List.not_mem_nil,or_false,or_self] using hmem
    rw [he]
    exact hc _
  exact ⟨ha,by decide +kernel,(reply_run_keeps_counters ha).1⟩

/-- A control command of device 1 breaks the counters: its frame carries the
power to address 0. -/
theorem control_command_breaks_counters :
    ¬ Along replyStorage CounterKept ∅
      [⟨.control,sampleEnvironment,⟨.controlNs,⟨0,0⟩,sampleUplink⟩,⟨0,0⟩⟩] := by
  intro h
  have hk := (counterKept_control_iff rfl rfl (by decide)).mp ((along_cons_iff _ _ _ _ _).mp h).1
  exact absurd hk.2.1 (by decide)

end LorawanServer.ReplyCounters
