import LorawanServer.LoggingEffects
import LorawanServer.QueueService
import LorawanServer.ServerRouting

/-!
# What the server answers

Every reply of the server goes back to a datagram that it received before: to a data
frame with a right code, with MAC commands for a MAC reply and with the right to
control the service for a control reply, or to a join message of a known device.
Whatever stands in the receiver queue comes from such a data frame too. For each
address there are at most as many replies as packets that the listener handed over,
a join request counting twice.
-/

namespace LorawanServer.NetworkServer

open CppRuntime FrameCrypto Records DataFrame FrameBuilders DeviceHistory PacketHandler PacketReplies JoinReplies
open PacketQueue QueueService Listener ReceivedFrames PacketDispatch StepRun
open Datagram hiding GatewayStat

variable {Address : Type*}

/-- What duplicates leave of an item. -/
def kept (item : SemtechUDPPacketItem) : SemtechUDPPacketItem :=
  {item with packet := {item.packet with
    metadata := []
    header := {item.packet.header with
      fopts := Vector.replicate 15 0
      header := {item.packet.header.header with fctrl := 0}}}}

/-- The packet goes to the port of control packets. -/
def Reserved (processor : LoraPacketProcessor) (packet : SemtechUDPPacket) : Prop :=
  processor.reservedFPort≠0 ∧ packet.header.fport=processor.reservedFPort

/-- The accepted packet of a frame that the datagram carries, under the identity that
is stored for the address of the frame. -/
structure Accepted (config : Config) (identityService : Option IdentityService) (buffer : Bytes)
    (packet : SemtechUDPPacket) : Prop where
  /-- The frame with its prefix, reception and identity. -/
  frame : ∃ frame gwPrefix m id,Carries config.host buffer frame ∧ ValidFrame config.env.crypto identityService frame ∧
    lookup identityService (PackedRfmHeader.ofBytes frame).devaddr=some id ∧
    packet=acceptedPacket config.env.crypto (newPacket gwPrefix m) frame id

/-- Why an item is pushed. -/
inductive Cause (config : Config) (identityService : Option IdentityService) (time : Timeval) (buffer : Bytes) :
    SemtechUDPPacketItem → Prop where
  /-- A data frame with MAC commands. -/
  | mac {packet : SemtechUDPPacket} (accepted : Accepted config identityService buffer packet)
      (port : ¬Reserved config.processor packet) (commands : hasMACPayload packet=true) :
      Cause config identityService time buffer ⟨.replyMac,incTimeval time 0 defTimeoutUs,packet⟩
  /-- A data frame for the port of control packets, from a device with the right. -/
  | control {packet : SemtechUDPPacket} {service : IdentityService}
      (accepted : Accepted config identityService buffer packet) (port : Reserved config.processor packet)
      (stored : identityService=some service)
      (right : service.canControlService packet.header.header.devaddr=true) :
      Cause config identityService time buffer ⟨.controlNs,incTimeval time 0 defTimeoutUs,packet⟩
  /-- A join message of a device that is stored. -/
  | join {packet : SemtechUDPPacket} {frame : Bytes} {gwPrefix : SemtechPrefixGw} {m : RfmMetaData}
      {request : JoinRequestFrame} {service : IdentityService} {nid : NetworkIdentity} {item : SemtechUDPPacketItem}
      (carries : Carries config.host buffer frame)
      (built : received config.env.crypto identityService gwPrefix m frame=.ok packet)
      (read : getJoinRequestFrame packet=some request) (stored : identityService=some service)
      (known : service.getNetworkIdentity request.devEUI=.ok nid) (mode : item.processMode=.joinResponse)
      (payload : item.packet.payload=packet.payload) (identity : item.packet.devId=nid.toDeviceId) :
      Cause config identityService time buffer item

/-- Why a packet is stored for the databases. -/
structure Stored (config : Config) (identityService : Option IdentityService) (time : Timeval) (buffer : Bytes)
    (entry : SemtechUDPPacket×Timeval) : Prop where
  /-- A data frame. -/
  accepted : Accepted config identityService buffer entry.1
  /-- It is not for the port of control packets. -/
  port : ¬Reserved config.processor entry.1
  /-- It has a payload for an application. -/
  payload : hasApplicationPayload entry.1=true
  /-- The time of the datagram. -/
  time : entry.2=time

/-- Absorbed duplicates do not matter. -/
theorem kept_pushItems {items : List SemtechUDPPacketItem} {pushed item : SemtechUDPPacketItem}
    (h : item∈pushItems items pushed) : (∃ old∈items,kept item=kept old) ∨ item=pushed := by
  rw [pushItems] at h
  split at h
  · have hmap : (merge pushed items).map kept=items.map kept :=
      merge_map (absorb_eq (fun _ _ _ _ => rfl) pushed) items
    have hm : kept item∈items.map kept := hmap ▸ List.mem_map_of_mem h
    obtain ⟨old,ho,he⟩ := List.mem_map.mp hm
    exact .inl ⟨old,ho,he.symm⟩
  · rcases List.mem_append.mp h with ho | hp
    · exact .inl ⟨item,ho,rfl⟩
    · exact .inr (List.mem_singleton.mp hp)

/-- The same for several pushes. -/
theorem kept_pushes {pushed : List SemtechUDPPacketItem} {queue : Queue} {a : DEVADDR} {item : SemtechUDPPacketItem}
    (h : item∈itemsAt (pushed.foldl push queue) a) :
    (∃ old∈itemsAt queue a,kept item=kept old) ∨ ∃ origin∈pushed,kept item=kept origin := by
  induction pushed generalizing queue with
  | nil => exact .inl ⟨item,h,rfl⟩
  | cons first pushed ih =>
    rcases ih h with ⟨old,ho,he⟩ | ⟨origin,ho,he⟩
    · rw [itemsAt_push] at ho
      split at ho
      · rcases kept_pushItems ho with ⟨older,hold,hk⟩ | rfl
        · exact .inl ⟨older,hold,he.trans hk⟩
        · exact .inr ⟨old,List.mem_cons_self,he⟩
      · exact .inl ⟨old,ho,he⟩
    · exact .inr ⟨origin,List.mem_cons_of_mem _ ho,he⟩

/-- The identified packet is pushed for a MAC reply or for a control reply, or not at
all, and a packet with a payload may be stored. -/
theorem putIdentified_pushes {processor : LoraPacketProcessor} {identityService : IdentityService}
    {services services' : Services} {time : Timeval} {packet packet' : SemtechUDPPacket}
    (h : putIdentified processor identityService services time packet=.ok (services',packet')) :
    (services'.queue=services.queue ∨
      (services'.queue=services.queue++[⟨.replyMac,incTimeval time 0 defTimeoutUs,packet⟩] ∧
        ¬Reserved processor packet ∧ hasMACPayload packet=true) ∨
      (services'.queue=services.queue++[⟨.controlNs,incTimeval time 0 defTimeoutUs,packet⟩] ∧
        Reserved processor packet ∧ identityService.canControlService packet.header.header.devaddr=true)) ∧
    (services'.receiver=services.receiver ∨ (services'.receiver=services.receiver++[(packet,time)] ∧
      ¬Reserved processor packet ∧ hasApplicationPayload packet=true)) := by
  by_cases hp : processor.reservedFPort≠0 ∧ packet.header.fport=processor.reservedFPort
  · rw [LoggingEffects.putIdentified_control processor hp] at h
    split at h
    · next hright =>
      obtain ⟨rfl,-⟩ := Prod.mk.inj (Except.ok.inj h)
      exact ⟨.inr (.inr ⟨rfl,hp,hright.1⟩),.inl rfl⟩
    · obtain ⟨rfl,-⟩ := Prod.mk.inj (Except.ok.inj h)
      exact ⟨.inl rfl,.inl rfl⟩
  · have hreceiver : ∀ s : Services,s.receiver=(storePayload processor (countUplink services time packet) time packet).receiver →
        s.receiver=services.receiver ∨ (s.receiver=services.receiver++[(packet,time)] ∧
          ¬Reserved processor packet ∧ hasApplicationPayload packet=true) := by
      intro s hs
      rw [storePayload] at hs
      split at hs
      · next happ =>
        rw [enqueuePayload] at hs
        split at hs
        · exact .inr ⟨hs,hp,happ⟩
        · exact .inl hs
      · exact .inl hs
    have hqueue := storePayload_queue processor (countUplink services time packet) time packet
    unfold putIdentified at h
    rw [if_neg hp] at h
    dsimp only at h
    split at h
    · next hmac =>
      rw [enqueueMAC,log] at h
      split at h
      · obtain ⟨rfl,-⟩ := Prod.mk.inj (Except.ok.inj h)
        refine ⟨.inr (.inl ⟨?_,hp,hmac⟩),hreceiver _ rfl⟩
        dsimp only [PacketHandler.push]
        rw [hqueue]
        rfl
      · cases h
    · rw [putMACRequests,log] at h
      split at h
      · obtain ⟨rfl,-⟩ := Prod.mk.inj (Except.ok.inj h)
        exact ⟨.inl hqueue,hreceiver _ rfl⟩
      · cases h

/-- A join stores no packet. -/
theorem enqueueJoinResponse_receiver {processor : LoraPacketProcessor} {uninitialised : UInt32}
    {services services' : Services} {time : Timeval} {addr : DEVADDR} {value value' : SemtechUDPPacket}
    (h : enqueueJoinResponse processor uninitialised services time addr value=.ok (services',value')) :
    services'.receiver=services.receiver := by
  unfold enqueueJoinResponse at h
  simp only [log] at h
  split at h
  · obtain ⟨rfl,-⟩ := Prod.mk.inj (Except.ok.inj h)
    cases hs : services.history <;> simp only [countJoinResponse,PacketHandler.push,hs]
  · cases h

/-- The answers of a join carry payload, identity and address of the request. -/
theorem joinAnswers_items (processor : LoraPacketProcessor) (uninitialised : UInt32) (services : Services) (time : Timeval)
    (addr : DEVADDR) (value : SemtechUDPPacket) :
    (joinAnswers processor uninitialised services time addr value).length=2 ∧
      ∀ item∈joinAnswers processor uninitialised services time addr value,item.processMode=.joinResponse ∧
        item.packet.payload=value.payload ∧ item.packet.devId=value.devId ∧
        getAddr item=value.header.header.devaddr := by
  cases hh : services.history <;>
    simp only [joinAnswers,countJoinResponse,setJoinAcceptDelay,hh,getAddr,List.forall_mem_cons,List.not_mem_nil,
      false_implies,implies_true,and_self,List.length_cons,List.length_nil]

/-- Items that the sender answered, oldest first. -/
def replies (s : Server Address) : List SemtechUDPPacketItem := s.sent.filterMap fun sent =>
  match sent.message with
  | .ack _ => none
  | .reply item _ => some item

/-- What a part of a datagram does to the server: it may push items and store packets,
each with its cause, and for each address at most the given number of items. -/
structure Fed (config : Config) (identityService : Option IdentityService) (time : Timeval) (buffer : Bytes)
    (n : DEVADDR → ℕ) (s s' : Server Address) : Prop where
  /-- The identities stay. -/
  identities : s'.identityService=s.identityService
  /-- The sender is not touched. -/
  item : s'.item=s.item
  /-- Nothing is answered. -/
  replies : replies s'=replies s
  /-- What is queued. -/
  queued : ∀ a,∀ item∈itemsAt s'.queue a,(∃ old∈itemsAt s.queue a,kept item=kept old) ∨
    ∃ origin,Cause config identityService time buffer origin ∧ kept item=kept origin
  /-- What is stored. -/
  stored : ∀ entry∈s'.receiver,entry∈s.receiver ∨ Stored config identityService time buffer entry
  /-- How much is queued. -/
  count : ∀ a,(itemsAt s'.queue a).length≤(itemsAt s.queue a).length+n a
  /-- The queue stays sound. -/
  sound : Sound s.queue → Sound s'.queue

section Feeding

variable {config : Config} {identityService : Option IdentityService} {time : Timeval} {buffer : Bytes}

/-- Nothing happens. -/
theorem fed_of_same {n : DEVADDR → ℕ} {s s' : Server Address} (hidentity : s'.identityService=s.identityService)
    (hitem : s'.item=s.item) (hreplies : replies s'=replies s) (hqueue : s'.queue=s.queue)
    (hreceiver : s'.receiver=s.receiver) : Fed config identityService time buffer n s s' where
  identities := hidentity
  item := hitem
  replies := hreplies
  queued := fun a item hi => .inl ⟨item,hqueue ▸ hi,rfl⟩
  stored := fun entry he => .inl (hreceiver ▸ he)
  count := fun a => by rw [hqueue]; exact Nat.le_add_right _ _
  sound := fun h => hqueue ▸ h

/-- One part after another. -/
theorem Fed.trans {n m : DEVADDR → ℕ} {s s' s'' : Server Address} (h : Fed config identityService time buffer n s s')
    (h' : Fed config identityService time buffer m s' s'') :
    Fed config identityService time buffer (fun a => n a+m a) s s'' where
  identities := h'.identities.trans h.identities
  item := h'.item.trans h.item
  replies := h'.replies.trans h.replies
  queued := by
    intro a item hi
    rcases h'.queued a item hi with ⟨old,ho,he⟩ | horigin
    · rcases h.queued a old ho with ⟨older,hold,hk⟩ | ⟨origin,hc,hk⟩
      · exact .inl ⟨older,hold,he.trans hk⟩
      · exact .inr ⟨origin,hc,he.trans hk⟩
    · exact .inr horigin
  stored := fun entry he => (h'.stored entry he).elim (h.stored entry) .inr
  count := fun a => by have h1 := h.count a; have h2 := h'.count a; omega
  sound := fun hs => h'.sound (h.sound hs)

/-- How many items of an address several pushes leave. -/
theorem length_pushes (pushed : List SemtechUDPPacketItem) (queue : Queue) (a : DEVADDR) :
    (itemsAt (pushed.foldl push queue) a).length≤
      (itemsAt queue a).length+pushed.countP (fun item => getAddr item=a) := by
  induction pushed generalizing queue with
  | nil => exact Nat.le_add_right _ _
  | cons first pushed ih =>
    have hfirst : (itemsAt (push queue first) a).length≤(itemsAt queue a).length+if getAddr first=a then 1 else 0 := by
      rw [itemsAt_push]
      split_ifs
      · rw [pushItems_length]
        split_ifs <;> omega
      · exact Nat.le_refl _
    have hrest := ih (push queue first)
    rw [List.foldl_cons,List.countP_cons]
    simp only [decide_eq_true_eq]
    omega

/-- A call of the handler whose pushes have a cause. -/
theorem fed_handled {n : DEVADDR → ℕ} {s : Server Address} {services' : Services} {packet : SemtechUDPPacket} {code : ℤ}
    (hcause : ∀ origin∈services'.queue,Cause config identityService time buffer origin)
    (hcount : ∀ a,services'.queue.countP (fun item => getAddr item=a)≤ n a)
    (hstored : ∀ entry∈services'.receiver,entry∈s.receiver ∨ Stored config identityService time buffer entry) :
    Fed config identityService time buffer n s (handled s (.ok (services',packet,code))) where
  identities := rfl
  item := rfl
  replies := rfl
  queued := by
    intro a item hi
    rcases kept_pushes hi with hold | ⟨origin,ho,he⟩
    · exact .inl hold
    · exact .inr ⟨origin,hcause origin ho,he⟩
  stored := hstored
  count := fun a => (length_pushes services'.queue s.queue a).trans (Nat.add_le_add_left (hcount a) _)
  sound := by
    intro h
    change Sound (services'.queue.foldl push s.queue)
    generalize s.queue=queue at h
    generalize services'.queue=pushed
    induction pushed generalizing queue with
    | nil => exact h
    | cons first pushed ih => exact ih _ (push_sound h first)

/-- How many items of an address a call may push. -/
def answersTo (a : DEVADDR) : Call → ℕ
  | .put _ packet => if packet.header.header.devaddr=a then 1 else 0
  | .join _ packet => if packet.header.header.devaddr=a then 2 else 0
  | _ => 0

/-- A packet without error is the accepted packet of its frame. -/
theorem accepted_of_built {frame : Bytes} {gwPrefix : SemtechPrefixGw} {m : RfmMetaData} {packet : SemtechUDPPacket}
    (hcarries : Carries config.host buffer frame)
    (hbuilt : received config.env.crypto identityService gwPrefix m frame=.ok packet) (hok : packet.errcode=LORA_OK) :
    Accepted config identityService buffer packet ∧
      lookup identityService packet.header.header.devaddr=some packet.devId := by
  obtain ⟨hvalid,id,hid,rfl⟩ := received_accepted hbuilt hok
  have haddr : (acceptedPacket config.env.crypto (newPacket gwPrefix m) frame id).header.header.devaddr=
      (PackedRfmHeader.ofBytes frame).devaddr := congrArg PackedRfmHeader.devaddr (withHeader_header hvalid.2.1 _)
  exact ⟨⟨frame,gwPrefix,m,id,hcarries,hvalid,hid,rfl⟩,haddr ▸ hid⟩

/-- What `put` does with an accepted packet. -/
theorem fed_put {s : Server Address} (hs : s.identityService=identityService) {frame : Bytes} {gwPrefix : SemtechPrefixGw}
    {m : RfmMetaData} {packet : SemtechUDPPacket} (hcarries : Carries config.host buffer frame)
    (hbuilt : received config.env.crypto identityService gwPrefix m frame=.ok packet) (hok : packet.errcode=LORA_OK) :
    Fed config identityService time buffer (fun a => answersTo a (.put time packet)) s
      (handled s (PacketHandler.put (processor config s) (services s) time packet)) := by
  obtain ⟨haccepted,hid⟩ := accepted_of_built hcarries hbuilt hok
  cases hput : PacketHandler.put (processor config s) (services s) time packet with
  | error fault => exact fed_of_same rfl rfl rfl rfl rfl
  | ok result =>
    obtain ⟨services',packet',code⟩ := result
    unfold PacketHandler.put at hput
    split at hput
    · obtain ⟨rfl,-⟩ := Prod.mk.inj (Except.ok.inj hput)
      exact fed_handled (fun _ ho => absurd ho List.not_mem_nil) (fun _ => Nat.zero_le _) fun _ he => .inl he
    next service hservice =>
      split at hput
      · obtain ⟨rfl,-⟩ := Prod.mk.inj (Except.ok.inj hput)
        exact fed_handled (fun _ ho => absurd ho List.not_mem_nil) (fun _ => Nat.zero_le _) fun _ he => .inl he
      next id hget =>
        have hstored : identityService=some service := hs.symm.trans hservice
        have hsame : ({packet with devId := id} : SemtechUDPPacket)=packet := by
          rw [hstored,lookup,hget] at hid
          rw [Option.some.inj (show some id=some packet.devId from hid)]
        obtain ⟨⟨handledServices,counted⟩,hidentified,hresult⟩ := bind_eq_ok.mp hput
        obtain ⟨rfl,-⟩ := Prod.mk.inj (Except.ok.inj hresult)
        rw [hsame] at hidentified
        obtain ⟨hqueue,hreceiver⟩ := putIdentified_pushes hidentified
        have hcount : ∀ (mode : ItemProcessMode) (a : DEVADDR),
            [(⟨mode,incTimeval time 0 defTimeoutUs,packet⟩ : SemtechUDPPacketItem)].countP (fun item => getAddr item=a)≤
              answersTo a (.put time packet) := by
          intro mode a
          rw [List.countP_singleton,answersTo,getAddr]
          simp only [decide_eq_true_eq,le_refl]
        refine fed_handled ?_ ?_ fun entry he => ?_
        · rcases hqueue with hq | ⟨hq,hport,hmac⟩ | ⟨hq,hport,hright⟩
          · rw [hq]
            exact fun _ ho => absurd ho List.not_mem_nil
          · rw [hq]
            intro origin ho
            rw [List.mem_singleton.mp ho]
            exact .mac haccepted hport hmac
          · rw [hq]
            intro origin ho
            rw [List.mem_singleton.mp ho]
            exact .control haccepted hport hstored hright
        · rcases hqueue with hq | ⟨hq,-⟩ | ⟨hq,-⟩
          · rw [hq]
            exact fun _ => Nat.zero_le _
          · rw [hq]
            exact hcount _
          · rw [hq]
            exact hcount _
        · rcases hreceiver with hr | ⟨hr,hport,happ⟩
          · rw [hr] at he
            exact .inl he
          · rw [hr] at he
            rcases List.mem_append.mp he with he | he
            · exact .inl he
            · rw [List.mem_singleton.mp he]
              exact .inr ⟨haccepted,hport,happ,rfl⟩

/-- What `join` does with the first packet of a datagram. -/
theorem fed_join {s : Server Address} (hs : s.identityService=identityService) {frame : Bytes} {gwPrefix : SemtechPrefixGw}
    {m : RfmMetaData} {packet : SemtechUDPPacket} (hcarries : Carries config.host buffer frame)
    (hbuilt : received config.env.crypto identityService gwPrefix m frame=.ok packet) :
    Fed config identityService time buffer (fun a => answersTo a (.join time packet)) s
      (handled s (PacketHandler.join (processor config s) config.uninitialised (services s) time packet)) := by
  cases hjoin : PacketHandler.join (processor config s) config.uninitialised (services s) time packet with
  | error fault => exact fed_of_same rfl rfl rfl rfl rfl
  | ok result =>
    obtain ⟨services',packet',code⟩ := result
    unfold PacketHandler.join at hjoin
    split at hjoin
    · obtain ⟨rfl,-⟩ := Prod.mk.inj (Except.ok.inj hjoin)
      exact fed_handled (fun _ ho => absurd ho List.not_mem_nil) (fun _ => Nat.zero_le _) fun _ he => .inl he
    · obtain ⟨rfl,-⟩ := Prod.mk.inj (Except.ok.inj hjoin)
      exact fed_handled (fun _ ho => absurd ho List.not_mem_nil) (fun _ => Nat.zero_le _) fun _ he => .inl he
    next service request hservice hread =>
      split at hjoin
      · obtain ⟨rfl,-⟩ := Prod.mk.inj (Except.ok.inj hjoin)
        exact fed_handled (fun _ ho => absurd ho List.not_mem_nil) (fun _ => Nat.zero_le _) fun _ he => .inl he
      next nid hknown =>
        obtain ⟨⟨joined,counted⟩,hanswered,hresult⟩ := bind_eq_ok.mp hjoin
        obtain ⟨rfl,-⟩ := Prod.mk.inj (Except.ok.inj hresult)
        have hqueue := enqueueJoinResponse_queue hanswered
        have hreceiver := enqueueJoinResponse_receiver hanswered
        obtain ⟨hlength,hitems⟩ := joinAnswers_items (processor config s) config.uninitialised (services s) time nid.devaddr
          {packet with devId := nid.toDeviceId}
        rw [show (services s).queue=[] from rfl,List.nil_append] at hqueue
        refine fed_handled ?_ ?_ ?_
        · rw [hqueue]
          intro origin ho
          obtain ⟨hmode,hpayload,hdev,-⟩ := hitems origin ho
          exact .join hcarries hbuilt hread (hs.symm.trans hservice) hknown hmode hpayload hdev
        · intro a
          rw [hqueue,answersTo]
          split_ifs with ha
          · exact List.countP_le_length.trans hlength.le
          · refine (List.countP_eq_zero.mpr fun item hi => ?_).le
            rw [decide_eq_true_eq,(hitems item hi).2.2.2]
            exact ha
        · intro entry he
          rw [hreceiver] at he
          exact .inl he

/-- A call of the listener. -/
theorem fed_call {s : Server Address} (hs : s.identityService=identityService) {c : Call}
    (hc : CallOf config.host config.env.crypto identityService time buffer c) (socket : ℤ) (address : Address) :
    Fed config identityService time buffer (fun a => answersTo a c) s (call config socket address s c) := by
  rw [call.eq_def]
  split
  · exact fed_of_same rfl rfl rfl rfl rfl
  cases hc with
  | ack =>
    refine fed_of_same rfl rfl ?_ rfl rfl
    rw [replies,List.filterMap_append]
    exact List.append_nil _
  | put carries built accepted => exact fed_put hs carries built accepted
  | join carries built => exact fed_join hs carries built
  | setSocketAddress pull =>
    dsimp only [setSocketAddress]
    split
    · exact fed_of_same rfl rfl rfl rfl rfl
    · exact fed_of_same rfl rfl rfl rfl rfl
  | copyId gatewayStat => exact fed_of_same rfl rfl rfl rfl rfl

/-- The calls for a datagram. -/
theorem fed_calls {s : Server Address} (hs : s.identityService=identityService) {calls : List Call}
    (hc : ∀ c∈calls,CallOf config.host config.env.crypto identityService time buffer c) (socket : ℤ) (address : Address) :
    Fed config identityService time buffer (fun a => (calls.map (answersTo a)).sum) s
      (calls.foldl (call config socket address) s) := by
  induction calls generalizing s with
  | nil => exact fed_of_same rfl rfl rfl rfl rfl
  | cons c calls ih =>
    have hfirst := fed_call hs (hc c List.mem_cons_self) socket address
    have hrest := ih (hfirst.identities.trans hs) fun other ho => hc other (List.mem_cons_of_mem _ ho)
    simp only [List.map_cons,List.sum_cons]
    exact hfirst.trans hrest

end Feeding

/-- How many items of an address an event may push. -/
def owed (config : Config) (a : DEVADDR) (s : Server Address) : Event Address → ℕ
  | .datagram _ _ receivedTime buffer =>
    match parseBuffer config.host config.env.crypto s.identityService receivedTime buffer with
    | .ok result => (result.calls.map (answersTo a)).sum
    | .error _ => 0
  | _ => 0

/-- A datagram feeds the server. -/
theorem fed_receive (config : Config) (s : Server Address) (socket : ℤ) (address : Address) (receivedTime : Timeval)
    (buffer : Bytes) : Fed config s.identityService receivedTime buffer
      (fun a => owed config a s (.datagram socket address receivedTime buffer)) s
      (receive config s socket address receivedTime buffer) := by
  cases hparse : parseBuffer config.host config.env.crypto s.identityService receivedTime buffer with
  | ok result =>
    simp only [receive,owed,hparse]
    exact fed_calls rfl (parseBuffer_callOf hparse) socket address
  | error fault =>
    simp only [receive,hparse]
    cases fault <;> exact fed_of_same rfl rfl rfl rfl rfl

/-- Why an item was pushed by an event of the run. -/
def Caused (config : Config) (start : Server Address) (events : List (Event Address)) (item : SemtechUDPPacketItem) :
    Prop :=
  ∃ before socket address time buffer after origin,events=before++.datagram socket address time buffer::after ∧
    Cause config (run (step config) start before).identityService time buffer origin ∧ kept item=kept origin

/-- Why a packet was stored by an event of the run. -/
def StoredBy (config : Config) (start : Server Address) (events : List (Event Address))
    (entry : SemtechUDPPacket×Timeval) : Prop :=
  ∃ before socket address time buffer after,events=before++.datagram socket address time buffer::after ∧
    Stored config (run (step config) start before).identityService time buffer entry

/-- Everything that waits for the sender, was answered or stored has its cause. -/
structure CausedSoFar (config : Config) (start : Server Address) (events : List (Event Address)) (s : Server Address) :
    Prop where
  /-- What is queued. -/
  queued : ∀ a,∀ item∈itemsAt s.queue a,Caused config start events item
  /-- What the sender took. -/
  taken : ∀ item t,s.item=some (item,t) → Caused config start events item
  /-- What was answered. -/
  replied : ∀ item∈replies s,Caused config start events item
  /-- What was stored. -/
  stored : ∀ entry∈s.receiver,StoredBy config start events entry

section Causes

variable {config : Config} {start : Server Address} {events : List (Event Address)}

/-- Later events do not matter. -/
theorem Caused.later {item : SemtechUDPPacketItem} (h : Caused config start events item) (e : Event Address) :
    Caused config start (events++[e]) item := by
  obtain ⟨before,socket,address,time,buffer,after,origin,rfl,hc,hk⟩ := h
  exact ⟨before,socket,address,time,buffer,after++[e],origin,by rw [List.append_assoc,List.cons_append],hc,hk⟩

/-- Nor for what was stored. -/
theorem StoredBy.later {entry : SemtechUDPPacket×Timeval} (h : StoredBy config start events entry) (e : Event Address) :
    StoredBy config start (events++[e]) entry := by
  obtain ⟨before,socket,address,time,buffer,after,rfl,hs⟩ := h
  exact ⟨before,socket,address,time,buffer,after++[e],by rw [List.append_assoc,List.cons_append],hs⟩

/-- What `getFirstExpired` leaves in the queue and what it returns was queued. -/
theorem getFirstExpired_items {queue : Queue} (t : Timeval) :
    (∀ a,∀ item∈itemsAt (getFirstExpired queue t).2 a,item∈itemsAt queue a) ∧
      ∀ item,(getFirstExpired queue t).1=some item → ∃ a,item∈itemsAt queue a := by
  rcases getFirstExpired_cases queue t with hn | ⟨a,addrs,first,others,-,hp,-,hq⟩
  · rw [hn]
    exact ⟨fun _ _ hi => hi,fun _ h => absurd h (Option.some_ne_none _).symm⟩
  · have hitems : itemsAt queue a=first::others := by rw [itemsAt,hp,Option.getD_some]
    rw [hq]
    refine ⟨fun b item hi => ?_,fun item h => ⟨a,?_⟩⟩
    · rw [itemsAt,removeFirst_getD] at hi
      split_ifs at hi with hab
      · rw [← hab,hitems]
        exact (List.mem_filter.mp hi).1
      · exact hi
    · rw [hitems,← Option.some.inj h]
      exact selectItem_mem first others

/-- Every event keeps the causes. -/
theorem CausedSoFar.step {s : Server Address} (h : CausedSoFar config start events s)
    (hs : s=run (step config) start events) (e : Event Address) :
    CausedSoFar config start (events++[e]) (step config s e) := by
  have hqueued : ∀ a,∀ item∈itemsAt s.queue a,Caused config start (events++[e]) item :=
    fun a item hi => (h.queued a item hi).later e
  have htaken : ∀ item t,s.item=some (item,t) → Caused config start (events++[e]) item :=
    fun item t hi => (h.taken item t hi).later e
  have hreplied : ∀ item∈replies s,Caused config start (events++[e]) item := fun item hi => (h.replied item hi).later e
  have hstored : ∀ entry∈s.receiver,StoredBy config start (events++[e]) entry := fun entry hi => (h.stored entry hi).later e
  rw [NetworkServer.step.eq_def]
  split
  · exact ⟨hqueued,htaken,hreplied,hstored⟩
  cases e with
  | datagram socket address receivedTime buffer =>
    have hfed := fed_receive config s socket address receivedTime buffer
    refine ⟨fun a item hi => ?_,fun item t hi => ?_,fun item hi => ?_,fun entry he => ?_⟩
    · rcases hfed.queued a item hi with ⟨old,ho,hk⟩ | ⟨origin,hc,hk⟩
      · obtain ⟨before,socket',address',time,buffer',after,origin,heq,hc,hold⟩ := hqueued a old ho
        exact ⟨before,socket',address',time,buffer',after,origin,heq,hc,hk.trans hold⟩
      · exact ⟨events,socket,address,receivedTime,buffer,[],origin,rfl,hs ▸ hc,hk⟩
    · exact htaken item t (hfed.item ▸ hi)
    · exact hreplied item (hfed.replies ▸ hi)
    · rcases hfed.stored entry he with ho | hnew
      · exact hstored entry ho
      · exact ⟨events,socket,address,receivedTime,buffer,[],rfl,hs ▸ hnew⟩
  | take now =>
    dsimp only [take]
    split
    · exact ⟨hqueued,htaken,hreplied,hstored⟩
    · obtain ⟨hleft,hreturned⟩ := @getFirstExpired_items s.queue now
      refine ⟨fun a item hi => hqueued a item (hleft a item hi),fun item t hi => ?_,hreplied,hstored⟩
      obtain ⟨found,hfound,heq⟩ := Option.map_eq_some_iff.mp hi
      obtain ⟨a,ha⟩ := hreturned found hfound
      obtain ⟨rfl,-⟩ := Prod.mk.inj heq
      exact hqueued a found ha
  | reply =>
    dsimp only [reply]
    split
    · exact ⟨hqueued,htaken,hreplied,hstored⟩
    · next item t hitem =>
      refine ⟨hqueued,fun _ _ hi => absurd hi (Option.some_ne_none _).symm,fun other ho => ?_,hstored⟩
      rw [replies,List.filterMap_append] at ho
      rcases List.mem_append.mp ho with ho | ho
      · exact hreplied other ho
      · obtain ⟨sent,hsent,hother⟩ := List.mem_filterMap.mp ho
        obtain ⟨sendto,-,rfl⟩ := Option.map_eq_some_iff.mp (Option.mem_toList.mp hsent)
        rw [← Option.some.inj hother]
        exact htaken item t hitem
  | identities identityService => exact ⟨hqueued,htaken,hreplied,hstored⟩

/-- All along the run everything has its cause. -/
theorem run_causedSoFar (config : Config) (gateways : Std.TreeMap UInt64 GatewayStat) (sockaddr : UInt64 → Address)
    (identityService : Option IdentityService) (history : Storage) (events : List (Event Address)) :
    CausedSoFar config (.start gateways sockaddr identityService history) events
      (run (NetworkServer.step config) (.start gateways sockaddr identityService history) events) := by
  induction events using List.reverseRecOn with
  | nil =>
    refine ⟨fun a item hi => ?_,fun _ _ hi => absurd hi (Option.some_ne_none _).symm,fun _ hi => absurd hi List.not_mem_nil,
      fun _ hi => absurd hi List.not_mem_nil⟩
    change item∈itemsAt Queue.empty a at hi
    rw [itemsAt_empty] at hi
    exact absurd hi List.not_mem_nil
  | append_singleton events e ih =>
    rw [run_append]
    exact ih.step rfl e

end Causes

/-- Items of an address that wait for the sender or were answered. -/
def answersAt (a : DEVADDR) (s : Server Address) : ℕ :=
  (itemsAt s.queue a).length+(s.item.toList.countP fun held => getAddr held.1=a)+
    (replies s).countP fun item => getAddr item=a

/-- The sender takes an item of the address in front and at least that one is gone. -/
theorem getFirstExpired_length {queue : Queue} (h : Sound queue) (t : Timeval) (a : DEVADDR) :
    (itemsAt (getFirstExpired queue t).2 a).length+
      ((getFirstExpired queue t).1.toList.countP fun item => getAddr item=a)≤(itemsAt queue a).length := by
  rcases getFirstExpired_cases queue t with hn | ⟨front,addrs,first,others,-,hp,-,hq⟩
  · rw [hn]
    exact Nat.le_refl _
  · have hitems : itemsAt queue front=first::others := by rw [itemsAt,hp,Option.getD_some]
    have haddr : getAddr (selectItem first others)=front :=
      h.addressed front _ (hitems ▸ selectItem_mem first others)
    rw [hq,itemsAt,removeFirst_getD]
    simp only [Option.toList_some,List.countP_singleton,haddr,decide_eq_true_eq]
    split_ifs with hab
    · subst hab
      have hfilter : ((first::others).filter fun item => itemFcnt item≠itemFcnt first).length≤others.length := by
        rw [List.filter_cons_of_neg (by
          simp only [ne_eq,not_true_eq_false,decide_false,Bool.false_eq_true,not_false_eq_true])]
        exact List.length_filter_le _ _
      rw [hitems,List.length_cons]
      exact Nat.succ_le_succ hfilter
    · exact Nat.le_refl _

/-- An event adds at most what it owes. -/
theorem answersAt_step (config : Config) {s : Server Address} (h : Sound s.queue) (e : Event Address) (a : DEVADDR) :
    answersAt a (step config s e)≤answersAt a s+owed config a s e ∧ Sound (step config s e).queue := by
  rw [NetworkServer.step.eq_def]
  split
  · exact ⟨Nat.le_add_right _ _,h⟩
  cases e with
  | datagram socket address receivedTime buffer =>
    have hfed := fed_receive config s socket address receivedTime buffer
    have hcount := hfed.count a
    refine ⟨?_,hfed.sound h⟩
    dsimp only [answersAt]
    rw [hfed.item,hfed.replies]
    omega
  | take now =>
    dsimp only [take]
    split
    · exact ⟨Nat.le_add_right _ _,h⟩
    · next hnone =>
      refine ⟨?_,getFirstExpired_sound h now⟩
      have hlength := getFirstExpired_length h now a
      have hheld : (((getFirstExpired s.queue now).1.map fun item => (item,now)).toList.countP fun held => getAddr held.1=a)=
          (getFirstExpired s.queue now).1.toList.countP fun item => getAddr item=a := by
        cases (getFirstExpired s.queue now).1 <;> rfl
      dsimp only [answersAt]
      rw [hheld]
      change _+_+(replies s).countP _≤ _
      omega
  | reply =>
    dsimp only [reply]
    split
    · exact ⟨Nat.le_add_right _ _,h⟩
    · next item t hitem =>
      refine ⟨?_,h⟩
      dsimp only [answersAt]
      rw [hitem,replies,List.filterMap_append,List.countP_append,Option.toList_none,List.countP_nil,Option.toList_some,
        List.countP_singleton,← replies]
      cases (answer config s item t).2 with
      | none =>
        rw [Option.map_none,Option.toList_none,List.filterMap_nil,List.countP_nil]
        omega
      | some sendto =>
        change _+0+(_+([item].countP fun item => getAddr item=a))≤ _
        rw [List.countP_singleton]
        dsimp only
        omega
  | identities identityService => exact ⟨Nat.le_add_right _ _,h⟩

/-- A run adds at most what its events owe. -/
theorem answersAt_run (config : Config) {s : Server Address} (h : Sound s.queue) (events : List (Event Address))
    (a : DEVADDR) : answersAt a (run (step config) s events)≤
      answersAt a s+(outputs (step config) (owed config a) s events).sum := by
  induction events generalizing s with
  | nil => exact Nat.le_add_right _ _
  | cons e events ih =>
    obtain ⟨hstep,hsound⟩ := answersAt_step config h e a
    have hrest := ih hsound
    rw [run_cons,outputs,List.sum_cons]
    omega

/-- In every run each reply and each stored packet goes back to a datagram that came
before it. -/
theorem run_caused (config : Config) (gateways : Std.TreeMap UInt64 GatewayStat) (sockaddr : UInt64 → Address)
    (identityService : Option IdentityService) (history : Storage) (events : List (Event Address)) :
    (∀ item∈replies (run (step config) (.start gateways sockaddr identityService history) events),
      Caused config (.start gateways sockaddr identityService history) events item) ∧
    ∀ entry∈(run (step config) (.start gateways sockaddr identityService history) events).receiver,
      StoredBy config (.start gateways sockaddr identityService history) events entry :=
  have hcauses := run_causedSoFar config gateways sockaddr identityService history events
  ⟨hcauses.replied,hcauses.stored⟩

/-- In every run no more is answered for an address than the listener handed over
for it, a join request counting twice. -/
theorem run_replies_bounded (config : Config) (gateways : Std.TreeMap UInt64 GatewayStat) (sockaddr : UInt64 → Address)
    (identityService : Option IdentityService) (history : Storage) (events : List (Event Address)) (a : DEVADDR) :
    (replies (run (step config) (.start gateways sockaddr identityService history) events)).countP
        (fun item => getAddr item=a)≤
      (outputs (step config) (owed config a) (.start gateways sockaddr identityService history) events).sum := by
  have hcount := answersAt_run config (s := .start gateways sockaddr identityService history) empty_sound events a
  have hnone : answersAt a (.start gateways sockaddr identityService history : Server Address)=0 := by
    rw [answersAt]
    change (itemsAt Queue.empty a).length+0+0=0
    rw [itemsAt_empty]
    rfl
  rw [answersAt,hnone] at hcount
  omega

end LorawanServer.NetworkServer
