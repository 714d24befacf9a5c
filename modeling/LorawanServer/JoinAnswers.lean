import LorawanServer.Datagram
import LorawanServer.QueueService

/-!
# The answers to many join requests

Join requests have no address, so the queue keeps all their answers in one slot
and tells them apart by the downlink counter of the device alone. Each request
gets its own two answers exactly when a history service supplies the counters
and all the counters taken are different in their sixteen low bits.
-/

namespace LorawanServer.JoinAnswers

open CppRuntime FrameCrypto Records DataFrame Datagram DeviceHistory PacketHandler StepRun PacketQueue
open QueueService

/-- The keys after a push: a key that is queued is not added again. -/
theorem pushItems_keys (items : List SemtechUDPPacketItem) (item : SemtechUDPPacketItem) :
    (pushItems items item).map mergeKey=
      if mergeKey item∈items.map mergeKey then items.map mergeKey else items.map mergeKey++[mergeKey item] := by
  rw [pushItems]
  by_cases hd : items.any (isDuplicate item)=true
  · rw [if_pos hd,if_pos ((any_isDuplicate_key item items).mp hd)]
    exact merge_map (absorb_eq (fun _ _ _ _ => rfl) item) items
  · rw [if_neg hd,if_neg (fun hk => hd ((any_isDuplicate_key item items).mpr hk)),List.map_append,
      List.map_singleton]

/-- Pushes add at most their keys, in their order. -/
theorem foldl_pushItems_sublist (pushes items : List SemtechUDPPacketItem) :
    ((pushes.foldl pushItems items).map mergeKey).Sublist (items.map mergeKey++pushes.map mergeKey) := by
  induction pushes generalizing items with
  | nil =>
    rw [List.foldl_nil,List.map_nil,List.append_nil]
  | cons item pushes ih =>
    rw [List.foldl_cons,List.map_cons]
    refine (ih (pushItems items item)).trans ?_
    rw [pushItems_keys]
    split_ifs
    · exact (List.Sublist.refl _).append (List.sublist_cons_self _ _)
    · rw [List.append_assoc,List.singleton_append]

/-- No key is queued twice. -/
theorem foldl_pushItems_nodup (pushes : List SemtechUDPPacketItem) {items : List SemtechUDPPacketItem}
    (h : (items.map mergeKey).Nodup) : ((pushes.foldl pushItems items).map mergeKey).Nodup := by
  induction pushes generalizing items with
  | nil => exact h
  | cons item pushes ih =>
    refine ih ?_
    rw [pushItems_keys]
    split_ifs with hk
    · exact h
    · rw [List.nodup_append]
      refine ⟨h,List.nodup_singleton _,fun key hin other hother => ?_⟩
      rw [List.mem_singleton.mp hother]
      exact fun he => hk (he ▸ hin)

/-- Pushes with different keys are all queued as they are. -/
theorem foldl_pushItems_eq {pushes items : List SemtechUDPPacketItem}
    (h : ((items++pushes).map mergeKey).Nodup) : pushes.foldl pushItems items=items++pushes := by
  induction pushes generalizing items with
  | nil => rw [List.foldl_nil,List.append_nil]
  | cons item pushes ih =>
    have hk : mergeKey item∉items.map mergeKey := by
      rw [List.map_append,List.nodup_append] at h
      intro hin
      exact h.2.2 _ hin _ (List.mem_map_of_mem List.mem_cons_self) rfl
    have hd : ¬items.any (isDuplicate item)=true := fun hd => hk ((any_isDuplicate_key item items).mp hd)
    rw [List.foldl_cons,pushItems,if_neg hd,ih]
    · rw [List.append_assoc,List.singleton_append]
    · rw [List.append_assoc,List.singleton_append]
      exact h

/-- With different labels every push is found by its label exactly when the keys
are different, too. -/
theorem foldl_pushItems_found_iff {β : Type*} {g : SemtechUDPPacketItem → β} {pushes : List SemtechUDPPacketItem}
    (hl : (pushes.map g).Nodup) :
    (∀ label∈pushes.map g,label∈(pushes.foldl pushItems []).map g) ↔ (pushes.map mergeKey).Nodup := by
  constructor
  · intro h
    -- as many items are queued as were pushed, so their keys are those of the pushes
    have hlen : (pushes.map g).length≤((pushes.foldl pushItems []).map g).length :=
      (hl.subperm h).length_le
    have hsub := foldl_pushItems_sublist pushes []
    rw [List.map_nil,List.nil_append] at hsub
    have heq := hsub.eq_of_length_le (by simpa only [List.length_map] using hlen)
    rw [←heq]
    exact foldl_pushItems_nodup pushes List.nodup_nil
  · intro h label hin
    have heq : pushes.foldl pushItems []=pushes := foldl_pushItems_eq (by rwa [List.nil_append])
    rw [heq]
    exact hin

/-- The queue after pushes into the empty one. -/
def queueAfter (pushes : List SemtechUDPPacketItem) : Queue := run queueStep Queue.empty (pushes.map .push)

/-- Pushes to one address fill its slot and no other one. -/
theorem itemsAt_run_push {pushes : List SemtechUDPPacketItem} {slot : DEVADDR}
    (h : ∀ item∈pushes,getAddr item=slot) (queue : Queue) (a : DEVADDR) :
    itemsAt (run queueStep queue (pushes.map .push)) a=
      if slot=a then pushes.foldl pushItems (itemsAt queue a) else itemsAt queue a := by
  induction pushes generalizing queue with
  | nil => exact (ite_self _).symm
  | cons item pushes ih =>
    have hi : itemsAt (push queue item) a=if slot=a then pushItems (itemsAt queue a) item else itemsAt queue a := by
      rw [itemsAt_push,h item List.mem_cons_self]
    refine (ih (fun other ho => h other (List.mem_cons_of_mem _ ho)) (push queue item)).trans ?_
    rw [hi,List.foldl_cons]
    split_ifs
    · rfl
    · rfl

/-- A join request as the datagram reader hands it over, of a device that the
identity service knows. -/
structure KnownRequest (crypto : Crypto) (identityService : IdentityService) where
  /-- When the request was received. -/
  time : Timeval
  /-- The packet. -/
  packet : SemtechUDPPacket
  /-- The join request in it. -/
  request : JoinRequestFrame
  /-- The identity of the device. -/
  identity : NetworkIdentity
  /-- The reader built the packet from a join frame. -/
  built : ∃ gwPrefix reception frame,isJoinType frame=true ∧
    received crypto (some identityService) gwPrefix reception frame=.ok packet
  /-- The payload is a join request. -/
  parsed : getJoinRequestFrame packet=some request
  /-- The device is known. -/
  known : identityService.getNetworkIdentity request.devEUI=.ok identity


/-- A packet of a join has no address, no port and no counter, and one
reception. -/
theorem received_join {crypto : Crypto} {identityService : Option IdentityService} {gwPrefix : SemtechPrefixGw}
    {reception : RfmMetaData} {frame : Bytes} {packet : SemtechUDPPacket} (hj : isJoinType frame=true)
    (h : received crypto identityService gwPrefix reception frame=.ok packet) :
    packet.header.header.devaddr=0 ∧ packet.header.fport=0 ∧ packet.header.header.fcnt=0 ∧
      packet.metadata.length=1 := by
  obtain ⟨result,hr,hp⟩ := bind_eq_ok.mp h
  rw [←Except.ok.inj hp]
  unfold parseData at hr
  split at hr
  · obtain ⟨payload,-,hr⟩ := bind_eq_ok.mp hr
    rw [←Except.ok.inj hr]
    exact ⟨rfl,rfl,rfl,rfl⟩
  · next hrequest =>
    split at hr
    · rw [←Except.ok.inj hr]
      exact ⟨rfl,rfl,rfl,rfl⟩
    · next haccept =>
      have hm : mtype (frame.headD 0)<2 := of_decide_eq_true hj
      have h0 : mtype (frame.headD 0)≠0 := hrequest
      have h1 : mtype (frame.headD 0)≠1 := haccept
      omega

section Requests

variable {crypto : Crypto} {identityService : IdentityService}

/-- The packet that `join` hands to `enqueueJoinResponse`. -/
def KnownRequest.value (request : KnownRequest crypto identityService) : SemtechUDPPacket :=
  {request.packet with devId := request.identity.toDeviceId}

/-- `join` for one request after another. -/
def joinAll (processor : LoraPacketProcessor) (uninitialised : UInt32) :
    Services → List (KnownRequest crypto identityService) → Except Fault Services
  | services,[] => .ok services
  | services,request::requests => do
    let (services,_) ← join processor uninitialised services request.time request.packet
    joinAll processor uninitialised services requests

/-- The label of an item: what it is for, when it is due, its payload and its
device. -/
def answerLabel (item : SemtechUDPPacketItem) : ItemProcessMode×Timeval×Bytes×DeviceId :=
  (item.processMode,item.time2send,item.packet.payload,item.packet.devId)

/-- The labels of the two answers to a request, one for each window. -/
def KnownRequest.labels (request : KnownRequest crypto identityService) :
    List (ItemProcessMode×Timeval×Bytes×DeviceId) :=
  [joinAcceptDelay1,joinAcceptDelay2].map fun delay =>
    (.joinResponse,⟨request.time.tvSec+delay,request.time.tvUsec⟩,request.packet.payload,
      request.identity.toDeviceId)

/-- Every request is handled and has its two answers in the queue, and no item
has the receptions of two requests. -/
def OwnAnswers (processor : LoraPacketProcessor) (uninitialised : UInt32) (history : Option Storage)
    (requests : List (KnownRequest crypto identityService)) : Prop :=
  ∃ services,joinAll processor uninitialised ⟨history,[],[]⟩ requests=.ok services ∧
    (∀ request∈requests,∀ label∈request.labels,
      ∃ a,∃ item∈itemsAt (queueAfter services.queue) a,answerLabel item=label) ∧
    ∀ a,∀ item∈itemsAt (queueAfter services.queue) a,item.packet.metadata.length=1

/-- The counters that the requests take, two for each, from the counters stored
for the addresses of their devices. -/
def nextCounters (counter : DEVADDR → UInt32) : List DEVADDR → List UInt16
  | [] => []
  | a::addrs => (counter a+1).toUInt16::(counter a+1+1).toUInt16::
      nextCounters (Function.update counter a (counter a+1+1)) addrs

/-- Nothing is merged: there is a logger and a history, and the counters that
the requests take are different. -/
def KeptApart (processor : LoraPacketProcessor) (history : Option Storage)
    (requests : List (KnownRequest crypto identityService)) : Prop :=
  requests=[] ∨ (processor.onLog=true ∧ ∃ storage,history=some storage ∧
    (nextCounters (fcntdown storage) (requests.map (·.identity.devaddr))).Nodup)

/-- The counters that the answers to a request carry. -/
def answerCounters (history : Option Storage) (addr : DEVADDR) : List UInt16 :=
  match history with
  | none => [0,0]
  | some storage => [(fcntdown storage addr+1).toUInt16,(fcntdown storage addr+1+1).toUInt16]

/-- The history after a request. -/
def answeredHistory (history : Option Storage) (addr : DEVADDR) (time : Timeval) : Option Storage :=
  history.map fun storage => (incrementDown (incrementDown storage addr time.tvSec).1 addr time.tvSec).1

/-- Items that carry labels and counters, without address or port and each with
one reception. -/
structure Answers (labels : List (ItemProcessMode×Timeval×Bytes×DeviceId)) (counters : List UInt16)
    (items : List SemtechUDPPacketItem) : Prop where
  /-- Their labels. -/
  labels : items.map answerLabel=labels
  /-- Their counters. -/
  counters : items.map itemFcnt=counters
  /-- They have no address, no port and one reception. -/
  plain : ∀ item∈items,getAddr item=0 ∧ itemPort item=0 ∧ item.packet.metadata.length=1

/-- Answers behind answers. -/
theorem Answers.append {labels labels' : List (ItemProcessMode×Timeval×Bytes×DeviceId)}
    {counters counters' : List UInt16} {items items' : List SemtechUDPPacketItem} (h : Answers labels counters items)
    (h' : Answers labels' counters' items') :
    Answers (labels++labels') (counters++counters') (items++items') := by
  constructor
  · rw [List.map_append,h.labels,h'.labels]
  · rw [List.map_append,h.counters,h'.counters]
  · exact List.forall_mem_append.mpr ⟨h.plain,h'.plain⟩

/-- The two items of a request are its answers. -/
theorem joinAnswers_answers (processor : LoraPacketProcessor) (uninitialised : UInt32) (services : Services)
    (request : KnownRequest crypto identityService) :
    Answers request.labels (answerCounters services.history request.identity.devaddr)
      (joinAnswers processor uninitialised services request.time request.identity.devaddr request.value) := by
  obtain ⟨gwPrefix,reception,frame,hj,hbuilt⟩ := request.built
  obtain ⟨haddr,hport,hfcnt,hmeta⟩ := received_join hj hbuilt
  obtain ⟨m,hm⟩ := List.length_eq_one_iff.mp hmeta
  constructor
  · cases hh : services.history <;> cases hp : processor.deviceChannelPlan <;>
      simp only [joinAnswers,countJoinResponse,setJoinAcceptDelay,hh,hp] <;> rfl
  · cases hh : services.history with
    | none =>
      simp only [joinAnswers,countJoinResponse,setJoinAcceptDelay,hh,List.map_cons,List.map_nil,itemFcnt,
        KnownRequest.value,hfcnt,answerCounters]
    | some storage =>
      simp only [joinAnswers,countJoinResponse,setJoinAcceptDelay,hh,List.map_cons,List.map_nil,itemFcnt,
        answerCounters,incrementDown_counter,fcntdown_incrementDown,if_true]
  · cases hh : services.history <;>
      simp only [joinAnswers,countJoinResponse,setJoinAcceptDelay,hh,List.forall_mem_cons,KnownRequest.value,
        getAddr,itemPort,haddr,hport,hm,List.length_singleton,List.not_mem_nil,false_implies,implies_true,and_self]

/-- A request of a known device goes to `enqueueJoinResponse`. -/
theorem join_eq {processor : LoraPacketProcessor} (hi : processor.identityService=some identityService)
    (uninitialised : UInt32) (services : Services) (request : KnownRequest crypto identityService) :
    join processor uninitialised services request.time request.packet=
      (enqueueJoinResponse processor uninitialised services request.time request.identity.devaddr
        request.value).map fun result => (result.1,result.2,LORA_OK) := by
  simp only [join,hi,request.parsed,request.known]
  change enqueueJoinResponse processor uninitialised services request.time request.identity.devaddr
    request.value>>=_=_
  cases enqueueJoinResponse processor uninitialised services request.time request.identity.devaddr
    request.value <;> rfl

/-- With a logger an identified request is answered. -/
theorem join_known {processor : LoraPacketProcessor} (hi : processor.identityService=some identityService)
    (hlog : processor.onLog=true) (uninitialised : UInt32) (services : Services)
    (request : KnownRequest crypto identityService) :
    ∃ services' packet',join processor uninitialised services request.time request.packet=
        .ok (services',packet',LORA_OK) ∧
      services'.history=answeredHistory services.history request.identity.devaddr request.time ∧
      ∃ answers,services'.queue=services.queue++answers ∧
        Answers request.labels (answerCounters services.history request.identity.devaddr) answers := by
  obtain ⟨services',packet',he⟩ := enqueueJoinResponse_logged hlog uninitialised services request.time
    request.identity.devaddr request.value
  refine ⟨services',packet',?_,enqueueJoinResponse_history he,_,enqueueJoinResponse_queue he,
    joinAnswers_answers processor uninitialised services request⟩
  rw [join_eq hi,he]
  rfl

/-- The counters that requests take from a history, or zero without one. -/
def takenCounters (history : Option Storage) (addrs : List DEVADDR) : List UInt16 :=
  match history with
  | none => addrs.flatMap fun _ => [0,0]
  | some storage => nextCounters (fcntdown storage) addrs

/-- One request takes its counters from the history, the others from what it
leaves. -/
theorem takenCounters_cons (history : Option Storage) (a : DEVADDR) (time : Timeval) (addrs : List DEVADDR) :
    takenCounters history (a::addrs)=
      answerCounters history a++takenCounters (answeredHistory history a time) addrs := by
  cases history with
  | none => rfl
  | some storage =>
    have hupdate : fcntdown (incrementDown (incrementDown storage a time.tvSec).1 a time.tvSec).1=
        Function.update (fcntdown storage) a (fcntdown storage a+1+1) := by
      funext other
      rw [fcntdown_incrementDown,fcntdown_incrementDown]
      by_cases ho : a=other
      · rw [if_pos ho,if_pos ho,←ho,Function.update_self]
      · rw [if_neg ho,if_neg ho,Function.update_of_ne (Ne.symm ho)]
    simp only [takenCounters,answerCounters,answeredHistory,Option.map_some,nextCounters,hupdate,List.cons_append,
      List.nil_append]

/-- With a logger every request is handled, and the items pushed are the answers
to the requests in their order. -/
theorem joinAll_answers {processor : LoraPacketProcessor} (hi : processor.identityService=some identityService)
    (hlog : processor.onLog=true) (uninitialised : UInt32) (services : Services)
    (requests : List (KnownRequest crypto identityService)) :
    ∃ services' answers,joinAll processor uninitialised services requests=.ok services' ∧
      services'.queue=services.queue++answers ∧
      Answers (requests.flatMap (·.labels))
        (takenCounters services.history (requests.map (·.identity.devaddr))) answers := by
  induction requests generalizing services with
  | nil =>
    refine ⟨services,[],rfl,(List.append_nil _).symm,rfl,?_,fun item h => absurd h List.not_mem_nil⟩
    cases services.history <;> rfl
  | cons request requests ih =>
    obtain ⟨first,packet',hjoin,hhistory,answers,hqueue,hanswers⟩ :=
      join_known hi hlog uninitialised services request
    obtain ⟨services',others,hall,hqueue',hothers⟩ := ih first
    refine ⟨services',answers++others,?_,?_,?_⟩
    · rw [joinAll,hjoin]
      exact hall
    · rw [hqueue',hqueue,List.append_assoc]
    · rw [List.flatMap_cons,List.map_cons,takenCounters_cons _ _ request.time,←hhistory]
      exact hanswers.append hothers

/-- Without a logger the first request stops the handler. -/
theorem joinAll_unlogged {processor : LoraPacketProcessor} (hi : processor.identityService=some identityService)
    (hlog : processor.onLog=false) (uninitialised : UInt32) (services : Services)
    (request : KnownRequest crypto identityService) (requests : List (KnownRequest crypto identityService)) :
    joinAll processor uninitialised services (request::requests)=.error .nullPointer := by
  rw [joinAll,join_eq hi,enqueueJoinResponse_unlogged hlog]
  rfl

/-- Requests of different devices have different labels. -/
theorem labels_nodup {requests : List (KnownRequest crypto identityService)}
    (hd : (requests.map (·.request.devEUI)).Nodup) : (requests.flatMap (·.labels)).Nodup := by
  rw [List.nodup_flatMap]
  constructor
  · intro request _
    refine List.Nodup.map_on ?_ (by decide)
    intro delay _ other _ he
    have hsec := congrArg Timeval.tvSec (Prod.mk.inj (Prod.mk.inj he).2).1
    exact Int.add_left_cancel hsec
  · refine (List.pairwise_map.mp hd).imp ?_
    intro request other hne label hin hin'
    obtain ⟨delay,-,rfl⟩ := List.mem_map.mp hin
    obtain ⟨delay',-,he⟩ := List.mem_map.mp hin'
    -- equal payloads hold one request
    have hpayload : other.packet.payload=request.packet.payload :=
      (Prod.mk.inj (Prod.mk.inj (Prod.mk.inj he).2).2).1
    have hframe : getJoinRequestFrame other.packet=getJoinRequestFrame request.packet := by
      simp only [getJoinRequestFrame,hpayload]
    rw [other.parsed,request.parsed] at hframe
    exact hne (congrArg JoinRequestFrame.devEUI (Option.some.inj hframe)).symm

/-- Answers are told apart by their counters alone. -/
theorem Answers.keys_nodup_iff {labels : List (ItemProcessMode×Timeval×Bytes×DeviceId)} {counters : List UInt16}
    {items : List SemtechUDPPacketItem} (h : Answers labels counters items) :
    (items.map mergeKey).Nodup ↔ counters.Nodup := by
  have hkeys : items.map mergeKey=counters.map fun counter => ((0,counter) : UInt8×UInt16) := by
    rw [←h.counters,List.map_map]
    refine List.map_congr_left fun item hitem => ?_
    rw [mergeKey,(h.plain item hitem).2.1]
    rfl
  rw [hkeys]
  exact List.nodup_map_iff fun counter other he => (Prod.mk.inj he).2

/-- All answers are in the queue, and none of them is merged, exactly when their
counters are different. -/
theorem Answers.held_iff {labels : List (ItemProcessMode×Timeval×Bytes×DeviceId)} {counters : List UInt16}
    {items : List SemtechUDPPacketItem} (h : Answers labels counters items) (hl : labels.Nodup) :
    ((∀ label∈labels,∃ a,∃ item∈itemsAt (queueAfter items) a,answerLabel item=label) ∧
        ∀ a,∀ item∈itemsAt (queueAfter items) a,item.packet.metadata.length=1) ↔ counters.Nodup := by
  have hitems : ∀ a,itemsAt (queueAfter items) a=if 0=a then items.foldl pushItems [] else [] := by
    intro a
    rw [queueAfter,itemsAt_run_push (fun item hitem => (h.plain item hitem).1),itemsAt_empty]
  have hlabels : (items.map answerLabel).Nodup := by rwa [h.labels]
  rw [←h.keys_nodup_iff]
  constructor
  · intro hheld
    refine (foldl_pushItems_found_iff hlabels).mp fun label hlabel => ?_
    rw [h.labels] at hlabel
    obtain ⟨a,item,hitem,rfl⟩ := hheld.1 label hlabel
    rw [hitems] at hitem
    split_ifs at hitem
    · exact List.mem_map_of_mem hitem
    · exact absurd hitem List.not_mem_nil
  · intro hkeys
    have hall : items.foldl pushItems []=items := foldl_pushItems_eq (by rwa [List.nil_append])
    constructor
    · intro label hlabel
      rw [←h.labels] at hlabel
      obtain ⟨item,hitem,he⟩ := List.mem_map.mp hlabel
      refine ⟨0,item,?_,he⟩
      rw [hitems,if_pos rfl,hall]
      exact hitem
    · intro a item hitem
      rw [hitems,hall] at hitem
      split_ifs at hitem
      · exact (h.plain item hitem).2.2
      · exact absurd hitem List.not_mem_nil

/-- Requests take different counters exactly when there are none, or a history
supplies different ones. -/
theorem takenCounters_nodup_iff (history : Option Storage) (addrs : List DEVADDR) :
    (takenCounters history addrs).Nodup ↔
      addrs=[] ∨ ∃ storage,history=some storage ∧ (nextCounters (fcntdown storage) addrs).Nodup := by
  cases addrs with
  | nil =>
    refine iff_of_true ?_ (Or.inl rfl)
    cases history <;> exact List.nodup_nil
  | cons a addrs =>
    cases history with
    | none =>
      simp only [takenCounters,List.flatMap_cons,List.cons_append,List.nodup_cons,List.mem_cons,true_or,
        not_true_eq_false,false_and,reduceCtorEq,exists_false,or_self]
    | some storage =>
      simp only [takenCounters,reduceCtorEq,Option.some.injEq,exists_eq_left',false_or]

/-- Requests that get their own answers are kept apart. -/
theorem OwnAnswers.keptApart {processor : LoraPacketProcessor} {uninitialised : UInt32} {history : Option Storage}
    {requests : List (KnownRequest crypto identityService)} (h : OwnAnswers processor uninitialised history requests)
    (hi : processor.identityService=some identityService) (hd : (requests.map (·.request.devEUI)).Nodup) :
    KeptApart processor history requests := by
  obtain ⟨services',hs,hown,hone⟩ := h
  cases hlog : processor.onLog with
  | false =>
    cases requests with
    | nil => exact Or.inl rfl
    | cons request requests =>
      rw [joinAll_unlogged hi hlog] at hs
      cases hs
  | true =>
    obtain ⟨services,answers,hall,hqueue,hanswers⟩ := joinAll_answers hi hlog uninitialised ⟨history,[],[]⟩ requests
    obtain rfl := Except.ok.inj (hs.symm.trans hall)
    rw [List.nil_append] at hqueue
    rw [hqueue] at hown hone
    have hcounters := (hanswers.held_iff (labels_nodup hd)).mp ⟨fun label hlabel => by
      obtain ⟨request,hr,hl⟩ := List.mem_flatMap.mp hlabel
      exact hown request hr label hl,hone⟩
    rcases (takenCounters_nodup_iff history _).mp hcounters with hnil | hnodup
    · exact Or.inl (List.map_eq_nil_iff.mp hnil)
    · exact Or.inr ⟨hlog,hnodup⟩

/-- Requests that are kept apart get their own answers. -/
theorem KeptApart.ownAnswers {processor : LoraPacketProcessor} {history : Option Storage}
    {requests : List (KnownRequest crypto identityService)} (h : KeptApart processor history requests)
    (hi : processor.identityService=some identityService) (hd : (requests.map (·.request.devEUI)).Nodup)
    (uninitialised : UInt32) : OwnAnswers processor uninitialised history requests := by
  rcases h with rfl | ⟨hlog,hnodup⟩
  · refine ⟨_,rfl,fun request h => absurd h List.not_mem_nil,fun a item h => ?_⟩
    exact absurd (itemsAt_empty a ▸ h) List.not_mem_nil
  · obtain ⟨services,answers,hall,hqueue,hanswers⟩ := joinAll_answers hi hlog uninitialised ⟨history,[],[]⟩ requests
    obtain ⟨hown,hone⟩ := (hanswers.held_iff (labels_nodup hd)).mpr
      ((takenCounters_nodup_iff history _).mpr (Or.inr hnodup))
    rw [List.nil_append] at hqueue
    rw [←hqueue] at hown hone
    exact ⟨services,hall,fun request hr label hl => hown label (List.mem_flatMap.mpr ⟨request,hr,hl⟩),hone⟩

/-- Join requests of different known devices get their own answers exactly when
there is no request, or a logger and a history are attached and the counters
that the requests take are different. -/
theorem own_answers_iff {processor : LoraPacketProcessor} {requests : List (KnownRequest crypto identityService)}
    (hi : processor.identityService=some identityService) (hd : (requests.map (·.request.devEUI)).Nodup)
    (uninitialised : UInt32) (history : Option Storage) :
    OwnAnswers processor uninitialised history requests ↔ KeptApart processor history requests :=
  ⟨fun h => h.keptApart hi hd,fun h => h.ownAnswers hi hd uninitialised⟩

end Requests

/-- A service that stores every device under the low bits of its identifier. -/
def sampleService : IdentityService where
  get _ := .ok DeviceId.empty
  getNetworkIdentity devEUI := .ok ⟨{DeviceId.empty with devEUI := devEUI},devEUI.toUInt32⟩
  canControlService _ := false

/-- The join request of a device: join identifier, device identifier, nonce. -/
def samplePayload (device : UInt8) : Bytes := List.replicate 8 0++device::List.replicate 9 0

/-- The members of that request. -/
def sampleFrame (device : UInt8) : JoinRequestFrame where
  joinEUI := UInt64.ofNat (leValue ((samplePayload device).take 8))
  devEUI := UInt64.ofNat (leValue (((samplePayload device).drop 8).take 8))
  devNonce := UInt16.ofNat (leValue ((samplePayload device).drop 16))

/-- The packet of the request, which a gateway passes on between header and
integrity code. -/
def samplePacket (device : UInt8) : SemtechUDPPacket :=
  {newPacket ⟨2,0,0,7⟩ (RfmMetaData.initial 0 0) with
    payload := samplePayload device
    header := {RfmHeader.empty with header := {RfmHeader.empty.header with macheader := 0}}
    errcode := ERR_CODE_IS_JOIN}

/-- The reader builds that packet. -/
theorem received_samplePacket (device : UInt8) :
    received (spotCrypto zeroKey (constBlock 0) zeroKey []) (some sampleService) ⟨2,0,0,7⟩ (RfmMetaData.initial 0 0)
      (0::(samplePayload device++[0,0,0,0]))=.ok (samplePacket device) := by
  have hm : mtype 0=MTYPE_JOIN_REQUEST := by decide
  have hl : (0::(samplePayload device++[0,0,0,0])).length=23 := rfl
  have hs : sizeSub (sizeSub 23 1) 4=18 := by decide
  rw [received,parseData,List.headD_cons,if_pos hm,hl,hs,substr_of_le (by rw [hl]; decide)]
  rfl

/-- The request for the handler. -/
def sampleRequest (device : UInt8) :
    KnownRequest (spotCrypto zeroKey (constBlock 0) zeroKey []) sampleService where
  time := ⟨0,0⟩
  packet := samplePacket device
  request := sampleFrame device
  identity := ⟨{DeviceId.empty with devEUI := (sampleFrame device).devEUI},(sampleFrame device).devEUI.toUInt32⟩
  built := ⟨⟨2,0,0,7⟩,RfmMetaData.initial 0 0,0::(samplePayload device++[0,0,0,0]),
    decide_eq_true (show mtype 0<2 by decide),received_samplePacket device⟩
  parsed := if_pos rfl
  known := rfl

/-- A handler with that service and a logger. -/
def sampleHandler : LoraPacketProcessor := ⟨some sampleService,none,false,true,0⟩

/-- One device gets its own answers when a history is attached. -/
theorem own_answers_single : OwnAnswers sampleHandler 0 (some ∅) [sampleRequest 1] := by
  have hd : ([sampleRequest 1].map (·.request.devEUI)).Nodup := List.nodup_singleton _
  have hn : (nextCounters (fcntdown ∅) ([sampleRequest 1].map (·.identity.devaddr))).Nodup := by decide +kernel
  exact (own_answers_iff rfl hd 0 (some ∅)).mpr (Or.inr ⟨rfl,∅,rfl,hn⟩)

/-- Without a history the two answers to one device are merged, and with one the
answers to two devices that never had a downlink are. -/
theorem join_answers_merged :
    ¬OwnAnswers sampleHandler 0 none [sampleRequest 1] ∧
      ¬OwnAnswers sampleHandler 0 (some ∅) [sampleRequest 1,sampleRequest 2] := by
  constructor
  · intro h
    rcases h.keptApart rfl (List.nodup_singleton _) with hnil | ⟨-,storage,hs,-⟩
    · cases hnil
    · cases hs
  · intro h
    rcases h.keptApart rfl (by decide +kernel) with hnil | ⟨-,storage,hs,hn⟩
    · cases hnil
    · obtain rfl := Option.some.inj hs
      exact absurd hn (by decide +kernel)

end LorawanServer.JoinAnswers
