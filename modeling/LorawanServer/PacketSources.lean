import LorawanServer.PacketDispatch
import LorawanServer.QueueService
import LorawanServer.UsbListener

/-!
# The two sources of packets

A frame reaches the packet handler in a datagram or from an attached gateway.
Both paths build the same packet but for its prefix, and both hand over data
frames alike; only the UDP listener hands over join messages. The prefixes
differ in the byte order of the gateway identifier, and a push that finds its
packet queued already records the identifier of the prefix.
-/

namespace LorawanServer.PacketSources

open CppRuntime FrameCrypto Records DataFrame JsonDocument Datagram PacketHandler Listener
open DatagramSafety PacketDispatch StepRun PacketQueue QueueService UsbListener

/-- Two calls hand over one packet in the same way; the prefixes of the packets
are not compared. -/
def SameCall : Call → Call → Prop
  | .put time packet,.put time' packet' => time=time' ∧ {packet with gwPrefix := packet'.gwPrefix}=packet'
  | .join time packet,.join time' packet' => time=time' ∧ {packet with gwPrefix := packet'.gwPrefix}=packet'
  | _,_ => False

/-- The attached gateway and a datagram cause the same calls for a packet, or
neither of them gets that far. -/
def SameDelivery (usb : Except Fault (List Call)) (udp : Except Fault BufferResult) : Prop :=
  match usb,udp with
  | .ok calls,.ok result => List.Forall₂ SameCall calls (result.calls.filter isDispatch)
  | .error _,.error _ => True
  | _,_ => False

/-- No call from the attached gateway is not one call from a datagram. -/
theorem not_sameDelivery {usb : Except Fault (List Call)} {udp : Except Fault BufferResult} (husb : usb=.ok [])
    (hudp : (udp.map fun result => (result.calls.filter isDispatch).length)=.ok 1) : ¬SameDelivery usb udp := by
  intro h
  rw [husb] at h
  cases udp with
  | error fault => exact h
  | ok result =>
    have hn : result.calls.filter isDispatch=[] := List.forall₂_nil_left_iff.mp h
    have hone : (result.calls.filter isDispatch).length=1 := Except.ok.inj hudp
    rw [hn] at hone
    cases hone

/-- The calls for a datagram with one packet. -/
theorem filter_calls_single (time : Timeval) (retPrefix : SemtechPrefixGw) (retGWStat : GatewayStat)
    (packet : SemtechUDPPacket) :
    (answerPushData time ⟨retPrefix,retGWStat,if isReturned packet then [packet] else [],packet.errcode⟩++
      putPackets time (if isReturned packet then [packet] else []) packet.errcode++
      reflectStat retGWStat packet.errcode).filter isDispatch=(dispatchCall time packet).toList := by
  rw [List.filter_append,List.filter_append,filter_answerPushData,filter_putPackets,filter_reflectStat,
    List.append_nil,dispatchCall]
  by_cases hok : packet.errcode=LORA_OK
  · have hr : isReturned packet=true := decide_eq_true (Or.inl hok)
    have hj : packet.errcode≠ERR_CODE_IS_JOIN := by
      rw [hok]
      decide
    have hsilent : isSilent packet.errcode=false := by
      rw [hok]
      decide
    rw [if_pos hr,if_pos hok,if_neg hj,putPackets,hsilent,if_neg Bool.false_ne_true,List.filter_cons,
      if_pos (decide_eq_true hok)]
    rfl
  · rw [if_neg hok]
    by_cases hj : packet.errcode=ERR_CODE_IS_JOIN
    · have hr : isReturned packet=true := decide_eq_true (Or.inr hj)
      rw [if_pos hr,if_pos hj,if_pos hj,putPackets,hj]
      rfl
    · have hr : ¬isReturned packet=true := fun hr => (of_decide_eq_true hr).elim hok hj
      rw [if_neg hr,if_neg hj,if_neg hj,putPackets]
      split_ifs
      · rfl
      · rfl

section Delivery

variable {host : Host} {crypto : Crypto} {identityService : Option IdentityService} {gw : SemtechPrefixGw}
  {text : Bytes} {members object : Members} {m : RfmMetaData} {size : Option ℤ} {frame : Bytes}

/-- What a datagram with one radio object causes. -/
theorem parseBuffer_single (hv : gw.version=2) (ht : gw.tag=0) (hne : text≠[])
    (hj : host.parseJson (cString text)=some (.object members)) (hs : members.lookup (ascii "stat")=none)
    (ha : members.lookup (ascii "rxpk")=some (.array [.object object]))
    (hm : parseRX host (RfmMetaData.initial host.now host.tmst) object=.ok (m,size,frame)) (time : Timeval) :
    ((parseBuffer host crypto identityService time (gw.toBytes++text)).map fun result =>
        result.calls.filter isDispatch)=
      (received crypto identityService (swapMac gw) m frame).map fun packet =>
        (dispatchCall time packet).toList := by
  rw [parseBuffer_pushData hv ht hne hj]
  simp only [parseDocument,hs,parsePackets,ha,parseRxpk,receivedRX,hm]
  change Except.map _ ((((received crypto identityService (swapMac gw) m frame>>=_)>>=_)>>=_))=_
  cases received crypto identityService (swapMac gw) m frame with
  | error fault => rfl
  | ok packet =>
    exact congrArg Except.ok (filter_calls_single time (swapMac gw)
      {GatewayStat.empty with errcode := ERR_CODE_NO_GATEWAY_STAT} packet)

/-- The attached gateway hands over data packets only. -/
theorem onUpstream_eq {gatewayId : UInt64} (hg : gw.mac=gatewayId) (time : Timeval) :
    onUpstream crypto identityService time gatewayId m frame=
      (received crypto identityService gw m frame).map fun packet =>
        if packet.errcode≠LORA_OK then [] else [.put time {packet with gwPrefix := usbPrefix gatewayId}] := by
  unfold onUpstream
  rw [upstreamPacket_eq crypto identityService hg]
  cases received crypto identityService gw m frame with
  | error fault => rfl
  | ok packet => rfl

/-- One packet is delivered alike by both sources unless it is a join message. -/
theorem sameCall_packet_iff (time : Timeval) (packet : SemtechUDPPacket) (gatewayId : UInt64) :
    List.Forall₂ SameCall
        (if packet.errcode≠LORA_OK then [] else [.put time {packet with gwPrefix := usbPrefix gatewayId}])
        (dispatchCall time packet).toList ↔ packet.errcode≠ERR_CODE_IS_JOIN := by
  rw [dispatchCall]
  by_cases hok : packet.errcode=LORA_OK
  · rw [if_neg (not_not.mpr hok),if_pos hok]
    refine iff_of_true (.cons ⟨rfl,rfl⟩ .nil) ?_
    rw [hok]
    decide
  · rw [if_pos hok,if_neg hok]
    by_cases hj : packet.errcode=ERR_CODE_IS_JOIN
    · rw [if_pos hj]
      refine iff_of_false ?_ (not_not.mpr hj)
      intro h
      cases h
    · rw [if_neg hj]
      exact iff_of_true .nil hj

/-- The two sources agree on a frame of one gateway exactly when it is empty,
which stops both of them, or not a join message. -/
theorem sources_agree_iff (hne : text≠[])
    (hj : host.parseJson (cString text)=some (.object members)) (hs : members.lookup (ascii "stat")=none)
    (ha : members.lookup (ascii "rxpk")=some (.array [.object object]))
    (hm : parseRX host (RfmMetaData.initial host.now host.tmst) object=.ok (m,size,frame)) (time : Timeval)
    (token : UInt16) (gatewayId : UInt64) :
    SameDelivery (onUpstream crypto identityService time gatewayId m frame)
        (parseBuffer host crypto identityService time
          ((⟨2,token,0,int2deveui gatewayId⟩ : SemtechPrefixGw).toBytes++text)) ↔
      frame=[] ∨ isJoinType frame=false := by
  generalize hgw : (⟨2,token,0,int2deveui gatewayId⟩ : SemtechPrefixGw)=gw
  have hv : gw.version=2 := hgw ▸ rfl
  have ht : gw.tag=0 := hgw ▸ rfl
  have hmac : (swapMac gw).mac=gatewayId := hgw ▸ deveui2int_int2deveui gatewayId
  have hudp : ((parseBuffer host crypto identityService time (gw.toBytes++text)).map fun result =>
      result.calls.filter isDispatch)=_ := parseBuffer_single hv ht hne hj hs ha hm time
  rw [onUpstream_eq hmac]
  cases hr : received crypto identityService (swapMac gw) m frame with
  | error fault =>
    rw [hr] at hudp
    have hframe : frame=[] := by
      by_contra hf
      obtain ⟨packet,hp⟩ := (received_returns_iff crypto identityService (swapMac gw) m frame).mpr hf
      rw [hr] at hp
      cases hp
    cases hb : parseBuffer host crypto identityService time (gw.toBytes++text) with
    | error fault' => exact iff_of_true trivial (Or.inl hframe)
    | ok result =>
      rw [hb] at hudp
      cases hudp
  | ok packet =>
    rw [hr] at hudp
    cases hb : parseBuffer host crypto identityService time (gw.toBytes++text) with
    | error fault =>
      rw [hb] at hudp
      cases hudp
    | ok result =>
      rw [hb] at hudp
      have hcalls : result.calls.filter isDispatch=(dispatchCall time packet).toList := Except.ok.inj hudp
      have hframe : frame≠[] := (received_returns_iff crypto identityService (swapMac gw) m frame).mp ⟨packet,hr⟩
      obtain ⟨⟨parsed,code⟩,hparse,hp⟩ := bind_eq_ok.mp hr
      have hcode : packet.errcode=code := congrArg SemtechUDPPacket.errcode (Except.ok.inj hp).symm
      change List.Forall₂ SameCall _ (result.calls.filter isDispatch) ↔ _
      rw [hcalls,or_iff_right hframe,←Bool.not_eq_true,←parseData_join_iff hparse,←hcode]
      exact sameCall_packet_iff time packet gatewayId

end Delivery

/-- The datagram of a gateway with one radio object. -/
def sampleDelivery (gatewayId : UInt64) (text : String) : Bytes :=
  (⟨2,0,0,int2deveui gatewayId⟩ : SemtechPrefixGw).toBytes++ascii text

/-- A host that reads the datagram with one data frame. -/
def sampleHost : Host := {referenceHost with parseJson := fun _ => some (.object (sampleMembers none [dataObject]))}

/-- A data frame of device 0 is put by both sources. -/
theorem data_frame_sources_agree :
    SameDelivery
      (onUpstream zeroCrypto (some (constService DeviceId.empty)) ⟨0,0⟩ 0x0102030405060708
        (RfmMetaData.initial 0 0) (parseFrame dataObject))
      (parseBuffer sampleHost zeroCrypto (some (constService DeviceId.empty)) ⟨0,0⟩
        (sampleDelivery 0x0102030405060708 "\x7b\"rxpk\":[\x7b\"data\":\"QAAAAAAAAAAAAAAA\"\x7d]\x7d")) := by
  have hne : ascii "\x7b\"rxpk\":[\x7b\"data\":\"QAAAAAAAAAAAAAAA\"\x7d]\x7d"≠[] := by decide +kernel
  have hm : parseRX sampleHost (RfmMetaData.initial sampleHost.now sampleHost.tmst) dataObject=
      .ok (RfmMetaData.initial 0 0,none,parseFrame dataObject) := by decide +kernel
  have hj : isJoinType (parseFrame dataObject)=false := by decide +kernel
  exact (sources_agree_iff hne rfl (lookup_stat_sampleMembers none _) (lookup_rxpk_sampleMembers none _) hm
    ⟨0,0⟩ 0 0x0102030405060708).mpr (Or.inr hj)

/-- A join request reaches the handler from a datagram only. -/
theorem join_request_sources_differ :
    parseRX referenceHost (RfmMetaData.initial 0 0) joinObject=
        .ok (RfmMetaData.initial 0 0,none,List.replicate 23 0) ∧
    ¬SameDelivery
      (onUpstream zeroCrypto none ⟨0,0⟩ 1 (RfmMetaData.initial 0 0) (List.replicate 23 0))
      (parseBuffer referenceHost zeroCrypto none ⟨0,0⟩
        (sampleDelivery 1
          "\x7b\"rxpk\":[\x7b\"data\":\"AAAAAAAAAAAAAAAAAAAAAAAAAAAAAAA=\"\x7d]\x7d")) := by
  have husb : onUpstream zeroCrypto none ⟨0,0⟩ 1 (RfmMetaData.initial 0 0)
      (List.replicate 23 0)=.ok [] := by decide +kernel
  have hudp : ((parseBuffer referenceHost zeroCrypto none ⟨0,0⟩ (sampleDelivery 1
      "\x7b\"rxpk\":[\x7b\"data\":\"AAAAAAAAAAAAAAAAAAAAAAAAAAAAAAA=\"\x7d]\x7d")).map fun result =>
      (result.calls.filter isDispatch).length)=.ok 1 := by decide +kernel
  have hread : parseRX referenceHost (RfmMetaData.initial 0 0) joinObject=
      .ok (RfmMetaData.initial 0 0,none,List.replicate 23 0) := by decide +kernel
  exact ⟨hread,not_sameDelivery husb hudp⟩

/-- Where a packet comes from. -/
inductive PacketSource where
  /-- A datagram with the prefix in host order. -/
  | udp (gwPrefix : SemtechPrefixGw)
  /-- The attached gateway. -/
  | usb (gatewayId : UInt64)

/-- The identifier that the constructor gives to the reception. -/
def PacketSource.gatewayId : PacketSource → UInt64
  | .udp gwPrefix => gwPrefix.mac
  | .usb gatewayId => gatewayId

/-- The identifier in the prefix of the packet. -/
def PacketSource.mac : PacketSource → DEVEUI
  | .udp gwPrefix => gwPrefix.mac
  | .usb gatewayId => int2deveui gatewayId

/-- The constructors of the two sources. -/
def PacketSource.build (crypto : Crypto) (identityService : Option IdentityService) (m : RfmMetaData)
    (frame : Bytes) : PacketSource → Except Fault SemtechUDPPacket
  | .udp gwPrefix => received crypto identityService gwPrefix m frame
  | .usb gatewayId => upstreamPacket crypto identityService (usbPrefix gatewayId) m frame

/-- An item for the queue with a packet as its constructor left it. -/
structure BuiltItem (crypto : Crypto) (identityService : Option IdentityService) where
  /-- The item. -/
  item : SemtechUDPPacketItem
  /-- Where its packet comes from. -/
  source : PacketSource
  /-- What the gateway reported. -/
  reception : RfmMetaData
  /-- The radio frame. -/
  frame : Bytes
  /-- The constructor built the packet from them. -/
  built : source.build crypto identityService reception frame=.ok item.packet

section Merging

variable {crypto : Crypto} {identityService : Option IdentityService}

/-- A built packet has one reception, with the identifier of its source, and the
prefix of its source. -/
theorem BuiltItem.origin (pushed : BuiltItem crypto identityService) :
    pushed.item.packet.metadata=[{pushed.reception with gatewayId := pushed.source.gatewayId}] ∧
      pushed.item.packet.gwPrefix.mac=pushed.source.mac := by
  obtain ⟨item,source,reception,frame,built⟩ := pushed
  cases source with
  | udp gwPrefix =>
    obtain ⟨result,hr,hp⟩ := bind_eq_ok.mp built
    obtain ⟨hm,hg⟩ := parseData_origin hr
    rw [←Except.ok.inj hp]
    exact ⟨hm,congrArg SemtechPrefixGw.mac hg⟩
  | usb gatewayId =>
    obtain ⟨result,hr,hp⟩ := bind_eq_ok.mp built
    obtain ⟨hm,hg⟩ := parseData_origin hr
    rw [←Except.ok.inj hp]
    have hid : deveui2int (usbPrefix gatewayId).mac=gatewayId := deveui2int_int2deveui gatewayId
    rw [hid] at hm
    have hmac : result.1.gwPrefix.mac=int2deveui gatewayId := by rw [hg]; rfl
    exact ⟨hm,hmac⟩

/-- The queue after pushes into the empty one. -/
def queueOf (pushes : List (BuiltItem crypto identityService)) : Queue :=
  run queueStep Queue.empty (pushes.map fun pushed => .push pushed.item)

/-- The pushes of the packet of an item. -/
def pushesOf (pushes : List (BuiltItem crypto identityService)) (item : SemtechUDPPacketItem) :
    List (BuiltItem crypto identityService) :=
  pushes.filter fun pushed => SamePacket pushed.item item

/-- Every queued item has one reception for each push of its packet, with the
identifiers that the constructors gave, in the order of the pushes. -/
def IdentitiesKept (pushes : List (BuiltItem crypto identityService)) : Prop :=
  ∀ a,∀ item∈itemsAt (queueOf pushes) a,
    item.packet.metadata.map (·.gatewayId)=(pushesOf pushes item).map (·.source.gatewayId)

/-- The identifiers that the queue records: that of the first reception, then
those of the prefixes. -/
def recordedIds : List (BuiltItem crypto identityService) → List UInt64
  | [] => []
  | first::others => first.source.gatewayId::others.map (·.source.mac)

/-- Device, port and counter of an item. -/
def packetKey (item : SemtechUDPPacketItem) : DEVADDR×UInt8×UInt16 := (getAddr item,itemPort item,itemFcnt item)

/-- Items stand for one packet when their keys are equal. -/
theorem samePacket_iff (item other : SemtechUDPPacketItem) :
    SamePacket item other ↔ packetKey item=packetKey other := by
  rw [packetKey,packetKey,Prod.mk.injEq,Prod.mk.injEq]
  rfl

/-- What the queue holds after the pushes. -/
structure Tracks (queue : Queue) (pushes : List (BuiltItem crypto identityService)) : Prop where
  /-- Every packet that was pushed is queued for its device, and no other one. -/
  keys : ∀ a k,k∈(itemsAt queue a).map packetKey ↔ k∈pushes.map (fun pushed => packetKey pushed.item) ∧ k.1=a
  /-- No packet is queued twice. -/
  distinct : ∀ a,((itemsAt queue a).map packetKey).Nodup
  /-- The identifiers of each item. -/
  recorded : ∀ a,∀ item∈itemsAt queue a,
    item.packet.metadata.map (·.gatewayId)=recordedIds (pushesOf pushes item)

/-- A push counts for the items that stand for its packet. -/
theorem pushesOf_append (pushes : List (BuiltItem crypto identityService))
    (pushed : BuiltItem crypto identityService) (item : SemtechUDPPacketItem) :
    pushesOf (pushes++[pushed]) item=
      pushesOf pushes item++if packetKey pushed.item=packetKey item then [pushed] else [] := by
  simp only [pushesOf,List.filter_append,List.filter_cons,List.filter_nil,decide_eq_true_eq,samePacket_iff]

/-- Only the key of an item selects its pushes. -/
theorem pushesOf_congr (pushes : List (BuiltItem crypto identityService)) {item other : SemtechUDPPacketItem}
    (h : packetKey item=packetKey other) : pushesOf pushes item=pushesOf pushes other := by
  simp only [pushesOf,samePacket_iff,h]

/-- A packet that was pushed has pushes, and no other one. -/
theorem pushesOf_ne_nil_iff (pushes : List (BuiltItem crypto identityService)) (item : SemtechUDPPacketItem) :
    pushesOf pushes item≠[] ↔ packetKey item∈pushes.map (fun pushed => packetKey pushed.item) := by
  rw [pushesOf,ne_eq,List.filter_eq_nil_iff,List.mem_map]
  simp only [decide_eq_true_eq,samePacket_iff,not_forall,not_not,exists_prop]

/-- Behind a first push each further one records its prefix. -/
theorem recordedIds_append {pushes : List (BuiltItem crypto identityService)} (h : pushes≠[])
    (pushed : BuiltItem crypto identityService) :
    recordedIds (pushes++[pushed])=recordedIds pushes++[pushed.source.mac] := by
  cases pushes with
  | nil => exact absurd rfl h
  | cons first others => rw [List.cons_append,recordedIds,List.map_append,List.map_singleton,recordedIds,
      List.cons_append]

/-- An item that absorbs a push takes its first reception with the identifier of
its prefix. -/
theorem absorb_gatewayIds (pushed : BuiltItem crypto identityService) (queued : SemtechUDPPacketItem) :
    (absorb pushed.item queued).packet.metadata.map (·.gatewayId)=
      queued.packet.metadata.map (·.gatewayId)++[pushed.source.mac] := by
  obtain ⟨hm,hg⟩ := pushed.origin
  rw [absorb,hm]
  dsimp only
  rw [List.map_append,List.map_singleton,hg]

/-- The duplicates of a pushed item are the queued items with its key. -/
theorem any_isDuplicate_iff {queue : Queue} (h : Sound queue) (item : SemtechUDPPacketItem) :
    (itemsAt queue (getAddr item)).any (isDuplicate item)=true ↔
      packetKey item∈(itemsAt queue (getAddr item)).map packetKey := by
  rw [any_isDuplicate_key,List.mem_map,List.mem_map]
  refine exists_congr fun queued => and_congr_right fun hq => ?_
  have hkey : ∀ item : SemtechUDPPacketItem,packetKey item=(getAddr item,mergeKey item) := fun _ => rfl
  rw [hkey,hkey,h.addressed _ queued hq]
  exact ⟨fun hk => by rw [hk],fun hk => (Prod.mk.inj hk).2⟩

/-- An item for another packet keeps its identifiers. -/
theorem Tracks.recorded_other {queue : Queue} {pushes : List (BuiltItem crypto identityService)}
    (h : Tracks queue pushes) (pushed : BuiltItem crypto identityService) {a : DEVADDR}
    {item : SemtechUDPPacketItem} (hi : item∈itemsAt queue a) (hk : packetKey pushed.item≠packetKey item) :
    item.packet.metadata.map (·.gatewayId)=recordedIds (pushesOf (pushes++[pushed]) item) := by
  rw [pushesOf_append,if_neg hk,List.append_nil]
  exact h.recorded a item hi

/-- Items of another device stand for another packet. -/
theorem packetKey_ne_of_addr {queue : Queue} (hs : Sound queue) {item other : SemtechUDPPacketItem} {a : DEVADDR}
    (ha : getAddr other≠a) (hi : item∈itemsAt queue a) : packetKey other≠packetKey item := by
  intro hk
  exact ha ((congrArg Prod.fst hk).trans (hs.addressed a item hi))

/-- Behind a merge an item has absorbed the push, or it was queued before for
another packet. -/
theorem Tracks.mem_merge {queue : Queue} {pushes : List (BuiltItem crypto identityService)} (h : Tracks queue pushes)
    (hs : Sound queue) {value item : SemtechUDPPacketItem}
    (hd : (itemsAt queue (getAddr value)).any (isDuplicate value)=true)
    (hi : item∈merge value (itemsAt queue (getAddr value))) :
    (∃ queued∈itemsAt queue (getAddr value),packetKey value=packetKey queued ∧ item=absorb value queued) ∨
      (item∈itemsAt queue (getAddr value) ∧ packetKey value≠packetKey item) := by
  obtain ⟨front,queued,back,hitems,hq,hm⟩ := merge_split hd
  have hqueued : queued∈itemsAt queue (getAddr value) := by
    rw [hitems]
    exact List.mem_append_right _ List.mem_cons_self
  have hqk : packetKey value=packetKey queued := by
    obtain ⟨hport,hfcnt⟩ := of_decide_eq_true hq
    rw [packetKey,packetKey,hs.addressed _ queued hqueued,hport,hfcnt]
  -- no other item has the key of the one that absorbs the push
  have hnodup := h.distinct (getAddr value)
  rw [hitems,List.map_append,List.map_cons,List.nodup_middle,List.nodup_cons,←List.map_append] at hnodup
  have hother : ∀ other∈front++back,other∈itemsAt queue (getAddr value) ∧ packetKey value≠packetKey other := by
    intro other ho
    constructor
    · rw [hitems]
      exact (List.mem_append.mp ho).elim (List.mem_append_left _) fun hb =>
        List.mem_append_right _ (List.mem_cons_of_mem _ hb)
    · intro hk
      exact hnodup.1 (hqk ▸ hk ▸ List.mem_map_of_mem ho)
  rw [hm] at hi
  rcases List.mem_append.mp hi with hi | hi
  · exact Or.inr (hother item (List.mem_append_left _ hi))
  · rcases List.mem_cons.mp hi with rfl | hi
    · exact Or.inl ⟨queued,hqueued,hqk,rfl⟩
    · exact Or.inr (hother item (List.mem_append_right _ hi))

/-- A push of a packet that is queued. -/
theorem Tracks.push_queued {queue : Queue} {pushes : List (BuiltItem crypto identityService)}
    (h : Tracks queue pushes) (hs : Sound queue) {pushed : BuiltItem crypto identityService}
    (hd : (itemsAt queue (getAddr pushed.item)).any (isDuplicate pushed.item)=true) :
    Tracks (push queue pushed.item) (pushes++[pushed]) := by
  have hkey := (any_isDuplicate_iff hs pushed.item).mp hd
  have hmap : ∀ a,(itemsAt (push queue pushed.item) a).map packetKey=(itemsAt queue a).map packetKey := by
    intro a
    rw [itemsAt_push]
    split_ifs with ha
    · subst ha
      rw [pushItems,if_pos hd]
      exact merge_map (absorb_eq (fun _ _ _ _ => rfl) pushed.item) _
    · rfl
  constructor
  · intro a k
    rw [hmap,h.keys,List.map_append,List.map_singleton,List.mem_append,List.mem_singleton]
    refine and_congr_left fun _ => ⟨Or.inl,fun hk => hk.elim id fun he => ?_⟩
    rw [he]
    exact ((h.keys _ _).mp hkey).1
  · intro a
    rw [hmap]
    exact h.distinct a
  · intro a item hi
    rw [itemsAt_push] at hi
    split_ifs at hi with ha
    · subst ha
      rw [pushItems,if_pos hd] at hi
      rcases h.mem_merge hs hd hi with ⟨queued,hqueued,hqk,rfl⟩ | ⟨hitem,hk⟩
      · have hka : packetKey (absorb pushed.item queued)=packetKey queued :=
          absorb_eq (fun _ _ _ _ => rfl) pushed.item queued
        have hne : pushesOf pushes queued≠[] := by
          rw [pushesOf_ne_nil_iff,←hqk]
          exact ((h.keys _ _).mp hkey).1
        rw [absorb_gatewayIds,pushesOf_append,if_pos (hqk.trans hka.symm),pushesOf_congr pushes hka,
          recordedIds_append hne,h.recorded _ queued hqueued]
      · exact h.recorded_other pushed hitem hk
    · exact h.recorded_other pushed hi (packetKey_ne_of_addr hs ha hi)

/-- A packet that is not queued has a key of its own in its group. -/
theorem packetKey_notMem {queue : Queue} (hs : Sound queue) {item : SemtechUDPPacketItem}
    (hd : ¬(itemsAt queue (getAddr item)).any (isDuplicate item)=true) :
    packetKey item∉(itemsAt queue (getAddr item)).map packetKey :=
  fun hk => hd ((any_isDuplicate_iff hs item).mpr hk)

/-- A push of a packet that is not queued adds its key to its group. -/
theorem map_packetKey_push {queue : Queue} {item : SemtechUDPPacketItem}
    (hd : ¬(itemsAt queue (getAddr item)).any (isDuplicate item)=true) (a : DEVADDR) :
    (itemsAt (push queue item) a).map packetKey=
      (itemsAt queue a).map packetKey++if getAddr item=a then [packetKey item] else [] := by
  rw [itemsAt_push]
  split_ifs with ha
  · subst ha
    rw [pushItems,if_neg hd,List.map_append,List.map_singleton]
  · rw [List.append_nil]

/-- A push of a packet that is not queued. -/
theorem Tracks.push_new {queue : Queue} {pushes : List (BuiltItem crypto identityService)}
    (h : Tracks queue pushes) (hs : Sound queue) {pushed : BuiltItem crypto identityService}
    (hd : ¬(itemsAt queue (getAddr pushed.item)).any (isDuplicate pushed.item)=true) :
    Tracks (push queue pushed.item) (pushes++[pushed]) := by
  have hkey := packetKey_notMem hs hd
  constructor
  · intro a k
    rw [map_packetKey_push hd,List.mem_append,h.keys,List.map_append,List.map_singleton,List.mem_append,List.mem_singleton,
      or_and_right]
    refine or_congr_right ?_
    split_ifs with ha
    · rw [List.mem_singleton]
      exact ⟨fun hk => ⟨hk,hk ▸ ha⟩,fun hk => hk.1⟩
    · refine iff_of_false List.not_mem_nil fun hk => ha ?_
      rw [←hk.2,hk.1]
      rfl
  · intro a
    rw [map_packetKey_push hd]
    split_ifs with ha
    · subst ha
      exact List.Nodup.append (h.distinct _) (List.nodup_singleton _)
        (List.disjoint_singleton.mpr hkey)
    · rw [List.append_nil]
      exact h.distinct a
  · intro a item hi
    rw [itemsAt_push] at hi
    split_ifs at hi with ha
    · subst ha
      rw [pushItems,if_neg hd] at hi
      rcases List.mem_append.mp hi with hi | hi
      · refine h.recorded_other pushed hi fun hk => hkey ?_
        rw [hk]
        exact List.mem_map_of_mem hi
      · rw [List.mem_singleton.mp hi]
        have hnone : pushesOf pushes pushed.item=[] := by
          by_contra hne
          have hk := (pushesOf_ne_nil_iff pushes pushed.item).mp hne
          exact hkey ((h.keys _ _).mpr ⟨hk,rfl⟩)
        rw [pushesOf_append,hnone,if_pos rfl,pushed.origin.1]
        rfl
    · exact h.recorded_other pushed hi (packetKey_ne_of_addr hs ha hi)

/-- The empty queue holds nothing. -/
theorem tracks_empty : Tracks Queue.empty ([] : List (BuiltItem crypto identityService)) := by
  constructor
  · intro a k
    rw [itemsAt_empty]
    exact iff_of_false List.not_mem_nil fun hk => List.not_mem_nil hk.1
  · intro a
    rw [itemsAt_empty]
    exact List.nodup_nil
  · intro a item hi
    rw [itemsAt_empty] at hi
    exact absurd hi List.not_mem_nil

/-- What the queue holds after any pushes. -/
theorem tracks_queueOf (pushes : List (BuiltItem crypto identityService)) : Tracks (queueOf pushes) pushes := by
  induction pushes using List.reverseRecOn with
  | nil => exact tracks_empty
  | append_singleton pushes pushed ih =>
    have hs : Sound (queueOf pushes) := run_sound empty_sound _
    have hq : queueOf (pushes++[pushed])=push (queueOf pushes) pushed.item := by
      rw [queueOf,List.map_append,run_append]
      rfl
    rw [hq]
    by_cases hd : (itemsAt (queueOf pushes) (getAddr pushed.item)).any (isDuplicate pushed.item)=true
    · exact ih.push_queued hs hd
    · exact ih.push_new hs hd

/-- The prefix of the source has the identifier of the constructor: always for a
datagram, only for an identifier that reads the same in both byte orders for
the attached gateway. -/
def KeepsId : PacketSource → Prop
  | .udp _ => True
  | .usb gatewayId => int2deveui gatewayId=gatewayId

/-- The recorded identifiers are those of the constructors when every further
push keeps its identifier. -/
theorem recordedIds_eq_iff (pushes : List (BuiltItem crypto identityService)) :
    recordedIds pushes=pushes.map (·.source.gatewayId) ↔ ∀ pushed∈pushes.tail,KeepsId pushed.source := by
  have hk : ∀ source : PacketSource,source.mac=source.gatewayId ↔ KeepsId source := by
    intro source
    cases source with
    | udp gwPrefix => exact iff_of_true rfl trivial
    | usb gatewayId => rfl
  cases pushes with
  | nil => exact iff_of_true rfl fun pushed hp => absurd hp List.not_mem_nil
  | cons first others =>
    rw [recordedIds,List.map_cons,List.cons.injEq,List.map_inj_left,List.tail_cons]
    simp only [true_and,hk]

/-- Every push that finds its packet queued already keeps its identifier. -/
def AbsorbedKeep (pushes : List (BuiltItem crypto identityService)) : Prop :=
  pushes.Pairwise fun earlier pushed => SamePacket earlier.item pushed.item → KeepsId pushed.source

/-- Merging keeps the gateway identities exactly when every push that is
absorbed keeps its identifier. -/
theorem identities_kept_iff (pushes : List (BuiltItem crypto identityService)) :
    IdentitiesKept pushes ↔ AbsorbedKeep pushes := by
  have htracks := tracks_queueOf pushes
  have hclass : IdentitiesKept pushes ↔
      ∀ a,∀ item∈itemsAt (queueOf pushes) a,∀ pushed∈(pushesOf pushes item).tail,KeepsId pushed.source := by
    refine forall_congr' fun a => forall_congr' fun item => forall_congr' fun hi => ?_
    rw [htracks.recorded a item hi,recordedIds_eq_iff]
  rw [hclass,AbsorbedKeep]
  constructor
  · intro h
    rw [List.pairwise_iff_forall_sublist]
    intro earlier pushed hsub hsame
    -- both pushes are among those of the item that is queued for their packet
    have hmem : pushed∈pushes := hsub.subset (List.mem_cons_of_mem _ List.mem_cons_self)
    have hkey : packetKey pushed.item∈(itemsAt (queueOf pushes) (getAddr pushed.item)).map packetKey :=
      (htracks.keys _ _).mpr ⟨List.mem_map_of_mem (f := fun pushed => packetKey pushed.item) hmem,rfl⟩
    obtain ⟨item,hi,hk⟩ := List.mem_map.mp hkey
    refine h _ item hi pushed ?_
    have hfilter := hsub.filter fun other => decide (SamePacket other.item item)
    have he : SamePacket earlier.item item := (samePacket_iff _ _).mpr (((samePacket_iff _ _).mp hsame).trans hk.symm)
    have hp : SamePacket pushed.item item := (samePacket_iff _ _).mpr hk.symm
    simp only [List.filter_cons,List.filter_nil,decide_eq_true he,decide_eq_true hp,if_true] at hfilter
    exact hfilter.tail.subset List.mem_cons_self
  · intro h a item hi pushed hp
    have hpairs : (pushesOf pushes item).Pairwise
        fun earlier pushed => SamePacket earlier.item pushed.item → KeepsId pushed.source := h.filter _
    cases hl : pushesOf pushes item with
    | nil =>
      rw [hl] at hp
      exact absurd hp List.not_mem_nil
    | cons first others =>
      rw [hl,List.tail_cons] at hp
      rw [hl] at hpairs
      have hsame : ∀ other∈first::others,packetKey other.item=packetKey item := by
        intro other ho
        rw [←hl] at ho
        exact (samePacket_iff _ _).mp (of_decide_eq_true (List.mem_filter.mp ho).2)
      refine (List.pairwise_cons.mp hpairs).1 pushed hp ((samePacket_iff _ _).mpr ?_)
      rw [hsame first List.mem_cons_self,hsame pushed (List.mem_cons_of_mem _ hp)]

end Merging

/-- A data frame of device 0 without port and payload, with a zero code. -/
def sampleFrame : Bytes := 0x40::List.replicate 11 0

/-- The frame from a datagram of gateway 5. -/
def sampleUdp : BuiltItem zeroCrypto (some (constService DeviceId.empty)) where
  item := ⟨.replyMac,⟨0,250000⟩,{SemtechUDPPacket.empty with
    metadata := [{RfmMetaData.initial 0 0 with gatewayId := 5}]
    gwPrefix := ⟨2,0,0,5⟩}⟩
  source := .udp ⟨2,0,0,5⟩
  reception := RfmMetaData.initial 0 0
  frame := sampleFrame
  built := by decide +kernel

/-- The frame from the attached gateway 1. -/
def sampleUsb : BuiltItem zeroCrypto (some (constService DeviceId.empty)) where
  item := ⟨.replyMac,⟨0,250000⟩,{SemtechUDPPacket.empty with
    metadata := [{RfmMetaData.initial 0 0 with gatewayId := 1}]
    gwPrefix := usbPrefix 1}⟩
  source := .usb 1
  reception := RfmMetaData.initial 0 0
  frame := sampleFrame
  built := by decide +kernel

/-- Two gateways hear one frame: the item records the attached gateway 1 with
its bytes reversed. -/
theorem attached_gateway_reversed : ¬IdentitiesKept [sampleUdp,sampleUsb] := by
  intro h
  have hbad : ((itemsAt (queueOf [sampleUdp,sampleUsb]) 0).all fun item =>
      decide (item.packet.metadata.map (·.gatewayId)=
        (pushesOf [sampleUdp,sampleUsb] item).map (·.source.gatewayId)))=false := by decide +kernel
  have hall := List.all_eq_true.mpr fun item hi => decide_eq_true (h 0 item hi)
  rw [hbad] at hall
  cases hall

end LorawanServer.PacketSources
