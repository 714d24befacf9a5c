import LorawanServer.DatagramSafety

/-!
# Which packets of a datagram reach the handler

A PUSH_DATA with several radio objects ends in one code, that of the last
object, and this code decides for all of them: data frames are handed over
unless the last object is a join request, and of the join requests only a
first packet in front of a last join request is. The exact arrays whose
packets are all dispatched once, in every order, are those without a join
request and those of one object.
-/

namespace LorawanServer.PacketDispatch

open CppRuntime FrameCrypto Records DataFrame JsonDocument Datagram Listener PacketHandler DatagramSafety

/-- Calls that hand a packet to the handler. -/
def isDispatch : Call → Bool
  | .put _ _ => true
  | .join _ _ => true
  | _ => false

/-- The call that a packet should cause. -/
def dispatchCall (time : Timeval) (packet : SemtechUDPPacket) : Option Call :=
  if packet.errcode=LORA_OK then some (.put time packet)
  else if packet.errcode=ERR_CODE_IS_JOIN then some (.join time packet)
  else none

/-- A join message should cause a join. -/
theorem dispatchCall_join {packet : SemtechUDPPacket} (h : packet.errcode=ERR_CODE_IS_JOIN) (time : Timeval) :
    dispatchCall time packet=some (.join time packet) := by
  rw [dispatchCall,h]
  rfl

section Frames

variable (crypto : Crypto) (identityService : Option IdentityService)

/-- Code that a device behind the given identity would have sent with the frame. -/
def expectedMic (frame : Bytes) (id : DeviceId) : UInt32 :=
  calculateMIC crypto frame (UInt8.ofNat frame.length-4) (PackedRfmHeader.ofBytes frame).fcnt.toNat 0
    (PackedRfmHeader.ofBytes frame).devaddr id.nwkSKey

/-- A data frame of a known device with a matching code. -/
def ValidFrame (frame : Bytes) : Prop :=
  isJoinType frame=false ∧ 8≤frame.length ∧
    ∃ id,lookup identityService (PackedRfmHeader.ofBytes frame).devaddr=some id ∧
      getMic frame=expectedMic crypto frame id

/-- A data frame with an unknown address or a wrong code. -/
def RefusedFrame (frame : Bytes) : Prop :=
  isJoinType frame=false ∧ 8≤frame.length ∧
    ∀ id,lookup identityService (PackedRfmHeader.ofBytes frame).devaddr=some id →
      getMic frame≠expectedMic crypto frame id

/-- A join request. -/
def JoinRequest (frame : Bytes) : Prop := frame≠[] ∧ mtype (frame.headD 0)=MTYPE_JOIN_REQUEST

variable {crypto identityService}

/-- The code over a received uplink. -/
theorem frameMic_uplink {frame : Bytes} (h8 : 8≤frame.length) {packet : SemtechUDPPacket}
    (hd : packet.downlink=false) (id : DeviceId) :
    frameMic crypto (withHeader packet frame) frame id=expectedMic crypto frame id := by
  have hw : (withHeader packet frame).downlink=packet.downlink := rfl
  rw [frameMic,expectedMic,withHeader_header h8,hw,hd]
  rfl

/-- A valid frame gives a packet without error. -/
theorem received_valid {frame : Bytes} (h : ValidFrame crypto identityService frame)
    (gwPrefix : SemtechPrefixGw) (m : RfmMetaData) :
    ∃ packet,received crypto identityService gwPrefix m frame=.ok packet ∧ packet.errcode=LORA_OK := by
  obtain ⟨hj,h8,id,hg,hm⟩ := h
  unfold received
  dsimp only
  rw [(parseData_ok_iff crypto identityService _ _ frame).mpr
    ⟨hj,h8,id,by rw [withHeader_header h8]; exact hg,by rw [frameMic_uplink h8 rfl]; exact hm,rfl⟩]
  exact ⟨_,rfl,rfl⟩

/-- A join request gives a packet marked as such. -/
theorem received_join {frame : Bytes} (h : JoinRequest frame) (gwPrefix : SemtechPrefixGw) (m : RfmMetaData) :
    ∃ packet,received crypto identityService gwPrefix m frame=.ok packet ∧
      packet.errcode=ERR_CODE_IS_JOIN := by
  obtain ⟨hne,ht⟩ := h
  have hl : 1≤frame.length := List.length_pos_iff.mpr hne
  unfold received parseData
  dsimp only
  rw [if_pos ht,substr_of_le hl]
  exact ⟨_,rfl,rfl⟩

/-- A refused frame gives a packet with one of the two error codes. -/
theorem received_refused {frame : Bytes} (h : RefusedFrame crypto identityService frame)
    (gwPrefix : SemtechPrefixGw) (m : RfmMetaData) :
    ∃ packet,received crypto identityService gwPrefix m frame=.ok packet ∧
      (packet.errcode=ERR_CODE_DEVICE_ADDRESS_NOTFOUND ∨ packet.errcode=ERR_CODE_INVALID_MIC) := by
  obtain ⟨hj,h8,hg⟩ := h
  unfold received
  dsimp only
  rw [parseData_of_not_join hj,if_pos h8,withHeader_header h8]
  cases hs : lookup identityService (PackedRfmHeader.ofBytes frame).devaddr with
  | none =>
    dsimp only
    obtain ⟨payload,hu⟩ := parseUnknown_eq (withHeader _ frame) frame
    rw [hu]
    exact ⟨_,rfl,.inl rfl⟩
  | some id =>
    dsimp only
    rw [parseKnown_eq h8,frameMic_uplink h8 rfl,if_neg (hg id hs)]
    exact ⟨_,rfl,.inr rfl⟩

variable (crypto identityService) in
/-- The frames the server distinguishes. -/
def FrameKind (frame : Bytes) : Prop :=
  ValidFrame crypto identityService frame ∨ JoinRequest frame ∨ RefusedFrame crypto identityService frame

variable (crypto identityService) in
/-- The packet has the code of its frame. -/
def KindMatches (frame : Bytes) (packet : SemtechUDPPacket) : Prop :=
  (ValidFrame crypto identityService frame ∧ packet.errcode=LORA_OK) ∨
  (JoinRequest frame ∧ packet.errcode=ERR_CODE_IS_JOIN) ∨
  (RefusedFrame crypto identityService frame ∧
    (packet.errcode=ERR_CODE_DEVICE_ADDRESS_NOTFOUND ∨ packet.errcode=ERR_CODE_INVALID_MIC))

/-- The constructor gives every frame its code. -/
theorem received_kind {frame : Bytes} (h : FrameKind crypto identityService frame)
    {gwPrefix : SemtechPrefixGw} {m : RfmMetaData} {packet : SemtechUDPPacket}
    (hp : received crypto identityService gwPrefix m frame=.ok packet) :
    KindMatches crypto identityService frame packet := by
  rcases h with h|h|h
  · obtain ⟨other,ho,hc⟩ := received_valid h gwPrefix m
    rw [hp] at ho
    exact .inl ⟨h,Except.ok.inj ho ▸ hc⟩
  · obtain ⟨other,ho,hc⟩ := received_join h gwPrefix m
    rw [hp] at ho
    exact .inr (.inl ⟨h,Except.ok.inj ho ▸ hc⟩)
  · obtain ⟨other,ho,hc⟩ := received_refused h gwPrefix m
    rw [hp] at ho
    exact .inr (.inr ⟨h,Except.ok.inj ho ▸ hc⟩)

/-- A join request is no data frame. -/
theorem JoinRequest.isJoinType {frame : Bytes} (h : JoinRequest frame) : isJoinType frame=true := by
  rw [DataFrame.isJoinType,h.2]
  rfl

/-- Exactly the join requests have the code of a join. -/
theorem KindMatches.join_iff {frame : Bytes} {packet : SemtechUDPPacket}
    (h : KindMatches crypto identityService frame packet) :
    JoinRequest frame ↔ packet.errcode=ERR_CODE_IS_JOIN := by
  rcases h with ⟨hf,he⟩|⟨hf,he⟩|⟨hf,he⟩
  · refine ⟨fun hj => ?_,fun hj => ?_⟩
    · exact absurd (hj.isJoinType.symm.trans hf.1) (by decide)
    · exact absurd (he.symm.trans hj) (by decide)
  · exact ⟨fun _ => he,fun _ => hf⟩
  · refine ⟨fun hj => ?_,fun hj => ?_⟩
    · exact absurd (hj.isJoinType.symm.trans hf.1) (by decide)
    · rcases he with he|he
      · exact absurd (he.symm.trans hj) (by decide)
      · exact absurd (he.symm.trans hj) (by decide)

/-- Exactly the refused frames cause no call. -/
theorem KindMatches.refused_iff {frame : Bytes} {packet : SemtechUDPPacket}
    (h : KindMatches crypto identityService frame packet) (time : Timeval) :
    RefusedFrame crypto identityService frame ↔ dispatchCall time packet=none := by
  rcases h with ⟨hf,he⟩|⟨hf,he⟩|⟨hf,he⟩
  · rw [dispatchCall,if_pos he]
    refine ⟨fun hr => ?_,fun hn => absurd hn (by simp only [reduceCtorEq,not_false_eq_true])⟩
    obtain ⟨-,-,id,hg,hm⟩ := hf
    exact absurd hm (hr.2.2 id hg)
  · rw [dispatchCall_join he]
    refine ⟨fun hr => ?_,fun hn => absurd hn (by simp only [reduceCtorEq,not_false_eq_true])⟩
    exact absurd (hf.isJoinType.symm.trans hr.1) (by decide)
  · refine ⟨fun _ => ?_,fun _ => hf⟩
    rcases he with he|he
    · rw [dispatchCall,he]; rfl
    · rw [dispatchCall,he]; rfl

end Frames

/-- Code of the last packet, or the given one. -/
def lastCode (r : ℤ) (packets : List SemtechUDPPacket) : ℤ := packets.foldl (fun _ packet => packet.errcode) r

/-- The last packet decides. -/
theorem lastCode_append (r : ℤ) (packets : List SemtechUDPPacket) (packet : SemtechUDPPacket) :
    lastCode r (packets++[packet])=packet.errcode := by
  rw [lastCode,List.foldl_append,List.foldl_cons,List.foldl_nil]

/-- A packet in front does not decide. -/
theorem lastCode_cons (r : ℤ) (packet : SemtechUDPPacket) (packets : List SemtechUDPPacket) :
    lastCode r (packet::packets)=lastCode packet.errcode packets := rfl

section Dispatch

variable (host : Host) (crypto : Crypto) (identityService : Option IdentityService) (gwPrefix : SemtechPrefixGw)

/-- Each object gives the packet at the same place. -/
def ObjectsRead (objects : List Members) (packets : List SemtechUDPPacket) : Prop :=
  List.Forall₂ (fun object packet => receivedRX host crypto identityService gwPrefix object=.ok packet)
    objects packets

variable {host crypto identityService gwPrefix}

/-- The loop collects the packets without error and the join messages, and
returns the code of the last one. -/
theorem parseRxpk_eq {objects : List Members} {packets : List SemtechUDPPacket}
    (h : ObjectsRead host crypto identityService gwPrefix objects packets)
    (retPackets : List SemtechUDPPacket) (r : ℤ) :
    parseRxpk host crypto identityService gwPrefix (objects.map Json.object) retPackets r=
      .ok (retPackets++packets.filter isReturned,lastCode r packets) := by
  induction h generalizing retPackets r with
  | nil => rw [List.filter_nil,List.append_nil]; rfl
  | @cons object packet objects packets hp _ ih =>
    rw [List.map_cons,parseRxpk,hp]
    change parseRxpk host crypto identityService gwPrefix _ _ _=_
    rw [ih,lastCode_cons,List.filter_cons]
    cases isReturned packet with
    | false => rfl
    | true => simp only [if_true,List.append_assoc,List.cons_append,List.nil_append]

/-- What one datagram hands to the handler, by the packets of its objects. -/
def dispatched (time : Timeval) (packets : List SemtechUDPPacket) : List Call :=
  if lastCode LORA_OK packets=ERR_CODE_IS_JOIN then
    ((packets.filter isReturned).head?.map (Call.join time)).toList
  else (packets.filter fun packet => packet.errcode=LORA_OK).map (Call.put time)

/-- A packet of the four kinds. -/
def KnownCode (packet : SemtechUDPPacket) : Prop :=
  packet.errcode=LORA_OK ∨ packet.errcode=ERR_CODE_IS_JOIN ∨
    packet.errcode=ERR_CODE_DEVICE_ADDRESS_NOTFOUND ∨ packet.errcode=ERR_CODE_INVALID_MIC

/-- The last packet is of the four kinds when all are. -/
theorem knownCode_last {packets : List SemtechUDPPacket} (h : ∀ packet∈packets,KnownCode packet) :
    lastCode LORA_OK packets=ERR_CODE_IS_JOIN ∨ isSilent (lastCode LORA_OK packets)=false := by
  rcases List.eq_nil_or_concat packets with rfl|⟨front,last,rfl⟩
  · exact .inr (by decide)
  · rw [List.concat_eq_append,lastCode_append]
    rcases h last (by simp only [List.concat_eq_append,List.mem_append,List.mem_singleton,or_true]) with
      he|he|he|he
    · exact .inr (by rw [he]; decide)
    · exact .inl he
    · exact .inr (by rw [he]; decide)
    · exact .inr (by rw [he]; decide)

/-- Of the immediate answer only the join is a packet handed over. -/
theorem filter_answerPushData (time : Timeval) (result : ParseResult) :
    (answerPushData time result).filter isDispatch=
      if result.code=ERR_CODE_IS_JOIN then (result.retPackets.head?.map (Call.join time)).toList else [] := by
  rw [answerPushData]
  by_cases hj : result.code=ERR_CODE_IS_JOIN
  · have hne : ¬ result.code=LORA_OK := by rw [hj]; decide
    rw [if_neg hne,if_pos hj,if_pos hj]
    cases result.retPackets.head? with
    | none => rfl
    | some packet => rfl
  · rw [if_neg hj,if_neg hj]
    split
    · rfl
    · rfl

/-- All data packets are handed over. -/
theorem filter_putPackets (time : Timeval) (packets : List SemtechUDPPacket) (pr : ℤ) :
    (putPackets time packets pr).filter isDispatch=putPackets time packets pr := by
  rw [List.filter_eq_self]
  intro call hc
  rw [putPackets] at hc
  split at hc
  · exact absurd hc List.not_mem_nil
  · obtain ⟨value,-,rfl⟩ := List.mem_map.mp hc
    rfl

/-- The statistics hand no packet over. -/
theorem filter_reflectStat (gatewayStat : GatewayStat) (pr : ℤ) :
    (reflectStat gatewayStat pr).filter isDispatch=[] := by
  rw [reflectStat]
  split
  · rfl
  · split
    · rfl
    · rfl

/-- The handed over packets among all calls of the listener. -/
theorem filter_calls {packets : List SemtechUDPPacket} (h : ∀ packet∈packets,KnownCode packet)
    (time : Timeval) (retPrefix : SemtechPrefixGw) (retGWStat : GatewayStat) :
    (answerPushData time ⟨retPrefix,retGWStat,packets.filter isReturned,lastCode LORA_OK packets⟩++
      putPackets time (packets.filter isReturned) (lastCode LORA_OK packets)++
      reflectStat retGWStat (lastCode LORA_OK packets)).filter isDispatch=dispatched time packets := by
  have hkeep : (packets.filter isReturned).filter (fun packet => packet.errcode=LORA_OK)=
      packets.filter fun packet => packet.errcode=LORA_OK := by
    rw [List.filter_filter]
    apply List.filter_congr
    intro packet _
    simp only [isReturned,Bool.decide_or]
    cases decide (packet.errcode=LORA_OK) <;> rfl
  rw [List.filter_append,List.filter_append,filter_answerPushData,filter_putPackets,filter_reflectStat,
    List.append_nil,dispatched,putPackets,hkeep]
  rcases knownCode_last h with hj|hs
  · have hsilent : isSilent (lastCode LORA_OK packets)=true := by rw [hj]; decide
    rw [if_pos hj,if_pos hj,if_pos hsilent,List.append_nil]
  · have hj : ¬ lastCode LORA_OK packets=ERR_CODE_IS_JOIN := by
      intro he
      rw [he] at hs
      exact absurd hs (by decide)
    rw [if_neg hj,if_neg hj,hs,List.nil_append]
    rfl

/-- A packet keeps the code of its kind. -/
theorem KindMatches.knownCode {frame : Bytes} {packet : SemtechUDPPacket}
    (h : KindMatches crypto identityService frame packet) : KnownCode packet := by
  rcases h with ⟨-,he⟩|⟨-,he⟩|⟨-,he|he⟩
  · exact .inl he
  · exact .inr (.inl he)
  · exact .inr (.inr (.inl he))
  · exact .inr (.inr (.inr he))

/-- Without a join request every packet is dispatched once. -/
theorem dispatched_data_only {packets : List SemtechUDPPacket} (time : Timeval)
    (h : ∀ packet∈packets,packet.errcode≠ERR_CODE_IS_JOIN) :
    dispatched time packets=packets.filterMap (dispatchCall time) := by
  have hl : lastCode LORA_OK packets≠ERR_CODE_IS_JOIN := by
    rcases List.eq_nil_or_concat packets with rfl|⟨front,last,rfl⟩
    · decide
    · rw [List.concat_eq_append] at h ⊢
      rw [lastCode_append]
      exact h last (List.mem_append_right front List.mem_cons_self)
  rw [dispatched,if_neg hl]
  clear hl
  induction packets with
  | nil => rfl
  | cons packet packets ih =>
    have hi := ih fun other ho => h other (List.mem_cons_of_mem _ ho)
    have hp := h packet List.mem_cons_self
    rw [List.filter_cons,List.filterMap_cons,dispatchCall]
    by_cases hz : packet.errcode=LORA_OK
    · simp only [hz,decide_true,if_true,List.map_cons,hi]
    · simp only [hz,decide_false,if_false,hp,Bool.false_eq_true,hi]

/-- A datagram of one packet dispatches it. -/
theorem dispatched_single (time : Timeval) (packet : SemtechUDPPacket) :
    dispatched time [packet]=[packet].filterMap (dispatchCall time) := by
  by_cases hj : packet.errcode=ERR_CODE_IS_JOIN
  · have hl : lastCode LORA_OK [packet]=ERR_CODE_IS_JOIN := hj
    have hr : isReturned packet=true := decide_eq_true (.inr hj)
    rw [dispatched,if_pos hl,List.filter_cons,if_pos hr,List.filterMap_cons,dispatchCall_join hj]
    rfl
  · refine dispatched_data_only time fun other ho => ?_
    rw [List.mem_singleton.mp ho]
    exact hj

/-- A join request in front of another packet is lost, or takes the place of a
later one. -/
theorem not_dispatched_join (time : Timeval) {packet next : SemtechUDPPacket}
    {packets : List SemtechUDPPacket} (hj : packet.errcode=ERR_CODE_IS_JOIN) :
    ¬ (dispatched time (packet::next::packets)).Perm
      ((packet::next::packets).filterMap (dispatchCall time)) := by
  intro hp
  have hr : isReturned packet=true := decide_eq_true (.inr hj)
  rw [List.filterMap_cons,dispatchCall_join hj] at hp
  dsimp only at hp
  by_cases hl : lastCode LORA_OK (packet::next::packets)=ERR_CODE_IS_JOIN
  · -- the last packet is a second join request
    rw [dispatched,if_pos hl,List.filter_cons,if_pos hr] at hp
    have hlen := hp.length_eq
    change 1=_+1 at hlen
    have hnil : (next::packets).filterMap (dispatchCall time)=[] := List.length_eq_zero_iff.mp (by omega)
    obtain ⟨front,last,he⟩ := (List.eq_nil_or_concat (next::packets)).resolve_left
      (List.cons_ne_nil next packets)
    rw [List.concat_eq_append] at he
    have hlast : last.errcode=ERR_CODE_IS_JOIN := by
      rw [lastCode_cons,he,lastCode_append] at hl
      exact hl
    rw [List.filterMap_eq_nil_iff] at hnil
    have hn := hnil last (by rw [he]; exact List.mem_append_right front List.mem_cons_self)
    rw [dispatchCall_join hlast] at hn
    cases hn
  · -- only data packets are handed over
    rw [dispatched,if_neg hl] at hp
    have hm := hp.mem_iff.mpr List.mem_cons_self
    obtain ⟨value,-,hv⟩ := List.mem_map.mp hm
    cases hv

/-- What the listener does with the document of a PUSH_DATA. -/
theorem parseBuffer_pushData {gw : SemtechPrefixGw} (hv : gw.version=2) (ht : gw.tag=0) {text : Bytes}
    (hne : text≠[]) {members : Members} (hj : host.parseJson (cString text)=some (.object members))
    (time : Timeval) :
    parseBuffer host crypto identityService time (gw.toBytes++text)=
      parseDocument host crypto identityService (swapMac gw)
        {GatewayStat.empty with errcode := ERR_CODE_NO_GATEWAY_STAT} members>>=fun result =>
      .ok ⟨answerPushData time result++putPackets time result.retPackets result.code++
        reflectStat result.retGWStat result.code,result.code⟩ := by
  have hlen : (gw.toBytes++text).length=12+text.length := by
    rw [List.length_append,SemtechPrefixGw.toBytes_length]
  have htag : (gw.toBytes++text).getD 3 0=0 := ht
  unfold parseBuffer
  rw [hlen,if_neg (by omega),htag,parse_pushData host crypto identityService hv ht hne hj]
  rfl

/-- Statistics that let the radio objects through. -/
def StatAccepted : Option Json → Prop
  | none => True
  | some (.object stat) => HasStatMember stat
  | some _ => False

/-- Statistics that stop the datagram without a fault. -/
def StatRefused : Option Json → Prop
  | some (.object stat) => ¬ HasStatMember stat
  | _ => False

/-- Behind accepted statistics the packets are handed over by the last code. -/
theorem calls_accepted {gw : SemtechPrefixGw} (hv : gw.version=2) (ht : gw.tag=0) {text : Bytes}
    (hne : text≠[]) {members : Members} (hj : host.parseJson (cString text)=some (.object members))
    (hs : StatAccepted (members.lookup (ascii "stat"))) {objects : List Members}
    (ha : members.lookup (ascii "rxpk")=some (.array (objects.map Json.object)))
    {packets : List SemtechUDPPacket}
    (ho : ObjectsRead host crypto identityService (swapMac gw) objects packets)
    (hk : ∀ packet∈packets,KnownCode packet) (time : Timeval) :
    ∃ result,parseBuffer host crypto identityService time (gw.toBytes++text)=.ok result ∧
      result.calls.filter isDispatch=dispatched time packets := by
  have hpackets : parsePackets host crypto identityService (swapMac gw) members=
      .ok (packets.filter isReturned,lastCode LORA_OK packets) := by
    unfold parsePackets
    rw [ha]
    exact parseRxpk_eq ho [] LORA_OK
  have hdocument : ∃ retGWStat,parseDocument host crypto identityService (swapMac gw)
      {GatewayStat.empty with errcode := ERR_CODE_NO_GATEWAY_STAT} members=
        .ok ⟨swapMac gw,retGWStat,packets.filter isReturned,lastCode LORA_OK packets⟩ := by
    unfold parseDocument
    cases hstat : members.lookup (ascii "stat") with
    | none =>
      dsimp only
      rw [hpackets]
      exact ⟨_,rfl⟩
    | some jstat =>
      rw [hstat] at hs
      cases jstat with
      | object stat =>
        dsimp only
        rw [parse_stat_known host hs,hpackets]
        exact ⟨_,rfl⟩
      | _ => exact False.elim hs
  obtain ⟨retGWStat,hd⟩ := hdocument
  rw [parseBuffer_pushData hv ht hne hj,hd]
  exact ⟨_,rfl,filter_calls hk time _ _⟩

/-- Behind refused statistics nothing is handed over. -/
theorem calls_refused {gw : SemtechPrefixGw} (hv : gw.version=2) (ht : gw.tag=0) {text : Bytes}
    (hne : text≠[]) {members : Members} (hj : host.parseJson (cString text)=some (.object members))
    (hs : StatRefused (members.lookup (ascii "stat"))) (time : Timeval) :
    ∃ result,parseBuffer host crypto identityService time (gw.toBytes++text)=.ok result ∧
      result.calls.filter isDispatch=[] := by
  have hdocument : ∃ retGWStat,parseDocument host crypto identityService (swapMac gw)
      {GatewayStat.empty with errcode := ERR_CODE_NO_GATEWAY_STAT} members=
        .ok ⟨swapMac gw,retGWStat,[],ERR_CODE_INVALID_STAT⟩ := by
    unfold parseDocument
    cases hstat : members.lookup (ascii "stat") with
    | none => rw [hstat] at hs; exact False.elim hs
    | some jstat =>
      rw [hstat] at hs
      cases jstat with
      | object stat =>
        dsimp only
        rw [parse_stat_unknown host hs]
        exact ⟨_,rfl⟩
      | _ => exact False.elim hs
  obtain ⟨retGWStat,hd⟩ := hdocument
  rw [parseBuffer_pushData hv ht hne hj,hd]
  exact ⟨_,rfl,rfl⟩

/-- A packet for each of the objects that are read. -/
theorem exists_objectsRead {objects : List Members}
    (h : ∀ object∈objects,Returns (receivedRX host crypto identityService gwPrefix object)) :
    ∃ packets,ObjectsRead host crypto identityService gwPrefix objects packets := by
  induction objects with
  | nil => exact ⟨[],.nil⟩
  | cons object objects ih =>
    obtain ⟨packet,hp⟩ := h object List.mem_cons_self
    obtain ⟨packets,hps⟩ := ih fun other ho => h other (List.mem_cons_of_mem _ ho)
    exact ⟨packet::packets,.cons hp hps⟩

/-- All objects with a packet were read. -/
theorem ObjectsRead.returns {objects : List Members} {packets : List SemtechUDPPacket}
    (h : ObjectsRead host crypto identityService gwPrefix objects packets) :
    ∀ object∈objects,Returns (receivedRX host crypto identityService gwPrefix object) := by
  induction h with
  | nil => exact fun _ ho => absurd ho List.not_mem_nil
  | cons hp _ ih =>
    intro object ho
    rcases List.mem_cons.mp ho with rfl|ho
    · exact ⟨_,hp⟩
    · exact ih object ho

/-- The frame of an object decides the code of its packet. -/
theorem receivedRX_kind {object : Members} (h : FrameKind crypto identityService (parseFrame object))
    {packet : SemtechUDPPacket} (hp : receivedRX host crypto identityService gwPrefix object=.ok packet) :
    KindMatches crypto identityService (parseFrame object) packet := by
  obtain ⟨⟨m,size,data⟩,hrx,hr⟩ := bind_eq_ok.mp hp
  obtain ⟨read,-,he⟩ := bind_eq_ok.mp hrx
  have hdata : data=parseFrame object := (congrArg (fun result => result.2.2) (Except.ok.inj he)).symm
  rw [hdata] at hr
  exact received_kind h hr

/-- The packets have the codes of the frames, place by place. -/
theorem ObjectsRead.kinds {objects : List Members} {packets : List SemtechUDPPacket}
    (h : ObjectsRead host crypto identityService gwPrefix objects packets)
    (hk : ∀ object∈objects,FrameKind crypto identityService (parseFrame object)) :
    List.Forall₂ (fun object packet => KindMatches crypto identityService (parseFrame object) packet)
      objects packets :=
  ((List.forall₂_and_left _ _).mpr ⟨hk,h⟩).imp fun _ _ hb => receivedRX_kind hb.1 hb.2

/-- Related properties hold of all objects or of all packets alike. -/
theorem forall_iff_of_forall₂ {p : Members → Prop} {q : SemtechUDPPacket → Prop}
    {objects : List Members} {packets : List SemtechUDPPacket}
    (h : List.Forall₂ (fun object packet => p object ↔ q packet) objects packets) :
    (∀ object∈objects,p object) ↔ ∀ packet∈packets,q packet := by
  induction h with
  | nil => simp only [List.not_mem_nil,false_implies,implies_true]
  | cons hp _ ih => simp only [List.mem_cons,forall_eq_or_imp,hp,ih]

end Dispatch

section EveryOrder

variable (host : Host) (crypto : Crypto) (identityService : Option IdentityService) (time : Timeval)
  (gw : SemtechPrefixGw) (jstat : Option Json) (objects : List Members)

/-- Every packet of a PUSH_DATA with these statistics and these radio objects
is handed over once, in every order of the array and for every text that is
read as such a document. -/
def DispatchedOnce : Prop :=
  ∃ packets,ObjectsRead host crypto identityService (swapMac gw) objects packets ∧
    ∀ (parser : Bytes → Option Json) (text : Bytes) (members : Members) (other : List Members),
      text≠[] → parser (cString text)=some (.object members) →
      members.lookup (ascii "stat")=jstat →
      members.lookup (ascii "rxpk")=some (.array (other.map Json.object)) → other.Perm objects →
      ∃ result,parseBuffer {host with parseJson := parser} crypto identityService time (gw.toBytes++text)=
          .ok result ∧
        (result.calls.filter isDispatch).Perm (packets.filterMap (dispatchCall time))

/-- All data rates are read; and behind accepted statistics there is no join
request or only one object, behind refused ones nothing to hand over. -/
def DispatchCondition : Prop :=
  (∀ object∈objects,DatrReads object) ∧
  ((StatAccepted jstat ∧ ((∀ object∈objects,¬ JoinRequest (parseFrame object)) ∨ objects.length=1)) ∨
    (StatRefused jstat ∧ ∀ object∈objects,RefusedFrame crypto identityService (parseFrame object)))

/-- A document with the given statistics and radio objects. -/
def sampleMembers : Members :=
  (ascii "rxpk",.array (objects.map Json.object))::(jstat.map fun value => (ascii "stat",value)).toList

/-- It has the statistics. -/
theorem lookup_stat_sampleMembers : (sampleMembers jstat objects).lookup (ascii "stat")=jstat := by
  have hn : (ascii "stat"==ascii "rxpk")=false := by decide
  rw [sampleMembers,List.lookup_cons,hn]
  cases jstat with
  | none => rfl
  | some value => exact List.lookup_cons_self

/-- It has the radio objects. -/
theorem lookup_rxpk_sampleMembers :
    (sampleMembers jstat objects).lookup (ascii "rxpk")=some (.array (objects.map Json.object)) :=
  List.lookup_cons_self

variable {host crypto identityService time gw jstat objects}

/-- A frame of one of the kinds has a byte. -/
theorem FrameKind.ne_nil {frame : Bytes} (h : FrameKind crypto identityService frame) : frame≠[] := by
  rintro rfl
  rcases h with h|h|h
  · exact absurd h.2.1 (by decide)
  · exact h.1 rfl
  · exact absurd h.2.1 (by decide)

/-- Packets of known frames have known codes. -/
theorem knownCodes {packets : List SemtechUDPPacket}
    (h : List.Forall₂ (fun object packet => KindMatches crypto identityService (parseFrame object) packet)
      objects packets) : ∀ packet∈packets,KnownCode packet := by
  have hiff : List.Forall₂ (fun (_ : Members) packet => True ↔ KnownCode packet) objects packets :=
    h.imp fun _ _ hb => iff_of_true trivial hb.knownCode
  exact (forall_iff_of_forall₂ hiff).mp fun _ _ => trivial

/-- Without a join request, or with one object, the packets in one order are
handed over once. -/
theorem dispatched_eq {packets : List SemtechUDPPacket}
    (h : List.Forall₂ (fun object packet => KindMatches crypto identityService (parseFrame object) packet)
      objects packets)
    (hc : (∀ object∈objects,¬ JoinRequest (parseFrame object)) ∨ objects.length=1) (time : Timeval) :
    dispatched time packets=packets.filterMap (dispatchCall time) := by
  rcases hc with hdata|hone
  · have hiff : List.Forall₂ (fun object packet =>
        ¬ JoinRequest (parseFrame object) ↔ packet.errcode≠ERR_CODE_IS_JOIN) objects packets :=
      h.imp fun _ _ hb => not_congr hb.join_iff
    exact dispatched_data_only time ((forall_iff_of_forall₂ hiff).mp hdata)
  · rw [h.length_eq] at hone
    obtain ⟨packet,rfl⟩ := List.length_eq_one_iff.mp hone
    exact dispatched_single time packet

/-- Refused frames cause no call. -/
theorem filterMap_eq_nil_iff_refused {packets : List SemtechUDPPacket}
    (h : List.Forall₂ (fun object packet => KindMatches crypto identityService (parseFrame object) packet)
      objects packets) (time : Timeval) :
    packets.filterMap (dispatchCall time)=[] ↔
      ∀ object∈objects,RefusedFrame crypto identityService (parseFrame object) := by
  rw [List.filterMap_eq_nil_iff]
  exact (forall_iff_of_forall₂ (h.imp fun _ _ hb => hb.refused_iff time)).symm

/-- Under the condition every order hands over the packets once. -/
theorem dispatchedOnce_of_condition (hv : gw.version=2) (ht : gw.tag=0)
    (hk : ∀ object∈objects,FrameKind crypto identityService (parseFrame object))
    (hc : DispatchCondition crypto identityService jstat objects) :
    DispatchedOnce host crypto identityService time gw jstat objects := by
  obtain ⟨hdatr,hcase⟩ := hc
  have hreturns : ∀ object∈objects,
      Returns (receivedRX host crypto identityService (swapMac gw) object) := fun object ho =>
    (receivedRX_returns_iff host crypto identityService (swapMac gw) object).mpr
      ⟨hdatr object ho,(parseFrame_ne_nil_iff object).mp (hk object ho).ne_nil⟩
  obtain ⟨packets,hread⟩ := exists_objectsRead hreturns
  refine ⟨packets,hread,fun parser text members other hne hparser hs ha hp => ?_⟩
  have hj : ({host with parseJson := parser} : Host).parseJson (cString text)=some (.object members) := hparser
  rcases hcase with ⟨hstat,hcase⟩|⟨hstat,hcase⟩
  · obtain ⟨packets',hread',hp'⟩ := List.perm_comp_forall₂ hp hread
    have hkinds := ObjectsRead.kinds hread' fun object ho => hk object (hp.mem_iff.mp ho)
    have hcase' : (∀ object∈other,¬ JoinRequest (parseFrame object)) ∨ other.length=1 := by
      rw [hp.length_eq]
      exact hcase.imp_left fun h object ho => h object (hp.mem_iff.mp ho)
    have hread'' : ObjectsRead {host with parseJson := parser} crypto identityService (swapMac gw) other
        packets' := hread'
    obtain ⟨result,hr,hcalls⟩ := calls_accepted hv ht hne hj (hs.symm ▸ hstat) ha hread''
      (knownCodes hkinds) time
    refine ⟨result,hr,?_⟩
    rw [hcalls,dispatched_eq hkinds hcase' time]
    exact hp'.filterMap _
  · obtain ⟨result,hr,hcalls⟩ := calls_refused hv ht hne hj (hs.symm ▸ hstat) time
    refine ⟨result,hr,?_⟩
    rw [hcalls,(filterMap_eq_nil_iff_refused (hread.kinds hk) time).mpr hcase]

variable (time) in
/-- An array with a join request and another object has an order in which the
calls are wrong. -/
theorem join_not_dispatched {packets : List SemtechUDPPacket} (hv : gw.version=2) (ht : gw.tag=0)
    (hk : ∀ object∈objects,FrameKind crypto identityService (parseFrame object))
    (hread : ObjectsRead host crypto identityService (swapMac gw) objects packets)
    (hstat : StatAccepted jstat) {object : Members} (ho : object∈objects)
    (hjoin : JoinRequest (parseFrame object)) (hlen : objects.length≠1) :
    ∃ other : List Members,other.Perm objects ∧ ∀ result,
      parseBuffer {host with parseJson := fun _ => some (.object (sampleMembers jstat other))} crypto
          identityService time (gw.toBytes++[0])=.ok result →
        ¬ (result.calls.filter isDispatch).Perm (packets.filterMap (dispatchCall time)) := by
  obtain ⟨front,back,rfl⟩ := List.append_of_mem ho
  have hp : (object::(front++back)).Perm (front++object::back) := List.perm_middle.symm
  have hne : front++back≠[] := by
    intro he
    rw [List.append_eq_nil_iff] at he
    rw [he.1,he.2] at hlen
    exact hlen rfl
  obtain ⟨next,rest,hrest⟩ := List.exists_cons_of_ne_nil hne
  refine ⟨object::(front++back),hp,fun result hr hcalls => ?_⟩
  obtain ⟨packets',hread',hp'⟩ := List.perm_comp_forall₂ hp hread
  have hkinds := ObjectsRead.kinds hread' fun o h => hk o (hp.mem_iff.mp h)
  have hread'' : ObjectsRead {host with parseJson := fun _ => some (.object (sampleMembers jstat
      (object::(front++back))))} crypto identityService (swapMac gw) (object::(front++back)) packets' := hread'
  obtain ⟨result',hr',hcalls'⟩ := calls_accepted hv ht (List.cons_ne_nil 0 []) rfl
    ((lookup_stat_sampleMembers jstat _).symm ▸ hstat) (lookup_rxpk_sampleMembers jstat _) hread''
    (knownCodes hkinds) time
  rw [hr'] at hr
  rw [←Except.ok.inj hr,hcalls'] at hcalls
  rw [hrest] at hkinds
  cases hkinds with
  | cons hfirst htail =>
    cases htail with
    | cons _ _ =>
      exact not_dispatched_join time (hfirst.join_iff.mp hjoin) (hcalls.trans (hp'.filterMap _).symm)

/-- Statistics that are survived but not accepted are an object without a known
member; other values fail the assertion of the JSON library. -/
theorem statRefused_of_ok (hv : gw.version=2) (ht : gw.tag=0) {result : BufferResult}
    (hr : parseBuffer {host with parseJson := fun _ => some (.object (sampleMembers jstat objects))} crypto
      identityService time (gw.toBytes++[0])=.ok result) (hn : ¬ StatAccepted jstat) : StatRefused jstat := by
  cases jstat with
  | none => exact absurd trivial hn
  | some value =>
    cases value with
    | object stat => exact hn
    | _ =>
      rw [parseBuffer_pushData hv ht (List.cons_ne_nil 0 []) rfl] at hr
      obtain ⟨_,hd,-⟩ := bind_eq_ok.mp hr
      unfold parseDocument at hd
      rw [lookup_stat_sampleMembers] at hd
      cases hd

/-- Exactly under the condition every packet is handed over once in every
order. -/
theorem push_data_dispatched_iff (hv : gw.version=2) (ht : gw.tag=0)
    (hk : ∀ object∈objects,FrameKind crypto identityService (parseFrame object)) :
    DispatchedOnce host crypto identityService time gw jstat objects ↔
      DispatchCondition crypto identityService jstat objects := by
  refine ⟨?_,dispatchedOnce_of_condition hv ht hk⟩
  rintro ⟨packets,hread,hrun⟩
  have hsample : ∀ other : List Members,other.Perm objects → ∃ result,
      parseBuffer {host with parseJson := fun _ => some (.object (sampleMembers jstat other))} crypto
          identityService time (gw.toBytes++[0])=.ok result ∧
        (result.calls.filter isDispatch).Perm (packets.filterMap (dispatchCall time)) := fun other hp =>
    hrun _ [0] _ other (List.cons_ne_nil 0 []) rfl (lookup_stat_sampleMembers jstat other)
      (lookup_rxpk_sampleMembers jstat other) hp
  have hdatr : ∀ object∈objects,DatrReads object := fun object ho =>
    ((receivedRX_returns_iff host crypto identityService (swapMac gw) object).mp
      (hread.returns object ho)).1
  refine ⟨hdatr,?_⟩
  by_cases hstat : StatAccepted jstat
  · refine .inl ⟨hstat,?_⟩
    by_contra hn
    rw [not_or] at hn
    obtain ⟨hex,hlen⟩ := hn
    obtain ⟨object,ho,hjoin⟩ : ∃ object∈objects,JoinRequest (parseFrame object) := by
      by_contra hno
      exact hex fun object ho hj => hno ⟨object,ho,hj⟩
    obtain ⟨other,hp,hbad⟩ := join_not_dispatched time hv ht hk hread hstat ho hjoin hlen
    obtain ⟨result,hr,hcalls⟩ := hsample other hp
    exact hbad result hr hcalls
  · obtain ⟨result,hr,hcalls⟩ := hsample objects (List.Perm.refl objects)
    have hrefused := statRefused_of_ok hv ht hr hstat
    refine .inr ⟨hrefused,?_⟩
    rw [←lookup_stat_sampleMembers jstat objects] at hrefused
    have hj : ({host with parseJson := fun _ => some (.object (sampleMembers jstat objects))} : Host).parseJson
        (cString [0])=some (.object (sampleMembers jstat objects)) := rfl
    obtain ⟨result',hr',hcalls'⟩ := calls_refused hv ht (List.cons_ne_nil 0 []) hj hrefused time
    rw [hr'] at hr
    rw [←Except.ok.inj hr,hcalls'] at hcalls
    exact (filterMap_eq_nil_iff_refused (hread.kinds hk) time).mp hcalls.nil_eq.symm

end EveryOrder

/-- Primitives whose code over any message is zero. -/
def zeroCrypto : Crypto := spotCrypto zeroKey (constBlock 0) zeroKey []

/-- A radio object with only a frame. -/
def frameObject (text : String) : Members := [(ascii "data",.string (ascii text))]

/-- Twelve bytes: an uplink header of device 0 and a zero code. -/
def dataObject : Members := frameObject "QAAAAAAAAAAAAAAA"

/-- Twenty-three zero bytes: a join request. -/
def joinObject : Members := frameObject "AAAAAAAAAAAAAAAAAAAAAAAAAAAAAAA="

/-- The data frame is valid. -/
theorem frameKind_dataObject :
    FrameKind zeroCrypto (some (constService DeviceId.empty)) (parseFrame dataObject) :=
  .inl ⟨by decide +kernel,by decide +kernel,DeviceId.empty,rfl,by decide +kernel⟩

/-- Two data frames of a datagram without statistics are both put. -/
theorem two_data_frames_dispatched :
    (⟨2,0,0,0⟩ : SemtechPrefixGw).version=2 ∧
    DispatchedOnce referenceHost zeroCrypto (some (constService DeviceId.empty)) ⟨0,0⟩ ⟨2,0,0,0⟩ none
      [dataObject,dataObject] := by
  have hk : ∀ object∈[dataObject,dataObject],
      FrameKind zeroCrypto (some (constService DeviceId.empty)) (parseFrame object) := by
    intro object ho
    simp only [List.mem_cons,List.not_mem_nil,or_false,or_self] at ho
    rw [ho]
    exact frameKind_dataObject
  refine ⟨rfl,(push_data_dispatched_iff rfl rfl hk).mpr ⟨?_,.inl ⟨trivial,.inl ?_⟩⟩⟩
  · intro object ho value hvalue
    simp only [List.mem_cons,List.not_mem_nil,or_false,or_self] at ho
    rw [ho] at hvalue
    cases hvalue
  · intro object ho hj
    simp only [List.mem_cons,List.not_mem_nil,or_false,or_self] at ho
    rw [ho] at hj
    exact absurd hj.2 (by decide +kernel)

/-- A data frame in front of a join request: the data packet is handed over as
the join request, and neither of the two expected calls is made. -/
theorem data_before_join_lost :
    (∃ packet,receivedRX referenceHost zeroCrypto (some (constService DeviceId.empty)) ⟨2,0,0,0⟩
        dataObject=.ok packet ∧ packet.errcode=LORA_OK ∧
      parseBuffer referenceHost zeroCrypto (some (constService DeviceId.empty)) ⟨0,0⟩
        ((⟨2,0,0,0⟩ : SemtechPrefixGw).toBytes++ascii
          "\x7b\"rxpk\":[\x7b\"data\":\"QAAAAAAAAAAAAAAA\"\x7d,\x7b\"data\":\"AAAAAAAAAAAAAAAAAAAAAAAAAAAAAAA=\"\x7d]\x7d")=
        .ok ⟨[.ack ⟨2,0,0,0⟩,.join ⟨0,0⟩ packet],ERR_CODE_IS_JOIN⟩) ∧
    ¬ DispatchedOnce referenceHost zeroCrypto (some (constService DeviceId.empty)) ⟨0,0⟩ ⟨2,0,0,0⟩ none
      [dataObject,joinObject] := by
  have hjoin : JoinRequest (parseFrame joinObject) := ⟨by decide +kernel,by decide +kernel⟩
  have hk : ∀ object∈[dataObject,joinObject],
      FrameKind zeroCrypto (some (constService DeviceId.empty)) (parseFrame object) := by
    intro object ho
    simp only [List.mem_cons,List.not_mem_nil,or_false] at ho
    rcases ho with rfl|rfl
    · exact frameKind_dataObject
    · exact .inr (.inl hjoin)
  constructor
  · refine ⟨_,rfl,rfl,?_⟩
    decide +kernel
  · rintro ⟨packets,hread,hrun⟩
    have hstat : StatAccepted none := trivial
    obtain ⟨other,hp,hbad⟩ := join_not_dispatched ⟨0,0⟩ rfl rfl hk hread hstat
      (List.mem_cons_of_mem _ List.mem_cons_self) hjoin (by decide)
    obtain ⟨result,hr,hcalls⟩ := hrun (fun _ => some (.object (sampleMembers none other))) [0] _ other
      (List.cons_ne_nil 0 []) rfl (lookup_stat_sampleMembers none other)
      (lookup_rxpk_sampleMembers none other) hp
    exact hbad result hr hcalls

end LorawanServer.PacketDispatch
