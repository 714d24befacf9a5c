import LorawanServer.PacketDispatch
import LorawanServer.PacketQueue

/-!
# Which datagrams are acknowledged

The listener acknowledges a PULL_DATA as soon as its prefix is read, but a
PUSH_DATA only behind the code of `parse`. That code is the one of the last
radio object, or of the first obstacle on the way to it, so a gateway gets no
acknowledgement for a bare datagram, for refused statistics and for an array
whose last frame is foreign or damaged.
-/

namespace LorawanServer.Acknowledgement

open CppRuntime FrameCrypto Records DataFrame JsonDocument Datagram PacketHandler Listener DatagramSafety
open PacketDispatch

/-- Datagrams that the acknowledgements among the calls send. -/
def acks (calls : List Call) : List Bytes :=
  calls.filterMap fun call => match call with
    | .ack dataPrefix => some (PacketQueue.ack dataPrefix)
    | _ => none

/-- The codes behind which a PUSH_DATA is acknowledged. -/
def IsAcked (code : ℤ) : Prop := code=LORA_OK ∨ code=ERR_CODE_IS_JOIN

instance (code : ℤ) : Decidable (IsAcked code) :=
  inferInstanceAs (Decidable (code=LORA_OK ∨ code=ERR_CODE_IS_JOIN))

section Codes

variable (crypto : Crypto) (identityService : Option IdentityService)

/-- A join message, or a data frame of a known device with a matching code. -/
def AcceptedFrame (frame : Bytes) : Prop := isJoinType frame=true ∨ ValidFrame crypto identityService frame

variable {crypto identityService}

/-- The constructor accepts exactly these frames. -/
theorem received_acked_iff {gwPrefix : SemtechPrefixGw} {m : RfmMetaData} {frame : Bytes}
    {packet : SemtechUDPPacket} (h : received crypto identityService gwPrefix m frame=.ok packet) :
    IsAcked packet.errcode ↔ AcceptedFrame crypto identityService frame := by
  obtain ⟨⟨result,code⟩,hr,hp⟩ := bind_eq_ok.mp h
  have hc : packet.errcode=code := congrArg SemtechUDPPacket.errcode (Except.ok.inj hp).symm
  rw [IsAcked,AcceptedFrame,hc,parseData_join_iff hr,or_comm]
  refine or_congr_right ⟨fun hok => ?_,fun hv => ?_⟩
  · rw [hok] at hr
    obtain ⟨hj,h8,id,hg,hm,-⟩ := (parseData_ok_iff _ _ _ _ _).mp hr
    rw [withHeader_header h8] at hg
    rw [frameMic_uplink h8 rfl] at hm
    exact ⟨hj,h8,id,hg,hm⟩
  · obtain ⟨other,ho,he⟩ := received_valid hv gwPrefix m
    rw [h] at ho
    rw [←hc,Except.ok.inj ho,he]

variable (host : Host) (gwPrefix : SemtechPrefixGw)

/-- The same behind a reader that ends with the frame of an object. -/
theorem read_acked_iff {reader : Except Fault (RfmMetaData×Option ℤ×Bytes)} {object : Members}
    {packet : SemtechUDPPacket} (hread : ∀ read,reader=.ok read → read.2.2=parseFrame object)
    (h : (reader>>=fun read => received crypto identityService gwPrefix read.1 read.2.2)=.ok packet) :
    IsAcked packet.errcode ↔ AcceptedFrame crypto identityService (parseFrame object) := by
  obtain ⟨read,hr,hp⟩ := bind_eq_ok.mp h
  rw [hread read hr] at hp
  exact received_acked_iff hp

/-- The same for one object of the `rxpk` array. -/
theorem receivedRX_acked_iff {object : Members} {packet : SemtechUDPPacket}
    (h : receivedRX host crypto identityService gwPrefix object=.ok packet) :
    IsAcked packet.errcode ↔ AcceptedFrame crypto identityService (parseFrame object) := by
  refine read_acked_iff gwPrefix (fun read hrx => ?_) h
  obtain ⟨m,-,he⟩ := bind_eq_ok.mp hrx
  rw [←Except.ok.inj he]

/-- The same for a `txpk` object. -/
theorem receivedTX_acked_iff {object : Members} {packet : SemtechUDPPacket}
    (h : receivedTX host crypto identityService gwPrefix object=.ok packet) :
    IsAcked packet.errcode ↔ AcceptedFrame crypto identityService (parseFrame object) := by
  refine read_acked_iff gwPrefix (fun read htx => ?_) h
  obtain ⟨m,-,he⟩ := bind_eq_ok.mp htx
  rw [←Except.ok.inj he]

variable (crypto identityService) in
/-- All values of the array are objects and the last one has an accepted
frame. -/
def LastAccepted (items : List Json) : Prop :=
  (∀ item∈items,item.isObject=true) ∧
    ∀ members,items.getLast?=some (.object members) → AcceptedFrame crypto identityService (parseFrame members)

/-- A single object decides with its frame. -/
theorem lastAccepted_singleton (members : Members) :
    LastAccepted crypto identityService [.object members] ↔
      AcceptedFrame crypto identityService (parseFrame members) := by
  constructor
  · intro h
    exact h.2 members rfl
  · intro h
    refine ⟨fun item hi => ?_,fun last hl => ?_⟩
    · rw [List.mem_singleton.mp hi]
      rfl
    · rw [←Json.object.inj (Option.some.inj hl)]
      exact h

/-- An object in front of others does not decide. -/
theorem lastAccepted_cons (members : Members) {items : List Json} (hne : items≠[]) :
    LastAccepted crypto identityService (.object members::items) ↔ LastAccepted crypto identityService items := by
  have hl : (Json.object members::items).getLast?=items.getLast? := List.getLast?_cons_of_ne_nil hne
  rw [LastAccepted,LastAccepted,hl,List.forall_mem_cons]
  exact and_congr_left fun _ => ⟨fun h => h.2,fun h => ⟨rfl,h⟩⟩

/-- The code of the loop over the array; the code so far counts only when
nothing follows. -/
theorem parseRxpk_acked_iff {items : List Json} {retPackets packets : List SemtechUDPPacket} {r code : ℤ}
    (h : parseRxpk host crypto identityService gwPrefix items retPackets r=.ok (packets,code)) :
    IsAcked code ↔ if items=[] then IsAcked r else LastAccepted crypto identityService items := by
  induction items generalizing retPackets r with
  | nil =>
    rw [parseRxpk] at h
    rw [←(Prod.mk.inj (Except.ok.inj h)).2,if_pos rfl]
  | cons item items ih =>
    rw [if_neg (List.cons_ne_nil _ _)]
    cases item with
    | object members =>
      rw [parseRxpk] at h
      obtain ⟨packet,hp,hrest⟩ := bind_eq_ok.mp h
      rw [ih hrest,receivedRX_acked_iff host gwPrefix hp]
      split_ifs with hn
      · rw [hn,lastAccepted_singleton]
      · exact (lastAccepted_cons members hn).symm
    | _ =>
      -- a value that is not an object ends the loop with an error
      rw [parseRxpk] at h
      · rw [←(Prod.mk.inj (Except.ok.inj h)).2]
        refine iff_of_false (by decide) fun hl => ?_
        exact absurd (hl.1 _ List.mem_cons_self) Bool.false_ne_true
      · exact fun members he => by cases he

variable (crypto identityService) in
/-- The radio objects end with an accepted frame, if there are any. -/
def PacketsAccepted (members : Members) : Prop :=
  match members.lookup (ascii "rxpk"),members.lookup (ascii "txpk") with
  | some (.array items),_ => LastAccepted crypto identityService items
  | some _,_ => False
  | none,some (.object txpk) => AcceptedFrame crypto identityService (parseFrame txpk)
  | none,some _ => False
  | none,none => True

/-- The code behind the statistics. -/
theorem parsePackets_acked_iff {members : Members} {packets : List SemtechUDPPacket} {code : ℤ}
    (h : parsePackets host crypto identityService gwPrefix members=.ok (packets,code)) :
    IsAcked code ↔ PacketsAccepted crypto identityService members := by
  cases hr : members.lookup (ascii "rxpk") with
  | some rxpk =>
    cases rxpk with
    | array items =>
      simp only [parsePackets,hr] at h
      rw [PacketsAccepted,hr,parseRxpk_acked_iff host gwPrefix h]
      split_ifs with hn
      · rw [hn]
        refine iff_of_true (by decide) ⟨fun item hi => absurd hi List.not_mem_nil,fun last hl => ?_⟩
        cases hl
      · rfl
    | _ =>
      simp only [parsePackets,hr] at h
      rw [PacketsAccepted,hr,←(Prod.mk.inj (Except.ok.inj h)).2]
      exact iff_of_false (by decide) id
  | none =>
    cases ht : members.lookup (ascii "txpk") with
    | none =>
      simp only [parsePackets,hr,ht] at h
      rw [PacketsAccepted,hr,ht,←(Prod.mk.inj (Except.ok.inj h)).2]
      exact iff_of_true (by decide) trivial
    | some txpk =>
      cases txpk with
      | object txpk =>
        simp only [parsePackets,hr,ht] at h
        obtain ⟨packet,hp,he⟩ := bind_eq_ok.mp h
        rw [PacketsAccepted,hr,ht,←(Prod.mk.inj (Except.ok.inj he)).2]
        exact receivedTX_acked_iff host gwPrefix hp
      | _ =>
        simp only [parsePackets,hr,ht] at h
        rw [PacketsAccepted,hr,ht,←(Prod.mk.inj (Except.ok.inj h)).2]
        exact iff_of_false (by decide) id

/-- The code of a document and the prefix that is acknowledged: the statistics
must be accepted as well. -/
theorem parseDocument_acked_iff {retGWStat : GatewayStat} {members : Members} {result : ParseResult}
    (h : parseDocument host crypto identityService gwPrefix retGWStat members=.ok result) :
    result.retPrefix=gwPrefix ∧ (IsAcked result.code ↔
      StatAccepted (members.lookup (ascii "stat")) ∧ PacketsAccepted crypto identityService members) := by
  unfold parseDocument at h
  cases hs : members.lookup (ascii "stat") with
  | none =>
    rw [hs] at h
    obtain ⟨⟨packets,code⟩,hp,hr⟩ := bind_eq_ok.mp h
    rw [←Except.ok.inj hr]
    exact ⟨rfl,(parsePackets_acked_iff host gwPrefix hp).trans (and_iff_right trivial).symm⟩
  | some jstat =>
    rw [hs] at h
    cases jstat with
    | object stat =>
      by_cases hm : HasStatMember stat
      · dsimp only at h
        rw [parse_stat_known host hm] at h
        change parsePackets host crypto identityService gwPrefix members>>=_=_ at h
        obtain ⟨⟨packets,code⟩,hp,hr⟩ := bind_eq_ok.mp h
        rw [←Except.ok.inj hr]
        exact ⟨rfl,(parsePackets_acked_iff host gwPrefix hp).trans (and_iff_right hm).symm⟩
      · dsimp only at h
        rw [parse_stat_unknown host hm] at h
        have hr : (⟨gwPrefix,_,[],ERR_CODE_INVALID_STAT⟩ : ParseResult)=result := Except.ok.inj h
        rw [←hr]
        exact ⟨rfl,iff_of_false (show ¬IsAcked ERR_CODE_INVALID_STAT by decide) fun hc => hm hc.1⟩
    | _ => cases h

end Codes

/-- Only the answer to a PUSH_DATA sends an acknowledgement. -/
theorem acks_pushData (time : Timeval) (result : ParseResult) :
    acks (answerPushData time result++putPackets time result.retPackets result.code++
      reflectStat result.retGWStat result.code)=
      if IsAcked result.code then [PacketQueue.ack result.retPrefix] else [] := by
  have hput : acks (putPackets time result.retPackets result.code)=[] := by
    rw [putPackets]
    split_ifs
    · rfl
    · rw [acks,List.filterMap_eq_nil_iff]
      intro call hc
      obtain ⟨packet,-,rfl⟩ := List.mem_map.mp hc
      rfl
  have hstat : acks (reflectStat result.retGWStat result.code)=[] := by
    rw [reflectStat]
    split_ifs
    · rfl
    · rfl
    · rfl
  have hanswer : acks (answerPushData time result)=
      if IsAcked result.code then [PacketQueue.ack result.retPrefix] else [] := by
    rw [answerPushData]
    by_cases hok : result.code=LORA_OK
    · rw [if_pos hok,if_pos (show IsAcked result.code from Or.inl hok)]
      rfl
    · by_cases hj : result.code=ERR_CODE_IS_JOIN
      · rw [if_neg hok,if_pos hj,if_pos (show IsAcked result.code from Or.inr hj)]
        cases result.retPackets with
        | nil => rfl
        | cons packet packets => rfl
      · rw [if_neg hok,if_neg hj,if_neg (show ¬IsAcked result.code from not_or.mpr ⟨hok,hj⟩)]
        rfl
  rw [acks,List.filterMap_append,List.filterMap_append]
  change acks _++acks _++acks _=_
  rw [hanswer,hput,hstat,List.append_nil,List.append_nil]

section Datagrams

variable (host : Host) (crypto : Crypto) (identityService : Option IdentityService) (time : Timeval)
  (gw : SemtechPrefixGw) (text : Bytes)

/-- A PULL_DATA, or a PUSH_DATA with no body or with an object, of version 2. -/
def AckRequested : Prop :=
  gw.version=2 ∧ (gw.tag=2 ∨
    gw.tag=0 ∧ (text=[] ∨ ∃ members,host.parseJson (cString text)=some (.object members)))

/-- Exactly one acknowledgement is sent: version 2, the token of the datagram
and PUSH_ACK or PULL_ACK. -/
def AckSent : Prop :=
  ∃ result,parseBuffer host crypto identityService time (gw.toBytes++text)=.ok result ∧
    acks result.calls=[[2]++leBytes 2 gw.token.toNat++[if gw.tag=2 then 4 else 1]]

/-- The condition on a datagram: a PULL_DATA, or a PUSH_DATA with a body that is
read without a fault, whose statistics are absent or accepted and whose radio
objects end with an accepted frame. -/
def AckCondition : Prop :=
  gw.tag=2 ∨ text≠[] ∧ ∃ members,host.parseJson (cString text)=some (.object members) ∧
    PacketsRead members ∧ StatAccepted (members.lookup (ascii "stat")) ∧
    PacketsAccepted crypto identityService members

variable {host crypto identityService time gw text}

/-- Behind accepted statistics the radio objects decide about faults. -/
theorem documentReads_iff {members : Members} (h : StatAccepted (members.lookup (ascii "stat"))) :
    DocumentReads members ↔ PacketsRead members := by
  rw [DocumentReads]
  cases hs : members.lookup (ascii "stat") with
  | none => rfl
  | some jstat =>
    rw [hs] at h
    cases jstat with
    | object stat => exact imp_iff_right h
    | _ => exact False.elim h

/-- The bytes of an acknowledgement of a read prefix. -/
theorem ack_swapMac (gw : SemtechPrefixGw) (h : gw.tag=2 ∨ gw.tag=0) :
    PacketQueue.ack (swapMac gw)=[2]++leBytes 2 gw.token.toNat++[if gw.tag=2 then 4 else 1] := by
  obtain ⟨ht,hk⟩ := swapMac_tag_token gw
  rw [PacketQueue.ack,ht,hk]
  rcases h with h | h
  · rw [h]
    rfl
  · rw [h]
    rfl

/-- Every PULL_DATA of version 2 is acknowledged. -/
theorem pullData_acked (hv : gw.version=2) (ht : gw.tag=2) :
    AckSent host crypto identityService time gw text := by
  have hl : ¬(gw.toBytes++text).length<4 := by
    rw [List.length_append,SemtechPrefixGw.toBytes_length]
    omega
  have htag : (gw.toBytes++text).getD 3 0=2 := ht
  refine ⟨⟨[.ack (swapMac gw),.setSocketAddress (swapMac gw).mac],LORA_OK⟩,?_,?_⟩
  · unfold parseBuffer
    rw [if_neg hl,htag,parsePrefixGw_toBytes hv]
    rfl
  · rw [←ack_swapMac gw (Or.inl ht)]
    rfl

/-- A PUSH_DATA without a body is not acknowledged. -/
theorem ping_not_acked (hv : gw.version=2) (ht : gw.tag=0) :
    ¬AckSent host crypto identityService time gw [] := by
  have hl : ¬(gw.toBytes++[]).length<4 := by
    rw [List.length_append,SemtechPrefixGw.toBytes_length]
    decide
  have htag : (gw.toBytes++[]).getD 3 0=0 := ht
  have hparse : parse host crypto identityService host.dataPrefix GatewayStat.empty (gw.toBytes++[])=
      .ok ⟨swapMac gw,{GatewayStat.empty with errcode := ERR_CODE_NO_GATEWAY_STAT},[],ERR_CODE_PING⟩ := by
    have hs : (swapMac gw).tag=0 := (swapMac_tag_token gw).1.trans ht
    unfold parse
    rw [parsePrefixGw_toBytes hv,List.append_nil,SemtechPrefixGw.toBytes_length]
    dsimp only
    rw [hs]
    rfl
  intro ⟨result,hr,ha⟩
  unfold parseBuffer at hr
  rw [if_neg hl,htag] at hr
  change parse host crypto identityService host.dataPrefix GatewayStat.empty (gw.toBytes++[])>>=_=_ at hr
  rw [hparse] at hr
  rw [←Except.ok.inj hr] at ha
  cases ha

/-- A datagram is acknowledged exactly when it is a PULL_DATA or its body ends
well. -/
theorem datagram_acknowledged_iff (h : AckRequested host gw text) :
    AckSent host crypto identityService time gw text ↔
      AckCondition host crypto identityService gw text := by
  obtain ⟨hv,ht | ⟨ht,hbody⟩⟩ := h
  · exact iff_of_true (pullData_acked hv ht) (Or.inl ht)
  · have hnot : gw.tag≠2 := by
      rw [ht]
      decide
    by_cases hne : text=[]
    · rw [hne]
      refine iff_of_false (ping_not_acked hv ht) fun hc => ?_
      rcases hc with hc | hc
      · exact hnot hc
      · exact hc.1 rfl
    · obtain ⟨members,hj⟩ := hbody.resolve_left hne
      have hcondition : AckCondition host crypto identityService gw text ↔
          PacketsRead members ∧ StatAccepted (members.lookup (ascii "stat")) ∧
            PacketsAccepted crypto identityService members := by
        constructor
        · intro hc
          obtain ⟨-,other,ho,hrest⟩ := hc.resolve_left hnot
          rw [hj] at ho
          rw [Json.object.inj (Option.some.inj ho)]
          exact hrest
        · exact fun hrest => Or.inr ⟨hne,members,hj,hrest⟩
      rw [hcondition]
      constructor
      · intro ⟨result,hr,ha⟩
        rw [parseBuffer_pushData hv ht hne hj] at hr
        obtain ⟨parsed,hd,he⟩ := bind_eq_ok.mp hr
        rw [←Except.ok.inj he,acks_pushData] at ha
        split_ifs at ha with hacked
        obtain ⟨hs,hp⟩ := (parseDocument_acked_iff host (swapMac gw) hd).2.mp hacked
        refine ⟨(documentReads_iff hs).mp ?_,hs,hp⟩
        exact (parseDocument_returns_iff host crypto identityService _ _ members).mp ⟨parsed,hd⟩
      · intro ⟨hread,hs,hp⟩
        obtain ⟨parsed,hd⟩ := (parseDocument_returns_iff host crypto identityService (swapMac gw)
          {GatewayStat.empty with errcode := ERR_CODE_NO_GATEWAY_STAT} members).mpr
          ((documentReads_iff hs).mpr hread)
        obtain ⟨hgw,hacked⟩ := parseDocument_acked_iff host (swapMac gw) hd
        refine ⟨_,(parseBuffer_pushData hv ht hne hj time).trans (by rw [hd]; rfl),?_⟩
        rw [acks_pushData,if_pos (hacked.mpr ⟨hs,hp⟩),hgw,ack_swapMac gw (Or.inr ht)]

end Datagrams

/-- An empty object is acknowledged. -/
theorem empty_object_acknowledged :
    AckSent referenceHost zeroCrypto none ⟨0,0⟩ ⟨2,0x1234,0,0⟩ (ascii "\x7b\x7d") := by
  have hj : referenceHost.parseJson (cString (ascii "\x7b\x7d"))=some (.object []) := rfl
  refine (datagram_acknowledged_iff ⟨rfl,Or.inr ⟨rfl,Or.inr ⟨_,hj⟩⟩⟩).mpr
    (Or.inr ⟨by decide,_,hj,⟨?_,?_⟩,trivial,trivial⟩)
  · intro items hi
    cases hi
  · intro _ txpk ht
    cases ht

/-- A valid data frame followed by a damaged one. -/
def damagedLast : Bytes :=
  ascii "\x7b\"rxpk\":[\x7b\"data\":\"QAAAAAAAAAAAAAAA\"\x7d,\x7b\"data\":\"QAAAAAAAAAAAAAAB\"\x7d]\x7d"

/-- The text is an object. -/
theorem damagedLast_object : ∃ members,referenceHost.parseJson (cString damagedLast)=some (.object members) := by
  have ho : (referenceHost.parseJson (cString damagedLast)).any Json.isObject=true := by decide +kernel
  cases hj : referenceHost.parseJson (cString damagedLast) with
  | none =>
    rw [hj] at ho
    cases ho
  | some value =>
    rw [hj] at ho
    cases value with
    | object members => exact ⟨members,rfl⟩
    | _ => cases ho

/-- A bare PUSH_DATA, and one whose array ends with a damaged frame behind a
valid one: neither is acknowledged. -/
theorem push_data_not_acknowledged :
    (AckRequested referenceHost ⟨2,0x1234,0,0⟩ [] ∧
      ¬AckSent referenceHost zeroCrypto none ⟨0,0⟩ ⟨2,0x1234,0,0⟩ []) ∧
    AckRequested referenceHost ⟨2,0x1234,0,0⟩ damagedLast ∧
      ¬AckSent referenceHost zeroCrypto (some (constService DeviceId.empty)) ⟨0,0⟩ ⟨2,0x1234,0,0⟩
        damagedLast := by
  refine ⟨⟨⟨rfl,Or.inr ⟨rfl,Or.inl rfl⟩⟩,ping_not_acked rfl rfl⟩,
    ⟨rfl,Or.inr ⟨rfl,Or.inr damagedLast_object⟩⟩,?_⟩
  intro ⟨result,hr,ha⟩
  have hn : ((parseBuffer referenceHost zeroCrypto (some (constService DeviceId.empty)) ⟨0,0⟩
      ((⟨2,0x1234,0,0⟩ : SemtechPrefixGw).toBytes++damagedLast)).map fun result => acks result.calls)=
      .ok [] := by decide +kernel
  rw [hr] at hn
  have hnone : acks result.calls=[] := Except.ok.inj hn
  rw [hnone] at ha
  cases ha

end LorawanServer.Acknowledgement
