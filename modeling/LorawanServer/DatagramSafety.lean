import LorawanServer.Listener

/-!
# Which datagrams the listener survives

For each function on the way from the received bytes to the handler, the exact
inputs on which it returns. Four things can go wrong: a data rate whose only
letter B is its last character, a radio object without a frame, statistics
that are not an object, and a tag without a JSON text. A transmission
acknowledgement always reads behind the received bytes.
-/

namespace LorawanServer.DatagramSafety

open CppRuntime FrameCrypto Records DataFrame JsonDocument Base64 Datagram Listener PacketHandler

/-- At least three characters, of which the last one is the only letter B. -/
def EndsAtB (value : Bytes) : Prop := ∃ front,value=front++[66] ∧ 66∉front ∧ 2≤front.length

/-- The first letter B stands last exactly in these texts. -/
theorem endsAtB_iff (value : Bytes) :
    EndsAtB value ↔ 3≤value.length ∧ value.findIdx? (· = 66)=some (value.length-1) := by
  constructor
  · rintro ⟨front,rfl,hn,hl⟩
    refine ⟨by rw [List.length_append,List.length_singleton]; omega,?_⟩
    rw [findIdx?_letterB hn,List.length_append,List.length_singleton,Nat.add_sub_cancel]
  · rintro ⟨hl,hf⟩
    obtain ⟨hlt,hat,hbefore⟩ := List.findIdx?_eq_some_iff_getElem.mp hf
    have hne : value≠[] := fun he => by rw [he] at hl; exact absurd hl (by decide)
    refine ⟨value.dropLast,?_,?_,by rw [List.length_dropLast]; omega⟩
    · have hlast : value.getLast hne=66 := by
        rw [List.getLast_eq_getElem]
        exact of_decide_eq_true hat
      rw [←hlast,List.dropLast_append_getLast]
    · intro hm
      obtain ⟨i,hi,he⟩ := List.mem_iff_getElem.mp hm
      rw [List.length_dropLast] at hi
      have hb := hbefore i hi
      rw [List.getElem_dropLast] at he
      rw [he] at hb
      exact absurd hb (by decide)

/-- The data rate is read unless its only letter B is its last character. -/
theorem setDatr_returns_iff (m : RfmMetaData) (value : Bytes) : Returns (setDatr m value) ↔ ¬ EndsAtB value := by
  rw [endsAtB_iff,setDatr]
  split
  · next hs => exact ⟨fun _ h => absurd h.1 (by omega),fun _ => returns_ok m⟩
  · next hs =>
    split
    · next hf =>
      rw [hf]
      exact ⟨fun _ h => absurd h.2 (by simp only [reduceCtorEq,not_false_eq_true]),fun _ => returns_ok m⟩
    · next p hf =>
      have hp := (List.findIdx?_eq_some_iff_getElem.mp hf).1
      rw [hf,Option.some.injEq,substr_of_le (by omega)]
      simp only [bind,Except.bind]
      by_cases hlast : p=value.length-1
      · have hsub : substr value (p+2) value.length=.error .outOfRange := by
          rw [substr,if_pos (by omega)]
        rw [hsub]
        exact ⟨fun h => absurd h (not_returns_error _),fun h => absurd ⟨by omega,hlast⟩ h⟩
      · rw [substr_of_le (by omega)]
        exact ⟨fun _ h => hlast h.2,fun _ => returns_ok _⟩

/-- A radio frame is read unless it is empty: the missing first byte counts as
a join request. -/
theorem parseData_returns_iff (crypto : Crypto) (identityService : Option IdentityService)
    (packet : SemtechUDPPacket) (data : Bytes) :
    Returns (parseData crypto identityService packet data) ↔ data≠[] := by
  cases hj : isJoinType data with
  | true =>
    unfold parseData
    split
    · cases data with
      | nil => exact ⟨fun h => absurd h (not_returns_error _),fun h => absurd rfl h⟩
      | cons byte tail =>
        rw [substr_of_le (by simp only [List.length_cons]; omega)]
        exact ⟨fun _ => List.cons_ne_nil byte tail,fun _ => returns_ok _⟩
    · next hr =>
      have hne : data≠[] := by
        rintro rfl
        exact hr rfl
      have hm : mtype (data.headD 0)<2 := of_decide_eq_true hj
      rw [if_pos (by change mtype (data.headD 0)=1; change ¬ mtype (data.headD 0)=0 at hr; omega)]
      exact ⟨fun _ => hne,fun _ => returns_ok _⟩
  | false =>
    have hne : data≠[] := by
      rintro rfl
      exact absurd hj (by decide)
    refine ⟨fun _ => hne,fun _ => ?_⟩
    rw [parseData_of_not_join hj]
    split
    · next h8 =>
      split
      · rw [parseKnown_eq h8]
        exact returns_ok _
      · obtain ⟨payload,hu⟩ := parseUnknown_eq (withHeader packet data) data
        rw [hu]
        exact returns_ok _
    · exact returns_ok _

/-- The frame of a radio object: its base64 text decodes to a byte or more. -/
def HasFrame (members : Members) : Prop :=
  ∃ text frame,getMember members "data" Json.string?=some text ∧ base64Decode text=some frame ∧ frame≠[]

/-- Other radio objects give the empty frame. -/
theorem parseFrame_ne_nil_iff (members : Members) : parseFrame members≠[] ↔ HasFrame members := by
  rw [parseFrame,HasFrame]
  cases getMember members "data" Json.string? with
  | none => simp only [ne_eq,not_true_eq_false,reduceCtorEq,false_and,exists_false]
  | some text =>
    simp only [Option.some.injEq,exists_and_left,exists_eq_left']
    cases base64Decode text with
    | none => simp only [Option.getD_none,ne_eq,not_true_eq_false,reduceCtorEq,false_and,exists_false]
    | some frame => simp only [Option.getD_some,Option.some.injEq,exists_eq_left']

/-- The data rate, if any, is no such text. -/
def DatrReads (members : Members) : Prop :=
  ∀ value,getMember members "datr" Json.string?=some value → ¬ EndsAtB value

/-- A radio object that the reader survives. -/
def RadioReads (members : Members) : Prop := DatrReads members ∧ HasFrame members

/-- The data rate member is read unless it is such a text. -/
theorem parseDatr_returns_iff (members : Members) (m : RfmMetaData) :
    Returns (parseDatr members m) ↔ DatrReads members := by
  rw [parseDatr,DatrReads]
  cases getMember members "datr" Json.string? with
  | none => exact ⟨fun _ _ h => (by cases h),fun _ => returns_ok m⟩
  | some value =>
    simp only [Option.some.injEq,forall_eq']
    exact setDatr_returns_iff m value

/-- The packet constructor returns exactly for a frame of a byte or more. -/
theorem received_returns_iff (crypto : Crypto) (identityService : Option IdentityService)
    (gwPrefix : SemtechPrefixGw) (m : RfmMetaData) (data : Bytes) :
    Returns (received crypto identityService gwPrefix m data) ↔ data≠[] := by
  unfold received
  rw [returns_bind]
  constructor
  · rintro ⟨result,hr,-⟩
    exact (parseData_returns_iff _ _ _ _).mp ⟨result,hr⟩
  · intro hne
    obtain ⟨result,hr⟩ := (parseData_returns_iff crypto identityService _ data).mpr hne
    exact ⟨result,hr,returns_ok _⟩

section Reader

variable (host : Host) (crypto : Crypto) (identityService : Option IdentityService)

/-- The two steps that can fail while a radio object is read: its data rate and
its frame. -/
theorem radio_returns_iff (gwPrefix : SemtechPrefixGw) (members : Members) (before : RfmMetaData)
    (after : RfmMetaData → RfmMetaData) :
    Returns (parseDatr members before>>=fun m =>
      received crypto identityService gwPrefix (after m) (parseFrame members)) ↔ RadioReads members := by
  rw [RadioReads,←parseFrame_ne_nil_iff,returns_bind]
  constructor
  · rintro ⟨m,hm,hr⟩
    exact ⟨(parseDatr_returns_iff members _).mp ⟨m,hm⟩,(received_returns_iff _ _ _ _ _).mp hr⟩
  · rintro ⟨hd,hf⟩
    obtain ⟨m,hm⟩ := (parseDatr_returns_iff members _).mpr hd
    exact ⟨m,hm,(received_returns_iff _ _ _ _ _).mpr hf⟩

/-- A received radio object is read exactly when it is survivable. -/
theorem receivedRX_returns_iff (gwPrefix : SemtechPrefixGw) (members : Members) :
    Returns (receivedRX host crypto identityService gwPrefix members) ↔ RadioReads members := by
  unfold receivedRX parseRX
  simp only [bind_assoc,pure_bind]
  exact radio_returns_iff crypto identityService gwPrefix members _ _

/-- So is a radio object to be sent. -/
theorem receivedTX_returns_iff (gwPrefix : SemtechPrefixGw) (members : Members) :
    Returns (receivedTX host crypto identityService gwPrefix members) ↔ RadioReads members := by
  unfold receivedTX parseTX
  simp only [bind_assoc,pure_bind]
  exact radio_returns_iff crypto identityService gwPrefix members _ _

/-- The objects of an `rxpk` array that the loop reaches are survivable. -/
def RxpkReads (items : List Json) : Prop :=
  ∀ members,Json.object members∈items.takeWhile Json.isObject → RadioReads members

/-- The loop returns exactly when all objects it reaches are survivable. -/
theorem parseRxpk_returns_iff (gwPrefix : SemtechPrefixGw) (items : List Json)
    (retPackets : List SemtechUDPPacket) (r : ℤ) :
    Returns (parseRxpk host crypto identityService gwPrefix items retPackets r) ↔ RxpkReads items := by
  induction items generalizing retPackets r with
  | nil =>
    refine ⟨fun _ members hm => ?_,fun _ => returns_ok _⟩
    simp only [List.takeWhile_nil,List.not_mem_nil] at hm
  | cons item items ih =>
    cases item with
    | object members =>
      have hw : (Json.object members::items).takeWhile Json.isObject=
          Json.object members::items.takeWhile Json.isObject := rfl
      rw [parseRxpk,returns_bind,RxpkReads,hw]
      simp only [List.mem_cons,Json.object.injEq,forall_eq_or_imp,ih]
      constructor
      · rintro ⟨packet,hp,hrest⟩
        exact ⟨(receivedRX_returns_iff host crypto identityService gwPrefix members).mp ⟨packet,hp⟩,hrest⟩
      · rintro ⟨hm,hrest⟩
        obtain ⟨packet,hp⟩ := (receivedRX_returns_iff host crypto identityService gwPrefix members).mpr hm
        exact ⟨packet,hp,hrest⟩
    | _ =>
      refine ⟨fun _ members hm => ?_,fun _ => returns_ok _⟩
      simp only [List.takeWhile_cons,Json.isObject,Bool.false_eq_true,if_false,List.not_mem_nil] at hm

/-- The radio objects of a document are survivable. -/
def PacketsRead (members : Members) : Prop :=
  (∀ items,members.lookup (ascii "rxpk")=some (.array items) → RxpkReads items) ∧
  (members.lookup (ascii "rxpk")=none →
    ∀ txpk,members.lookup (ascii "txpk")=some (.object txpk) → RadioReads txpk)

/-- The part behind the statistics returns exactly when they are. -/
theorem parsePackets_returns_iff (gwPrefix : SemtechPrefixGw) (members : Members) :
    Returns (parsePackets host crypto identityService gwPrefix members) ↔ PacketsRead members := by
  unfold parsePackets PacketsRead
  cases members.lookup (ascii "rxpk") with
  | some rxpk =>
    simp only [Option.some.injEq,reduceCtorEq,false_implies,and_true]
    cases rxpk with
    | array items =>
      simp only [parseRxpk_returns_iff,Json.array.injEq,forall_eq']
    | _ => exact ⟨fun _ items h => (by cases h),fun _ => returns_ok _⟩
  | none =>
    simp only [reduceCtorEq,false_implies,implies_true,true_and,forall_const]
    cases members.lookup (ascii "txpk") with
    | none => exact ⟨fun _ txpk h => (by cases h),fun _ => returns_ok _⟩
    | some txpk =>
      simp only [Option.some.injEq]
      cases txpk with
      | object txpk =>
        simp only [returns_bind,Json.object.injEq,forall_eq']
        rw [←receivedTX_returns_iff host crypto identityService gwPrefix txpk]
        exact ⟨fun ⟨packet,hp,_⟩ => ⟨packet,hp⟩,fun ⟨packet,hp⟩ => ⟨packet,hp,returns_ok _⟩⟩
      | _ => exact ⟨fun _ txpk h => (by cases h),fun _ => returns_ok _⟩

/-- The statistics have a member that the reader knows, of the type it wants. -/
def HasStatMember (members : Members) : Prop :=
  (members.lookup (ascii "gwid")).isSome ∨
  (∃ name∈["addr","name","time"],(getMember members name Json.string?).isSome) ∨
  (∃ name∈["lati","long"],(getMember members name Json.double?).isSome) ∨
  ∃ name∈["alti","rxnb","rxok","rxfw","ackr","dwnb","txnb"],(getMember members name Json.int?).isSome

/-- A member raises the count exactly when it is there with its type. -/
theorem countMember_pos {α : Type} (members : Members) (name : String) (get : Json → Option α)
    (set : GatewayStat → α → GatewayStat) (state : GatewayStat×ℕ) :
    0<(countMember members name get set state).2 ↔ 0<state.2 ∨ (getMember members name get).isSome := by
  rw [countMember]
  cases getMember members name get with
  | none => simp only [Option.isSome_none,Bool.false_eq_true,or_false]
  | some value => simp only [Nat.succ_pos,Option.isSome_some,or_true]

/-- The gateway identifier counts for any value. -/
theorem countGatewayId_pos (members : Members) (stat : GatewayStat) :
    0<(countGatewayId members (stat,0)).2 ↔ (members.lookup (ascii "gwid")).isSome := by
  rw [countGatewayId]
  cases members.lookup (ascii "gwid") with
  | none => simp only [Nat.lt_irrefl,Option.isSome_none,Bool.false_eq_true]
  | some value =>
    dsimp only
    split <;> simp only [Nat.zero_add,Nat.zero_lt_one,Option.isSome_some]

/-- Statistics are accepted exactly when they have a known member. -/
theorem countStat_pos (stat : GatewayStat) (members : Members) :
    0<(countStat host stat members).2 ↔ HasStatMember members := by
  unfold countStat HasStatMember
  simp only [countMember_pos,countGatewayId_pos,List.mem_cons,List.not_mem_nil,or_false,exists_eq_or_imp,
    exists_eq_left,or_assoc]

/-- Statistics with a known member are accepted. -/
theorem parse_stat_known {members : Members} (h : HasStatMember members) (stat : GatewayStat) :
    GatewayStat.parse host stat (.object members)=.ok ((countStat host stat members).1,LORA_OK) := by
  rw [GatewayStat.parse,if_pos ((countStat_pos host stat members).mpr h)]

/-- Statistics without one are refused. -/
theorem parse_stat_unknown {members : Members} (h : ¬ HasStatMember members) (stat : GatewayStat) :
    GatewayStat.parse host stat (.object members)=
      .ok ((countStat host stat members).1,ERR_CODE_NO_GATEWAY_STAT) := by
  rw [GatewayStat.parse,if_neg (mt (countStat_pos host stat members).mp h)]

/-- Statistics, if any, are an object; the radio objects are survivable unless
the statistics are refused before them. -/
def DocumentReads (members : Members) : Prop :=
  match members.lookup (ascii "stat") with
  | none => PacketsRead members
  | some (.object stat) => HasStatMember stat → PacketsRead members
  | some _ => False

/-- A document is read exactly when it is survivable. -/
theorem parseDocument_returns_iff (retPrefix : SemtechPrefixGw) (retGWStat : GatewayStat)
    (members : Members) :
    Returns (parseDocument host crypto identityService retPrefix retGWStat members) ↔
      DocumentReads members := by
  have hp := parsePackets_returns_iff host crypto identityService retPrefix members
  unfold parseDocument DocumentReads
  cases members.lookup (ascii "stat") with
  | none =>
    rw [←hp]
    simp only [returns_bind]
    exact ⟨fun ⟨packets,h,_⟩ => ⟨packets,h⟩,fun ⟨packets,h⟩ => ⟨packets,h,returns_ok _⟩⟩
  | some jstat =>
    cases jstat with
    | object stat =>
      dsimp only
      by_cases hs : HasStatMember stat
      · rw [parse_stat_known host hs,imp_iff_right hs,←hp]
        change Returns (parsePackets host crypto identityService retPrefix members>>=_) ↔ _
        rw [returns_bind]
        exact ⟨fun ⟨packets,h,_⟩ => ⟨packets,h⟩,fun ⟨packets,h⟩ => ⟨packets,h,returns_ok _⟩⟩
      · rw [parse_stat_unknown host hs]
        exact ⟨fun _ h => absurd h hs,fun _ => returns_ok _⟩
    | _ => exact ⟨fun h => absurd h (not_returns_error _),False.elim⟩

/-- Where the JSON text of a datagram with the given tag starts. -/
def jsonStart (tag : UInt8) : ℕ := if tag=1 ∨ tag=3 ∨ tag=4 then 4 else 12

/-- The tag has a JSON text and that text, if it is an object, is survivable. -/
def TextReads (packet : Bytes) : Prop :=
  packet.getD 3 0≤5 ∧ ∀ members,
    host.parseJson (cString (packet.drop (jsonStart (packet.getD 3 0))))=some (.object members) →
      DocumentReads members

/-- The pointer to the JSON text is null exactly for tags past five. -/
theorem getSemtechJSONCharPtr_eq {packet : Bytes} (h : 12<packet.length) :
    getSemtechJSONCharPtr packet=
      if packet.getD 3 0≤5 then some (packet.drop (jsonStart (packet.getD 3 0))) else none := by
  rw [getSemtechJSONCharPtr,if_neg (by omega)]
  generalize packet.getD 3 0=tag
  by_cases ht : tag≤5
  · have hb : tag.toNat≤5 := ht
    have he : tag=UInt8.ofNat tag.toNat := (UInt8.ofNat_toNat).symm
    rw [if_pos ht]
    rw [he]
    interval_cases tag.toNat <;> rfl
  · have hb : 5<tag.toNat := Nat.lt_of_not_le ht
    rw [if_neg ht]
    split <;> first | rfl | omega

/-- A complete prefix gives its version and its tag. -/
theorem parsePrefixGw_code {packet : Bytes} (h : 12≤packet.length) (retPrefix : SemtechPrefixGw) :
    (parsePrefixGw retPrefix packet).2=
      if packet.getD 0 0≠2 then ERR_CODE_INVALID_PROTOCOL_VERSION else LORA_OK := by
  rw [parsePrefixGw,if_neg (by omega)]

/-- `parse` returns exactly for short prefixes, other versions, bare prefixes
and survivable texts. -/
theorem parse_returns_iff (retPrefix : SemtechPrefixGw) (retGWStat : GatewayStat) (packet : Bytes) :
    Returns (parse host crypto identityService retPrefix retGWStat packet) ↔
      packet.length<12 ∨ packet.getD 0 0≠2 ∨ packet.length=12 ∨ TextReads host packet := by
  unfold parse
  dsimp only
  by_cases hl : packet.length<12
  · have hc : (parsePrefixGw retPrefix packet).2=ERR_CODE_PACKET_TOO_SHORT := by
      rw [parsePrefixGw,if_pos hl]
    rw [hc,if_pos (by decide)]
    exact ⟨fun _ => .inl hl,fun _ => returns_ok _⟩
  · rw [parsePrefixGw_code (by omega)]
    by_cases hv : packet.getD 0 0≠2
    · rw [if_pos hv,if_pos (by decide)]
      exact ⟨fun _ => .inr (.inl hv),fun _ => returns_ok _⟩
    · rw [if_neg hv,if_neg (by decide)]
      by_cases he : packet.length=12
      · rw [if_pos he]
        exact ⟨fun _ => .inr (.inr (.inl he)),fun _ => returns_ok _⟩
      · rw [if_neg he,getSemtechJSONCharPtr_eq (by omega)]
        simp only [hl,hv,he,false_or,TextReads]
        by_cases ht : packet.getD 3 0≤5
        · simp only [ht,if_true,true_and]
          split
          · next members hj =>
            rw [hj]
            simp only [Option.some.injEq,Json.object.injEq,forall_eq']
            exact parseDocument_returns_iff host crypto identityService _ _ members
          · next hj =>
            exact ⟨fun _ members hm => absurd hm (hj members),fun _ => returns_ok _⟩
        · simp only [ht,if_false,false_and,iff_false]
          exact not_returns_error _

/-- A transmission acknowledgement is read from behind its prefix with its
whole size, twelve bytes too many. -/
theorem extractTXAckCode_fault {buffer : Bytes} (hl : 12≤buffer.length) (ht : buffer.getD 3 0=5) :
    extractTXAckCode buffer buffer.length=.error .readOutside := by
  have hr : readBytes (buffer.drop 12) buffer.length=.error .readOutside := by
    rw [readBytes,if_pos (by rw [List.length_drop]; omega)]
  rw [extractTXAckCode,if_neg (by rw [not_or]; exact ⟨by omega,not_not.mpr ht⟩),hr]
  rfl

/-- A PUSH_DATA is survived as far as `parse` survives it. -/
theorem parseBuffer_pushData_returns_iff (receivedTime : Timeval) {buffer : Bytes} (hl : 4≤buffer.length)
    (ht : buffer.getD 3 0=0) :
    Returns (parseBuffer host crypto identityService receivedTime buffer) ↔
      Returns (parse host crypto identityService host.dataPrefix GatewayStat.empty buffer) := by
  unfold parseBuffer
  rw [if_neg (by omega),ht]
  change Returns (_>>=_) ↔ _
  rw [returns_bind]
  constructor
  · rintro ⟨result,hr,-⟩
    exact ⟨result,hr⟩
  · rintro ⟨result,hr⟩
    exact ⟨result,hr,returns_ok _⟩

/-- A transmission acknowledgement is survived only while its prefix is refused. -/
theorem parseBuffer_txAck_returns_iff (receivedTime : Timeval) {buffer : Bytes} (hl : 4≤buffer.length)
    (ht : buffer.getD 3 0=5) :
    Returns (parseBuffer host crypto identityService receivedTime buffer) ↔
      buffer.length<12 ∨ buffer.getD 0 0≠2 := by
  unfold parseBuffer
  rw [if_neg (by omega),ht]
  change Returns (if (parsePrefixGw host.dataPrefix buffer).2≠LORA_OK then _
    else extractTXAckCode buffer buffer.length>>=_) ↔ _
  by_cases hs : buffer.length<12
  · have hc : (parsePrefixGw host.dataPrefix buffer).2=ERR_CODE_PACKET_TOO_SHORT := by
      rw [parsePrefixGw,if_pos hs]
    rw [hc,if_pos (by decide)]
    exact ⟨fun _ => .inl hs,fun _ => returns_ok _⟩
  · rw [parsePrefixGw_code (Nat.le_of_not_lt hs)]
    by_cases hv : buffer.getD 0 0≠2
    · rw [if_pos hv,if_pos (by decide)]
      exact ⟨fun _ => .inr hv,fun _ => returns_ok _⟩
    · rw [if_neg hv,if_neg (by decide),extractTXAckCode_fault (by omega) ht]
      exact ⟨fun h => absurd h (not_returns_error _),fun h => absurd h (not_or.mpr ⟨hs,hv⟩)⟩

/-- All other datagrams are survived. -/
theorem parseBuffer_other_returns (receivedTime : Timeval) {buffer : Bytes} (h0 : buffer.getD 3 0≠0)
    (h5 : buffer.getD 3 0≠5) : Returns (parseBuffer host crypto identityService receivedTime buffer) := by
  unfold parseBuffer
  split
  · exact returns_ok _
  · split
    · next ht => exact absurd (UInt8.toNat_inj.mp ht) h0
    · exact returns_ok _
    · next ht => exact absurd (UInt8.toNat_inj.mp ht) h5
    · exact returns_ok _

/-- Less than a short prefix is refused at once. -/
theorem parseBuffer_short_returns (receivedTime : Timeval) {buffer : Bytes} (hl : buffer.length<4) :
    Returns (parseBuffer host crypto identityService receivedTime buffer) := by
  unfold parseBuffer
  rw [if_pos hl]
  exact returns_ok _

/-- `parseBuffer` parses datagrams with tag 0 and reads behind complete ones
with tag 5. -/
theorem parseBuffer_returns_iff (receivedTime : Timeval) (buffer : Bytes) :
    Returns (parseBuffer host crypto identityService receivedTime buffer) ↔
      buffer.length<12 ∨ buffer.getD 0 0≠2 ∨
        (buffer.getD 3 0≠5 ∧ (buffer.getD 3 0=0 → buffer.length=12 ∨ TextReads host buffer)) := by
  by_cases h4 : buffer.length<4
  · exact ⟨fun _ => .inl (by omega),
      fun _ => parseBuffer_short_returns host crypto identityService receivedTime h4⟩
  · have hl : 4≤buffer.length := Nat.le_of_not_lt h4
    by_cases h0 : buffer.getD 3 0=0
    · have h5 : buffer.getD 3 0≠5 := by rw [h0]; decide
      rw [parseBuffer_pushData_returns_iff host crypto identityService receivedTime hl h0,parse_returns_iff]
      simp only [h0,forall_const]
      tauto
    · by_cases h5 : buffer.getD 3 0=5
      · rw [parseBuffer_txAck_returns_iff host crypto identityService receivedTime hl h5]
        simp only [h5,ne_eq,not_true_eq_false,false_and,or_false]
      · exact ⟨fun _ => .inr (.inr ⟨h5,fun h => absurd h h0⟩),
          fun _ => parseBuffer_other_returns host crypto identityService receivedTime h0 h5⟩

/-- The datagrams that both functions survive: short ones, other versions, and
of the complete ones those that are no transmission acknowledgement and are
bare or have a survivable text. -/
def SafeDatagram (packet : Bytes) : Prop :=
  packet.length<12 ∨ packet.getD 0 0≠2 ∨
    (packet.getD 3 0≠5 ∧ (packet.length=12 ∨ TextReads host packet))

/-- Exact survival: no datagram but these lets both functions return. -/
theorem datagram_returns_iff (retPrefix : SemtechPrefixGw) (retGWStat : GatewayStat)
    (receivedTime : Timeval) (packet : Bytes) :
    (Returns (parse host crypto identityService retPrefix retGWStat packet) ∧
      Returns (parseBuffer host crypto identityService receivedTime packet)) ↔ SafeDatagram host packet := by
  rw [parse_returns_iff,parseBuffer_returns_iff,SafeDatagram]
  constructor
  · rintro ⟨hp,hb⟩
    rcases hb with hb|hb|⟨h5,-⟩
    · exact .inl hb
    · exact .inr (.inl hb)
    · rcases hp with hp|hp|hp
      · exact .inl hp
      · exact .inr (.inl hp)
      · exact .inr (.inr ⟨h5,hp⟩)
  · rintro (h|h|⟨h5,h⟩)
    · exact ⟨.inl h,.inl h⟩
    · exact ⟨.inr (.inl h),.inr (.inl h)⟩
    · exact ⟨.inr (.inr h),.inr (.inr ⟨h5,fun _ => h⟩)⟩

end Reader

/-- A datagram of gateway 0 with the given tag and text. -/
def sampleDatagram (tag : UInt8) (text : String) : Bytes := [2,0,0,tag,0,0,0,0,0,0,0,0]++ascii text

/-- Both functions over a datagram, with the reference reader and no identity. -/
def SampleReturns (packet : Bytes) : Prop :=
  Returns (parse referenceHost (spotCrypto zeroKey (constBlock 0) zeroKey []) none ⟨0,0,0,0⟩
    GatewayStat.empty packet) ∧
  Returns (parseBuffer referenceHost (spotCrypto zeroKey (constBlock 0) zeroKey []) none ⟨0,0⟩ packet)

/-- A radio object without a frame, a data rate that ends in its letter B,
statistics that are a number, an unknown tag and a bare acknowledgement. -/
theorem hostile_datagrams_fault :
    ¬ SampleReturns (sampleDatagram 0 "\x7b\"rxpk\":[\x7b\x7d]\x7d") ∧
    ¬ SampleReturns (sampleDatagram 0 "\x7b\"rxpk\":[\x7b\"datr\":\"SF7B\",\"data\":\"QAEA\"\x7d]\x7d") ∧
    ¬ SampleReturns (sampleDatagram 0 "\x7b\"stat\":1\x7d") ∧
    ¬ SampleReturns (sampleDatagram 6 "\x7b\x7d") ∧
    ¬ SampleReturns (sampleDatagram 5 "") := by
  refine ⟨fun h => ?_,fun h => ?_,fun h => ?_,fun h => ?_,fun h => ?_⟩
  · exact not_returns_of_eq (show _=Except.error .outOfRange by decide +kernel) h.1
  · exact not_returns_of_eq (show _=Except.error .outOfRange by decide +kernel) h.1
  · exact not_returns_of_eq (show _=Except.error .assertion by decide +kernel) h.1
  · exact not_returns_of_eq (show _=Except.error .nullPointer by decide +kernel) h.1
  · exact not_returns_of_eq (show _=Except.error .readOutside by decide +kernel) h.2

end LorawanServer.DatagramSafety
