import LorawanServer.PacketDispatch

/-!
# Where the packets of a datagram come from

Everything that the listener hands over was read from a radio frame of the datagram.
A packet for `put` comes from a frame whose integrity code was right under the keys
that were stored for its address at that moment. A pull request names the gateway
whose socket address changes, and no other datagram changes one.
-/

namespace LorawanServer.ReceivedFrames

open CppRuntime FrameCrypto Records DataFrame JsonDocument Datagram PacketHandler Listener PacketDispatch

/-- The JSON object of a datagram. -/
def document (host : Host) (buffer : Bytes) : Option Members :=
  match (getSemtechJSONCharPtr buffer).bind fun json => host.parseJson (cString json) with
  | some (.object members) => some members
  | _ => none

/-- The radio object is one of the received ones, or the only one to be sent. -/
def RadioObject (members object : Members) : Prop :=
  (∃ items,members.lookup (ascii "rxpk")=some (.array items) ∧ Json.object object∈items) ∨
    (members.lookup (ascii "rxpk")=none ∧ members.lookup (ascii "txpk")=some (.object object))

/-- The datagram carries the radio frame. -/
def Carries (host : Host) (buffer frame : Bytes) : Prop :=
  ∃ members object,document host buffer=some members ∧ RadioObject members object ∧ parseFrame object=frame

/-- The gateway that a pull request of version 2 names, in host order. -/
def pullingGateway (buffer : Bytes) : Option UInt64 :=
  if 12≤buffer.length ∧ buffer.getD 0 0=2 ∧ buffer.getD 3 0=2 then
    some (UInt64.ofNat (swapBytes 8 (leValue ((buffer.drop 4).take 8))))
  else none

section Reader

variable {host : Host} {crypto : Crypto} {identityService : Option IdentityService}

/-- The packet of a received object is built from its frame. -/
theorem receivedRX_frame {gwPrefix : SemtechPrefixGw} {object : Members} {packet : SemtechUDPPacket}
    (h : receivedRX host crypto identityService gwPrefix object=.ok packet) :
    ∃ m,received crypto identityService gwPrefix m (parseFrame object)=.ok packet := by
  obtain ⟨⟨m,size,data⟩,hread,hr⟩ := bind_eq_ok.mp h
  obtain ⟨read,-,he⟩ := bind_eq_ok.mp hread
  have hdata : data=parseFrame object := (congrArg (fun result => result.2.2) (Except.ok.inj he)).symm
  exact ⟨m,hdata ▸ hr⟩

/-- So is the packet of an object to be sent. -/
theorem receivedTX_frame {gwPrefix : SemtechPrefixGw} {object : Members} {packet : SemtechUDPPacket}
    (h : receivedTX host crypto identityService gwPrefix object=.ok packet) :
    ∃ m,received crypto identityService gwPrefix m (parseFrame object)=.ok packet := by
  obtain ⟨⟨m,size,data⟩,hread,hr⟩ := bind_eq_ok.mp h
  obtain ⟨read,-,he⟩ := bind_eq_ok.mp hread
  have hdata : data=parseFrame object := (congrArg (fun result => result.2.2) (Except.ok.inj he)).symm
  exact ⟨m,hdata ▸ hr⟩

/-- The loop adds only packets of its objects. -/
theorem parseRxpk_packets {gwPrefix : SemtechPrefixGw} {items : List Json} {retPackets packets : List SemtechUDPPacket}
    {r code : ℤ} (h : parseRxpk host crypto identityService gwPrefix items retPackets r=.ok (packets,code)) :
    ∀ packet∈packets,packet∈retPackets ∨ (isReturned packet=true ∧ ∃ object,Json.object object∈items ∧
      ∃ m,received crypto identityService gwPrefix m (parseFrame object)=.ok packet) := by
  induction items generalizing retPackets r with
  | nil =>
    obtain ⟨rfl,-⟩ := Prod.mk.inj (Except.ok.inj h)
    exact fun packet hp => .inl hp
  | cons item items ih =>
    cases item with
    | object members =>
      rw [parseRxpk] at h
      obtain ⟨read,hread,h⟩ := bind_eq_ok.mp h
      intro packet hp
      rcases ih h packet hp with hold | ⟨hret,object,ho,hm⟩
      · split at hold
        · next hret =>
          rcases List.mem_append.mp hold with hold | hnew
          · exact .inl hold
          · obtain rfl := List.mem_singleton.mp hnew
            exact .inr ⟨hret,members,List.mem_cons_self,receivedRX_frame hread⟩
        · exact .inl hold
      · exact .inr ⟨hret,object,List.mem_cons_of_mem _ ho,hm⟩
    | _ =>
      obtain ⟨rfl,-⟩ := Prod.mk.inj (Except.ok.inj h)
      exact fun packet hp => .inl hp

/-- Packets of a document come from its radio objects. -/
theorem parsePackets_packets {gwPrefix : SemtechPrefixGw} {members : Members} {packets : List SemtechUDPPacket}
    {code : ℤ} (h : parsePackets host crypto identityService gwPrefix members=.ok (packets,code)) :
    ∀ packet∈packets,isReturned packet=true ∧ ∃ object,RadioObject members object ∧
      ∃ m,received crypto identityService gwPrefix m (parseFrame object)=.ok packet := by
  unfold parsePackets at h
  split at h
  · next items hrxpk =>
    intro packet hp
    rcases parseRxpk_packets h packet hp with hold | ⟨hret,object,ho,hm⟩
    · exact absurd hold List.not_mem_nil
    · exact ⟨hret,object,.inl ⟨items,hrxpk,ho⟩,hm⟩
  · obtain ⟨rfl,-⟩ := Prod.mk.inj (Except.ok.inj h)
    exact fun packet hp => absurd hp List.not_mem_nil
  · next object hrxpk htxpk =>
    obtain ⟨read,hread,h⟩ := bind_eq_ok.mp h
    obtain ⟨rfl,-⟩ := Prod.mk.inj (Except.ok.inj h)
    intro packet hp
    split at hp
    · next hret =>
      obtain rfl := List.mem_singleton.mp hp
      exact ⟨hret,object,.inr ⟨hrxpk,htxpk⟩,receivedTX_frame hread⟩
    · exact absurd hp List.not_mem_nil
  · obtain ⟨rfl,-⟩ := Prod.mk.inj (Except.ok.inj h)
    exact fun packet hp => absurd hp List.not_mem_nil
  · obtain ⟨rfl,-⟩ := Prod.mk.inj (Except.ok.inj h)
    exact fun packet hp => absurd hp List.not_mem_nil

/-- The statistics change neither prefix nor packets. -/
theorem parseDocument_packets {retPrefix : SemtechPrefixGw} {retGWStat : GatewayStat} {members : Members}
    {result : ParseResult}
    (h : parseDocument host crypto identityService retPrefix retGWStat members=.ok result) :
    result.retPrefix=retPrefix ∧ ∀ packet∈result.retPackets,isReturned packet=true ∧
      ∃ object,RadioObject members object ∧
        ∃ m,received crypto identityService retPrefix m (parseFrame object)=.ok packet := by
  unfold parseDocument at h
  split at h
  · obtain ⟨⟨packets,code⟩,hpackets,h⟩ := bind_eq_ok.mp h
    obtain rfl := Except.ok.inj h
    exact ⟨rfl,parsePackets_packets hpackets⟩
  · obtain ⟨⟨stat,r⟩,-,h⟩ := bind_eq_ok.mp h
    dsimp only at h
    split at h
    · obtain ⟨⟨packets,code⟩,hpackets,h⟩ := bind_eq_ok.mp h
      obtain rfl := Except.ok.inj h
      exact ⟨rfl,parsePackets_packets hpackets⟩
    · obtain rfl := Except.ok.inj h
      exact ⟨rfl,fun packet hp => absurd hp List.not_mem_nil⟩

/-- The packets that `parse` returns were built from frames of the datagram, behind
the prefix of the datagram. -/
theorem parse_packets {retPrefix : SemtechPrefixGw} {retGWStat : GatewayStat} {buffer : Bytes} {result : ParseResult}
    (h : parse host crypto identityService retPrefix retGWStat buffer=.ok result) :
    result.retPrefix=(parsePrefixGw retPrefix buffer).1 ∧ ∀ packet∈result.retPackets,isReturned packet=true ∧
      ∃ frame m,Carries host buffer frame ∧
        received crypto identityService result.retPrefix m frame=.ok packet := by
  unfold parse at h
  dsimp only at h
  split at h
  · obtain rfl := Except.ok.inj h
    exact ⟨rfl,fun packet hp => absurd hp List.not_mem_nil⟩
  split at h
  · obtain rfl := Except.ok.inj h
    exact ⟨rfl,fun packet hp => absurd hp List.not_mem_nil⟩
  split at h
  · cases h
  · next json hjson =>
    split at h
    · next members hmembers =>
      obtain ⟨hgw,hpackets⟩ := parseDocument_packets h
      refine ⟨hgw,fun packet hp => ?_⟩
      obtain ⟨hret,object,hobject,m,hm⟩ := hpackets packet hp
      have hdoc : document host buffer=some members := by
        rw [document,hjson,Option.bind_some,hmembers]
      exact ⟨hret,_,m,⟨members,object,hdoc,hobject,rfl⟩,hgw ▸ hm⟩
    · obtain rfl := Except.ok.inj h
      exact ⟨rfl,fun packet hp => absurd hp List.not_mem_nil⟩

/-- A packet without error comes from a frame with a right code and is the accepted
packet of the identity that is stored for its address. -/
theorem received_accepted {gwPrefix : SemtechPrefixGw} {m : RfmMetaData} {frame : Bytes} {packet : SemtechUDPPacket}
    (h : received crypto identityService gwPrefix m frame=.ok packet) (he : packet.errcode=LORA_OK) :
    ValidFrame crypto identityService frame ∧
      ∃ id,lookup identityService (PackedRfmHeader.ofBytes frame).devaddr=some id ∧
        packet=acceptedPacket crypto (newPacket gwPrefix m) frame id := by
  obtain ⟨⟨result,code⟩,hparse,h⟩ := bind_eq_ok.mp h
  obtain rfl := Except.ok.inj h
  dsimp only at he
  subst he
  obtain ⟨hj,h8,id,hid,hm,hr⟩ := (parseData_ok_iff crypto identityService _ result frame).mp hparse
  rw [withHeader_header h8] at hid
  rw [frameMic_uplink h8 rfl] at hm
  exact ⟨⟨hj,h8,id,hid,hm⟩,id,hid,by rw [hr]; rfl⟩

end Reader

/-- Where a call of the listener for a datagram comes from. -/
inductive CallOf (host : Host) (crypto : Crypto) (identityService : Option IdentityService) (receivedTime : Timeval)
    (buffer : Bytes) : Call → Prop where
  /-- The acknowledgement is for the prefix of the datagram. -/
  | ack : CallOf host crypto identityService receivedTime buffer (.ack (parsePrefixGw host.dataPrefix buffer).1)
  /-- An accepted data frame. -/
  | put {packet : SemtechUDPPacket} {frame : Bytes} {m : RfmMetaData} (carries : Carries host buffer frame)
      (built : received crypto identityService (parsePrefixGw host.dataPrefix buffer).1 m frame=.ok packet)
      (accepted : packet.errcode=LORA_OK) : CallOf host crypto identityService receivedTime buffer (.put receivedTime packet)
  /-- The first packet of a datagram with a join message. -/
  | join {packet : SemtechUDPPacket} {frame : Bytes} {m : RfmMetaData} (carries : Carries host buffer frame)
      (built : received crypto identityService (parsePrefixGw host.dataPrefix buffer).1 m frame=.ok packet) :
      CallOf host crypto identityService receivedTime buffer (.join receivedTime packet)
  /-- A pull request. -/
  | setSocketAddress {gwId : DEVEUI} (pull : pullingGateway buffer=some gwId) :
      CallOf host crypto identityService receivedTime buffer (.setSocketAddress gwId)
  /-- Statistics. -/
  | copyId (gatewayStat : GatewayStat) : CallOf host crypto identityService receivedTime buffer (.copyId gatewayStat)

/-- Without packets nothing is put. -/
theorem putPackets_nil (time : Timeval) (pr : ℤ) : putPackets time [] pr=[] := by
  rw [putPackets]
  split <;> rfl

/-- A tag of two with an accepted prefix is a pull request. -/
theorem pullingGateway_of_ok {retPrefix : SemtechPrefixGw} {buffer : Bytes} (htag : buffer.getD 3 0=2)
    (h : (parsePrefixGw retPrefix buffer).2=LORA_OK) :
    pullingGateway buffer=some (parsePrefixGw retPrefix buffer).1.mac := by
  rw [parsePrefixGw] at h ⊢
  split at h
  · exact absurd (show ERR_CODE_PACKET_TOO_SHORT=LORA_OK from h) (by decide)
  · next hlength =>
    rw [if_neg hlength]
    dsimp only at h ⊢
    split at h
    · exact absurd h (by decide)
    · next hversion => exact if_pos ⟨Nat.not_lt.mp hlength,not_not.mp hversion,htag⟩

/-- A pull request is acknowledged and sets the address of its gateway. -/
theorem parseBuffer_pull {buffer : Bytes} {gwId : UInt64} (h : pullingGateway buffer=some gwId) (host : Host)
    (crypto : Crypto) (identityService : Option IdentityService) (receivedTime : Timeval) :
    parseBuffer host crypto identityService receivedTime buffer=
      .ok ⟨[.ack (parsePrefixGw host.dataPrefix buffer).1,.setSocketAddress gwId],LORA_OK⟩ := by
  rw [pullingGateway] at h
  split at h
  · next hpull =>
    obtain ⟨hlength,hversion,htag⟩ := hpull
    obtain rfl := Option.some.inj h
    have hgw : ∀ retPrefix,(parsePrefixGw retPrefix buffer).2=LORA_OK ∧ (parsePrefixGw retPrefix buffer).1.mac=
        UInt64.ofNat (swapBytes 8 (leValue ((buffer.drop 4).take 8))) := by
      intro retPrefix
      rw [parsePrefixGw,if_neg (Nat.not_lt.mpr hlength)]
      exact ⟨if_neg (not_not.mpr hversion),rfl⟩
    obtain ⟨hcode,hmac⟩ := hgw host.dataPrefix
    rw [parseBuffer,if_neg (by omega),htag]
    generalize parsePrefixGw host.dataPrefix buffer=parsed at hcode hmac
    obtain ⟨gw,code⟩ := parsed
    dsimp only at hcode hmac
    subst hcode
    rw [← hmac]
    rfl
  · cases h

section Calls

variable {host : Host} {crypto : Crypto} {identityService : Option IdentityService} {receivedTime : Timeval}
  {buffer : Bytes}

/-- The calls for the result of `parse` come from the datagram. -/
theorem callOf_pushData {result : ParseResult}
    (h : parse host crypto identityService host.dataPrefix GatewayStat.empty buffer=.ok result) :
    ∀ call∈answerPushData receivedTime result++putPackets receivedTime result.retPackets result.code++
      reflectStat result.retGWStat result.code,CallOf host crypto identityService receivedTime buffer call := by
  obtain ⟨hgw,hpackets⟩ := parse_packets h
  intro call hc
  rcases List.mem_append.mp hc with hc | hc
  · rcases List.mem_append.mp hc with hc | hc
    · rw [answerPushData] at hc
      split at hc
      · rw [List.mem_singleton.mp hc,hgw]
        exact .ack
      split at hc
      · rcases List.mem_cons.mp hc with rfl | hc
        · rw [hgw]
          exact .ack
        · rw [Option.mem_toList,Option.map_eq_some_iff] at hc
          obtain ⟨packet,hhead,rfl⟩ := hc
          obtain ⟨-,frame,m,hcarries,hm⟩ := hpackets packet (List.mem_of_mem_head? hhead)
          exact .join hcarries (hgw ▸ hm)
      · exact absurd hc List.not_mem_nil
    · rw [putPackets] at hc
      split at hc
      · exact absurd hc List.not_mem_nil
      · obtain ⟨packet,hp,rfl⟩ := List.mem_map.mp hc
        obtain ⟨hp,hcode⟩ := List.mem_filter.mp hp
        obtain ⟨-,frame,m,hcarries,hm⟩ := hpackets packet hp
        exact .put hcarries (hgw ▸ hm) (of_decide_eq_true hcode)
  · rw [reflectStat] at hc
    split at hc
    · exact absurd hc List.not_mem_nil
    split at hc
    · rw [List.mem_singleton.mp hc]
      exact .copyId _
    · exact absurd hc List.not_mem_nil

/-- Every call of the listener comes from its datagram. -/
theorem parseBuffer_callOf {result : BufferResult}
    (h : parseBuffer host crypto identityService receivedTime buffer=.ok result) :
    ∀ call∈result.calls,CallOf host crypto identityService receivedTime buffer call := by
  unfold parseBuffer at h
  split at h
  · obtain rfl := Except.ok.inj h
    rw [putPackets_nil]
    exact fun call hc => absurd hc List.not_mem_nil
  split at h
  · obtain ⟨parsed,hparse,h⟩ := bind_eq_ok.mp h
    obtain rfl := Except.ok.inj h
    exact callOf_pushData hparse
  · next htag =>
    have htag : buffer.getD 3 0=2 := UInt8.toNat_inj.mp htag
    have hpull := @pullingGateway_of_ok host.dataPrefix buffer htag
    have hack : CallOf host crypto identityService receivedTime buffer
      (.ack (parsePrefixGw host.dataPrefix buffer).1) := .ack
    generalize parsePrefixGw host.dataPrefix buffer=parsed at h hpull hack
    obtain ⟨gw,code⟩ := parsed
    obtain rfl := Except.ok.inj h
    dsimp only at hpull hack ⊢
    rw [putPackets_nil,List.append_nil]
    intro call hc
    split at hc
    · next hcode =>
      rcases List.mem_cons.mp hc with rfl | hc
      · exact hack
      · rw [List.mem_singleton.mp hc]
        exact .setSocketAddress (hpull hcode)
    · exact absurd hc List.not_mem_nil
  · generalize parsePrefixGw host.dataPrefix buffer=parsed at h
    obtain ⟨gw,code⟩ := parsed
    dsimp only at h
    split at h
    · obtain rfl := Except.ok.inj h
      rw [putPackets_nil]
      exact fun call hc => absurd hc List.not_mem_nil
    · obtain ⟨tx,-,h⟩ := bind_eq_ok.mp h
      obtain rfl := Except.ok.inj h
      rw [putPackets_nil]
      exact fun call hc => absurd hc List.not_mem_nil
  · obtain rfl := Except.ok.inj h
    rw [putPackets_nil]
    exact fun call hc => absurd hc List.not_mem_nil

end Calls

end LorawanServer.ReceivedFrames
