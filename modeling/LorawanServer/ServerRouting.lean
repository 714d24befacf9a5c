import LorawanServer.NetworkServer

/-!
# Where the server sends its datagrams

In every order of events an acknowledgement goes back to the sender of its datagram,
and a reply goes to socket and address of the last pull request of its gateway, which
is one of the list. Only a control packet is also sent without a pull request; it
then goes out on socket zero.
-/

namespace LorawanServer.NetworkServer

open CppRuntime Records DataFrame FrameBuilders DeviceHistory PacketHandler PacketReplies JoinReplies
open PacketQueue Listener ReceivedFrames StepRun
open Datagram hiding GatewayStat

variable {Address : Type*}

/-- Socket and address of a pull request of the gateway. -/
def pullOf (gwId : UInt64) : Event Address → Option (ℤ×Address)
  | .datagram socket address _ buffer => if pullingGateway buffer=some gwId then some (socket,address) else none
  | _ => none

/-- Socket and address of the last pull request of the gateway. -/
def lastPull (gwId : UInt64) (events : List (Event Address)) : Option (ℤ×Address) :=
  (events.filterMap (pullOf gwId)).getLast?

/-- One more event. -/
theorem lastPull_append (gwId : UInt64) (events : List (Event Address)) (e : Event Address) :
    lastPull gwId (events++[e])=(pullOf gwId e).or (lastPull gwId events) := by
  rw [lastPull,List.filterMap_append,List.getLast?_append,lastPull]
  cases he : pullOf gwId e with
  | none => rw [List.filterMap_cons_none he,List.filterMap_nil,List.getLast?_nil]
  | some target => rw [List.filterMap_cons_some he,List.filterMap_nil,List.getLast?_singleton]

/-- Where a datagram of the server goes to. -/
inductive Routed (config : Config) (gateways : Std.TreeMap UInt64 GatewayStat) (events : List (Event Address)) :
    Sent Address → Prop where
  /-- An acknowledgement goes back to where its datagram came from. -/
  | ack {before after : List (Event Address)} {socket : ℤ} {address : Address} {receivedTime : Timeval}
      {buffer : Bytes} (received : events=before++.datagram socket address receivedTime buffer::after) :
      Routed config gateways events
        ⟨socket,address,.ack (PacketQueue.ack (parsePrefixGw config.host.dataPrefix buffer).1)⟩
  /-- A reply goes to where the last pull request of its gateway came from. -/
  | pulled {before after : List (Event Address)} {socket : ℤ} {address : Address} {item : SemtechUDPPacketItem}
      {response : Option PullResp} (replied : events=before++.reply::after) (listed : replyGateway item∈gateways)
      (pull : lastPull (replyGateway item) before=some (socket,address)) :
      Routed config gateways events ⟨socket,address,.reply item response⟩
  /-- Without a pull request only a control packet is sent. -/
  | unpulled {before after : List (Event Address)} {address : Address} {item : SemtechUDPPacketItem}
      {response : Option PullResp} (replied : events=before++.reply::after) (listed : replyGateway item∈gateways)
      (control : item.processMode=.controlNs) (pull : lastPull (replyGateway item) before=none) :
      Routed config gateways events ⟨0,address,.reply item response⟩

/-- Later events do not matter. -/
theorem Routed.later {config : Config} {gateways : Std.TreeMap UInt64 GatewayStat} {events : List (Event Address)}
    {sent : Sent Address} (h : Routed config gateways events sent) (e : Event Address) :
    Routed config gateways (events++[e]) sent := by
  cases h with
  | ack received => exact .ack (by rw [received,List.append_assoc,List.cons_append])
  | pulled replied listed pull => exact .pulled (by rw [replied,List.append_assoc,List.cons_append]) listed pull
  | unpulled replied listed control pull =>
    exact .unpulled (by rw [replied,List.append_assoc,List.cons_append]) listed control pull

/-- The list holds the gateways that it had first, each with socket and address of
its last pull request. -/
structure Located (gateways : Std.TreeMap UInt64 GatewayStat) (events : List (Event Address)) (s : Server Address) :
    Prop where
  /-- No gateway is added. -/
  listed : ∀ gwId stat,s.gateways[gwId]?=some stat → gwId∈gateways
  /-- A gateway that has pulled. -/
  pulled : ∀ gwId stat,s.gateways[gwId]?=some stat → ∀ target,lastPull gwId events=some target →
    (stat.socket,s.sockaddr gwId)=target
  /-- A gateway that has not. -/
  unpulled : ∀ gwId stat,s.gateways[gwId]?=some stat → lastPull gwId events=none → stat.socket=0

/-- Gateways and their addresses stay, and some acknowledgements are sent. -/
structure Acknowledges (sent : Sent Address) (s s' : Server Address) : Prop where
  /-- The list. -/
  gateways : s'.gateways=s.gateways
  /-- The addresses. -/
  sockaddr : s'.sockaddr=s.sockaddr
  /-- What is sent. -/
  sent : ∃ n,s'.sent=s.sent++List.replicate n sent

/-- Nothing is sent. -/
theorem acknowledges_refl (sent : Sent Address) (s : Server Address) : Acknowledges sent s s :=
  ⟨rfl,rfl,0,by rw [List.replicate_zero,List.append_nil]⟩

/-- One call after another. -/
theorem Acknowledges.trans {sent : Sent Address} {s s' s'' : Server Address} (h : Acknowledges sent s s')
    (h' : Acknowledges sent s' s'') : Acknowledges sent s s'' := by
  obtain ⟨n,hn⟩ := h.sent
  obtain ⟨m,hm⟩ := h'.sent
  refine ⟨h'.gateways.trans h.gateways,h'.sockaddr.trans h.sockaddr,n+m,?_⟩
  rw [hm,hn,List.append_assoc,List.replicate_append_replicate]

/-- The handler sends nothing. -/
theorem acknowledges_handled (sent : Sent Address) (s : Server Address)
    (result : Except Fault (Services×SemtechUDPPacket×ℤ)) : Acknowledges sent s (handled s result) := by
  cases result with
  | ok result => exact ⟨rfl,rfl,0,by rw [List.replicate_zero,List.append_nil]; rfl⟩
  | error fault => exact ⟨rfl,rfl,0,by rw [List.replicate_zero,List.append_nil]; rfl⟩

/-- A call for a datagram that is no pull request. -/
theorem acknowledges_call (config : Config) {s : Server Address} {identityService : Option IdentityService}
    {receivedTime : Timeval} {buffer : Bytes} {c : Call}
    (hc : CallOf config.host config.env.crypto identityService receivedTime buffer c)
    (hpull : pullingGateway buffer=none) (socket : ℤ) (address : Address) :
    Acknowledges ⟨socket,address,.ack (PacketQueue.ack (parsePrefixGw config.host.dataPrefix buffer).1)⟩ s
      (call config socket address s c) := by
  rw [call.eq_def]
  split
  · exact acknowledges_refl _ s
  · cases hc with
    | ack => exact ⟨rfl,rfl,1,rfl⟩
    | put carries built accepted => exact acknowledges_handled _ s _
    | join carries built => exact acknowledges_handled _ s _
    | setSocketAddress pull => exact absurd (hpull.symm.trans pull) (Option.some_ne_none _).symm
    | copyId gatewayStat => exact acknowledges_refl _ s

/-- A datagram that is no pull request leaves the gateways alone. -/
theorem acknowledges_receive (config : Config) (s : Server Address) (socket : ℤ) (address : Address)
    (receivedTime : Timeval) {buffer : Bytes} (hpull : pullingGateway buffer=none) :
    Acknowledges ⟨socket,address,.ack (PacketQueue.ack (parsePrefixGw config.host.dataPrefix buffer).1)⟩ s
      (receive config s socket address receivedTime buffer) := by
  rw [receive]
  split
  · next result hresult =>
    have hcalls := parseBuffer_callOf hresult
    generalize result.calls=calls at hcalls
    have hfold : ∀ s' : Server Address,Acknowledges
        ⟨socket,address,.ack (PacketQueue.ack (parsePrefixGw config.host.dataPrefix buffer).1)⟩ s'
        (calls.foldl (call config socket address) s') := by
      induction calls with
      | nil => exact fun s' => acknowledges_refl _ s'
      | cons c calls ih =>
        intro s'
        rw [List.foldl_cons]
        exact (acknowledges_call config (hcalls c List.mem_cons_self) hpull socket address).trans
          (ih (fun other ho => hcalls other (List.mem_cons_of_mem _ ho)) _)
    exact hfold s
  · exact acknowledges_refl _ s
  · exact ⟨rfl,rfl,0,by rw [List.replicate_zero,List.append_nil]⟩

/-- A pull request of a living server is acknowledged and stored. -/
theorem receive_pull (config : Config) {s : Server Address} (halive : s.alive=true) (socket : ℤ) (address : Address)
    (receivedTime : Timeval) {buffer : Bytes} {gwId : UInt64} (hpull : pullingGateway buffer=some gwId) :
    receive config s socket address receivedTime buffer=setSocketAddress {s with sent := s.sent++
      [⟨socket,address,.ack (PacketQueue.ack (parsePrefixGw config.host.dataPrefix buffer).1)⟩]} socket address gwId := by
  rw [receive,parseBuffer_pull hpull]
  simp only [List.foldl_cons,List.foldl_nil,call,halive,Bool.true_eq_false,if_false]

/-- The three replies go to the socket of the gateway in the list; only the reply to
a control packet does not look at the socket. -/
theorem answer_target {config : Config} {s : Server Address} {item : SemtechUDPPacketItem} {t : Timeval}
    {sendto : SendTo} (h : (answer config s item t).2=some sendto) :
    ∃ stat,s.gateways[replyGateway item]?=some stat ∧ sendto.socket=stat.socket ∧
      (item.processMode=.controlNs ∨ stat.socket≠0) := by
  unfold answer at h
  unfold replyGateway
  cases hmode : item.processMode with
  | none | ack =>
    rw [hmode] at h
    cases h
  | replyMac =>
    rw [hmode] at h
    dsimp only at h ⊢
    unfold replyMAC at h
    dsimp only at h
    split at h
    · cases h
    · next plan stat htarget =>
      obtain ⟨-,-,-,hsocket,gateways,hlist,hstat⟩ := (macTarget_ok_iff _ _ _ _).mp htarget
      obtain rfl := Option.some.inj hlist
      split at h
      · cases h
      · obtain rfl := Option.some.inj h
        exact ⟨stat,hstat,rfl,.inr hsocket⟩
  | joinResponse =>
    rw [hmode] at h
    dsimp only at h ⊢
    unfold replyJoinRequest at h
    split at h
    · cases h
    · next devaddr fcntDown accepted haccept =>
      obtain ⟨nid,plan,stat,hdr,new,-,htarget,-,-,-,hsent⟩ := (acceptJoin_ok_iff _ _ _ _ _ _).mp haccept
      obtain ⟨-,-,hsocket,gateways,hlist,hstat⟩ := (joinTarget_ok_iff _ _ _ _).mp htarget
      obtain rfl := Option.some.inj hlist
      obtain rfl := Option.some.inj h
      exact ⟨stat,hstat,by rw [← hsent],.inr hsocket⟩
  | controlNs =>
    rw [hmode] at h
    dsimp only at h ⊢
    unfold replyControl at h
    split at h
    · cases h
    · next plan stat htarget =>
      obtain rfl := Option.some.inj h
      refine ⟨stat,?_,rfl,.inl rfl⟩
      unfold controlTarget at htarget
      split at htarget
      · cases htarget
      split at htarget
      · cases htarget
      next gateways hlist =>
        obtain rfl := Option.some.inj hlist
        split at htarget
        · cases htarget
        dsimp only at htarget
        generalize (if (controlPacket item.packet.payload).gwid=0 then getBestGatewayAddress item.packet
          else (controlPacket item.packet.payload).gwid)=gwid at htarget ⊢
        split at htarget
        · cases htarget
        · split at htarget
          · cases htarget
          · next found hfound =>
            obtain ⟨-,rfl⟩ := Prod.mk.inj (Except.ok.inj htarget)
            exact hfound

/-- One more pull request is the last one. -/
theorem Located.pull {gateways : Std.TreeMap UInt64 GatewayStat} {events : List (Event Address)} {s : Server Address}
    (h : Located gateways events s) {socket : ℤ} {address : Address} {receivedTime : Timeval} {buffer : Bytes}
    {gwId : UInt64} (hpull : pullingGateway buffer=some gwId) {sent : List (Sent Address)} :
    Located gateways (events++[.datagram socket address receivedTime buffer])
      (setSocketAddress {s with sent := sent} socket address gwId) := by
  have hlast : ∀ other,lastPull other (events++[.datagram socket address receivedTime buffer])=
      if other=gwId then some (socket,address) else lastPull other events := by
    intro other
    rw [lastPull_append,pullOf,hpull]
    by_cases ho : other=gwId
    · rw [if_pos ho,if_pos (congrArg some ho.symm),Option.some_or]
    · rw [if_neg ho,if_neg fun he => ho (Option.some.inj he).symm,Option.none_or]
  rw [setSocketAddress]
  cases hfound : s.gateways[gwId]? with
  | none =>
    have hother : ∀ other stat,s.gateways[other]?=some stat → other≠gwId := by
      rintro other stat hstat rfl
      exact absurd (hfound.symm.trans hstat) (Option.some_ne_none _).symm
    refine ⟨h.listed,fun other stat hstat target ht => ?_,fun other stat hstat ht => ?_⟩
    · rw [hlast,if_neg (hother other stat hstat)] at ht
      exact h.pulled other stat hstat target ht
    · rw [hlast,if_neg (hother other stat hstat)] at ht
      exact h.unpulled other stat hstat ht
  | some found =>
    have hinsert : ∀ other,(s.gateways.insert gwId {found with socket := socket})[other]?=
        if gwId=other then some {found with socket := socket} else s.gateways[other]? := by
      intro other
      rw [Std.TreeMap.getElem?_insert]
      simp only [Std.LawfulEqCmp.compare_eq_iff_eq]
    constructor
    · intro other stat hstat
      dsimp only at hstat
      rw [hinsert] at hstat
      split at hstat
      · next ho => exact ho ▸ h.listed gwId found hfound
      · exact h.listed other stat hstat
    · intro other stat hstat target ht
      dsimp only at hstat ⊢
      rw [hinsert] at hstat
      rw [hlast] at ht
      split at hstat
      · next ho =>
        subst ho
        rw [if_pos rfl] at ht
        rw [Function.update_self,← Option.some.inj hstat,Option.some.inj ht]
      · next ho =>
        rw [if_neg (Ne.symm ho)] at ht
        rw [Function.update_of_ne (Ne.symm ho)]
        exact h.pulled other stat hstat target ht
    · intro other stat hstat ht
      dsimp only at hstat
      rw [hinsert] at hstat
      rw [hlast] at ht
      split at hstat
      · next ho =>
        rw [if_pos ho.symm] at ht
        cases ht
      · next ho =>
        rw [if_neg (Ne.symm ho)] at ht
        exact h.unpulled other stat hstat ht

/-- An event without a pull request and without a change of the gateways. -/
theorem Located.other {gateways : Std.TreeMap UInt64 GatewayStat} {events : List (Event Address)} {s s' : Server Address}
    (h : Located gateways events s) {e : Event Address} (he : ∀ gwId,pullOf gwId e=none)
    (hgateways : s'.gateways=s.gateways) (hsockaddr : s'.sockaddr=s.sockaddr) : Located gateways (events++[e]) s' := by
  have hlast : ∀ gwId,lastPull gwId (events++[e])=lastPull gwId events := by
    intro gwId
    rw [lastPull_append,he,Option.none_or]
  constructor
  · rw [hgateways]
    exact h.listed
  · intro gwId stat hstat target ht
    rw [hgateways] at hstat
    rw [hlast] at ht
    rw [hsockaddr]
    exact h.pulled gwId stat hstat target ht
  · intro gwId stat hstat ht
    rw [hgateways] at hstat
    rw [hlast] at ht
    exact h.unpulled gwId stat hstat ht

/-- What is sent for an item goes where its gateway pulled last. -/
theorem Located.routed {config : Config} {gateways : Std.TreeMap UInt64 GatewayStat} {events : List (Event Address)}
    {s : Server Address} (h : Located gateways events s) {item : SemtechUDPPacketItem} {t : Timeval} {sendto : SendTo}
    (ha : (answer config s item t).2=some sendto) : Routed config gateways (events++[.reply])
      ⟨sendto.socket,s.sockaddr (replyGateway item),.reply item sendto.response⟩ := by
  obtain ⟨stat,hstat,hsocket,hguard⟩ := answer_target ha
  have hlisted := h.listed _ stat hstat
  rw [hsocket]
  cases hpull : lastPull (replyGateway item) events with
  | none =>
    have hzero := h.unpulled _ stat hstat hpull
    rw [hzero]
    exact .unpulled rfl hlisted (hguard.resolve_right fun hne => hne hzero) hpull
  | some target =>
    obtain rfl := h.pulled _ stat hstat target hpull
    exact .pulled rfl hlisted hpull

/-- What holds of a run up to here. -/
structure RoutedSoFar (config : Config) (gateways : Std.TreeMap UInt64 GatewayStat) (events : List (Event Address))
    (s : Server Address) : Prop where
  /-- The gateways of a living server. -/
  located : s.alive=true → Located gateways events s
  /-- Everything that was sent. -/
  routed : ∀ sent∈s.sent,Routed config gateways events sent

/-- Every event keeps it. -/
theorem RoutedSoFar.step {config : Config} {gateways : Std.TreeMap UInt64 GatewayStat} {events : List (Event Address)}
    {s : Server Address} (h : RoutedSoFar config gateways events s) (e : Event Address) :
    RoutedSoFar config gateways (events++[e]) (step config s e) := by
  have hlater : ∀ sent∈s.sent,Routed config gateways (events++[e]) sent := fun sent hs => (h.routed sent hs).later e
  rw [NetworkServer.step.eq_def]
  split
  · next hdead => exact ⟨fun halive => absurd (halive.symm.trans hdead) (by decide),hlater⟩
  next hdead =>
    have halive : s.alive=true := Bool.eq_true_of_not_eq_false hdead
    have hlocated := h.located halive
    cases e with
    | datagram socket address receivedTime buffer =>
      dsimp only
      cases hpull : pullingGateway buffer with
      | none =>
        obtain ⟨hgateways,hsockaddr,n,hsent⟩ := acknowledges_receive config s socket address receivedTime hpull
        refine ⟨fun _ => hlocated.other (fun gwId => ?_) hgateways hsockaddr,?_⟩
        · rw [pullOf,hpull]
          exact if_neg (Option.some_ne_none gwId).symm
        · rw [hsent]
          intro sent hs
          rcases List.mem_append.mp hs with hs | hs
          · exact hlater sent hs
          · rw [(List.mem_replicate.mp hs).2]
            exact .ack rfl
      | some gwId =>
        rw [receive_pull config halive socket address receivedTime hpull]
        refine ⟨fun _ => hlocated.pull hpull,?_⟩
        have hsent : ∀ s' : Server Address,(setSocketAddress s' socket address gwId).sent=s'.sent := by
          intro s'
          rw [setSocketAddress]
          split <;> rfl
        rw [hsent]
        intro sent hs
        rcases List.mem_append.mp hs with hs | hs
        · exact hlater sent hs
        · rw [List.mem_singleton.mp hs]
          exact .ack rfl
    | take now =>
      dsimp only [take]
      split
      · exact ⟨fun _ => hlocated.other (fun _ => rfl) rfl rfl,hlater⟩
      · exact ⟨fun _ => hlocated.other (fun _ => rfl) rfl rfl,hlater⟩
    | reply =>
      dsimp only [reply]
      split
      · exact ⟨fun _ => hlocated.other (fun _ => rfl) rfl rfl,hlater⟩
      · next item t hitem =>
        refine ⟨fun _ => hlocated.other (fun _ => rfl) rfl rfl,fun sent hs => ?_⟩
        rcases List.mem_append.mp hs with hs | hs
        · exact hlater sent hs
        · obtain ⟨sendto,hsendto,rfl⟩ := Option.map_eq_some_iff.mp (Option.mem_toList.mp hs)
          exact hlocated.routed hsendto
    | identities identityService => exact ⟨fun _ => hlocated.other (fun _ => rfl) rfl rfl,hlater⟩

/-- A host whose JSON text is always one reception of a frame with one option byte
from device 0. -/
def sampleHost : Host := {referenceHost with parseJson := fun _ => some (.object
  [(ascii "rxpk",.array [.object [(ascii "data",.string (ascii "QAAAAAABAAACAAAAAA==")),(ascii "lsnr",.double 5)]])])}

/-- A server that knows one identity for every address and answers with one byte. -/
def sampleConfig : Config where
  host := sampleHost
  processor := ⟨none,none,true,true,0⟩
  uninitialised := 0
  env := {
    crypto := PacketDispatch.zeroCrypto
    identityService := none
    gatewayList := none
    channelPlan := fun _ => some ⟨869525000,14⟩
    mkResponseMACs := fun _ => [2]
    uninitialised := ⟨DeviceId.empty,0⟩
    netid := Vector.replicate 3 0
    next := fun nid => .ok nid
    defaultPlan := none}

/-- Gateway 7 pulls from one address and forwards a frame from another one; then the
frame is answered. -/
def sampleEvents : List (Event ℕ) :=
  [.datagram 3 100 ⟨0,0⟩ [2,0,0,2,0,0,0,0,0,0,0,7],.datagram 4 200 ⟨0,0⟩ [2,0,0,0,0,0,0,0,0,0,0,7,123],.take ⟨1,0⟩,
    .reply]

end LorawanServer.NetworkServer
