import LorawanServer.AddressAllocation
import LorawanServer.JoinReplies

/-!
# Addresses told to joining devices

The reply to a join request over the identities in memory. A run of replies
collects which device was told which address. A device stored under an address
is told this one, and a device stored under the address of all zeros is told a
free one. The reply stores nothing, so nobody is found under a free address
afterwards.
-/

namespace LorawanServer.JoinBinding

open Records DeviceAddress StepRun IdentityStore AddressAllocation PacketHandler PacketReplies JoinReplies

/-- `next` behind the interface of the identity service. -/
def nextIdentity (s : JsonFileIdentityService) (stale : DEVADDR) (identity : NetworkIdentity) :
    Except ErrorCode NetworkIdentity :=
  match next s stale identity with
  | none => .error ⟨ERR_CODE_ADDR_SPACE_FULL,by decide⟩
  | some (result,code) => if h : code=LORA_OK then .ok result else .error ⟨code,h⟩

/-- The environment of a reply with this identity service. -/
def attach (env : JoinEnvironment) (s : JsonFileIdentityService) (stale : DEVADDR) : JoinEnvironment :=
  {env with
    identityService := some ⟨IdentityStore.get s,getNetworkIdentity s,canControlService s⟩
    netid := s.netid
    next := nextIdentity s stale}

/-- A join request that is due for its reply. -/
structure JoinEvent where
  /-- Everything around the queue but the identities. -/
  env : JoinEnvironment
  /-- The queued request. -/
  item : SemtechUDPPacketItem
  /-- Time of the reply. -/
  time : Timeval
  /-- What the address objects of the search hold before. -/
  stale : DEVADDR

/-- Server state along replies to join requests. -/
structure JoinState where
  /-- The identities. -/
  service : JsonFileIdentityService
  /-- Stored counters. -/
  history : Option DeviceHistory.Storage
  /-- Who was told which address, the last one in front. -/
  told : List (DEVEUI×DEVADDR)

/-- The device that a successful reply goes to, with the address in it. -/
def answer (s : JoinState) (e : JoinEvent) : Option (DEVEUI×DEVADDR) :=
  match getJoinRequestFrame e.item.packet,acceptJoin (attach e.env s.service e.stale) s.history e.item.packet with
  | some frame,.ok (devaddr,_) => some (frame.devEUI,devaddr)
  | _,_ => none

/-- One reply. The identities stay as they are. -/
def joinStep (s : JoinState) (e : JoinEvent) : JoinState where
  service := s.service
  history := (replyJoinRequest (attach e.env s.service e.stale) s.history e.item e.time).history
  told := (answer s e).toList++s.told

/-- The device is stored under the address of all zeros. -/
def RegisteredAtZero (s : JsonFileIdentityService) (eui : DEVEUI) : Prop :=
  ∃ nid,getNetworkIdentity s eui=.ok nid ∧ nid.devaddr=0

/-- The address leads to the identity of the device. -/
def Binds (s : JsonFileIdentityService) (eui : DEVEUI) (devaddr : DEVADDR) : Prop :=
  ∃ nid,getNetworkIdentity s eui=.ok nid ∧ IdentityStore.get s devaddr=.ok nid.toDeviceId

/-- A successful reply leaves its address bound to its device. -/
def StepBinds (s : JoinState) (e : JoinEvent) : Prop :=
  ∀ eui devaddr,answer s e=some (eui,devaddr) → Binds (joinStep s e).service eui devaddr

/-- Different devices were told different addresses. -/
def ToldApart (told : List (DEVEUI×DEVADDR)) : Prop :=
  ∀ first∈told,∀ second∈told,first.1≠second.1 → first.2≠second.2

/-- Every successful reply of the run binds its address, and different devices
are told different addresses. -/
def JoinsBind (s : JoinState) (events : List JoinEvent) : Prop :=
  Along joinStep StepBinds s events ∧ ToldApart (run joinStep s events).told

/-- A successful reply answers a request that was accepted. -/
theorem answer_eq_some {s : JoinState} {e : JoinEvent} {eui : DEVEUI} {devaddr : DEVADDR}
    (h : answer s e=some (eui,devaddr)) : ∃ frame fcntDown sent,getJoinRequestFrame e.item.packet=some frame ∧
      frame.devEUI=eui ∧
      acceptJoin (attach e.env s.service e.stale) s.history e.item.packet=.ok (devaddr,fcntDown,sent) := by
  unfold answer at h
  split at h
  · next frame found rest hf ha =>
    obtain ⟨rfl,rfl⟩ := Prod.mk.inj (Option.some.inj h)
    obtain ⟨fcntDown,sent⟩ := rest
    exact ⟨frame,fcntDown,sent,hf,rfl,ha⟩
  · cases h

/-- The address of an accepted device is the one it is stored under, or for the
address of all zeros a new one. -/
theorem joinAccept_cases {env : JoinEnvironment} {retval hdr : JoinAcceptFrameHeader}
    {nid accepted : NetworkIdentity} (h : joinAccept env retval nid=.ok (hdr,accepted)) :
    hdr.devAddr=accepted.devaddr ∧ ((nid.devaddr≠0 ∧ accepted.devaddr=nid.devaddr) ∨
      (nid.devaddr=0 ∧ ∃ new,env.next nid=.ok new ∧ accepted.devaddr=new.devaddr)) := by
  unfold joinAccept at h
  split_ifs at h with hz
  · split at h
    · cases h
    · next new hnew =>
      obtain ⟨rfl,rfl⟩ := Prod.mk.inj (Except.ok.inj h)
      exact ⟨rfl,.inr ⟨hz,new,hnew,rfl⟩⟩
  · obtain ⟨rfl,rfl⟩ := Prod.mk.inj (Except.ok.inj h)
    exact ⟨rfl,.inl ⟨hz,rfl⟩⟩

/-- A new address is a free one. -/
theorem notMem_of_nextIdentity {s : JsonFileIdentityService} {stale : DEVADDR} {nid new : NetworkIdentity}
    (h : nextIdentity s stale nid=.ok new) : new.devaddr∉s.storage := by
  unfold nextIdentity at h
  rcases next_cases s stale nid with ⟨found,hlt,he,hfree⟩|⟨he,-⟩
  · rw [he] at h
    simp only [dif_pos] at h
    obtain rfl := Except.ok.inj h
    exact hfree
  · rw [he] at h
    simp only [show ¬ ERR_CODE_ADDR_OUT_OF_RANGE=LORA_OK by decide,dif_neg,not_false_eq_true] at h
    cases h

/-- The address of a reply stands in the header of the frame that is sent. -/
theorem answer_sent {s : JoinState} {e : JoinEvent} {eui : DEVEUI} {devaddr : DEVADDR}
    (h : answer s e=some (eui,devaddr)) : ∃ frame plan hdr key power gateway packet,
      getJoinRequestFrame e.item.packet=some frame ∧ frame.devEUI=eui ∧ hdr.devAddr=devaddr ∧
      replyJoinRequest (attach e.env s.service e.stale) s.history e.item e.time=
        ⟨(joinStep s e).history,some ⟨gateway,mkJoinAcceptResponse packet
          (joinAcceptFrame e.env.crypto (joinSettings plan hdr) key) (tmst e.item.packet) power⟩,LORA_OK⟩ := by
  obtain ⟨frame,fcntDown,sent,hf,heui,ha⟩ := answer_eq_some h
  obtain ⟨nid,plan,gateway,hdr,accepted,-,-,hj,-,hd,hs⟩ := (acceptJoin_ok_iff _ _ _ _ _ _).mp ha
  refine ⟨frame,plan,hdr,accepted.nwkKey,plan.maxUplinkEIRP,gateway.socket,
    assigned e.item.packet accepted.devaddr fcntDown.toUInt16,hf,heui,(joinAccept_cases hj).1.trans hd,?_⟩
  rw [joinStep,replyJoinRequest,ha,←hs]
  rfl

/-- A device is told the address it is stored under, or a free one when this is
the address of all zeros. -/
theorem answer_cases {s : JoinState} {e : JoinEvent} {eui : DEVEUI} {devaddr : DEVADDR}
    (h : answer s e=some (eui,devaddr)) : ∃ nid,getNetworkIdentity s.service eui=.ok nid ∧
      ((nid.devaddr≠0 ∧ devaddr=nid.devaddr) ∨ (nid.devaddr=0 ∧ devaddr∉s.service.storage)) := by
  obtain ⟨frame,fcntDown,sent,hf,rfl,ha⟩ := answer_eq_some h
  obtain ⟨nid,plan,gateway,hdr,accepted,hi,-,hj,-,rfl,-⟩ := (acceptJoin_ok_iff _ _ _ _ _ _).mp ha
  obtain ⟨frame',service,hf',hservice,hn,-⟩ := (joinIdentity_ok_iff _ _ _).mp hi
  obtain rfl := Option.some.inj (hf.symm.trans hf')
  obtain rfl := Option.some.inj hservice
  refine ⟨nid,hn,?_⟩
  rcases (joinAccept_cases hj).2 with hstored|⟨hz,new,hnew,hnewaddr⟩
  · exact .inl hstored
  · exact .inr ⟨hz,hnewaddr ▸ notMem_of_nextIdentity hnew⟩

/-- A reply binds its address exactly when its device is stored under another
address than the one of all zeros. -/
theorem binds_iff {s : JoinState} {e : JoinEvent} {eui : DEVEUI} {devaddr : DEVADDR}
    (h : answer s e=some (eui,devaddr)) :
    Binds (joinStep s e).service eui devaddr ↔ ¬ RegisteredAtZero s.service eui := by
  obtain ⟨nid,hn,hcase⟩ := answer_cases h
  have hstored := (getNetworkIdentity_ok hn).1
  have hsame : ∀ other,getNetworkIdentity s.service eui=.ok other → other=nid := by
    intro other ho
    exact Except.ok.inj (ho.symm.trans hn)
  constructor
  · rintro ⟨other,-,hg⟩ ⟨found,hf,hz⟩
    obtain rfl := hsame found hf
    rcases hcase with ⟨hne,-⟩|⟨-,hfree⟩
    · exact hne hz
    · have hmem := (get_ok_iff _ _ _).mp hg
      exact hfree (Std.TreeMap.mem_iff_isSome_getElem?.mpr (Option.isSome_of_eq_some hmem))
  · intro hz
    rcases hcase with ⟨-,rfl⟩|⟨hzero,-⟩
    · exact ⟨nid,hn,(get_ok_iff _ _ _).mpr hstored⟩
    · exact absurd ⟨nid,hn,hzero⟩ hz

/-- Every device that was told an address was told the one it is stored under,
or a free one while it is stored under the address of all zeros. -/
def ToldFrom (service : JsonFileIdentityService) (told : List (DEVEUI×DEVADDR)) : Prop :=
  ∀ t∈told,(∃ id,service.storage[t.2]?=some id ∧ id.devEUI=t.1) ∨
    (t.2∉service.storage ∧ ∃ id,service.storage[(0 : DEVADDR)]?=some id ∧ id.devEUI=t.1)

/-- This keeps different devices apart. -/
theorem ToldFrom.apart {service : JsonFileIdentityService} {told : List (DEVEUI×DEVADDR)}
    (h : ToldFrom service told) : ToldApart told := by
  intro first hfirst second hsecond hne hsame
  have hmem : ∀ {devaddr : DEVADDR} {id : DeviceId},service.storage[devaddr]?=some id → devaddr∈service.storage :=
    fun hs => Std.TreeMap.mem_iff_isSome_getElem?.mpr (Option.isSome_of_eq_some hs)
  rcases h first hfirst with ⟨id,hs,he⟩|⟨hfree,id,hs,he⟩
  · rcases h second hsecond with ⟨other,ho,he'⟩|⟨hfree',-⟩
    · rw [hsame,ho] at hs
      obtain rfl := Option.some.inj hs
      exact hne (he.symm.trans he')
    · exact hfree' (hsame ▸ hmem hs)
  · rcases h second hsecond with ⟨other,ho,-⟩|⟨-,other,ho,he'⟩
    · exact hfree (hsame ▸ hmem ho)
    · obtain rfl := Option.some.inj (hs.symm.trans ho)
      exact hne (he.symm.trans he')

/-- One reply keeps to it. -/
theorem joinStep_toldFrom (service : JsonFileIdentityService) (e : JoinEvent) (s : JoinState)
    (h : s.service=service ∧ ToldFrom service s.told) :
    (joinStep s e).service=service ∧ ToldFrom service (joinStep s e).told := by
  obtain ⟨rfl,htold⟩ := h
  refine ⟨rfl,fun t ht => ?_⟩
  rcases List.mem_append.mp ht with hnew|hold
  · have ha : answer s e=some (t.1,t.2) := Option.mem_toList.mp hnew
    obtain ⟨nid,hn,hcase⟩ := answer_cases ha
    obtain ⟨hstored,heui⟩ := getNetworkIdentity_ok hn
    rcases hcase with ⟨-,hd⟩|⟨hz,hfree⟩
    · exact .inl ⟨nid.toDeviceId,hd ▸ hstored,heui⟩
    · exact .inr ⟨hfree,nid.toDeviceId,hz ▸ hstored,heui⟩
  · exact htold t hold

/-- Over any replies to join requests the addresses are bound exactly when no
answered device is stored under the address of all zeros. -/
theorem joinsBind_iff (service : JsonFileIdentityService) (history : Option DeviceHistory.Storage)
    (events : List JoinEvent) : JoinsBind ⟨service,history,[]⟩ events ↔
      Along joinStep (fun s e => ∀ eui devaddr,answer s e=some (eui,devaddr) →
        ¬ RegisteredAtZero s.service eui) ⟨service,history,[]⟩ events := by
  have hstep : ∀ s e,StepBinds s e ↔ ∀ eui devaddr,answer s e=some (eui,devaddr) →
      ¬ RegisteredAtZero s.service eui := by
    intro s e
    constructor
    · intro h eui devaddr ha
      exact (binds_iff ha).mp (h eui devaddr ha)
    · intro h eui devaddr ha
      exact (binds_iff ha).mpr (h eui devaddr ha)
  constructor
  · rintro ⟨hbinds,-⟩
    exact hbinds.imp fun s e => (hstep s e).mp
  · intro h
    refine ⟨h.imp fun s e => (hstep s e).mpr,?_⟩
    have hinit : service=service ∧ ToldFrom service [] := ⟨rfl,fun t ht => absurd ht List.not_mem_nil⟩
    have hinv : (run joinStep ⟨service,history,[]⟩ events).service=service ∧
        ToldFrom service (run joinStep ⟨service,history,[]⟩ events).told :=
      run_invariant (fun e _ s => joinStep_toldFrom service e s) hinit
    exact hinv.2.apart

/-- One device stored under the address of all zeros. -/
def unassignedService : JsonFileIdentityService := put .fresh 0 DeviceId.empty

/-- Its join request, received by a gateway with an open socket. -/
def unassignedJoin : JoinEvent where
  env := {
    crypto := ⟨fun _ _ => Vector.replicate 16 0,fun _ _ => Vector.replicate 16 0⟩
    identityService := none
    gatewayList := some ((∅ : Std.TreeMap UInt64 GatewayStat).insert 7 ⟨7,3⟩)
    channelPlan := fun _ => none
    mkResponseMACs := fun _ => []
    uninitialised := ⟨DeviceId.empty,0⟩
    netid := Vector.replicate 3 0
    next := .ok
    defaultPlan := some ⟨⟨869525000,14⟩,1,0⟩}
  item := ⟨.joinResponse,⟨0,0⟩,{SemtechUDPPacket.empty with
    metadata := [{RfmMetaData.initial 0 0 with gatewayId := 7}]
    payload := List.replicate 18 0}⟩
  time := ⟨0,0⟩
  stale := 0

/-- This device is told address 1, under which nobody is found. -/
theorem joins_unbound : ¬ JoinsBind ⟨unassignedService,none,[]⟩ [unassignedJoin] := by
  rintro ⟨hbinds,-⟩
  have ha : answer ⟨unassignedService,none,[]⟩ unassignedJoin=some (0,1) := by decide +kernel
  obtain ⟨nid,-,hg⟩ := hbinds [] unassignedJoin [] rfl 0 1 ha
  have hnone : unassignedService.storage[(1 : DEVADDR)]?=none := by decide +kernel
  rw [get_ok_iff] at hg
  change unassignedService.storage[(1 : DEVADDR)]?=some nid.toDeviceId at hg
  rw [hnone] at hg
  cases hg

end LorawanServer.JoinBinding
