import LorawanServer.IdentityFile

/-!
# Rights and the devices they belong to

The rights of devices live in a map of their own. Removing a device, clearing
the service and loading a file leave that map alone, so rights outlive their
device and the next device at the address has them. This file says which calls
keep rights and devices together.
-/

namespace LorawanServer.IdentityRights

open CppRuntime Records DeviceAddress IdentityStore IdentityFile JsonEvents StepRun

/-- The rights after storing are the rights before. -/
@[simp] theorem getRightsMask_put (s : JsonFileIdentityService) (devaddr : DEVADDR) (id : DeviceId)
    (addr : DEVADDR) : getRightsMask (put s devaddr id) addr=getRightsMask s addr := rfl

/-- The rights after removing are the rights before. -/
@[simp] theorem getRightsMask_rm (s : JsonFileIdentityService) (removed addr : DEVADDR) :
    getRightsMask (rm s removed) addr=getRightsMask s addr := rfl

/-- The rights after clearing are the rights before. -/
@[simp] theorem getRightsMask_clear (s : JsonFileIdentityService) (addr : DEVADDR) :
    getRightsMask (clear s) addr=getRightsMask s addr := rfl

/-- Rights are given to one address. -/
theorem getRightsMask_setRightsMask (s : JsonFileIdentityService) (given addr : DEVADDR) (value : UInt32) :
    getRightsMask (setRightsMask s given value) addr=if given=addr then value else getRightsMask s addr := by
  unfold getRightsMask setRightsMask
  by_cases hv : value≠0
  · rw [if_pos hv,Std.TreeMap.getElem?_insert]
    by_cases ha : given=addr
    · simp only [ha,Std.ReflCmp.compare_self,if_true,Option.getD_some]
    · simp only [Std.compare_eq_iff_eq,ha,if_false]
  · rw [if_neg hv,Std.TreeMap.getElem?_erase]
    by_cases ha : given=addr
    · simp only [ha,Std.ReflCmp.compare_self,if_true,Option.getD_none,not_not.mp hv]
    · simp only [Std.compare_eq_iff_eq,ha,if_false]

/-- What is stored after storing. -/
theorem mem_put {s : JsonFileIdentityService} {devaddr : DEVADDR} {id : DeviceId} {addr : DEVADDR} :
    addr∈(put s devaddr id).storage ↔ devaddr=addr ∨ addr∈s.storage := by
  rw [put,Std.TreeMap.mem_insert,Std.compare_eq_iff_eq]

/-- What is stored after removing. -/
theorem mem_rm {s : JsonFileIdentityService} {removed addr : DEVADDR} :
    addr∈(rm s removed).storage ↔ removed≠addr ∧ addr∈s.storage := by
  rw [rm,Std.TreeMap.mem_erase,ne_eq,ne_eq,Std.compare_eq_iff_eq]

/-- Calls that change identities or rights. -/
inductive RightsCall where
  /-- Store an identity under an address. -/
  | put (devaddr : DEVADDR) (id : DeviceId)
  /-- Remove the identity of an address. -/
  | rm (addr : DEVADDR)
  /-- Remove all identities. -/
  | clear
  /-- Load a file, with what the stack holds and the numbers that are refused. -/
  | load (stale : ℕ → DEVADDR) (tooBig : Bytes → Bool) (file : Option Bytes)
  /-- Give rights to an address. -/
  | setRightsMask (addr : DEVADDR) (value : UInt32)

/-- The service after one call. -/
def apply (s : JsonFileIdentityService) : RightsCall → JsonFileIdentityService
  | .put devaddr id => put s devaddr id
  | .rm addr => rm s addr
  | .clear => clear s
  | .load stale tooBig file => (load stale tooBig s file).1
  | .setRightsMask addr value => setRightsMask s addr value

/-- Rights are given to stored addresses only. -/
def Permitted (s : JsonFileIdentityService) : RightsCall → Prop
  | .setRightsMask addr _ => addr∈s.storage
  | _ => True

/-- Every address with rights is stored. -/
def RightsStored (s : JsonFileIdentityService) : Prop := ∀ addr,getRightsMask s addr≠0 → addr∈s.storage

/-- A device that is put at a free address cannot control the service. -/
def NothingInherited (s : JsonFileIdentityService) : Prop :=
  ∀ addr id,addr∉s.storage → canControlService (put s addr id) addr=false

/-- A file on its own gives a device to an address. -/
def FileStores (netid : NETID) (stale : ℕ → DEVADDR) (tooBig : Bytes → Bool) (file : Option Bytes)
    (addr : DEVADDR) : Prop :=
  addr∈(load stale tooBig (setNetworkId .fresh netid) file).1.storage

/-- The call takes no device away that has rights. -/
def SparesRights (s : JsonFileIdentityService) : RightsCall → Prop
  | .rm addr => getRightsMask s addr=0
  | .clear => ∀ addr,getRightsMask s addr=0
  | .load stale tooBig file => ∀ addr,getRightsMask s addr≠0 → FileStores s.netid stale tooBig file addr
  | _ => True

/-- Without stale rights nothing is inherited. -/
theorem RightsStored.nothingInherited {s : JsonFileIdentityService} (h : RightsStored s) : NothingInherited s := by
  intro addr id hfree
  have hzero : getRightsMask s addr=0 := by
    by_contra hne
    exact hfree (h addr hne)
  rw [canControlService,getRightsMask_put,hzero]
  decide

section Loading

variable (stale : ℕ → DEVADDR)

/-- A handler whose service has other rights. -/
def withRights (h : NetworkIdentityHandler) (rights : Std.TreeMap DEVADDR UInt32) : NetworkIdentityHandler :=
  {h with service := {h.service with rightsMask := rights}}

/-- No call looks at the rights. -/
theorem call_withRights (h : NetworkIdentityHandler) (rights : Std.TreeMap DEVADDR UInt32) (event : Event) :
    ∃ after,(withRights h rights).call stale event=
      (withRights (h.call stale event).1 after,(h.call stale event).2) := by
  cases event with
  | number minus magnitude =>
    cases minus with
    | true => exact ⟨rights,rfl⟩
    | false =>
      refine ⟨rights,?_⟩
      have hidx : (withRights h rights).idx=h.idx := rfl
      simp only [NetworkIdentityHandler.call,NetworkIdentityHandler.uint,hidx]
      split
      · split <;> rfl
      · rfl
  | string text =>
    refine ⟨rights,?_⟩
    simp only [NetworkIdentityHandler.call,NetworkIdentityHandler.string]
    have hidx : (withRights h rights).idx=h.idx := rfl
    rw [hidx]
    split <;> rfl
  | endObject =>
    simp only [NetworkIdentityHandler.call,NetworkIdentityHandler.endObject]
    have hnext : next (withRights h rights).service (stale (withRights h rights).asked) ⟨(withRights h rights).v,0⟩=
        next h.service (stale h.asked) ⟨h.v,0⟩ := rfl
    have hk : (withRights h rights).k=h.k := rfl
    rw [hnext,hk]
    by_cases hz : h.k=0
    · rw [if_pos hz,if_pos hz]
      cases next h.service (stale h.asked) ⟨h.v,0⟩ with
      | none => exact ⟨rights,rfl⟩
      | some found =>
        obtain ⟨identity,r⟩ := found
        by_cases hr : r≠0
        · simp only [if_pos hr]
          exact ⟨rights,rfl⟩
        · simp only [if_neg hr]
          exact ⟨_,rfl⟩
    · rw [if_neg hz,if_neg hz]
      exact ⟨_,rfl⟩
  | _ => exact ⟨rights,rfl⟩

/-- Nor does a list of calls. -/
theorem deliver_withRights (events : List Event) :
    ∀ h rights,∃ after,deliver (NetworkIdentityHandler.call stale) (withRights h rights) events=
      (withRights (deliver (NetworkIdentityHandler.call stale) h events).1 after,
        (deliver (NetworkIdentityHandler.call stale) h events).2) := by
  induction events with
  | nil => exact fun h rights => ⟨rights,rfl⟩
  | cons event rest ih =>
    intro h rights
    obtain ⟨after,hcall⟩ := call_withRights stale h rights event
    simp only [deliver,hcall]
    split
    · exact ih _ after
    · exact ⟨after,rfl⟩

/-- What is stored after loading depends on the file and the network alone. -/
theorem mem_load (tooBig : Bytes → Bool) (s : JsonFileIdentityService) (file : Option Bytes) (addr : DEVADDR) :
    addr∈(load stale tooBig s file).1.storage ↔ FileStores s.netid stale tooBig file addr := by
  cases file with
  | none => exact Iff.rfl
  | some text =>
    have hstart : NetworkIdentityHandler.new (clear s)=
        withRights (.new (clear (setNetworkId .fresh s.netid))) s.rightsMask := rfl
    obtain ⟨after,hafter⟩ := deliver_withRights stale (readEvents tooBig text).1
      (.new (clear (setNetworkId .fresh s.netid))) s.rightsMask
    simp only [FileStores,load,parse,hstart,hafter]
    exact Iff.rfl

/-- Handlers whose rights differ from the first ones at stored addresses only. -/
def KeepsRest (s : JsonFileIdentityService) (h : NetworkIdentityHandler) : Prop :=
  ∀ addr,addr∉h.service.storage → getRightsMask h.service addr=getRightsMask s addr

/-- Only the devices and the rights of a handler's service matter. -/
theorem KeepsRest.of_maps {s : JsonFileIdentityService} {h after : NetworkIdentityHandler} (hk : KeepsRest s h)
    (hs : after.service.storage=h.service.storage) (hr : after.service.rightsMask=h.service.rightsMask) :
    KeepsRest s after := by
  intro addr hfree
  have hrest := hk addr (by rwa [hs] at hfree)
  rwa [getRightsMask,←hr] at hrest

/-- Storing one object keeps to it. -/
theorem KeepsRest.store {s : JsonFileIdentityService} {h : NetworkIdentityHandler} (hk : KeepsRest s h)
    (devaddr : DEVADDR) : KeepsRest s (h.store devaddr) := by
  intro addr hfree
  have hout : addr∉(put h.service devaddr h.v).storage := hfree
  rw [mem_put,not_or] at hout
  obtain ⟨hne,hrest⟩ := hout
  have hm := getRightsMask_setRightsMask (put h.service devaddr h.v) devaddr addr h.flags
  rw [if_neg hne,getRightsMask_put,hk addr hrest] at hm
  exact hm

/-- One call keeps to it. -/
theorem KeepsRest.call {s : JsonFileIdentityService} {h : NetworkIdentityHandler} (hk : KeepsRest s h)
    (event : Event) : KeepsRest s (h.call stale event).1 := by
  cases event with
  | number minus magnitude =>
    cases minus with
    | true => exact hk.of_maps rfl rfl
    | false =>
      simp only [NetworkIdentityHandler.call,NetworkIdentityHandler.uint]
      split
      · split <;> exact hk.of_maps rfl rfl
      · exact hk.of_maps rfl rfl
  | string text =>
    simp only [NetworkIdentityHandler.call,NetworkIdentityHandler.string]
    split <;> exact hk.of_maps rfl rfl
  | endObject =>
    simp only [NetworkIdentityHandler.call,NetworkIdentityHandler.endObject]
    split
    · split
      · split
        · exact hk.of_maps rfl rfl
        · exact hk.store _
      · exact hk.of_maps rfl rfl
    · exact hk.store _
  | _ => exact hk.of_maps rfl rfl

/-- A list of calls keeps to it. -/
theorem KeepsRest.deliver {s : JsonFileIdentityService} (events : List Event) :
    ∀ h,KeepsRest s h → KeepsRest s (deliver (NetworkIdentityHandler.call stale) h events).1 := by
  induction events with
  | nil => exact fun h hk => hk
  | cons event rest ih =>
    intro h hk
    have hcall := hk.call stale event
    simp only [JsonEvents.deliver]
    split
    · exact ih _ hcall
    · exact hcall

/-- Where a file stores nothing, loading it leaves the rights as they were. -/
theorem getRightsMask_load (tooBig : Bytes → Bool) (s : JsonFileIdentityService) (file : Option Bytes) {addr : DEVADDR}
    (h : addr∉(load stale tooBig s file).1.storage) :
    getRightsMask (load stale tooBig s file).1 addr=getRightsMask s addr := by
  cases file with
  | none => rfl
  | some text =>
    have hstart : KeepsRest s (NetworkIdentityHandler.new (clear s)) := fun _ _ => rfl
    exact KeepsRest.deliver stale (readEvents tooBig text).1 _ hstart addr h

end Loading

/-- A permitted call keeps rights and devices together exactly when it spares
the devices with rights. -/
theorem rightsStored_apply_iff {s : JsonFileIdentityService} {c : RightsCall} (h : RightsStored s)
    (hp : Permitted s c) : RightsStored (apply s c) ↔ SparesRights s c := by
  cases c with
  | put devaddr id => exact iff_of_true (fun addr hr => mem_put.mpr (.inr (h addr hr))) trivial
  | rm removed =>
    constructor
    · intro hafter
      by_contra hne
      exact (mem_rm.mp (hafter removed hne)).1 rfl
    · intro hzero addr hr
      refine mem_rm.mpr ⟨?_,h addr hr⟩
      rintro rfl
      exact hr hzero
  | clear =>
    constructor
    · intro hafter addr
      by_contra hne
      exact Std.TreeMap.not_mem_emptyc (hafter addr hne)
    · exact fun hzero addr hr => absurd (hzero addr) hr
  | load stale tooBig file =>
    constructor
    · intro hafter addr hr
      rw [← mem_load]
      by_contra hfree
      exact hfree (hafter addr (by rwa [apply,getRightsMask_load stale tooBig s file hfree]))
    · intro hspares addr hr
      by_contra hfree
      rw [apply,getRightsMask_load stale tooBig s file hfree] at hr
      exact hfree ((mem_load stale tooBig s file addr).mpr (hspares addr hr))
  | setRightsMask given value =>
    refine iff_of_true (fun addr hr => ?_) trivial
    rw [apply,getRightsMask_setRightsMask] at hr
    by_cases ha : given=addr
    · exact ha ▸ hp
    · exact h addr (by rwa [if_neg ha] at hr)

/-- Rights and devices in every state of a run. -/
def RightsFollow (calls : List RightsCall) : Prop :=
  ∀ before after,calls=before++after →
    RightsStored (run apply .fresh before) ∧ NothingInherited (run apply .fresh before)

/-- In every state of a run of permitted calls the rights belong to stored
devices exactly when every call spares the devices with rights. -/
theorem rightsFollow_iff {calls : List RightsCall} (hp : Along apply Permitted .fresh calls) :
    RightsFollow calls ↔ Along apply SparesRights .fresh calls := by
  constructor
  · rintro h before c after rfl
    have hnow := (h before (c::after) rfl).1
    have hthen := (h (before++[c]) after (List.append_cons before c after)).1
    rw [run_append,run_cons,run_nil] at hthen
    exact (rightsStored_apply_iff hnow (hp before c after rfl)).mp hthen
  · rintro hs before after rfl
    have hboth : Along apply (fun s c => Permitted s c ∧ SparesRights s c) .fresh before :=
      fun front c rest hsplit => ⟨hp.front front c rest hsplit,hs.front front c rest hsplit⟩
    have hstored : RightsStored (run apply .fresh before) :=
      hboth.run_invariant (fun addr hr => absurd rfl hr)
        fun s c hinv hc => (rightsStored_apply_iff hinv hc.1).mpr hc.2
    exact ⟨hstored,hstored.nothingInherited⟩

/-- A device with rights, removed before its address is used again. -/
def removedWithRights : List RightsCall :=
  [.put 1 DeviceId.empty,.setRightsMask 1 IDENTITY_FLAG_CAN_CONTROL_SERVICE,.rm 1,.put 1 DeviceId.empty]

/-- The same device, whose rights are taken away first. -/
def removedWithoutRights : List RightsCall :=
  [.put 1 DeviceId.empty,.setRightsMask 1 IDENTITY_FLAG_CAN_CONTROL_SERVICE,.setRightsMask 1 0,.rm 1,
    .put 1 DeviceId.empty]

/-- Rights that are taken away before the device is removed do no harm. -/
theorem rightsFollow_removedWithoutRights : RightsFollow removedWithoutRights := by
  have hp : Along apply Permitted .fresh removedWithoutRights := by
    simp only [removedWithoutRights,along_cons_iff]
    refine ⟨trivial,?_,?_,trivial,trivial,along_nil _ _ _⟩
    · exact mem_put.mpr (.inl rfl)
    · exact mem_put.mpr (.inl rfl)
  refine (rightsFollow_iff hp).mpr ?_
  simp only [removedWithoutRights,along_cons_iff]
  refine ⟨trivial,trivial,trivial,?_,trivial,along_nil _ _ _⟩
  rw [SparesRights]
  decide +kernel

/-- The second device at the address inherits the rights of the first one. -/
theorem rights_inherited : Along apply Permitted .fresh removedWithRights ∧ ¬ RightsFollow removedWithRights ∧
    canControlService (run apply .fresh removedWithRights) 1=true := by
  refine ⟨?_,fun h => ?_,?_⟩
  · simp only [removedWithRights,along_cons_iff]
    refine ⟨trivial,?_,trivial,trivial,along_nil _ _ _⟩
    exact mem_put.mpr (.inl rfl)
  · have hstored := (h (removedWithRights.take 3) (removedWithRights.drop 3) rfl).1 1
    revert hstored
    rw [Std.TreeMap.mem_iff_contains]
    decide +kernel
  · decide +kernel

end LorawanServer.IdentityRights
