import LorawanServer.DeviceAddress
import LorawanServer.FreeSearch
import LorawanServer.StepRun

/-!
# Identities in memory and the allocation of addresses

`JsonFileIdentityService` without its file: the map from addresses to
identities, the second map with the rights of devices, the highest device part
ever seen, and the search for a free address. The first attempt goes behind the
highest device part, which may come from another network and even from an
address without a type; the second one walks over all addresses of the network.
Objects on the stack are not cleared by their constructors, so what they hold
before is an argument named stale.
-/

namespace LorawanServer.IdentityStore

open Records DeviceAddress FreeSearch StepRun

/-- Bit of the rights that allows to control the network service. -/
abbrev IDENTITY_FLAG_CAN_CONTROL_SERVICE : UInt32 := 1

/-- The class `JsonFileIdentityService` without the path of its file. -/
structure JsonFileIdentityService where
  /-- Identifier of the network. -/
  netid : NETID
  /-- Identities by their addresses. -/
  storage : Std.TreeMap DEVADDR DeviceId
  /-- Rights by the addresses of their devices. -/
  rightsMask : Std.TreeMap DEVADDR UInt32
  /-- Highest device part seen. -/
  maxDevNwkAddr : UInt32

/-- The constructor. -/
def JsonFileIdentityService.fresh : JsonFileIdentityService := ⟨Vector.replicate 3 0,∅,∅,0⟩

/-- `put`. -/
def put (s : JsonFileIdentityService) (devaddr : DEVADDR) (id : DeviceId) : JsonFileIdentityService :=
  let na := getNwkAddr devaddr
  {s with storage := s.storage.insert devaddr id
          maxDevNwkAddr := if s.maxDevNwkAddr<na then na else s.maxDevNwkAddr}

/-- `rm`, which leaves the rights alone. -/
def rm (s : JsonFileIdentityService) (addr : DEVADDR) : JsonFileIdentityService :=
  {s with storage := s.storage.erase addr}

/-- `clear`, which leaves the rights alone too. -/
def clear (s : JsonFileIdentityService) : JsonFileIdentityService := {s with storage := ∅,maxDevNwkAddr := 0}

/-- `IdentityService::setNetworkId`. -/
def setNetworkId (s : JsonFileIdentityService) (value : NETID) : JsonFileIdentityService := {s with netid := value}

/-- The code of a missing address is not the one of success. -/
theorem addressNotFound_ne : ERR_CODE_DEVICE_ADDRESS_NOTFOUND≠LORA_OK := by decide

/-- `get`. -/
def get (s : JsonFileIdentityService) (devaddr : DEVADDR) : Except ErrorCode DeviceId :=
  match s.storage[devaddr]? with
  | none => .error ⟨ERR_CODE_DEVICE_ADDRESS_NOTFOUND,addressNotFound_ne⟩
  | some id => .ok id

/-- `NetworkIdentity::set`, which copies every member. -/
def NetworkIdentity.ofDeviceId (addr : DEVADDR) (value : DeviceId) : NetworkIdentity := ⟨value,addr⟩

/-- `getNetworkIdentity`: the first entry of the device in the order of
addresses. -/
def getNetworkIdentity (s : JsonFileIdentityService) (eui : DEVEUI) : Except ErrorCode NetworkIdentity :=
  match s.storage.toList.find? fun entry => entry.2.devEUI=eui with
  | none => .error ⟨ERR_CODE_DEVICE_ADDRESS_NOTFOUND,addressNotFound_ne⟩
  | some entry => .ok (NetworkIdentity.ofDeviceId entry.1 entry.2)

/-- `getRightsMask`. -/
def getRightsMask (s : JsonFileIdentityService) (addr : DEVADDR) : UInt32 := s.rightsMask[addr]?.getD 0

/-- `setRightsMask`: no rights are not stored. -/
def setRightsMask (s : JsonFileIdentityService) (addr : DEVADDR) (value : UInt32) : JsonFileIdentityService :=
  {s with rightsMask := if value≠0 then s.rightsMask.insert addr value else s.rightsMask.erase addr}

/-- `canControlService`. -/
def canControlService (s : JsonFileIdentityService) (addr : DEVADDR) : Bool :=
  getRightsMask s addr&&&IDENTITY_FLAG_CAN_CONTROL_SERVICE≠0

/-- One round of the search: the next address of the same network. -/
def nextOf (devaddr : DEVADDR) : Except ℤ DEVADDR :=
  let (following,r) := increment devaddr
  if r≠0 then .error r else .ok following

/-- `nextBruteForce`, with the identity afterwards and the code. The loop may
look at as many addresses as there are words; nothing is returned if that were
not enough. -/
def nextBruteForce (s : JsonFileIdentityService) (stale : DEVADDR) (retval : NetworkIdentity) :
    Option (NetworkIdentity×ℤ) :=
  match search (fun devaddr => s.storage.contains devaddr) nextOf (2^32) (ofNetIdBound stale s.netid false) with
  | none => none
  | some (.error r) => some (retval,r)
  | some (.ok devaddr) => some ({retval with devaddr := devaddr},LORA_OK)

/-- The first attempt of `next`: the address behind the highest device part. -/
def nextCandidate (s : JsonFileIdentityService) (stale : DEVADDR) : DEVADDR×ℤ :=
  increment (ofNetId stale s.netid s.maxDevNwkAddr)

/-- The first attempt gives a free address. -/
def CandidateFree (s : JsonFileIdentityService) (stale : DEVADDR) : Prop :=
  (nextCandidate s stale).2=0 ∧ (nextCandidate s stale).1∉s.storage

instance (s : JsonFileIdentityService) (stale : DEVADDR) : Decidable (CandidateFree s stale) :=
  inferInstanceAs (Decidable (_ ∧ _))

/-- `next`. -/
def next (s : JsonFileIdentityService) (stale : DEVADDR) (retval : NetworkIdentity) : Option (NetworkIdentity×ℤ) :=
  let (nextAddr,r) := nextCandidate s stale
  if r≠0 then nextBruteForce s stale retval
  else if s.storage.contains nextAddr then nextBruteForce s stale retval
  else some ({retval with devaddr := nextAddr},0)

/-- Calls that change the identities. -/
inductive StoreCall where
  /-- Store an identity under an address. -/
  | put (devaddr : DEVADDR) (id : DeviceId)
  /-- Remove the identity of an address. -/
  | rm (addr : DEVADDR)
  /-- Remove all identities. -/
  | clear
  /-- Serve another network. -/
  | setNetworkId (value : NETID)

/-- The service after one call. -/
def apply (s : JsonFileIdentityService) : StoreCall → JsonFileIdentityService
  | .put devaddr id => put s devaddr id
  | .rm addr => rm s addr
  | .clear => clear s
  | .setNetworkId value => setNetworkId s value

/-- An identity is found under an address exactly when it is stored there. -/
theorem get_ok_iff (s : JsonFileIdentityService) (devaddr : DEVADDR) (id : DeviceId) :
    get s devaddr=.ok id ↔ s.storage[devaddr]?=some id := by
  unfold get
  cases s.storage[devaddr]? with
  | none => simp only [reduceCtorEq]
  | some found => simp only [Except.ok.injEq,Option.some.injEq]

/-- An identity found by its device identifier is stored under the address it
comes with. -/
theorem getNetworkIdentity_ok {s : JsonFileIdentityService} {eui : DEVEUI} {nid : NetworkIdentity}
    (h : getNetworkIdentity s eui=.ok nid) : s.storage[nid.devaddr]?=some nid.toDeviceId ∧ nid.devEUI=eui := by
  unfold getNetworkIdentity at h
  split at h
  · cases h
  · next entry hf =>
    obtain rfl := Except.ok.inj h
    constructor
    · exact Std.TreeMap.mem_toList_iff_getElem?_eq_some.mp (List.mem_of_find?_eq_some hf)
    · have he := List.find?_some hf
      exact of_decide_eq_true he

/-- The addresses of a network as a block of the search. -/
def networkBlock (netid : NETID) : Block nextOf ERR_CODE_ADDR_OUT_OF_RANGE (size netid) where
  element := address netid
  next_of_lt := by
    intro i hi
    rw [nextOf,increment_address (by omega),if_pos hi]
    rfl
  next_last := by
    intro i hi
    rw [nextOf,increment_address (by omega),if_neg (by omega)]
    rfl

/-- The walk over the network gives its first free address, or the code of the
last increment when there is none. -/
theorem nextBruteForce_cases (s : JsonFileIdentityService) (stale : DEVADDR) (retval : NetworkIdentity) :
    (∃ found<size s.netid,nextBruteForce s stale retval=
        some ({retval with devaddr := address s.netid found},LORA_OK) ∧ address s.netid found∉s.storage ∧
        ∀ i<found,address s.netid i∈s.storage) ∨
      (nextBruteForce s stale retval=some (retval,ERR_CODE_ADDR_OUT_OF_RANGE) ∧
        ∀ i<size s.netid,address s.netid i∈s.storage) := by
  have hfit := first_add_size_le s.netid
  have hs := search_block (networkBlock s.netid) (fun devaddr => s.storage.contains devaddr)
    (size_pos s.netid) (show size s.netid-0≤2^32 by omega)
  have he : ∀ i,(networkBlock s.netid).element i=address s.netid i := fun _ => rfl
  rw [nextBruteForce,ofNetIdBound_min]
  simp only [he] at hs
  rcases hs with ⟨found,-,hlt,hsearch,hfree,hbefore⟩|⟨hsearch,hall⟩
  · left
    refine ⟨found,hlt,?_,?_,?_⟩
    · rw [hsearch]
    · rw [Std.TreeMap.mem_iff_contains,hfree]
      decide
    · intro i hi
      exact Std.TreeMap.mem_iff_contains.mpr (hbefore i (Nat.zero_le i) hi)
  · right
    constructor
    · rw [hsearch]
    · intro i hi
      exact Std.TreeMap.mem_iff_contains.mpr (hall i (Nat.zero_le i) hi)

/-- The first attempt, when it gives an address, gives one of the network
behind its first address. -/
theorem nextCandidate_address {s : JsonFileIdentityService} {stale : DEVADDR} (h : (nextCandidate s stale).2=0) :
    ∃ found,found+1<size s.netid ∧ (nextCandidate s stale).1=address s.netid (found+1) :=
  increment_ofNetId_address h

/-- The first attempt decides which way the address is found. -/
theorem next_eq (s : JsonFileIdentityService) (stale : DEVADDR) (retval : NetworkIdentity) :
    next s stale retval=if CandidateFree s stale then
      some ({retval with devaddr := (nextCandidate s stale).1},0) else nextBruteForce s stale retval := by
  unfold next CandidateFree
  by_cases hr : (nextCandidate s stale).2=0
  · by_cases hm : (nextCandidate s stale).1∈s.storage
    · have hc := Std.TreeMap.mem_iff_contains.mp hm
      simp only [hr,hm,hc,ne_eq,not_true_eq_false,if_false,if_true,and_false]
    · have hc : s.storage.contains (nextCandidate s stale).1=false := by
        rwa [Std.TreeMap.mem_iff_contains,Bool.not_eq_true] at hm
      simp only [hr,hm,hc,ne_eq,not_true_eq_false,not_false_eq_true,if_false,if_true,and_self,
        Bool.false_eq_true]
  · simp only [hr,ne_eq,not_false_eq_true,if_true,false_and,if_false]

end LorawanServer.IdentityStore
