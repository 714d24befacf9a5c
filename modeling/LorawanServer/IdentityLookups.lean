import LorawanServer.LmdbStore

/-!
# Lookups of one identity in two stores

The three ways to an identity, by address, by device identifier and in the list
of all identities, over the store in memory and over the database. `set`
copies every member of a `DEVICEID`; the constructor from an address and a
`DEVICEID` leaves the version, the join identifier, the root keys and the nonces
as the memory holds them.
-/

namespace LorawanServer.IdentityLookups

open Records DeviceAddress IdentityStore LmdbStore

/-- `NetworkIdentity(const DEVADDRINT&, const DEVICEID&)` over the memory of the
new object. -/
def construct (stale : NetworkIdentity) (a : DEVADDR) (value : DeviceId) : NetworkIdentity :=
  {stale with
    devaddr := a
    activation := value.activation
    deviceclass := value.deviceclass
    devEUI := value.devEUI
    nwkSKey := value.nwkSKey
    appSKey := value.appSKey
    name := value.name}

/-- The memory of the object already holds what the constructor leaves out. -/
structure HoldsRest (stale : NetworkIdentity) (value : DeviceId) : Prop where
  /-- LoRaWAN version. -/
  version : stale.version=value.version
  /-- Join identifier. -/
  appEUI : stale.appEUI=value.appEUI
  /-- Application root key. -/
  appKey : stale.appKey=value.appKey
  /-- Network root key. -/
  nwkKey : stale.nwkKey=value.nwkKey
  /-- Device nonce. -/
  devNonce : stale.devNonce=value.devNonce
  /-- Join nonce. -/
  joinNonce : stale.joinNonce=value.joinNonce

/-- A constructed identity carries the stored one exactly then. -/
theorem construct_eq_iff (stale : NetworkIdentity) (a : DEVADDR) (value : DeviceId) :
    (construct stale a value).toDeviceId=value ↔ HoldsRest stale value := by
  constructor
  · intro h
    have hversion := congrArg DeviceId.version h
    have happEUI := congrArg DeviceId.appEUI h
    have happKey := congrArg DeviceId.appKey h
    have hnwkKey := congrArg DeviceId.nwkKey h
    have hdevNonce := congrArg DeviceId.devNonce h
    have hjoinNonce := congrArg DeviceId.joinNonce h
    exact ⟨hversion,happEUI,happKey,hnwkKey,hdevNonce,hjoinNonce⟩
  · intro h
    obtain ⟨hversion,happEUI,happKey,hnwkKey,hdevNonce,hjoinNonce⟩ := h
    cases value
    simp only at hversion happEUI happKey hnwkKey hdevNonce hjoinNonce
    simp only [construct,hversion,happEUI,happKey,hnwkKey,hdevNonce,hjoinNonce]

/-- The largest `size_t`. -/
def SIZE_MAX : ℕ := 2^64-1

/-- The loop of `JsonFileIdentityService::list` from a position on. -/
def jsonRange (offset size : ℕ) : ℕ → List (DEVADDR×DeviceId) → List (DEVADDR×DeviceId)
  | _,[] => []
  | c,entry::rest =>
    if c<offset then jsonRange offset size (c+1) rest
    else if size≤c then []
    else entry::jsonRange offset size (c+1) rest

/-- `JsonFileIdentityService::list`; each element has its own memory. -/
def jsonList (s : JsonFileIdentityService) (stale : DEVADDR → NetworkIdentity) (offset size : ℕ) :
    List NetworkIdentity :=
  (jsonRange offset (if size=0 then SIZE_MAX else size) 0 s.storage.toList).map fun entry =>
    construct (stale entry.1) entry.1 entry.2

/-- The callback `onRecord` over the records of `lsAddr`; the sum of its two
bounds wraps. -/
def lmdbRange (offset size : ℕ) : ℕ → List (UInt32×DeviceId) → List (UInt32×DeviceId)
  | _,[] => []
  | c,entry::rest =>
    if c+1≤offset then lmdbRange offset size (c+1) rest
    else if (offset+size)%2^64<c+1 then []
    else entry::lmdbRange offset size (c+1) rest

/-- `LmdbIdentityService::list`. -/
def lmdbList (db : Database) (stale : DEVADDR → NetworkIdentity) (offset size : ℕ) : List NetworkIdentity :=
  (lmdbRange offset (if size=0 then SIZE_MAX else size) 0 db.toList).map fun entry =>
    construct (stale (DEVADDR2int entry.1)) (DEVADDR2int entry.1) entry.2

/-- `LmdbIdentityService::getNetworkIdentity` through the callback `onFindAddr`. -/
def lmdbGetNetworkIdentity (db : Database) (stale : DEVADDR → NetworkIdentity) (eui : DEVEUI) :
    Except ErrorCode NetworkIdentity :=
  match db.toList.find? fun entry =>
      (construct (stale (DEVADDR2int entry.1)) (DEVADDR2int entry.1) entry.2).devEUI=eui with
  | none => .error ⟨ERR_CODE_INVALID_DEVICE_EUI,by decide⟩
  | some entry => .ok (construct (stale (DEVADDR2int entry.1)) (DEVADDR2int entry.1) entry.2)

/-- What the memory of the objects holds in the three lookups that construct
them. -/
structure Memory where
  /-- Elements of the list over the store in memory. -/
  jsonList : DEVADDR → NetworkIdentity
  /-- Elements of the list over the database. -/
  lmdbList : DEVADDR → NetworkIdentity
  /-- Candidates of the search by device identifier over the database. -/
  lmdbFind : DEVADDR → NetworkIdentity

/-- An element of the list carries the address and the identity. -/
def Listed (list : List NetworkIdentity) (addr : DEVADDR) (id : DeviceId) : Prop :=
  ∃ element∈list,element.devaddr=addr ∧ element.toDeviceId=id

/-- All six lookups of a stored pair carry its identity. -/
structure LookupsCarry (s : JsonFileIdentityService) (db : Database) (memory : Memory) (addr : DEVADDR)
    (id : DeviceId) : Prop where
  /-- By address, in memory. -/
  jsonGet : IdentityStore.get s addr=.ok id
  /-- By device identifier, in memory. -/
  jsonFind : ∃ nid,getNetworkIdentity s id.devEUI=.ok nid ∧ nid.toDeviceId=id
  /-- In the list, in memory. -/
  jsonListed : Listed (jsonList s memory.jsonList 0 0) addr id
  /-- By address, over the database. -/
  lmdbGet : getAddr db addr=.ok id
  /-- By device identifier, over the database. -/
  lmdbFind : ∃ nid,lmdbGetNetworkIdentity db memory.lmdbFind id.devEUI=.ok nid ∧ nid.toDeviceId=id
  /-- In the list, over the database. -/
  lmdbListed : Listed (lmdbList db memory.lmdbList 0 0) addr id

/-- No other address has the device identifier. -/
def UniqueEUI (s : JsonFileIdentityService) (addr : DEVADDR) (id : DeviceId) : Prop :=
  ∀ other found,s.storage[other]?=some found → found.devEUI=id.devEUI → other=addr

/-- The list in memory without bounds has every entry. -/
theorem jsonRange_all {size c : ℕ} {entries : List (DEVADDR×DeviceId)} (h : c+entries.length≤ size) :
    jsonRange 0 size c entries=entries := by
  induction entries generalizing c with
  | nil => rfl
  | cons entry rest ih =>
    rw [List.length_cons] at h
    rw [jsonRange,if_neg (by omega),if_neg (by omega),ih (by omega)]

/-- The list over the database without bounds has every record. -/
theorem lmdbRange_all {size c : ℕ} {entries : List (UInt32×DeviceId)} (h : c+entries.length≤ size)
    (hsize : size<2^64) : lmdbRange 0 size c entries=entries := by
  induction entries generalizing c with
  | nil => rfl
  | cons entry rest ih =>
    rw [List.length_cons] at h
    rw [lmdbRange,if_neg (by omega),if_neg (by omega),ih (by omega)]

/-- A map over addresses has no more entries than there are addresses. -/
theorem toList_length_le_addresses {β : Type*} (map : Std.TreeMap UInt32 β) : map.toList.length≤2^32 := by
  have hsorted : map.toList.Pairwise fun first second => first.1<second.1 :=
    Std.TreeMap.ordered_keys_toList.imp fun h => Std.compare_eq_lt.mp h
  have hnodup : (map.toList.map fun entry => entry.1.toNat).Nodup := by
    rw [List.Nodup,List.pairwise_map]
    exact hsorted.imp fun h => Nat.ne_of_lt (UInt32.lt_iff_toNat_lt.mp h)
  have hsub : (map.toList.map fun entry => entry.1.toNat)⊆List.range (2^32) := by
    intro value hv
    obtain ⟨entry,-,rfl⟩ := List.mem_map.mp hv
    exact List.mem_range.mpr entry.1.toNat_lt
  have hle := (hnodup.subperm hsub).length_le
  rwa [List.length_map,List.length_range] at hle

/-- So it has fewer than `size_t` has values. -/
theorem toList_length_le {β : Type*} (map : Std.TreeMap UInt32 β) : map.toList.length≤SIZE_MAX :=
  (toList_length_le_addresses map).trans (by decide)

/-- The map in memory has as few. -/
theorem storage_length_le (s : JsonFileIdentityService) : s.storage.toList.length≤SIZE_MAX := toList_length_le s.storage

/-- The unbounded list in memory constructs one element for each entry. -/
theorem jsonList_all (s : JsonFileIdentityService) (stale : DEVADDR → NetworkIdentity) :
    jsonList s stale 0 0=s.storage.toList.map fun entry => construct (stale entry.1) entry.1 entry.2 := by
  have hl := storage_length_le s
  rw [jsonList,if_pos rfl,jsonRange_all (by omega)]

/-- The unbounded list over the database constructs one for each record. -/
theorem lmdbList_all (db : Database) (stale : DEVADDR → NetworkIdentity) :
    lmdbList db stale 0 0=
      db.toList.map fun entry => construct (stale (DEVADDR2int entry.1)) (DEVADDR2int entry.1) entry.2 := by
  have hl := toList_length_le db
  rw [lmdbList,if_pos rfl,lmdbRange_all (by omega) (by decide)]

/-- The pair as a record of the database. -/
theorem mem_records {s : JsonFileIdentityService} {db : Database} (h : SameContent s db) (key : UInt32)
    (id : DeviceId) : (key,id)∈db.toList ↔ s.storage[DEVADDR2int key]?=some id := by
  rw [Std.TreeMap.mem_toList_iff_getElem?_eq_some,←h (DEVADDR2int key),DEVADDR2int_DEVADDR2int]

/-- The element of the list in memory carries the identity exactly when its
memory holds the rest. -/
theorem jsonListed_iff {s : JsonFileIdentityService} {addr : DEVADDR} {id : DeviceId}
    (h : s.storage[addr]?=some id) (stale : DEVADDR → NetworkIdentity) :
    Listed (jsonList s stale 0 0) addr id ↔ HoldsRest (stale addr) id := by
  rw [jsonList_all,←construct_eq_iff (stale addr) addr id]
  constructor
  · rintro ⟨element,he,rfl,heq⟩
    obtain ⟨entry,hentry,rfl⟩ := List.mem_map.mp he
    have hs : s.storage[entry.1]?=some entry.2 := Std.TreeMap.mem_toList_iff_getElem?_eq_some.mp hentry
    change s.storage[entry.1]?=some id at h
    obtain rfl := Option.some.inj (hs.symm.trans h)
    exact heq
  · intro hc
    have hm : (addr,id)∈s.storage.toList := Std.TreeMap.mem_toList_iff_getElem?_eq_some.mpr h
    exact ⟨_,List.mem_map.mpr ⟨_,hm,rfl⟩,rfl,hc⟩

/-- So does the element of the list over the database. -/
theorem lmdbListed_iff {s : JsonFileIdentityService} {db : Database} (hsame : SameContent s db) {addr : DEVADDR}
    {id : DeviceId} (h : s.storage[addr]?=some id) (stale : DEVADDR → NetworkIdentity) :
    Listed (lmdbList db stale 0 0) addr id ↔ HoldsRest (stale addr) id := by
  rw [lmdbList_all,←construct_eq_iff (stale addr) addr id]
  constructor
  · rintro ⟨element,he,rfl,heq⟩
    obtain ⟨entry,hentry,rfl⟩ := List.mem_map.mp he
    have hs := (mem_records hsame entry.1 entry.2).mp hentry
    change s.storage[DEVADDR2int entry.1]?=some id at h
    obtain rfl := Option.some.inj (hs.symm.trans h)
    exact heq
  · intro hc
    have hm : (DEVADDR2int addr,id)∈db.toList := by
      rw [mem_records hsame,DEVADDR2int_DEVADDR2int]
      exact h
    refine ⟨_,List.mem_map.mpr ⟨_,hm,rfl⟩,DEVADDR2int_DEVADDR2int addr,?_⟩
    simp only [DEVADDR2int_DEVADDR2int]
    exact hc

/-- The search by device identifier in memory finds the pair and copies it. -/
theorem jsonFind_unique {s : JsonFileIdentityService} {addr : DEVADDR} {id : DeviceId}
    (h : s.storage[addr]?=some id) (hunique : UniqueEUI s addr id) :
    getNetworkIdentity s id.devEUI=.ok ⟨id,addr⟩ := by
  have hm : (addr,id)∈s.storage.toList := Std.TreeMap.mem_toList_iff_getElem?_eq_some.mpr h
  unfold getNetworkIdentity
  cases hf : s.storage.toList.find? (fun entry => decide (entry.2.devEUI=id.devEUI)) with
  | none =>
    have hnone := List.find?_eq_none.mp hf (addr,id) hm
    exact absurd (decide_eq_true rfl) hnone
  | some entry =>
    have hs : s.storage[entry.1]?=some entry.2 :=
      Std.TreeMap.mem_toList_iff_getElem?_eq_some.mp (List.mem_of_find?_eq_some hf)
    have heui := List.find?_some hf
    obtain rfl := hunique entry.1 entry.2 hs (of_decide_eq_true heui)
    obtain rfl := Option.some.inj (hs.symm.trans h)
    rfl

/-- The search over the database finds the pair and constructs it. -/
theorem lmdbFind_unique {s : JsonFileIdentityService} {db : Database} (hsame : SameContent s db) {addr : DEVADDR}
    {id : DeviceId} (h : s.storage[addr]?=some id) (hunique : UniqueEUI s addr id)
    (stale : DEVADDR → NetworkIdentity) :
    lmdbGetNetworkIdentity db stale id.devEUI=.ok (construct (stale addr) addr id) := by
  have hm : (DEVADDR2int addr,id)∈db.toList := by
    rw [mem_records hsame,DEVADDR2int_DEVADDR2int]
    exact h
  unfold lmdbGetNetworkIdentity
  cases hf : db.toList.find? (fun entry =>
      decide ((construct (stale (DEVADDR2int entry.1)) (DEVADDR2int entry.1) entry.2).devEUI=id.devEUI)) with
  | none =>
    have hnone := List.find?_eq_none.mp hf _ hm
    exact absurd (decide_eq_true rfl) hnone
  | some entry =>
    have hs := (mem_records hsame entry.1 entry.2).mp (List.mem_of_find?_eq_some hf)
    have heui := List.find?_some hf
    have haddr : DEVADDR2int entry.1=addr := hunique _ entry.2 hs (of_decide_eq_true heui)
    rw [haddr] at hs
    obtain rfl := Option.some.inj (hs.symm.trans h)
    change Except.ok (construct (stale (DEVADDR2int entry.1)) (DEVADDR2int entry.1) entry.2)=_
    rw [haddr]

/-- The lookup by address over the database gives the pair exactly when its
identity is the first one. -/
theorem lmdbGet_iff {s : JsonFileIdentityService} {db : Database} (hsame : SameContent s db) {addr : DEVADDR}
    {id : DeviceId} (h : s.storage[addr]?=some id) :
    getAddr db addr=.ok id ↔ ∃ first,FirstStored s first id := by
  have ho : getAddr db addr=.ok id ↔ (getAddr db addr).toOption=some id := by
    cases getAddr db addr with
    | error code => simp only [Except.toOption,reduceCtorEq]
    | ok found => simp only [Except.toOption,Except.ok.injEq,Option.some.injEq]
  rw [ho,getAddr_toOption]
  rcases head_cases hsame with ⟨-,hnothing⟩|⟨first,found,hhead,hfirst⟩
  · have hmem : addr∈s.storage := Std.TreeMap.mem_iff_isSome_getElem?.mpr (Option.isSome_of_eq_some h)
    exact absurd hmem (hnothing addr)
  · rw [hhead]
    simp only [Option.map_some,Option.some.injEq]
    constructor
    · rintro rfl
      exact ⟨first,hfirst⟩
    · rintro ⟨other,hother⟩
      exact hfirst.unique hother

/-- All lookups of a stored pair with a unique device identifier carry its
identity exactly when the memory of every constructed object already holds the
members that the constructor leaves out, and the identity equals that of the
first record of the database. -/
theorem lookupsCarry_iff {s : JsonFileIdentityService} {db : Database} (hsame : SameContent s db) {addr : DEVADDR}
    {id : DeviceId} (hstored : s.storage[addr]?=some id) (hunique : UniqueEUI s addr id) (memory : Memory) :
    LookupsCarry s db memory addr id ↔ HoldsRest (memory.jsonList addr) id ∧
      HoldsRest (memory.lmdbList addr) id ∧ HoldsRest (memory.lmdbFind addr) id ∧
      ∃ first,FirstStored s first id := by
  have hfind := lmdbFind_unique hsame hstored hunique memory.lmdbFind
  constructor
  · intro h
    refine ⟨(jsonListed_iff hstored _).mp h.jsonListed,(lmdbListed_iff hsame hstored _).mp h.lmdbListed,?_,
      (lmdbGet_iff hsame hstored).mp h.lmdbGet⟩
    obtain ⟨nid,hn,he⟩ := h.lmdbFind
    rw [hfind] at hn
    obtain rfl := Except.ok.inj hn
    exact (construct_eq_iff _ _ _).mp he
  · rintro ⟨hjson,hlist,hfound,hfirst⟩
    constructor
    · exact (get_ok_iff _ _ _).mpr hstored
    · exact ⟨_,jsonFind_unique hstored hunique,rfl⟩
    · exact (jsonListed_iff hstored _).mpr hjson
    · exact (lmdbGet_iff hsame hstored).mpr hfirst
    · exact ⟨_,hfind,(construct_eq_iff _ _ _).mpr hfound⟩
    · exact (lmdbListed_iff hsame hstored _).mpr hlist

/-- A device that joins over the air, at address 1. -/
def oneDevice : List RecordCall := [.put 1 {DeviceId.empty with activation := .otaa,devNonce := 9}]

/-- Its identity is carried when all memory happens to hold it. -/
theorem lookupsCarry_oneDevice : LookupsCarry (StepRun.run applyJson .fresh oneDevice)
    (StepRun.run applyLmdb ∅ oneDevice)
    ⟨fun _ => ⟨{DeviceId.empty with devNonce := 9},0⟩,fun _ => ⟨{DeviceId.empty with devNonce := 9},0⟩,
      fun _ => ⟨{DeviceId.empty with devNonce := 9},0⟩⟩ 1 {DeviceId.empty with activation := .otaa,devNonce := 9} := by
  have hs : (StepRun.run applyJson .fresh oneDevice).storage[(1 : DEVADDR)]?=
      some {DeviceId.empty with activation := .otaa,devNonce := 9} := by decide +kernel
  have honly : ∀ other,other∈(StepRun.run applyJson .fresh oneDevice).storage → other=1 := by
    intro other ho
    change other∈(∅ : Std.TreeMap DEVADDR DeviceId).insert 1 _ at ho
    rw [Std.TreeMap.mem_insert,Std.compare_eq_iff_eq] at ho
    rcases ho with rfl|hempty
    · rfl
    · exact absurd hempty Std.TreeMap.not_mem_emptyc
  refine (lookupsCarry_iff (run_sameContent oneDevice) hs ?_ _).mpr ⟨?_,?_,?_,1,hs,?_⟩
  · intro other found hf _
    exact honly other (Std.TreeMap.mem_iff_isSome_getElem?.mpr (Option.isSome_of_eq_some hf))
  · constructor <;> rfl
  · constructor <;> rfl
  · constructor <;> rfl
  · intro other ho
    rw [honly other ho]
    exact UInt32.le_refl _

/-- The list does not carry it when the memory holds zeros. -/
theorem list_loses_nonce : ¬ LookupsCarry (StepRun.run applyJson .fresh oneDevice)
    (StepRun.run applyLmdb ∅ oneDevice) ⟨fun _ => ⟨DeviceId.empty,0⟩,fun _ => ⟨DeviceId.empty,0⟩,
      fun _ => ⟨DeviceId.empty,0⟩⟩ 1 {DeviceId.empty with activation := .otaa,devNonce := 9} := by
  intro h
  have hs : (StepRun.run applyJson .fresh oneDevice).storage[(1 : DEVADDR)]?=
      some {DeviceId.empty with activation := .otaa,devNonce := 9} := by decide +kernel
  have hrest := (jsonListed_iff hs _).mp h.jsonListed
  exact absurd hrest.devNonce (by decide)

end LorawanServer.IdentityLookups
