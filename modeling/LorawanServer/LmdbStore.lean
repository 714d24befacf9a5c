import LorawanServer.AddressAllocation

/-!
# Identities in LMDB against identities in memory

`LmdbIdentityService` over a database that is a finite map with a cursor in
the order of its keys and whose calls do not fail. Keys are four bytes that the
database compares from the first byte on; the records are therefore held by the
number that reads these bytes with the first one on top. The same calls of
`put` and `rm` leave the same content in both stores. A lookup by address
positions its cursor at the first record of the whole database and never
compares the key it finds there.
-/

namespace LorawanServer.LmdbStore

open CppRuntime Records DeviceAddress FreeSearch StepRun IdentityStore

/-- No record at the cursor. -/
abbrev MDB_NOTFOUND : ℤ := -30798
/-- No identity is stored for the device identifier. -/
abbrev ERR_CODE_INVALID_DEVICE_EUI : ℤ := -507

/-- `DEVADDR2int`: the four bytes with the first one on top. -/
def DEVADDR2int (value : DEVADDR) : UInt32 := UInt32.ofNat (swapBytes 4 value.toNat)

/-- Turning the bytes around twice changes nothing. -/
theorem DEVADDR2int_DEVADDR2int (value : DEVADDR) : DEVADDR2int (DEVADDR2int value)=value := by
  have hs : (UInt32.ofNat (swapBytes 4 value.toNat)).toNat=swapBytes 4 value.toNat :=
    UInt32.toNat_ofNat_of_lt' (swapBytes_lt 4 value.toNat)
  rw [DEVADDR2int,DEVADDR2int,hs,swapBytes_swapBytes value.toNat_lt,UInt32.ofNat_toNat]

/-- Different addresses have different numbers. -/
theorem DEVADDR2int_inj {first second : DEVADDR} : DEVADDR2int first=DEVADDR2int second ↔ first=second := by
  constructor
  · intro h
    rw [←DEVADDR2int_DEVADDR2int first,h,DEVADDR2int_DEVADDR2int]
  · exact congrArg DEVADDR2int

/-- Records by the number of their key. -/
abbrev Database := Std.TreeMap UInt32 DeviceId

/-- Records from the first key on that is not below the given one, as the
cursor visits them after `MDB_SET_RANGE`. -/
def setRange (db : Database) (key : UInt32) : List (UInt32×DeviceId) :=
  db.toList.dropWhile fun entry => entry.1<key

/-- `putAddr`. -/
def putAddr (db : Database) (addr : DEVADDR) (deviceid : DeviceId) : Database := db.insert (DEVADDR2int addr) deviceid

/-- `getAddr`: its key is four zero bytes whatever the address is. -/
def getAddr (db : Database) (_addr : DEVADDR) : Except ErrorCode DeviceId :=
  match setRange db 0 with
  | [] => .error ⟨MDB_NOTFOUND,by decide⟩
  | entry::_ => .ok entry.2

/-- The loop of `rmAddr` over the records at its cursor. -/
def rmLoop (key : UInt32) : List (UInt32×DeviceId) → Database → Database
  | [],db => db
  | entry::rest,db => if entry.1≠key then db else rmLoop key rest (db.erase entry.1)

/-- `rmAddr`. -/
def rmAddr (db : Database) (addr : DEVADDR) : Database :=
  rmLoop (DEVADDR2int addr) (setRange db (DEVADDR2int addr)) db

/-- `getMaxAddrInt`. -/
def getMaxAddrInt (db : Database) : UInt32 :=
  db.toList.foldl (fun m entry => if m<entry.1 then entry.1 else m) 0

/-- `getMaxDevNwkAddr`: the greatest number is stored as it is, without turning
its bytes back, and its network part is returned. -/
def getMaxDevNwkAddr (db : Database) : UInt32 := getNwkId (getMaxAddrInt db)

/-- The search of `LmdbIdentityService::nextBruteForce`, with the identity
afterwards and the code. A lookup that fails leaves an uncleared identity, which
is returned with the address. -/
def nextBruteForce (netid : NETID) (db : Database) (stale : DEVADDR) (staleId : DeviceId)
    (retval : NetworkIdentity) : Option (NetworkIdentity×ℤ) :=
  match search (fun devaddr => (getAddr db devaddr).toBool) nextOf (2^32) (ofNetIdBound stale netid false) with
  | none => none
  | some (.error _) => some (retval,ERR_CODE_ADDR_SPACE_FULL)
  | some (.ok devaddr) => some (⟨staleId,devaddr⟩,LORA_OK)

/-- The first attempt of `LmdbIdentityService::next`. -/
def nextCandidate (netid : NETID) (db : Database) (stale : DEVADDR) : DEVADDR×ℤ :=
  increment (ofNetId stale netid (getMaxDevNwkAddr db))

/-- `LmdbIdentityService::next`: it goes on when the lookup does not find the
address. -/
def next (netid : NETID) (db : Database) (stale : DEVADDR) (staleId : DeviceId) (retval : NetworkIdentity) :
    Option (NetworkIdentity×ℤ) :=
  let (nextAddr,r) := nextCandidate netid db stale
  if r≠0 then nextBruteForce netid db stale staleId retval
  else match getAddr db nextAddr with
    | .error _ => nextBruteForce netid db stale staleId retval
    | .ok _ => some ({retval with devaddr := nextAddr},0)

/-- Both stores hold the same identities. -/
def SameContent (s : JsonFileIdentityService) (db : Database) : Prop :=
  ∀ devaddr,db[DEVADDR2int devaddr]?=s.storage[devaddr]?

/-- The records are in the order of their numbers. -/
theorem toList_sorted (db : Database) : db.toList.Pairwise fun first second => first.1<second.1 :=
  Std.TreeMap.ordered_keys_toList.imp fun h => Std.compare_eq_lt.mp h

/-- Nothing is removed when no record has the key. -/
theorem rmLoop_absent {key : UInt32} {records : List (UInt32×DeviceId)} (h : ∀ entry∈records,entry.1≠key)
    (db : Database) : rmLoop key records db=db := by
  cases records with
  | nil => rfl
  | cons entry rest => rw [rmLoop,if_pos (h entry List.mem_cons_self)]

/-- `rmAddr` removes the record of its address and no other. -/
theorem rmAddr_getElem? (db : Database) (addr : DEVADDR) (key : UInt32) :
    (rmAddr db addr)[key]?=if DEVADDR2int addr=key then none else db[key]? := by
  rw [rmAddr,setRange]
  generalize DEVADDR2int addr=target
  have hsorted := toList_sorted db
  by_cases hm : ∃ entry∈db.toList,entry.1=target
  · obtain ⟨entry,hentry,rfl⟩ := hm
    obtain ⟨before,after,hsplit⟩ := List.append_of_mem hentry
    rw [hsplit] at hsorted ⊢
    obtain ⟨-,htail,hacross⟩ := List.pairwise_append.mp hsorted
    have hbelow : ∀ first∈before,decide (first.1<entry.1)=true := fun first hf =>
      decide_eq_true (hacross first hf entry List.mem_cons_self)
    have habove : ∀ second∈after,second.1≠entry.1 := fun second hs =>
      (UInt32.ne_of_lt ((List.pairwise_cons.mp htail).1 second hs)).symm
    have hdrop : ((before++entry::after).dropWhile fun other => other.1<entry.1)=entry::after := by
      rw [List.dropWhile_append_of_pos hbelow,List.dropWhile_cons]
      simp only [UInt32.lt_irrefl,decide_false,Bool.false_eq_true,if_false]
    rw [hdrop,rmLoop,if_neg (fun h => h rfl),rmLoop_absent habove,Std.TreeMap.getElem?_erase]
    simp only [Std.compare_eq_iff_eq]
  · have habsent : ∀ entry∈db.toList.dropWhile (fun entry => entry.1<target),entry.1≠target := by
      intro entry he heq
      exact hm ⟨entry,(List.dropWhile_sublist _).subset he,heq⟩
    rw [rmLoop_absent habsent]
    split_ifs with hk
    · rw [←hk]
      apply Std.TreeMap.getElem?_eq_none
      intro hmem
      obtain ⟨value,hv⟩ := Option.isSome_iff_exists.mp (Std.TreeMap.mem_iff_isSome_getElem?.mp hmem)
      exact hm ⟨(target,value),Std.TreeMap.mem_toList_iff_getElem?_eq_some.mpr hv,rfl⟩
    · rfl

/-- Calls on either store. -/
inductive RecordCall where
  /-- Store an identity under an address. -/
  | put (devaddr : DEVADDR) (id : DeviceId)
  /-- Remove the identity of an address. -/
  | rm (addr : DEVADDR)

/-- The identities in memory after one call. -/
def applyJson (s : JsonFileIdentityService) : RecordCall → JsonFileIdentityService
  | .put devaddr id => put s devaddr id
  | .rm addr => rm s addr

/-- The database after one call. -/
def applyLmdb (db : Database) : RecordCall → Database
  | .put devaddr id => putAddr db devaddr id
  | .rm addr => rmAddr db addr

/-- Each call keeps both stores on the same content. -/
theorem applyBoth_sameContent {s : JsonFileIdentityService} {db : Database} (h : SameContent s db)
    (call : RecordCall) : SameContent (applyJson s call) (applyLmdb db call) := by
  intro devaddr
  cases call with
  | put written id =>
    change (db.insert (DEVADDR2int written) id)[DEVADDR2int devaddr]?=(s.storage.insert written id)[devaddr]?
    rw [Std.TreeMap.getElem?_insert,Std.TreeMap.getElem?_insert]
    simp only [Std.compare_eq_iff_eq,DEVADDR2int_inj,h devaddr]
  | rm addr =>
    change (rmAddr db addr)[DEVADDR2int devaddr]?=(s.storage.erase addr)[devaddr]?
    rw [rmAddr_getElem?,Std.TreeMap.getElem?_erase]
    simp only [Std.compare_eq_iff_eq,DEVADDR2int_inj,h devaddr]

/-- The same calls leave the same content. -/
theorem run_sameContent (calls : List RecordCall) :
    SameContent (run applyJson .fresh calls) (run applyLmdb ∅ calls) := by
  have hgen : ∀ (calls : List RecordCall) (s : JsonFileIdentityService) (db : Database),SameContent s db →
      SameContent (run applyJson s calls) (run applyLmdb db calls) := by
    intro calls
    induction calls with
    | nil => exact fun _ _ h => h
    | cons call calls ih => exact fun s db h => ih _ _ (applyBoth_sameContent h call)
  exact hgen calls _ _ fun _ => rfl

/-- No record is below the key of zeros. -/
theorem setRange_zero (db : Database) : setRange db 0=db.toList := by
  rw [setRange]
  cases db.toList with
  | nil => rfl
  | cons entry rest =>
    have hz : ¬ entry.1<0 := UInt32.not_lt_zero
    rw [List.dropWhile_cons]
    simp only [hz,decide_false,Bool.false_eq_true,if_false]

/-- A lookup by address gives the first record of the database. -/
theorem getAddr_toOption (db : Database) (addr : DEVADDR) :
    (getAddr db addr).toOption=db.toList.head?.map fun entry => entry.2 := by
  rw [getAddr,setRange_zero]
  cases db.toList with
  | nil => rfl
  | cons entry rest => rfl

/-- Nothing is stored. -/
def NothingStored (s : JsonFileIdentityService) : Prop := ∀ devaddr,devaddr∉s.storage

/-- The address is stored and no stored address has a smaller number. -/
def FirstStored (s : JsonFileIdentityService) (first : DEVADDR) (id : DeviceId) : Prop :=
  s.storage[first]?=some id ∧ ∀ other∈s.storage,DEVADDR2int first≤DEVADDR2int other

/-- The first record of the database, in terms of the identities in memory. -/
theorem head_cases {s : JsonFileIdentityService} {db : Database} (h : SameContent s db) :
    (db.toList.head?=none ∧ NothingStored s) ∨
      (∃ first id,db.toList.head?=some (DEVADDR2int first,id) ∧ FirstStored s first id) := by
  have hmem : ∀ devaddr id,s.storage[devaddr]?=some id ↔ (DEVADDR2int devaddr,id)∈db.toList := by
    intro devaddr id
    rw [Std.TreeMap.mem_toList_iff_getElem?_eq_some,h devaddr]
  have hsorted := toList_sorted db
  cases hl : db.toList with
  | nil =>
    left
    refine ⟨rfl,fun devaddr hd => ?_⟩
    obtain ⟨id,hid⟩ := Option.isSome_iff_exists.mp (Std.TreeMap.mem_iff_isSome_getElem?.mp hd)
    have hin := (hmem devaddr id).mp hid
    rw [hl] at hin
    exact absurd hin List.not_mem_nil
  | cons entry rest =>
    right
    refine ⟨DEVADDR2int entry.1,entry.2,?_,?_,?_⟩
    · rw [DEVADDR2int_DEVADDR2int]
      rfl
    · rw [hmem,DEVADDR2int_DEVADDR2int,hl]
      exact List.mem_cons_self
    · intro other hother
      obtain ⟨id,hid⟩ := Option.isSome_iff_exists.mp (Std.TreeMap.mem_iff_isSome_getElem?.mp hother)
      have hin := (hmem other id).mp hid
      rw [hl] at hin hsorted
      rw [DEVADDR2int_DEVADDR2int]
      rcases List.mem_cons.mp hin with he|hrest
      · rw [←he]
        exact UInt32.le_refl _
      · exact UInt32.le_of_lt ((List.pairwise_cons.mp hsorted).1 _ hrest)

/-- Only one identity is stored under the smallest number. -/
theorem FirstStored.unique {s : JsonFileIdentityService} {first second : DEVADDR} {id other : DeviceId}
    (hf : FirstStored s first id) (hs : FirstStored s second other) : id=other := by
  have hmem : ∀ {devaddr : DEVADDR} {found : DeviceId},s.storage[devaddr]?=some found → devaddr∈s.storage :=
    fun h => Std.TreeMap.mem_iff_isSome_getElem?.mpr (Option.isSome_of_eq_some h)
  have he : first=second :=
    DEVADDR2int_inj.mp (UInt32.le_antisymm (hf.2 second (hmem hs.1)) (hs.2 first (hmem hf.1)))
  rw [he] at hf
  exact Option.some.inj (hf.1.symm.trans hs.1)

/-- Both lookups by address give the same. -/
def LookupsAgree (s : JsonFileIdentityService) (db : Database) (addr : DEVADDR) : Prop :=
  (getAddr db addr).toOption=(IdentityStore.get s addr).toOption

/-- Over the same content the lookups agree when nothing is stored, and else
only for identities equal to the first one. -/
theorem lookupsAgree_iff {s : JsonFileIdentityService} {db : Database} (h : SameContent s db) (addr : DEVADDR) :
    LookupsAgree s db addr ↔ NothingStored s ∨
      ∃ first id,FirstStored s first id ∧ s.storage[addr]?=some id := by
  have hget : (IdentityStore.get s addr).toOption=s.storage[addr]? := by
    unfold IdentityStore.get
    cases s.storage[addr]? <;> rfl
  rw [LookupsAgree,getAddr_toOption,hget]
  rcases head_cases h with ⟨hhead,hnothing⟩|⟨first,id,hhead,hfirst⟩
  · rw [hhead,Std.TreeMap.getElem?_eq_none (hnothing addr)]
    simp only [Option.map_none,hnothing,true_or]
  · rw [hhead]
    simp only [Option.map_some]
    constructor
    · intro he
      exact .inr ⟨first,id,hfirst,he.symm⟩
    · rintro (hnothing|⟨other,found,hother,he⟩)
      · have hm : first∈s.storage :=
          Std.TreeMap.mem_iff_isSome_getElem?.mpr (Option.isSome_of_eq_some hfirst.1)
        exact absurd hm (hnothing first)
      · rw [he,hfirst.unique hother]

/-- The allocation gives a free address of the network or reports a full one. -/
def FreeOrFull (netid : NETID) (s : JsonFileIdentityService) (outcome : Option (NetworkIdentity×ℤ)) : Prop :=
  ∃ result code,outcome=some (result,code) ∧
    ((code=0 ∧ InRange netid result.devaddr ∧ result.devaddr∉s.storage) ∨ code=ERR_CODE_ADDR_SPACE_FULL)

/-- Whether a lookup by address succeeds does not depend on the address. -/
theorem getAddr_toBool {s : JsonFileIdentityService} {db : Database} (h : SameContent s db) :
    (NothingStored s ∧ ∀ addr,(getAddr db addr).toBool=false) ∨
      (¬ NothingStored s ∧ ∀ addr,(getAddr db addr).toBool=true) := by
  have hbool : ∀ addr,(getAddr db addr).toBool=(getAddr db addr).toOption.isSome := by
    intro addr
    cases getAddr db addr <;> rfl
  simp only [hbool,getAddr_toOption]
  rcases head_cases h with ⟨hhead,hnothing⟩|⟨first,id,hhead,hfirst⟩
  · left
    rw [hhead]
    exact ⟨hnothing,fun _ => rfl⟩
  · right
    rw [hhead]
    refine ⟨fun hn => hn first ?_,fun _ => rfl⟩
    exact Std.TreeMap.mem_iff_isSome_getElem?.mpr (Option.isSome_of_eq_some hfirst.1)

/-- The walk of a database without records ends at the first address, and that
of a database with records at the last one. -/
theorem nextBruteForce_cases {s : JsonFileIdentityService} {db : Database} (h : SameContent s db) (netid : NETID)
    (stale : DEVADDR) (staleId : DeviceId) (retval : NetworkIdentity) :
    FreeOrFull netid s (nextBruteForce netid db stale staleId retval) := by
  have hfit := first_add_size_le netid
  have hs := search_block (networkBlock netid) (fun devaddr => (getAddr db devaddr).toBool)
    (size_pos netid) (show size netid-0≤2^32 by omega)
  have he : ∀ i,(networkBlock netid).element i=address netid i := fun _ => rfl
  rw [nextBruteForce,ofNetIdBound_min]
  simp only [he] at hs
  rcases hs with ⟨found,-,hlt,hsearch,hfree,-⟩|⟨hsearch,-⟩
  · rw [hsearch]
    refine ⟨_,_,rfl,.inl ⟨rfl,(inRange_iff _ _).mpr ⟨found,hlt,rfl⟩,?_⟩⟩
    rcases getAddr_toBool h with ⟨hnothing,-⟩|⟨-,hall⟩
    · exact hnothing _
    · rw [hall] at hfree
      cases hfree
  · rw [hsearch]
    exact ⟨_,_,rfl,.inr rfl⟩

/-- Over the same content the allocation is right when nothing is stored, when
the first attempt leaves the network, and when it happens to be free. -/
theorem freeOrFull_iff {s : JsonFileIdentityService} {db : Database} (h : SameContent s db) (netid : NETID)
    (stale : DEVADDR) (staleId : DeviceId) (retval : NetworkIdentity) :
    FreeOrFull netid s (next netid db stale staleId retval) ↔ NothingStored s ∨
      (nextCandidate netid db stale).2≠0 ∨ (nextCandidate netid db stale).1∉s.storage := by
  have hwalk := nextBruteForce_cases h netid stale staleId retval
  unfold next
  by_cases hr : (nextCandidate netid db stale).2=0
  · simp only [hr,ne_eq,not_true_eq_false,if_false,false_or]
    rcases getAddr_toBool h with ⟨hnothing,hnone⟩|⟨hsome,hall⟩
    · have hn := hnone (nextCandidate netid db stale).1
      cases hg : getAddr db (nextCandidate netid db stale).1 with
      | ok id =>
        rw [hg] at hn
        cases hn
      | error code => simp only [hwalk,hnothing,true_or]
    · have ha := hall (nextCandidate netid db stale).1
      cases hg : getAddr db (nextCandidate netid db stale).1 with
      | error code =>
        rw [hg] at ha
        cases ha
      | ok id =>
        simp only [hsome,false_or]
        obtain ⟨found,hlt,hcand⟩ := increment_ofNetId_address hr
        constructor
        · rintro ⟨result,code,he,hcase⟩
          obtain ⟨rfl,rfl⟩ := Prod.mk.inj (Option.some.inj he)
          rcases hcase with ⟨-,-,hfree⟩|hcode
          · exact hfree
          · exact absurd hcode (by decide)
        · intro hfree
          refine ⟨_,_,rfl,.inl ⟨rfl,?_,hfree⟩⟩
          exact (inRange_iff _ _).mpr ⟨found+1,hlt,hcand⟩
  · simp only [hr,ne_eq,not_false_eq_true,if_true,true_or,or_true,hwalk]

/-- Two devices at addresses 1 and 2. -/
def twoDevices : List RecordCall :=
  [.put 1 DeviceId.empty,.put 2 {DeviceId.empty with devEUI := 5}]

end LorawanServer.LmdbStore
