import LorawanServer.PacketHandler
import LorawanServer.StepRun

/-!
# The queue of received payloads

`ReceiverQueueService` and `JsonFileReceiverQueueService` without its file. The
queue is a map ordered by receive time and number; `push` drops a packet whose
frame counter is the one remembered for its device, and remembers a counter only
for a device that is not yet known.
-/

namespace LorawanServer.ReceiverQueue

open CppRuntime Records PacketHandler StepRun

/-- Number of packets between two clearings of the memory. -/
abbrev CLEAR_COUNT : ℤ := 2048

/-- There is no entry. -/
abbrev ERR_CODE_QUEUE_EMPTY : ℤ := -566
/-- The entry does not name the database. -/
abbrev ERR_CODE_NO_DATABASE : ℤ := -549

/-- The class `ReceiverQueueKey`. -/
structure ReceiverQueueKey where
  /-- Receive time. -/
  time : Timeval
  /-- Number, in case of two packets at one time. -/
  id : ℤ
  deriving DecidableEq

/-- `ReceiverQueueKeyCompare`. -/
def ReceiverQueueKeyCompare (l r : ReceiverQueueKey) : Bool :=
  if l.time.tvSec<r.time.tvSec then true
  else if l.time.tvSec>r.time.tvSec then false
  else if l.time.tvUsec<r.time.tvUsec then true
  else if l.time.tvUsec>r.time.tvUsec then false
  else l.id<r.id

/-- The order of a map with this comparison. -/
instance : Ord ReceiverQueueKey where
  compare l r := if ReceiverQueueKeyCompare l r then .lt else if ReceiverQueueKeyCompare r l then .gt else .eq

/-- The comparison is the one of seconds, microseconds and numbers in this
order. -/
theorem compare_iff (l r : ReceiverQueueKey) : ReceiverQueueKeyCompare l r=true ↔
    l.time.tvSec<r.time.tvSec ∨ l.time.tvSec=r.time.tvSec ∧ (l.time.tvUsec<r.time.tvUsec ∨
      l.time.tvUsec=r.time.tvUsec ∧ l.id<r.id) := by
  unfold ReceiverQueueKeyCompare
  split
  · simp only [true_iff]
    omega
  · split
    · simp only [Bool.false_eq_true,false_iff]
      omega
    · split
      · simp only [true_iff]
        omega
      · split
        · simp only [Bool.false_eq_true,false_iff]
          omega
        · rw [decide_eq_true_iff]
          omega

/-- Two keys without an order are the same. -/
theorem eq_of_not_compare {l r : ReceiverQueueKey} (hl : ReceiverQueueKeyCompare l r≠true)
    (hr : ReceiverQueueKeyCompare r l≠true) : l=r := by
  obtain ⟨⟨ls,lu⟩,li⟩ := l
  obtain ⟨⟨rs,ru⟩,ri⟩ := r
  rw [ne_eq,compare_iff] at hl hr
  simp only [ReceiverQueueKey.mk.injEq,Timeval.mk.injEq]
  dsimp only at hl hr
  omega

/-- The comparison is not symmetric. -/
theorem compare_asymm {l r : ReceiverQueueKey} (h : ReceiverQueueKeyCompare l r=true) :
    ReceiverQueueKeyCompare r l≠true := by
  rw [compare_iff] at h
  rw [ne_eq,compare_iff]
  omega

/-- A key that is not before another one and not behind a third one. -/
theorem not_compare_trans {a b c : ReceiverQueueKey} (hb : ReceiverQueueKeyCompare b a≠true)
    (hc : ReceiverQueueKeyCompare c b≠true) : ReceiverQueueKeyCompare c a≠true := by
  rw [ne_eq,compare_iff] at hb hc ⊢
  omega

/-- The first of two keys comes before the second one. -/
theorem compare_eq_lt {l r : ReceiverQueueKey} : compare l r=.lt ↔ ReceiverQueueKeyCompare l r=true := by
  change (if ReceiverQueueKeyCompare l r then Ordering.lt else if ReceiverQueueKeyCompare r l then .gt else .eq)=.lt ↔ _
  split
  · next h => exact iff_of_true rfl h
  · next h =>
    refine iff_of_false ?_ h
    split <;> decide

/-- The second of two keys comes before the first one. -/
theorem compare_eq_gt {l r : ReceiverQueueKey} : compare l r=.gt ↔ ReceiverQueueKeyCompare r l=true := by
  change (if ReceiverQueueKeyCompare l r then Ordering.lt else if ReceiverQueueKeyCompare r l then .gt else .eq)=.gt ↔ _
  split
  · next h => exact iff_of_false (by decide) (compare_asymm h)
  · split
    · next h => exact iff_of_true rfl h
    · next h => exact iff_of_false (by decide) h

/-- The first of two keys does not come behind the second one. -/
theorem compare_isLE {l r : ReceiverQueueKey} : (compare l r).isLE=true ↔ ReceiverQueueKeyCompare r l≠true := by
  rw [ne_eq,← compare_eq_gt]
  cases compare l r <;> decide

instance : Std.TransOrd ReceiverQueueKey where
  eq_swap := by
    intro l r
    cases h : compare r l with
    | lt => exact compare_eq_gt.mpr (compare_eq_lt.mp h)
    | gt => exact compare_eq_lt.mpr (compare_eq_gt.mp h)
    | eq =>
      have hl : ¬ReceiverQueueKeyCompare l r=true := fun hc => by
        rw [compare_eq_gt.mpr hc] at h
        cases h
      have hr : ¬ReceiverQueueKeyCompare r l=true := fun hc => by
        rw [compare_eq_lt.mpr hc] at h
        cases h
      rw [eq_of_not_compare hl hr] at h ⊢
      exact h
  isLE_trans := by
    intro a b c hab hbc
    rw [compare_isLE] at hab hbc ⊢
    exact not_compare_trans hab hbc

instance : Std.LawfulEqOrd ReceiverQueueKey where
  eq_of_compare := by
    intro l r h
    refine eq_of_not_compare (fun hc => ?_) fun hc => ?_
    · rw [compare_eq_lt.mpr hc] at h
      cases h
    · rw [compare_eq_gt.mpr hc] at h
      cases h

/-- The class `ReceiverQueueValue`. -/
structure ReceiverQueueValue where
  /-- Address of the device. -/
  addr : DEVADDR
  /-- The device. -/
  deviceId : DeviceId
  /-- What was received. -/
  payload : Bytes
  /-- Port of the frame. -/
  fport : UInt8
  /-- Databases that are still to get the payload. -/
  dbids : List ℤ
  deriving DecidableEq

/-- What is under a key behind an insertion. -/
theorem getElem?_insert (storage : Std.TreeMap ReceiverQueueKey ReceiverQueueValue) (key other : ReceiverQueueKey)
    (value : ReceiverQueueValue) :
    (storage.insert key value)[other]?=if key=other then some value else storage[other]? := by
  simp only [Std.TreeMap.getElem?_insert,Std.compare_eq_iff_eq]

/-- What is under a key behind an erasure. -/
theorem getElem?_erase (storage : Std.TreeMap ReceiverQueueKey ReceiverQueueValue) (key other : ReceiverQueueKey) :
    (storage.erase key)[other]?=if key=other then none else storage[other]? := by
  simp only [Std.TreeMap.getElem?_erase,Std.compare_eq_iff_eq]

/-- The class `ReceiverQueueEntry`. -/
structure ReceiverQueueEntry where
  /-- Time and number. -/
  key : ReceiverQueueKey
  /-- Payload and databases. -/
  value : ReceiverQueueValue
  deriving DecidableEq

/-- `clear`: key, payload and databases. -/
def ReceiverQueueEntry.clear (entry : ReceiverQueueEntry) : ReceiverQueueEntry :=
  ⟨⟨⟨0,0⟩,0⟩,{entry.value with payload := [],dbids := []}⟩

/-- `FCNT_TIME`. -/
structure FcntTime where
  /-- Frame counter. -/
  fcnt : UInt16
  /-- Receive time. -/
  time : ℤ
  deriving DecidableEq

/-- The class `JsonFileReceiverQueueService` without its file. The number is
not bounded; its overflow is outside the model. -/
structure JsonFileReceiverQueueService where
  /-- Last number given. -/
  cnt : ℤ
  /-- Databases of new entries. -/
  dbs : List ℤ
  /-- Counters by the addresses of their devices. -/
  fcnts : Std.TreeMap DEVADDR FcntTime
  /-- The queue. -/
  storage : Std.TreeMap ReceiverQueueKey ReceiverQueueValue

/-- The constructor, behind `setDbs`. -/
def JsonFileReceiverQueueService.fresh (dbs : List ℤ) : JsonFileReceiverQueueService := ⟨0,dbs,∅,∅⟩

/-- `popDbId`: the first mention of the database is erased; the code is the
number of databases left. -/
def ReceiverQueueValue.popDbId (v : ReceiverQueueValue) (dbId : ℤ) : ReceiverQueueValue×ℤ :=
  if dbId∈v.dbids then ({v with dbids := v.dbids.erase dbId},(v.dbids.erase dbId).length)
  else (v,ERR_CODE_NO_DATABASE)

/-- `hasDbId`. -/
def ReceiverQueueValue.hasDbId (v : ReceiverQueueValue) (dbid : ℤ) : Bool := dbid∈v.dbids

/-- `isDuplicated`, with the memory afterwards. -/
def isDuplicated (s : JsonFileReceiverQueueService) (packet : SemtechUDPPacket) (received : ℤ) :
    JsonFileReceiverQueueService×Bool :=
  match s.fcnts[packet.header.header.devaddr]? with
  | none => ({s with fcnts := s.fcnts.insert packet.header.header.devaddr ⟨packet.header.header.fcnt,received⟩},false)
  | some ft => (s,packet.header.header.fcnt=ft.fcnt)

/-- `clearFcnts` at a time: what is five seconds old is forgotten. -/
def clearFcnts (s : JsonFileReceiverQueueService) (now : ℤ) : JsonFileReceiverQueueService :=
  {s with fcnts := s.fcnts.filter fun _ ft => ¬ft.time≤now-5}

/-- `pushEntry`. -/
def pushEntry (s : JsonFileReceiverQueueService) (entry : ReceiverQueueEntry) : JsonFileReceiverQueueService :=
  {s with storage := s.storage.insert entry.key entry.value}

/-- The entry of a packet that is pushed, with the next number. -/
def entryOf (s : JsonFileReceiverQueueService) (packet : SemtechUDPPacket) (time : Timeval) : ReceiverQueueEntry where
  key := ⟨time,s.cnt+1⟩
  value := ⟨packet.header.header.devaddr,packet.devId,packet.payload,packet.header.fport,s.dbs⟩

/-- The number at which the memory is cleared. -/
def ClearsAt (id : ℤ) : Prop := id.tmod CLEAR_COUNT=CLEAR_COUNT-1

instance (id : ℤ) : Decidable (ClearsAt id) := inferInstanceAs (Decidable (_=_))

/-- `push` of a packet at its receive time, with the clock of the clearing. -/
def push (s : JsonFileReceiverQueueService) (packet : SemtechUDPPacket) (time : Timeval) (now : ℤ) :
    JsonFileReceiverQueueService×Bool :=
  let (s,duplicated) := isDuplicated s packet time.tvSec
  if duplicated then (s,false)
  else
    let entry := entryOf s packet time
    let s := pushEntry {s with cnt := s.cnt+1} entry
    (if ClearsAt entry.key.id then clearFcnts s now else s,true)

/-- The first entry of the queue. -/
def head (s : JsonFileReceiverQueueService) : Option ReceiverQueueEntry :=
  s.storage.toList.head?.map fun entry => ⟨entry.1,entry.2⟩

/-- `peek`: the first entry, if it names the database. -/
def peek (s : JsonFileReceiverQueueService) (dbid : ℤ) : Except ℤ ReceiverQueueEntry :=
  match head s with
  | none => .error ERR_CODE_QUEUE_EMPTY
  | some entry => if entry.value.hasDbId dbid then .ok entry else .error ERR_CODE_NO_DATABASE

/-- `pop`: the database is taken off the first entry, which goes with its last
one. With the entry as it was and the code. -/
def pop (s : JsonFileReceiverQueueService) (dbid : ℤ) :
    JsonFileReceiverQueueService×Option ReceiverQueueEntry×ℤ :=
  match head s with
  | none => (s,none,ERR_CODE_QUEUE_EMPTY)
  | some entry =>
    let (value,remainDbCount) := entry.value.popDbId dbid
    let storage := if remainDbCount=0 then s.storage.erase entry.key else s.storage.insert entry.key value
    ({s with storage := storage},some entry,if remainDbCount≥0 then 0 else remainDbCount)

/-- `pushForce`. The port in the entry is not initialised; it is an argument. -/
def pushForce (fport : UInt8) (s : JsonFileReceiverQueueService) (deviceId : DeviceId) (payload : Bytes)
    (time : Timeval) : JsonFileReceiverQueueService :=
  pushEntry {s with cnt := s.cnt+1} ⟨⟨time,s.cnt+1⟩,⟨0,deviceId,payload,fport,s.dbs⟩⟩

/-- A round of `clearDbs`: a database is taken off every entry, and an entry goes
with its last one. -/
def clearDb (storage : Std.TreeMap ReceiverQueueKey ReceiverQueueValue) (dbId : ℤ) :
    Std.TreeMap ReceiverQueueKey ReceiverQueueValue :=
  storage.filterMap fun _ value =>
    let (value,remainDbCount) := value.popDbId dbId
    if remainDbCount=0 then none else some value

/-- `clearDbs`. -/
def clearDbs (s : JsonFileReceiverQueueService) (dbs2delete : List ℤ) : JsonFileReceiverQueueService :=
  {s with storage := dbs2delete.foldl clearDb s.storage}

/-- `setDbs`: the old databases that are not among the new ones are taken off. -/
def setDbs (s : JsonFileReceiverQueueService) (values : List ℤ) : JsonFileReceiverQueueService :=
  {clearDbs s (s.dbs.filter fun dbId => dbId∉values) with dbs := values}

/-- A packet that is pushed. -/
structure PushCall where
  /-- The packet. -/
  packet : SemtechUDPPacket
  /-- Its receive time. -/
  time : Timeval
  /-- The clock when the memory is cleared. -/
  now : ℤ

/-- Address of the device. -/
def PushCall.addr (e : PushCall) : DEVADDR := e.packet.header.header.devaddr

/-- Frame counter. -/
def PushCall.fcnt (e : PushCall) : UInt16 := e.packet.header.header.fcnt

/-- The packet is taken. -/
def accepted (s : JsonFileReceiverQueueService) (e : PushCall) : Bool := (push s e.packet e.time e.now).2

/-- The service after one packet. -/
def pushStep (s : JsonFileReceiverQueueService) (e : PushCall) : JsonFileReceiverQueueService :=
  (push s e.packet e.time e.now).1

/-- A service that took a packet, with the counters it then remembers. -/
def taken (s : JsonFileReceiverQueueService) (e : PushCall) (fcnts : Std.TreeMap DEVADDR FcntTime) :
    JsonFileReceiverQueueService :=
  ⟨s.cnt+1,s.dbs,fcnts,s.storage.insert (entryOf s e.packet e.time).key (entryOf s e.packet e.time).value⟩

/-- A packet is dropped without a change, or it is taken. -/
theorem pushStep_cases (s : JsonFileReceiverQueueService) (e : PushCall) :
    accepted s e=false ∧ pushStep s e=s ∨ accepted s e=true ∧ ∃ fcnts,pushStep s e=taken s e fcnts := by
  -- what is done once the packet is no duplicate
  have htake : ∀ fcnts,isDuplicated s e.packet e.time.tvSec=({s with fcnts := fcnts},false) →
      accepted s e=true ∧ ∃ later,pushStep s e=taken s e later := by
    intro fcnts hd
    refine ⟨?_,?_⟩
    · rw [accepted,push,hd]
      rfl
    · by_cases hc : ClearsAt (s.cnt+1)
      · refine ⟨(clearFcnts {s with fcnts := fcnts} e.now).fcnts,?_⟩
        simp only [pushStep,push,hd,entryOf,if_pos hc]
        rfl
      · refine ⟨fcnts,?_⟩
        simp only [pushStep,push,hd,entryOf,if_neg hc]
        rfl
  cases hf : s.fcnts[e.packet.header.header.devaddr]? with
  | none =>
    refine .inr (htake (s.fcnts.insert e.packet.header.header.devaddr ⟨e.packet.header.header.fcnt,e.time.tvSec⟩) ?_)
    rw [isDuplicated,hf]
  | some ft =>
    have hd : isDuplicated s e.packet e.time.tvSec=(s,decide (e.packet.header.header.fcnt=ft.fcnt)) := by
      rw [isDuplicated,hf]
    by_cases hc : e.packet.header.header.fcnt=ft.fcnt
    · rw [decide_eq_true hc] at hd
      refine .inl ⟨?_,?_⟩
      · rw [accepted,push,hd]
        rfl
      · rw [pushStep,push,hd]
        rfl
    · rw [decide_eq_false hc] at hd
      exact .inr (htake s.fcnts hd)

/-- Numbers of the queue are at most the last one given. -/
def Numbered (s : JsonFileReceiverQueueService) : Prop := ∀ key∈s.storage,key.id≤ s.cnt

/-- The next number is not in the queue. -/
theorem Numbered.fresh {s : JsonFileReceiverQueueService} (h : Numbered s) (packet : SemtechUDPPacket)
    (time : Timeval) : (entryOf s packet time).key∉s.storage := by
  intro hm
  have hle := h _ hm
  simp only [entryOf] at hle
  omega

/-- A packet that is taken keeps to the numbers. -/
theorem Numbered.taken {s : JsonFileReceiverQueueService} (h : Numbered s) (e : PushCall)
    (fcnts : Std.TreeMap DEVADDR FcntTime) : Numbered (taken s e fcnts) := by
  intro key hm
  have hk : key∈s.storage.insert (entryOf s e.packet e.time).key (entryOf s e.packet e.time).value := hm
  rw [Std.TreeMap.mem_insert,Std.compare_eq_iff_eq] at hk
  change key.id≤ s.cnt+1
  rcases hk with rfl|hold
  · exact le_rfl
  · have hle := h key hold
    omega

/-- The first entry is the one no other key comes before. -/
theorem head_eq_some_iff {s : JsonFileReceiverQueueService} {entry : ReceiverQueueEntry} :
    head s=some entry ↔ s.storage[entry.key]?=some entry.value ∧
      ∀ key∈s.storage,ReceiverQueueKeyCompare key entry.key≠true := by
  have hsorted := Std.TreeMap.ordered_keys_toList (t:=s.storage)
  have hmem : ∀ key value,(key,value)∈s.storage.toList ↔ s.storage[key]?=some value :=
    fun key value => Std.TreeMap.mem_toList_iff_getElem?_eq_some
  rw [head]
  constructor
  · intro h
    obtain ⟨⟨key,value⟩,hhead,rfl⟩ := Option.map_eq_some_iff.mp h
    obtain ⟨rest,hlist⟩ := List.head?_eq_some_iff.mp hhead
    refine ⟨(hmem key value).mp (List.mem_of_mem_head? hhead),fun other ho => ?_⟩
    obtain ⟨v,hv⟩ : ∃ v,s.storage[other]?=some v := ⟨_,Std.TreeMap.getElem?_eq_some_getElem ho⟩
    have hin := (hmem other v).mpr hv
    rw [hlist] at hin hsorted
    rcases List.mem_cons.mp hin with heq|htail
    · obtain ⟨rfl,rfl⟩ := Prod.mk.inj heq
      exact fun hc => compare_asymm hc hc
    · exact compare_asymm (compare_eq_lt.mp (List.rel_of_pairwise_cons hsorted htail))
  · rintro ⟨hv,hfirst⟩
    have hin := (hmem entry.key entry.value).mpr hv
    cases hlist : s.storage.toList with
    | nil =>
      rw [hlist] at hin
      cases hin
    | cons first rest =>
      rw [hlist] at hin hsorted
      rcases List.mem_cons.mp hin with heq|htail
      · rw [← heq]
        rfl
      · have hbefore := compare_eq_lt.mp (List.rel_of_pairwise_cons hsorted htail)
        have hf : first.1∈s.storage := by
          rw [Std.TreeMap.mem_iff_isSome_getElem?,(hmem first.1 first.2).mp (hlist ▸ List.mem_cons_self)]
          rfl
        exact absurd hbefore (hfirst first.1 hf)

/-- The queue when the database is taken off its first entry. -/
def popped (s : JsonFileReceiverQueueService) (entry : ReceiverQueueEntry) (dbId : ℤ) :
    JsonFileReceiverQueueService :=
  let dbids := entry.value.dbids.erase dbId
  let storage := if dbids=[] then s.storage.erase entry.key
    else s.storage.insert entry.key {entry.value with dbids := dbids}
  {s with storage := storage}

/-- The pop of a database that the first entry names. -/
theorem pop_first {s : JsonFileReceiverQueueService} {entry : ReceiverQueueEntry} {dbId : ℤ}
    (h : head s=some entry) (hid : dbId∈entry.value.dbids) : pop s dbId=(popped s entry dbId,some entry,0) := by
  rw [pop,h]
  simp only [ReceiverQueueValue.popDbId,if_pos hid,Int.natCast_eq_zero,List.length_eq_zero_iff,ge_iff_le,
    Int.natCast_nonneg,if_true]
  rfl

/-- A pop changes the first entry only. -/
theorem getElem?_popped (s : JsonFileReceiverQueueService) (entry : ReceiverQueueEntry) (dbId : ℤ)
    (key : ReceiverQueueKey) :
    (popped s entry dbId).storage[key]?=if entry.key=key then
      if entry.value.dbids.erase dbId=[] then none
        else some {entry.value with dbids := entry.value.dbids.erase dbId}
      else s.storage[key]? := by
  rw [popped]
  by_cases hnil : entry.value.dbids.erase dbId=[]
  · simp only [if_pos hnil,getElem?_erase]
  · simp only [if_neg hnil,getElem?_insert]

/-- A pop gives no new keys. -/
theorem mem_popped {s : JsonFileReceiverQueueService} {entry : ReceiverQueueEntry} {dbId : ℤ}
    (h : head s=some entry) {key : ReceiverQueueKey} (hk : key∈(popped s entry dbId).storage) : key∈s.storage := by
  rw [Std.TreeMap.mem_iff_isSome_getElem?] at hk ⊢
  by_cases hkey : entry.key=key
  · rw [← hkey,(head_eq_some_iff.mp h).1]
    rfl
  · rwa [getElem?_popped,if_neg hkey] at hk

/-- A pop of a database that the first entry does not name leaves everything under
its key. -/
theorem pop_cases (s : JsonFileReceiverQueueService) (dbId : ℤ) :
    (∃ storage,(pop s dbId).1={s with storage := storage} ∧ ∀ key : ReceiverQueueKey,storage[key]?=s.storage[key]?) ∨
      ∃ entry,head s=some entry ∧ dbId∈entry.value.dbids ∧ pop s dbId=(popped s entry dbId,some entry,0) := by
  cases hhead : head s with
  | none =>
    rw [pop,hhead]
    exact .inl ⟨s.storage,rfl,fun _ => rfl⟩
  | some entry =>
    by_cases hid : dbId∈entry.value.dbids
    · exact .inr ⟨entry,rfl,hid,pop_first hhead hid⟩
    · refine .inl ⟨s.storage.insert entry.key entry.value,?_,fun key => ?_⟩
      · rw [pop,hhead]
        simp only [ReceiverQueueValue.popDbId,if_neg hid]
        rfl
      · rw [getElem?_insert]
        split
        · next hkey => rw [← hkey,(head_eq_some_iff.mp hhead).1]
        · rfl

/-- A peek of the database gives the first entry, which names it. -/
theorem peek_eq_ok {s : JsonFileReceiverQueueService} {dbId : ℤ} {entry : ReceiverQueueEntry}
    (h : peek s dbId=.ok entry) : head s=some entry ∧ dbId∈entry.value.dbids := by
  rw [peek] at h
  cases hhead : head s with
  | none =>
    rw [hhead] at h
    cases h
  | some first =>
    rw [hhead] at h
    dsimp only at h
    split at h
    · next hid =>
      obtain rfl := Except.ok.inj h
      exact ⟨rfl,of_decide_eq_true hid⟩
    · cases h

/-- The first entry is peeked for every database that it names. -/
theorem peek_first {s : JsonFileReceiverQueueService} {dbId : ℤ} {entry : ReceiverQueueEntry}
    (h : head s=some entry) (hid : dbId∈entry.value.dbids) : peek s dbId=.ok entry := by
  rw [peek,h]
  exact if_pos (decide_eq_true hid)

/-- What is left of a value when some databases are taken off. -/
def left (dbIds : List ℤ) (value : ReceiverQueueValue) : Option ReceiverQueueValue :=
  if value.dbids≠[] ∧ value.dbids.diff dbIds=[] then none else some {value with dbids := value.dbids.diff dbIds}

/-- One database is taken off first. -/
theorem left_cons (dbId : ℤ) (dbIds : List ℤ) (value : ReceiverQueueValue) :
    left (dbId::dbIds) value=(left [dbId] value).bind (left dbIds) := by
  simp only [left,List.diff_cons,List.diff_nil]
  by_cases hnone : value.dbids≠[] ∧ value.dbids.erase dbId=[]
  · rw [if_pos hnone,hnone.2,List.nil_diff,if_pos ⟨hnone.1,rfl⟩]
    rfl
  · rw [if_neg hnone,Option.bind_some]
    by_cases hnil : value.dbids=[]
    · simp [left,hnil]
    · simp only [ne_eq,hnil,not_false_eq_true,true_and] at hnone
      simp [left,hnil,hnone]

/-- What is under a key when one database is taken off every entry. -/
theorem getElem?_clearDb (storage : Std.TreeMap ReceiverQueueKey ReceiverQueueValue) (dbId : ℤ)
    (key : ReceiverQueueKey) : (clearDb storage dbId)[key]?=storage[key]?.bind (left [dbId]) := by
  rw [clearDb,Std.TreeMap.getElem?_filterMap']
  congr 1
  funext value
  rw [left,List.diff_cons,List.diff_nil,ReceiverQueueValue.popDbId]
  by_cases hid : dbId∈value.dbids
  · have hne : value.dbids≠[] := List.ne_nil_of_mem hid
    simp only [if_pos hid,Int.natCast_eq_zero,List.length_eq_zero_iff,ne_eq,hne,not_false_eq_true,true_and]
  · rw [if_neg hid,List.erase_of_not_mem hid,if_neg fun h => h.1 h.2]
    rfl

/-- What is under a key when some databases are taken off every entry. -/
theorem getElem?_clearDbs (s : JsonFileReceiverQueueService) (dbIds : List ℤ) (key : ReceiverQueueKey) :
    (clearDbs s dbIds).storage[key]?=s.storage[key]?.bind (left dbIds) := by
  obtain ⟨cnt,dbs,fcnts,storage⟩ := s
  change (dbIds.foldl clearDb storage)[key]?=storage[key]?.bind (left dbIds)
  induction dbIds generalizing storage with
  | nil =>
    have hid : left []=some := by
      funext value
      rw [left,List.diff_nil,if_neg fun h => h.1 h.2]
    rw [hid,Option.bind_fun_some]
    rfl
  | cons dbId dbIds ih =>
    rw [List.foldl_cons,ih,getElem?_clearDb,Option.bind_assoc]
    congr 1
    funext value
    exact (left_cons dbId dbIds value).symm

/-- Databases that are taken off give no new keys. -/
theorem mem_clearDbs {s : JsonFileReceiverQueueService} {dbIds : List ℤ} {key : ReceiverQueueKey}
    (h : key∈(clearDbs s dbIds).storage) : key∈s.storage := by
  rw [Std.TreeMap.mem_iff_isSome_getElem?,getElem?_clearDbs] at h
  rw [Std.TreeMap.mem_iff_isSome_getElem?]
  exact Option.isSome_of_isSome_bind h

end LorawanServer.ReceiverQueue
