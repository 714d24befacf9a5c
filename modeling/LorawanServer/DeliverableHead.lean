import LorawanServer.ReceiverQueue

/-!
# Entries that can be delivered

After `setDbs` the queue should hold entries for configured databases only, and
at least one for each entry. `setDbs` takes off what was configured before, once
for each time it was configured; an entry from a file may name other databases,
one of them twice, or none.
-/

namespace LorawanServer.DeliverableHead

open ReceiverQueue StepRun

/-- What happens to the queue after `setDbs`. -/
inductive Event where
  /-- A packet comes in. -/
  | push (call : PushCall)
  /-- The first entry is looked at for a database. -/
  | peek (dbId : ℤ)
  /-- A database is taken off the first entry. -/
  | pop (dbId : ℤ)

/-- The queue after one event. -/
def step (s : JsonFileReceiverQueueService) : Event → JsonFileReceiverQueueService
  | .push call => pushStep s call
  | .peek _ => s
  | .pop dbId => (pop s dbId).1

/-- An entry waits for some of the configured databases and for no other. -/
def Waits (ids : List ℤ) (value : ReceiverQueueValue) : Prop :=
  value.dbids≠[] ∧ ∀ dbId∈value.dbids,dbId∈ids

/-- Every entry waits for configured databases, and a database can peek the
first one. -/
structure Deliverable (ids : List ℤ) (s : JsonFileReceiverQueueService) : Prop where
  /-- Databases of the entries. -/
  waits : ∀ (key : ReceiverQueueKey) (value : ReceiverQueueValue),s.storage[key]?=some value → Waits ids value
  /-- The first entry. -/
  first : ∀ entry,head s=some entry → ∃ dbId∈ids,peek s dbId=.ok entry

/-- Some databases are configured, every entry names one, and what an entry
names besides them it names at most as often as it was configured. -/
def Prunable (ids : List ℤ) (s : JsonFileReceiverQueueService) : Prop :=
  ids≠[] ∧ ∀ (key : ReceiverQueueKey) (value : ReceiverQueueValue),s.storage[key]?=some value →
    value.dbids≠[] ∧ ∀ dbId∈value.dbids,dbId∉ids → value.dbids.count dbId≤ s.dbs.count dbId

/-- Entries that wait for configured databases make the first one deliverable. -/
theorem Deliverable.of_waits {ids : List ℤ} {s : JsonFileReceiverQueueService}
    (h : ∀ (key : ReceiverQueueKey) (value : ReceiverQueueValue),s.storage[key]?=some value → Waits ids value) :
    Deliverable ids s where
  waits := h
  first := by
    intro entry hhead
    obtain ⟨hne,hids⟩ := h entry.key entry.value (head_eq_some_iff.mp hhead).1
    obtain ⟨dbId,hid⟩ := List.exists_mem_of_ne_nil _ hne
    exact ⟨dbId,hids dbId hid,peek_first hhead hid⟩

/-- A database that is taken off leaves the others, or the entry goes. -/
theorem waits_popped {ids : List ℤ} {s : JsonFileReceiverQueueService} {entry : ReceiverQueueEntry} (dbId : ℤ)
    (h : Deliverable ids s) (hhead : head s=some entry) : Deliverable ids (popped s entry dbId) := by
  refine .of_waits fun key value hv => ?_
  rw [getElem?_popped] at hv
  by_cases hkey : entry.key=key
  · rw [if_pos hkey] at hv
    split at hv
    · cases hv
    · next hne =>
      obtain rfl := Option.some.inj hv
      have hold := h.waits entry.key entry.value (head_eq_some_iff.mp hhead).1
      exact ⟨hne,fun id hid => hold.2 id (List.mem_of_mem_erase hid)⟩
  · rw [if_neg hkey] at hv
    exact h.waits key value hv

/-- A step keeps the configuration, and entries that can be delivered. -/
theorem step_deliverable {ids : List ℤ} (hne : ids≠[]) (s : JsonFileReceiverQueueService) (e : Event)
    (h : s.dbs=ids ∧ Deliverable ids s) : (step s e).dbs=ids ∧ Deliverable ids (step s e) := by
  obtain ⟨hdbs,hwaits⟩ := h
  cases e with
  | push call =>
    obtain ⟨-,hs⟩|⟨-,fcnts,hs⟩ := pushStep_cases s call
    · rw [step,hs]
      exact ⟨hdbs,hwaits⟩
    · rw [step,hs]
      refine ⟨hdbs,.of_waits fun key value hv => ?_⟩
      rw [taken,getElem?_insert] at hv
      split at hv
      · obtain rfl := Option.some.inj hv
        -- a new entry names what is configured
        change Waits ids ⟨_,_,_,_,s.dbs⟩
        rw [hdbs]
        exact ⟨hne,fun _ hid => hid⟩
      · exact hwaits.waits key value hv
  | peek dbId => exact ⟨hdbs,hwaits⟩
  | pop dbId =>
    obtain ⟨storage,hs,hsame⟩|⟨entry,hhead,-,hs⟩ := pop_cases s dbId
    · rw [step,hs]
      exact ⟨hdbs,.of_waits fun key value hv => hwaits.waits key value ((hsame key).symm.trans hv)⟩
    · rw [step,hs]
      exact ⟨hdbs,waits_popped dbId hwaits hhead⟩

/-- What is under a key behind `setDbs`. -/
theorem getElem?_setDbs (s : JsonFileReceiverQueueService) (ids : List ℤ) (key : ReceiverQueueKey) :
    (setDbs s ids).storage[key]?=s.storage[key]?.bind (left (s.dbs.filter fun dbId => dbId∉ids)) :=
  getElem?_clearDbs s _ key

/-- How often a database is taken off by `setDbs`. -/
theorem count_stale (dbs ids : List ℤ) (dbId : ℤ) :
    (dbs.filter fun id => id∉ids).count dbId=if dbId∈ids then 0 else dbs.count dbId := by
  by_cases hid : dbId∈ids
  · rw [if_pos hid]
    refine List.count_eq_zero_of_not_mem fun hm => ?_
    exact of_decide_eq_true (List.mem_filter.mp hm).2 hid
  · rw [if_neg hid]
    exact List.count_filter (decide_eq_true hid)

/-- What `setDbs` leaves of an entry waits for configured databases exactly when
the entry names one and nothing else more often than it was configured. -/
theorem left_waits_iff (dbs ids : List ℤ) (value : ReceiverQueueValue) :
    (∀ rest,left (dbs.filter fun dbId => dbId∉ids) value=some rest → Waits ids rest) ↔
      value.dbids≠[] ∧ ∀ dbId∈value.dbids,dbId∉ids → value.dbids.count dbId≤dbs.count dbId := by
  have hcount : ∀ dbId,(value.dbids.diff (dbs.filter fun id => id∉ids)).count dbId=
      value.dbids.count dbId-if dbId∈ids then 0 else dbs.count dbId := fun dbId => by
    rw [List.count_diff,count_stale]
  by_cases hnil : value.dbids=[]
  · refine iff_of_false (fun h => ?_) fun h => h.1 hnil
    have hleft : left (dbs.filter fun dbId => dbId∉ids) value=some {value with dbids := []} := by
      rw [left,if_neg fun h => h.1 hnil,hnil,List.nil_diff]
    exact (h _ hleft).1 rfl
  · refine Iff.trans ?_ (and_iff_right hnil).symm
    have hmem : (∀ dbId∈value.dbids.diff (dbs.filter fun id => id∉ids),dbId∈ids) ↔
        ∀ dbId∈value.dbids,dbId∉ids → value.dbids.count dbId≤dbs.count dbId := by
      refine forall_congr' fun dbId => ?_
      have hc := hcount dbId
      rw [← List.count_pos_iff,← List.count_pos_iff (l := value.dbids)]
      by_cases hid : dbId∈ids
      · exact iff_of_true (fun _ => hid) fun _ hn => absurd hid hn
      · rw [if_neg hid] at hc
        simp only [hid,imp_false,not_false_eq_true,true_imp_iff]
        omega
    rw [← hmem]
    by_cases hgone : value.dbids.diff (dbs.filter fun id => id∉ids)=[]
    · rw [left,if_pos ⟨hnil,hgone⟩,hgone]
      exact iff_of_true (fun _ h => absurd h.symm (Option.some_ne_none _)) fun _ h => absurd h List.not_mem_nil
    · rw [left,if_neg fun h => hgone h.2]
      simp only [Option.some.injEq,forall_eq']
      exact and_iff_right hgone

/-- A packet whose counter is not the one remembered for its device is taken. -/
theorem accepted_of_fcnt {s : JsonFileReceiverQueueService} {call : PushCall}
    (h : ∀ ft,s.fcnts[call.addr]?=some ft → call.fcnt≠ft.fcnt) : accepted s call=true := by
  have hfresh : (isDuplicated s call.packet call.time.tvSec).2=false := by
    rw [isDuplicated]
    cases hft : s.fcnts[call.packet.header.header.devaddr]? with
    | none => rfl
    | some ft => exact decide_eq_false (h ft hft)
  rw [accepted,push]
  simp only [hfresh,Bool.false_eq_true,if_false]

/-- Some packet is taken. -/
theorem exists_accepted (s : JsonFileReceiverQueueService) : ∃ call,accepted s call=true := by
  let call (fcnt : UInt16) : PushCall := ⟨{Records.SemtechUDPPacket.empty with
    header := {Records.RfmHeader.empty with header := ⟨0x40,0,0,fcnt⟩}},⟨0,0⟩,0⟩
  cases hft : s.fcnts[(0 : Records.DEVADDR)]? with
  | none => exact ⟨call 0,accepted_of_fcnt fun ft h => nomatch hft.symm.trans h⟩
  | some ft =>
    refine ⟨call (ft.fcnt+1),accepted_of_fcnt fun other h => ?_⟩
    obtain rfl := Option.some.inj (hft.symm.trans h)
    change ft.fcnt+1≠ft.fcnt
    intro heq
    have hnat := congrArg UInt16.toNat heq
    simp at hnat
    omega

/-- Everything stays deliverable exactly when some databases are configured and
the entries name databases of the old configuration besides them. -/
theorem deliverable_iff (ids : List ℤ) (s : JsonFileReceiverQueueService) :
    (∀ events,Deliverable ids (run step (setDbs s ids) events)) ↔ Prunable ids s := by
  have hentries : (∀ (key : ReceiverQueueKey) (value : ReceiverQueueValue),
      (setDbs s ids).storage[key]?=some value → Waits ids value) ↔ ∀ (key : ReceiverQueueKey) (value : ReceiverQueueValue),
        s.storage[key]?=some value → value.dbids≠[] ∧
          ∀ dbId∈value.dbids,dbId∉ids → value.dbids.count dbId≤ s.dbs.count dbId := by
    refine forall_congr' fun key => ?_
    rw [getElem?_setDbs]
    cases s.storage[key]? with
    | none => exact iff_of_true (fun _ h => nomatch h) fun _ h => nomatch h
    | some value =>
      simp only [Option.bind_some,Option.some.injEq,forall_eq']
      exact left_waits_iff s.dbs ids value
  constructor
  · intro h
    refine ⟨fun hnil => ?_,hentries.mp (h []).waits⟩
    -- without databases a new packet waits for none
    obtain ⟨call,haccepted⟩ := exists_accepted (setDbs s ids)
    obtain ⟨hdropped,-⟩|⟨-,fcnts,hs⟩ := pushStep_cases (setDbs s ids) call
    · rw [haccepted] at hdropped
      cases hdropped
    · have hnew := (h [.push call]).waits (entryOf (setDbs s ids) call.packet call.time).key
        (entryOf (setDbs s ids) call.packet call.time).value (by
          rw [run_cons,run_nil,step,hs,taken,getElem?_insert,if_pos rfl])
      exact hnew.1 hnil
  · rintro ⟨hne,hold⟩ events
    exact (run_invariant (fun e _ t ht => step_deliverable hne t e ht) ⟨rfl,.of_waits (hentries.mpr hold)⟩).2

/-- An entry for database 2. -/
def foreignEntry : ReceiverQueueEntry := ⟨⟨⟨10,0⟩,1⟩,⟨7,Records.DeviceId.empty,[1,2,3],5,[2]⟩⟩

/-- An entry that names a database that was never configured stays in front. -/
theorem unknownDb_stays : ¬∀ ids s events,Deliverable ids (run step (setDbs s ids) events) := by
  intro h
  obtain ⟨dbId,hid,hpeek⟩ := (h [1] (pushEntry (.fresh []) foreignEntry) []).first foreignEntry (by decide +kernel)
  obtain rfl := List.mem_singleton.mp hid
  obtain ⟨-,hnamed⟩ := peek_eq_ok hpeek
  revert hnamed
  decide

end LorawanServer.DeliverableHead
