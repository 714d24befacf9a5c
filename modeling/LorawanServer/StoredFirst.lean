import LorawanServer.DatabasePass

/-!
# What is taken off the queue without being stored

A pass takes a database off the first entry whatever `insert` returned, and
whatever `open` returned when there is no log. An entry stays until it is stored
exactly when no call fails but for an `open` under a log.
-/

namespace LorawanServer.StoredFirst

open ReceiverQueue DatabasePass StepRun

/-- The queue stays, or the database took the payload of the first entry and is
taken off it. Nothing is asked of a database that is not in use. -/
def StoresFirst (onLog : Bool) (s : Pass) (v : Visit) : Prop :=
  v.config.active=true → (visit onLog s v).service.storage=s.service.storage ∨
    v.outcome=⟨0,0⟩ ∧ ∃ entry,head s.service=some entry ∧ Call.insert v.seqno entry∈(visit onLog s v).calls ∧
      (visit onLog s v).service=popped s.service entry v.config.id

/-- When the first entry names a database in use, its calls return zero, or it
does not open and there is a log. -/
def FailsUnderLog (onLog : Bool) (s : Pass) (v : Visit) : Prop :=
  v.config.active=true → ∀ entry,peek s.service v.config.id=.ok entry →
    v.outcome=⟨0,0⟩ ∨ v.outcome.openCode≠0 ∧ onLog=true

/-- A pop of a database that the first entry names changes the queue. -/
theorem popped_ne {s : JsonFileReceiverQueueService} {entry : ReceiverQueueEntry} {dbId : ℤ}
    (h : head s=some entry) (hid : dbId∈entry.value.dbids) : (popped s entry dbId).storage≠s.storage := by
  intro heq
  have hsame : (popped s entry dbId).storage[entry.key]?=s.storage[entry.key]? := by rw [heq]
  rw [getElem?_popped,if_pos rfl,(head_eq_some_iff.mp h).1] at hsame
  split at hsame
  · cases hsame
  · have hdbids := congrArg ReceiverQueueValue.dbids (Option.some.inj hsame)
    have hlength := congrArg List.length hdbids
    have hpos := List.length_pos_of_mem hid
    rw [List.length_erase_of_mem hid] at hlength
    omega

/-- One database stores first exactly when it fails under a log only. -/
theorem storesFirst_iff (onLog : Bool) (s : Pass) (v : Visit) :
    StoresFirst onLog s v ↔ FailsUnderLog onLog s v := by
  refine forall_congr' fun hactive => ?_
  obtain ⟨hsame,hwhy⟩|⟨entry,hpeek,⟨hidle,-⟩|⟨-,hopen,hvisit⟩⟩ := visit_cases onLog s v
  · -- nothing is taken off
    refine iff_of_true (.inl (by rw [hsame])) fun entry hentry => ?_
    obtain ⟨code,hpeek⟩|⟨-,hlog⟩ := hwhy
    · rw [hpeek] at hentry
      cases hentry
    · exact .inr hlog
  · rw [hactive] at hidle
    cases hidle
  · obtain ⟨hhead,hid⟩ := peek_eq_ok hpeek
    rw [hvisit]
    constructor
    · rintro (hqueue|⟨hcodes,-⟩) _ _
      · exact absurd hqueue (popped_ne hhead hid)
      · exact .inl hcodes
    · intro h
      have hcodes := (h entry hpeek).resolve_right hopen
      exact .inr ⟨hcodes,entry,hhead,List.mem_append_right _ List.mem_cons_self,rfl⟩

/-- In one pass over any databases every entry keeps its databases until they
store it exactly when no call fails but for an `open` under a log. -/
theorem storesFirst_pass_iff (onLog : Bool) (dbs : List ConfigDatabase) (outcome : ℕ → Outcome)
    (service : JsonFileReceiverQueueService) (calls : List Call) :
    Along (visit onLog) (StoresFirst onLog) (start service calls) (visits dbs outcome) ↔
      Along (visit onLog) (FailsUnderLog onLog) (start service calls) (visits dbs outcome) :=
  ⟨fun h => h.imp fun s v => (storesFirst_iff onLog s v).mp,fun h => h.imp fun s v => (storesFirst_iff onLog s v).mpr⟩

/-- A queue with one entry for one database. -/
def oneEntry : JsonFileReceiverQueueService :=
  pushEntry (.fresh [1]) ⟨⟨⟨10,0⟩,1⟩,⟨7,Records.DeviceId.empty,[1,2,3],5,[1]⟩⟩

/-- An entry that the only database does not take is lost. -/
theorem failedInsert_popped : ¬∀ onLog dbs outcome service calls,
    Along (visit onLog) (StoresFirst onLog) (start service calls) (visits dbs outcome) := by
  intro h
  have hstores := h true [⟨1,true⟩] (fun _ => ⟨0,-1⟩) oneEntry [] [] ⟨0,⟨1,true⟩,⟨0,-1⟩⟩ [] rfl
  rcases hstores rfl with hqueue|⟨hcodes,-⟩
  · have hsize : (visit true (start oneEntry []) ⟨0,⟨1,true⟩,⟨0,-1⟩⟩).service.storage.size=oneEntry.storage.size := by
      have hsame : (visit true (start oneEntry []) ⟨0,⟨1,true⟩,⟨0,-1⟩⟩).service.storage=oneEntry.storage := hqueue
      rw [hsame]
    revert hsize
    decide +kernel
  · cases hcodes

end LorawanServer.StoredFirst
