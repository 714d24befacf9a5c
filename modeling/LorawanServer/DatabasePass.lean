import LorawanServer.ReceiverQueue

/-!
# One pass over the databases

`ReceiverQueueProcessor::put2databases` and `processQueue` while no packet comes
in. What a database returns is an argument. The code of `insert` only goes to
the log, and a database that does not open is left out only when there is a log.
Whether or not something was inserted, the database is taken off the first entry
afterwards.
-/

namespace LorawanServer.DatabasePass

open ReceiverQueue StepRun

/-- Passes of one call at most. -/
abbrev MAX_QUEUE_CNT_PER_STEP : ℕ := 1024

/-- The members of `ConfigDatabase` that a pass reads. -/
structure ConfigDatabase where
  /-- Database identifier. -/
  id : ℤ
  /-- The database is in use. -/
  active : Bool
  deriving DecidableEq

/-- What a database returns. -/
structure Outcome where
  /-- Code of `open`. -/
  openCode : ℤ
  /-- Code of `insert`. -/
  insertCode : ℤ
  deriving DecidableEq

/-- One database of a pass. -/
structure Visit where
  /-- Its place in the configuration. -/
  seqno : ℕ
  /-- The database. -/
  config : ConfigDatabase
  /-- What its calls return. -/
  outcome : Outcome
  deriving DecidableEq

/-- A call on the plugins or on a database. -/
inductive Call where
  /-- `prepare` with the address and the payload of an entry. -/
  | prepare (entry : ReceiverQueueEntry)
  /-- `insert` of the payload of an entry. -/
  | insert (seqno : ℕ) (entry : ReceiverQueueEntry)
  deriving DecidableEq

/-- The queue within a pass. -/
structure Pass where
  /-- The queue. -/
  service : JsonFileReceiverQueueService
  /-- The plugins are prepared in this pass. -/
  prepared : Bool
  /-- The calls so far, the first one in front. -/
  calls : List Call

/-- The calls for an entry on a database that is open. -/
def insertCalls (s : Pass) (seqno : ℕ) (entry : ReceiverQueueEntry) : List Call :=
  (if s.prepared then s.calls else s.calls++[.prepare entry])++[.insert seqno entry]

/-- The body of the loop of `put2databases`. -/
def visit (onLog : Bool) (s : Pass) (v : Visit) : Pass :=
  match peek s.service v.config.id with
  | .error _ => s
  | .ok entry =>
    if v.config.active then
      -- the loop goes on with the next database only in the branch of the log
      if v.outcome.openCode≠0 ∧ onLog=true then s
      else ⟨(pop s.service v.config.id).1,true,insertCalls s v.seqno entry⟩
    else {s with service := (pop s.service v.config.id).1}

/-- The databases of a pass, with what they return. -/
def visits (dbs : List ConfigDatabase) (outcome : ℕ → Outcome) : List Visit :=
  dbs.zipIdx.map fun db => ⟨db.2,db.1,outcome db.2⟩

/-- Before the first database. -/
def start (service : JsonFileReceiverQueueService) (calls : List Call) : Pass := ⟨service,false,calls⟩

/-- `put2databases`, behind some calls. -/
def put2databases (onLog : Bool) (dbs : List ConfigDatabase) (outcome : ℕ → Outcome)
    (service : JsonFileReceiverQueueService) (calls : List Call) : Pass :=
  run (visit onLog) (start service calls) (visits dbs outcome)

/-- Some passes, each with what its databases return. -/
def passes (onLog : Bool) (dbs : List ConfigDatabase) (outcome : ℕ → ℕ → Outcome) :
    ℕ → JsonFileReceiverQueueService×List Call → JsonFileReceiverQueueService×List Call
  | 0,s => s
  | n+1,s =>
    let behind := put2databases onLog dbs (outcome n) s.1 s.2
    passes onLog dbs outcome n (behind.service,behind.calls)

/-- `processQueue`: as many passes as there are entries, up to the limit. -/
def processQueue (onLog : Bool) (dbs : List ConfigDatabase) (outcome : ℕ → ℕ → Outcome)
    (service : JsonFileReceiverQueueService) : JsonFileReceiverQueueService×List Call :=
  passes onLog dbs outcome (min service.storage.size MAX_QUEUE_CNT_PER_STEP) (service,[])

/-- A visit without effect, or one that pops the first entry, with calls for it
when the database is in use and did not fail to open under a log. -/
theorem visit_cases (onLog : Bool) (s : Pass) (v : Visit) :
    (visit onLog s v=s ∧ ((∃ code,peek s.service v.config.id=.error code) ∨
      v.config.active=true ∧ v.outcome.openCode≠0 ∧ onLog=true)) ∨
    ∃ entry,peek s.service v.config.id=.ok entry ∧ ((v.config.active=false ∧
        visit onLog s v={s with service := popped s.service entry v.config.id}) ∨
      (v.config.active=true ∧ ¬(v.outcome.openCode≠0 ∧ onLog=true) ∧
        visit onLog s v=⟨popped s.service entry v.config.id,true,insertCalls s v.seqno entry⟩)) := by
  rw [visit]
  cases hpeek : peek s.service v.config.id with
  | error code => exact .inl ⟨rfl,.inl ⟨code,rfl⟩⟩
  | ok entry =>
    obtain ⟨hhead,hid⟩ := peek_eq_ok hpeek
    dsimp only
    rw [pop_first hhead hid]
    cases hactive : v.config.active with
    | false => exact .inr ⟨entry,rfl,.inl ⟨rfl,rfl⟩⟩
    | true =>
      rw [if_pos rfl]
      by_cases hopen : v.outcome.openCode≠0 ∧ onLog=true
      · exact .inl ⟨if_pos hopen,.inr ⟨rfl,hopen⟩⟩
      · exact .inr ⟨entry,rfl,.inr ⟨rfl,hopen,if_neg hopen⟩⟩

end LorawanServer.DatabasePass
