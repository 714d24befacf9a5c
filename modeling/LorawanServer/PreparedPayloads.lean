import LorawanServer.DatabasePass

/-!
# The payload that the plugins have seen

`put2databases` step by step, with packets that come in between. The plugins are
prepared once in a pass, for the entry that is inserted first; the other
databases of the pass look at the first entry of the queue again, and it may be
another one by then.
-/

namespace LorawanServer.PreparedPayloads

open ReceiverQueue DatabasePass StepRun

/-- Where the pass stands between two of its steps. -/
inductive Stage where
  /-- Before the look at the queue for the next database. -/
  | idle
  /-- The first entry names a database in use. -/
  | peeked (place : ℕ) (dbId : ℤ) (entry : ReceiverQueueEntry)
  /-- Before the pop. -/
  | popping (dbId : ℤ)

/-- The entry in hand. -/
def Stage.hand : Stage → Option ReceiverQueueEntry
  | .peeked _ _ entry => some entry
  | _ => none

/-- A pass that packets can interrupt. -/
structure Processing where
  /-- The queue, the flag of the pass and all calls so far. -/
  pass : Pass
  /-- Databases of the pass that are left, with their places. -/
  remaining : List (ConfigDatabase×ℕ)
  /-- Between which steps the pass stands. -/
  stage : Stage

/-- One step of one of the two threads. -/
inductive Event where
  /-- The listener pushes a packet. -/
  | listen (call : PushCall)
  /-- The next step of the pass, with what the database returns. -/
  | process (outcome : Outcome)

/-- The next step of the pass; behind the last database the next pass begins. -/
def process (onLog : Bool) (dbs : List ConfigDatabase) (s : Processing) (outcome : Outcome) : Processing :=
  match s.stage with
  | .idle =>
    match s.remaining with
    | [] => ⟨{s.pass with prepared := false},dbs.zipIdx,.idle⟩
    | (db,place)::rest =>
      match peek s.pass.service db.id with
      | .error _ => ⟨s.pass,rest,.idle⟩
      | .ok entry => ⟨s.pass,rest,if db.active then .peeked place db.id entry else .popping db.id⟩
  | .peeked place dbId entry =>
    if outcome.openCode≠0 ∧ onLog=true then {s with stage := .idle}
    else ⟨⟨s.pass.service,true,insertCalls s.pass place entry⟩,s.remaining,.popping dbId⟩
  | .popping dbId => ⟨{s.pass with service := (pop s.pass.service dbId).1},s.remaining,.idle⟩

/-- One step. -/
def step (onLog : Bool) (dbs : List ConfigDatabase) (s : Processing) : Event → Processing
  | .listen call => {s with pass := {s.pass with service := pushStep s.pass.service call}}
  | .process outcome => process onLog dbs s outcome

/-- Before the first pass. -/
def Processing.start (service : JsonFileReceiverQueueService) : Processing := ⟨DatabasePass.start service [],[],.idle⟩

/-- The entry that the plugins were prepared for last. -/
def lastPrepared (calls : List Call) : Option ReceiverQueueEntry := calls.foldl (fun last call => match call with
  | .prepare entry => some entry
  | .insert _ _ => last) none

/-- Address and payload of two values are the same. -/
def SamePayload (first second : ReceiverQueueValue) : Prop :=
  first.addr=second.addr ∧ first.payload=second.payload

/-- Every payload that was inserted is the one that the plugins were prepared for
last. -/
def AllPrepared (calls : List Call) : Prop := ∀ before seqno entry after,calls=before++.insert seqno entry::after →
  ∃ prepared,lastPrepared before=some prepared ∧ SamePayload prepared.value entry.value

/-- Keys of the entry in hand, and of the one that the running pass prepared. -/
def inUse (s : Processing) : List ReceiverQueueKey :=
  (s.stage.hand.toList++if s.pass.prepared then (lastPrepared s.pass.calls).toList else []).map fun entry => entry.key

/-- A packet does not come under a key in use, and what a prepared pass inserts
is the entry that it prepared. -/
def StaysInFront (s : Processing) : Event → Prop
  | .listen call => accepted s.pass.service call=true → (entryOf s.pass.service call.packet call.time).key∉inUse s
  | .process _ => s.pass.prepared=true → ∀ entry∈s.stage.hand,∀ prepared∈lastPrepared s.pass.calls,
      entry.key=prepared.key

instance (s : Processing) : DecidablePred (StaysInFront s)
  | .listen _ => inferInstanceAs (Decidable (_ → _∉_))
  | .process _ => inferInstanceAs (Decidable (_ → ∀ entry∈s.stage.hand,∀ prepared∈lastPrepared s.pass.calls,_=_))

/-- The look at the queue when the first entry names the database. -/
theorem process_named (onLog : Bool) (dbs : List ConfigDatabase) {s : Pass} {db : ConfigDatabase}
    {entry : ReceiverQueueEntry} (h : peek s.service db.id=.ok entry) (place : ℕ) (rest : List (ConfigDatabase×ℕ))
    (outcome : Outcome) : process onLog dbs ⟨s,(db,place)::rest,.idle⟩ outcome=
      ⟨s,rest,if db.active then .peeked place db.id entry else .popping db.id⟩ := by
  rw [process]
  dsimp only
  rw [h]

/-- The next steps of a pass without packets are the visit of its next database. -/
theorem visit_steps (onLog : Bool) (dbs : List ConfigDatabase) (s : Pass) (db : ConfigDatabase) (place : ℕ)
    (rest : List (ConfigDatabase×ℕ)) (outcome : Outcome) :
    ∃ n,run (step onLog dbs) ⟨s,(db,place)::rest,.idle⟩ (List.replicate n (.process outcome))=
      ⟨visit onLog s ⟨place,db,outcome⟩,rest,.idle⟩ := by
  cases hpeek : peek s.service db.id with
  | error code =>
    refine ⟨1,?_⟩
    simp [step,process,visit,hpeek]
  | ok entry =>
    cases hactive : db.active with
    | false =>
      have hnamed := process_named onLog dbs hpeek place rest outcome
      rw [hactive] at hnamed
      refine ⟨2,?_⟩
      simp only [List.replicate,run_cons,run_nil,step,hnamed,visit,hpeek,hactive]
      rfl
    | true =>
      by_cases hopen : outcome.openCode≠0 ∧ onLog=true
      · refine ⟨2,?_⟩
        simp only [List.replicate,run_cons,run_nil,step,visit,hpeek,hactive,if_true,if_pos hopen,process]
      · refine ⟨3,?_⟩
        simp only [List.replicate,run_cons,run_nil,step,visit,hpeek,hactive,if_true,if_neg hopen,process]

/-- Without packets the steps of a pass are `put2databases`. -/
theorem pass_steps (onLog : Bool) (dbs : List ConfigDatabase) (outcome : ℕ → Outcome)
    (service : JsonFileReceiverQueueService) (calls : List Call) :
    ∃ outcomes : List Outcome,run (step onLog dbs) ⟨DatabasePass.start service calls,dbs.zipIdx,.idle⟩
      (outcomes.map .process)=⟨put2databases onLog dbs outcome service calls,[],.idle⟩ := by
  have hrest : ∀ (list : List (ConfigDatabase×ℕ)) (s : Pass),∃ outcomes : List Outcome,
      run (step onLog dbs) ⟨s,list,.idle⟩ (outcomes.map .process)=
        ⟨run (visit onLog) s (list.map fun db => ⟨db.2,db.1,outcome db.2⟩),[],.idle⟩ := by
    intro list
    induction list with
    | nil => exact fun s => ⟨[],rfl⟩
    | cons db list ih =>
      intro s
      obtain ⟨n,hfirst⟩ := visit_steps onLog dbs s db.1 db.2 list (outcome db.2)
      obtain ⟨outcomes,hlater⟩ := ih (visit onLog s ⟨db.2,db.1,outcome db.2⟩)
      refine ⟨List.replicate n (outcome db.2)++outcomes,?_⟩
      rw [List.map_append,List.map_replicate,run_append,hfirst,hlater]
      rfl
  exact hrest dbs.zipIdx (DatabasePass.start service calls)

/-- The last preparation behind one more. -/
theorem lastPrepared_prepare (calls : List Call) (entry : ReceiverQueueEntry) :
    lastPrepared (calls++[.prepare entry])=some entry := by
  rw [lastPrepared,List.foldl_append]
  rfl

/-- An insertion prepares nothing. -/
theorem lastPrepared_insert (calls : List Call) (seqno : ℕ) (entry : ReceiverQueueEntry) :
    lastPrepared (calls++[.insert seqno entry])=lastPrepared calls := by
  rw [lastPrepared,List.foldl_append]
  rfl

/-- One more call behind calls that are all prepared. -/
theorem AllPrepared.append {calls : List Call} (h : AllPrepared calls) {call : Call}
    (hcall : ∀ seqno entry,call=.insert seqno entry →
      ∃ prepared,lastPrepared calls=some prepared ∧ SamePayload prepared.value entry.value) :
    AllPrepared (calls++[call]) := by
  intro before seqno entry after hsplit
  rcases List.eq_nil_or_concat after with rfl|⟨after,last,rfl⟩
  · obtain ⟨rfl,hlast⟩ := List.append_inj' hsplit rfl
    exact hcall seqno entry (List.cons.inj hlast).1
  · rw [List.concat_eq_append,← List.cons_append,← List.append_assoc] at hsplit
    exact h before seqno entry after (List.append_inj' hsplit rfl).1

/-- What is under a key of the queue has this address and payload. -/
def Holds (s : JsonFileReceiverQueueService) (entry : ReceiverQueueEntry) : Prop :=
  ∀ value,s.storage[entry.key]?=some value → SamePayload entry.value value

/-- What is known between two steps. -/
structure Faithful (s : Processing) : Prop where
  /-- Every insertion was prepared. -/
  calls : AllPrepared s.pass.calls
  /-- The entry in hand is the one under its key. -/
  hand : ∀ entry∈s.stage.hand,Holds s.pass.service entry
  /-- The pass has prepared an entry, and it is the one under its key. -/
  prepared : s.pass.prepared=true → ∃ entry,lastPrepared s.pass.calls=some entry ∧ Holds s.pass.service entry ∧
    ∀ other∈s.stage.hand,other.key=entry.key → SamePayload entry.value other.value

/-- A packet under a new key leaves the other entries. -/
theorem Holds.listen {s : JsonFileReceiverQueueService} {entry : ReceiverQueueEntry} (h : Holds s entry)
    {call : PushCall} (hkey : accepted s call=true → (entryOf s call.packet call.time).key≠entry.key) :
    Holds (pushStep s call) entry := by
  obtain ⟨-,hs⟩|⟨haccepted,fcnts,hs⟩ := pushStep_cases s call
  · rwa [hs]
  · intro value hv
    rw [hs,taken,getElem?_insert,if_neg (hkey haccepted)] at hv
    exact h value hv

/-- A pop leaves address and payload of every entry. -/
theorem Holds.pop {s : JsonFileReceiverQueueService} {entry : ReceiverQueueEntry} (h : Holds s entry) (dbId : ℤ) :
    Holds (pop s dbId).1 entry := by
  intro value hv
  obtain ⟨storage,hs,hsame⟩|⟨first,hhead,-,hs⟩ := pop_cases s dbId
  · rw [hs] at hv
    exact h value ((hsame entry.key).symm.trans hv)
  · rw [hs,getElem?_popped] at hv
    by_cases hkey : first.key=entry.key
    · rw [if_pos hkey] at hv
      split at hv
      · cases hv
      · obtain rfl := Option.some.inj hv
        exact h first.value (hkey ▸ (head_eq_some_iff.mp hhead).1)
    · rw [if_neg hkey] at hv
      exact h value hv

/-- The entry that is looked at is the one under its key. -/
theorem Holds.of_peek {s : JsonFileReceiverQueueService} {entry : ReceiverQueueEntry} {dbId : ℤ}
    (h : peek s dbId=.ok entry) : Holds s entry := by
  intro value hv
  obtain rfl := Option.some.inj ((head_eq_some_iff.mp (peek_eq_ok h).1).1.symm.trans hv)
  exact ⟨rfl,rfl⟩

/-- A packet keeps this when it does not come under a key in use. -/
theorem Faithful.listen {s : Processing} (h : Faithful s) {call : PushCall}
    (hfront : StaysInFront s (.listen call)) :
    Faithful {s with pass := {s.pass with service := pushStep s.pass.service call}} := by
  have hinUse : ∀ entry,entry∈s.stage.hand.toList++(if s.pass.prepared then (lastPrepared s.pass.calls).toList else []) →
      accepted s.pass.service call=true → (entryOf s.pass.service call.packet call.time).key≠entry.key :=
    fun entry hm haccepted hkey => hfront haccepted (hkey ▸ List.mem_map_of_mem hm)
  refine ⟨h.calls,fun entry hm => ?_,fun hprepared => ?_⟩
  · exact (h.hand entry hm).listen (hinUse entry (List.mem_append_left _ (Option.mem_toList.mpr hm)))
  · obtain ⟨entry,hlast,hholds,hsame⟩ := h.prepared hprepared
    refine ⟨entry,hlast,hholds.listen (hinUse entry (List.mem_append_right _ ?_)),hsame⟩
    change s.pass.prepared=true at hprepared
    rw [if_pos hprepared]
    exact Option.mem_toList.mpr hlast

/-- The look at the queue for the next database. -/
theorem Faithful.look {s : Pass} {db : ConfigDatabase} {place : ℕ} {rest : List (ConfigDatabase×ℕ)}
    (h : Faithful ⟨s,(db,place)::rest,.idle⟩) (onLog : Bool) (dbs : List ConfigDatabase) (outcome : Outcome) :
    Faithful (process onLog dbs ⟨s,(db,place)::rest,.idle⟩ outcome) := by
  cases hpeek : peek s.service db.id with
  | error code =>
    rw [process]
    dsimp only
    rw [hpeek]
    exact ⟨h.calls,h.hand,h.prepared⟩
  | ok entry =>
    have hholds := Holds.of_peek hpeek
    have hvalue := (head_eq_some_iff.mp (peek_eq_ok hpeek).1).1
    have hhand : ∀ other∈(if db.active then Stage.peeked place db.id entry else .popping db.id).hand,other=entry := by
      intro other hm
      split at hm
      · exact (Option.some.inj hm).symm
      · cases hm
    rw [process_named onLog dbs hpeek]
    refine ⟨h.calls,fun other hm => ?_,fun hprepared => ?_⟩
    · rw [hhand other hm]
      exact hholds
    · obtain ⟨last,hlast,hold,-⟩ := h.prepared hprepared
      refine ⟨last,hlast,hold,fun other hm hkey => ?_⟩
      obtain rfl := hhand other hm
      exact hold other.value (hkey ▸ hvalue)

/-- The insertion of the entry in hand. -/
theorem Faithful.insert {s : Processing} (h : Faithful s) {entry : ReceiverQueueEntry} (hentry : entry∈s.stage.hand)
    (hfront : s.pass.prepared=true → ∀ prepared∈lastPrepared s.pass.calls,entry.key=prepared.key) (place : ℕ) (dbId : ℤ) :
    Faithful ⟨⟨s.pass.service,true,insertCalls s.pass place entry⟩,s.remaining,.popping dbId⟩ := by
  have hnone : ∀ other∈(Stage.popping dbId).hand,False := fun other hm => Option.not_mem_none other hm
  cases hprepared : s.pass.prepared with
  | true =>
    obtain ⟨last,hlast,hholds,hsame⟩ := h.prepared hprepared
    have hsamePayload := hsame entry hentry (hfront hprepared last hlast)
    have hcalls : insertCalls s.pass place entry=s.pass.calls++[.insert place entry] := by
      rw [insertCalls,hprepared,if_pos rfl]
    rw [hcalls]
    refine ⟨h.calls.append fun seqno other he => ?_,fun other hm => (hnone other hm).elim,fun _ =>
      ⟨last,?_,hholds,fun other hm => (hnone other hm).elim⟩⟩
    · obtain ⟨rfl,rfl⟩ := Call.insert.inj he
      exact ⟨last,hlast,hsamePayload⟩
    · exact (lastPrepared_insert s.pass.calls place entry).trans hlast
  | false =>
    have hcalls : insertCalls s.pass place entry=s.pass.calls++[.prepare entry]++[.insert place entry] := by
      rw [insertCalls,hprepared,if_neg Bool.false_ne_true]
    have hlast := lastPrepared_prepare s.pass.calls entry
    have hbefore : AllPrepared (s.pass.calls++[.prepare entry]) := h.calls.append fun _ _ he => Call.noConfusion he
    rw [hcalls]
    refine ⟨hbefore.append fun seqno other he => ?_,fun other hm => (hnone other hm).elim,fun _ =>
      ⟨entry,?_,h.hand entry hentry,fun other hm => (hnone other hm).elim⟩⟩
    · obtain ⟨rfl,rfl⟩ := Call.insert.inj he
      exact ⟨entry,hlast,rfl,rfl⟩
    · exact (lastPrepared_insert _ place entry).trans hlast

/-- Every step keeps this while the front stays. -/
theorem Faithful.step {s : Processing} (h : Faithful s) (onLog : Bool) (dbs : List ConfigDatabase) {e : Event}
    (hfront : StaysInFront s e) : Faithful (step onLog dbs s e) := by
  have hidle : ∀ other∈Stage.idle.hand,False := fun other hm => Option.not_mem_none other hm
  cases e with
  | listen call => exact h.listen hfront
  | process outcome =>
    obtain ⟨pass,remaining,stage⟩ := s
    cases stage with
    | idle =>
      cases remaining with
      | nil => exact ⟨h.calls,h.hand,fun hp => absurd hp Bool.false_ne_true⟩
      | cons db rest => exact h.look onLog dbs outcome
    | peeked place dbId entry =>
      rw [PreparedPayloads.step,process]
      dsimp only
      split
      · refine ⟨h.calls,fun other hm => (hidle other hm).elim,fun hp => ?_⟩
        obtain ⟨last,hlast,hholds,-⟩ := h.prepared hp
        exact ⟨last,hlast,hholds,fun other hm => (hidle other hm).elim⟩
      · exact h.insert rfl (fun hp => hfront hp entry rfl) place dbId
    | popping dbId =>
      refine ⟨h.calls,fun other hm => (hidle other hm).elim,fun hp => ?_⟩
      obtain ⟨last,hlast,hholds,-⟩ := h.prepared hp
      exact ⟨last,hlast,hholds.pop dbId,fun other hm => (hidle other hm).elim⟩

/-- Before the first pass. -/
theorem Faithful.start (service : JsonFileReceiverQueueService) : Faithful (.start service) where
  calls := fun _ _ _ _ h => absurd h.symm (List.append_ne_nil_of_right_ne_nil _ (List.cons_ne_nil _ _))
  hand := fun other hm => absurd hm (Option.not_mem_none other)
  prepared := fun h => absurd h Bool.false_ne_true

/-- While the prepared entry stays in front, every payload is inserted behind the
preparation for it. -/
theorem allPrepared_of_staysInFront (onLog : Bool) (dbs : List ConfigDatabase) (service : JsonFileReceiverQueueService)
    {events : List Event} (h : Along (step onLog dbs) StaysInFront (.start service) events) :
    AllPrepared (run (step onLog dbs) (.start service) events).pass.calls :=
  (h.run_invariant (Faithful.start service) fun _ _ hs hfront => hs.step onLog dbs hfront).calls

/-- The entry of a device at a second for some databases. -/
def entryAt (addr : Records.DEVADDR) (second : ℤ) (payload : CppRuntime.Bytes) (dbids : List ℤ) : ReceiverQueueEntry :=
  ⟨⟨⟨second,0⟩,second⟩,⟨addr,Records.DeviceId.empty,payload,5,dbids⟩⟩

/-- One payload for two databases; another packet comes in between. -/
theorem allPrepared_laterPacket : AllPrepared (run (step true [⟨1,true⟩,⟨2,true⟩])
    (.start (pushEntry (.fresh [1,2]) (entryAt 7 10 [1,2,3] [1,2])))
    [.process ⟨0,0⟩,.process ⟨0,0⟩,.listen ⟨Records.SemtechUDPPacket.empty,⟨20,0⟩,20⟩,.process ⟨0,0⟩,.process ⟨0,0⟩,
      .process ⟨0,0⟩,.process ⟨0,0⟩,.process ⟨0,0⟩]).pass.calls := by
  refine allPrepared_of_staysInFront true _ _ ?_
  simp only [along_cons_iff,along_nil,and_true]
  decide +kernel

/-- The first entry goes with its only database, and the second database gets the
next entry in the same pass. -/
theorem nextEntry_unprepared : ¬∀ onLog dbs service events,
    AllPrepared (run (step onLog dbs) (.start service) events).pass.calls := by
  intro h
  have hall := h true [⟨1,true⟩,⟨2,true⟩] (pushEntry (pushEntry (.fresh [1,2]) (entryAt 7 10 [1,2,3] [1]))
    (entryAt 8 20 [4] [2])) (List.replicate 7 (.process ⟨0,0⟩))
  obtain ⟨prepared,hlast,hsame⟩ := hall [.prepare (entryAt 7 10 [1,2,3] [1]),.insert 0 (entryAt 7 10 [1,2,3] [1])] 1
    (entryAt 8 20 [4] [2]) [] (by decide +kernel)
  obtain rfl := Option.some.inj hlast
  exact absurd hsame.1 (by decide)

end LorawanServer.PreparedPayloads
