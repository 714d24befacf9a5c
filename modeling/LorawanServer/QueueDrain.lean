import LorawanServer.DatabasePass
import LorawanServer.QueueEntries

/-!
# A step of the processor that drains the queue

With databases that are all in use and never fail, a pass takes at least the
first entry off the queue, and as many passes as there are entries empty it.
What went into a database and what waits for it are together, in this order,
what waited for it first.
-/

namespace LorawanServer.QueueDrain

open CppRuntime ReceiverQueue QueueEntries DatabasePass StepRun

/-- An entry waits for some of the databases, once for each. -/
structure Proper (ids : List ℤ) (value : ReceiverQueueValue) : Prop where
  /-- It waits for one. -/
  waits : value.dbids≠[]
  /-- It waits once. -/
  once : value.dbids.Nodup
  /-- It waits for no others. -/
  configured : value.dbids⊆ids

/-- What is left of an entry waits in the same way. -/
theorem Proper.erase {ids : List ℤ} {value : ReceiverQueueValue} (h : Proper ids value) {dbId : ℤ}
    (hne : value.dbids.erase dbId≠[]) : Proper ids {value with dbids := value.dbids.erase dbId} :=
  ⟨hne,h.once.erase dbId,fun _ hm => h.configured (List.mem_of_mem_erase hm)⟩

/-- Entries after a pop. -/
theorem proper_behindPop {ids : List ℤ} {key : ReceiverQueueKey} {value : ReceiverQueueValue}
    {rest : List (ReceiverQueueKey×ReceiverQueueValue)} (h : ∀ e∈(key,value)::rest,Proper ids e.2) (dbId : ℤ) :
    ∀ e∈behindPop key value dbId rest,Proper ids e.2 := by
  rw [behindPop]
  split
  · exact fun e he => h e (List.mem_cons_of_mem _ he)
  · next hne =>
    intro e he
    rcases List.mem_cons.mp he with rfl|hrest
    · exact (h (key,value) List.mem_cons_self).erase hne
    · exact h e (List.mem_cons_of_mem _ hrest)

/-- A pop does not make the queue longer. -/
theorem length_behindPop_le (key : ReceiverQueueKey) (value : ReceiverQueueValue) (dbId : ℤ)
    (rest : List (ReceiverQueueKey×ReceiverQueueValue)) :
    (behindPop key value dbId rest).length≤rest.length+1 := by
  rw [behindPop]
  split
  · exact Nat.le_succ _
  · exact le_rfl

/-- Payloads that wait for a database, in the order of their keys. -/
def pending (dbId : ℤ) (list : List (ReceiverQueueKey×ReceiverQueueValue)) : List Bytes :=
  (list.filter fun e => e.2.hasDbId dbId).map fun e => e.2.payload

/-- Payloads that went into the database at a place, the first one in front. -/
def insertedAt (place : ℕ) (calls : List Call) : List Bytes := calls.filterMap fun
  | .insert seqno entry => if seqno=place then some entry.value.payload else none
  | .prepare _ => none

/-- The first entry and the others. -/
theorem pending_cons (dbId : ℤ) (key : ReceiverQueueKey) (value : ReceiverQueueValue)
    (rest : List (ReceiverQueueKey×ReceiverQueueValue)) :
    pending dbId ((key,value)::rest)=
      if dbId∈value.dbids then value.payload::pending dbId rest else pending dbId rest := by
  simp only [pending,ReceiverQueueValue.hasDbId,List.filter_cons,decide_eq_true_eq]
  split <;> rfl

/-- A pop of a database takes its first payload off what waits for it. -/
theorem pending_behindPop_self {key : ReceiverQueueKey} {value : ReceiverQueueValue} {dbId : ℤ}
    (hid : dbId∈value.dbids) (honce : value.dbids.Nodup) (rest : List (ReceiverQueueKey×ReceiverQueueValue)) :
    value.payload::pending dbId (behindPop key value dbId rest)=pending dbId ((key,value)::rest) := by
  rw [pending_cons,if_pos hid,behindPop]
  split
  · rfl
  · rw [pending_cons,if_neg honce.not_mem_erase]

/-- Nothing changes for the other databases. -/
theorem pending_behindPop_other (key : ReceiverQueueKey) (value : ReceiverQueueValue) {dbId other : ℤ}
    (hne : other≠dbId) (rest : List (ReceiverQueueKey×ReceiverQueueValue)) :
    pending other (behindPop key value dbId rest)=pending other ((key,value)::rest) := by
  have hmem : other∈value.dbids.erase dbId ↔ other∈value.dbids := List.mem_erase_of_ne hne
  rw [pending_cons,behindPop]
  split
  · next hnil =>
    have hnot : other∉value.dbids := fun h => by
      have hm := hmem.mpr h
      rw [hnil] at hm
      cases hm
    rw [if_neg hnot]
  · rw [pending_cons]
    simp only [hmem]

/-- A database in use whose calls return zero. -/
def Stores (v : Visit) : Prop := v.config.active=true ∧ v.outcome=⟨0,0⟩

/-- Such a database is not named by the first entry, or it gets its payload. -/
theorem visit_stores (onLog : Bool) (s : Pass) {v : Visit} (h : Stores v) :
    (visit onLog s v=s ∧ ∀ key value rest,entries s.service=(key,value)::rest → v.config.id∉value.dbids) ∨
      ∃ key value rest,entries s.service=(key,value)::rest ∧ v.config.id∈value.dbids ∧
        (visit onLog s v).calls=insertCalls s v.seqno ⟨key,value⟩ ∧
        entries (visit onLog s v).service=behindPop key value v.config.id rest := by
  obtain ⟨hactive,hcodes⟩ := h
  obtain ⟨hsame,⟨code,hpeek⟩|⟨-,hopen,-⟩⟩|⟨entry,hpeek,⟨hidle,-⟩|⟨-,-,hvisit⟩⟩ := visit_cases onLog s v
  · refine .inl ⟨hsame,fun key value rest hlist hid => ?_⟩
    rw [peek_first (head_of_entries hlist) hid] at hpeek
    cases hpeek
  · rw [hcodes] at hopen
    exact absurd rfl hopen
  · rw [hactive] at hidle
    cases hidle
  · obtain ⟨hhead,hid⟩ := peek_eq_ok hpeek
    obtain ⟨rest,hlist⟩ := entries_of_head hhead
    refine .inr ⟨entry.key,entry.value,rest,hlist,hid,?_,?_⟩
    · rw [hvisit]
    · rw [hvisit]
      exact entries_popped hlist v.config.id

/-- Entries of a queue all wait as they should. -/
def AllProper (ids : List ℤ) (s : Pass) : Prop := ∀ e∈entries s.service,Proper ids e.2

/-- A visit keeps the entries proper. -/
theorem AllProper.visit {ids : List ℤ} {s : Pass} (hs : AllProper ids s) (onLog : Bool) {v : Visit} (h : Stores v) :
    AllProper ids (visit onLog s v) := by
  obtain ⟨hsame,-⟩|⟨key,value,rest,hlist,-,-,hbehind⟩ := visit_stores onLog s h
  · rwa [hsame]
  · rw [AllProper,hbehind]
    rw [AllProper,hlist] at hs
    exact proper_behindPop hs v.config.id

/-- What went into a place, with what waits for a database behind it. -/
def balance (place : ℕ) (dbId : ℤ) (s : Pass) : List Bytes :=
  insertedAt place s.calls++pending dbId (entries s.service)

/-- Payloads at a place after a visit. -/
theorem insertedAt_insertCalls (place : ℕ) (s : Pass) (seqno : ℕ) (entry : ReceiverQueueEntry) :
    insertedAt place (insertCalls s seqno entry)=
      insertedAt place s.calls++if seqno=place then [entry.value.payload] else [] := by
  rw [insertCalls]
  by_cases hplace : seqno=place <;> cases s.prepared <;> simp [insertedAt,hplace]

/-- A visit keeps the balance of every place. -/
theorem balance_visit {ids : List ℤ} {s : Pass} (hs : AllProper ids s) (onLog : Bool) {v : Visit} (h : Stores v)
    {place : ℕ} {dbId : ℤ} (hplace : v.seqno=place ↔ v.config.id=dbId) :
    balance place dbId (visit onLog s v)=balance place dbId s := by
  obtain ⟨hsame,-⟩|⟨key,value,rest,hlist,hid,hcalls,hbehind⟩ := visit_stores onLog s h
  · rw [hsame]
  · rw [balance,balance,hcalls,hbehind,hlist,insertedAt_insertCalls,List.append_assoc]
    rw [AllProper,hlist] at hs
    by_cases hdb : v.config.id=dbId
    · subst hdb
      rw [if_pos (hplace.mpr rfl),← pending_behindPop_self hid (hs (key,value) List.mem_cons_self).once rest]
      rfl
    · rw [if_neg fun hp => hdb (hplace.mp hp),pending_behindPop_other key value (fun he => hdb he.symm) rest]
      rfl

/-- A visit does not make the queue longer. -/
theorem length_visit_le (onLog : Bool) (s : Pass) {v : Visit} (h : Stores v) :
    (entries (visit onLog s v).service).length≤(entries s.service).length := by
  obtain ⟨hsame,-⟩|⟨key,value,rest,hlist,-,-,hbehind⟩ := visit_stores onLog s h
  · rw [hsame]
  · rw [hbehind,hlist]
    exact length_behindPop_le key value v.config.id rest

/-- Visits do not make the queue longer. -/
theorem length_visits_le (onLog : Bool) {vs : List Visit} (h : ∀ v∈vs,Stores v) (s : Pass) :
    (entries (run (visit onLog) s vs).service).length≤(entries s.service).length :=
  @run_invariant _ _ (visit onLog) (fun t => (entries t.service).length≤(entries s.service).length) vs
    (fun v hv t ht => (length_visit_le onLog t (h v hv)).trans ht) s le_rfl

/-- Visits to all databases that the first entry names take it off. -/
theorem first_drained (onLog : Bool) {vs : List Visit} (h : ∀ v∈vs,Stores v) {s : Pass} {key : ReceiverQueueKey}
    {value : ReceiverQueueValue} {rest : List (ReceiverQueueKey×ReceiverQueueValue)}
    (hlist : entries s.service=(key,value)::rest) (hfirst : Proper (vs.map fun v => v.config.id) value) :
    (entries (run (visit onLog) s vs).service).length≤rest.length := by
  induction vs generalizing s value with
  | nil => exact absurd (List.subset_nil.mp hfirst.configured) hfirst.waits
  | cons v vs ih =>
    obtain ⟨hv,hrest⟩ := List.forall_mem_cons.mp h
    rw [run_cons]
    obtain ⟨hsame,hnot⟩|⟨key',value',rest',hlist',hid,-,hbehind⟩ := visit_stores onLog s hv
    · -- the first entry does not name this database
      rw [hsame]
      refine ih hrest hlist ⟨hfirst.waits,hfirst.once,fun dbId hm => ?_⟩
      refine (List.mem_cons.mp (hfirst.configured hm)).resolve_left fun he => hnot key value rest hlist ?_
      change dbId=v.config.id at he
      rwa [← he]
    · obtain ⟨hhead,rfl⟩ := List.cons.inj (hlist.symm.trans hlist')
      obtain ⟨rfl,rfl⟩ := Prod.mk.inj hhead
      by_cases hnil : value.dbids.erase v.config.id=[]
      · rw [behindPop,if_pos hnil] at hbehind
        exact (length_visits_le onLog hrest _).trans (by rw [hbehind])
      · rw [behindPop,if_neg hnil] at hbehind
        refine ih hrest hbehind ⟨hnil,hfirst.once.erase _,fun dbId hm => ?_⟩
        refine (List.mem_cons.mp (hfirst.configured (List.mem_of_mem_erase hm))).resolve_left fun he => ?_
        exact hfirst.once.not_mem_erase (he ▸ hm)

/-- A visit of a pass belongs to a place of the configuration. -/
theorem mem_visits {dbs : List ConfigDatabase} {outcome : ℕ → Outcome} {v : Visit} (h : v∈visits dbs outcome) :
    dbs[v.seqno]?=some v.config ∧ v.outcome=outcome v.seqno := by
  obtain ⟨⟨db,place⟩,hm,rfl⟩ := List.mem_map.mp h
  exact ⟨List.mem_zipIdx_iff_getElem?.mp hm,rfl⟩

/-- Databases of a pass in their order. -/
theorem visits_ids (dbs : List ConfigDatabase) (outcome : ℕ → Outcome) :
    ((visits dbs outcome).map fun v => v.config.id)=dbs.map ConfigDatabase.id := by
  have hfst : dbs.zipIdx.map Prod.fst=dbs := List.zipIdx_map_fst 0 dbs
  conv_rhs => rw [← hfst,List.map_map]
  rw [visits,List.map_map]
  rfl

section Steps

variable {dbs : List ConfigDatabase} (hactive : ∀ db∈dbs,db.active=true)
include hactive

/-- All visits of a pass without failures store. -/
theorem visits_store {outcome : ℕ → Outcome} (hcodes : ∀ place,outcome place=⟨0,0⟩) :
    ∀ v∈visits dbs outcome,Stores v := by
  intro v hv
  obtain ⟨hdb,hcode⟩ := mem_visits hv
  exact ⟨hactive v.config (List.mem_of_getElem? hdb),hcode.trans (hcodes v.seqno)⟩

/-- A pass keeps proper entries and balances, and shortens the queue. -/
theorem put2databases_drains (hids : (dbs.map ConfigDatabase.id).Nodup) (onLog : Bool) {outcome : ℕ → Outcome}
    (hcodes : ∀ place,outcome place=⟨0,0⟩) {s : JsonFileReceiverQueueService} (calls : List Call)
    (hs : AllProper (dbs.map ConfigDatabase.id) (start s calls)) :
    AllProper (dbs.map ConfigDatabase.id) (put2databases onLog dbs outcome s calls) ∧
      (entries (put2databases onLog dbs outcome s calls).service).length≤(entries s).length-1 ∧
      ∀ (place : ℕ) (db : ConfigDatabase),dbs[place]?=some db →
        balance place db.id (put2databases onLog dbs outcome s calls)=balance place db.id (start s calls) := by
  have hstore := visits_store hactive hcodes
  refine ⟨?_,?_,fun place db hdb => ?_⟩
  · exact @run_invariant _ _ (visit onLog) (AllProper (dbs.map ConfigDatabase.id)) _
      (fun v hv t ht => AllProper.visit ht onLog (hstore v hv)) _ hs
  · cases hlist : entries s with
    | nil => exact (length_visits_le onLog hstore (start s calls)).trans (le_of_eq (congrArg List.length hlist))
    | cons first rest =>
      refine first_drained onLog hstore hlist ?_
      rw [visits_ids]
      exact hs first (by rw [start,hlist]; exact List.mem_cons_self)
  · refine (@run_invariant _ _ (visit onLog) (fun t => AllProper (dbs.map ConfigDatabase.id) t ∧
      balance place db.id t=balance place db.id (start s calls)) _ (fun v hv t ht => ?_) _ ⟨hs,rfl⟩).2
    have hplace : v.seqno=place ↔ v.config.id=db.id := by
      obtain ⟨hv,-⟩ := mem_visits hv
      refine ⟨fun he => ?_,fun he => ?_⟩
      · rw [he,hdb] at hv
        exact (congrArg ConfigDatabase.id (Option.some.inj hv)).symm
      · obtain ⟨hlt,-⟩ := List.getElem?_eq_some_iff.mp hv
        refine (List.getElem?_inj (by rwa [List.length_map]) hids).mp ?_
        rw [List.getElem?_map,List.getElem?_map,hv,hdb]
        exact congrArg some he
    exact ⟨ht.1.visit onLog (hstore v hv),(balance_visit ht.1 onLog (hstore v hv) hplace).trans ht.2⟩

/-- Some passes. -/
theorem passes_drain (hids : (dbs.map ConfigDatabase.id).Nodup) (onLog : Bool) {outcome : ℕ → ℕ → Outcome}
    (hcodes : ∀ pass place,outcome pass place=⟨0,0⟩) (n : ℕ) {s : JsonFileReceiverQueueService} {calls : List Call}
    (hs : AllProper (dbs.map ConfigDatabase.id) (start s calls)) :
    (entries (passes onLog dbs outcome n (s,calls)).1).length≤(entries s).length-n ∧
      ∀ (place : ℕ) (db : ConfigDatabase),dbs[place]?=some db →
        insertedAt place (passes onLog dbs outcome n (s,calls)).2++
            pending db.id (entries (passes onLog dbs outcome n (s,calls)).1)=
          insertedAt place calls++pending db.id (entries s) := by
  induction n generalizing s calls with
  | zero => exact ⟨le_rfl,fun _ _ _ => rfl⟩
  | succ n ih =>
    obtain ⟨hproper,hshort,hbalance⟩ := put2databases_drains hactive hids onLog (hcodes n) calls hs
    obtain ⟨hlength,hrest⟩ := ih hproper
    rw [passes]
    have hle := hlength.trans (Nat.sub_le_sub_right hshort n)
    rw [Nat.sub_sub,Nat.add_comm] at hle
    exact ⟨hle,fun place db hdb => (hrest place db hdb).trans (hbalance place db hdb)⟩

/-- A step of the processor over databases that do not fail empties a queue
within its limit, and every database gets the payloads of the entries that name
it, in the order of their keys. -/
theorem processQueue_drains (hids : (dbs.map ConfigDatabase.id).Nodup) (onLog : Bool) {outcome : ℕ → ℕ → Outcome}
    (hcodes : ∀ pass place,outcome pass place=⟨0,0⟩) {s : JsonFileReceiverQueueService}
    (hsize : s.storage.size≤MAX_QUEUE_CNT_PER_STEP)
    (hentries : ∀ e∈s.storage.toList,Proper (dbs.map ConfigDatabase.id) e.2) :
    (processQueue onLog dbs outcome s).1.storage.toList=[] ∧
      ∀ (place : ℕ) (db : ConfigDatabase),dbs[place]?=some db →
        insertedAt place (processQueue onLog dbs outcome s).2=
          (s.storage.toList.filter fun e => db.id∈e.2.dbids).map fun e => e.2.payload := by
  obtain ⟨hlength,hbalance⟩ := passes_drain hactive hids onLog hcodes (min s.storage.size MAX_QUEUE_CNT_PER_STEP)
    (show AllProper (dbs.map ConfigDatabase.id) (start s []) from hentries)
  have hempty : entries (processQueue onLog dbs outcome s).1=[] := by
    have hcount : (entries s).length=s.storage.size := Std.TreeMap.length_toList
    rw [min_eq_left hsize,hcount,Nat.sub_self] at hlength
    rw [processQueue,min_eq_left hsize]
    exact List.eq_nil_of_length_eq_zero (Nat.le_zero.mp hlength)
  refine ⟨hempty,fun place db hdb => ?_⟩
  have htotal := hbalance place db hdb
  change insertedAt place (processQueue onLog dbs outcome s).2++pending db.id (entries (processQueue onLog dbs outcome s).1)=_
    at htotal
  rw [hempty] at htotal
  simpa [pending,insertedAt,ReceiverQueueValue.hasDbId] using htotal

end Steps

/-- Two payloads, of which the first one is for two databases. -/
def twoEntries : JsonFileReceiverQueueService :=
  pushEntry (pushEntry (.fresh [1,2]) ⟨⟨⟨10,0⟩,1⟩,⟨7,Records.DeviceId.empty,[1,2,3],5,[1,2]⟩⟩)
    ⟨⟨⟨20,0⟩,2⟩,⟨8,Records.DeviceId.empty,[4],5,[2]⟩⟩

/-- They are drained into two databases. -/
theorem processQueue_twoEntries :
    (processQueue true [⟨1,true⟩,⟨2,true⟩] (fun _ _ => ⟨0,0⟩) twoEntries).1.storage.toList=[] ∧
      ∀ (place : ℕ) (db : ConfigDatabase),([⟨1,true⟩,⟨2,true⟩] : List ConfigDatabase)[place]?=some db →
        insertedAt place (processQueue true [⟨1,true⟩,⟨2,true⟩] (fun _ _ => ⟨0,0⟩) twoEntries).2=
          (twoEntries.storage.toList.filter fun e => db.id∈e.2.dbids).map fun e => e.2.payload := by
  have hlist : twoEntries.storage.toList.all (fun e => decide (e.2.dbids≠[] ∧ e.2.dbids.Nodup ∧ e.2.dbids⊆[1,2]))=true := by
    decide +kernel
  refine processQueue_drains (by decide) (by decide) true (fun _ _ => rfl) (by decide +kernel) fun e he => ?_
  obtain ⟨hwaits,honce,hids⟩ := of_decide_eq_true (List.all_eq_true.mp hlist e he)
  exact ⟨hwaits,honce,hids⟩

end LorawanServer.QueueDrain
