import LorawanServer.ReceiverQueue

/-!
# Payloads on their way to the databases

`put2databases` beside a listener that pushes packets. For each database the
processor looks at the first entry of the queue, inserts its payload and then
takes the database off the first entry. Packets may be pushed between these
steps, and the queue is ordered by receive time, so the first entry need not be
the one that was inserted.
-/

namespace LorawanServer.DatabaseDelivery

open ReceiverQueue StepRun

/-- Where the processor stands between two of its steps. -/
inductive Stage where
  /-- Before the look at the queue for the next database. -/
  | idle
  /-- The entry names the database. -/
  | peeked (dbId : ℤ) (entry : ReceiverQueueEntry)
  /-- The payload is in the database. -/
  | inserted (dbId : ℤ) (entry : ReceiverQueueEntry)
  deriving DecidableEq

/-- The entry the processor looked at. -/
def Stage.entry : Stage → Option ReceiverQueueEntry
  | .idle => none
  | .peeked _ entry | .inserted _ entry => some entry

/-- The queue and the processor, with a record of what went in and out. -/
structure Delivery where
  /-- The queue. -/
  service : JsonFileReceiverQueueService
  /-- Databases that the running `put2databases` has not come to. -/
  remaining : List ℤ
  /-- Between which steps the processor stands. -/
  stage : Stage
  /-- Keys of the entries that were queued. -/
  queued : List ReceiverQueueKey
  /-- Keys of the inserted entries with their databases. -/
  insertions : List (ReceiverQueueKey×ℤ)

/-- A fresh queue and a processor with these databases, all of them active. -/
def Delivery.start (dbs : List ℤ) : Delivery := ⟨.fresh dbs,[],.idle,[],[]⟩

/-- One step of one of the two threads. -/
inductive Event where
  /-- The listener pushes a packet. -/
  | listen (call : PushCall)
  /-- The processor does its next step. -/
  | process

/-- A packet comes in. -/
def listen (s : Delivery) (call : PushCall) : Delivery :=
  {s with
    service := pushStep s.service call
    queued := if accepted s.service call then (entryOf s.service call.packet call.time).key::s.queued else s.queued}

/-- The next step of `put2databases`, or the start of the next call. -/
def process (s : Delivery) : Delivery :=
  match s.stage with
  | .idle =>
    match s.remaining with
    | [] => {s with remaining := s.service.dbs}
    | dbId::rest =>
      match peek s.service dbId with
      | .ok entry => {s with remaining := rest,stage := .peeked dbId entry}
      | .error _ => {s with remaining := rest}
  | .peeked dbId entry => {s with stage := .inserted dbId entry,insertions := (entry.key,dbId)::s.insertions}
  | .inserted dbId _ => {s with stage := .idle,service := (pop s.service dbId).1}

/-- One step of the system. -/
def step (s : Delivery) : Event → Delivery
  | .listen call => listen s call
  | .process => process s

/-- A pop takes the database off the very entry that was peeked. -/
def PopsPeeked (s : Delivery) (e : Event) : Prop :=
  match s.stage,e with
  | .inserted dbId entry,.process => dbId∈entry.value.dbids ∧ (pop s.service dbId).2=(some entry,0)
  | _,_ => True

/-- Mentions of the database that an entry still has in the queue. -/
def waiting (s : JsonFileReceiverQueueService) (key : ReceiverQueueKey) (dbId : ℤ) : ℕ :=
  match s.storage[key]? with
  | none => 0
  | some value => value.dbids.count dbId

/-- The entry is in the database and its mention still in the queue. -/
def Stage.inHand (stage : Stage) (key : ReceiverQueueKey) (dbId : ℤ) : ℕ :=
  match stage with
  | .inserted id entry => if (entry.key,id)=(key,dbId) then 1 else 0
  | _ => 0

/-- What was inserted is what entries no longer name. With databases of
different numbers nothing is inserted twice into one of them. -/
structure ExactlyOnce (s : Delivery) : Prop where
  /-- Two entries have two keys. -/
  distinct : s.queued.Nodup
  /-- Each mention taken off was inserted, and each insertion takes one off. -/
  balanced : ∀ key∈s.queued,∀ dbId,
    s.insertions.count (key,dbId)+waiting s.service key dbId=s.service.dbs.count dbId+s.stage.inHand key dbId
  /-- Nothing else is inserted. -/
  onlyQueued : ∀ insertion∈s.insertions,insertion.1∈s.queued
  /-- No entry goes into one database twice. -/
  notTwice : s.service.dbs.Nodup → s.insertions.Nodup

/-- Every step pops what was peeked and leaves the deliveries in order. -/
def Delivers (s : Delivery) (e : Event) : Prop := PopsPeeked s e ∧ ExactlyOnce (step s e)

/-- A packet taken between a peek and its pop does not come before the entry
that was peeked. -/
def StaysBehind (s : Delivery) : Event → Prop
  | .listen call => accepted s.service call=true → ∀ entry∈s.stage.entry,
    ReceiverQueueKeyCompare (entryOf s.service call.packet call.time).key entry.key≠true
  | .process => True

instance (s : Delivery) : (e : Event) → Decidable (StaysBehind s e)
  | .listen _ => inferInstanceAs (Decidable (_ → _))
  | .process => .isTrue trivial

/-- The entry the processor has in hand is the first one and names its database. -/
def Stage.InFront (stage : Stage) (s : JsonFileReceiverQueueService) : Prop :=
  match stage with
  | .idle => True
  | .peeked dbId entry | .inserted dbId entry => head s=some entry ∧ dbId∈entry.value.dbids

/-- What is kept while the packets stay behind the entry in hand. -/
structure Kept (s : Delivery) : Prop where
  /-- Keys have the numbers that were given. -/
  numbered : ∀ key∈s.queued,key.id≤ s.service.cnt
  /-- The queue has no other keys. -/
  stored : ∀ key∈s.service.storage,key∈s.queued
  /-- The first entry is in hand. -/
  inFront : s.stage.InFront s.service
  /-- Two entries have two keys. -/
  distinct : s.queued.Nodup
  /-- Insertions and mentions are in balance. -/
  balanced : ∀ key∈s.queued,∀ dbId,
    s.insertions.count (key,dbId)+waiting s.service key dbId=s.service.dbs.count dbId+s.stage.inHand key dbId
  /-- Nothing else is inserted. -/
  onlyQueued : ∀ insertion∈s.insertions,insertion.1∈s.queued

/-- An entry at the front names its database once more than the list without
the entry in hand. -/
theorem Stage.InFront.inHand_le {stage : Stage} {s : JsonFileReceiverQueueService} (h : stage.InFront s)
    (key : ReceiverQueueKey) (dbId : ℤ) : stage.inHand key dbId≤waiting s key dbId := by
  cases stage with
  | idle => exact Nat.zero_le _
  | peeked id entry => exact Nat.zero_le _
  | inserted id entry =>
    obtain ⟨hhead,hid⟩ := h
    rw [Stage.inHand]
    split
    · next heq =>
      obtain ⟨rfl,rfl⟩ := Prod.mk.inj heq
      rw [waiting,(head_eq_some_iff.mp hhead).1]
      exact List.count_pos_iff.mpr hid
    · exact Nat.zero_le _

/-- What is kept gives deliveries in order. -/
theorem Kept.exactlyOnce {s : Delivery} (h : Kept s) : ExactlyOnce s where
  distinct := h.distinct
  balanced := h.balanced
  onlyQueued := h.onlyQueued
  notTwice := by
    intro hdbs
    rw [List.nodup_iff_count_le_one] at hdbs ⊢
    rintro ⟨key,dbId⟩
    by_cases hm : (key,dbId)∈s.insertions
    · have hb := h.balanced key (h.onlyQueued _ hm) dbId
      have hle := h.inFront.inHand_le key dbId
      have hone := hdbs dbId
      omega
    · rw [List.count_eq_zero_of_not_mem hm]
      exact Nat.zero_le _

/-- A fresh system. -/
theorem Kept.start (dbs : List ℤ) : Kept (.start dbs) where
  numbered := fun _ hk => absurd hk List.not_mem_nil
  stored := fun _ hk => absurd hk Std.TreeMap.not_mem_emptyc
  inFront := trivial
  distinct := List.nodup_nil
  balanced := fun _ hk => absurd hk List.not_mem_nil
  onlyQueued := fun _ hi => absurd hi List.not_mem_nil

/-- The key of a packet that comes next was never queued. -/
theorem Kept.fresh {s : Delivery} (h : Kept s) (call : PushCall) :
    (entryOf s.service call.packet call.time).key∉s.queued := by
  intro hm
  have hle := h.numbered _ hm
  simp only [entryOf] at hle
  omega

/-- A packet that is taken behind the first entry leaves it the first one. -/
theorem head_taken {s : JsonFileReceiverQueueService} {call : PushCall} {entry : ReceiverQueueEntry}
    (h : head s=some entry) (hnew : (entryOf s call.packet call.time).key∉s.storage)
    (hb : ReceiverQueueKeyCompare (entryOf s call.packet call.time).key entry.key≠true)
    (fcnts : Std.TreeMap Records.DEVADDR FcntTime) : head (taken s call fcnts)=some entry := by
  obtain ⟨hv,hfirst⟩ := head_eq_some_iff.mp h
  have hne : (entryOf s call.packet call.time).key≠entry.key := by
    intro heq
    rw [heq,Std.TreeMap.mem_iff_isSome_getElem?,hv] at hnew
    exact hnew rfl
  rw [head_eq_some_iff,taken]
  refine ⟨?_,fun key hk => ?_⟩
  · rw [getElem?_insert,if_neg hne]
    exact hv
  · rw [Std.TreeMap.mem_insert,Std.compare_eq_iff_eq] at hk
    rcases hk with rfl|hold
    · exact hb
    · exact hfirst key hold

/-- The entry of a packet that is taken names all databases. -/
theorem waiting_taken (s : JsonFileReceiverQueueService) (call : PushCall)
    (fcnts : Std.TreeMap Records.DEVADDR FcntTime) (key : ReceiverQueueKey) (dbId : ℤ) :
    waiting (taken s call fcnts) key dbId=
      if key=(entryOf s call.packet call.time).key then s.dbs.count dbId else waiting s key dbId := by
  rw [waiting,taken,getElem?_insert,waiting]
  by_cases hk : key=(entryOf s call.packet call.time).key
  · rw [if_pos hk,if_pos hk.symm]
    rfl
  · rw [if_neg hk,if_neg fun h => hk h.symm]

/-- A packet keeps the system in order when it stays behind the entry in hand. -/
theorem Kept.listen {s : Delivery} (h : Kept s) {call : PushCall} (hb : StaysBehind s (.listen call)) :
    Kept (listen s call) := by
  rw [DatabaseDelivery.listen]
  obtain ⟨ha,hs⟩|⟨ha,fcnts,hs⟩ := pushStep_cases s.service call
  · rw [hs,ha]
    exact h
  · rw [hs,ha,if_pos rfl]
    have hfresh := h.fresh call
    have hnew : (entryOf s.service call.packet call.time).key∉s.service.storage := fun hm => hfresh (h.stored _ hm)
    refine ⟨?_,?_,?_,List.nodup_cons.mpr ⟨hfresh,h.distinct⟩,?_,fun i hi => List.mem_cons_of_mem _ (h.onlyQueued i hi)⟩
    · intro key hk
      change key.id≤ s.service.cnt+1
      rcases List.mem_cons.mp hk with rfl|hold
      · exact le_rfl
      · have hle := h.numbered key hold
        omega
    · intro key hk
      change key∈s.service.storage.insert _ _ at hk
      rw [Std.TreeMap.mem_insert,Std.compare_eq_iff_eq] at hk
      rcases hk with rfl|hold
      · exact List.mem_cons_self
      · exact List.mem_cons_of_mem _ (h.stored key hold)
    · have hfront := h.inFront
      cases hstage : s.stage with
      | idle => trivial
      | peeked dbId entry =>
        rw [hstage] at hfront
        exact ⟨head_taken hfront.1 hnew (hb ha entry (by rw [hstage]; rfl)) fcnts,hfront.2⟩
      | inserted dbId entry =>
        rw [hstage] at hfront
        exact ⟨head_taken hfront.1 hnew (hb ha entry (by rw [hstage]; rfl)) fcnts,hfront.2⟩
    · intro key hk dbId
      change s.insertions.count (key,dbId)+waiting (taken s.service call fcnts) key dbId=
        s.service.dbs.count dbId+s.stage.inHand key dbId
      rw [waiting_taken]
      by_cases hkey : key=(entryOf s.service call.packet call.time).key
      · -- nothing was inserted under the new key, and it is not in hand
        have hnone : (key,dbId)∉s.insertions := fun hm => hfresh (hkey ▸ h.onlyQueued _ hm)
        have hwait : waiting s.service key dbId=0 := by
          rw [waiting,Std.TreeMap.getElem?_eq_none (hkey ▸ hnew)]
        have hhand := h.inFront.inHand_le key dbId
        rw [if_pos hkey,List.count_eq_zero_of_not_mem hnone]
        omega
      · rw [if_neg hkey]
        exact h.balanced key ((List.mem_cons.mp hk).resolve_left hkey) dbId

/-- A pop takes off one mention of the database in the first entry. -/
theorem waiting_popped {s : JsonFileReceiverQueueService} {entry : ReceiverQueueEntry} {dbId : ℤ}
    (h : head s=some entry) (hid : dbId∈entry.value.dbids) (key : ReceiverQueueKey) (id : ℤ) :
    waiting (popped s entry dbId) key id+(if (entry.key,dbId)=(key,id) then 1 else 0)=waiting s key id := by
  by_cases hkey : entry.key=key
  · have hleft : waiting (popped s entry dbId) key id=(entry.value.dbids.erase dbId).count id := by
      rw [waiting,getElem?_popped,if_pos hkey]
      by_cases hnil : entry.value.dbids.erase dbId=[]
      · rw [if_pos hnil,hnil]
        rfl
      · rw [if_neg hnil]
    rw [hleft,waiting,← hkey,(head_eq_some_iff.mp h).1]
    dsimp only
    by_cases hd : dbId=id
    · subst hd
      have hpos := List.count_pos_iff.mpr hid
      rw [if_pos rfl,List.count_erase_self]
      omega
    · rw [if_neg fun heq => hd (Prod.mk.inj heq).2,List.count_erase_of_ne fun heq => hd heq.symm]
      rfl
  · rw [waiting,getElem?_popped,if_neg hkey,if_neg fun heq => hkey (Prod.mk.inj heq).1]
    rfl

/-- A step of the processor keeps the system in order. -/
theorem Kept.process {s : Delivery} (h : Kept s) : Kept (process s) := by
  have hfront := h.inFront
  have hbalanced := h.balanced
  rw [DatabaseDelivery.process]
  cases hstage : s.stage with
  | idle =>
    rw [hstage] at hfront hbalanced
    dsimp only
    cases s.remaining with
    | nil => exact ⟨h.numbered,h.stored,hfront,h.distinct,hbalanced,h.onlyQueued⟩
    | cons dbId rest =>
      dsimp only
      cases hpeek : peek s.service dbId with
      | ok entry => exact ⟨h.numbered,h.stored,peek_eq_ok hpeek,h.distinct,hbalanced,h.onlyQueued⟩
      | error code => exact ⟨h.numbered,h.stored,hfront,h.distinct,hbalanced,h.onlyQueued⟩
  | peeked dbId entry =>
    rw [hstage] at hfront hbalanced
    have hin : entry.key∈s.service.storage := by
      rw [Std.TreeMap.mem_iff_isSome_getElem?,(head_eq_some_iff.mp hfront.1).1]
      rfl
    refine ⟨h.numbered,h.stored,hfront,h.distinct,fun key hk id => ?_,fun insertion hi => ?_⟩
    · have hb := hbalanced key hk id
      simp only [Stage.inHand,List.count_cons,beq_iff_eq] at hb ⊢
      omega
    · rcases List.mem_cons.mp hi with rfl|hold
      · exact h.stored _ hin
      · exact h.onlyQueued insertion hold
  | inserted dbId entry =>
    rw [hstage] at hfront hbalanced
    obtain ⟨hhead,hid⟩ := hfront
    dsimp only
    rw [pop_first hhead hid]
    refine ⟨h.numbered,fun key hk => h.stored key (mem_popped hhead hk),trivial,h.distinct,fun key hk id => ?_,
      h.onlyQueued⟩
    have hb := hbalanced key hk id
    have hw := waiting_popped hhead hid key id
    change s.insertions.count (key,id)+waiting (popped s.service entry dbId) key id=s.service.dbs.count id+0
    rw [Stage.inHand] at hb
    omega

/-- A step keeps the system in order. -/
theorem Kept.step {s : Delivery} {e : Event} (h : Kept s) (hb : StaysBehind s e) : Kept (step s e) := by
  cases e with
  | listen call => exact h.listen hb
  | process => exact h.process

/-- A pop of what is in hand takes the first entry. -/
theorem Kept.popsPeeked {s : Delivery} (h : Kept s) (e : Event) : PopsPeeked s e := by
  have hfront := h.inFront
  rw [PopsPeeked.eq_def]
  split
  · next dbId entry hstage =>
    rw [hstage] at hfront
    exact ⟨hfront.2,by rw [pop_first hfront.1 hfront.2]⟩
  · trivial

/-- While packets stay behind the entry in hand, every pop takes the database
off the entry that was inserted, and every entry goes once into each database. -/
theorem delivers_of_staysBehind (dbs : List ℤ) {events : List Event} (h : Along step StaysBehind (.start dbs) events) :
    Along step Delivers (.start dbs) events :=
  (h.with_invariant (Kept.start dbs) fun _ _ hk hb => hk.step hb).imp
    fun _ e hs => ⟨hs.1.popsPeeked e,(hs.1.step hs.2).exactlyOnce⟩

/-- A packet of a device, received at a second. -/
def packetCall (devaddr : Records.DEVADDR) (second : ℤ) : PushCall where
  packet := {Records.SemtechUDPPacket.empty with
    header := {Records.RfmHeader.empty with header := ⟨0x40,devaddr,0,1⟩}}
  time := ⟨second,0⟩
  now := second

/-- A later packet that comes in between the insertion and the pop. -/
theorem delivers_laterPacket : Along step Delivers (.start [1])
    [.listen (packetCall 7 10),.process,.process,.process,.listen (packetCall 8 20),.process] := by
  refine delivers_of_staysBehind [1] ?_
  simp only [along_cons_iff,along_nil,and_true]
  decide +kernel

/-- A packet with an earlier time comes in between the insertion and the pop:
it loses its database, and the entry that was inserted keeps it. -/
theorem earlierPacket_popped : ¬∀ dbs events,Along step Delivers (.start dbs) events := by
  intro h
  have hpops := (h [1] [.listen (packetCall 7 10),.process,.process,.process,.listen (packetCall 8 5),.process]
    [.listen (packetCall 7 10),.process,.process,.process,.listen (packetCall 8 5)] .process [] rfl).1
  have hstage : (run step (.start [1])
      [.listen (packetCall 7 10),.process,.process,.process,.listen (packetCall 8 5)]).stage=
        .inserted 1 (entryOf (.fresh [1]) (packetCall 7 10).packet ⟨10,0⟩) := by decide +kernel
  rw [PopsPeeked.eq_def,hstage] at hpops
  have hcode := hpops.2
  revert hcode
  decide +kernel

end LorawanServer.DatabaseDelivery
