import LorawanServer.ReceiverQueue

/-!
# Which packets are queued

A run of packets of one device with one counter should give one entry of the
queue. The memory holds the counter of the first packet of a device and never
another one. So later packets with that counter are dropped for ever, and
packets with any other counter are queued each time.
-/

namespace LorawanServer.Deduplication

open CppRuntime Records ReceiverQueue StepRun

/-- The memory is not cleared. -/
def NoClearing (s : JsonFileReceiverQueueService) (e : PushCall) : Prop := accepted s e=true → ¬ClearsAt (s.cnt+1)

instance (s : JsonFileReceiverQueueService) (e : PushCall) : Decidable (NoClearing s e) :=
  inferInstanceAs (Decidable (_ → _))

/-- A packet that is taken gives one new entry of the queue, another one none. -/
def QueuedOnce (s : JsonFileReceiverQueueService) (e : PushCall) : Prop :=
  if accepted s e then (entryOf s e.packet e.time).key∉s.storage ∧
    (pushStep s e).storage=s.storage.insert (entryOf s e.packet e.time).key (entryOf s e.packet e.time).value
  else (pushStep s e).storage=s.storage

/-- The packets of a run, with true for those that are taken. -/
def results (s : JsonFileReceiverQueueService) (events : List PushCall) : List (PushCall×Bool) :=
  outputs pushStep (fun s e => (e,accepted s e)) s events

/-- Counters of the packets of one device. -/
def countersOf (addr : DEVADDR) (events : List PushCall) : List UInt16 :=
  (events.filter fun e => e.addr=addr).map PushCall.fcnt

/-- Which packets of one device are taken. -/
def takenOf (addr : DEVADDR) (list : List (PushCall×Bool)) : List Bool :=
  (list.filter fun result => result.1.addr=addr).map Prod.snd

/-- Where a counter differs from the one in front of it. -/
def changes : UInt16 → List UInt16 → List Bool
  | _,[] => []
  | previous,fcnt::rest => decide (fcnt≠previous)::changes fcnt rest

/-- Where a run of equal counters starts. -/
def runStarts : List UInt16 → List Bool
  | [] => []
  | fcnt::rest => true::changes fcnt rest

/-- Every run of equal counters of a device gives exactly one entry. -/
def Deduplicates (s : JsonFileReceiverQueueService) (events : List PushCall) : Prop :=
  Along pushStep QueuedOnce s events ∧
    ∀ addr,takenOf addr (results s events)=runStarts (countersOf addr events)

/-- Only the first counter comes more than once in a row, and it comes nowhere
else. -/
def RepeatsFirst : List UInt16 → Prop
  | [] => True
  | first::rest => ∃ count later,rest=List.replicate count first++later ∧ first∉later ∧ later.IsChain (· ≠ ·)

/-- A packet of an unknown device is taken and its counter remembered. -/
theorem push_unknown {s : JsonFileReceiverQueueService} {e : PushCall} (hn : NoClearing s e)
    (h : s.fcnts[e.addr]?=none) :
    push s e.packet e.time e.now=(taken s e (s.fcnts.insert e.addr ⟨e.fcnt,e.time.tvSec⟩),true) := by
  have hd : isDuplicated s e.packet e.time.tvSec=
      ({s with fcnts := s.fcnts.insert e.addr ⟨e.fcnt,e.time.tvSec⟩},false) := by
    rw [isDuplicated,show s.fcnts[e.packet.header.header.devaddr]?=none from h]
    rfl
  have hclear : ¬ClearsAt (s.cnt+1) := hn (by rw [accepted,push,hd]; rfl)
  simp only [push,hd,entryOf,if_neg hclear]
  rfl

/-- A packet of a known device is dropped when it has the counter that is
remembered, and taken otherwise. -/
theorem push_known {s : JsonFileReceiverQueueService} {e : PushCall} (hn : NoClearing s e) {ft : FcntTime}
    (h : s.fcnts[e.addr]?=some ft) :
    push s e.packet e.time e.now=if e.fcnt=ft.fcnt then (s,false) else (taken s e s.fcnts,true) := by
  have hd : isDuplicated s e.packet e.time.tvSec=(s,decide (e.fcnt=ft.fcnt)) := by
    rw [isDuplicated,show s.fcnts[e.packet.header.header.devaddr]?=some ft from h]
    rfl
  by_cases hf : e.fcnt=ft.fcnt
  · rw [if_pos hf,push,hd,decide_eq_true hf]
    rfl
  · have hclear : ¬ClearsAt (s.cnt+1) := hn (by rw [accepted,push,hd,decide_eq_false hf]; rfl)
    rw [if_neg hf]
    simp only [push,hd,decide_eq_false hf,entryOf,if_neg hclear]
    rfl

/-- A packet gives one new entry or none, and keeps to the numbers. -/
theorem pushStep_queuedOnce {s : JsonFileReceiverQueueService} {e : PushCall} (h : Numbered s) :
    QueuedOnce s e ∧ Numbered (pushStep s e) := by
  rw [QueuedOnce]
  obtain ⟨ha,hs⟩|⟨ha,fcnts,hs⟩ := pushStep_cases s e
  · rw [hs,ha]
    exact ⟨rfl,h⟩
  · rw [hs,ha]
    exact ⟨⟨h.fresh e.packet e.time,rfl⟩,h.taken e fcnts⟩

/-- What is remembered for a device after a packet: the counter of its first one. -/
theorem pushStep_fcnts {s : JsonFileReceiverQueueService} {e : PushCall} (hn : NoClearing s e) (addr : DEVADDR) :
    (pushStep s e).fcnts[addr]?=
      if e.addr=addr then some (s.fcnts[addr]?.getD ⟨e.fcnt,e.time.tvSec⟩) else s.fcnts[addr]? := by
  cases hf : s.fcnts[e.addr]? with
  | none =>
    have hinsert : (pushStep s e).fcnts=s.fcnts.insert e.addr ⟨e.fcnt,e.time.tvSec⟩ := by
      rw [pushStep,push_unknown hn hf]
      rfl
    rw [hinsert,Std.TreeMap.getElem?_insert]
    by_cases ha : e.addr=addr
    · subst ha
      simp only [Std.ReflCmp.compare_self,if_true,hf,Option.getD_none]
    · simp only [Std.compare_eq_iff_eq,ha,if_false]
  | some ft =>
    have hsame : (pushStep s e).fcnts=s.fcnts := by
      rw [pushStep,push_known hn hf]
      split <;> rfl
    rw [hsame]
    split
    · next ha =>
      rw [← ha,hf,Option.getD_some]
    · rfl

/-- Which packets of a device are taken when a counter is remembered for it. -/
def takenAfter : Option FcntTime → List UInt16 → List Bool
  | some ft,fcnts => fcnts.map fun fcnt => decide (fcnt≠ft.fcnt)
  | none,[] => []
  | none,first::rest => true::rest.map fun fcnt => decide (fcnt≠first)

/-- The first packet of a device settles which of its packets are taken. -/
theorem takenOf_results {events : List PushCall} (addr : DEVADDR) :
    ∀ {s : JsonFileReceiverQueueService},Along pushStep NoClearing s events →
      takenOf addr (results s events)=takenAfter s.fcnts[addr]? (countersOf addr events) := by
  induction events with
  | nil =>
    intro s _
    cases s.fcnts[addr]? <;> rfl
  | cons e rest ih =>
    intro s h
    obtain ⟨hn,hrest⟩ := (along_cons_iff pushStep NoClearing s e rest).mp h
    have hlater := ih hrest
    by_cases ha : e.addr=addr
    · have htaken : takenOf addr (results s (e::rest))=accepted s e::takenOf addr (results (pushStep s e) rest) := by
        simp only [takenOf,results,outputs,List.filter_cons,ha,decide_true,if_true,List.map_cons]
      have hcounters : countersOf addr (e::rest)=e.fcnt::countersOf addr rest := by
        simp only [countersOf,List.filter_cons,ha,decide_true,if_true,List.map_cons]
      rw [htaken,hcounters,hlater,pushStep_fcnts hn,if_pos ha]
      subst ha
      cases hf : s.fcnts[e.addr]? with
      | none =>
        rw [accepted,push_unknown hn hf]
        rfl
      | some ft =>
        rw [accepted,push_known hn hf]
        by_cases hc : e.fcnt=ft.fcnt
        · rw [if_pos hc]
          simp only [takenAfter,List.map_cons,Option.getD_some,hc,ne_eq,not_true_eq_false,decide_false]
        · rw [if_neg hc]
          simp only [takenAfter,List.map_cons,Option.getD_some,hc,ne_eq,not_false_eq_true,decide_true]
    · have htaken : takenOf addr (results s (e::rest))=takenOf addr (results (pushStep s e) rest) := by
        simp only [takenOf,results,outputs,List.filter_cons,ha,decide_false,Bool.false_eq_true,if_false]
      have hcounters : countersOf addr (e::rest)=countersOf addr rest := by
        simp only [countersOf,List.filter_cons,ha,decide_false,Bool.false_eq_true,if_false]
      rw [htaken,hcounters,hlater,pushStep_fcnts hn,if_neg ha]

/-- Behind another counter, the places where a counter is not the first one are
the places where it changes exactly when the first counter does not come again
and no counter comes twice in a row. -/
theorem changes_eq_iff {first previous : UInt16} (hp : previous≠first) (rest : List UInt16) :
    (rest.map fun fcnt => decide (fcnt≠first))=changes previous rest ↔
      first∉rest ∧ (previous::rest).IsChain (· ≠ ·) := by
  induction rest generalizing previous with
  | nil => exact iff_of_true rfl ⟨List.not_mem_nil,List.isChain_singleton _⟩
  | cons fcnt rest ih =>
    rw [List.map_cons,changes,List.cons.injEq,List.isChain_cons_cons,List.mem_cons,not_or]
    by_cases hc : fcnt=first
    · subst hc
      simp only [ne_eq,not_true_eq_false,decide_false,hp.symm,not_false_eq_true,decide_true,Bool.false_eq_true,
        false_and]
    · rw [ih hc]
      by_cases hs : fcnt=previous
      · subst hs
        simp only [ne_eq,hc,not_false_eq_true,decide_true,not_true_eq_false,decide_false,Bool.true_eq_false,false_and,
          and_false]
      · have hne : first≠fcnt := fun h => hc h.symm
        have hne' : previous≠fcnt := fun h => hs h.symm
        simp only [ne_eq,hc,hs,hne,hne',not_false_eq_true,decide_true,true_and]

/-- The packets taken after the first one are the starts of runs exactly when
only the first counter is repeated, and only at the beginning. -/
theorem takenAfter_eq_iff (fcnts : List UInt16) : takenAfter none fcnts=runStarts fcnts ↔ RepeatsFirst fcnts := by
  cases fcnts with
  | nil => exact iff_of_true rfl trivial
  | cons first rest =>
    rw [takenAfter,runStarts,List.cons.injEq,RepeatsFirst]
    induction rest with
    | nil => exact iff_of_true ⟨rfl,rfl⟩ ⟨0,[],rfl,List.not_mem_nil,List.isChain_nil⟩
    | cons fcnt rest ih =>
      rw [List.map_cons,changes,List.cons.injEq]
      by_cases hc : fcnt=first
      · subst hc
        rw [and_iff_right rfl] at ih
        rw [and_iff_right rfl,and_iff_right rfl,ih]
        constructor
        · rintro ⟨count,later,rfl,hlater⟩
          exact ⟨count+1,later,rfl,hlater⟩
        · rintro ⟨count,later,hrest,hnot,hchain⟩
          cases count with
          | zero =>
            -- the rest starts with the first counter, so something of it was counted
            rw [List.replicate_zero,List.nil_append] at hrest
            exact absurd (hrest ▸ List.mem_cons_self) hnot
          | succ count => exact ⟨count,later,List.tail_eq_of_cons_eq hrest,hnot,hchain⟩
      · rw [changes_eq_iff hc]
        constructor
        · rintro ⟨-,-,hnot,hchain⟩
          refine ⟨0,fcnt::rest,rfl,?_,hchain⟩
          rw [List.mem_cons,not_or]
          exact ⟨fun h => hc h.symm,hnot⟩
        · rintro ⟨count,later,hrest,hnot,hchain⟩
          cases count with
          | zero =>
            rw [List.replicate_zero,List.nil_append] at hrest
            subst hrest
            exact ⟨rfl,rfl,fun h => hnot (List.mem_cons_of_mem _ h),hchain⟩
          | succ count => exact absurd (List.head_eq_of_cons_eq hrest) hc

/-- Without a clearing of the memory, every run of equal counters of a device
gives exactly one entry exactly when every device repeats the counter of its
first packet only, and only at the beginning. -/
theorem deduplicates_iff (dbs : List ℤ) {events : List PushCall} (h : Along pushStep NoClearing (.fresh dbs) events) :
    Deduplicates (.fresh dbs) events ↔ ∀ addr,RepeatsFirst (countersOf addr events) := by
  have hnumbered : Numbered (.fresh dbs) := fun key hk => absurd hk Std.TreeMap.not_mem_emptyc
  have hstep : Along pushStep QueuedOnce (.fresh dbs) events :=
    (h.with_invariant hnumbered fun s e hi _ => (pushStep_queuedOnce hi).2).imp
      fun s e hse => (pushStep_queuedOnce hse.1).1
  have htaken : ∀ addr,takenOf addr (results (.fresh dbs) events)=takenAfter none (countersOf addr events) :=
    fun addr => takenOf_results addr h
  rw [Deduplicates,and_iff_right hstep]
  exact forall_congr' fun addr => by rw [htaken,takenAfter_eq_iff]

/-- A packet of one device at a fixed time. -/
def packetCall (fcnt : UInt16) : PushCall where
  packet := {SemtechUDPPacket.empty with header := {RfmHeader.empty with header := ⟨0x40,7,0,fcnt⟩}}
  time := ⟨10,0⟩
  now := 10

/-- A device that sends its first packet twice and then two other ones. -/
theorem deduplicates_firstTwice :
    Deduplicates (.fresh [1]) [packetCall 1,packetCall 1,packetCall 2,packetCall 3] := by
  refine (deduplicates_iff [1] ?_).mpr fun addr => ?_
  · simp only [along_cons_iff,along_nil,and_true]
    decide +kernel
  · by_cases ha : addr=7
    · subst ha
      exact ⟨1,[2,3],rfl,by decide,by decide⟩
    · have hnone : countersOf addr [packetCall 1,packetCall 1,packetCall 2,packetCall 3]=[] := by
        have hne : ¬(7 : DEVADDR)=addr := fun h => ha h.symm
        simp only [countersOf,List.filter_cons,PushCall.addr,packetCall,hne,decide_false,Bool.false_eq_true,if_false,
          List.filter_nil,List.map_nil]
      rw [hnone]
      trivial

/-- A device that sends its second packet twice: both give an entry. -/
theorem secondTwice_queued :
    ¬∀ dbs events,Along pushStep NoClearing (.fresh dbs) events → Deduplicates (.fresh dbs) events := by
  intro h
  have hc : Along pushStep NoClearing (.fresh [1]) [packetCall 1,packetCall 2,packetCall 2] := by
    simp only [along_cons_iff,along_nil,and_true]
    decide +kernel
  have htaken := (h [1] _ hc).2 7
  revert htaken
  decide +kernel

end LorawanServer.Deduplication
