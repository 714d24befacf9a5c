import LorawanServer.KeyedFifo
import LorawanServer.QueueService

/-!
# When the packet queue is a queue

As long as no device queues one counter under two ports, the two containers of
`PacketQueue` represent one list of items in the order of arrival: a push
appends or absorbs, a call takes the oldest item. Then no address is stale, and
the queue drains. If, besides, items are pushed in the order of their due
times, no item that is due waits behind one that is not.
-/

namespace LorawanServer.QueueOrder

open CppRuntime Records PacketHandler PacketReplies StepRun PacketQueue QueueService KeyedFifo

/-- What a queued item makes of a duplicate. -/
def absorbDuplicate (value queued : SemtechUDPPacketItem) : Option SemtechUDPPacketItem :=
  if isDuplicate value queued then some (absorb value queued) else none

/-- A push into one list of items in the order of arrival. -/
def fifoPush (items : List SemtechUDPPacketItem) (item : SemtechUDPPacketItem) : List SemtechUDPPacketItem :=
  if (withKey getAddr (getAddr item) items).any (isDuplicate item) then
    items.lookmap fun queued => if getAddr queued=getAddr item then absorbDuplicate item queued else none
  else items++[item]

/-- The oldest item, once it is due. -/
def fifoTake (items : List SemtechUDPPacketItem) (t : Timeval) :
    Option SemtechUDPPacketItem×List SemtechUDPPacketItem :=
  match items with
  | [] => (none,[])
  | first::rest =>
    if timeLeadMicroseconds<diffMicroSeconds t first.time2send then (none,first::rest) else (some first,rest)

/-- The queue after a call, as one list. -/
def fifoStep (items : List SemtechUDPPacketItem) : QueueEvent → List SemtechUDPPacketItem
  | .push item => fifoPush items item
  | .getFirstExpired t => (fifoTake items t).2

/-- Items of one device have different counters. -/
def CountersDiffer (item other : SemtechUDPPacketItem) : Prop :=
  getAddr item=getAddr other → itemFcnt item≠ itemFcnt other

/-- The containers represent the list, in which no counter of a device occurs
twice. -/
structure Fifo (queue : Queue) (items : List SemtechUDPPacketItem) : Prop where
  /-- Order of service and vectors. -/
  represents : Represents getAddr queue.addrs (itemsAt queue) items
  /-- No vector is empty. -/
  noEmpty : NoEmpty queue
  /-- No counter of a device occurs twice. -/
  distinct : items.Pairwise CountersDiffer

/-- The condition on a call: a push does not bring a counter that is queued for
the device under another port. -/
def OnePort (queue : Queue) : QueueEvent → Prop
  | .push item => ∀ queued∈itemsAt queue (getAddr item),itemFcnt queued=itemFcnt item →
      itemPort queued=itemPort item
  | .getFirstExpired _ => True

/-- A duplicate leaves the address of the item that absorbs it. -/
theorem absorbDuplicate_addr {value queued result : SemtechUDPPacketItem}
    (h : absorbDuplicate value queued=some result) : getAddr result=getAddr queued := by
  rw [absorbDuplicate] at h
  split_ifs at h
  rw [←Option.some.inj h]
  exact absorb_eq (fun _ _ _ _ => rfl) value queued

/-- What does not depend on receptions and options stays in the list when it
absorbs a duplicate. -/
theorem fifoPush_map {β : Type*} {g : SemtechUDPPacketItem → β} {item : SemtechUDPPacketItem}
    (hg : ∀ queued,g (absorb item queued)=g queued) (items : List SemtechUDPPacketItem) :
    (items.lookmap fun queued =>
      if getAddr queued=getAddr item then absorbDuplicate item queued else none).map g=items.map g := by
  refine List.lookmap_map_eq _ g ?_ items
  intro queued result hr
  split_ifs at hr with ha
  · rw [absorbDuplicate] at hr
    split_ifs at hr
    · rw [←Option.some.inj hr,hg]
    · cases hr
  · cases hr

/-- A push under the condition is a push into the list. -/
theorem push_fifo {queue : Queue} {items : List SemtechUDPPacketItem} (h : Fifo queue items)
    {item : SemtechUDPPacketItem} (hc : OnePort queue (.push item)) :
    Fifo (push queue item) (fifoPush items item) := by
  have hitems : withKey getAddr (getAddr item) items=itemsAt queue (getAddr item) :=
    (h.represents.bucket_eq _).symm
  rw [fifoPush,hitems]
  have haddrs := addrs_push h.noEmpty item
  split_ifs at haddrs ⊢ with hd
  · refine ⟨?_,push_noEmpty h.noEmpty item,?_⟩
    · rw [haddrs]
      refine h.represents.lookmap (fun _ _ => absorbDuplicate_addr) fun a => ?_
      rw [itemsAt_push]
      split_ifs with ha
      · subst ha
        rw [pushItems,if_pos hd]
        rfl
      · rfl
    · let g : SemtechUDPPacketItem → DEVADDR×UInt16 := fun item => (getAddr item,itemFcnt item)
      have hm := fifoPush_map (g:=g) (absorb_eq (fun _ _ _ _ => rfl) item) items
      have hp : (items.map g).Pairwise fun x y => x.1=y.1 → x.2≠y.2 := List.pairwise_map.mpr h.distinct
      rw [←hm] at hp
      have hq := List.pairwise_map.mp hp
      exact hq
  · refine ⟨?_,push_noEmpty h.noEmpty item,?_⟩
    · rw [haddrs]
      refine h.represents.append fun a => ?_
      rw [itemsAt_push]
      split_ifs with ha
      · subst ha
        rw [pushItems,if_neg hd]
      · rfl
    · refine List.pairwise_append.mpr ⟨h.distinct,List.pairwise_singleton _ _,fun queued hq other ho => ?_⟩
      rw [List.mem_singleton.mp ho]
      intro ha hf
      -- a queued item with the counter has the port as well, so it would be a duplicate
      have hm : queued∈itemsAt queue (getAddr item) := h.represents.mem_bucket.mpr ⟨hq,ha⟩
      exact hd (List.any_eq_true.mpr ⟨queued,hm,decide_eq_true ⟨hc queued hm hf,hf⟩⟩)

/-- The first item of the list is the first one of the address in front. -/
theorem Fifo.front {queue : Queue} {first : SemtechUDPPacketItem} {rest : List SemtechUDPPacketItem}
    (h : Fifo queue (first::rest)) :
    ∃ addrs,queue.addrs=getAddr first::addrs ∧
      queue.packets[getAddr first]?=some (first::withKey getAddr (getAddr first) rest) := by
  obtain ⟨ha,hb⟩ := h.represents.front
  refine ⟨rest.map getAddr,ha,?_⟩
  rw [itemsAt] at hb
  cases hp : queue.packets[getAddr first]? with
  | none =>
    rw [hp] at hb
    exact absurd hb.symm (List.cons_ne_nil _ _)
  | some vector =>
    rw [hp,Option.getD_some] at hb
    rw [hb]

/-- A call takes the oldest item of the list, once it is due. -/
theorem getFirstExpired_fifo {queue : Queue} {items : List SemtechUDPPacketItem} (h : Fifo queue items)
    (t : Timeval) :
    (getFirstExpired queue t).1=(fifoTake items t).1 ∧
      Fifo (getFirstExpired queue t).2 (fifoTake items t).2 := by
  cases items with
  | nil =>
    have ha : queue.addrs=[] := h.represents.order_eq
    simp only [getFirstExpired,ha,fifoTake]
    exact ⟨trivial,h⟩
  | cons first rest =>
    obtain ⟨addrs,ha,hp⟩ := h.front
    by_cases hd : timeLeadMicroseconds<diffMicroSeconds t first.time2send
    · simp only [getFirstExpired,ha,hp,hd,if_true,fifoTake]
      exact ⟨trivial,h⟩
    · rw [getFirstExpired_due ha hp (Int.not_lt.mp hd),fifoTake,if_neg hd]
      obtain ⟨hfirst,hrest⟩ := List.pairwise_cons.mp h.distinct
      have hother : ∀ item∈withKey getAddr (getAddr first) rest,itemFcnt item≠ itemFcnt first := by
        intro item hi
        obtain ⟨hi,hk⟩ := List.mem_filter.mp hi
        exact (hfirst item hi (of_decide_eq_true hk).symm).symm
      refine ⟨?_,?_,removeFirst_noEmpty h.noEmpty _ _ _,hrest⟩
      · rcases selectItem_cases first (withKey getAddr (getAddr first) rest) with
          ⟨hs,-⟩ | ⟨front,best,back,hi,hc,-⟩
        · rw [hs]
        · exact absurd hc.1 (hother best (hi ▸ List.mem_append_right _ List.mem_cons_self))
      · have hr := h.represents
        rw [ha] at hr
        refine hr.tail fun a => ?_
        rw [itemsAt,removeFirst_getD]
        split_ifs with hab
        · subst hab
          rw [itemsAt,hp,Option.getD_some,List.tail_cons,List.filter_cons_of_neg (by
            simp only [ne_eq,not_true_eq_false,decide_false,Bool.false_eq_true,not_false_eq_true])]
          exact List.filter_eq_self.mpr fun item hi => decide_eq_true (hother item hi)
        · rfl

/-- Under the condition a call of the queue is a step of the list. -/
theorem queueStep_fifo {queue : Queue} {items : List SemtechUDPPacketItem} (h : Fifo queue items)
    {event : QueueEvent} (hc : OnePort queue event) : Fifo (queueStep queue event) (fifoStep items event) := by
  cases event with
  | push item => exact push_fifo h hc
  | getFirstExpired t => exact (getFirstExpired_fifo h t).2

/-- The new queue represents the empty list. -/
theorem empty_fifo : Fifo Queue.empty [] :=
  ⟨Represents.nil itemsAt_empty,empty_sound.noEmpty,List.Pairwise.nil⟩

/-- A run under the condition is a run of the list. -/
theorem run_fifo {queue : Queue} {items : List SemtechUDPPacketItem} {events : List QueueEvent}
    (h : Fifo queue items) (hc : Along queueStep OnePort queue events) :
    Fifo (run queueStep queue events) (run fifoStep items events) := by
  induction events generalizing queue items with
  | nil => exact h
  | cons event events ih =>
    obtain ⟨hfirst,hrest⟩ := (along_cons_iff _ _ _ _ _).mp hc
    rw [run_cons,run_cons]
    exact ih (queueStep_fifo h hfirst) hrest

/-- The queue is not jammed: each address has items, a late enough call returns
one of them, and calls can empty the queue. The times end thirty-four years
later because differences of seconds are narrowed to `int`. -/
structure NotJammed (queue : Queue) : Prop where
  /-- Every address has items. -/
  served : ∀ a∈queue.addrs,itemsAt queue a≠[]
  /-- A call that is late enough returns an item. -/
  returns : queue.packets.isEmpty=false → ∃ sec,∀ t : Timeval,sec≤t.tvSec → t.tvSec≤ sec+2^30 →
    (getFirstExpired queue t).1.isSome=true
  /-- As many calls as there are addresses empty the queue. -/
  drains : ∃ times : List Timeval,times.length=queue.addrs.length ∧
    (run queueStep queue (times.map .getFirstExpired)).packets.isEmpty=true

/-- An item is due from thirty-six minutes after its time on. -/
theorem diffMicroSeconds_late {t due : Timeval} (h : due.tvSec+2148≤t.tvSec) (hl : t.tvSec≤due.tvSec+2^31) :
    diffMicroSeconds t due=0 := by
  have hb : (due.tvSec-t.tvSec).bmod (2^32)=due.tvSec-t.tvSec := Int.bmod_eq_of_le (by omega) (by omega)
  rw [diffMicroSeconds,hb,if_neg (by omega),if_pos (by omega)]

/-- A list that is not empty gives its first item to a call that is late
enough. -/
theorem fifoTake_late {first : SemtechUDPPacketItem} {rest : List SemtechUDPPacketItem} {t : Timeval}
    (h : first.time2send.tvSec+2148≤t.tvSec) (hl : t.tvSec≤first.time2send.tvSec+2^31) :
    fifoTake (first::rest) t=(some first,rest) := by
  rw [fifoTake,diffMicroSeconds_late h hl,if_neg (by decide)]

/-- The containers of the empty list are empty. -/
theorem Fifo.isEmpty {queue : Queue} (h : Fifo queue []) : queue.packets.isEmpty=true := by
  rw [Std.TreeMap.isEmpty_iff_forall_not_mem]
  intro a ha
  have hb : itemsAt queue a=[] := h.represents.bucket_eq a
  rw [itemsAt,Std.TreeMap.getElem?_eq_some_getElem ha,Option.getD_some] at hb
  exact h.noEmpty a (by rw [Std.TreeMap.getElem?_eq_some_getElem ha,hb])

/-- One call for each item empties the containers of a list. -/
theorem Fifo.drains {queue : Queue} {items : List SemtechUDPPacketItem} (h : Fifo queue items) :
    ∃ times : List Timeval,times.length=queue.addrs.length ∧
      (run queueStep queue (times.map .getFirstExpired)).packets.isEmpty=true := by
  rw [h.represents.order_eq,List.length_map]
  induction items generalizing queue with
  | nil => exact ⟨[],rfl,h.isEmpty⟩
  | cons first rest ih =>
    let t : Timeval := ⟨first.time2send.tvSec+2148,0⟩
    have hstep : Fifo (queueStep queue (.getFirstExpired t)) rest := by
      have hf : Fifo (queueStep queue (.getFirstExpired t)) (fifoStep (first::rest) (.getFirstExpired t)) :=
        queueStep_fifo h trivial
      rwa [fifoStep,fifoTake_late le_rfl (by dsimp only [t]; omega)] at hf
    obtain ⟨times,hl,he⟩ := ih hstep
    exact ⟨t::times,by rw [List.length_cons,hl,List.length_cons],he⟩

/-- Containers that represent a list are not jammed. -/
theorem Fifo.notJammed {queue : Queue} {items : List SemtechUDPPacketItem} (h : Fifo queue items) :
    NotJammed queue := by
  refine ⟨fun a ha => h.represents.mem_order.mp ha,fun he => ?_,h.drains⟩
  cases items with
  | nil => exact absurd (h.isEmpty.symm.trans he) Bool.true_eq_false.mp
  | cons first rest =>
    refine ⟨first.time2send.tvSec+2148,fun t hf hl => ?_⟩
    rw [(getFirstExpired_fifo h t).1,fifoTake_late hf (by omega)]
    rfl

/-- Time in microseconds. -/
def micros (t : Timeval) : ℤ := 1000000*t.tvSec+t.tvUsec

/-- A time as the clock gives it. -/
def Normal (t : Timeval) : Prop := 0≤t.tvUsec ∧ t.tvUsec<1000000

/-- The item is to be sent at most one second after the time. -/
def DueBy (t : Timeval) (item : SemtechUDPPacketItem) : Prop :=
  micros item.time2send≤ micros t+timeLeadMicroseconds

instance (t : Timeval) (item : SemtechUDPPacketItem) : Decidable (DueBy t item) :=
  inferInstanceAs (Decidable (micros item.time2send≤ micros t+timeLeadMicroseconds))

/-- If some item is due, a call returns one that is. -/
def DueServed (queue : Queue) (t : Timeval) : Prop :=
  (∃ a,∃ item∈itemsAt queue a,DueBy t item) → ∃ r,(getFirstExpired queue t).1=some r ∧ DueBy t r

/-- The item was pushed by one of the functions of the packet handler at a time
of the clock. -/
inductive PushedByHandler (item : SemtechUDPPacketItem) : Prop
  /-- By `enqueueMAC`. -/
  | mac {processor : LoraPacketProcessor} {services services' : Services} {time : Timeval}
      {value : SemtechUDPPacket} (ht : Normal time) (hq : services.queue=[])
      (h : enqueueMAC processor services time value=.ok services') (hi : item∈services'.queue)
  /-- By `enqueueControl`. -/
  | control {processor : LoraPacketProcessor} {services services' : Services} {time : Timeval}
      {value : SemtechUDPPacket} (ht : Normal time) (hq : services.queue=[])
      (h : enqueueControl processor services time value=.ok services') (hi : item∈services'.queue)
  /-- By `enqueueJoinResponse`. -/
  | join {processor : LoraPacketProcessor} {uninitialised : UInt32} {services services' : Services}
      {time : Timeval} {addr : DEVADDR} {value value' : SemtechUDPPacket} (ht : Normal time)
      (hq : services.queue=[])
      (h : enqueueJoinResponse processor uninitialised services time addr value=.ok (services',value'))
      (hi : item∈services'.queue)

/-- The condition on a call: a push that is not absorbed brings a counter that
is new for the device and an item that is due last. -/
def InOrder (queue : Queue) : QueueEvent → Prop
  | .push item => OnePort queue (.push item) ∧
      ((itemsAt queue (getAddr item)).any (isDuplicate item)=true ∨
        ∀ a,∀ queued∈itemsAt queue a,micros queued.time2send≤ micros item.time2send)
  | .getFirstExpired _ => True

/-- A step of the clock that the handler adds keeps the microseconds normal. -/
theorem incTimeval_normal {t : Timeval} (h : Normal t) {seconds usec : ℤ} (h0 : 0≤usec) (hu : usec<1000000) :
    Normal (incTimeval t seconds usec) := by
  obtain ⟨hlow,hhigh⟩ := h
  rw [incTimeval]
  split_ifs
  · constructor
    · dsimp only
      omega
    · dsimp only
      omega
  · constructor
    · dsimp only
      omega
    · dsimp only
      omega
  · omega
  · exact ⟨hlow,hhigh⟩

/-- The handler pushes an answer a while later. -/
theorem normal_of_pushed {services : Services} {mode : ItemProcessMode} {time : Timeval} {value : SemtechUDPPacket}
    {item : SemtechUDPPacketItem} (ht : Normal time) (hq : services.queue=[])
    (hi : item∈(PacketHandler.push services mode (incTimeval time 0 defTimeoutUs) value).queue) :
    Normal item.time2send := by
  rw [PacketHandler.push,hq] at hi
  rw [List.mem_singleton.mp hi]
  exact incTimeval_normal ht (by decide) (by decide)

/-- The handler pushes items with normal times. -/
theorem PushedByHandler.normal {item : SemtechUDPPacketItem} (h : PushedByHandler item) :
    Normal item.time2send := by
  cases h with
  | mac ht hq h hi =>
    rw [enqueueMAC,log] at h
    split_ifs at h
    · exact normal_of_pushed ht hq (Except.ok.inj h ▸ hi)
    · cases h
  | control ht hq h hi =>
    rw [enqueueControl,log] at h
    split_ifs at h
    · exact normal_of_pushed ht hq (Except.ok.inj h ▸ hi)
    · cases h
  | @join processor uninitialised services services' time addr value value' ht hq h hi =>
    rw [enqueueJoinResponse_queue h,hq,List.nil_append] at hi
    have hm : item.time2send∈(joinAnswers processor uninitialised services time addr value).map (·.time2send) :=
      List.mem_map_of_mem hi
    rw [joinAnswers_times] at hm
    rcases List.mem_pair.mp hm with he | he
    · rw [he]
      exact incTimeval_normal ht le_rfl (by decide)
    · rw [he]
      exact incTimeval_normal ht le_rfl (by decide)

/-- The list is in the order of the due times, which are normal. -/
structure Timed (items : List SemtechUDPPacketItem) : Prop where
  /-- Items come in the order of their due times. -/
  sorted : items.Pairwise fun x y => micros x.time2send≤ micros y.time2send
  /-- Their times are normal. -/
  normal : ∀ item∈items,Normal item.time2send

/-- Only the due times matter. -/
theorem Timed.of_map {items items' : List SemtechUDPPacketItem} (h : Timed items)
    (hm : items'.map (·.time2send)=items.map (·.time2send)) : Timed items' := by
  constructor
  · have hs : (items.map (·.time2send)).Pairwise fun x y => micros x≤ micros y := List.pairwise_map.mpr h.sorted
    rw [←hm] at hs
    have hp := List.pairwise_map.mp hs
    exact hp
  · intro item hi
    have ht : item.time2send∈items.map (·.time2send) := hm ▸ List.mem_map_of_mem hi
    obtain ⟨other,ho,he⟩ := List.mem_map.mp ht
    rw [←he]
    exact h.normal other ho

/-- A push under the condition keeps the order of the due times. -/
theorem fifoPush_timed {queue : Queue} {items : List SemtechUDPPacketItem} (hf : Fifo queue items)
    (h : Timed items) {item : SemtechUDPPacketItem} (hn : Normal item.time2send)
    (hc : InOrder queue (.push item)) : Timed (fifoPush items item) := by
  have hitems : withKey getAddr (getAddr item) items=itemsAt queue (getAddr item) :=
    (hf.represents.bucket_eq _).symm
  rw [fifoPush,hitems]
  split_ifs with hd
  · exact h.of_map (fifoPush_map (absorb_eq (fun _ _ _ _ => rfl) item) items)
  · have hlast : ∀ queued∈items,micros queued.time2send≤ micros item.time2send := by
      intro queued hq
      rcases hc.2 with hdup | hle
      · exact absurd hdup hd
      · exact hle (getAddr queued) queued (hf.represents.mem_bucket.mpr ⟨hq,rfl⟩)
    constructor
    · refine List.pairwise_append.mpr ⟨h.sorted,List.pairwise_singleton _ _,fun queued hq other ho => ?_⟩
      rw [List.mem_singleton.mp ho]
      exact hlast queued hq
    · intro queued hq
      rcases List.mem_append.mp hq with hq | hq
      · exact h.normal queued hq
      · rw [List.mem_singleton.mp hq]
        exact hn

/-- Taking the oldest item keeps the order of the due times. -/
theorem fifoTake_timed {items : List SemtechUDPPacketItem} (h : Timed items) (t : Timeval) :
    Timed (fifoTake items t).2 := by
  cases items with
  | nil => exact h
  | cons first rest =>
    rw [fifoTake]
    split_ifs
    · exact h
    · exact ⟨(List.pairwise_cons.mp h.sorted).2,fun item hi => h.normal item (List.mem_cons_of_mem _ hi)⟩

/-- A run under the condition represents a list in the order of the due times. -/
theorem run_timed {queue : Queue} {items : List SemtechUDPPacketItem} {events : List QueueEvent}
    (hf : Fifo queue items) (h : Timed items) (hn : ∀ item,.push item∈events → Normal item.time2send)
    (hc : Along queueStep InOrder queue events) :
    ∃ items',Fifo (run queueStep queue events) items' ∧ Timed items' := by
  induction events generalizing queue items with
  | nil => exact ⟨items,hf,h⟩
  | cons event events ih =>
    obtain ⟨hfirst,hrest⟩ := (along_cons_iff _ _ _ _ _).mp hc
    rw [run_cons]
    have hn' : ∀ item,.push item∈events → Normal item.time2send :=
      fun item hi => hn item (List.mem_cons_of_mem _ hi)
    cases event with
    | push item =>
      have ht := fifoPush_timed hf h (hn item List.mem_cons_self) hfirst
      exact ih (push_fifo hf hfirst.1) ht hn' hrest
    | getFirstExpired t => exact ih (getFirstExpired_fifo hf t).2 (fifoTake_timed h t) hn' hrest

/-- An item that is due is due for the comparison of the queue, unless it has
been so for sixty-eight years. -/
theorem diffMicroSeconds_due {t : Timeval} {item : SemtechUDPPacketItem} (hd : DueBy t item) (ht : Normal t)
    (hi : Normal item.time2send) (hl : t.tvSec≤ item.time2send.tvSec+2^31) :
    diffMicroSeconds t item.time2send≤timeLeadMicroseconds := by
  obtain ⟨ht0,ht1⟩ := ht
  obtain ⟨hi0,hi1⟩ := hi
  rw [DueBy,micros,micros,timeLeadMicroseconds] at hd
  have hb : (item.time2send.tvSec-t.tvSec).bmod (2^32)=item.time2send.tvSec-t.tvSec :=
    Int.bmod_eq_of_le (by omega) (by omega)
  rw [diffMicroSeconds,hb,timeLeadMicroseconds]
  dsimp only
  split_ifs with h1 h2 h3
  · omega
  · decide
  · decide
  · rw [Int.bmod_eq_of_le (by omega) (by omega)]
    omega

/-- A handler with a logger, a channel plan and no history. -/
def sampleProcessor : LoraPacketProcessor := ⟨none,some ⟨869525000,14⟩,false,true,0⟩

/-- What the handler pushes for a MAC answer. -/
theorem pushedByHandler_mac (time : Timeval) (ht : Normal time) (value : SemtechUDPPacket) :
    PushedByHandler ⟨.replyMac,incTimeval time 0 defTimeoutUs,value⟩ := by
  have h : enqueueMAC sampleProcessor ⟨none,[],[]⟩ time value=
      .ok ⟨none,[⟨.replyMac,incTimeval time 0 defTimeoutUs,value⟩],[]⟩ := rfl
  exact .mac ht rfl h (List.mem_singleton.mpr rfl)

/-- What the handler pushes for a join. -/
theorem pushedByHandler_join {time : Timeval} (ht : Normal time) (addr : DEVADDR) (value : SemtechUDPPacket) :
    ∀ item∈joinAnswers sampleProcessor 0 ⟨none,[],[]⟩ time addr value,PushedByHandler item := by
  intro item hi
  cases he : enqueueJoinResponse sampleProcessor 0 ⟨none,[],[]⟩ time addr value with
  | error fault => cases he
  | ok result =>
    refine .join ht rfl he ?_
    rw [enqueueJoinResponse_queue he]
    exact hi

/-- A join request at second 100 and a data packet one second later. -/
def sampleJoinFirst : List QueueEvent :=
  (joinAnswers sampleProcessor 0 ⟨none,[],[]⟩ ⟨100,0⟩ 7 {SemtechUDPPacket.empty with
    payload := List.replicate 18 0
    metadata := [{RfmMetaData.initial 0 0 with gatewayId := 1}]
    errcode := ERR_CODE_IS_JOIN}).map .push++
  [.push ⟨.replyMac,incTimeval ⟨101,0⟩ 0 defTimeoutUs,(sampleItem 1 1).packet⟩]

end LorawanServer.QueueOrder
