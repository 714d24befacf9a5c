import LorawanServer.JitPeek

/-!
# The runner between peek and dequeue

`jitRunner` locks the queue once to find an index and once more to take the
packet out; other threads may enqueue in between. A new packet must be due more
than 42.5 ms after it is accepted, a found packet less than 40 ms after it was
found, so the new one is sorted behind it and the index keeps its meaning. For
the same reason a missed packet stays in front until the next call drops it.
-/

namespace LorawanServer.JustInTime

open ClockCircle SwapRemoval StepRun

/-- The clock half a window ago: what is due up to 2^30 µs before or after the
current time lies in half a circle from here. -/
def windowBase (timeUs : UInt32) : UInt32 := timeUs-1073741824

/-- The timestamp is less than 2^30 µs away from the time, before or behind. -/
def Near (timeUs : UInt32) (node : JitNode) : Prop := ahead node.pkt.countUs (windowBase timeUs)<2147483648

/-- Position of a timestamp in the window of a time. -/
theorem ahead_windowBase (x timeUs : UInt32) :
    ahead x (windowBase timeUs)=(ahead x timeUs+1073741824)%4294967296 := by
  have hx := x.toNat_lt
  have ht := timeUs.toNat_lt
  have hw : (1073741824 : UInt32).toNat=1073741824 := rfl
  simp only [ahead_eq,windowBase,UInt32.toNat_sub,hw]
  omega

/-- A packet that `jit_enqueue` accepts is due later than 42.5 ms from now. -/
theorem ahead_of_criteria {queue : JitQueue} {timeUs countUs preDelay postDelay : UInt32} {pktType : JitPktType}
    (hc : enqueueCriteria queue timeUs countUs preDelay postDelay pktType=none) : 42500<ahead countUs timeUs := by
  unfold enqueueCriteria at hc
  split_ifs at hc with hl
  rw [UInt32.le_iff_toNat_le,not_le] at hl
  exact hl

/-- What is due soon is near. -/
theorem near_of_ahead_lt {timeUs : UInt32} {node : JitNode} (h : ahead node.pkt.countUs timeUs<1073741824) :
    Near timeUs node := by
  unfold Near
  rw [ahead_windowBase]
  omega

/-- What is due within 42.5 ms, or was due, comes before an accepted packet. -/
theorem before_accepted {timeUs : UInt32} {node queued : JitNode} (hn : ahead node.pkt.countUs timeUs<1073741824)
    (hq : Near timeUs queued) (hdue : ahead queued.pkt.countUs (windowBase timeUs) ≤ 1073784324)
    (hlate : 42500<ahead node.pkt.countUs timeUs) : Before queued node := by
  have hnear := near_of_ahead_lt hn
  have hw := ahead_windowBase node.pkt.countUs timeUs
  rw [before_iff_of_window hq hnear]
  omega

/-- The nodes in front of a new one keep their positions. -/
theorem getElem?_insert {nodes front back : List JitNode} {node found : JitNode} (hsplit : nodes=front++back)
    (hback : ∀ b∈back,Before node b) {i : ℕ} (hi : nodes[i]?=some found) (hf : Before found node) :
    (front++node::back)[i]?=some found := by
  subst hsplit
  by_cases hlt : i<front.length
  · rw [List.getElem?_append_left hlt] at hi ⊢
    exact hi
  · rw [List.getElem?_append_right (not_lt.mp hlt)] at hi
    exact absurd (hback found (List.mem_of_getElem? hi)) hf.asymm

/-- When a packet is enqueued it is due less than 2^30 µs from now, and what is
queued is near. -/
def Timely (timeOnAir : LgwPktTx → UInt32) (s : System) : Action → Prop
  | .enqueue timeUs packet pktType =>
    (∀ node∈s.queue.live,Near timeUs node) ∧
      ahead (enqueuedNode timeOnAir s.queue timeUs packet pktType).pkt.countUs timeUs<1073741824
  | _ => True

/-- The queue holds nodes with room between them in the order of time. -/
structure Scheduled (queue : JitQueue) : Prop where
  spaced : Spaced queue
  timed : Timed queue.live

/-- Nodes that leave each other time have different timestamps. -/
theorem Separate.ne {a b : JitNode} (h : Separate a b) : a.pkt.countUs≠b.pkt.countUs := by
  intro he
  have hgap := h.1
  rw [he,ahead_self] at hgap
  omega

/-- The empty queue. -/
theorem scheduled_init : Scheduled jitQueueInit := by
  have hl : jitQueueInit.live=[] := rfl
  refine ⟨spaced_of_perm represents_init (List.Perm.refl _) (by simp) List.Pairwise.nil,?_⟩
  rw [hl]
  exact List.Pairwise.nil

/-- The position at which an accepted packet joins the array. -/
theorem Scheduled.enqueue_split (sort : Qsort) {timeOnAir : LgwPktTx → UInt32}
    (hair : ∀ p,(timeOnAir p).toNat ≤ 4000000) {queue : JitQueue} (h : Scheduled queue) {timeUs : UInt32}
    {packet : LgwPktTx} {pktType : JitPktType} {node : JitNode}
    (hnode : node=enqueuedNode timeOnAir queue timeUs packet pktType)
    (hc : enqueueCriteria queue timeUs node.pkt.countUs node.preDelay node.postDelay pktType=none)
    (hnear : ∀ n∈queue.live,Near timeUs n) (hnew : ahead node.pkt.countUs timeUs<1073741824) :
    ∃ front back,queue.live=front++back ∧ sort.run compare (queue.live++[node])=front++node::back ∧
      (∀ a∈front,Before a node) ∧ ∀ b∈back,Before node b := by
  have hbuilt : Built node := by
    rw [hnode]
    exact built_enqueuedNode hair _ _ _ _
  have htype : node.pktType=pktType := by rw [hnode]; rfl
  rw [←htype] at hc
  have hsep : ∀ queued∈queue.live,Separate queued node :=
    fun queued hm => separate_of_criteria hbuilt (h.spaced.built queued hm) hm hc
  have hwin : Window (windowBase timeUs) (queue.live++[node]) := by
    intro n hm
    rcases List.mem_append.mp hm with hm | hm
    · exact hnear n hm
    · rw [List.mem_singleton.mp hm]
      exact near_of_ahead_lt hnew
  have hdist : Distinct (queue.live++[node]) := by
    refine List.pairwise_append.mpr ⟨h.timed.distinct,List.pairwise_singleton _ _,fun a ha b hb => ?_⟩
    rw [List.mem_singleton.mp hb]
    exact (hsep a ha).ne
  exact h.timed.sort_insert sort hwin hdist

/-- What is left of ordered nodes after `jit_peek` is in order. -/
theorem peekNodes_sublist (timeUs : UInt32) (nodes : List JitNode) : (peekNodes timeUs nodes).Sublist nodes := by
  cases nodes with
  | nil => exact List.Sublist.refl _
  | cons node rest =>
    have hkept : ∀ kept : List JitNode,(kept.take 1++(kept.drop 1).filter fun n => !outdated timeUs n).Sublist kept := by
      intro kept
      have hs := (List.filter_sublist (p := fun n => !outdated timeUs n) (l := kept.drop 1)).append_left (kept.take 1)
      rwa [List.take_append_drop] at hs
    rw [peekNodes]
    split_ifs
    · exact (hkept rest).trans (List.sublist_cons_self node rest)
    · exact hkept (node::rest)

/-- A call keeps the order of time, when timestamps are near. -/
theorem step_scheduled (sort : Qsort) {timeOnAir : LgwPktTx → UInt32} (hair : ∀ p,(timeOnAir p).toNat ≤ 4000000)
    {s : System} (h : Scheduled s.queue) {action : Action} (hnamed : Named s action)
    (htimely : Timely timeOnAir s action) : Scheduled (step sort timeOnAir s action).queue := by
  refine ⟨step_spaced sort hair h.spaced hnamed,?_⟩
  cases action with
  | enqueue timeUs packet pktType =>
    rcases jitEnqueue_cases sort timeOnAir timeUs packet pktType h.spaced.represents with
      ⟨error,-,he⟩ | ⟨next,node,he,hnode,hc,hnext⟩
    · simpa [step,he] using h.timed
    · obtain ⟨hnear,hnew⟩ := htimely
      rw [←hnode] at hnew
      obtain ⟨front,back,hsplit,hsort,hf,hb⟩ := h.enqueue_split sort hair hnode hc hnear hnew
      have htimed := h.timed
      rw [hsplit] at htimed
      obtain ⟨hfront,hback,hcross⟩ := List.pairwise_append.mp htimed
      have hq : (step sort timeOnAir s (.enqueue timeUs packet pktType)).queue=next := by simp [step,he]
      rw [hq,hnext.live,hsort]
      refine List.pairwise_append.mpr ⟨hfront,List.pairwise_cons.mpr ⟨hb,hback⟩,fun a ha b hm => ?_⟩
      rcases List.mem_cons.mp hm with rfl | hm
      · exact hf a ha
      · exact hcross a ha b hm
  | peek timeUs =>
    have hp := (jitPeek_timed sort timeUs h.spaced.represents h.timed).1
    change Timed (jitPeek sort s.queue timeUs).queue.live
    rw [hp.live]
    exact h.timed.sublist (peekNodes_sublist timeUs _)
  | dequeue index =>
    rcases jitDequeue_cases sort h.spaced.represents index hnamed with ⟨error,-,he⟩ | ⟨i,hi,-,he⟩
    · simpa [step,he] using h.timed
    · have hr := represents_remove sort h.spaced.represents hi
      rw [h.timed.sort_swapRemove sort hi] at hr
      have hq : (step sort timeOnAir s (.dequeue index)).queue=removeNode sort s.queue i := by simp [step,he]
      rw [hq,hr.live]
      exact h.timed.sublist (List.eraseIdx_sublist _ _)

/-- In every order of calls with timestamps near the time of the call the array
stays in the order of time. -/
theorem run_scheduled (sort : Qsort) {timeOnAir : LgwPktTx → UInt32} (hair : ∀ p,(timeOnAir p).toNat ≤ 4000000)
    {actions : List Action}
    (h : Along (step sort timeOnAir) (fun s a => Named s a ∧ Timely timeOnAir s a) System.init actions) :
    Scheduled (run (step sort timeOnAir) System.init actions).queue :=
  @Along.run_invariant _ _ _ _ (fun s => Scheduled s.queue) _ _ h scheduled_init
    fun _ _ hs ha => step_scheduled sort hair hs ha.1 ha.2

/-- A packet that is enqueued into the empty queue long before it is due. -/
theorem timely_first (timeOnAir : LgwPktTx → UInt32) :
    Timely timeOnAir System.init (.enqueue 0 (packetAt 1000000) .downlinkClassA) := by
  have ha : ahead 1000000 0<1073741824 := by decide
  exact ⟨fun node hm => absurd hm List.not_mem_nil,ha⟩

/-- The position that `jit_peek` ends with is that of a node in use. -/
theorem peekCandidate_lt {timeUs : UInt32} {nodes : List JitNode} {i : ℕ} (h : peekCandidate timeUs nodes=some i) :
    i<(peekNodes timeUs nodes).length := by
  cases nodes with
  | nil => cases h
  | cons node rest =>
    rw [peekCandidate] at h
    rw [peekNodes]
    split_ifs at h ⊢ with ho ha
    · obtain rfl := Option.some.inj h
      obtain ⟨n,hn,hf⟩ := List.any_eq_true.mp ha
      have hmem : n∈(rest.drop 1).filter fun n => !outdated timeUs n := List.mem_filter.mpr ⟨hn,hf⟩
      have hpos := List.length_pos_of_mem hmem
      have hrest : 1 ≤ rest.length := by
        have hd := List.length_pos_of_mem hn
        rw [List.length_drop] at hd
        omega
      rw [List.length_append,List.length_take,min_eq_left hrest]
      omega
    · obtain rfl := Option.some.inj h
      exact Nat.succ_pos _

/-- The index that `jit_peek` returns names a node that is due in less than
`TX_JIT_DELAY`. -/
theorem peekIndex_due {timeUs : UInt32} {nodes : List JitNode} {i : ℕ} (h : peekIndex timeUs nodes=some i) :
    ∃ hi : i<(peekNodes timeUs nodes).length,ahead (peekNodes timeUs nodes)[i].pkt.countUs timeUs<40000 := by
  obtain ⟨hc,hdue⟩ := Option.filter_eq_some_iff.mp h
  have hi := peekCandidate_lt hc
  refine ⟨hi,?_⟩
  rw [List.getD_eq_getElem _ _ hi,decide_eq_true_eq,UInt32.lt_iff_toNat_lt] at hdue
  exact hdue

/-- What `jitRunner` remembers between the two calls. -/
structure Found where
  /-- Time of the call of `jit_peek`. -/
  timeUs : UInt32
  /-- The index it returned. -/
  index : ℕ
  /-- The node that the index named. -/
  node : JitNode

/-- The queue and the runner. -/
structure Runner where
  sys : System
  found : Option Found

/-- The runner before its first call. -/
def Runner.init : Runner := ⟨System.init,none⟩

/-- A step of the runner, or of a thread that enqueues. -/
inductive RunnerAction where
  | enqueue (timeUs : UInt32) (packet : LgwPktTx) (pktType : JitPktType)
  | peek (timeUs : UInt32)
  | dequeue

/-- The effect of a step: the runner takes out what its index names. -/
def runnerStep (sort : Qsort) (timeOnAir : LgwPktTx → UInt32) (r : Runner) : RunnerAction → Runner
  | .enqueue timeUs packet pktType => {r with sys := step sort timeOnAir r.sys (.enqueue timeUs packet pktType)}
  | .peek timeUs =>
    let result := jitPeek sort r.sys.queue timeUs
    ⟨step sort timeOnAir r.sys (.peek timeUs),result.pktIdx.map fun i => ⟨timeUs,i,result.queue.node i⟩⟩
  | .dequeue =>
    match r.found with
    | none => r
    | some found => ⟨step sort timeOnAir r.sys (.dequeue found.index),none⟩

/-- Timestamps are near the time of the call, and a packet that is found waits
less than 2^30 µs for the runner. -/
def RunnerTimely (timeOnAir : LgwPktTx → UInt32) (r : Runner) : RunnerAction → Prop
  | .enqueue timeUs packet pktType =>
    Timely timeOnAir r.sys (.enqueue timeUs packet pktType) ∧
      ∀ found,r.found=some found → ahead timeUs found.timeUs ≤ 1073741824
  | _ => True

/-- The index that the runner remembers still names the node that it found, and
the node was due. -/
structure Holds (r : Runner) : Prop where
  accounted : Accounted r.sys
  scheduled : Scheduled r.sys.queue
  found : ∀ found,r.found=some found →
    r.sys.queue.live[found.index]?=some found.node ∧ ahead found.node.pkt.countUs found.timeUs<40000

/-- A packet that was due when it was found comes before what is accepted
later. -/
theorem found_position {timeUs foundTime : UInt32} {node : JitNode} (hdue : ahead node.pkt.countUs foundTime<40000)
    (hwait : ahead timeUs foundTime ≤ 1073741824) : ahead node.pkt.countUs (windowBase timeUs) ≤ 1073784324 := by
  have ht := ahead_trans node.pkt.countUs timeUs foundTime
  have hl := ahead_lt node.pkt.countUs timeUs
  rw [ahead_windowBase]
  omega

/-- The index that is found names a node in use. -/
theorem Holds.named {r : Runner} (h : Holds r) {found : Found} (hf : r.found=some found) :
    Named r.sys (.dequeue found.index) := by
  obtain ⟨hi,-⟩ := List.getElem?_eq_some_iff.mp (h.found found hf).1
  have hn := h.scheduled.spaced.represents.numPkt
  exact .inr (.inl (by omega))

/-- A step keeps what the runner holds. -/
theorem Holds.step (sort : Qsort) {timeOnAir : LgwPktTx → UInt32} (hair : ∀ p,(timeOnAir p).toNat ≤ 4000000)
    {r : Runner} (h : Holds r) {action : RunnerAction} (ht : RunnerTimely timeOnAir r action) :
    Holds (runnerStep sort timeOnAir r action) := by
  cases action with
  | enqueue timeUs packet pktType =>
    obtain ⟨htimely,hwait⟩ := ht
    refine ⟨step_accounted sort timeOnAir h.accounted trivial,step_scheduled sort hair h.scheduled trivial htimely,?_⟩
    intro found hf
    obtain ⟨hat,hdue⟩ := h.found found hf
    refine ⟨?_,hdue⟩
    rcases jitEnqueue_cases sort timeOnAir timeUs packet pktType h.scheduled.spaced.represents with
      ⟨error,-,he⟩ | ⟨next,node,he,hnode,hc,hnext⟩
    · simpa [runnerStep,JustInTime.step,he] using hat
    · obtain ⟨hnear,hnew⟩ := htimely
      rw [←hnode] at hnew
      obtain ⟨front,back,hsplit,hsort,-,hb⟩ := h.scheduled.enqueue_split sort hair hnode hc hnear hnew
      have hq : (runnerStep sort timeOnAir r (.enqueue timeUs packet pktType)).sys.queue=next := by
        simp [runnerStep,JustInTime.step,he]
      rw [hq,hnext.live,hsort]
      have hbefore := before_accepted hnew (hnear found.node (List.mem_of_getElem? hat))
        (found_position hdue (hwait found hf)) (ahead_of_criteria hc)
      exact getElem?_insert hsplit hb hat hbefore
  | peek timeUs =>
    refine ⟨step_accounted sort timeOnAir h.accounted trivial,step_scheduled sort hair h.scheduled trivial trivial,?_⟩
    intro found hf
    obtain ⟨hrep,hidx⟩ := jitPeek_timed sort timeUs h.scheduled.spaced.represents h.scheduled.timed
    obtain ⟨i,hi,rfl⟩ := Option.map_eq_some_iff.mp hf
    rw [hidx] at hi
    obtain ⟨hlt,hdue⟩ := peekIndex_due hi
    change (jitPeek sort r.sys.queue timeUs).queue.live[i]?=some ((jitPeek sort r.sys.queue timeUs).queue.node i) ∧
      ahead ((jitPeek sort r.sys.queue timeUs).queue.node i).pkt.countUs timeUs < 40000
    rw [hrep.live,hrep.node hlt,List.getElem?_eq_getElem hlt]
    exact ⟨rfl,hdue⟩
  | dequeue =>
    cases hf : r.found with
    | none =>
      have hsame : runnerStep sort timeOnAir r .dequeue=r := by simp [runnerStep,hf]
      rw [hsame]
      exact h
    | some found =>
      have hnext : runnerStep sort timeOnAir r .dequeue=
          ⟨JustInTime.step sort timeOnAir r.sys (.dequeue found.index),none⟩ := by simp [runnerStep,hf]
      rw [hnext]
      have hn := h.named hf
      exact ⟨step_accounted sort timeOnAir h.accounted hn,step_scheduled sort hair h.scheduled hn trivial,
        fun other ho => absurd ho (by simp)⟩

/-- The node that is taken out is the one found. -/
theorem Holds.sends (sort : Qsort) (timeOnAir : LgwPktTx → UInt32) {r : Runner} (h : Holds r) {found : Found}
    (hf : r.found=some found) :
    (runnerStep sort timeOnAir r .dequeue).sys.sent=r.sys.sent++[found.node] := by
  have hnext : runnerStep sort timeOnAir r .dequeue=
      ⟨JustInTime.step sort timeOnAir r.sys (.dequeue found.index),none⟩ := by simp [runnerStep,hf]
  obtain ⟨hi,he⟩ := List.getElem?_eq_some_iff.mp (h.found found hf).1
  have hrep := h.scheduled.spaced.represents
  have hle := hrep.length_le
  have hr : ¬((found.index : ℤ)<0 ∨ (found.index : ℤ) ≥ jitQueueMax) := by omega
  have hne : ¬jitQueueIsEmpty r.sys.queue=true := by
    rw [hrep.isEmpty_iff]
    intro hz
    rw [hz] at hi
    exact absurd hi (Nat.not_lt_zero _)
  rw [hnext]
  simp only [JustInTime.step,jitDequeue,if_neg hr,if_neg hne,Int.toNat_natCast,hrep.node hi,he,Option.toList_some]

end LorawanServer.JustInTime
