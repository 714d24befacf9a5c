import LorawanServer.JitNodes
import LorawanServer.StepRun

/-!
# Runs of the transmission queue

Any threads may enqueue, peek and dequeue in any order; every locked region is
one step. Along each run the nodes that were accepted are those in the queue,
those sent and those dropped, each once, and the times that queued nodes reserve
on the circle of the concentrator clock stay disjoint.
-/

namespace LorawanServer.JustInTime

open ClockCircle SwapRemoval StepRun

/-- The queue together with what happened to the nodes so far. -/
structure System where
  queue : JitQueue
  /-- Nodes that `jit_enqueue` accepted. -/
  accepted : List JitNode
  /-- Nodes that `jit_dequeue` returned. -/
  sent : List JitNode
  /-- Nodes that `jit_peek` dropped. -/
  dropped : List JitNode

/-- A queue that was just initialised. -/
def System.init : System := ⟨jitQueueInit,[],[],[]⟩

/-- A call of one of the operations. -/
inductive Action where
  | enqueue (timeUs : UInt32) (packet : LgwPktTx) (pktType : JitPktType)
  | peek (timeUs : UInt32)
  | dequeue (index : ℤ)

/-- The effect of a call. -/
def step (sort : Qsort) (timeOnAir : LgwPktTx → UInt32) (s : System) : Action → System
  | .enqueue timeUs packet pktType =>
    let r := jitEnqueue sort timeOnAir s.queue timeUs packet pktType
    {s with
      queue := r.2
      accepted :=
        if r.1=.ok then s.accepted++[enqueuedNode timeOnAir s.queue timeUs packet pktType] else s.accepted}
  | .peek timeUs =>
    let r := jitPeek sort s.queue timeUs
    {s with
      queue := r.queue
      dropped := s.dropped++r.dropped}
  | .dequeue index =>
    let r := jitDequeue sort s.queue index
    {s with
      queue := r.2.2
      sent := s.sent++r.2.1.toList}

/-- A call that takes no cleared node out: the index names a node in use, or
`jit_dequeue` refuses it. -/
def Named (s : System) : Action → Prop
  | .dequeue index => s.queue.numPkt=0 ∨ index<s.queue.numPkt ∨ (jitQueueMax : ℤ) ≤ index
  | _ => True

variable {nodes : List JitNode}

/-- `jit_peek` splits the list into the nodes that stay and the nodes it drops. -/
theorem jitPeek_represents (sort : Qsort) (timeUs : UInt32) {queue : JitQueue} (h : Represents queue nodes) :
    ∃ rest,Represents (jitPeek sort queue timeUs).queue rest ∧
      (rest++(jitPeek sort queue timeUs).dropped).Perm nodes ∧
      ∀ node∈(jitPeek sort queue timeUs).dropped,outdated timeUs node=true := by
  unfold jitPeek
  split_ifs with he
  · exact ⟨nodes,h,by simp,by simp⟩
  · obtain ⟨rest,dropped,hr,hd,hp,ho⟩ := peekLoop_represents sort timeUs ⟨queue,0,none,[]⟩ h
    rw [List.nil_append] at hd
    subst hd
    exact ⟨rest,hr,hp,ho⟩

/-- `jit_dequeue` refuses the index or takes the node that it names. -/
theorem jitDequeue_cases (sort : Qsort) {queue : JitQueue} (h : Represents queue nodes) (index : ℤ)
    (hnamed : queue.numPkt=0 ∨ index<queue.numPkt ∨ (jitQueueMax : ℤ) ≤ index) :
    (∃ error,error≠.ok ∧ jitDequeue sort queue index=(error,none,queue)) ∨
    ∃ i,∃ hi : i<nodes.length,index=(i : ℤ) ∧
      jitDequeue sort queue index=(.ok,some nodes[i],removeNode sort queue i) := by
  unfold jitDequeue
  by_cases hr : index<0 ∨ index ≥ jitQueueMax
  · rw [if_pos hr]
    exact .inl ⟨.invalid,by decide,rfl⟩
  · rw [if_neg hr]
    by_cases he : jitQueueIsEmpty queue=true
    · rw [if_pos he]
      exact .inl ⟨.empty,by decide,rfl⟩
    · rw [if_neg he]
      have hne : queue.numPkt≠0 := fun hz => he (by simp [jitQueueIsEmpty,hz])
      have hi : index.toNat<nodes.length := by
        rw [←h.numPkt]
        omega
      refine .inr ⟨index.toNat,hi,by omega,?_⟩
      rw [h.node hi]

/-- What a call does to the list of queued nodes: a node that meets the criteria
joins it, or nodes leave it to be sent or dropped. -/
theorem step_cases (sort : Qsort) (timeOnAir : LgwPktTx → UInt32) {s : System} (h : Represents s.queue nodes)
    {action : Action} (hnamed : Named s action) :
    (∃ timeUs packet pktType node,action=.enqueue timeUs packet pktType ∧
      node=enqueuedNode timeOnAir s.queue timeUs packet pktType ∧
      enqueueCriteria s.queue timeUs node.pkt.countUs node.preDelay node.postDelay pktType=none ∧
      Represents (step sort timeOnAir s action).queue (sort.run compare (nodes++[node])) ∧
      (step sort timeOnAir s action).accepted=s.accepted++[node] ∧
      (step sort timeOnAir s action).sent=s.sent ∧
      (step sort timeOnAir s action).dropped=s.dropped) ∨
    (∃ rest taken dropped,Represents (step sort timeOnAir s action).queue rest ∧
      (rest++taken++dropped).Perm nodes ∧
      (step sort timeOnAir s action).accepted=s.accepted ∧
      (step sort timeOnAir s action).sent=s.sent++taken ∧
      (step sort timeOnAir s action).dropped=s.dropped++dropped) := by
  cases action with
  | enqueue timeUs packet pktType =>
    rcases jitEnqueue_cases sort timeOnAir timeUs packet pktType h with
      ⟨error,hne,he⟩ | ⟨next,node,he,hn,hc,hr⟩
    · refine .inr ⟨nodes,[],[],?_,by simp,?_,by simp [step],by simp [step]⟩
      · simpa [step,he] using h
      · simp [step,he,hne]
    · refine .inl ⟨timeUs,packet,pktType,node,rfl,hn,hc,?_,?_,rfl,rfl⟩
      · simpa [step,he] using hr
      · simp [step,he,hn]
  | peek timeUs =>
    obtain ⟨rest,hr,hp,-⟩ := jitPeek_represents sort timeUs h
    exact .inr ⟨rest,[],(jitPeek sort s.queue timeUs).dropped,hr,by simpa using hp,rfl,by simp [step],rfl⟩
  | dequeue index =>
    rcases jitDequeue_cases sort h index hnamed with ⟨error,-,he⟩ | ⟨i,hi,-,he⟩
    · refine .inr ⟨nodes,[],[],?_,by simp,rfl,?_,by simp [step]⟩
      · simpa [step,he] using h
      · simp [step,he]
    · refine .inr ⟨sort.run compare (swapRemove nodes i),[nodes[i]],[],?_,?_,rfl,?_,by simp [step]⟩
      · simpa [step,he] using represents_remove sort h hi
      · rw [List.append_nil]
        exact (List.perm_append_singleton _ _).trans (cons_removed_perm sort hi)
      · simp [step,he]

/-- What is queued after a call was queued before, or it is the new node. -/
theorem mem_live_step (sort : Qsort) (timeOnAir : LgwPktTx → UInt32) {s : System}
    (h : Represents s.queue s.queue.live) {action : Action} (hnamed : Named s action) {node : JitNode}
    (hm : node∈(step sort timeOnAir s action).queue.live) :
    node∈s.queue.live ∨ ∃ timeUs packet pktType,action=.enqueue timeUs packet pktType ∧
      node=enqueuedNode timeOnAir s.queue timeUs packet pktType := by
  rcases step_cases sort timeOnAir h hnamed with
    ⟨timeUs,packet,pktType,new,ha,hnew,-,hnext,-⟩ | ⟨rest,taken,dropped,hnext,hsplit,-⟩
  · rw [hnext.live] at hm
    rcases List.mem_append.mp ((sort.perm compare _).subset hm) with hm | hm
    · exact .inl hm
    · exact .inr ⟨timeUs,packet,pktType,ha,(List.mem_singleton.mp hm).trans hnew⟩
  · rw [hnext.live] at hm
    exact .inl (hsplit.subset (List.mem_append_left _ (List.mem_append_left _ hm)))

/-- The counters and the array are those of the queued nodes, and every node
that was accepted is queued, sent or dropped, once. -/
def Accounted (s : System) : Prop :=
  Represents s.queue s.queue.live ∧ (s.queue.live++s.sent++s.dropped).Perm s.accepted

/-- The account from a list that the queue represents. -/
theorem accounted_of_represents {s : System} (h : Represents s.queue nodes)
    (hp : (nodes++s.sent++s.dropped).Perm s.accepted) : Accounted s := by
  unfold Accounted
  rw [h.live]
  exact ⟨h,hp⟩

/-- A call keeps the account. -/
theorem step_accounted (sort : Qsort) (timeOnAir : LgwPktTx → UInt32) {s : System} (h : Accounted s)
    {action : Action} (hnamed : Named s action) : Accounted (step sort timeOnAir s action) := by
  obtain ⟨hr,hp⟩ := h
  rcases step_cases sort timeOnAir hr hnamed with
    ⟨_,_,_,node,-,-,-,hnext,ha,hs,hd⟩ | ⟨rest,taken,dropped,hnext,hsplit,ha,hs,hd⟩
  · apply accounted_of_represents hnext
    rw [ha,hs,hd]
    have hm : (sort.run compare (s.queue.live++[node])).Perm (node::s.queue.live) :=
      (sort.perm compare _).trans (List.perm_append_singleton _ _)
    have hq : (sort.run compare (s.queue.live++[node])++s.sent++s.dropped).Perm
        (node::(s.queue.live++s.sent++s.dropped)) := (hm.append_right _).append_right _
    exact hq.trans ((hp.cons node).trans (List.perm_append_singleton _ _).symm)
  · apply accounted_of_represents hnext
    rw [ha,hs,hd]
    have hq : (rest++(s.sent++taken)++(s.dropped++dropped)).Perm
        ((rest++taken++dropped)++(s.sent++s.dropped)) := by
      rw [←Multiset.coe_eq_coe]
      simp only [←Multiset.coe_add]
      abel
    refine hq.trans ((hsplit.append_right _).trans ?_)
    rw [←List.append_assoc]
    exact hp

/-- In every order of calls in which no index names a cleared node the counters
and the array are those of a list, the array never holds more than its 32 nodes,
and the accepted nodes are the queued, the sent and the dropped ones, none of
them twice. -/
theorem run_accounted (sort : Qsort) (timeOnAir : LgwPktTx → UInt32) (actions : List Action)
    (hnamed : Along (step sort timeOnAir) Named System.init actions) :
    Accounted (run (step sort timeOnAir) System.init actions) :=
  hnamed.run_invariant (accounted_of_represents represents_init (List.Perm.refl _))
    fun _ _ h => step_accounted sort timeOnAir h

/-- A packet for a time. -/
def packetAt (countUs : UInt32) : LgwPktTx := {LgwPktTx.zero with countUs}

/-- A packet that is enqueued and taken out. -/
theorem run_accounted_taken : Accounted (run (step Qsort.merge fun _ => 50) System.init
    [.enqueue 0 (packetAt 1000000) .downlinkClassA,.dequeue 0]) := by
  apply run_accounted
  refine (along_cons_iff _ _ _ _ _).mpr ⟨trivial,(along_cons_iff _ _ _ _ _).mpr ⟨?_,along_nil _ _ _⟩⟩
  exact .inr (.inl (by decide))

end LorawanServer.JustInTime
