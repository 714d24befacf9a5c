import LorawanServer.JustInTime
import LorawanServer.SwapRemoval

/-!
# The transmission queue as a list of nodes

A queue represents a list when the counters count it and the array holds it in
front of cleared nodes. Insertion, removal and sorting on the array are those
of the list, and so are the operations that jitqueue.c builds from them.
-/

namespace LorawanServer.JustInTime

open ClockCircle SwapRemoval

/-- The test for a beacon. -/
def isBeacon (node : JitNode) : Bool := node.pktType=.beacon

/-- The counters and the array are those of a list of nodes. -/
structure Represents (queue : JitQueue) (nodes : List JitNode) : Prop where
  numPkt : queue.numPkt=nodes.length
  numBeacon : queue.numBeacon=nodes.countP isBeacon
  nodes : queue.nodes=nodes++List.replicate (jitQueueMax-nodes.length) JitNode.zero

variable {queue : JitQueue} {nodes : List JitNode}

/-- The array holds no more nodes than it has room for. -/
theorem Represents.length_le (h : Represents queue nodes) : nodes.length ≤ jitQueueMax := by
  have hl := queue.length_nodes
  rw [h.nodes,List.length_append,List.length_replicate] at hl
  omega

/-- The nodes in use are the list. -/
theorem Represents.live (h : Represents queue nodes) : queue.live=nodes := by
  rw [JitQueue.live,h.nodes,h.numPkt,List.take_left']
  rfl

/-- A node in use. -/
theorem Represents.node (h : Represents queue nodes) {i : ℕ} (hi : i<nodes.length) :
    queue.node i=nodes[i] := by
  rw [JitQueue.node,h.nodes,List.getD_append _ _ _ _ hi,List.getD_eq_getElem _ _ hi]

/-- A node behind the nodes in use is cleared. -/
theorem Represents.node_of_le (h : Represents queue nodes) {i : ℕ} (hi : nodes.length ≤ i) :
    queue.node i=JitNode.zero := by
  rw [JitQueue.node,h.nodes,List.getD_append_right _ _ _ _ hi,List.getD_eq_getElem?_getD,
    List.getElem?_replicate]
  split_ifs <;> rfl

/-- The new queue is empty. -/
theorem represents_init : Represents jitQueueInit [] := ⟨rfl,rfl,rfl⟩

/-- A queue represents one list only. -/
theorem Represents.unique {other : List JitNode} (h : Represents queue nodes) (ho : Represents queue other) :
    nodes=other := h.live.symm.trans ho.live

/-- Sorting the array sorts the list. -/
theorem represents_sort (sort : Qsort) (h : Represents queue nodes) :
    Represents (jitSortQueue sort queue) (sort.run compare nodes) := by
  have hp := sort.perm compare nodes
  refine ⟨?_,?_,?_⟩
  · rw [hp.length_eq]
    exact h.numPkt
  · rw [hp.countP_eq]
    exact h.numBeacon
  · change sort.run compare queue.live++queue.nodes.drop queue.numPkt=_
    rw [h.live,h.nodes,h.numPkt,List.drop_left',hp.length_eq]
    rfl

/-- Insertion appends to the list while there is room. -/
theorem represents_insert (h : Represents queue nodes) (hroom : nodes.length<jitQueueMax) (node : JitNode) :
    Represents (insertNode queue node) (nodes++[node]) := by
  refine ⟨?_,?_,?_⟩
  · rw [List.length_append,List.length_singleton,←h.numPkt]
    rfl
  · rw [List.countP_append,List.countP_singleton,←h.numBeacon]
    by_cases hb : node.pktType=.beacon <;> simp [insertNode,isBeacon,hb]
  · change queue.nodes.set queue.numPkt node=_
    obtain ⟨n,hn⟩ := Nat.exists_eq_add_of_lt hroom
    have hf : jitQueueMax-nodes.length=n+1 := by omega
    have hg : jitQueueMax-(nodes++[node]).length=n := by
      rw [List.length_append,List.length_singleton]
      omega
    rw [h.nodes,h.numPkt,hf,hg,List.set_append_right _ _ le_rfl,Nat.sub_self,List.replicate_succ,
      List.set_cons_zero,List.append_assoc,List.singleton_append]

/-- Removal takes the node out of the list. -/
theorem represents_remove (sort : Qsort) (h : Represents queue nodes) {i : ℕ} (hi : i<nodes.length) :
    Represents (removeNode sort queue i) (sort.run compare (swapRemove nodes i)) := by
  apply represents_sort
  have hlast : queue.node (queue.numPkt-1)=getElem nodes (nodes.length-1) (by omega) := by
    rw [h.numPkt]
    exact h.node (by omega)
  refine ⟨?_,?_,?_⟩
  · rw [length_swapRemove,←h.numPkt]
  · have hc := (cons_swapRemove_perm nodes i hi).countP_eq isBeacon
    dsimp only
    rw [List.countP_cons,←h.numBeacon] at hc
    rw [h.node hi]
    by_cases hb : nodes[i].pktType=.beacon
    · simp only [isBeacon,hb,decide_true,if_true] at hc ⊢
      omega
    · simpa [isBeacon,hb] using hc.symm
  · have hfree : jitQueueMax-(swapRemove nodes i).length=(jitQueueMax-nodes.length)+1 := by
      have hle := h.length_le
      rw [length_swapRemove]
      omega
    dsimp only
    rw [hlast,h.numPkt,h.nodes,hfree]
    exact set_set_append nodes i hi JitNode.zero _

/-- What is left after a removal, with the node, is the list. -/
theorem cons_removed_perm (sort : Qsort) {i : ℕ} (hi : i<nodes.length) :
    (nodes[i]::sort.run compare (swapRemove nodes i)).Perm nodes :=
  ((sort.perm compare _).cons _).trans (cons_swapRemove_perm nodes i hi)

/-- A criterion that fails names an error. -/
theorem enqueueCriteria_ne_ok (timeUs countUs preDelay postDelay : UInt32) (pktType : JitPktType) :
    enqueueCriteria queue timeUs countUs preDelay postDelay pktType≠some .ok := by
  intro hc
  unfold enqueueCriteria at hc
  split_ifs at hc
  · cases hc
  · cases hc
  · obtain ⟨queued,-,hq⟩ := List.exists_of_findSome?_eq_some hc
    unfold collisionWith at hq
    split_ifs at hq <;> cases hq

/-- The node of an accepted packet is in the list, the others stay. -/
theorem jitEnqueueLocked_cases (sort : Qsort) (timeOnAir : LgwPktTx → UInt32) (timeUs : UInt32)
    (packet : LgwPktTx) (pktType : JitPktType) (h : Represents queue nodes)
    (hroom : nodes.length<jitQueueMax) :
    (∃ error,error≠.ok ∧ jitEnqueueLocked sort timeOnAir queue timeUs packet pktType=(error,queue)) ∨
    ∃ next node,jitEnqueueLocked sort timeOnAir queue timeUs packet pktType=(.ok,next) ∧
      node=enqueuedNode timeOnAir queue timeUs packet pktType ∧
      enqueueCriteria queue timeUs node.pkt.countUs node.preDelay node.postDelay pktType=none ∧
      Represents next (sort.run compare (nodes++[node])) := by
  unfold jitEnqueueLocked
  dsimp only
  cases hc : enqueueCriteria queue timeUs (enqueuedNode timeOnAir queue timeUs packet pktType).pkt.countUs
      (enqueuedNode timeOnAir queue timeUs packet pktType).preDelay
      (enqueuedNode timeOnAir queue timeUs packet pktType).postDelay pktType with
  | some error =>
    refine .inl ⟨error,?_,rfl⟩
    rintro rfl
    exact enqueueCriteria_ne_ok _ _ _ _ _ hc
  | none =>
    exact .inr ⟨_,_,rfl,rfl,hc,represents_sort sort (represents_insert h hroom _)⟩

/-- The full queue is seen in the counter. -/
theorem Represents.isFull_iff (h : Represents queue nodes) :
    jitQueueIsFull queue=true ↔ nodes.length=jitQueueMax := by
  rw [jitQueueIsFull,h.numPkt,decide_eq_true_eq]

/-- The empty queue is seen in the counter. -/
theorem Represents.isEmpty_iff (h : Represents queue nodes) : jitQueueIsEmpty queue=true ↔ nodes=[] := by
  rw [jitQueueIsEmpty,h.numPkt,decide_eq_true_eq,List.length_eq_zero_iff]

/-- Either `jit_enqueue` refuses the packet and the queue stays, or the packet
meets the criteria and its node joins the list. -/
theorem jitEnqueue_cases (sort : Qsort) (timeOnAir : LgwPktTx → UInt32) (timeUs : UInt32)
    (packet : LgwPktTx) (pktType : JitPktType) (h : Represents queue nodes) :
    (∃ error,error≠.ok ∧ jitEnqueue sort timeOnAir queue timeUs packet pktType=(error,queue)) ∨
    ∃ next node,jitEnqueue sort timeOnAir queue timeUs packet pktType=(.ok,next) ∧
      node=enqueuedNode timeOnAir queue timeUs packet pktType ∧
      enqueueCriteria queue timeUs node.pkt.countUs node.preDelay node.postDelay pktType=none ∧
      Represents next (sort.run compare (nodes++[node])) := by
  unfold jitEnqueue
  split_ifs with hf
  · exact .inl ⟨.full,by decide,rfl⟩
  · have hne : nodes.length≠jitQueueMax := fun he => hf (h.isFull_iff.mpr he)
    exact jitEnqueueLocked_cases sort timeOnAir timeUs packet pktType h (lt_of_le_of_ne h.length_le hne)

/-- A round of the loop of `jit_peek` keeps the list or drops an outdated node. -/
theorem peekRound_cases (sort : Qsort) (timeUs : UInt32) {s : PeekState} (h : Represents s.queue nodes)
    (hi : s.i<nodes.length) :
    (outdated timeUs nodes[s.i]=true ∧
      Represents (peekRound sort timeUs s).queue (sort.run compare (swapRemove nodes s.i)) ∧
      (peekRound sort timeUs s).i=1 ∧ (peekRound sort timeUs s).idx=s.idx ∧
      (peekRound sort timeUs s).dropped=s.dropped++[nodes[s.i]]) ∨
    (outdated timeUs nodes[s.i]=false ∧ (peekRound sort timeUs s).queue=s.queue ∧
      (peekRound sort timeUs s).i=s.i+1 ∧
      (peekRound sort timeUs s).idx=(if higherPriority s.queue timeUs s.i s.idx then some s.i else s.idx) ∧
      (peekRound sort timeUs s).dropped=s.dropped) := by
  have hn := h.node hi
  unfold peekRound
  cases ho : outdated timeUs (s.queue.node s.i) with
  | true =>
    left
    rw [if_pos rfl,←hn]
    exact ⟨ho,represents_remove sort h hi,rfl,rfl,rfl⟩
  | false =>
    right
    rw [if_neg Bool.false_ne_true,←hn]
    exact ⟨ho,rfl,rfl,rfl,rfl⟩

/-- Induction along the loop of `jit_peek`: what the rounds keep holds at its
end, behind the last node. -/
theorem peekLoop_invariant (sort : Qsort) (timeUs : UInt32) (inv : PeekState → Prop)
    (hround : ∀ s,inv s → s.i<s.queue.numPkt → inv (peekRound sort timeUs s)) (s : PeekState) (h : inv s) :
    inv (peekLoop sort timeUs s) ∧
      (peekLoop sort timeUs s).queue.numPkt ≤ (peekLoop sort timeUs s).i := by
  induction s using peekLoop.induct sort timeUs with
  | case1 s hi ih =>
    rw [peekLoop,if_pos hi]
    exact ih (hround s h hi)
  | case2 s hi =>
    rw [peekLoop,if_neg hi]
    exact ⟨h,Nat.le_of_not_lt hi⟩

/-- The loop of `jit_peek` splits the list into the nodes that stay and the
nodes it drops, which are outdated. -/
theorem peekLoop_represents (sort : Qsort) (timeUs : UInt32) (s : PeekState) (h : Represents s.queue nodes) :
    ∃ rest dropped,Represents (peekLoop sort timeUs s).queue rest ∧
      (peekLoop sort timeUs s).dropped=s.dropped++dropped ∧ (rest++dropped).Perm nodes ∧
      ∀ node∈dropped,outdated timeUs node=true := by
  have hloop := peekLoop_invariant sort timeUs (fun t => ∃ rest dropped,Represents t.queue rest ∧
    t.dropped=s.dropped++dropped ∧ (rest++dropped).Perm nodes ∧ ∀ node∈dropped,outdated timeUs node=true)
    ?_ s ⟨nodes,[],h,(List.append_nil _).symm,by rw [List.append_nil],by simp⟩
  · exact hloop.1
  · rintro t ⟨rest,dropped,hr,hd,hp,ho⟩ hi
    have hlen : t.i<rest.length := by rwa [←hr.numPkt]
    rcases peekRound_cases sort timeUs hr hlen with ⟨hout,hq,-,-,hdrop⟩ | ⟨-,hq,-,-,hdrop⟩
    · refine ⟨_,dropped++[rest[t.i]],hq,by rw [hdrop,hd,List.append_assoc],?_,?_⟩
      · have hm : (sort.run compare (swapRemove rest t.i)++(dropped++[rest[t.i]])).Perm
            (rest[t.i]::sort.run compare (swapRemove rest t.i)++dropped) := by
          rw [←List.append_assoc]
          exact List.perm_append_singleton _ _
        exact hm.trans (((cons_removed_perm sort hlen).append_right dropped).trans hp)
      · intro node hmem
        rcases List.mem_append.mp hmem with hmem | hmem
        · exact ho node hmem
        · rw [List.mem_singleton.mp hmem]
          exact hout
    · exact ⟨rest,dropped,by rw [hq]; exact hr,by rw [hdrop,hd],hp,ho⟩

end LorawanServer.JustInTime
