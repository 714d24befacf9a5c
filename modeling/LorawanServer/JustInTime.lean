import LorawanServer.ClockCircle

/-!
# The just-in-time transmission queue

`jitqueue.c` holds the packets that a concentrator will send in an array of 32
nodes, with two counters. A packet reserves time before and after its
timestamp, and `jit_enqueue` refuses one that is late, implausible or too near
to a queued one. `jit_peek` drops what was missed and finds the packet that is
due, `jit_dequeue` takes it out. Each locked region is one step. A queue
represents the list of the nodes in use when the counters are those of the list
and the rest of the array is cleared.
-/

namespace LorawanServer.JustInTime

open ClockCircle

/-- `JIT_QUEUE_MAX`. -/
def jitQueueMax : ℕ := 32

/-- `TX_START_DELAY`. -/
def txStartDelay : UInt32 := 1500

/-- `TX_MARGIN_DELAY`. -/
def txMarginDelay : UInt32 := 1000

/-- `TX_JIT_DELAY`. -/
def txJitDelay : UInt32 := 40000

/-- `TX_MAX_ADVANCE_DELAY`. The source writes it as a double; it is exact. -/
def txMaxAdvanceDelay : UInt32 := 512000000

/-- `BEACON_GUARD`. -/
def beaconGuard : UInt32 := 3000000

/-- `BEACON_RESERVED`. -/
def beaconReserved : UInt32 := 2120000

/-- `IMMEDIATE`. -/
def immediate : UInt8 := 0

/-- `TIMESTAMPED`. -/
def timestamped : UInt8 := 1

/-- `ON_GPS`. -/
def onGps : UInt8 := 2

/-- `jit_pkt_type_e`. -/
inductive JitPktType where
  | downlinkClassA
  | downlinkClassB
  | downlinkClassC
  | beacon
  deriving DecidableEq

/-- `jit_error_e`, as far as `jitqueue.c` returns it. -/
inductive JitError where
  | ok
  | tooLate
  | tooEarly
  | full
  | empty
  | collisionPacket
  | collisionBeacon
  | invalid
  deriving DecidableEq

/-- `lgw_pkt_tx_s`. -/
structure LgwPktTx where
  freqHz : UInt32
  txMode : UInt8
  countUs : UInt32
  rfChain : UInt8
  rfPower : Int8
  modulation : UInt8
  freqOffset : Int8
  bandwidth : UInt8
  datarate : UInt32
  coderate : UInt8
  invertPol : Bool
  fDev : UInt8
  preamble : UInt16
  noCrc : Bool
  noHeader : Bool
  size : UInt16
  payload : List UInt8
  deriving DecidableEq

/-- `jit_node_s`. -/
structure JitNode where
  pkt : LgwPktTx
  pktType : JitPktType
  preDelay : UInt32
  postDelay : UInt32
  deriving DecidableEq

/-- A packet whose memory is cleared. -/
def LgwPktTx.zero : LgwPktTx :=
  ⟨0,0,0,0,0,0,0,0,0,0,false,0,0,false,false,0,List.replicate 256 0⟩

/-- A node whose memory is cleared. -/
def JitNode.zero : JitNode := ⟨LgwPktTx.zero,.downlinkClassA,0,0⟩

/-- `jit_queue_s`: the counters and the array of nodes. -/
structure JitQueue where
  numPkt : ℕ
  numBeacon : ℕ
  nodes : List JitNode
  /-- The array has a fixed size. -/
  length_nodes : nodes.length=jitQueueMax

/-- The nodes in use. -/
def JitQueue.live (queue : JitQueue) : List JitNode := queue.nodes.take queue.numPkt

/-- `nodes[i]`. -/
def JitQueue.node (queue : JitQueue) (i : ℕ) : JitNode := queue.nodes.getD i JitNode.zero

/-- `jit_queue_is_full`. -/
def jitQueueIsFull (queue : JitQueue) : Bool := queue.numPkt=jitQueueMax

/-- `jit_queue_is_empty`. -/
def jitQueueIsEmpty (queue : JitQueue) : Bool := queue.numPkt=0

/-- `jit_queue_init`. -/
def jitQueueInit : JitQueue := ⟨0,0,List.replicate jitQueueMax JitNode.zero,List.length_replicate⟩

/-- `compare`: the timestamps are read as signed numbers before they are
subtracted; the difference wraps. -/
def compare (p q : JitNode) : ℤ := signedDifference p.pkt.countUs q.pkt.countUs

/-- `qsort_r` of the C library: it rearranges the array, in an ascending order
when the comparison is a total preorder on its elements. -/
structure Qsort where
  /-- The array afterwards. -/
  run : (JitNode → JitNode → ℤ) → List JitNode → List JitNode
  perm : ∀ cmp nodes,(run cmp nodes).Perm nodes
  sorted : ∀ cmp nodes,
    (∀ a∈nodes,∀ b∈nodes,cmp a b ≤ 0 ∨ cmp b a ≤ 0) →
    (∀ a∈nodes,∀ b∈nodes,∀ c∈nodes,cmp a b ≤ 0 → cmp b c ≤ 0 → cmp a c ≤ 0) →
    (run cmp nodes).Pairwise fun a b => cmp a b ≤ 0

/-- Merge sort rearranges an array as the library function does. -/
def Qsort.merge : Qsort where
  run cmp nodes := nodes.mergeSort fun a b => cmp a b ≤ 0
  perm cmp nodes := List.mergeSort_perm nodes _
  sorted cmp nodes htotal htrans := by
    -- the comparison is total and transitive on the members only
    have hmap : (nodes.attach.mergeSort fun a b => decide (cmp a.1 b.1 ≤ 0)).map Subtype.val=
        nodes.mergeSort fun a b => decide (cmp a b ≤ 0) := by
      have hm := List.map_mergeSort (f := Subtype.val) (l := nodes.attach)
        (r := fun a b => decide (cmp a.1 b.1 ≤ 0)) (s := fun a b => decide (cmp a b ≤ 0))
        fun a _ b _ => rfl
      rwa [List.attach_map_subtype_val] at hm
    have hsorted := @List.pairwise_mergeSort _ (fun a b : {n // n∈nodes} => decide (cmp a.1 b.1 ≤ 0))
      (fun a b c hab hbc => decide_eq_true (htrans a.1 a.2 b.1 b.2 c.1 c.2 (of_decide_eq_true hab)
        (of_decide_eq_true hbc)))
      (fun a b => by simpa using htotal a.1 a.2 b.1 b.2) nodes.attach
    rw [←hmap,List.pairwise_map]
    exact hsorted.imp fun h => of_decide_eq_true h

/-- `jit_sort_queue`: the nodes in use are sorted. -/
def jitSortQueue (sort : Qsort) (queue : JitQueue) : JitQueue :=
  {queue with
    nodes := sort.run compare queue.live++queue.nodes.drop queue.numPkt
    length_nodes := by
      rw [List.length_append,(sort.perm compare queue.live).length_eq,JitQueue.live,
        ←List.length_append,List.take_append_drop,queue.length_nodes]}

/-- `jit_collision_test`. -/
def jitCollisionTest (p1CountUs p1PreDelay p1PostDelay p2CountUs p2PreDelay p2PostDelay : UInt32) : Bool :=
  p1CountUs-p2CountUs ≤ p1PreDelay+p2PostDelay+txMarginDelay ||
    p2CountUs-p1CountUs ≤ p2PreDelay+p1PostDelay+txMarginDelay

/-- The time that `jit_enqueue` reserves before a packet. -/
def packetPreDelay : JitPktType → UInt32
  | .beacon => txStartDelay+beaconGuard+txJitDelay
  | _ => txStartDelay+txJitDelay

/-- The time that `jit_enqueue` reserves behind a timestamp, from the time on
air in milliseconds. -/
def packetPostDelay (timeOnAir : LgwPktTx → UInt32) (packet : LgwPktTx) : JitPktType → UInt32
  | .beacon => beaconReserved
  | _ => timeOnAir packet*1000

/-- First timestamp behind a queued node. -/
def slotAfter (preDelay : UInt32) (node : JitNode) : UInt32 :=
  node.pkt.countUs+node.postDelay+preDelay+txJitDelay+txMarginDelay

/-- Search for the best slot: behind the first node that leaves room in front
of the next one, else behind the last one. -/
def bestSlot (preDelay postDelay asapCountUs : UInt32) : List JitNode → UInt32
  | [] => asapCountUs
  | [node] => slotAfter preDelay node
  | node::next::nodes =>
    if jitCollisionTest (slotAfter preDelay node) preDelay postDelay next.pkt.countUs next.preDelay
        next.postDelay then
      bestSlot preDelay postDelay asapCountUs (next::nodes)
    else slotAfter preDelay node

/-- The timestamp of an immediate downlink: the current time with a margin when
no node is near, else the best slot. -/
def asapCount (queue : JitQueue) (timeUs preDelay postDelay : UInt32) : UInt32 :=
  let asapCountUs := timeUs+2*txJitDelay
  if queue.live.any fun node => jitCollisionTest asapCountUs preDelay postDelay node.pkt.countUs
      node.preDelay node.postDelay then
    bestSlot preDelay postDelay asapCountUs queue.live
  else asapCountUs

/-- The time that counts in front of a queued node: downlinks of the classes A
and C ignore the guard of a beacon. -/
def targetPreDelay (pktType : JitPktType) (node : JitNode) : UInt32 :=
  if (pktType=.downlinkClassA ∨ pktType=.downlinkClassC) ∧ node.pktType=.beacon then txStartDelay
  else node.preDelay

/-- Criterion 3 of `jit_enqueue` at one queued node. -/
def collisionWith (pktType : JitPktType) (countUs preDelay postDelay : UInt32) (node : JitNode) :
    Option JitError :=
  if jitCollisionTest countUs preDelay postDelay node.pkt.countUs (targetPreDelay pktType node)
      node.postDelay then
    some (if node.pktType=.beacon then .collisionBeacon else .collisionPacket)
  else none

/-- The packet with the changes that `jit_enqueue` makes to it: an immediate
downlink gets a timestamp. -/
def stampPacket (timeOnAir : LgwPktTx → UInt32) (queue : JitQueue) (timeUs : UInt32) (packet : LgwPktTx)
    (pktType : JitPktType) : LgwPktTx :=
  if pktType=.downlinkClassC then
    {packet with
      txMode := timestamped
      countUs := asapCount queue timeUs (packetPreDelay pktType) (packetPostDelay timeOnAir packet pktType)}
  else packet

/-- The three criteria of `jit_enqueue`. -/
def enqueueCriteria (queue : JitQueue) (timeUs countUs preDelay postDelay : UInt32) (pktType : JitPktType) :
    Option JitError :=
  if countUs-timeUs ≤ txStartDelay+txMarginDelay+txJitDelay then some .tooLate
  else if (pktType=.downlinkClassA ∨ pktType=.downlinkClassB) ∧ countUs-timeUs>txMaxAdvanceDelay then
    some .tooEarly
  else queue.live.findSome? (collisionWith pktType countUs preDelay postDelay)

/-- A node behind the nodes in use, before the array is sorted. -/
def insertNode (queue : JitQueue) (node : JitNode) : JitQueue :=
  {queue with
    nodes := queue.nodes.set queue.numPkt node
    numPkt := queue.numPkt+1
    numBeacon := if node.pktType=.beacon then queue.numBeacon+1 else queue.numBeacon
    length_nodes := by rw [List.length_set,queue.length_nodes]}

/-- The node that `jit_enqueue` builds. -/
def enqueuedNode (timeOnAir : LgwPktTx → UInt32) (queue : JitQueue) (timeUs : UInt32) (packet : LgwPktTx)
    (pktType : JitPktType) : JitNode :=
  ⟨stampPacket timeOnAir queue timeUs packet pktType,pktType,packetPreDelay pktType,
    packetPostDelay timeOnAir packet pktType⟩

/-- The locked part of `jit_enqueue`. -/
def jitEnqueueLocked (sort : Qsort) (timeOnAir : LgwPktTx → UInt32) (queue : JitQueue) (timeUs : UInt32)
    (packet : LgwPktTx) (pktType : JitPktType) : JitError×JitQueue :=
  let node := enqueuedNode timeOnAir queue timeUs packet pktType
  match enqueueCriteria queue timeUs node.pkt.countUs node.preDelay node.postDelay pktType with
  | some error => (error,queue)
  | none => (.ok,jitSortQueue sort (insertNode queue node))

/-- `jit_enqueue`. -/
def jitEnqueue (sort : Qsort) (timeOnAir : LgwPktTx → UInt32) (queue : JitQueue) (timeUs : UInt32)
    (packet : LgwPktTx) (pktType : JitPktType) : JitError×JitQueue :=
  if jitQueueIsFull queue then (.full,queue)
  else jitEnqueueLocked sort timeOnAir queue timeUs packet pktType

/-- A node is taken out: the last node in use moves to its place, which is
cleared, and the array is sorted. -/
def removeNode (sort : Qsort) (queue : JitQueue) (i : ℕ) : JitQueue :=
  jitSortQueue sort {queue with
    numPkt := queue.numPkt-1
    numBeacon := if (queue.node i).pktType=.beacon then queue.numBeacon-1 else queue.numBeacon
    nodes := (queue.nodes.set i (queue.node (queue.numPkt-1))).set (queue.numPkt-1) JitNode.zero
    length_nodes := by rw [List.length_set,List.length_set,queue.length_nodes]}

/-- `jit_dequeue`: the result, the node taken and the queue afterwards. -/
def jitDequeue (sort : Qsort) (queue : JitQueue) (index : ℤ) : JitError×Option JitNode×JitQueue :=
  if index<0 ∨ index ≥ jitQueueMax then (.invalid,none,queue)
  else if jitQueueIsEmpty queue then (.empty,none,queue)
  else (.ok,some (queue.node index.toNat),removeNode sort queue index.toNat)

/-- State of the loop of `jit_peek`. -/
structure PeekState where
  queue : JitQueue
  /-- Position of the loop. -/
  i : ℕ
  /-- `idx_highest_priority`, none for -1. -/
  idx : Option ℕ
  /-- Nodes dropped so far. -/
  dropped : List JitNode

/-- The test of `jit_peek` for a packet that was missed. -/
def outdated (timeUs : UInt32) (node : JitNode) : Bool := node.pkt.countUs-timeUs ≥ txMaxAdvanceDelay

/-- The comparison of `jit_peek` with the best position so far. -/
def higherPriority (queue : JitQueue) (timeUs : UInt32) (i : ℕ) : Option ℕ → Bool
  | none => true
  | some idx => (queue.node i).pkt.countUs-timeUs<(queue.node idx).pkt.countUs-timeUs

/-- One round of the loop of `jit_peek`. The loop counter is set to zero after
a drop and then incremented, so the node in front is passed over. -/
def peekRound (sort : Qsort) (timeUs : UInt32) (s : PeekState) : PeekState :=
  if outdated timeUs (s.queue.node s.i) then
    ⟨removeNode sort s.queue s.i,1,s.idx,s.dropped++[s.queue.node s.i]⟩
  else {s with
    i := s.i+1
    idx := if higherPriority s.queue timeUs s.i s.idx then some s.i else s.idx}

/-- Number of nodes in use after a removal. -/
@[simp] theorem removeNode_numPkt (sort : Qsort) (queue : JitQueue) (i : ℕ) :
    (removeNode sort queue i).numPkt=queue.numPkt-1 := rfl

/-- The loop of `jit_peek`. -/
def peekLoop (sort : Qsort) (timeUs : UInt32) (s : PeekState) : PeekState :=
  if s.i<s.queue.numPkt then peekLoop sort timeUs (peekRound sort timeUs s) else s
termination_by (s.queue.numPkt,s.queue.numPkt-s.i)
decreasing_by
  unfold peekRound
  split
  · apply Prod.Lex.left
    rw [removeNode_numPkt]
    omega
  · apply Prod.Lex.right
    dsimp only
    omega

/-- The result of `jit_peek`. -/
structure PeekResult where
  error : JitError
  queue : JitQueue
  /-- `*pkt_idx`, none for -1. -/
  pktIdx : Option ℕ
  /-- Nodes dropped. -/
  dropped : List JitNode

/-- `jit_peek`. When the loop found no node the source compares what stands in
front of the array, and the index is -1 either way. -/
def jitPeek (sort : Qsort) (queue : JitQueue) (timeUs : UInt32) : PeekResult :=
  if jitQueueIsEmpty queue then ⟨.empty,queue,none,[]⟩
  else
    let s := peekLoop sort timeUs ⟨queue,0,none,[]⟩
    let pktIdx := s.idx.filter fun idx => (s.queue.node idx).pkt.countUs-timeUs<txJitDelay
    ⟨.ok,s.queue,pktIdx,s.dropped⟩

end LorawanServer.JustInTime
