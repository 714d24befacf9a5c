import LorawanServer.JitRunner

/-!
# The slot of an immediate downlink

`jit_enqueue` looks for a slot for a class C downlink behind one queued node and
in front of the next one, and afterwards tests the timestamp against every node.
While all queued packets are still to come the test never fails: such a downlink
is refused by a full queue only.
-/

namespace LorawanServer.JustInTime

open ClockCircle SwapRemoval StepRun

/-- The best slot is behind a node and free of the next one. -/
theorem bestSlot_spec (preDelay postDelay asapCountUs : UInt32) {nodes : List JitNode} (hne : nodes≠[]) :
    ∃ front node tail,nodes=front++node::tail ∧
      bestSlot preDelay postDelay asapCountUs nodes=slotAfter preDelay node ∧
      ∀ next∈tail.head?,jitCollisionTest (slotAfter preDelay node) preDelay postDelay next.pkt.countUs
        next.preDelay next.postDelay=false := by
  induction nodes with
  | nil => exact absurd rfl hne
  | cons node rest ih =>
    cases rest with
    | nil =>
      refine ⟨[],node,[],rfl,rfl,?_⟩
      intro next hn
      cases hn
    | cons next rest =>
      rw [bestSlot]
      split_ifs with ht
      · obtain ⟨front,found,tail,hsplit,hslot,htail⟩ := ih (List.cons_ne_nil _ _)
        exact ⟨node::front,found,tail,by rw [hsplit]; rfl,hslot,htail⟩
      · refine ⟨[],node,next::rest,rfl,rfl,?_⟩
        intro other ho
        obtain rfl := Option.some.inj ho
        exact Bool.eq_false_of_not_eq_true ht

/-- Time in front of a downlink. -/
theorem packetPreDelay_downlink {pktType : JitPktType} (h : pktType≠.beacon) : (packetPreDelay pktType).toNat=41500 := by
  cases pktType with
  | beacon => exact absurd rfl h
  | _ => rfl

/-- A class C downlink asks every node for the least time. -/
theorem targetPreDelay_classC_le {node : JitNode} (h : Built node) (pktType : JitPktType) :
    (targetPreDelay .downlinkClassC node).toNat ≤ (targetPreDelay pktType node).toNat := by
  by_cases hb : node.pktType=.beacon
  · have hc : targetPreDelay .downlinkClassC node=txStartDelay := if_pos ⟨.inr rfl,hb⟩
    rw [hc]
    unfold targetPreDelay
    split_ifs
    · exact le_rfl
    · rw [h.preDelay]
      exact (packetPreDelay_toNat_le _).1
  · have hc : ∀ t,targetPreDelay t node=node.preDelay := fun t => if_neg fun hp => hb hp.2
    rw [hc,hc]

/-- What a queued packet must be for a slot behind it: still to come within 2^30
µs, and at most 1000 seconds on air. -/
structure Ahead (timeUs : UInt32) (node : JitNode) : Prop where
  near : ahead node.pkt.countUs timeUs ≤ 1073741824
  postDelay : node.postDelay.toNat ≤ 1000000000

/-- Distance of a slot from the current time. -/
theorem ahead_slotAfter {timeUs : UInt32} {node : JitNode} (h : Ahead timeUs node) :
    ahead (slotAfter (packetPreDelay .downlinkClassC) node) timeUs=
      ahead node.pkt.countUs timeUs+node.postDelay.toNat+82500 := by
  obtain ⟨hn,hp⟩ := h
  have h1 : (packetPreDelay .downlinkClassC).toNat=41500 := rfl
  have h2 : txJitDelay.toNat=40000 := rfl
  have h3 : txMarginDelay.toNat=1000 := rfl
  rw [slotAfter,ahead_add,ahead_add,ahead_add,ahead_add,h1,h2,h3]
  omega

/-- Distance of two readings of which the first is nearer to a base. -/
theorem ahead_behind (a b base : UInt32) (h : ahead a base<ahead b base) :
    ahead b a=ahead b base-ahead a base ∧ ahead a b=4294967296-(ahead b base-ahead a base) := by
  have hd := ahead_of_le h.le
  have hne : a≠b := by
    rintro rfl
    exact h.false
  have hs := ahead_add_swap hne
  omega

section Slot

variable {timeUs postDelay : UInt32} {queue : JitQueue}

/-- The slot behind a node leaves time to every queued node. -/
theorem slot_gap (hs : Scheduled queue) (ha : ∀ node∈queue.live,Ahead timeUs node)
    (hpost : postDelay.toNat ≤ 1000000000) {front tail : List JitNode} {node : JitNode}
    (hsplit : queue.live=front++node::tail)
    (htest : ∀ next∈tail.head?,jitCollisionTest (slotAfter (packetPreDelay .downlinkClassC) node)
      (packetPreDelay .downlinkClassC) postDelay next.pkt.countUs next.preDelay next.postDelay=false)
    {queued : JitNode} (hm : queued∈queue.live) :
    Gap (slotAfter (packetPreDelay .downlinkClassC) node) (packetPreDelay .downlinkClassC) postDelay
      queued.pkt.countUs (targetPreDelay .downlinkClassC queued) queued.postDelay := by
  have hmem : ∀ n∈front++node::tail,n∈queue.live := fun n hn => by rw [hsplit]; exact hn
  have hnode := hmem node (by simp)
  have hslot := ahead_slotAfter (ha node hnode)
  have hpre : (packetPreDelay .downlinkClassC).toNat=41500 := rfl
  have hnn := (ha node hnode).near
  have hnp := (ha node hnode).postDelay
  have hqn := (ha queued hm).near
  have hqp := (ha queued hm).postDelay
  have htp := (targetPreDelay_le (hs.spaced.built queued hm) .downlinkClassC).trans
    (hs.spaced.built queued hm).bounded.1
  have horder : ∀ a∈queue.live,∀ b∈queue.live,Before a b → ahead a.pkt.countUs timeUs<ahead b.pkt.countUs timeUs := by
    intro a hma b hmb hab
    have han := (ha a hma).near
    have hbn := (ha b hmb).near
    exact (before_iff_of_window (by omega) (by omega)).mp hab
  have htimed := hs.timed
  have hsep := hs.spaced.separate
  rw [Timed,hsplit] at htimed
  rw [hsplit] at hsep hm
  obtain ⟨-,htimedTail,hcross⟩ := List.pairwise_append.mp htimed
  obtain ⟨-,hsepTail,hsepCross⟩ := List.pairwise_append.mp hsep
  rcases List.mem_append.mp hm with hf | ht
  · -- nodes in front of the chosen one
    have hlt := horder queued (hmem _ hm) node hnode (hcross queued hf node List.mem_cons_self)
    have hgap := (hsepCross queued hf node List.mem_cons_self).2
    have hb := (ahead_behind _ _ _ hlt).1
    have hd := ahead_behind queued.pkt.countUs (slotAfter (packetPreDelay .downlinkClassC) node) timeUs (by omega)
    constructor <;> omega
  · rcases List.mem_cons.mp ht with rfl | htail
    · -- the chosen node
      have hd := ahead_behind queued.pkt.countUs (slotAfter (packetPreDelay .downlinkClassC) queued) timeUs
        (by omega)
      constructor <;> omega
    · cases tail with
      | nil => cases htail
      | cons next others =>
        have hnm := hmem next (by simp)
        have hbuilt := hs.spaced.built next hnm
        have hfree := (jitCollisionTest_false_iff ⟨by rw [hpre]; omega,by omega⟩ hbuilt.bounded).mp
          (htest next rfl)
        rcases List.mem_cons.mp htail with rfl | hothers
        · -- the node behind the slot
          exact hfree.mono le_rfl (targetPreDelay_le hbuilt _)
        · -- later nodes
          have hnextNear := (ha next hnm).near
          have hlt := horder node hnode next hnm ((List.pairwise_cons.mp htimedTail).1 next List.mem_cons_self)
          have hgap := ((List.pairwise_cons.mp hsepTail).1 next List.mem_cons_self).2
          have hnext := (ahead_behind _ _ _ hlt).1
          have hbehind : ahead (slotAfter (packetPreDelay .downlinkClassC) node) timeUs<ahead next.pkt.countUs timeUs := by
            by_contra hc
            have hle := ahead_of_le (not_lt.mp hc)
            have hroom := hfree.1
            by_cases hbeacon : next.pktType=.beacon
            · have hres : next.postDelay.toNat=2120000 := by rw [hbuilt.beacon hbeacon]; rfl
              omega
            · have hfull : targetPreDelay node.pktType next=next.preDelay := if_neg fun hp => hbeacon hp.2
              have hdelay : next.preDelay.toNat=41500 := by
                rw [hbuilt.preDelay]
                exact packetPreDelay_downlink hbeacon
              rw [hfull] at hgap
              omega
          have hlater := horder next hnm queued (hmem _ hm)
            ((List.pairwise_cons.mp (List.pairwise_cons.mp htimedTail).2).1 queued hothers)
          have hapart := ((List.pairwise_cons.mp (List.pairwise_cons.mp hsepTail).2).1 queued hothers).2
          have hleast := targetPreDelay_classC_le (hs.spaced.built queued (hmem _ hm)) next.pktType
          have h1 := (ahead_behind _ _ _ hlater).1
          have h2 := (ahead_behind _ _ _ hbehind).1
          have h3 := ahead_behind _ _ _ (hbehind.trans hlater)
          have hroom := hfree.2
          constructor <;> omega

/-- The timestamp that an immediate downlink gets leaves time to every queued
node, and it is late enough. -/
theorem asapCount_gap (hs : Scheduled queue) (ha : ∀ node∈queue.live,Ahead timeUs node)
    (hpost : postDelay.toNat ≤ 1000000000) :
    42500<ahead (asapCount queue timeUs (packetPreDelay .downlinkClassC) postDelay) timeUs ∧
      ∀ queued∈queue.live,Gap (asapCount queue timeUs (packetPreDelay .downlinkClassC) postDelay)
        (packetPreDelay .downlinkClassC) postDelay queued.pkt.countUs
        (targetPreDelay .downlinkClassC queued) queued.postDelay := by
  have hpre : (packetPreDelay .downlinkClassC).toNat=41500 := rfl
  unfold asapCount
  dsimp only
  split_ifs with hany
  · have hne : queue.live≠[] := by
      intro hz
      rw [hz] at hany
      cases hany
    obtain ⟨front,node,tail,hsplit,hslot,htail⟩ :=
      bestSlot_spec (packetPreDelay .downlinkClassC) postDelay (timeUs+2*txJitDelay) hne
    have hm : node∈queue.live := by
      rw [hsplit]
      simp
    rw [hslot]
    refine ⟨?_,fun queued hq => slot_gap hs ha hpost hsplit htail hq⟩
    rw [ahead_slotAfter (ha node hm)]
    omega
  · have hjit : (2*txJitDelay).toNat=80000 := rfl
    constructor
    · rw [ahead_add,ahead_self,hjit]
      decide
    · intro queued hq
      have htest : jitCollisionTest (timeUs+2*txJitDelay) (packetPreDelay .downlinkClassC) postDelay
          queued.pkt.countUs queued.preDelay queued.postDelay=false := by
        by_contra hc
        exact hany (List.any_eq_true.mpr ⟨queued,hq,Bool.eq_true_of_not_eq_false hc⟩)
      have hbuilt := hs.spaced.built queued hq
      have hgap := (jitCollisionTest_false_iff ⟨by rw [hpre]; omega,by omega⟩ hbuilt.bounded).mp htest
      exact hgap.mono le_rfl (targetPreDelay_le hbuilt _)

end Slot

/-- Time behind a timestamp, from the time on air. -/
theorem postDelay_le {timeOnAir : LgwPktTx → UInt32} {packet : LgwPktTx} (hair : (timeOnAir packet).toNat ≤ 1000000)
    (pktType : JitPktType) : (packetPostDelay timeOnAir packet pktType).toNat ≤ 1000000000 := by
  have hw : (timeOnAir packet*1000).toNat ≤ (timeOnAir packet).toNat*1000 := by
    rw [UInt32.toNat_mul]
    exact Nat.mod_le _ _
  have hm : (timeOnAir packet*1000).toNat ≤ 1000000000 := by omega
  cases pktType with
  | beacon =>
    have hr : beaconReserved.toNat ≤ 1000000000 := by decide
    exact hr
  | downlinkClassA => exact hm
  | downlinkClassB => exact hm
  | downlinkClassC => exact hm

/-- While all queued packets are still to come `jit_enqueue` refuses an immediate
downlink exactly when the queue is full. -/
theorem jitEnqueue_classC (sort : Qsort) {timeOnAir : LgwPktTx → UInt32} {queue : JitQueue} (hs : Scheduled queue)
    {timeUs : UInt32} (ha : ∀ node∈queue.live,Ahead timeUs node) {packet : LgwPktTx}
    (hair : (timeOnAir packet).toNat ≤ 1000000) :
    (jitEnqueue sort timeOnAir queue timeUs packet .downlinkClassC).1=
      if jitQueueIsFull queue then .full else .ok := by
  have hpost := postDelay_le hair .downlinkClassC
  obtain ⟨hlate,hgap⟩ := asapCount_gap hs ha hpost
  have hcriteria : enqueueCriteria queue timeUs
      (asapCount queue timeUs (packetPreDelay .downlinkClassC) (packetPostDelay timeOnAir packet .downlinkClassC))
      (packetPreDelay .downlinkClassC) (packetPostDelay timeOnAir packet .downlinkClassC) .downlinkClassC=none := by
    unfold enqueueCriteria
    rw [if_neg,if_neg,List.findSome?_eq_none_iff]
    · intro queued hq
      have hbuilt := hs.spaced.built queued hq
      have hb : DelaysBounded (targetPreDelay .downlinkClassC queued) queued.postDelay :=
        ⟨(targetPreDelay_le hbuilt _).trans hbuilt.bounded.1,hbuilt.postDelay⟩
      have hp : DelaysBounded (packetPreDelay .downlinkClassC) (packetPostDelay timeOnAir packet .downlinkClassC) :=
        ⟨(packetPreDelay_toNat_le _).2,by omega⟩
      rw [collisionWith,(jitCollisionTest_false_iff hp hb).mpr (hgap queued hq)]
      rfl
    · rintro ⟨h | h,-⟩ <;> cases h
    · rw [UInt32.le_iff_toNat_le,not_le]
      exact hlate
  unfold jitEnqueue
  split_ifs
  · rfl
  · have hnode : jitEnqueueLocked sort timeOnAir queue timeUs packet .downlinkClassC=
        (.ok,jitSortQueue sort (insertNode queue (enqueuedNode timeOnAir queue timeUs packet .downlinkClassC))) := by
      unfold jitEnqueueLocked
      simp only [enqueuedNode,stampPacket,if_true,hcriteria]
    rw [hnode]

/-- Queued packets stay at most 1000 seconds on air when all packets do. -/
theorem run_postDelay (sort : Qsort) {timeOnAir : LgwPktTx → UInt32} (hair : ∀ p,(timeOnAir p).toNat ≤ 1000000)
    {actions : List Action} (h : Along (step sort timeOnAir) Named System.init actions) :
    ∀ node∈(run (step sort timeOnAir) System.init actions).queue.live,node.postDelay.toNat ≤ 1000000000 := by
  have hinit : Accounted System.init ∧ ∀ node∈System.init.queue.live,node.postDelay.toNat ≤ 1000000000 :=
    ⟨accounted_of_represents represents_init (List.Perm.refl _),fun node hm => absurd hm List.not_mem_nil⟩
  refine (@Along.run_invariant _ _ _ _
    (fun s => Accounted s ∧ ∀ node∈s.queue.live,node.postDelay.toNat ≤ 1000000000) _ _ h hinit ?_).2
  rintro s action ⟨hs,hp⟩ hn
  refine ⟨step_accounted sort timeOnAir hs hn,fun node hm => ?_⟩
  rcases mem_live_step sort timeOnAir hs.1 hn hm with hm | ⟨timeUs,packet,pktType,-,rfl⟩
  · exact hp node hm
  · exact postDelay_le (hair packet) pktType

end LorawanServer.JustInTime
