import LorawanServer.JitRuns

/-!
# Reserved time on the concentrator clock

A queued node reserves the time from its delay in front of its timestamp to a
margin behind its transmission. The collision test of `jit_enqueue` on unsigned
numbers says that two such times are disjoint on the circle of the clock, and it
holds between any two nodes of every queue that the operations reach. Class A
and class C downlinks may use the guard in front of a beacon, nothing else.
-/

namespace LorawanServer.JustInTime

open ClockCircle SwapRemoval StepRun

/-- What the delays of nodes stay below: the delay in front of a beacon, and 4000
seconds on air. -/
def DelaysBounded (preDelay postDelay : UInt32) : Prop := preDelay.toNat ≤ 3041500 ∧ postDelay.toNat ≤ 4000000000

/-- A gap of a node with its delays to another one, in both directions. -/
def Gap (c1 pre1 post1 c2 pre2 post2 : UInt32) : Prop :=
  pre1.toNat+post2.toNat+1000<ahead c1 c2 ∧ pre2.toNat+post1.toNat+1000<ahead c2 c1

/-- The collision test finds no gap. -/
theorem jitCollisionTest_false_iff {c1 pre1 post1 c2 pre2 post2 : UInt32} (h1 : DelaysBounded pre1 post1)
    (h2 : DelaysBounded pre2 post2) :
    jitCollisionTest c1 pre1 post1 c2 pre2 post2=false ↔ Gap c1 pre1 post1 c2 pre2 post2 := by
  obtain ⟨ha,hb⟩ := h1
  obtain ⟨hc,hd⟩ := h2
  have hm : txMarginDelay.toNat=1000 := rfl
  have hsum1 : (pre1+post2+txMarginDelay).toNat=pre1.toNat+post2.toNat+1000 := by
    rw [UInt32.toNat_add,UInt32.toNat_add,hm]
    omega
  have hsum2 : (pre2+post1+txMarginDelay).toNat=pre2.toNat+post1.toNat+1000 := by
    rw [UInt32.toNat_add,UInt32.toNat_add,hm]
    omega
  unfold jitCollisionTest Gap ahead
  rw [Bool.or_eq_false_iff,decide_eq_false_iff_not,decide_eq_false_iff_not,UInt32.le_iff_toNat_le,
    UInt32.le_iff_toNat_le,hsum1,hsum2,not_le,not_le]

/-- A gap with more time in front is a gap with less. -/
theorem Gap.mono {c1 pre1 post1 c2 pre2 post2 pre1' pre2' : UInt32} (h : Gap c1 pre1 post1 c2 pre2 post2)
    (h1 : pre1'.toNat ≤ pre1.toNat) (h2 : pre2'.toNat ≤ pre2.toNat) : Gap c1 pre1' post1 c2 pre2' post2 := by
  obtain ⟨ha,hb⟩ := h
  constructor <;> omega

/-- The time that a node reserves: from the delay in front of its timestamp to
the margin behind its transmission. -/
def reserved (preDelay : UInt32) (node : JitNode) : Set UInt32 :=
  interval (node.pkt.countUs-preDelay) (preDelay.toNat+node.postDelay.toNat+1000)

/-- Times with a gap are disjoint on the circle of the clock. -/
theorem Gap.disjoint {pre1 pre2 : UInt32} {a b : JitNode}
    (h : Gap a.pkt.countUs pre1 a.postDelay b.pkt.countUs pre2 b.postDelay) :
    Disjoint (reserved pre1 a) (reserved pre2 b) := by
  obtain ⟨hab,hba⟩ := h
  have hne : a.pkt.countUs≠b.pkt.countUs := by
    intro he
    rw [he,ahead_self] at hab
    omega
  have hsum := ahead_add_swap hne
  have hpre1 := pre1.toNat_lt
  have hpre2 := pre2.toNat_lt
  have hca := a.pkt.countUs.toNat_lt
  have hcb := b.pkt.countUs.toNat_lt
  apply interval_disjoint
  · have hs : ahead (a.pkt.countUs-pre1) (b.pkt.countUs-pre2)=ahead a.pkt.countUs b.pkt.countUs+pre2.toNat-pre1.toNat := by
      simp only [ahead_eq,UInt32.toNat_sub] at *
      omega
    omega
  · have hs : ahead (b.pkt.countUs-pre2) (a.pkt.countUs-pre1)=ahead b.pkt.countUs a.pkt.countUs+pre1.toNat-pre2.toNat := by
      simp only [ahead_eq,UInt32.toNat_sub] at *
      omega
    omega

/-- Two nodes leave each other the time they ask for: a downlink of class A or C
asks a beacon for no guard. -/
def Separate (a b : JitNode) : Prop :=
  Gap a.pkt.countUs (targetPreDelay b.pktType a) a.postDelay b.pkt.countUs (targetPreDelay a.pktType b) b.postDelay

/-- Either node may be named first. -/
theorem Separate.symm {a b : JitNode} (h : Separate a b) : Separate b a := ⟨h.2,h.1⟩

/-- A node as `jit_enqueue` builds it. -/
structure Built (node : JitNode) : Prop where
  preDelay : node.preDelay=packetPreDelay node.pktType
  postDelay : node.postDelay.toNat ≤ 4000000000
  beacon : node.pktType=.beacon → node.postDelay=beaconReserved

/-- Delays in front of packets. -/
theorem packetPreDelay_toNat_le (pktType : JitPktType) :
    1500 ≤ (packetPreDelay pktType).toNat ∧ (packetPreDelay pktType).toNat ≤ 3041500 := by
  cases pktType <;> decide

/-- The time in front of a node is at most its own delay. -/
theorem targetPreDelay_le {node : JitNode} (h : Built node) (pktType : JitPktType) :
    (targetPreDelay pktType node).toNat ≤ node.preDelay.toNat := by
  unfold targetPreDelay
  split_ifs
  · rw [h.preDelay]
    exact (packetPreDelay_toNat_le _).1
  · exact le_rfl

/-- The delays of a built node are bounded. -/
theorem Built.bounded {node : JitNode} (h : Built node) : DelaysBounded node.preDelay node.postDelay :=
  ⟨by rw [h.preDelay]; exact (packetPreDelay_toNat_le _).2,h.postDelay⟩

/-- The nodes of `jit_enqueue` are built when packets stay less than 4000
seconds on air. -/
theorem built_enqueuedNode {timeOnAir : LgwPktTx → UInt32} (hair : ∀ p,(timeOnAir p).toNat ≤ 4000000)
    (queue : JitQueue) (timeUs : UInt32) (packet : LgwPktTx) (pktType : JitPktType) :
    Built (enqueuedNode timeOnAir queue timeUs packet pktType) := by
  refine ⟨rfl,?_,?_⟩
  swap
  · rintro (rfl : pktType=.beacon)
    rfl
  change (packetPostDelay timeOnAir packet pktType).toNat ≤ 4000000000
  have ha := hair packet
  have hm : (timeOnAir packet*1000).toNat ≤ 4000000000 := by
    have hw : (timeOnAir packet*1000).toNat ≤ (timeOnAir packet).toNat*1000 := by
      rw [UInt32.toNat_mul]
      exact Nat.mod_le _ _
    omega
  cases pktType with
  | beacon =>
    have hr : beaconReserved.toNat ≤ 4000000000 := by decide
    exact hr
  | downlinkClassA => exact hm
  | downlinkClassB => exact hm
  | downlinkClassC => exact hm

/-- Criterion 3 keeps a new node apart from every queued one. -/
theorem separate_of_criteria {queue : JitQueue} {timeUs : UInt32} {node queued : JitNode} (hn : Built node)
    (hq : Built queued) (hmem : queued∈queue.live)
    (hc : enqueueCriteria queue timeUs node.pkt.countUs node.preDelay node.postDelay node.pktType=none) :
    Separate queued node := by
  have htest : collisionWith node.pktType node.pkt.countUs node.preDelay node.postDelay queued=none := by
    unfold enqueueCriteria at hc
    split_ifs at hc
    exact List.findSome?_eq_none_iff.mp hc queued hmem
  have hfalse : jitCollisionTest node.pkt.countUs node.preDelay node.postDelay queued.pkt.countUs
      (targetPreDelay node.pktType queued) queued.postDelay=false := by
    unfold collisionWith at htest
    split_ifs at htest with ht
    exact eq_false_of_ne_true ht
  have hb : DelaysBounded (targetPreDelay node.pktType queued) queued.postDelay :=
    ⟨(targetPreDelay_le hq _).trans hq.bounded.1,hq.postDelay⟩
  have hgap := (jitCollisionTest_false_iff hn.bounded hb).mp hfalse
  have hm : Separate node queued := hgap.mono (targetPreDelay_le hn queued.pktType) le_rfl
  exact hm.symm

/-- The array is a list of built nodes that leave each other their time. -/
structure Spaced (queue : JitQueue) : Prop where
  represents : Represents queue queue.live
  built : ∀ node∈queue.live,Built node
  separate : queue.live.Pairwise Separate

/-- A queue from a list of separate nodes in another order. -/
theorem spaced_of_perm {queue : JitQueue} {nodes sorted : List JitNode} (h : Represents queue sorted)
    (hp : sorted.Perm nodes) (hb : ∀ node∈nodes,Built node) (hs : nodes.Pairwise Separate) : Spaced queue := by
  have hl := h.live
  refine ⟨by rw [hl]; exact h,?_,?_⟩
  · rw [hl]
    exact fun node hm => hb node (hp.subset hm)
  · rw [hl]
    exact (hp.pairwise_iff fun {_ _} => Separate.symm).mpr hs

/-- A call keeps the nodes apart. -/
theorem step_spaced (sort : Qsort) {timeOnAir : LgwPktTx → UInt32} (hair : ∀ p,(timeOnAir p).toNat ≤ 4000000)
    {s : System} (h : Spaced s.queue) {action : Action} (hnamed : Named s action) :
    Spaced (step sort timeOnAir s action).queue := by
  rcases step_cases sort timeOnAir h.represents hnamed with
    ⟨timeUs,packet,pktType,node,-,hnode,hc,hnext,-,-,-⟩ | ⟨rest,taken,dropped,hnext,hsplit,-,-,-⟩
  · have hbuilt : Built node := by
      rw [hnode]
      exact built_enqueuedNode hair _ _ _ _
    have htype : node.pktType=pktType := by rw [hnode]; rfl
    rw [←htype] at hc
    apply spaced_of_perm hnext (sort.perm compare _)
    · intro queued hm
      rcases List.mem_append.mp hm with hm | hm
      · exact h.built queued hm
      · rw [List.mem_singleton.mp hm]
        exact hbuilt
    · rw [List.pairwise_append]
      refine ⟨h.separate,List.pairwise_singleton _ _,fun queued hm other ho => ?_⟩
      rw [List.mem_singleton.mp ho]
      exact separate_of_criteria hbuilt (h.built queued hm) hm hc
  · have hsub : rest.Sublist (rest++(taken++dropped)) := List.sublist_append_left _ _
    have hwhole : (rest++(taken++dropped)).Pairwise Separate := by
      rw [←List.append_assoc]
      exact (hsplit.pairwise_iff fun {_ _} => Separate.symm).mpr h.separate
    apply spaced_of_perm hnext (List.Perm.refl _)
    · intro node hm
      apply h.built node
      apply hsplit.subset
      rw [List.append_assoc]
      exact hsub.subset hm
    · exact hwhole.sublist hsub

/-- In every order of calls the times that any two queued nodes reserve are
disjoint on the circle of the concentrator clock; in front of a beacon the guard
is left out against downlinks of the classes A and C. -/
theorem run_disjoint (sort : Qsort) (timeOnAir : LgwPktTx → UInt32) (hair : ∀ p,(timeOnAir p).toNat ≤ 4000000)
    (actions : List Action) (hnamed : Along (step sort timeOnAir) Named System.init actions) :
    (run (step sort timeOnAir) System.init actions).queue.live.Pairwise fun a b =>
      Disjoint (reserved (targetPreDelay b.pktType a) a) (reserved (targetPreDelay a.pktType b) b) := by
  have hinit : Spaced System.init.queue :=
    spaced_of_perm represents_init (List.Perm.refl _) (by simp) List.Pairwise.nil
  have hspaced : Spaced (run (step sort timeOnAir) System.init actions).queue :=
    @Along.run_invariant _ _ _ _ (fun s => Spaced s.queue) _ _ hnamed hinit fun _ _ h => step_spaced sort hair h
  exact hspaced.separate.imp fun h => h.disjoint

/-- Two downlinks one second apart. -/
theorem run_disjoint_pair :
    (run (step Qsort.merge fun _ => 50) System.init [.enqueue 0 (packetAt 1000000) .downlinkClassA,
      .enqueue 0 (packetAt 2000000) .downlinkClassA]).queue.live.Pairwise fun a b =>
        Disjoint (reserved (targetPreDelay b.pktType a) a) (reserved (targetPreDelay a.pktType b) b) := by
  apply run_disjoint
  · intro p
    decide
  · exact (along_cons_iff _ _ _ _ _).mpr ⟨trivial,(along_cons_iff _ _ _ _ _).mpr ⟨trivial,along_nil _ _ _⟩⟩

end LorawanServer.JustInTime
