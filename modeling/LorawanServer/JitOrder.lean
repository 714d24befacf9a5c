import LorawanServer.JitAirtime

/-!
# The order of queued packets and what jit_peek finds

While the queued timestamps share a half circle of the clock the sorted array is
in the order of time, so that a removal closes a gap and an insertion opens one.
The loop of `jit_peek`, which starts again behind the first node after each
drop, is then a filter of the array.
-/

namespace LorawanServer.JustInTime

open ClockCircle SwapRemoval

/-- The first node is due before the second one, by less than half a circle. -/
def Before (a b : JitNode) : Prop :=
  0<ahead b.pkt.countUs a.pkt.countUs ∧ ahead b.pkt.countUs a.pkt.countUs<2147483648

/-- Of two nodes only one is due first. -/
theorem Before.asymm {a b : JitNode} (h : Before a b) : ¬Before b a := by
  rintro ⟨hba,hbl⟩
  obtain ⟨hab,hal⟩ := h
  have hne : b.pkt.countUs≠a.pkt.countUs := by
    intro he
    rw [he,ahead_self] at hab
    exact hab.false
  have hs := ahead_add_swap hne
  omega

/-- Within half a circle of a base the nearer node is due first. -/
theorem before_iff_of_window {a b : JitNode} {base : UInt32} (ha : ahead a.pkt.countUs base<2147483648)
    (hb : ahead b.pkt.countUs base<2147483648) :
    Before a b ↔ ahead a.pkt.countUs base<ahead b.pkt.countUs base := by
  constructor
  · intro h
    by_contra hc
    have hle := not_lt.mp hc
    rcases hle.lt_or_eq with hlt | he
    · have hd := ahead_of_le hlt.le
      apply h.asymm
      constructor <;> omega
    · have hpos := h.1
      rw [ahead_injective he,ahead_self] at hpos
      exact hpos.false
  · intro h
    have hd := ahead_of_le h.le
    constructor <;> omega

/-- All nodes lie within half a circle of a base. -/
def Window (base : UInt32) (nodes : List JitNode) : Prop := ∀ node∈nodes,ahead node.pkt.countUs base<2147483648

/-- Nodes with different timestamps. -/
def Distinct (nodes : List JitNode) : Prop := nodes.Pairwise fun a b => a.pkt.countUs≠b.pkt.countUs

/-- The array in the order of time. -/
def Timed (nodes : List JitNode) : Prop := nodes.Pairwise Before

/-- Ordered nodes have different timestamps. -/
theorem Timed.distinct {nodes : List JitNode} (h : Timed nodes) : Distinct nodes := by
  apply h.imp
  intro a b hb he
  have hpos := hb.1
  rw [he,ahead_self] at hpos
  exact hpos.false

/-- Ordered nodes lie within half a circle of the first one. -/
theorem Timed.window {nodes : List JitNode} (h : Timed nodes) : ∃ base,Window base nodes := by
  cases nodes with
  | nil => exact ⟨0,by intro node hm; cases hm⟩
  | cons first rest =>
    refine ⟨first.pkt.countUs,fun node hm => ?_⟩
    rcases List.mem_cons.mp hm with rfl | hm
    · rw [ahead_self]
      omega
    · exact ((List.pairwise_cons.mp h).1 node hm).2

/-- The same nodes in the order of time are the same list. -/
theorem Timed.eq_of_perm {nodes others : List JitNode} (h : Timed nodes) (ho : Timed others)
    (hp : nodes.Perm others) : nodes=others :=
  hp.eq_of_pairwise (fun _ _ _ _ hab hba => absurd hba hab.asymm) h ho

/-- `jit_sort_queue` brings nodes that share a half circle into the order of
time. -/
theorem timed_sort (sort : Qsort) {base : UInt32} {nodes : List JitNode} (hw : Window base nodes)
    (hd : Distinct nodes) : Timed (sort.run compare nodes) := by
  have hcmp : ∀ a∈nodes,∀ b∈nodes,compare a b ≤ 0 ↔ ahead a.pkt.countUs base ≤ ahead b.pkt.countUs base :=
    fun a ha b hb => signedDifference_nonpos_iff_of_window (hw a ha) (hw b hb)
  have hperm := sort.perm compare nodes
  have hsorted := sort.sorted compare nodes
    (fun a ha b hb => by
      rw [hcmp a ha b hb,hcmp b hb a ha]
      exact le_total _ _)
    (fun a ha b hb c hc hab hbc => by
      rw [hcmp a ha b hb] at hab
      rw [hcmp b hb c hc] at hbc
      rw [hcmp a ha c hc]
      exact hab.trans hbc)
  have hdist : Distinct (sort.run compare nodes) := (hperm.pairwise_iff fun {_ _} => Ne.symm).mpr hd
  refine (hsorted.and hdist).imp_of_mem ?_
  rintro a b ha hb ⟨hle,hne⟩
  have hma := hperm.subset ha
  have hmb := hperm.subset hb
  rw [hcmp a hma b hmb] at hle
  rw [before_iff_of_window (hw a hma) (hw b hmb)]
  exact lt_of_le_of_ne hle fun he => hne (ahead_injective he)

/-- A removal from ordered nodes closes the gap. -/
theorem Timed.sort_swapRemove (sort : Qsort) {nodes : List JitNode} (h : Timed nodes) {i : ℕ}
    (hi : i<nodes.length) : sort.run compare (swapRemove nodes i)=nodes.eraseIdx i := by
  obtain ⟨base,hw⟩ := h.window
  have hperm := swapRemove_perm nodes i hi
  have hsub : (nodes.eraseIdx i).Sublist nodes := List.eraseIdx_sublist nodes i
  have hrest : Timed (nodes.eraseIdx i) := h.sublist hsub
  have hdist : Distinct (swapRemove nodes i) := (hperm.pairwise_iff fun {_ _} => Ne.symm).mpr hrest.distinct
  have hwin : Window base (swapRemove nodes i) := fun node hm => hw node (hsub.subset (hperm.subset hm))
  exact (timed_sort sort hwin hdist).eq_of_perm hrest ((sort.perm compare _).trans hperm)

/-- An insertion into ordered nodes opens a gap behind the nodes that are due
before the new one. -/
theorem Timed.sort_insert (sort : Qsort) {nodes : List JitNode} (h : Timed nodes) {base : UInt32} {node : JitNode}
    (hw : Window base (nodes++[node])) (hd : Distinct (nodes++[node])) :
    ∃ front back,nodes=front++back ∧ sort.run compare (nodes++[node])=front++node::back ∧
      (∀ a∈front,Before a node) ∧ ∀ b∈back,Before node b := by
  have hperm := sort.perm compare (nodes++[node])
  have htimed := timed_sort sort hw hd
  have hmem : node∈sort.run compare (nodes++[node]) := hperm.mem_iff.mpr (by simp)
  obtain ⟨front,back,hs⟩ := List.append_of_mem hmem
  rw [hs] at htimed hperm
  have hrest : (front++back).Perm nodes := by
    have hm : (node::(front++back)).Perm (node::nodes) :=
      List.perm_middle.symm.trans (hperm.trans (List.perm_append_singleton node nodes))
    exact hm.cons_inv
  have hsub : (front++back).Sublist (front++node::back) := (List.sublist_cons_self node back).append_left front
  have heq : front++back=nodes := Timed.eq_of_perm (htimed.sublist hsub) h hrest
  obtain ⟨-,hback,hcross⟩ := List.pairwise_append.mp htimed
  exact ⟨front,back,heq.symm,hs,fun a ha => hcross a ha node List.mem_cons_self,(List.pairwise_cons.mp hback).1⟩

/-- What `jit_peek` leaves of ordered nodes: without the outdated ones, but when
the first node is outdated the second one stays whatever it is. -/
def peekNodes (timeUs : UInt32) : List JitNode → List JitNode
  | [] => []
  | node::rest =>
    let kept := if outdated timeUs node then rest else node::rest
    kept.take 1++(kept.drop 1).filter fun n => !outdated timeUs n

/-- The position that the loop of `jit_peek` ends with: the first node, or the
second one when the first one had to be dropped. -/
def peekCandidate (timeUs : UInt32) : List JitNode → Option ℕ
  | [] => none
  | node::rest =>
    if outdated timeUs node then
      if (rest.drop 1).any fun n => !outdated timeUs n then some 1 else none
    else some 0

/-- Nodes that are not outdated are near. -/
theorem outdated_false_iff (timeUs : UInt32) (node : JitNode) :
    outdated timeUs node=false ↔ ahead node.pkt.countUs timeUs<512000000 := by
  have hm : txMaxAdvanceDelay.toNat=512000000 := rfl
  rw [outdated,decide_eq_false_iff_not,ge_iff_le,UInt32.le_iff_toNat_le,hm,not_le]
  rfl

/-- Of two near nodes the one due first has the higher priority. -/
theorem ahead_lt_of_before {a b : JitNode} {timeUs : UInt32} (h : Before a b) (ha : outdated timeUs a=false)
    (hb : outdated timeUs b=false) : ahead a.pkt.countUs timeUs<ahead b.pkt.countUs timeUs := by
  rw [outdated_false_iff] at ha hb
  exact (before_iff_of_window (by omega) (by omega)).mp h

end LorawanServer.JustInTime
