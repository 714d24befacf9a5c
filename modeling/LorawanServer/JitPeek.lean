import LorawanServer.JitOrder

/-!
# The result of jit_peek

The loop of `jit_peek` over ordered nodes ends with the filter of the array and
with the position that they determine. From it follow what the index names, that
a missed packet survives at most one further call, and which packet is passed
over.
-/

namespace LorawanServer.JustInTime

open ClockCircle SwapRemoval

/-- Dropping an outdated node does not change what is near. -/
theorem filter_eraseIdx {timeUs : UInt32} {nodes : List JitNode} {j : ℕ} (hj : j<nodes.length)
    (ho : outdated timeUs nodes[j]=true) :
    (nodes.eraseIdx j).filter (fun n => !outdated timeUs n)=nodes.filter fun n => !outdated timeUs n := by
  have hsplit : nodes=nodes.take j++nodes[j]::nodes.drop (j+1) := by
    rw [←List.drop_eq_getElem_cons hj,List.take_append_drop]
  rw [List.eraseIdx_eq_take_drop_succ]
  conv_rhs => rw [hsplit]
  rw [List.filter_append,List.filter_append,List.filter_cons_of_neg (by rw [ho]; decide)]

/-- State of the loop of `jit_peek` behind the first node: the nodes passed are
near, and the position is the one the loop began with or that of a near second
node. -/
structure PeekInvariant (timeUs : UInt32) (first : JitNode) (kept : List JitNode) (start : Option ℕ)
    (s : PeekState) (rest : List JitNode) : Prop where
  represents : Represents s.queue (first::rest)
  timed : Timed (first::rest)
  filter : rest.filter (fun n => !outdated timeUs n)=kept
  pos : 1 ≤ s.i
  passed : ∀ n∈rest.take (s.i-1),outdated timeUs n=false
  idx : s.idx=start ∧ (start=none → s.i=1) ∨
    start=none ∧ s.idx=some 1 ∧ ∃ second others,rest=second::others ∧ outdated timeUs second=false

/-- A later near node does not have the higher priority. -/
theorem higherPriority_false {queue : JitQueue} {nodes : List JitNode} {timeUs : UInt32} (h : Represents queue nodes)
    (ht : Timed nodes) {i k : ℕ} (hi : i<nodes.length) (hk : k ≤ i)
    (hin : outdated timeUs nodes[i]=false) (hkn : outdated timeUs (getElem nodes k (by omega))=false) :
    higherPriority queue timeUs i (some k)=false := by
  have hkl : k<nodes.length := by omega
  change decide ((queue.node i).pkt.countUs-timeUs<(queue.node k).pkt.countUs-timeUs)=false
  rw [h.node hi,h.node hkl,decide_eq_false_iff_not,UInt32.lt_iff_toNat_lt,not_lt]
  rcases hk.lt_or_eq with hlt | he
  · exact (ahead_lt_of_before (List.pairwise_iff_getElem.mp ht k i hkl hi hlt) hkn hin).le
  · subst he
    exact le_rfl

/-- A round of the loop keeps the invariant. -/
theorem PeekInvariant.round (sort : Qsort) {timeUs : UInt32} {first : JitNode} {kept rest : List JitNode}
    {start : Option ℕ} {s : PeekState} (hstart : start=none ∨ start=some 0 ∧ outdated timeUs first=false)
    (h : PeekInvariant timeUs first kept start s rest) (hi : s.i<s.queue.numPkt) :
    ∃ next,PeekInvariant timeUs first kept start (peekRound sort timeUs s) next := by
  obtain ⟨j,hj⟩ := Nat.exists_eq_add_of_le' h.pos
  have hlen : s.i<(first::rest).length := by rwa [←h.represents.numPkt]
  have hjr : j<rest.length := by
    rw [List.length_cons] at hlen
    omega
  have hnode : (first::rest)[s.i]=rest[j] := by simp [hj]
  have hpassed := h.passed
  rw [hj,Nat.add_sub_cancel] at hpassed
  rcases peekRound_cases sort timeUs h.represents hlen with ⟨hout,hq,hi',hidx,-⟩ | ⟨hout,hq,hi',hidx,-⟩
  · -- the node is dropped and the loop starts again behind the first node
    rw [hnode] at hout
    rw [h.timed.sort_swapRemove sort hlen,hj,List.eraseIdx_cons_succ] at hq
    have hsub : (first::rest.eraseIdx j).Sublist (first::rest) := (List.eraseIdx_sublist rest j).cons_cons first
    refine ⟨rest.eraseIdx j,hq,h.timed.sublist hsub,(filter_eraseIdx hjr hout).trans h.filter,hi'.ge,?_,?_⟩
    · rw [hi',Nat.sub_self,List.take_zero]
      intro n hn
      cases hn
    · rw [hidx,hi']
      rcases h.idx with ⟨he,-⟩ | ⟨he,hone,second,others,hr,hs⟩
      · exact .inl ⟨he,fun _ => rfl⟩
      · subst hr
        cases j with
        | zero => exact absurd (hout.symm.trans hs) (by decide)
        | succ k => exact .inr ⟨he,hone,second,others.eraseIdx k,rfl,hs⟩
  · -- the node stays and the loop goes on
    have hnear := hout
    rw [hnode] at hout
    have hprior : ∀ k (hk : k ≤ s.i),outdated timeUs (getElem (first::rest) k (by omega))=false →
        higherPriority s.queue timeUs s.i (some k)=false :=
      fun k hk ho => higherPriority_false h.represents h.timed hlen hk hnear ho
    refine ⟨rest,by rw [hq]; exact h.represents,h.timed,h.filter,by omega,?_,?_⟩
    · rw [hi',hj,Nat.add_sub_cancel,List.take_add_one,List.getElem?_eq_getElem hjr]
      intro n hn
      rcases List.mem_append.mp hn with hn | hn
      · exact hpassed n hn
      · rw [List.mem_singleton.mp hn]
        exact hout
    · rw [hidx,hi']
      rcases h.idx with ⟨he,hone⟩ | ⟨he,hidx1,second,others,hr,hs⟩
      · rcases hstart with hnone | ⟨hsome,hfirst⟩
        · right
          have hi1 := hone hnone
          have hj0 : j=0 := by omega
          subst hj0
          rw [he,hnone,hi1]
          refine ⟨rfl,rfl,?_⟩
          cases rest with
          | nil => exact absurd hjr (Nat.not_lt_zero 0)
          | cons second others => exact ⟨second,others,rfl,hout⟩
        · left
          have hp := hprior 0 (Nat.zero_le _) hfirst
          rw [he,hsome,hp]
          exact ⟨rfl,fun hc => absurd hc (by decide)⟩
      · right
        subst hr
        have hp := hprior 1 h.pos hs
        rw [hidx1,hp]
        exact ⟨he,rfl,second,others,rfl,hs⟩

/-- The loop behind the first node ends with the near nodes and their
position. -/
theorem peekLoop_behind_first (sort : Qsort) {timeUs : UInt32} {first : JitNode} {rest : List JitNode}
    {start : Option ℕ} {s : PeekState} (hstart : start=none ∨ start=some 0 ∧ outdated timeUs first=false)
    (hr : Represents s.queue (first::rest)) (ht : Timed (first::rest)) (hi : s.i=1) (hidx : s.idx=start) :
    Represents (peekLoop sort timeUs s).queue (first::rest.filter fun n => !outdated timeUs n) ∧
      (peekLoop sort timeUs s).idx=
        if start=none ∧ rest.any (fun n => !outdated timeUs n)=true then some 1 else start := by
  have hinit : ∃ tail,PeekInvariant timeUs first (rest.filter fun n => !outdated timeUs n) start s tail := by
    refine ⟨rest,hr,ht,rfl,hi.ge,?_,.inl ⟨hidx,fun _ => hi⟩⟩
    rw [hi,Nat.sub_self,List.take_zero]
    intro n hn
    cases hn
  obtain ⟨⟨tail,hinv⟩,hend⟩ := peekLoop_invariant sort timeUs
    (fun s => ∃ tail,PeekInvariant timeUs first (rest.filter fun n => !outdated timeUs n) start s tail)
    (fun s ⟨_,h⟩ hi => h.round sort hstart hi) s hinit
  have hall : tail.filter (fun n => !outdated timeUs n)=tail := by
    rw [List.filter_eq_self]
    intro n hn
    have hp := hinv.passed n
    rw [hinv.represents.numPkt,List.length_cons] at hend
    rw [List.take_of_length_le (by omega)] at hp
    rw [hp hn]
    rfl
  have htail : tail=rest.filter fun n => !outdated timeUs n := hall.symm.trans hinv.filter
  have hany : rest.any (fun n => !outdated timeUs n)=true ↔ tail≠[] := by
    rw [htail,Ne,List.filter_eq_nil_iff,List.any_eq_true]
    push Not
    rfl
  refine ⟨by rw [←htail]; exact hinv.represents,?_⟩
  rcases hinv.idx with ⟨he,hone⟩ | ⟨he,h1,second,others,hcons,-⟩
  · rw [he,if_neg]
    rintro ⟨hnone,ha⟩
    have hi1 := hone hnone
    rw [hinv.represents.numPkt,hi1,List.length_cons] at hend
    exact hany.mp ha (List.eq_nil_of_length_eq_zero (by omega))
  · rw [h1,if_pos ⟨he,hany.mpr (by rw [hcons]; exact List.cons_ne_nil _ _)⟩]

/-- The loop of `jit_peek` over ordered nodes. -/
theorem peekLoop_timed (sort : Qsort) (timeUs : UInt32) {queue : JitQueue} {nodes : List JitNode}
    (h : Represents queue nodes) (ht : Timed nodes) (hne : nodes≠[]) :
    Represents (peekLoop sort timeUs ⟨queue,0,none,[]⟩).queue (peekNodes timeUs nodes) ∧
      (peekLoop sort timeUs ⟨queue,0,none,[]⟩).idx=peekCandidate timeUs nodes := by
  cases nodes with
  | nil => exact absurd rfl hne
  | cons node rest =>
    have hlen : (⟨queue,0,none,[]⟩ : PeekState).i<(node::rest).length := Nat.succ_pos _
    have hpos : (⟨queue,0,none,[]⟩ : PeekState).i<queue.numPkt := by
      rw [h.numPkt]
      exact hlen
    rw [peekLoop,if_pos hpos]
    rcases peekRound_cases sort timeUs h hlen with ⟨hout,hq,hi,hidx,-⟩ | ⟨hout,hq,hi,hidx,-⟩
    · -- the first node is dropped, and the loop goes on behind the second one
      have hout : outdated timeUs node=true := hout
      rw [ht.sort_swapRemove sort hlen] at hq
      have hq : Represents (peekRound sort timeUs ⟨queue,0,none,[]⟩).queue rest := hq
      rw [peekNodes,peekCandidate,if_pos hout,if_pos hout]
      cases rest with
      | nil =>
        rw [peekLoop,if_neg (by rw [hi,hq.numPkt]; exact Nat.not_lt_zero 1)]
        exact ⟨hq,hidx⟩
      | cons second others =>
        obtain ⟨hrep,hend⟩ := peekLoop_behind_first sort (.inl rfl) hq ht.of_cons hi hidx
        refine ⟨hrep,?_⟩
        rw [hend]
        simp
    · -- the first node stays and is the candidate
      have hout : outdated timeUs node=false := hout
      rw [peekNodes,peekCandidate,if_neg (by rw [hout]; decide),if_neg (by rw [hout]; decide)]
      have hstart : (some 0 : Option ℕ)=none ∨ (some 0 : Option ℕ)=some 0 ∧ outdated timeUs node=false :=
        .inr ⟨rfl,hout⟩
      obtain ⟨hrep,hend⟩ := peekLoop_behind_first sort hstart (by rw [hq]; exact h) ht hi hidx
      refine ⟨hrep,?_⟩
      rw [hend,if_neg (by simp)]

/-- The index that `jit_peek` returns for ordered nodes. -/
def peekIndex (timeUs : UInt32) (nodes : List JitNode) : Option ℕ :=
  (peekCandidate timeUs nodes).filter fun i =>
    ((peekNodes timeUs nodes).getD i JitNode.zero).pkt.countUs-timeUs<txJitDelay

/-- `jit_peek` on a queue in the order of time leaves the nodes of the filter,
and its index is the one that the filter determines. -/
theorem jitPeek_timed (sort : Qsort) (timeUs : UInt32) {queue : JitQueue} {nodes : List JitNode}
    (h : Represents queue nodes) (ht : Timed nodes) :
    Represents (jitPeek sort queue timeUs).queue (peekNodes timeUs nodes) ∧
      (jitPeek sort queue timeUs).pktIdx=peekIndex timeUs nodes := by
  unfold jitPeek
  split_ifs with he
  · rw [h.isEmpty_iff] at he
    subst he
    exact ⟨h,rfl⟩
  · obtain ⟨hrep,hidx⟩ := peekLoop_timed sort timeUs h ht fun hn => he (h.isEmpty_iff.mpr hn)
    refine ⟨hrep,?_⟩
    dsimp only
    rw [hidx,peekIndex]
    congr 1
    funext i
    by_cases hi : i<(peekNodes timeUs nodes).length
    · rw [hrep.node hi,List.getD_eq_getElem _ _ hi]
    · rw [hrep.node_of_le (not_lt.mp hi),List.getD_eq_default _ _ (not_lt.mp hi)]

end LorawanServer.JustInTime
