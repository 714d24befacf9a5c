import LorawanServer.JitRunner

/-!
# Missed packets

A packet whose time has passed cannot be sent any more. A call of `jit_peek`
drops all of them but one, which then stands in front of the array; whatever is
enqueued meanwhile is sorted behind it, and the next call drops it.
-/

namespace LorawanServer.JustInTime

open ClockCircle SwapRemoval StepRun

/-- The time of the packet has passed. -/
def Missed (timeUs : UInt32) (node : JitNode) : Prop := 2147483648 ≤ ahead node.pkt.countUs timeUs

/-- A call at most 2^30 µs after a time. -/
def After (timeUs : UInt32) : Action → Prop
  | .enqueue t _ _ => ahead t timeUs ≤ 1073741824
  | .peek t => ahead t timeUs ≤ 1073741824
  | .dequeue _ => True

/-- What was missed is outdated, now and later. -/
theorem Missed.outdated {timeUs later : UInt32} {node : JitNode} (h : Missed timeUs node)
    (hl : ahead later timeUs ≤ 1073741824) : outdated later node=true := by
  unfold Missed at h
  have ht := ahead_trans node.pkt.countUs later timeUs
  have hb := ahead_lt node.pkt.countUs later
  by_contra hc
  have hf := (outdated_false_iff later node).mp (Bool.eq_false_of_not_eq_true hc)
  omega

/-- A missed packet is not in the list, or in front of it. -/
def InFront (node : JitNode) (nodes : List JitNode) : Prop := node∈nodes → nodes[0]?=some node

/-- An outdated node that `jit_peek` leaves stands in front. -/
theorem inFront_peekNodes {timeUs : UInt32} {nodes : List JitNode} {node : JitNode} (ho : outdated timeUs node=true) :
    InFront node (peekNodes timeUs nodes) := by
  intro hm
  cases nodes with
  | nil => cases hm
  | cons first rest =>
    have hkept : ∀ kept : List JitNode,node∈kept.take 1++(kept.drop 1).filter (fun n => !JustInTime.outdated timeUs n) →
        (kept.take 1++(kept.drop 1).filter fun n => !JustInTime.outdated timeUs n)[0]?=some node := by
      intro kept hk
      rcases List.mem_append.mp hk with hk | hk
      · cases kept with
        | nil => cases hk
        | cons head tail =>
          obtain rfl := List.mem_singleton.mp hk
          rfl
      · have hf := (List.mem_filter.mp hk).2
        rw [ho] at hf
        exact absurd hf (by decide)
    rw [peekNodes] at hm ⊢
    exact hkept _ hm

/-- An outdated node in front of ordered nodes is dropped. -/
theorem not_mem_peekNodes {timeUs : UInt32} {nodes : List JitNode} {node : JitNode} (ht : Timed nodes)
    (hf : InFront node nodes) (ho : outdated timeUs node=true) : node∉peekNodes timeUs nodes := by
  intro hm
  have hin := (peekNodes_sublist timeUs nodes).subset hm
  have hfront := hf hin
  cases nodes with
  | nil => cases hin
  | cons first rest =>
    obtain rfl : first=node := Option.some.inj hfront
    rw [peekNodes,if_pos ho] at hm
    have hrest : first∈rest := by
      rcases List.mem_append.mp hm with hk | hk
      · exact List.mem_of_mem_take hk
      · exact List.mem_of_mem_drop (List.mem_filter.mp hk).1
    have hb := (List.pairwise_cons.mp ht).1 first hrest
    exact hb.asymm hb

/-- A call after the packet was missed keeps it in front, or gone. -/
theorem step_inFront (sort : Qsort) {timeOnAir : LgwPktTx → UInt32} (hair : ∀ p,(timeOnAir p).toNat ≤ 4000000)
    {s : System} (h : Scheduled s.queue) {timeUs : UInt32} {node : JitNode} (hmiss : Missed timeUs node)
    (hf : InFront node s.queue.live) {action : Action} (hnamed : Named s action)
    (htimely : Timely timeOnAir s action) (hafter : After timeUs action) :
    InFront node (step sort timeOnAir s action).queue.live := by
  cases action with
  | enqueue t packet pktType =>
    rcases jitEnqueue_cases sort timeOnAir t packet pktType h.spaced.represents with
      ⟨error,-,he⟩ | ⟨next,new,he,hnode,hc,hnext⟩
    · simpa [step,he] using hf
    · obtain ⟨hnear,hnew⟩ := htimely
      rw [←hnode] at hnew
      obtain ⟨front,back,hsplit,hsort,-,hb⟩ := h.enqueue_split sort hair hnode hc hnear hnew
      have hq : (step sort timeOnAir s (.enqueue t packet pktType)).queue=next := by simp [step,he]
      rw [hq,hnext.live,hsort]
      intro hm
      have hafter : ahead t timeUs ≤ 1073741824 := hafter
      have hne : node≠new := by
        rintro rfl
        have ht := ahead_trans node.pkt.countUs t timeUs
        unfold Missed at hmiss
        omega
      have hin : node∈s.queue.live := by
        rw [hsplit]
        rcases List.mem_append.mp hm with hm | hm
        · exact List.mem_append_left _ hm
        · exact List.mem_append_right _ ((List.mem_cons.mp hm).resolve_left hne)
      have hpos : ahead node.pkt.countUs (windowBase t) ≤ 1073784324 := by
        have hn := hnear node hin
        have ht := ahead_trans node.pkt.countUs t timeUs
        have hl := ahead_lt node.pkt.countUs t
        have hw := ahead_windowBase node.pkt.countUs t
        unfold Near at hn
        unfold Missed at hmiss
        omega
      exact getElem?_insert hsplit hb (hf hin) (before_accepted hnew (hnear node hin) hpos (ahead_of_criteria hc))
  | peek t =>
    have hp := (jitPeek_timed sort t h.spaced.represents h.timed).1
    change InFront node (jitPeek sort s.queue t).queue.live
    rw [hp.live]
    exact inFront_peekNodes (hmiss.outdated hafter)
  | dequeue index =>
    rcases jitDequeue_cases sort h.spaced.represents index hnamed with ⟨error,-,he⟩ | ⟨i,hi,-,he⟩
    · simpa [step,he] using hf
    · have hr := represents_remove sort h.spaced.represents hi
      rw [h.timed.sort_swapRemove sort hi] at hr
      have hq : (step sort timeOnAir s (.dequeue index)).queue=removeNode sort s.queue i := by simp [step,he]
      rw [hq,hr.live]
      intro hm
      have hfront := hf ((List.eraseIdx_sublist _ _).subset hm)
      have ht := h.timed
      cases hl : s.queue.live with
      | nil =>
        rw [hl] at hfront
        cases hfront
      | cons first rest =>
        rw [hl] at hfront hm ht
        obtain rfl : first=node := Option.some.inj hfront
        cases i with
        | zero =>
          have hb := (List.pairwise_cons.mp ht).1 first hm
          exact absurd hb hb.asymm
        | succ j => rfl

/-- The packet stays in front, or gone, until the next call of `jit_peek`. -/
theorem between_inFront (sort : Qsort) {timeOnAir : LgwPktTx → UInt32} (hair : ∀ p,(timeOnAir p).toNat ≤ 4000000)
    {timeUs : UInt32} {node : JitNode} (hmiss : Missed timeUs node) {between : List Action}
    (hafter : ∀ action∈between,After timeUs action) {s : System} (hs : Scheduled s.queue)
    (hf : InFront node s.queue.live)
    (h : Along (step sort timeOnAir) (fun s a => Named s a ∧ Timely timeOnAir s a) s between) :
    Scheduled (run (step sort timeOnAir) s between).queue ∧
      InFront node (run (step sort timeOnAir) s between).queue.live := by
  induction between generalizing s with
  | nil => exact ⟨hs,hf⟩
  | cons action between ih =>
    obtain ⟨⟨hn,ht⟩,hrest⟩ := (along_cons_iff _ _ _ _ _).mp h
    rw [run_cons]
    have ha := hafter action List.mem_cons_self
    apply ih (fun a hm => hafter a (List.mem_cons_of_mem _ hm))
    · exact step_scheduled sort hair hs hn ht
    · exact step_inFront sort hair hs hmiss hf hn ht ha
    · exact hrest

end LorawanServer.JustInTime
