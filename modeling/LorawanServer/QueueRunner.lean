import LorawanServer.QueueTimeout

/-!
# The loop of the sender

`PacketQueue::runner` waits, looks whether the map of packets is empty, takes
all items that are due and then asks for the time of the next one. The question
reads the front of the addresses, which the drain may have emptied. Pushes of
other threads may come between any two of its calls. The front exists at every
question exactly when a push follows every call that takes the last address.
-/

namespace LorawanServer.QueueRunner

open CppRuntime Records PacketHandler PacketQueue QueueService QueueTimeout StepRun

/-- Where the loop stands. -/
inductive Stage where
  /-- Before `select`, with its timeout. -/
  | waiting (timeoutMicroSeconds : ℤ)
  /-- In the drain, with the time it began. -/
  | draining (t : Timeval)
  /-- Behind the drain, before `getNextTimeout`. -/
  | asking
  /-- The front of an empty container was read. -/
  | failed
  deriving DecidableEq

/-- The queue and its sender. -/
structure Runner where
  /-- The queue. -/
  queue : Queue
  /-- Where the loop stands. -/
  stage : Stage

/-- The loop begins with the default timeout. -/
def start : Runner := ⟨.empty,.waiting (defTimeoutMs*1000)⟩

/-- A call of another thread, or the next call of the loop with what the clock
says. -/
inductive RunnerEvent where
  /-- `push`. -/
  | push (item : SemtechUDPPacketItem)
  /-- The loop goes on. -/
  | advance (now : Timeval)

/-- The next call of the loop. What is sent for an item leaves the queue alone. -/
def advance (r : Runner) (now : Timeval) : Runner :=
  match r.stage with
  | .waiting _ => if r.queue.packets.isEmpty then r else {r with stage := .draining now}
  | .draining t =>
    match getFirstExpired r.queue t with
    | (some _,queue) => {r with queue := queue}
    | (none,queue) => ⟨queue,.asking⟩
  | .asking =>
    match getNextTimeout r.queue now with
    | .ok timeoutMicroSeconds => {r with stage := .waiting timeoutMicroSeconds}
    | .error _ => {r with stage := .failed}
  | .failed => r

/-- The sender after an event. -/
def step (r : Runner) : RunnerEvent → Runner
  | .push item => {r with queue := push r.queue item}
  | .advance now => advance r now

/-- At a call of `getNextTimeout` there is a front. -/
def FrontExists (r : Runner) : RunnerEvent → Prop
  | .push _ => True
  | .advance _ => r.stage=.asking → r.queue.addrs≠[]

/-- The next call takes an item and with it the last address. -/
def TakesLast (r : Runner) : Prop :=
  ∃ t,r.stage=.draining t ∧ (getFirstExpired r.queue t).1≠none ∧ r.queue.addrs.length=1

/-- Between a call that takes the last address and the next call of
`getNextTimeout` something is pushed. -/
def Refilled (events : List RunnerEvent) : Prop :=
  ∀ before now between later after,
    events=before++.advance now::(between++.advance later::after) → TakesLast (run step start before) →
      (run step start (before++.advance now::between)).stage=.asking → ∃ item,.push item∈between

/-- A queue without addresses has no packets. -/
theorem isEmpty_of_addrs {queue : Queue} (h : Sound queue) (ha : queue.addrs=[]) : queue.packets.isEmpty=true := by
  rw [Std.TreeMap.isEmpty_iff_forall_not_mem]
  intro a hm
  have hcount := h.counted a
  rw [ha,List.count_nil,Nat.le_zero,List.length_eq_zero_iff,itemsAt,Std.TreeMap.getElem?_eq_some_getElem hm,
    Option.getD_some] at hcount
  refine h.noEmpty a ?_
  rw [Std.TreeMap.getElem?_eq_some_getElem hm,hcount]

/-- A push into a queue without addresses brings one. -/
theorem push_addrs_ne_nil {queue : Queue} (h : Sound queue) (item : SemtechUDPPacketItem) :
    (push queue item).addrs≠[] := by
  rw [addrs_push h.noEmpty]
  split_ifs with hd
  · intro ha
    have hcount := h.counted (getAddr item)
    rw [ha,List.count_nil,Nat.le_zero,List.length_eq_zero_iff] at hcount
    rw [hcount] at hd
    cases hd
  · exact List.append_ne_nil_of_right_ne_nil _ (List.cons_ne_nil _ _)

/-- What a call of the loop does to queue and stage. -/
inductive Advances (r : Runner) (now : Timeval) : Runner → Prop where
  /-- No packets. -/
  | idle {timeout : ℤ} (hstage : r.stage=.waiting timeout) : Advances r now r
  /-- The drain begins. -/
  | drain {timeout : ℤ} (hstage : r.stage=.waiting timeout) (hpackets : r.queue.packets.isEmpty=false) :
      Advances r now ⟨r.queue,.draining now⟩
  /-- Nothing is due any more. -/
  | done {t : Timeval} (hstage : r.stage=.draining t) (hnone : (getFirstExpired r.queue t).1=none) :
      Advances r now ⟨r.queue,.asking⟩
  /-- An item is taken with the front address. -/
  | take {t : Timeval} (hstage : r.stage=.draining t) (hsome : (getFirstExpired r.queue t).1≠none)
      (hfront : r.queue.addrs≠[]) (haddrs : (getFirstExpired r.queue t).2.addrs=r.queue.addrs.tail) :
      Advances r now ⟨(getFirstExpired r.queue t).2,.draining t⟩
  /-- The next timeout is known. -/
  | ask {timeout : ℤ} (hstage : r.stage=.asking) : Advances r now ⟨r.queue,.waiting timeout⟩
  /-- There was no front. -/
  | fail (hstage : r.stage=.asking ∨ r.stage=.failed) : Advances r now ⟨r.queue,.failed⟩

/-- Every call of the loop is one of these. -/
theorem advances (r : Runner) (now : Timeval) : Advances r now (advance r now) := by
  obtain ⟨queue,stage⟩ := r
  cases stage with
  | waiting timeout =>
    simp only [advance]
    cases hp : queue.packets.isEmpty with
    | true => exact .idle rfl
    | false => exact .drain rfl hp
  | draining t =>
    simp only [advance]
    rcases getFirstExpired_cases queue t with hnone|⟨a,addrs,first,others,ha,-,-,hsome⟩
    · have hdone : Advances ⟨queue,.draining t⟩ now ⟨queue,.asking⟩ := .done rfl (congrArg Prod.fst hnone)
      rwa [hnone]
    · have htake : Advances ⟨queue,.draining t⟩ now ⟨(getFirstExpired queue t).2,.draining t⟩ := by
        refine .take rfl ?_ ?_ ?_
        · rw [hsome]
          exact fun h => nomatch h
        · rw [ha]
          exact List.cons_ne_nil a addrs
        · rw [hsome,ha]
          rfl
      rwa [hsome] at htake ⊢
  | asking =>
    simp only [advance]
    split
    · exact .ask rfl
    · exact .fail (.inl rfl)
  | failed => exact .fail (.inr rfl)

/-- Every event keeps the queue sound. -/
theorem step_sound {r : Runner} (h : Sound r.queue) (e : RunnerEvent) : Sound (step r e).queue := by
  cases e with
  | push item => exact push_sound h item
  | advance now =>
    have hadvances := advances r now
    change Sound (advance r now).queue
    generalize advance r now=r' at hadvances ⊢
    cases hadvances with
    | take hstage => exact getFirstExpired_sound h _
    | idle | drain | done | ask | fail => exact h

/-- The queue is sound all along. -/
theorem run_step_sound (events : List RunnerEvent) : Sound (run step start events).queue :=
  @run_invariant _ _ step (fun r => Sound r.queue) events (fun e _ _ h => step_sound h e) start empty_sound

/-- Behind the wait the addresses are gone only when a call took the last one
and nothing was pushed since. -/
theorem takesLast_of_empty {events : List RunnerEvent}
    (hstage : (∃ t,(run step start events).stage=.draining t) ∨ (run step start events).stage=.asking)
    (hempty : (run step start events).queue.addrs=[]) :
    ∃ before now between,events=before++.advance now::between ∧ TakesLast (run step start before) ∧
      ∀ item,.push item∉between := by
  induction events using List.reverseRecOn with
  | nil => rcases hstage with ⟨t,ht⟩|ht <;> cases ht
  | append_singleton events e ih =>
    have hsound := run_step_sound events
    rw [run_append,run_cons,run_nil] at hstage hempty
    set r := run step start events
    cases e with
    | push item => exact absurd hempty (push_addrs_ne_nil hsound item)
    | advance now =>
      rw [step] at hstage hempty
      -- a split of the events before stays one, as the loop pushes nothing
      have hlonger : (∃ t,r.stage=.draining t) → r.queue.addrs=[] →
          ∃ before first between,events++[.advance now]=before++.advance first::between ∧
            TakesLast (run step start before) ∧ ∀ item,.push item∉between := by
        intro hs he
        obtain ⟨before,first,between,hsplit,htakes,hpush⟩ := ih (.inl hs) he
        refine ⟨before,first,between++[.advance now],?_,htakes,fun item hm => ?_⟩
        · rw [hsplit,List.append_assoc,List.cons_append]
        · rcases List.mem_append.mp hm with hm|hm
          · exact hpush item hm
          · cases List.mem_singleton.mp hm
      generalize hr' : advance r now=r' at hstage hempty
      have hadvances := advances r now
      rw [hr'] at hadvances
      cases hadvances with
      | idle hs =>
        rw [hs] at hstage
        rcases hstage with ⟨t,ht⟩|ht <;> cases ht
      | drain hs hp =>
        rw [isEmpty_of_addrs hsound hempty] at hp
        cases hp
      | done hs => exact hlonger ⟨_,hs⟩ hempty
      | take hs hsome hfront haddrs =>
        rw [haddrs] at hempty
        refine ⟨events,now,[],rfl,⟨_,hs,hsome,?_⟩,fun item hm => List.not_mem_nil hm⟩
        obtain ⟨a,addrs,ha⟩ := List.exists_cons_of_ne_nil hfront
        rw [ha,List.tail_cons] at hempty
        rw [ha,hempty,List.length_singleton]
      | ask => rcases hstage with ⟨t,ht⟩|ht <;> cases ht
      | fail => rcases hstage with ⟨t,ht⟩|ht <;> cases ht

/-- Calls of the loop bring no address. -/
theorem run_stays_empty {r : Runner} {events : List RunnerEvent} (hempty : r.queue.addrs=[])
    (hpush : ∀ item,.push item∉events) : (run step r events).queue.addrs=[] := by
  refine @run_invariant _ _ step (fun r => r.queue.addrs=[]) events (fun e he r hr => ?_) r hempty
  cases e with
  | push item => exact absurd he (hpush item)
  | advance now =>
    have hadvances := advances r now
    change (advance r now).queue.addrs=[]
    generalize advance r now=r' at hadvances ⊢
    cases hadvances with
    | take hs hsome hfront haddrs => exact absurd hr hfront
    | idle | drain | done | ask | fail => exact hr

/-- A call that takes the last address leaves none. -/
theorem TakesLast.empty {r : Runner} (h : TakesLast r) (now : Timeval) : (advance r now).queue.addrs=[] := by
  obtain ⟨t,hstage,hsome,hlength⟩ := h
  obtain ⟨a,ha⟩ := List.length_eq_one_iff.mp hlength
  have hadvances := advances r now
  generalize advance r now=r' at hadvances ⊢
  cases hadvances with
  | take hs hsome' hfront haddrs => rw [haddrs,ha,List.tail_cons]
  | done hs hnone =>
    obtain rfl := Stage.draining.inj (hstage.symm.trans hs)
    exact absurd hnone hsome
  | idle hs | drain hs | ask hs => exact absurd (hstage.symm.trans hs) (fun h => nomatch h)
  | fail hs => rcases hs with hs|hs <;> exact absurd (hstage.symm.trans hs) (fun h => nomatch h)

/-- In a run of the sender with any pushes there is a front at every call of
`getNextTimeout` exactly when something is pushed behind every call that takes
the last address. -/
theorem frontExists_iff_refilled (events : List RunnerEvent) :
    Along step FrontExists start events ↔ Refilled events := by
  constructor
  · intro h before now between later after hs htakes hasking
    by_contra hnone
    have hpush : ∀ item,.push item∉between := fun item hm => hnone ⟨item,hm⟩
    have hfront := h (before++.advance now::between) (.advance later) after
      (by rw [hs,List.append_assoc,List.cons_append]) hasking
    rw [run_append,run_cons] at hfront
    exact hfront (run_stays_empty (htakes.empty now) hpush)
  · intro h before e after hs
    cases e with
    | push item => trivial
    | advance later =>
      intro hasking hempty
      obtain ⟨front,now,between,hsplit,htakes,hpush⟩ := takesLast_of_empty (.inr hasking) hempty
      obtain ⟨item,hm⟩ := h front now between later after (by rw [hs,hsplit,List.append_assoc,List.cons_append])
        htakes (hsplit ▸ hasking)
      exact hpush item hm

/-- One packet is queued, taken as soon as the loop wakes up, and then there is
no front to look at. -/
theorem not_frontExists_onePacket :
    ¬ Along step FrontExists start [.push ⟨.ack,⟨0,0⟩,SemtechUDPPacket.empty⟩,.advance ⟨0,0⟩,.advance ⟨0,0⟩,
      .advance ⟨0,0⟩,.advance ⟨0,0⟩] := by
  intro h
  have hfront := h [.push ⟨.ack,⟨0,0⟩,SemtechUDPPacket.empty⟩,.advance ⟨0,0⟩,.advance ⟨0,0⟩,.advance ⟨0,0⟩]
    (.advance ⟨0,0⟩) [] rfl
  exact hfront (by decide +kernel) (by decide +kernel)

end LorawanServer.QueueRunner
