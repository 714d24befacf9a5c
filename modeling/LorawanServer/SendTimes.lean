import LorawanServer.QueueOrder

/-!
# Adding to a time

Every send time is a clock reading to which `incTimeval` adds an amount. The
microseconds of an amount are added with a carry when they are positive and
dropped when they are negative, because the borrow looks at the time before
anything was taken from it. Amounts add up in any order; the sum is theirs when
none of them has negative microseconds.
-/

namespace LorawanServer.SendTimes

open Records PacketHandler QueueOrder

/-- The last two arguments of `incTimeval`. -/
structure Amount where
  /-- Seconds. -/
  seconds : ℤ
  /-- Microseconds. -/
  usec : ℤ
  deriving DecidableEq

/-- Microseconds that an amount stands for. -/
def Amount.micros (a : Amount) : ℤ := 1000000*a.seconds+a.usec

/-- Microseconds that are really added. -/
def Amount.added (a : Amount) : ℤ := 1000000*a.seconds+max a.usec 0

/-- `incTimeval` for one amount after the other. -/
def incAll (val : Timeval) (amounts : List Amount) : Timeval :=
  amounts.foldl (fun t a => incTimeval t a.seconds a.usec) val

/-- The amounts add up, in whatever order they are added, to the same time. -/
structure AddsUp (val : Timeval) (amounts : List Amount) : Prop where
  /-- The microseconds stay in their range. -/
  normal : ∀ order : List Amount,order.Perm amounts → Normal (incAll val order)
  /-- The time advances by the sum. -/
  exact : ∀ order : List Amount,order.Perm amounts →
    QueueOrder.micros (incAll val order)=QueueOrder.micros val+(amounts.map Amount.micros).sum
  /-- The order does not matter. -/
  commute : ∀ order : List Amount,order.Perm amounts → incAll val order=incAll val amounts

/-- A normal time is its number of microseconds. -/
theorem eq_of_micros {s t : Timeval} (hs : Normal s) (ht : Normal t) (h : QueueOrder.micros s=QueueOrder.micros t) :
    s=t := by
  cases s with
  | mk sec usec =>
    cases t with
    | mk sec' usec' =>
      dsimp only [QueueOrder.Normal,QueueOrder.micros] at hs ht h
      have hsec : sec=sec' := by omega
      have husec : usec=usec' := by omega
      rw [hsec,husec]

section Steps

variable {val : Timeval} {a : Amount} {amounts : List Amount}

/-- One call, with a carry or without. -/
theorem micros_incTimeval (hn : Normal val) :
    QueueOrder.micros (incTimeval val a.seconds a.usec)=QueueOrder.micros val+a.added := by
  rw [incTimeval,Amount.added]
  by_cases hpos : 0<a.usec
  · rw [if_pos hpos,max_eq_left hpos.le]
    split
    · dsimp only [QueueOrder.micros]
      ring
    · dsimp only [QueueOrder.micros]
      ring
  · have hborrow : ¬ (a.usec<0 ∧ val.tvUsec<0) := fun h => absurd hn.1 h.2.not_ge
    rw [if_neg hpos,if_neg hborrow,max_eq_right (not_lt.mp hpos)]
    dsimp only [QueueOrder.micros]
    ring

/-- One call keeps the microseconds in their range, whatever the sign of what it
adds. -/
theorem normal_incTimeval (hn : Normal val) (ha : abs a.usec<1000000) : Normal (incTimeval val a.seconds a.usec) := by
  by_cases hneg : a.usec<0
  · have hpos : ¬0<a.usec := hneg.not_gt
    have hborrow : ¬ (a.usec<0 ∧ val.tvUsec<0) := fun h => absurd hn.1 h.2.not_ge
    rw [incTimeval,if_neg hpos,if_neg hborrow]
    exact hn
  · exact incTimeval_normal hn (not_lt.mp hneg) (abs_lt.mp ha).2

/-- Calls one after the other. -/
theorem incAll_run (hn : Normal val) (h : ∀ a∈amounts,abs a.usec<1000000) :
    Normal (incAll val amounts) ∧
      QueueOrder.micros (incAll val amounts)=QueueOrder.micros val+(amounts.map Amount.added).sum := by
  induction amounts generalizing val with
  | nil => exact ⟨hn,(add_zero _).symm⟩
  | cons a rest ih =>
    have hone : abs a.usec<1000000 := h a List.mem_cons_self
    obtain ⟨hnormal,hmicros⟩ := ih (normal_incTimeval hn hone) fun b hb => h b (List.mem_cons_of_mem a hb)
    rw [incAll,List.foldl_cons,← incAll]
    refine ⟨hnormal,?_⟩
    rw [hmicros,micros_incTimeval hn,List.map_cons,List.sum_cons,add_assoc]

/-- The order of the calls does not matter, with negative microseconds either. -/
theorem incAll_perm (hn : Normal val) (h : ∀ a∈amounts,abs a.usec<1000000) {order : List Amount}
    (hp : order.Perm amounts) : incAll val order=incAll val amounts := by
  have horder : ∀ a∈order,abs a.usec<1000000 := fun a ha => h a (hp.subset ha)
  obtain ⟨hleft,hmicros⟩ := incAll_run hn horder
  obtain ⟨hright,hmicros'⟩ := incAll_run hn h
  have hsum : (order.map Amount.added).sum=(amounts.map Amount.added).sum := (hp.map Amount.added).sum_eq
  refine eq_of_micros hleft hright ?_
  rw [hmicros,hmicros',hsum]

/-- What is added is at least what the amounts stand for, and the same exactly
when no microseconds are negative. -/
theorem sum_added (amounts : List Amount) :
    (amounts.map Amount.micros).sum≤(amounts.map Amount.added).sum ∧
      ((amounts.map Amount.added).sum=(amounts.map Amount.micros).sum ↔ ∀ a∈amounts,0≤a.usec) := by
  induction amounts with
  | nil => exact ⟨le_rfl,iff_of_true rfl (List.forall_mem_nil _)⟩
  | cons a rest ih =>
    obtain ⟨hle,hiff⟩ := ih
    rw [List.map_cons,List.map_cons,List.sum_cons,List.sum_cons,List.forall_mem_cons,← hiff,Amount.added,Amount.micros]
    have hmax : max a.usec 0=a.usec ↔ 0≤a.usec := max_eq_left_iff
    have hge : a.usec≤ max a.usec 0 := le_max_left _ _
    constructor
    · omega
    · rw [← hmax]
      omega

/-- Amounts add up exactly when none has negative microseconds. -/
theorem addsUp_iff (hn : Normal val) (h : ∀ a∈amounts,abs a.usec<1000000) :
    AddsUp val amounts ↔ ∀ a∈amounts,0≤a.usec := by
  obtain ⟨hnormal,hmicros⟩ := incAll_run hn h
  rw [← (sum_added amounts).2]
  constructor
  · intro hadds
    have hexact := hadds.exact amounts (List.Perm.refl amounts)
    rw [hmicros] at hexact
    exact add_left_cancel hexact
  · intro hsum
    have hcommute : ∀ order : List Amount,order.Perm amounts → incAll val order=incAll val amounts :=
      fun _ hp => incAll_perm hn h hp
    refine ⟨fun order hp => ?_,fun order hp => ?_,hcommute⟩
    · rw [hcommute order hp]
      exact hnormal
    · rw [hcommute order hp,hmicros,hsum]

end Steps

/-- Half a second twice. -/
theorem halves_addUp : AddsUp ⟨100,700000⟩ [⟨0,500000⟩,⟨0,500000⟩] :=
  (addsUp_iff ⟨by decide,by decide⟩ (by decide)).mpr (by decide)

/-- A microsecond is not taken from a time. -/
theorem microsecond_not_taken :
    ¬∀ (val : Timeval) (amounts : List Amount),Normal val → (∀ a∈amounts,abs a.usec<1000000) → AddsUp val amounts := by
  intro h
  have hadds := h ⟨100,500000⟩ [⟨0,-1⟩] ⟨by decide,by decide⟩ (by decide)
  have hexact := hadds.exact [⟨0,-1⟩] (List.Perm.refl _)
  exact absurd hexact (by decide)

section Handler

variable {processor : LoraPacketProcessor} {services services' : Services} {time : Timeval} {value : SemtechUDPPacket}

/-- An answer to MAC commands is due one timeout after its packet came. -/
theorem enqueueMAC_due (hn : Normal time) (h : enqueueMAC processor services time value=.ok services') :
    ∃ item,services'.queue=services.queue++[item] ∧
      QueueOrder.micros item.time2send=QueueOrder.micros time+defTimeoutUs := by
  have hdue : QueueOrder.micros (incTimeval time 0 defTimeoutUs)=QueueOrder.micros time+defTimeoutUs :=
    @micros_incTimeval time ⟨0,defTimeoutUs⟩ hn
  rw [enqueueMAC,log] at h
  split at h
  · exact ⟨⟨.replyMac,incTimeval time 0 defTimeoutUs,value⟩,by rw [← Except.ok.inj h]; rfl,hdue⟩
  · cases h

/-- The answers to a join are due the delays of the two windows after it came. -/
theorem enqueueJoinResponse_due {uninitialised : UInt32} {addr : DEVADDR} {value' : SemtechUDPPacket}
    (hn : Normal time)
    (h : enqueueJoinResponse processor uninitialised services time addr value=.ok (services',value')) :
    ∃ first second,services'.queue=services.queue++[first,second] ∧
      QueueOrder.micros first.time2send=QueueOrder.micros time+1000000*joinAcceptDelay1 ∧
        QueueOrder.micros second.time2send=QueueOrder.micros time+1000000*joinAcceptDelay2 := by
  have hdelay : ∀ seconds : ℤ,QueueOrder.micros (incTimeval time seconds 0)=
      QueueOrder.micros time+1000000*seconds := by
    intro seconds
    have hone := @micros_incTimeval time ⟨seconds,0⟩ hn
    rwa [Amount.added,max_self,add_zero] at hone
  have htimes := joinAnswers_times processor uninitialised services time addr value
  obtain ⟨first,rest,hanswers,hfirst,hrest⟩ := List.map_eq_cons_iff.mp htimes
  obtain ⟨second,hone,hsecond⟩ := List.map_eq_singleton_iff.mp hrest
  refine ⟨first,second,?_,?_,?_⟩
  · rw [enqueueJoinResponse_queue h,hanswers,hone]
  · rw [hfirst,hdelay]
  · rw [hsecond,hdelay]

end Handler

end LorawanServer.SendTimes
