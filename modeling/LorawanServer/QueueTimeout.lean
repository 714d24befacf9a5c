import LorawanServer.QueueOrder

/-!
# Waiting for the next item

The sender waits for as long as `diffMicroSeconds` says. The difference in
seconds is narrowed to `int` and the whole seconds are clamped before the
microseconds are added, so the sum may leave `int` in the last second below the
limit, a difference of one second more is cut off early, and differences of
more than sixty-eight years lose their high bits.
-/

namespace LorawanServer.QueueTimeout

open CppRuntime Records PacketHandler PacketQueue QueueOrder

/-- The difference in microseconds is cut off at zero and at the largest `int`. -/
def Clamped (t1 t2 : Timeval) : Prop := diffMicroSeconds t1 t2=max 0 (min (2^31-1) (micros t2-micros t1))

/-- The difference in seconds as an `int`. -/
def narrowed (t1 t2 : Timeval) : ℤ := (t2.tvSec-t1.tvSec).bmod (2^32)

/-- What is narrowed at the end: the microseconds of the narrowed seconds. -/
def narrowedMicros (t1 t2 : Timeval) : ℤ := 1000000*narrowed t1 t2+(t2.tvUsec-t1.tvUsec)

/-- The seconds pass the clamp and the sum with the microseconds leaves `int`. -/
def Overflows (t1 t2 : Timeval) : Prop := narrowed t1 t2=2147 ∧ 2^31-1<narrowedMicros t1 t2

/-- Seconds that fit `int` are right up to the band around the limit; others are
right where the lost bits do no harm. -/
def Harmless (t1 t2 : Timeval) : Prop :=
  if 2^31≤t2.tvSec-t1.tvSec then 2147<narrowed t1 t2 ∨ narrowedMicros t1 t2=2^31-1
  else if t2.tvSec-t1.tvSec< -2^31 then narrowedMicros t1 t2≤0
  else (t2.tvSec-t1.tvSec=2147 → narrowedMicros t1 t2≤2^31-1) ∧
    (t2.tvSec-t1.tvSec=2148 → 2^31-1≤narrowedMicros t1 t2)

instance (t1 t2 : Timeval) : Decidable (Harmless t1 t2) := inferInstanceAs (Decidable (ite _ _ (ite _ _ (_ ∧ _))))

/-- The narrowed difference of a difference that fits. -/
theorem narrowed_of_fits {t1 t2 : Timeval} (hl : -2^31≤t2.tvSec-t1.tvSec) (hh : t2.tvSec-t1.tvSec<2^31) :
    narrowed t1 t2=t2.tvSec-t1.tvSec := Int.bmod_eq_of_le (by omega) (by omega)

/-- Below the limit nothing is lost, above it the sign is. -/
theorem bmod_band {r : ℤ} (h0 : 0≤r) (h1 : r<2^32) : r.bmod (2^32)=if r<2^31 then r else r-2^32 := by
  rw [Int.bmod_def,Int.emod_eq_of_lt h0 (by exact_mod_cast h1)]
  split <;> split <;> omega

/-- Every outcome: the largest `int`, zero, the sum, or the sum without its sign. -/
theorem diffMicroSeconds_cases {t1 t2 : Timeval} (h1 : Normal t1) (h2 : Normal t2) :
    (2147<narrowed t1 t2 ∧ diffMicroSeconds t1 t2=2^31-1) ∨
      (narrowed t1 t2≤2147 ∧ narrowedMicros t1 t2≤0 ∧ diffMicroSeconds t1 t2=0) ∨
      (narrowed t1 t2≤2147 ∧ 0<narrowedMicros t1 t2 ∧ narrowedMicros t1 t2≤2^31-1 ∧
        diffMicroSeconds t1 t2=narrowedMicros t1 t2) ∨
      (Overflows t1 t2 ∧ diffMicroSeconds t1 t2=narrowedMicros t1 t2-2^32 ∧ diffMicroSeconds t1 t2<0) := by
  obtain ⟨hlow,hhigh⟩ := h1
  obtain ⟨hlow',hhigh'⟩ := h2
  have hdiff : diffMicroSeconds t1 t2=if 2147<narrowed t1 t2 then 2147483647
      else if narrowed t1 t2< -2147 then 0
      else if narrowedMicros t1 t2<0 then 0 else (narrowedMicros t1 t2).bmod (2^32) := rfl
  rw [hdiff,Overflows]
  have hsum : narrowedMicros t1 t2=1000000*narrowed t1 t2+(t2.tvUsec-t1.tvUsec) := rfl
  by_cases hbig : 2147<narrowed t1 t2
  · rw [if_pos hbig]
    exact .inl ⟨hbig,rfl⟩
  · rw [if_neg hbig]
    right
    by_cases hsmall : narrowed t1 t2< -2147
    · rw [if_pos hsmall]
      exact .inl ⟨by omega,by omega,rfl⟩
    · rw [if_neg hsmall]
      by_cases hneg : narrowedMicros t1 t2<0
      · rw [if_pos hneg]
        exact .inl ⟨by omega,by omega,rfl⟩
      · rw [if_neg hneg,bmod_band (by omega) (by omega)]
        by_cases hfits : narrowedMicros t1 t2<2^31
        · rw [if_pos hfits]
          by_cases hzero : narrowedMicros t1 t2=0
          · exact .inl ⟨by omega,by omega,hzero⟩
          · exact .inr (.inl ⟨by omega,by omega,by omega,rfl⟩)
        · rw [if_neg hfits]
          exact .inr (.inr ⟨⟨by omega,by omega⟩,rfl,by omega⟩)

/-- The difference is clamped exactly where the narrowing is harmless. -/
theorem clamped_iff {t1 t2 : Timeval} (h1 : Normal t1) (h2 : Normal t2) : Clamped t1 t2 ↔ Harmless t1 t2 := by
  have hcases := diffMicroSeconds_cases h1 h2
  obtain ⟨hlow,hhigh⟩ := h1
  obtain ⟨hlow',hhigh'⟩ := h2
  have hsum : narrowedMicros t1 t2=1000000*narrowed t1 t2+(t2.tvUsec-t1.tvUsec) := rfl
  have htotal : micros t2-micros t1=1000000*(t2.tvSec-t1.tvSec)+(t2.tvUsec-t1.tvUsec) := by
    rw [micros,micros]
    omega
  rw [Clamped,Harmless,htotal]
  rw [Overflows] at hcases
  by_cases hfar : 2^31≤t2.tvSec-t1.tvSec
  · rw [if_pos hfar]
    omega
  · rw [if_neg hfar]
    by_cases hpast : t2.tvSec-t1.tvSec< -2^31
    · rw [if_pos hpast]
      omega
    · rw [if_neg hpast]
      have hfits := narrowed_of_fits (not_lt.mp hpast) (not_le.mp hfar)
      omega

/-- `DEF_TIMEOUT_MS`. -/
def defTimeoutMs : ℤ := 200

/-- `PacketQueue::getNextTimeout`. The front of the addresses is read unchecked. -/
def getNextTimeout (queue : Queue) (currenttime : Timeval) : Except Fault ℤ :=
  match queue.addrs with
  | [] => .error .readOutside
  | a::_ =>
    match queue.packets[a]? with
    | some (first::_) => .ok (diffMicroSeconds currenttime first.time2send)
    | _ => .ok (defTimeoutMs*1000)

/-- The item whose time the queue looks at. -/
def frontItem (queue : Queue) : Option SemtechUDPPacketItem :=
  (queue.addrs.head?.bind fun a => queue.packets[a]?).bind List.head?

/-- The timeout that is handed to `select` is not negative. -/
def TimeoutNonneg (queue : Queue) (t : Timeval) : Prop := ∀ timeout,getNextTimeout queue t=.ok timeout → 0≤timeout

/-- An item that is more than the lead time away is not taken as due. -/
def HoldsBack (queue : Queue) (t : Timeval) : Prop :=
  ∀ first∈frontItem queue,¬ DueBy t first → (getFirstExpired queue t).1=none

/-- The narrowed difference is more than the lead time, and does not overflow. -/
def SeenAhead (t1 t2 : Timeval) : Prop := timeLeadMicroseconds<narrowedMicros t1 t2 ∧ ¬ Overflows t1 t2

/-- Without a front item the timeout is the default one, and nothing is returned. -/
theorem without_frontItem {queue : Queue} (h : frontItem queue=none) (t : Timeval) :
    (∀ timeout,getNextTimeout queue t=.ok timeout → timeout=defTimeoutMs*1000) ∧ (getFirstExpired queue t).1=none := by
  rw [getNextTimeout,getFirstExpired]
  rw [frontItem] at h
  cases ha : queue.addrs with
  | nil =>
    refine ⟨fun timeout ht => ?_,rfl⟩
    cases ht
  | cons a addrs =>
    rw [ha,List.head?_cons,Option.bind_some] at h
    cases hp : queue.packets[a]? with
    | none =>
      simp only [hp,and_true]
      exact fun timeout ht => (Except.ok.inj ht).symm
    | some items =>
      rw [hp,Option.bind_some,List.head?_eq_none_iff] at h
      subst h
      simp only [hp,and_true]
      exact fun timeout ht => (Except.ok.inj ht).symm

/-- With a front item both are decided by its time. -/
theorem with_frontItem {queue : Queue} {first : SemtechUDPPacketItem} (h : frontItem queue=some first) (t : Timeval) :
    getNextTimeout queue t=.ok (diffMicroSeconds t first.time2send) ∧
      ((getFirstExpired queue t).1=none ↔ timeLeadMicroseconds<diffMicroSeconds t first.time2send) := by
  rw [frontItem,Option.bind_eq_some_iff] at h
  obtain ⟨items,hitems,hfirst⟩ := h
  obtain ⟨a,hhead,hp⟩ := Option.bind_eq_some_iff.mp hitems
  obtain ⟨addrs,ha⟩ := List.head?_eq_some_iff.mp hhead
  obtain ⟨others,rfl⟩ := List.head?_eq_some_iff.mp hfirst
  rw [getNextTimeout,getFirstExpired]
  simp only [ha,hp,true_and]
  by_cases hd : timeLeadMicroseconds<diffMicroSeconds t first.time2send
  · rw [if_pos hd]
    exact iff_of_true rfl hd
  · rw [if_neg hd]
    exact iff_of_false (Option.some_ne_none _) hd

/-- The timeout is not negative exactly when the time of the front item does
not overflow. -/
theorem timeoutNonneg_iff {queue : Queue} {t : Timeval} (ht : Normal t)
    (hq : ∀ first∈frontItem queue,Normal first.time2send) :
    TimeoutNonneg queue t ↔ ∀ first∈frontItem queue,¬ Overflows t first.time2send := by
  cases hf : frontItem queue with
  | none =>
    refine iff_of_true (fun timeout hok => ?_) (fun first hfirst => nomatch hfirst)
    rw [(without_frontItem hf t).1 timeout hok]
    decide
  | some first =>
    have hcases := diffMicroSeconds_cases ht (hq first hf)
    simp only [TimeoutNonneg,(with_frontItem hf t).1,Except.ok.injEq,forall_eq',Option.mem_def,Option.some.injEq]
    rw [Overflows] at hcases ⊢
    omega

/-- Items far ahead are held back exactly when the front item is seen ahead
where it is. -/
theorem holdsBack_iff {queue : Queue} {t : Timeval} (ht : Normal t)
    (hq : ∀ first∈frontItem queue,Normal first.time2send) :
    HoldsBack queue t ↔ ∀ first∈frontItem queue,¬ DueBy t first → SeenAhead t first.time2send := by
  rw [HoldsBack]
  refine forall₂_congr fun first hfirst => imp_congr_right fun _ => ?_
  have hcases := diffMicroSeconds_cases ht (hq first hfirst)
  have hsum : narrowedMicros t first.time2send=
      1000000*narrowed t first.time2send+(first.time2send.tvUsec-t.tvUsec) := rfl
  obtain ⟨hlow,hhigh⟩ := ht
  obtain ⟨hlow',hhigh'⟩ := hq first hfirst
  rw [(with_frontItem hfirst t).2,SeenAhead,timeLeadMicroseconds]
  rw [Overflows] at hcases ⊢
  omega

/-- The wait is clamped, the timeout is not negative and items far ahead are
held back, each exactly where the narrowing does no harm. -/
theorem wait_times_iff {t : Timeval} (ht : Normal t) :
    (∀ due,Normal due → (Clamped t due ↔ Harmless t due)) ∧
      ∀ queue,(∀ first∈frontItem queue,Normal first.time2send) →
        (TimeoutNonneg queue t ↔ ∀ first∈frontItem queue,¬ Overflows t first.time2send) ∧
        (HoldsBack queue t ↔ ∀ first∈frontItem queue,¬ DueBy t first → SeenAhead t first.time2send) :=
  ⟨fun _ hd => clamped_iff ht hd,fun _ hq => ⟨timeoutNonneg_iff ht hq,holdsBack_iff ht hq⟩⟩

/-- Between times of the same second. -/
theorem clamped_sameSecond : Clamped ⟨1700000000,5⟩ ⟨1700000000,25⟩ :=
  ((wait_times_iff ⟨by decide,by decide⟩).1 ⟨1700000000,25⟩ ⟨by decide,by decide⟩).mpr (by decide)

/-- Almost 2148 seconds give a negative wait, 2147.1 seconds the largest one, and
2^32 seconds none at all. -/
theorem not_clamped_limit :
    ¬ Clamped ⟨0,0⟩ ⟨2147,500000⟩ ∧ ¬ Clamped ⟨0,900000⟩ ⟨2148,0⟩ ∧ ¬ Clamped ⟨0,0⟩ ⟨4294967296,0⟩ := by
  rw [Clamped,Clamped,Clamped]
  decide

end LorawanServer.QueueTimeout
