import LorawanServer.Beacon
import LorawanServer.JitRuns

/-!
# The schedule of the beacons

`downstreamBeaconRunner` fills the transmission queue of the first antenna with
the next beacons, while other threads use the queue. It looks at the number of
queued beacons once a second; each round of its inner loop tries one time, and a
refused one moves the next try by a period. The rounds and the calls of the other
threads come in any order.
-/

namespace LorawanServer.BeaconSchedule

open Beacon JustInTime StepRun

/-- `JIT_NUM_BEACON_IN_QUEUE`. -/
def jitNumBeaconInQueue : ℕ := 3

/-- The variables of the runner. -/
structure BeaconThread where
  /-- `last_beacon_gps_time`, zero before the first beacon. -/
  lastBeacon : ℕ
  /-- `retry`. -/
  retry : ℕ
  /-- `beacon_loop`. -/
  beaconLoop : ℤ

/-- The queue of the first antenna and the runner. -/
structure Transmitter where
  system : System
  thread : BeaconThread

/-- Before the loop. -/
def Transmitter.init : Transmitter := ⟨System.init,0,0,0⟩

/-- What the runner is started with: the settings, what follows from them, and
the memory of its packet. -/
structure BeaconSetup where
  settings : BeaconSettings
  rate : BeaconRate
  bandwidth : UInt8
  uninitialised : LgwPktTx
  /-- The switches passed. -/
  rate_eq : beaconRate settings.beaconDataRate=some rate
  bandwidth_eq : beaconBandwidth settings.beaconBandwidthHz=some bandwidth

/-- The period in seconds. -/
def BeaconSetup.period (setup : BeaconSetup) : ℕ := setup.settings.beaconPeriod.toNat

/-- The time for which the next round tries a beacon. The product with the period
is one of 32 bits. -/
def nextBeacon (setup : BeaconSetup) (thread : BeaconThread) (gpsSeconds : ℕ) : ℕ :=
  let reference :=
    if thread.lastBeacon=0 then gpsSeconds+(setup.period-gpsSeconds%setup.period)
    else thread.lastBeacon+setup.period
  reference+(UInt32.ofNat thread.retry*setup.settings.beaconPeriod).toNat

/-- What happens next at the transmitter. -/
inductive BeaconAction where
  /-- The outer loop looks at the queue. -/
  | wake
  /-- A round of the inner loop with a valid time reference, the timestamp that the
  time is converted to and the time of the concentrator. -/
  | attempt (gpsSeconds : ℕ) (countUs timeUs : UInt32)
  /-- A call of another thread. -/
  | other (action : Action)

/-- The call that a round makes. -/
def attemptCall (setup : BeaconSetup) (thread : BeaconThread) (gpsSeconds : ℕ) (countUs timeUs : UInt32) : Action :=
  .enqueue timeUs (beaconPacket setup.settings setup.rate setup.bandwidth setup.uninitialised
    (nextBeacon setup thread gpsSeconds) countUs) .beacon

/-- A round of the inner loop. -/
def attempt (sort : Qsort) (timeOnAir : LgwPktTx → UInt32) (setup : BeaconSetup) (t : Transmitter)
    (gpsSeconds : ℕ) (countUs timeUs : UInt32) : Transmitter :=
  if 0<t.thread.beaconLoop ∧ 0<setup.period then
    let next := nextBeacon setup t.thread gpsSeconds
    let packet := beaconPacket setup.settings setup.rate setup.bandwidth setup.uninitialised next countUs
    let system := step sort timeOnAir t.system (attemptCall setup t.thread gpsSeconds countUs timeUs)
    if (jitEnqueue sort timeOnAir t.system.queue timeUs packet .beacon).1=.ok then
      ⟨system,next,0,t.thread.beaconLoop-1⟩
    else ⟨system,t.thread.lastBeacon,t.thread.retry+1,t.thread.beaconLoop⟩
  else t

/-- The transmitter after an action. -/
def beaconStep (sort : Qsort) (timeOnAir : LgwPktTx → UInt32) (setup : BeaconSetup) (t : Transmitter) :
    BeaconAction → Transmitter
  | .wake => {t with thread := ⟨t.thread.lastBeacon,0,(jitNumBeaconInQueue : ℤ)-t.system.queue.numBeacon⟩}
  | .attempt gpsSeconds countUs timeUs => attempt sort timeOnAir setup t gpsSeconds countUs timeUs
  | .other action => {t with system := step sort timeOnAir t.system action}

/-- The call enqueues no beacon. -/
def NoBeacon : Action → Prop
  | .enqueue _ _ pktType => pktType≠.beacon
  | _ => True

/-- Other threads enqueue no beacons and take out what they found; the refused
rounds, times the period, fit into 32 bits. -/
def Orderly (setup : BeaconSetup) (t : Transmitter) : BeaconAction → Prop
  | .wake => True
  | .attempt _ _ _ => t.thread.retry*setup.period<2^32
  | .other action => Named t.system action ∧ NoBeacon action

/-- The node is the beacon for the time. -/
def IsBeaconFor (setup : BeaconSetup) (seconds : ℕ) (node : JitNode) : Prop :=
  ∃ countUs,node.pkt=beaconPacket setup.settings setup.rate setup.bandwidth setup.uninitialised seconds countUs

/-- The beacons that were accepted are for rising multiples of the period, of
which the runner remembers the last one, and the queue has room for what it still
wants to add. -/
structure Planned (setup : BeaconSetup) (t : Transmitter) : Prop where
  accounted : Accounted t.system
  few : t.system.queue.numBeacon ≤ jitNumBeaconInQueue
  room : (t.system.queue.numBeacon : ℤ)+t.thread.beaconLoop ≤ jitNumBeaconInQueue
  beacons : ∃ times : List ℕ,times.Pairwise (fun a b => a<b) ∧ (∀ time∈times,0<time ∧ setup.period∣time) ∧
    t.thread.lastBeacon=times.getLastD 0 ∧
    List.Forall₂ (IsBeaconFor setup) times (t.system.accepted.filter isBeacon)

/-- The time of a round is a multiple of the period behind the last beacon. -/
theorem nextBeacon_spec {setup : BeaconSetup} {thread : BeaconThread} (hperiod : 0<setup.period)
    (hretry : thread.retry*setup.period<2^32) (hlast : setup.period∣thread.lastBeacon) (gpsSeconds : ℕ) :
    thread.lastBeacon<nextBeacon setup thread gpsSeconds ∧ setup.period∣nextBeacon setup thread gpsSeconds := by
  have hproduct : (UInt32.ofNat thread.retry*setup.settings.beaconPeriod).toNat=thread.retry*setup.period := by
    rw [UInt32.toNat_mul,UInt32.toNat_ofNat',Nat.mod_mul_mod]
    exact Nat.mod_eq_of_lt hretry
  have hslot : setup.period∣gpsSeconds+(setup.period-gpsSeconds%setup.period) := by
    have hlt := Nat.mod_lt gpsSeconds hperiod
    have hdiv := Nat.div_add_mod gpsSeconds setup.period
    refine ⟨gpsSeconds/setup.period+1,?_⟩
    rw [Nat.mul_add,Nat.mul_one]
    omega
  unfold nextBeacon
  rw [hproduct]
  dsimp only
  split_ifs with hz
  · refine ⟨?_,Nat.dvd_add hslot (Nat.dvd_mul_left _ _)⟩
    have hlt := Nat.mod_lt gpsSeconds hperiod
    omega
  · exact ⟨by omega,Nat.dvd_add (Nat.dvd_add hlast (Nat.dvd_refl _)) (Nat.dvd_mul_left _ _)⟩

/-- Before the loop nothing is planned. -/
theorem planned_init (setup : BeaconSetup) : Planned setup Transmitter.init where
  accounted := accounted_of_represents represents_init (List.Perm.refl _)
  few := Nat.zero_le _
  room := by decide
  beacons := ⟨[],List.Pairwise.nil,fun _ h => absurd h List.not_mem_nil,rfl,List.Forall₂.nil⟩

/-- A call of another thread adds no beacon. -/
theorem other_beacons (sort : Qsort) (timeOnAir : LgwPktTx → UInt32) {s : System}
    (h : Represents s.queue s.queue.live) {action : Action} (hnamed : Named s action) (hno : NoBeacon action) :
    (step sort timeOnAir s action).queue.numBeacon ≤ s.queue.numBeacon ∧
      (step sort timeOnAir s action).accepted.filter isBeacon=s.accepted.filter isBeacon := by
  rcases step_cases sort timeOnAir h hnamed with
    ⟨timeUs,packet,pktType,node,rfl,hnode,-,hnext,ha,-,-⟩ | ⟨rest,taken,dropped,hnext,hsplit,ha,-,-⟩
  · have hb : isBeacon node=false := by
      rw [hnode]
      exact decide_eq_false hno
    constructor
    · rw [hnext.numBeacon,(sort.perm compare _).countP_eq,List.countP_append,List.countP_singleton,hb,h.numBeacon]
      exact le_rfl
    · rw [ha,List.filter_append,List.filter_cons_of_neg (by rw [hb]; exact Bool.false_ne_true),List.filter_nil,
        List.append_nil]
  · constructor
    · rw [hnext.numBeacon,h.numBeacon,←hsplit.countP_eq isBeacon,List.countP_append,List.countP_append]
      omega
    · rw [ha]

/-- A round whose beacon is refused changes nothing, one whose beacon is accepted
adds it. -/
theorem attempt_cases (sort : Qsort) (timeOnAir : LgwPktTx → UInt32) (setup : BeaconSetup) {t : Transmitter}
    (h : Accounted t.system) (gpsSeconds : ℕ) (countUs timeUs : UInt32) :
    ((attempt sort timeOnAir setup t gpsSeconds countUs timeUs).system=t.system ∧
      (attempt sort timeOnAir setup t gpsSeconds countUs timeUs).thread.lastBeacon=t.thread.lastBeacon ∧
      (attempt sort timeOnAir setup t gpsSeconds countUs timeUs).thread.beaconLoop=t.thread.beaconLoop) ∨
    (0<setup.period ∧ 0<t.thread.beaconLoop ∧ ∃ node,IsBeaconFor setup (nextBeacon setup t.thread gpsSeconds) node ∧
      isBeacon node=true ∧ Accounted (attempt sort timeOnAir setup t gpsSeconds countUs timeUs).system ∧
      (attempt sort timeOnAir setup t gpsSeconds countUs timeUs).system.queue.numBeacon=t.system.queue.numBeacon+1 ∧
      (attempt sort timeOnAir setup t gpsSeconds countUs timeUs).system.accepted=t.system.accepted++[node] ∧
      (attempt sort timeOnAir setup t gpsSeconds countUs timeUs).thread=
        ⟨nextBeacon setup t.thread gpsSeconds,0,t.thread.beaconLoop-1⟩) := by
  unfold attempt
  split_ifs with hgo
  · have hstep : Accounted (step sort timeOnAir t.system (attemptCall setup t.thread gpsSeconds countUs timeUs)) :=
      step_accounted sort timeOnAir h trivial
    rcases jitEnqueue_cases sort timeOnAir timeUs (beaconPacket setup.settings setup.rate setup.bandwidth
      setup.uninitialised (nextBeacon setup t.thread gpsSeconds) countUs) .beacon h.1 with
      ⟨error,hne,he⟩ | ⟨next,node,he,hnode,-,hnext⟩
    · dsimp only
      rw [he,if_neg hne]
      left
      refine ⟨?_,rfl,rfl⟩
      simp only [attemptCall,step,he,if_neg hne]
    · dsimp only
      rw [he,if_pos rfl]
      right
      have hb : isBeacon node=true := by rw [hnode]; rfl
      refine ⟨hgo.2,hgo.1,node,⟨countUs,by rw [hnode]; rfl⟩,hb,hstep,?_,?_,rfl⟩
      · have hqueue : (step sort timeOnAir t.system (attemptCall setup t.thread gpsSeconds countUs timeUs)).queue=
            next := by
          simp only [attemptCall,step,he]
        rw [hqueue,hnext.numBeacon,(sort.perm compare _).countP_eq,List.countP_append,List.countP_singleton,hb,
          h.1.numBeacon]
        rfl
      · simp only [attemptCall,step,he,if_true,←hnode]
  · exact .inl ⟨rfl,rfl,rfl⟩

/-- A later time joins the times of the accepted beacons. -/
theorem times_concat {setup : BeaconSetup} {times : List ℕ} {next : ℕ} (hrise : times.Pairwise fun a b => a<b)
    (hslots : ∀ time∈times,0<time ∧ setup.period∣time) (hlast : times.getLastD 0<next)
    (hnext : setup.period∣next) :
    (times++[next]).Pairwise (fun a b => a<b) ∧ ∀ time∈times++[next],0<time ∧ setup.period∣time := by
  constructor
  · refine List.pairwise_append.mpr ⟨hrise,List.pairwise_singleton _ _,fun a ha b hb => ?_⟩
    rw [List.mem_singleton.mp hb]
    refine lt_of_le_of_lt ?_ hlast
    cases times using List.reverseRecOn with
    | nil => exact absurd ha List.not_mem_nil
    | append_singleton front last =>
      rw [List.getLastD_concat]
      rcases List.mem_append.mp ha with hf | hl
      · exact ((List.pairwise_append.mp hrise).2.2 a hf last (List.mem_singleton_self _)).le
      · rw [List.mem_singleton.mp hl]
  · intro time ht
    rcases List.mem_append.mp ht with ht | ht
    · exact hslots time ht
    · rw [List.mem_singleton.mp ht]
      exact ⟨by omega,hnext⟩

/-- Every action keeps the plan. -/
theorem Planned.step (sort : Qsort) (timeOnAir : LgwPktTx → UInt32) {setup : BeaconSetup} {t : Transmitter}
    (h : Planned setup t) {action : BeaconAction} (ho : Orderly setup t action) :
    Planned setup (beaconStep sort timeOnAir setup t action) := by
  obtain ⟨times,hrise,hslots,hlast,hall⟩ := h.beacons
  have hfew := h.few
  have hroom := h.room
  cases action with
  | wake =>
    refine ⟨h.accounted,h.few,?_,times,hrise,hslots,hlast,hall⟩
    change (t.system.queue.numBeacon : ℤ)+((jitNumBeaconInQueue : ℤ)-t.system.queue.numBeacon) ≤ jitNumBeaconInQueue
    omega
  | attempt gpsSeconds countUs timeUs =>
    change Planned setup (attempt sort timeOnAir setup t gpsSeconds countUs timeUs)
    rcases attempt_cases sort timeOnAir setup h.accounted gpsSeconds countUs timeUs with
      ⟨hs,hl,hb⟩ | ⟨hperiod,hloop,node,hnode,hb,haccounted,hnum,haccepted,hthread⟩
    · refine ⟨by rw [hs]; exact h.accounted,by rw [hs]; exact hfew,by rw [hs,hb]; exact hroom,times,hrise,hslots,?_,?_⟩
      · rw [hl]
        exact hlast
      · rw [hs]
        exact hall
    · have hdvd : setup.period∣t.thread.lastBeacon := by
        rw [hlast]
        cases times using List.reverseRecOn with
        | nil => exact Nat.dvd_zero _
        | append_singleton front last =>
          rw [List.getLastD_concat]
          exact (hslots last (List.mem_append_right _ (List.mem_singleton_self _))).2
      obtain ⟨hlater,hslot⟩ := nextBeacon_spec hperiod ho hdvd gpsSeconds
      rw [hlast] at hlater
      obtain ⟨hrise',hslots'⟩ := times_concat hrise hslots hlater hslot
      refine ⟨haccounted,?_,?_,times++[nextBeacon setup t.thread gpsSeconds],hrise',hslots',?_,?_⟩
      · rw [hnum]
        omega
      · rw [hnum,hthread]
        push_cast
        omega
      · rw [hthread,List.getLastD_concat]
      · rw [haccepted,List.filter_append,List.filter_cons_of_pos hb,List.filter_nil]
        exact List.rel_append hall (List.Forall₂.cons hnode List.Forall₂.nil)
  | other action =>
    obtain ⟨hnum,hfilter⟩ := other_beacons sort timeOnAir h.accounted.1 ho.1 ho.2
    refine ⟨step_accounted sort timeOnAir h.accounted ho.1,hnum.trans hfew,?_,times,hrise,hslots,hlast,?_⟩
    · change ((JustInTime.step sort timeOnAir t.system action).queue.numBeacon : ℤ)+t.thread.beaconLoop ≤ _
      omega
    · change List.Forall₂ _ _ ((JustInTime.step sort timeOnAir t.system action).accepted.filter isBeacon)
      rw [hfilter]
      exact hall

/-- A beacon every 128 seconds. -/
def plainSetup : BeaconSetup :=
  ⟨⟨128,869525000,0,0,9,125000,14,0,0,0⟩,⟨9,2,0⟩,4,LgwPktTx.zero,rfl,rfl⟩

end LorawanServer.BeaconSchedule
