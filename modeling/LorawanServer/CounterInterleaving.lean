import LorawanServer.ReplyCounters

/-!
# Interleavings of the two counter updates

The listener thread adds to a downlink counter in one locked step. The sender
thread reads the counter in one locked step and writes it back in a later one.
Between the two an addition of the listener to the same counter is overwritten.
Without such an addition, and below the end of the 32-bit range, no counter
decreases and each counter is its first value, the additions and the answered
MAC commands.
-/

namespace LorawanServer.CounterInterleaving

open Records DeviceHistory PacketHandler PacketReplies ReplyCounters StepRun

/-- What the sender thread is about to do. -/
inductive SenderPath where
  /-- `replyMAC`, which writes the next counter. -/
  | mac
  /-- `replyJoinRequest`, which writes the counter it read. -/
  | join
  deriving DecidableEq,Repr

/-- A read of the sender thread whose write is still to come. -/
structure Pending where
  /-- Reply path. -/
  path : SenderPath
  /-- Address. -/
  devaddr : DEVADDR
  /-- Value to be written. -/
  value : UInt32
  deriving DecidableEq,Repr

/-- Stored counters and the open read of the sender thread. -/
structure CounterState where
  /-- Stored counters. -/
  storage : Storage
  /-- Open read. -/
  pending : Option Pending

/-- One locked step of either thread. -/
inductive CounterEvent where
  /-- The listener calls `incrementDown`. -/
  | increment (devaddr : DEVADDR) (time : ℤ)
  /-- The sender calls `get`. -/
  | get (path : SenderPath) (devaddr : DEVADDR)
  /-- The sender calls `putDown`. -/
  | putDown (time : ℤ)
  /-- The sender gives up, having nothing to answer or no datagram sent. -/
  | abandon
  deriving DecidableEq,Repr

/-- A read of the sender. `replyMAC` counts from zero when nothing is stored,
`replyJoinRequest` gives up. -/
def senderGet (storage : Storage) (path : SenderPath) (devaddr : DEVADDR) : Option Pending :=
  match path,DeviceHistory.get storage devaddr with
  | .mac,.ok item => some ⟨.mac,devaddr,item.fcntdown+1⟩
  | .mac,.error _ => some ⟨.mac,devaddr,0+1⟩
  | .join,.ok item => some ⟨.join,devaddr,item.fcntdown⟩
  | .join,.error _ => none

/-- Effect of one step. -/
def counterStep (state : CounterState) : CounterEvent → CounterState
  | .increment devaddr time => {state with storage := (incrementDown state.storage devaddr time).1}
  | .get path devaddr => {state with pending := senderGet state.storage path devaddr}
  | .putDown time =>
    match state.pending with
    | none => state
    | some p => ⟨DeviceHistory.putDown state.storage p.devaddr time p.value,none⟩
  | .abandon => {state with pending := none}

/-- One when the step is an addition of the listener to the address. -/
def incremented (devaddr : DEVADDR) : CounterEvent → ℕ
  | .increment written _ => if written=devaddr then 1 else 0
  | .get _ _ => 0
  | .putDown _ => 0
  | .abandon => 0

/-- One when the step stores the counter of a MAC answer to the address. -/
def answered (devaddr : DEVADDR) (state : CounterState) : CounterEvent → ℕ
  | .increment _ _ => 0
  | .get _ _ => 0
  | .putDown _ =>
    match state.pending with
    | none => 0
    | some p => if p.path=.mac ∧ p.devaddr=devaddr then 1 else 0
  | .abandon => 0

/-- No counter is smaller after the step. -/
def NeverDecreases (state : CounterState) (event : CounterEvent) : Prop :=
  ∀ devaddr,fcntdown state.storage devaddr≤fcntdown (counterStep state event).storage devaddr

/-- Along the run no counter decreases, and at every point each counter is its
first value with all additions and all stored answers; none is lost. -/
def CountersKept (state : CounterState) (events : List CounterEvent) : Prop :=
  Along counterStep NeverDecreases state events ∧
    ∀ before after,events=before++after → ∀ devaddr,
      (fcntdown (run counterStep state before).storage devaddr).toNat=
        (fcntdown state.storage devaddr).toNat+(before.map (incremented devaddr)).sum+
          (outputs counterStep (answered devaddr) state before).sum

/-- The listener does not add to a counter that the sender has read and not yet
written, and neither thread passes the end of the 32-bit range. -/
def Undisturbed (state : CounterState) : CounterEvent → Prop
  | .increment devaddr _ =>
    (∀ p∈state.pending,p.devaddr≠devaddr) ∧ (fcntdown state.storage devaddr).toNat+1<2^32
  | .get .mac devaddr => (fcntdown state.storage devaddr).toNat+1<2^32
  | .get .join _ => True
  | .putDown _ => True
  | .abandon => True

/-- The value of an open read still fits the stored counter. -/
def Fresh (state : CounterState) : Prop :=
  ∀ p∈state.pending,p.value.toNat=
    (fcntdown state.storage p.devaddr).toNat+if p.path=.mac then 1 else 0

/-- Adding one below the end of the range. -/
theorem toNat_add_one {counter : UInt32} (h : counter.toNat+1<2^32) : (counter+1).toNat=counter.toNat+1 := by
  rw [UInt32.toNat_add]
  exact Nat.mod_eq_of_lt h

/-- A read of `replyMAC` is the next counter. -/
theorem senderGet_mac (storage : Storage) (devaddr : DEVADDR) :
    senderGet storage .mac devaddr=some ⟨.mac,devaddr,fcntdown storage devaddr+1⟩ := by
  have hg := get_fcntdown storage devaddr
  cases hi : DeviceHistory.get storage devaddr with
  | ok item =>
    rw [hi] at hg
    simp only [senderGet,hi,←hg]
  | error code =>
    rw [hi] at hg
    simp only [senderGet,hi,←hg]

/-- A read of `replyJoinRequest` is the stored counter, if there is one. -/
theorem senderGet_join {storage : Storage} {devaddr : DEVADDR} {p : Pending}
    (h : senderGet storage .join devaddr=some p) : p=⟨.join,devaddr,fcntdown storage devaddr⟩ := by
  have hg := get_fcntdown storage devaddr
  cases hi : DeviceHistory.get storage devaddr with
  | ok item =>
    rw [hi] at hg
    simp only [senderGet,hi,Option.some.injEq] at h
    rw [←h,←hg]
  | error code => simp only [senderGet,hi,reduceCtorEq] at h

/-- An idle sender has no stale read. -/
theorem fresh_idle (storage : Storage) : Fresh ⟨storage,none⟩ := fun _ hp => nomatch hp

/-- What the sender reads is fresh. -/
theorem senderGet_fresh {storage : Storage} {path : SenderPath} {devaddr : DEVADDR}
    (h : Undisturbed ⟨storage,none⟩ (.get path devaddr)) :
    Fresh ⟨storage,senderGet storage path devaddr⟩ := by
  intro p hp
  cases path with
  | mac =>
    obtain rfl := Option.some.inj ((senderGet_mac storage devaddr).symm.trans hp)
    rw [if_pos rfl]
    exact toNat_add_one h
  | join =>
    obtain rfl := senderGet_join hp
    rw [if_neg SenderPath.noConfusion,Nat.add_zero]

/-- One undisturbed step from a fresh state: the state stays fresh and every
counter grows by exactly what the step credits to it. -/
theorem counterStep_credits {state : CounterState} {event : CounterEvent} (hf : Fresh state)
    (hu : Undisturbed state event) :
    Fresh (counterStep state event) ∧ ∀ devaddr,
      (fcntdown (counterStep state event).storage devaddr).toNat=
        (fcntdown state.storage devaddr).toNat+(incremented devaddr event+answered devaddr state event) := by
  cases event with
  | increment written time =>
    obtain ⟨hp,hr⟩ := hu
    refine ⟨?_,?_⟩
    · intro p hm
      have hne := hp p hm
      dsimp only [counterStep]
      rw [fcntdown_incrementDown,if_neg (Ne.symm hne)]
      exact hf p hm
    · intro devaddr
      dsimp only [counterStep,incremented,answered]
      rw [fcntdown_incrementDown]
      split
      · next h =>
        subst h
        rw [toNat_add_one hr]
      · rfl
  | get path written =>
    refine ⟨senderGet_fresh ?_,fun _ => rfl⟩
    cases path with
    | mac => exact hu
    | join => exact trivial
  | putDown time =>
    cases hp : state.pending with
    | none =>
      simp only [counterStep,incremented,answered,hp]
      exact ⟨hf,fun _ => rfl⟩
    | some p =>
      have hv := hf p hp
      simp only [counterStep,incremented,answered,hp]
      refine ⟨fresh_idle _,?_⟩
      intro devaddr
      rw [fcntdown_putDown]
      by_cases ha : p.devaddr=devaddr
      · subst ha
        rw [if_pos rfl,hv,Nat.zero_add]
        simp only [and_true]
      · simp only [ha,if_false,and_false,Nat.add_zero]
  | abandon => exact ⟨fresh_idle _,fun _ => rfl⟩

/-- An answer of `replyMAC` is a read and a write of the sender. -/
theorem replyMAC_get_putDown {env : Environment} {storage : Storage} {item : SemtechUDPPacketItem}
    {t : Timeval} (h : (replyMAC env storage item t).frame≠none) :
    (replyMAC env storage item t).storage=(run counterStep ⟨storage,none⟩
      [.get .mac item.packet.header.header.devaddr,.putDown t.tvSec]).storage := by
  rcases replyMAC_cases env storage item t with ⟨hf,-⟩ | ⟨frame,-,-,-,hs⟩
  · exact absurd hf h
  · simp only [run_cons,run_nil,counterStep,senderGet_mac]
    exact hs

/-- A join response is two additions of the listener. -/
theorem enqueueJoinResponse_increments {processor : LoraPacketProcessor} {uninitialised : UInt32}
    {services services' : Services} {time : Timeval} {addr : DEVADDR} {value value' : SemtechUDPPacket}
    {storage : Storage} (hs : services.history=some storage)
    (h : enqueueJoinResponse processor uninitialised services time addr value=.ok (services',value'))
    (pending : Option Pending) :
    services'.history=some (run counterStep ⟨storage,pending⟩
      [.increment addr time.tvSec,.increment addr time.tvSec]).storage :=
  (enqueueJoinResponse_history h).trans (by rw [hs]; rfl)

/-- In every run from an idle sender whose steps are undisturbed no counter
decreases and no addition is lost. -/
theorem undisturbed_run_keeps_counters {storage : Storage} {events : List CounterEvent}
    (h : Along counterStep Undisturbed ⟨storage,none⟩ events) : CountersKept ⟨storage,none⟩ events := by
  have hi : Along counterStep (fun s e => Fresh s ∧ Undisturbed s e) ⟨storage,none⟩ events :=
    h.with_invariant (fresh_idle storage) fun _ _ hf hu => (counterStep_credits hf hu).1
  constructor
  · refine hi.imp fun state event hs devaddr => ?_
    have hc := (counterStep_credits hs.1 hs.2).2 devaddr
    rw [UInt32.le_iff_toNat_le]
    omega
  · rintro before after rfl devaddr
    have hc : Along counterStep (fun s e => (fcntdown (counterStep s e).storage devaddr).toNat=
        (fcntdown s.storage devaddr).toNat+(incremented devaddr e+answered devaddr s e))
        ⟨storage,none⟩ before :=
      hi.front.imp fun _ _ hs => (counterStep_credits hs.1 hs.2).2 devaddr
    have ha := @Along.accumulate _ _ counterStep (fun s : CounterState => (fcntdown s.storage devaddr).toNat)
      _ _ _ hc
    rw [outputs_sum_add,←Nat.add_assoc] at ha
    exact ha

/-- An answer to device 1 around additions to device 2 loses nothing. -/
theorem disjoint_devices_keep_counters :
    let events : List CounterEvent := [.get .mac 1,.increment 2 0,.increment 2 0,.putDown 0]
    Along counterStep Undisturbed ⟨∅,none⟩ events ∧ CountersKept ⟨∅,none⟩ events := by
  intro events
  have h : Along counterStep Undisturbed ⟨∅,none⟩ events := by
    refine (along_cons_iff _ _ _ _ _).mpr ⟨?_,(along_cons_iff _ _ _ _ _).mpr ⟨⟨?_,by decide⟩,
      (along_cons_iff _ _ _ _ _).mpr ⟨⟨?_,by decide⟩,(along_cons_iff _ _ _ _ _).mpr
        ⟨trivial,along_nil _ _ _⟩⟩⟩⟩
    · dsimp only [Undisturbed]
      decide
    · intro p hp
      obtain rfl := Option.some.inj hp
      decide
    · intro p hp
      obtain rfl := Option.some.inj hp
      decide
  exact ⟨h,undisturbed_run_keeps_counters h⟩

/-- A join between the read and the write of a MAC answer to the same device:
the counter falls from 2 to 1. -/
theorem join_during_answer_lost :
    ¬ CountersKept ⟨∅,none⟩ [.get .mac 1,.increment 1 0,.increment 1 0,.putDown 0] := by
  rintro ⟨h,-⟩
  have hd := h [.get .mac 1,.increment 1 0,.increment 1 0] (.putDown 0) [] rfl 1
  exact absurd hd (by decide)

end LorawanServer.CounterInterleaving
