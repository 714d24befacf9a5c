import LorawanServer.ReceiverQueueFile
import LorawanServer.StepRun

/-!
# Keys of loaded and of new entries

A file gives entries any seconds and any number, and the loader does not advance
the count of the service. A new entry takes the place of a loaded one when both
have the same second, the new one no microseconds, and the loaded one the next
number. Between new entries there are no collisions.
-/

namespace LorawanServer.QueueCollision

open CppRuntime Records PacketHandler ReceiverQueue ReceiverQueueFile JsonEvents StepRun

/-- What happens to the service. -/
inductive Event where
  /-- A file is loaded. -/
  | load (platform : Platform) (file : Option Bytes)
  /-- A packet comes in. -/
  | push (call : PushCall)
  /-- A payload is pushed without its packet. -/
  | pushForce (fport : UInt8) (deviceId : DeviceId) (payload : Bytes) (time : Timeval)
  /-- A database is taken off the first entry. -/
  | pop (dbId : ℤ)
  /-- Other databases are configured. -/
  | setDbs (values : List ℤ)

/-- The service, with the keys that the last file gave. -/
structure History where
  /-- The service. -/
  service : JsonFileReceiverQueueService
  /-- Keys of the last file. -/
  loaded : List ReceiverQueueKey

/-- One event. -/
def step (s : History) : Event → History
  | .load platform file =>
    let service := (load platform s.service file).1
    ⟨service,service.storage.keys⟩
  | .push call => {s with service := pushStep s.service call}
  | .pushForce fport deviceId payload time => {s with service := pushForce fport s.service deviceId payload time}
  | .pop dbId => {s with service := (pop s.service dbId).1}
  | .setDbs values => {s with service := setDbs s.service values}

/-- A new service. -/
def History.fresh (dbs : List ℤ) : History := ⟨.fresh dbs,[]⟩

/-- The receive time of an event that is taken into the queue. -/
def takenAt (s : JsonFileReceiverQueueService) : Event → Option Timeval
  | .push call => if accepted s call then some call.time else none
  | .pushForce _ _ _ time => some time
  | _ => none

/-- What is taken comes under a new key, and everything else stays. -/
def AddsOne (s : History) (e : Event) : Prop :=
  ∀ time,takenAt s.service e=some time → ∃ key : ReceiverQueueKey,key∉s.service.storage ∧
    key∈(step s e).service.storage ∧ ∀ other : ReceiverQueueKey,other≠key →
      (step s e).service.storage[other]?=s.service.storage[other]?

/-- What is taken at a whole second comes when no loaded entry with this second
and the next number is left. -/
def ClearOfLoaded (s : History) (e : Event) : Prop :=
  ∀ time,takenAt s.service e=some time → time.tvUsec=0 → ∀ key∈s.loaded,key∈s.service.storage →
    ¬(key.time.tvSec=time.tvSec ∧ key.id=s.service.cnt+1)

/-- Keys of the file are whole seconds, and other keys have numbers that were
given. -/
structure Counted (s : History) : Prop where
  /-- Loaded keys. -/
  wholeSeconds : ∀ key∈s.loaded,key.time.tvUsec=0
  /-- All keys. -/
  numbered : ∀ key∈s.service.storage,key∈s.loaded ∨ key.id≤ s.service.cnt

/-- The handler gives whole seconds only. -/
structure GivesSeconds (h : MessageQueueJsonHandler) : Prop where
  /-- The current entry. -/
  current : h.entry.key.time.tvUsec=0
  /-- Entries that are stored. -/
  stored : ∀ key∈h.service.storage,key.time.tvUsec=0

/-- What leaves key and queue leaves this. -/
theorem GivesSeconds.congr {h h' : MessageQueueJsonHandler} (hs : GivesSeconds h) (hkey : h'.entry.key.time=h.entry.key.time)
    (hservice : h'.service=h.service) : GivesSeconds h' :=
  ⟨hkey ▸ hs.current,hservice ▸ hs.stored⟩

/-- A number goes into the seconds. -/
theorem GivesSeconds.putUInt {h : MessageQueueJsonHandler} (hs : GivesSeconds h) (value : UInt32) :
    GivesSeconds (h.putUInt value) := by
  obtain ⟨idx,level,service,⟨⟨⟨tvSec,tvUsec⟩,id⟩,entry⟩⟩ := h
  -- the key is taken apart, so that only its time is compared
  rw [MessageQueueJsonHandler.putUInt]
  split
  · exact ⟨by dsimp only,hs.stored⟩
  · exact hs.congr (by dsimp only) (by dsimp only)
  · exact hs.congr (by dsimp only) (by dsimp only)
  · exact hs

/-- The device of an entry. -/
theorem GivesSeconds.setDevice {h : MessageQueueJsonHandler} (hs : GivesSeconds h) (deviceId : DeviceId) :
    GivesSeconds (h.setDevice deviceId) := hs.congr rfl rfl

/-- A string. -/
theorem GivesSeconds.string {h : MessageQueueJsonHandler} (hs : GivesSeconds h) (text : Bytes) :
    GivesSeconds (h.string text).1 := by
  rw [MessageQueueJsonHandler.string]
  dsimp only
  split
  · split
    · exact ⟨hs.current,hs.stored⟩
    · exact hs
  · exact hs
  · exact hs.setDevice _
  · exact hs.setDevice _
  · exact hs.setDevice _
  · exact hs.setDevice _
  · exact hs.setDevice _
  · exact hs.setDevice _
  · exact hs.putUInt _

/-- Every call gives whole seconds only. -/
theorem GivesSeconds.call {h : MessageQueueJsonHandler} (hs : GivesSeconds h) (toUnsigned : Bytes → UInt32)
    (e : JsonEvents.Event) : GivesSeconds (h.call toUnsigned e).1 := by
  cases e with
  | number minus magnitude => exact hs.putUInt _
  | double text => exact hs.putUInt _
  | string text => exact hs.string text
  | endObject =>
    rw [MessageQueueJsonHandler.call,MessageQueueJsonHandler.endObject]
    dsimp only
    split
    · refine ⟨rfl,fun key hk => ?_⟩
      change key∈h.service.storage.insert h.entry.key h.entry.value at hk
      rw [Std.TreeMap.mem_insert,Std.compare_eq_iff_eq] at hk
      rcases hk with rfl|hold
      · exact hs.current
      · exact hs.stored key hold
    · exact hs
  | null => exact hs
  | bool value => exact hs
  | startObject => exact hs.congr rfl rfl
  | key text => exact hs.congr rfl rfl
  | startArray => exact hs
  | endArray => exact hs

/-- Keys of a loaded file are whole seconds. -/
theorem load_wholeSeconds (platform : Platform) (s : JsonFileReceiverQueueService) (file : Option Bytes) :
    ∀ key∈(load platform s file).1.storage,key.time.tvUsec=0 := by
  cases file with
  | none => exact fun key hk => absurd hk Std.TreeMap.not_mem_emptyc
  | some text =>
    have hnew : GivesSeconds (.new platform.addr platform.fport (clear s)) :=
      ⟨rfl,fun key hk => absurd hk Std.TreeMap.not_mem_emptyc⟩
    exact GivesSeconds.stored (parse_invariant (fun h e (hs : GivesSeconds h) => hs.call platform.toUnsigned e) hnew
      platform.tooBig text)

/-- What is taken comes under its time and the next number. -/
theorem step_taken {s : History} {e : Event} {time : Timeval} (h : takenAt s.service e=some time) :
    ∃ value : ReceiverQueueValue,(step s e).loaded=s.loaded ∧ (step s e).service.cnt=s.service.cnt+1 ∧
      (step s e).service.storage=s.service.storage.insert ⟨time,s.service.cnt+1⟩ value := by
  cases e with
  | push call =>
    rw [takenAt] at h
    obtain ⟨hdropped,-⟩|⟨haccepted,fcnts,hs⟩ := pushStep_cases s.service call
    · rw [hdropped] at h
      cases h
    · rw [haccepted] at h
      obtain rfl := Option.some.inj h
      rw [step,hs]
      exact ⟨_,rfl,rfl,rfl⟩
  | pushForce fport deviceId payload received =>
    obtain rfl := Option.some.inj h
    exact ⟨_,rfl,rfl,rfl⟩
  | load platform file => cases h
  | pop dbId => cases h
  | setDbs values => cases h

/-- Without a file and a new entry the count stays and there are no new keys. -/
theorem step_other {s : History} {e : Event} (h : takenAt s.service e=none) :
    (∃ platform file,e=.load platform file) ∨ (step s e).loaded=s.loaded ∧ (step s e).service.cnt=s.service.cnt ∧
      ∀ key∈(step s e).service.storage,key∈s.service.storage := by
  cases e with
  | load platform file => exact .inl ⟨platform,file,rfl⟩
  | push call =>
    rw [takenAt] at h
    obtain ⟨-,hs⟩|⟨haccepted,-⟩ := pushStep_cases s.service call
    · rw [step,hs]
      exact .inr ⟨rfl,rfl,fun _ hk => hk⟩
    · rw [haccepted] at h
      cases h
  | pushForce fport deviceId payload time => cases h
  | pop dbId =>
    rw [step]
    obtain ⟨storage,hs,hsame⟩|⟨entry,hhead,-,hs⟩ := pop_cases s.service dbId
    · rw [hs]
      refine .inr ⟨rfl,rfl,fun key hk => ?_⟩
      rw [Std.TreeMap.mem_iff_isSome_getElem?] at hk ⊢
      rwa [← hsame]
    · rw [hs]
      exact .inr ⟨rfl,rfl,fun key hk => mem_popped hhead hk⟩
  | setDbs values => exact .inr ⟨rfl,rfl,fun key hk => mem_clearDbs hk⟩

/-- Every event keeps what is known of the keys. -/
theorem Counted.step {s : History} (h : Counted s) (e : Event) : Counted (step s e) := by
  cases htaken : takenAt s.service e with
  | some time =>
    obtain ⟨value,hloaded,hcnt,hstorage⟩ := step_taken htaken
    refine ⟨hloaded ▸ h.wholeSeconds,fun key hk => ?_⟩
    rw [hstorage,Std.TreeMap.mem_insert,Std.compare_eq_iff_eq] at hk
    rw [hloaded,hcnt]
    rcases hk with rfl|hold
    · exact .inr le_rfl
    · exact (h.numbered key hold).imp_right fun hle => by omega
  | none =>
    obtain ⟨platform,file,rfl⟩|⟨hloaded,hcnt,hkeys⟩ := step_other htaken
    · refine ⟨fun key hk => load_wholeSeconds platform s.service file key (Std.TreeMap.mem_keys.mp hk),
        fun key hk => .inl (Std.TreeMap.mem_keys.mpr hk)⟩
    · refine ⟨hloaded ▸ h.wholeSeconds,fun key hk => ?_⟩
      rw [hloaded,hcnt]
      exact h.numbered key (hkeys key hk)

/-- A new service. -/
theorem Counted.fresh (dbs : List ℤ) : Counted (.fresh dbs) :=
  ⟨fun _ hk => absurd hk List.not_mem_nil,fun _ hk => absurd hk Std.TreeMap.not_mem_emptyc⟩

/-- An entry is added as one exactly when it stays clear of the loaded ones. -/
theorem addsOne_iff {s : History} (h : Counted s) (e : Event) : AddsOne s e ↔ ClearOfLoaded s e := by
  refine forall_congr' fun time => ?_
  constructor
  · intro hadds htaken hwhole key hk hstored ⟨hsec,hid⟩
    obtain ⟨value,-,-,hstorage⟩ := step_taken htaken
    obtain ⟨new,hnew,hthere,hsame⟩ := hadds htaken
    rw [hstorage,Std.TreeMap.mem_insert,Std.compare_eq_iff_eq] at hthere
    have hkey : key=new := by
      obtain rfl := hthere.resolve_right hnew
      have husec := h.wholeSeconds key hk
      obtain ⟨⟨sec,usec⟩,id⟩ := key
      obtain ⟨tvSec,tvUsec⟩ := time
      simp only at hsec hid husec hwhole
      rw [hsec,hid,husec,hwhole]
    exact hnew (hkey ▸ hstored)
  · intro hclear htaken
    obtain ⟨value,-,-,hstorage⟩ := step_taken htaken
    refine ⟨⟨time,s.service.cnt+1⟩,fun hstored => ?_,?_,fun other hne => ?_⟩
    · rcases h.numbered _ hstored with hloaded|hle
      · exact hclear htaken (h.wholeSeconds _ hloaded) _ hloaded hstored ⟨rfl,rfl⟩
      · simp only at hle
        omega
    · rw [hstorage]
      exact Std.TreeMap.mem_insert_self
    · rw [hstorage,getElem?_insert,if_neg hne.symm]

/-- In a run from a new service every entry that is taken is added as one exactly
when entries of whole seconds stay clear of the loaded ones. -/
theorem addsOne_run_iff (dbs : List ℤ) (events : List Event) :
    Along step AddsOne (.fresh dbs) events ↔ Along step ClearOfLoaded (.fresh dbs) events := by
  have hcounted : ∀ before event after,events=before++event::after → Counted (run step (.fresh dbs) before) :=
    fun before _ _ _ => run_invariant (fun e _ _ ht => ht.step e) (Counted.fresh dbs)
  constructor
  · exact fun h before event after hs => (addsOne_iff (hcounted before event after hs) event).mp (h before event after hs)
  · exact fun h before event after hs => (addsOne_iff (hcounted before event after hs) event).mpr (h before event after hs)

/-- A file with one entry of second 5 and number 1. -/
def oneEntryFile : Bytes := ascii "[\x7b\"time\":5,\"id\":1,\"payload\":\"AQID\",\"dbids\":[1]\x7d]"

/-- The first payload that is pushed behind this file, at the same second, takes
the place of the loaded one. -/
theorem loadedEntry_replaced : ¬∀ dbs events,Along step AddsOne (.fresh dbs) events := by
  intro h
  have hadds := h [1] [.load ⟨fun _ => false,fun _ => 0,0,0⟩ (some oneEntryFile),
    .pushForce 1 DeviceId.empty [9] ⟨5,0⟩] [.load ⟨fun _ => false,fun _ => 0,0,0⟩ (some oneEntryFile)]
      (.pushForce 1 DeviceId.empty [9] ⟨5,0⟩) [] rfl
  obtain ⟨key,hnew,hthere,-⟩ := hadds ⟨5,0⟩ rfl
  rw [run_cons,run_nil] at hnew hthere
  have hkeys : (step (step (.fresh [1]) (.load ⟨fun _ => false,fun _ => 0,0,0⟩ (some oneEntryFile)))
      (.pushForce 1 DeviceId.empty [9] ⟨5,0⟩)).service.storage.keys=
        (step (.fresh [1]) (.load ⟨fun _ => false,fun _ => 0,0,0⟩ (some oneEntryFile))).service.storage.keys := by
    decide +kernel
  rw [← Std.TreeMap.mem_keys] at hnew hthere
  exact hnew (hkeys ▸ hthere)

end LorawanServer.QueueCollision
