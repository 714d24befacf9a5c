import LorawanServer.PacketHandler
import LorawanServer.StoredFirst

/-!
# With and without a log

Two runs of the packet handler and of a pass over the databases, one with a log
and one without. The handler calls the log without a test for most packets of
known devices, and queues control packets in a branch of the log; a pass leaves
a database that does not open out only in a branch of the log.
-/

namespace LorawanServer.LoggingEffects

open CppRuntime Records PacketHandler DatabasePass StepRun
open ReceiverQueue (JsonFileReceiverQueueService peek)

/-- The handler with or without a log. -/
def withLog (processor : LoraPacketProcessor) (onLog : Bool) : LoraPacketProcessor :=
  {processor with onLog := onLog}

/-- Packet queue, receiver queue and history after a packet. -/
def putEffect (processor : LoraPacketProcessor) (services : Services) (time : Timeval) (packet : SemtechUDPPacket) :
    Except Fault Services := (put processor services time packet).map Prod.fst

/-- The calls of `insert`. -/
def inserts (calls : List Call) : List Call := calls.filter fun
  | .insert _ _ => true
  | .prepare _ => false

/-- The queue after a pass, and its calls of `insert`. -/
def passEffect (onLog : Bool) (dbs : List ConfigDatabase) (outcome : ℕ → Outcome)
    (service : JsonFileReceiverQueueService) : JsonFileReceiverQueueService×List Call :=
  let pass := put2databases onLog dbs outcome service []
  (pass.service,inserts pass.calls)

/-- A packet whose way does not touch the log: there is no identity service, the
device is unknown, or it is a control packet of a device without the right. -/
def UntouchedByLog (processor : LoraPacketProcessor) (packet : SemtechUDPPacket) : Prop :=
  ∀ identityService∈processor.identityService,∀ id,
    identityService.get packet.header.header.devaddr=.ok id →
      processor.reservedFPort≠0 ∧ packet.header.fport=processor.reservedFPort ∧
        identityService.canControlService packet.header.header.devaddr=false

/-- An active database that the first entry names opens. -/
def Opens (s : Pass) (v : Visit) : Prop :=
  v.config.active=true → ∀ entry,peek s.service v.config.id=.ok entry → v.outcome.openCode=0

/-- Neither the handler nor a pass depends on the log. -/
def LogIndependent (processor : LoraPacketProcessor) (services : Services) (time : Timeval) (packet : SemtechUDPPacket)
    (dbs : List ConfigDatabase) (outcome : ℕ → Outcome) (service : JsonFileReceiverQueueService) : Prop :=
  putEffect (withLog processor true) services time packet=putEffect (withLog processor false) services time packet ∧
    passEffect true dbs outcome service=passEffect false dbs outcome service

/-- A control packet is queued with the right and a log, or nothing happens. -/
theorem putIdentified_control (processor : LoraPacketProcessor) {packet : SemtechUDPPacket}
    (hp : processor.reservedFPort≠0 ∧ packet.header.fport=processor.reservedFPort)
    (identityService : IdentityService) (services : Services) (time : Timeval) :
    putIdentified processor identityService services time packet=
      if identityService.canControlService packet.header.header.devaddr=true ∧ processor.onLog=true then
        .ok (push services .controlNs (incTimeval time 0 defTimeoutUs) packet,packet)
      else .ok (services,packet) := by
  rw [putIdentified,if_pos hp]
  by_cases hc : identityService.canControlService packet.header.header.devaddr=true ∧ processor.onLog=true
  · rw [if_pos hc,if_pos hc,enqueueControl,log,if_pos hc.2]
    rfl
  · rw [if_neg hc,if_neg hc]
    rfl

/-- Every other packet of a known device goes through exactly with a log. -/
theorem putIdentified_returns (processor : LoraPacketProcessor) {packet : SemtechUDPPacket}
    (hp : ¬(processor.reservedFPort≠0 ∧ packet.header.fport=processor.reservedFPort))
    (identityService : IdentityService) (services : Services) (time : Timeval) :
    Returns (putIdentified processor identityService services time packet) ↔ processor.onLog=true := by
  unfold putIdentified
  rw [if_neg hp]
  dsimp only
  cases hlog : processor.onLog with
  | true =>
    refine iff_of_true ?_ rfl
    split
    · rw [enqueueMAC,log,hlog]
      exact ⟨_,rfl⟩
    · rw [putMACRequests,log,hlog]
      exact ⟨_,rfl⟩
  | false =>
    refine iff_of_false ?_ Bool.false_ne_true
    split
    · rw [enqueueMAC,log,hlog]
      exact not_returns_error _
    · rw [putMACRequests,log,hlog]
      exact not_returns_error _

/-- The packet of a known device has the same effect with and without a log
exactly when it is a control packet without the right. -/
theorem putIdentified_log_iff (processor : LoraPacketProcessor) (identityService : IdentityService)
    (services : Services) (time : Timeval) (packet : SemtechUDPPacket) :
    (putIdentified (withLog processor true) identityService services time packet).map Prod.fst=
        (putIdentified (withLog processor false) identityService services time packet).map Prod.fst ↔
      processor.reservedFPort≠0 ∧ packet.header.fport=processor.reservedFPort ∧
        identityService.canControlService packet.header.header.devaddr=false := by
  by_cases hp : processor.reservedFPort≠0 ∧ packet.header.fport=processor.reservedFPort
  · rw [putIdentified_control (withLog processor true) hp,
      putIdentified_control (withLog processor false) hp,
      if_neg fun h : _ ∧ (withLog processor false).onLog=true => Bool.false_ne_true h.2]
    cases hc : identityService.canControlService packet.header.header.devaddr with
    | true =>
      refine iff_of_false (fun h => ?_) fun h => Bool.noConfusion h.2.2
      have hqueue := congrArg (fun s : Services => s.queue.length) (Except.ok.inj h)
      simp [push] at hqueue
    | false => exact iff_of_true rfl ⟨hp.1,hp.2,rfl⟩
  · refine iff_of_false (fun h => ?_) fun h => hp ⟨h.1,h.2.1⟩
    obtain ⟨behind,hwith⟩ := (putIdentified_returns (withLog processor true) hp identityService services
      time).mpr rfl
    have hwithout := mt (putIdentified_returns (withLog processor false) hp identityService services
      time).mp Bool.false_ne_true
    rw [hwith] at h
    cases hrun : putIdentified (withLog processor false) identityService services time packet with
    | ok later => exact hwithout ⟨later,hrun⟩
    | error fault =>
      rw [hrun] at h
      cases h

/-- A packet has the same effect with and without a log exactly when its way
does not touch the log. -/
theorem putEffect_log_iff (processor : LoraPacketProcessor) (services : Services) (time : Timeval)
    (packet : SemtechUDPPacket) :
    putEffect (withLog processor true) services time packet=putEffect (withLog processor false) services time packet ↔
      UntouchedByLog processor packet := by
  rw [putEffect,putEffect,put,put,UntouchedByLog]
  dsimp only [withLog]
  cases processor.identityService with
  | none => exact iff_of_true rfl fun _ h => absurd h (Option.not_mem_none _)
  | some identityService =>
    simp only [Option.mem_some_iff,forall_eq']
    cases hget : identityService.get packet.header.header.devaddr with
    | error code => exact iff_of_true rfl fun _ h => nomatch h
    | ok id =>
      have hmap : ∀ x : Except Fault (Services×SemtechUDPPacket),
          (x >>= fun r => pure (r.1,r.2,LORA_OK)).map Prod.fst=x.map Prod.fst := by
        intro x
        cases x <;> rfl
      have hiff := putIdentified_log_iff processor identityService services time {packet with devId := id}
      rw [← hmap,← hmap] at hiff
      exact hiff.trans ⟨fun h _ _ => h,fun h => h id rfl⟩

/-- The insertions into one place of the configuration. -/
def insertionsAt (seqno : ℕ) (calls : List Call) : ℕ := calls.countP fun
  | .insert place _ => place=seqno
  | .prepare _ => false

/-- Preparations do not count. -/
theorem insertionsAt_inserts (seqno : ℕ) (calls : List Call) :
    insertionsAt seqno (inserts calls)=insertionsAt seqno calls := by
  rw [insertionsAt,inserts,List.countP_filter]
  refine List.countP_congr fun call _ => ?_
  cases call <;> simp

/-- A visit inserts into its own place only. -/
theorem insertionsAt_insertCalls (s : Pass) (place : ℕ) (entry : ReceiverQueue.ReceiverQueueEntry) (seqno : ℕ) :
    insertionsAt seqno (insertCalls s place entry)=insertionsAt seqno s.calls+if place=seqno then 1 else 0 := by
  rw [insertCalls]
  cases s.prepared <;> simp [insertionsAt,List.countP_cons]

/-- Visits to other places do not insert into this one. -/
theorem insertionsAt_run (onLog : Bool) {seqno : ℕ} {vs : List Visit} (h : ∀ v∈vs,v.seqno≠seqno) (s : Pass) :
    insertionsAt seqno (run (visit onLog) s vs).calls=insertionsAt seqno s.calls := by
  refine @run_invariant _ _ (visit onLog) (fun t => insertionsAt seqno t.calls=insertionsAt seqno s.calls) vs
    (fun v hv t ht => ?_) s rfl
  obtain ⟨hsame,-⟩|⟨entry,-,⟨-,hvisit⟩|⟨-,-,hvisit⟩⟩ := visit_cases onLog t v
  · rw [hsame,ht]
  · rw [hvisit,ht]
  · rw [hvisit,insertionsAt_insertCalls,if_neg (h v hv),ht,Nat.add_zero]

/-- A database that opens is visited in the same way with and without a log. -/
theorem visit_of_opens {s : Pass} {v : Visit} (h : Opens s v) : visit true s v=visit false s v := by
  rw [visit,visit]
  cases hpeek : peek s.service v.config.id with
  | error code => rfl
  | ok entry =>
    cases hactive : v.config.active with
    | false => rfl
    | true =>
      have hopen := h hactive entry hpeek
      simp [hopen]

/-- Two runs over places that are all different agree exactly when every
database that is asked opens. -/
theorem run_log_iff {vs : List Visit} (hd : (vs.map Visit.seqno).Nodup) (s : Pass) :
    (run (visit true) s vs).service=(run (visit false) s vs).service ∧
        inserts (run (visit true) s vs).calls=inserts (run (visit false) s vs).calls ↔
      Along (visit true) Opens s vs := by
  induction vs generalizing s with
  | nil => exact iff_of_true ⟨rfl,rfl⟩ (along_nil _ _ _)
  | cons v vs ih =>
    obtain ⟨hnew,hrest⟩ := List.nodup_cons.mp hd
    rw [along_cons_iff,run_cons,run_cons]
    by_cases hopen : Opens s v
    · rw [← visit_of_opens hopen,ih hrest]
      exact (and_iff_right hopen).symm
    · -- with a log the database is left out, without one it gets the entry
      refine iff_of_false (fun heq => hopen fun hactive entry hpeek => ?_) fun h => hopen h.1
      by_contra hcode
      have hother : ∀ w∈vs,w.seqno≠v.seqno := fun w hw he => hnew (List.mem_map.mpr ⟨w,hw,he⟩)
      have hwith : visit true s v=s := by
        rw [visit,hpeek]
        simp [hactive,hcode]
      have hwithout : (visit false s v).calls=insertCalls s v.seqno entry := by
        rw [visit,hpeek]
        simp [hactive]
      have hcount := congrArg (insertionsAt v.seqno) heq.2
      rw [insertionsAt_inserts,insertionsAt_inserts,insertionsAt_run true hother,insertionsAt_run false hother,hwith,
        hwithout,insertionsAt_insertCalls,if_pos rfl] at hcount
      omega

/-- Every database has its own place. -/
theorem visits_distinct (dbs : List ConfigDatabase) (outcome : ℕ → Outcome) :
    ((visits dbs outcome).map Visit.seqno).Nodup := by
  have hplaces : (visits dbs outcome).map Visit.seqno=List.range dbs.length := by
    rw [visits,List.map_map]
    change dbs.zipIdx.map Prod.snd=_
    rw [List.zipIdx_map_snd]
    exact List.range_eq_range'.symm
  rw [hplaces]
  exact List.nodup_range

/-- The log makes no difference exactly for packets whose way does not touch it
and for passes whose databases open. -/
theorem logIndependent_iff (processor : LoraPacketProcessor) (services : Services) (time : Timeval)
    (packet : SemtechUDPPacket) (dbs : List ConfigDatabase) (outcome : ℕ → Outcome)
    (service : JsonFileReceiverQueueService) :
    LogIndependent processor services time packet dbs outcome service ↔
      UntouchedByLog processor packet ∧ Along (visit true) Opens (start service []) (visits dbs outcome) := by
  refine and_congr (putEffect_log_iff processor services time packet) ?_
  rw [← run_log_iff (visits_distinct dbs outcome)]
  exact Prod.mk.injEq .. ▸ Iff.rfl

/-- A database that does not open gets the payload when there is no log, and
does not when there is one. -/
theorem failedOpen_logged : ¬∀ processor services time packet dbs outcome service,
    LogIndependent processor services time packet dbs outcome service := by
  intro h
  have hpass := (h ⟨none,none,true,true,0⟩ ⟨none,[],[]⟩ ⟨0,0⟩ SemtechUDPPacket.empty [⟨1,true⟩] (fun _ => ⟨-1,0⟩)
    StoredFirst.oneEntry).2
  have hcalls := congrArg (fun effect => effect.2.length) hpass
  revert hcalls
  decide +kernel

end LorawanServer.LoggingEffects
