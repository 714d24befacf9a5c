import LorawanServer.Datagram
import LorawanServer.StepRun

/-!
# Statistics on their way to a file

`put` and `save` of the three services that append statistics to a file, step by
step, for any number of threads. A save copies and clears the list before it
appends the copy, and what an append that fails had copied is in no place any
more. That is the only way to lose a record, and none is written twice.
-/

namespace LorawanServer.StatFile

open CppRuntime Records StepRun
open Datagram (GatewayStat)

/-- What the three services do not have in common. -/
structure StatServiceFile (ρ : Type*) where
  /-- Length of the list from which `put` saves first. -/
  maxBufferSize : ℕ
  /-- The text of a record. -/
  toLine : ρ → Bytes

/-- `MAX_DEVICE_STAT_BUFFER_SIZE`. -/
abbrev MAX_DEVICE_STAT_BUFFER_SIZE : ℕ := 1024

/-- `MAX_GW_STAT_BUFFER_SIZE`. -/
abbrev MAX_GW_STAT_BUFFER_SIZE : ℕ := 1024

/-- The class `DeviceStatServiceFileJson`; the text of a packet is an argument. -/
def DeviceStatServiceFileJson (toJsonString : SemtechUDPPacket → Bytes) : StatServiceFile SemtechUDPPacket :=
  ⟨MAX_DEVICE_STAT_BUFFER_SIZE,toJsonString⟩

/-- The class `DeviceStatServiceFileCsv`. -/
def DeviceStatServiceFileCsv (toCsvString : SemtechUDPPacket → Bytes) : StatServiceFile SemtechUDPPacket :=
  ⟨MAX_DEVICE_STAT_BUFFER_SIZE,toCsvString⟩

/-- The class `GatewayStatServiceFile`. -/
def GatewayStatServiceFile (toJsonString : GatewayStat → Bytes) : StatServiceFile GatewayStat :=
  ⟨MAX_GW_STAT_BUFFER_SIZE,toJsonString⟩

/-- Where a thread stands between two of its steps. A save that `put` started has
a record to push afterwards. -/
inductive Stage (ρ : Type*) where
  /-- Outside `put` and `save`. -/
  | idle
  /-- Before the test for an empty list. -/
  | testing (after : Option ρ)
  /-- Before the list is copied and cleared. -/
  | taking (after : Option ρ)
  /-- Before the copy is appended to the file. -/
  | appending (copyList : List ρ) (after : Option ρ)
  /-- Before `push_back`. -/
  | pushing (record : ρ)

variable {τ ρ : Type*} [DecidableEq τ]

/-- What a thread does behind its save. -/
def Stage.behind : Option ρ → Stage ρ
  | none => .idle
  | some record => .pushing record

/-- The copy that a thread holds. -/
def Stage.held : Stage ρ → List ρ
  | .appending copyList _ => copyList
  | _ => []

/-- The thread is within a save. -/
def Stage.saves : Stage ρ → Bool
  | .testing _ | .taking _ | .appending _ _ => true
  | .idle | .pushing _ => false

/-- A service with its threads and its file, and a record of what became of the
statistics. -/
structure Statistics (τ ρ : Type*) where
  /-- The list. -/
  list : List ρ
  /-- The file. -/
  file : Bytes
  /-- Where the threads stand. -/
  stage : τ → Stage ρ
  /-- Records that were put. -/
  stored : List ρ
  /-- Records that were appended. -/
  filed : List ρ
  /-- Records of the appends that failed. -/
  dropped : List ρ

/-- A new service with a file. -/
def Statistics.start (file : Bytes) : Statistics τ ρ := ⟨[],file,fun _ => .idle,[],[],[]⟩

/-- One step of one thread. -/
inductive Event (τ ρ : Type*) where
  /-- A thread calls `save`. -/
  | save (thread : τ)
  /-- A thread calls `put`. -/
  | put (thread : τ) (record : ρ)
  /-- The next step of a thread, with what `append2file` returns. -/
  | advance (thread : τ) (appended : Bool)

/-- A thread goes on to a stage. -/
def Statistics.goTo (s : Statistics τ ρ) (thread : τ) (stage : Stage ρ) : Statistics τ ρ :=
  {s with stage := Function.update s.stage thread stage}

/-- The lines of some records. -/
def text (service : StatServiceFile ρ) (records : List ρ) : Bytes :=
  records.flatMap fun record => service.toLine record++[10]

/-- The next step of a thread. -/
def advance (service : StatServiceFile ρ) (s : Statistics τ ρ) (thread : τ) (appended : Bool) : Statistics τ ρ :=
  match s.stage thread with
  | .idle => s
  | .testing after => s.goTo thread (if s.list.isEmpty then .behind after else .taking after)
  | .taking after => {s.goTo thread (.appending s.list after) with list := []}
  | .appending copyList after =>
    if appended then
      {s.goTo thread (.behind after) with file := s.file++text service copyList,filed := s.filed++copyList}
    else {s.goTo thread (.behind after) with dropped := s.dropped++copyList}
  | .pushing record => {s.goTo thread .idle with list := s.list++[record],stored := s.stored++[record]}

/-- One step. A thread calls one function at a time. -/
def step (service : StatServiceFile ρ) (s : Statistics τ ρ) : Event τ ρ → Statistics τ ρ
  | .save thread =>
    match s.stage thread with
    | .idle => s.goTo thread (.testing none)
    | _ => s
  | .put thread record =>
    match s.stage thread with
    | .idle => s.goTo thread (if service.maxBufferSize<s.list.length then .testing (some record) else .pushing record)
    | _ => s
  | .advance thread appended => advance service s thread appended

/-- No thread is within a save. -/
def NoSave (s : Statistics τ ρ) : Prop := ∀ thread,(s.stage thread).saves=false

/-- Every record that was put is in the list or in the file, once. -/
def Kept (service : StatServiceFile ρ) (file : Bytes) (s : Statistics τ ρ) : Prop :=
  s.file=file++text service s.filed ∧ (s.list++s.filed).Perm s.stored

/-- An append that fails had nothing to append. -/
def NothingDropped (s : Statistics τ ρ) : Event τ ρ → Prop
  | .advance thread false => (s.stage thread).held=[]
  | _ => True

instance (s : Statistics τ ρ) : DecidablePred (NothingDropped s)
  | .advance thread false => inferInstanceAs (Decidable ((s.stage thread).held=[]))
  | .advance _ true | .save _ | .put _ _ => .isTrue trivial

section Accounts

variable [Fintype τ]

/-- Everything that the threads hold. -/
def heldByAll (s : Statistics τ ρ) : Multiset ρ := ∑ thread,((s.stage thread).held : Multiset ρ)

/-- A thread that goes on changes what it holds itself. -/
theorem heldByAll_goTo (s : Statistics τ ρ) (thread : τ) (stage : Stage ρ) :
    heldByAll (s.goTo thread stage)+((s.stage thread).held : Multiset ρ)=heldByAll s+(stage.held : Multiset ρ) := by
  have hothers : ∑ t∈Finset.univ.erase thread,((Function.update s.stage thread stage t).held : Multiset ρ)=
      ∑ t∈Finset.univ.erase thread,((s.stage t).held : Multiset ρ) :=
    Finset.sum_congr rfl fun t ht => by rw [Function.update_of_ne (Finset.ne_of_mem_erase ht)]
  rw [heldByAll,heldByAll,Statistics.goTo]
  dsimp only
  rw [← Finset.add_sum_erase Finset.univ _ (Finset.mem_univ thread),
    ← Finset.add_sum_erase Finset.univ (fun t => ((s.stage t).held : Multiset ρ)) (Finset.mem_univ thread),hothers,
    Function.update_self]
  abel

/-- A thread that goes on between stages in which it holds nothing. -/
theorem heldByAll_goTo_empty {s : Statistics τ ρ} {thread : τ} (h : (s.stage thread).held=[]) {stage : Stage ρ}
    (hstage : stage.held=[]) : heldByAll (s.goTo thread stage)=heldByAll s := by
  have hgo := heldByAll_goTo s thread stage
  rwa [h,hstage,Multiset.coe_nil,add_zero,add_zero] at hgo

/-- Every record that was put is in the list, in the file, in a thread, or
dropped, once; the file has the lines of its records. -/
structure Accounted (service : StatServiceFile ρ) (file : Bytes) (s : Statistics τ ρ) : Prop where
  /-- Where the records are. -/
  records : (s.stored : Multiset ρ)=s.list+s.filed+s.dropped+heldByAll s
  /-- What the file holds. -/
  lines : s.file=file++text service s.filed

/-- Nothing is held behind a save. -/
theorem held_behind (after : Option ρ) : (Stage.behind after).held=[] := by
  cases after <;> rfl

/-- A step that only goes on between stages without a copy. -/
theorem Accounted.goTo {service : StatServiceFile ρ} {file : Bytes} {s : Statistics τ ρ} (h : Accounted service file s)
    {thread : τ} (hheld : (s.stage thread).held=[]) {stage : Stage ρ} (hstage : stage.held=[]) :
    Accounted service file (s.goTo thread stage) where
  records := by
    rw [heldByAll_goTo_empty hheld hstage]
    exact h.records
  lines := h.lines

/-- Lines of an append go behind the others. -/
theorem text_append (service : StatServiceFile ρ) (first second : List ρ) :
    text service (first++second)=text service first++text service second := List.flatMap_append

/-- The next step of a thread keeps the accounts. -/
theorem Accounted.advance {service : StatServiceFile ρ} {file : Bytes} {s : Statistics τ ρ}
    (h : Accounted service file s) (thread : τ) (appended : Bool) :
    Accounted service file (advance service s thread appended) := by
  have hrecords := h.records
  cases hstage : s.stage thread with
  | idle =>
    rw [StatFile.advance,hstage]
    exact h
  | testing after =>
    rw [StatFile.advance,hstage]
    refine h.goTo (by rw [hstage]; rfl) ?_
    split
    · exact held_behind after
    · rfl
  | taking after =>
    have hgo := heldByAll_goTo s thread (.appending s.list after)
    rw [hstage] at hgo
    change heldByAll (s.goTo thread (.appending s.list after))+([] : List ρ)=heldByAll s+(s.list : Multiset ρ) at hgo
    rw [Multiset.coe_nil,add_zero] at hgo
    rw [StatFile.advance,hstage]
    refine ⟨?_,h.lines⟩
    change (s.stored : Multiset ρ)=([] : List ρ)+s.filed+s.dropped+heldByAll (s.goTo thread (.appending s.list after))
    rw [hgo,hrecords,Multiset.coe_nil]
    abel
  | appending copyList after =>
    have hgo := heldByAll_goTo s thread (.behind after)
    rw [hstage,held_behind,Multiset.coe_nil,add_zero,Stage.held] at hgo
    rw [StatFile.advance,hstage]
    dsimp only
    split
    · refine ⟨?_,?_⟩
      · change (s.stored : Multiset ρ)=s.list+((s.filed++copyList : List ρ) : Multiset ρ)+s.dropped+
          heldByAll (s.goTo thread (.behind after))
        rw [hrecords,← hgo,← Multiset.coe_add]
        abel
      · change s.file++text service copyList=file++text service (s.filed++copyList)
        rw [h.lines,text_append,List.append_assoc]
    · refine ⟨?_,h.lines⟩
      change (s.stored : Multiset ρ)=s.list+s.filed+((s.dropped++copyList : List ρ) : Multiset ρ)+
        heldByAll (s.goTo thread (.behind after))
      rw [hrecords,← hgo,← Multiset.coe_add]
      abel
  | pushing record =>
    have hgo : heldByAll (s.goTo thread .idle)=heldByAll s := heldByAll_goTo_empty (by rw [hstage]; rfl) rfl
    rw [StatFile.advance,hstage]
    refine ⟨?_,h.lines⟩
    change ((s.stored++[record] : List ρ) : Multiset ρ)=((s.list++[record] : List ρ) : Multiset ρ)+s.filed+s.dropped+
      heldByAll (s.goTo thread .idle)
    rw [hgo,← Multiset.coe_add,← Multiset.coe_add,hrecords]
    abel

/-- Every step keeps the accounts. -/
theorem Accounted.step {service : StatServiceFile ρ} {file : Bytes} {s : Statistics τ ρ} (h : Accounted service file s)
    (e : Event τ ρ) : Accounted service file (step service s e) := by
  cases e with
  | save thread =>
    cases hstage : s.stage thread with
    | idle =>
      rw [StatFile.step,hstage]
      exact h.goTo (by rw [hstage]; rfl) rfl
    | _ =>
      rw [StatFile.step,hstage]
      exact h
  | put thread record =>
    cases hstage : s.stage thread with
    | idle =>
      rw [StatFile.step,hstage]
      refine h.goTo (by rw [hstage]; rfl) ?_
      split <;> rfl
    | _ =>
      rw [StatFile.step,hstage]
      exact h
  | advance thread appended => exact h.advance thread appended

omit [DecidableEq τ] in
/-- A new service. -/
theorem Accounted.start (service : StatServiceFile ρ) (file : Bytes) :
    Accounted service file (.start file : Statistics τ ρ) where
  records := by
    have hnone : heldByAll (.start file : Statistics τ ρ)=0 := Finset.sum_eq_zero fun _ _ => rfl
    rw [hnone]
    rfl
  lines := (List.append_nil file).symm

omit [DecidableEq τ] in
/-- Outside saves every record is kept exactly when none was dropped. -/
theorem Accounted.kept_iff {service : StatServiceFile ρ} {file : Bytes} {s : Statistics τ ρ}
    (h : Accounted service file s) (hsave : NoSave s) : Kept service file s ↔ s.dropped=[] := by
  have hnone : heldByAll s=0 := Finset.sum_eq_zero fun thread _ => by
    have hthread := hsave thread
    cases hstage : s.stage thread with
    | appending copyList after =>
      rw [hstage] at hthread
      cases hthread
    | _ => rfl
  have hrecords := h.records
  rw [hnone,add_zero,Multiset.coe_add] at hrecords
  rw [Kept,and_iff_right h.lines,← Multiset.coe_eq_coe,hrecords,left_eq_add,Multiset.coe_eq_zero]

end Accounts

omit [DecidableEq τ] in
/-- A step outside an append drops nothing. -/
theorem nothingDropped_of_held {s : Statistics τ ρ} {thread : τ} (h : (s.stage thread).held=[]) (appended : Bool) :
    NothingDropped s (.advance thread appended) := by
  cases appended with
  | true => trivial
  | false => exact h

/-- What was dropped stays dropped, and a failed append drops its copy. -/
theorem dropped_step_iff (service : StatServiceFile ρ) (s : Statistics τ ρ) (e : Event τ ρ) :
    (step service s e).dropped=[] ↔ s.dropped=[] ∧ NothingDropped s e := by
  cases e with
  | save thread =>
    refine Iff.trans ?_ (and_iff_left trivial).symm
    rw [step]
    split <;> rfl
  | put thread record =>
    refine Iff.trans ?_ (and_iff_left trivial).symm
    rw [step]
    split <;> rfl
  | advance thread appended =>
    rw [step]
    cases hstage : s.stage thread with
    | appending copyList after =>
      rw [advance,hstage]
      cases appended with
      | true => exact (and_iff_left trivial).symm
      | false =>
        rw [NothingDropped,hstage]
        exact List.append_eq_nil_iff
    | idle =>
      rw [and_iff_left (nothingDropped_of_held (by rw [hstage]; rfl) appended),advance,hstage]
    | testing after | taking after | pushing record =>
      rw [and_iff_left (nothingDropped_of_held (by rw [hstage]; rfl) appended),advance,hstage]
      rfl

/-- A run drops nothing exactly when no append fails that has something to
append. -/
theorem dropped_run_iff (service : StatServiceFile ρ) (s : Statistics τ ρ) (events : List (Event τ ρ)) :
    (run (step service) s events).dropped=[] ↔ s.dropped=[] ∧ Along (step service) NothingDropped s events := by
  induction events generalizing s with
  | nil => exact (and_iff_left (along_nil _ _ _)).symm
  | cons event events ih => rw [run_cons,ih,dropped_step_iff,along_cons_iff,and_assoc]

/-- At a point without a save every record that was put is in the list or in the
file, once, exactly when every append so far that failed had nothing to append. -/
theorem kept_iff_nothingDropped [Fintype τ] (service : StatServiceFile ρ) (file : Bytes) (events : List (Event τ ρ))
    (hsave : NoSave (run (step service) (.start file) events)) :
    Kept service file (run (step service) (.start file) events) ↔
      Along (step service) NothingDropped (.start file) events := by
  have haccounts : Accounted service file (run (step service) (.start file) events) :=
    run_invariant (fun e _ _ h => h.step e) (Accounted.start service file)
  rw [haccounts.kept_iff hsave,dropped_run_iff]
  exact and_iff_right rfl

/-- Two records go into the list, and both threads save at the same time. -/
def twoSaves (record : ρ) (appended : Bool) : List (Event Bool ρ) :=
  [.put true record,.advance true true,.put true record,.advance true true,.save true,.save false,.advance true true,
    .advance false true,.advance true true,.advance false true,.advance true appended,.advance false false]

/-- The append that fails has nothing to append. -/
theorem kept_twoSaves : Kept (DeviceStatServiceFileJson fun _ => []) []
    (run (step (DeviceStatServiceFileJson fun _ => [])) (.start []) (twoSaves SemtechUDPPacket.empty true)) := by
  refine (kept_iff_nothingDropped (DeviceStatServiceFileJson fun _ => []) [] (twoSaves SemtechUDPPacket.empty true)
    fun thread => ?_).mpr ?_
  · cases thread <;> rfl
  · simp only [twoSaves,along_cons_iff,along_nil,and_true]
    decide

/-- An append that fails drops both records. -/
theorem failedAppend_drops : ¬∀ toJsonString file (events : List (Event Bool SemtechUDPPacket)),
    NoSave (run (step (DeviceStatServiceFileJson toJsonString)) (.start file) events) →
      Kept (DeviceStatServiceFileJson toJsonString) file
        (run (step (DeviceStatServiceFileJson toJsonString)) (.start file) events) := by
  intro h
  have hkept := h (fun _ => []) [] (twoSaves SemtechUDPPacket.empty false) fun thread => by cases thread <;> rfl
  have hlength := hkept.2.length_eq
  cases hlength

end LorawanServer.StatFile
