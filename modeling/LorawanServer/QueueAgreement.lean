import LorawanServer.DirTxtQueue
import LorawanServer.QueueEntries
import LorawanServer.StepRun

/-!
# The queue in memory and the queue in a directory

The same calls on both queues, with one database. They hold the same payloads as
long as every call takes the same payload off both: a file is named by its
second, the directory is popped in the order of its listing and by any database,
and `setDbs` empties it.
-/

namespace LorawanServer.QueueAgreement

open CppRuntime ReceiverQueue QueueEntries StepRun
open DirTxtQueue (DirTxtReceiverQueueService DirtxtFormat FileSystem dataFileExtensions formats fileName fileContent
  filesInPath file2string loadFile firstFile)

/-- Both queues. -/
structure Queues where
  /-- The directory. -/
  dir : DirTxtReceiverQueueService
  /-- The map in memory. -/
  json : JsonFileReceiverQueueService

/-- A call on both queues. -/
inductive Event where
  /-- The database is configured. -/
  | setDbs
  /-- An entry with a payload is pushed at a second. -/
  | pushEntry (entry : ReceiverQueueEntry) (hasPayload : entry.value.payload≠[]) (t : ℤ)
  /-- The first entry is looked at. -/
  | peek
  /-- The database is taken off the first entry; the entry of the caller is filled. -/
  | pop (retval : ReceiverQueueEntry)

/-- One call. -/
def step (fs : FileSystem) (dbId : ℤ) (s : Queues) : Event → Queues
  | .setDbs => ⟨DirTxtQueue.setDbs fs s.dir [dbId],ReceiverQueue.setDbs s.json [dbId]⟩
  | .pushEntry entry _ t => ⟨DirTxtQueue.pushEntry s.dir entry t,ReceiverQueue.pushEntry s.json entry⟩
  | .peek => s
  | .pop retval => ⟨(DirTxtQueue.pop fs s.dir dbId retval).1,(ReceiverQueue.pop s.json dbId).1⟩

/-- Both queues are empty. -/
def Queues.start (writeFormat : DirtxtFormat) : Queues := ⟨.new writeFormat,.fresh []⟩

/-- Payloads and counts are the same. -/
def Agree (fs : FileSystem) (s : Queues) : Prop :=
  DirTxtQueue.payloads fs s.dir=payloads s.json ∧ DirTxtQueue.count fs s.dir=s.json.storage.size

/-- The payload in a file of the directory. -/
def payloadIn (s : DirTxtReceiverQueueService) (file : Bytes×Bytes) : Bytes := (loadFile s.writeFormat file.2).1

/-- The payload in the file of a name, if there is one. -/
def payloadUnder (s : DirTxtReceiverQueueService) (name : Bytes) : Option Bytes :=
  (s.files.find? fun file => file.1=name).map (payloadIn s)

/-- The payload in the file that is listed first. -/
def firstPayload (fs : FileSystem) (s : DirTxtReceiverQueueService) : Option Bytes :=
  (fs.listing (s.files.map Prod.fst)).head?.bind (payloadUnder s)

/-- `setDbs` finds the directory empty; a push replaces the same payload in both
queues or none; the file listed first has the payload of the first entry, which
the database leaves. -/
def TakesTheSame (fs : FileSystem) (dbId : ℤ) (s : Queues) : Event → Prop
  | .setDbs => s.dir.files=[]
  | .pushEntry entry _ t =>
    payloadUnder s.dir (fileName t s.dir.cnt s.dir.writeFormat)=payloadAt s.json entry.key
  | .peek => True
  | .pop _ => firstPayload fs s.dir=poppedPayload s.json dbId

/-- Two bags that were the same are the same again when the same was taken off
both. -/
theorem bags_eq_iff {α : Type*} {first second first' second' gone gone' added : Multiset α} (h : first=second)
    (hfirst : first'+gone=first+added) (hsecond : second'+gone'=second+added) : first'=second' ↔ gone=gone' := by
  rw [h,← hsecond] at hfirst
  constructor
  · intro he
    rw [he] at hfirst
    exact add_left_cancel hfirst
  · intro he
    rw [he] at hfirst
    exact add_right_cancel hfirst

/-- One-element bags and empty ones. -/
theorem toList_eq_iff {α : Type*} {first second : Option α} :
    (first.toList : Multiset α)=second.toList ↔ first=second := by
  refine ⟨fun h => ?_,fun h => by rw [h]⟩
  cases first <;> cases second <;> simp_all

section Directory

/-- Names are distinct, and files hold payloads in the format of the service. -/
structure Filed (s : DirTxtReceiverQueueService) : Prop where
  /-- Names. -/
  distinct : (s.files.map Prod.fst).Nodup
  /-- Files. -/
  written : ∀ file∈s.files,∃ t cnt payload,payload≠[] ∧
    file=(fileName t cnt s.writeFormat,fileContent s.writeFormat payload)

variable {s : DirTxtReceiverQueueService} (h : Filed s) (fs : FileSystem)
include h

/-- The listing of one format is the whole directory or nothing. -/
theorem Filed.filesInPath_eq (format : DirtxtFormat) : filesInPath fs s (dataFileExtensions format)=
    if format=s.writeFormat then fs.listing (s.files.map Prod.fst) else [] := by
  have hsuffix : ∀ name∈fs.listing (s.files.map Prod.fst),
      (dataFileExtensions format<:+:name ↔ format=s.writeFormat) := by
    intro name hname
    obtain ⟨file,hfile,rfl⟩ := List.mem_map.mp ((fs.listing_perm _).mem_iff.mp hname)
    obtain ⟨t,cnt,payload,-,rfl⟩ := h.written file hfile
    exact DirTxtQueue.suffix_iff t cnt s.writeFormat format
  rw [filesInPath]
  split
  · next heq => exact List.filter_eq_self.mpr fun name hname => decide_eq_true ((hsuffix name hname).mpr heq)
  · next hne =>
    refine List.filter_eq_nil_iff.mpr fun name hname hc => hne ?_
    exact (hsuffix name hname).mp (of_decide_eq_true hc)

omit h in
/-- The file of a name, where names are distinct. -/
theorem find_of_mem {files : List (Bytes×Bytes)} (hd : (files.map Prod.fst).Nodup) {file : Bytes×Bytes}
    (hfile : file∈files) : (files.find? fun other => other.1=file.1)=some file := by
  induction files with
  | nil => cases hfile
  | cons first rest ih =>
    obtain ⟨hnew,hrest⟩ := List.nodup_cons.mp hd
    rcases List.mem_cons.mp hfile with rfl|hlater
    · exact List.find?_cons_of_pos (decide_eq_true rfl)
    · have hne : first.1≠file.1 := fun he => hnew (he ▸ List.mem_map_of_mem hlater)
      rw [List.find?_cons_of_neg (by rwa [decide_eq_true_eq])]
      exact ih hrest hlater

/-- A file loads. -/
theorem Filed.loadFile_eq {file : Bytes×Bytes} (hfile : file∈s.files) :
    loadFile s.writeFormat (file2string s file.1)=(payloadIn s file,0) := by
  obtain ⟨t,cnt,payload,hne,heq⟩ := h.written file hfile
  have hcontent : file2string s file.1=file.2 := by
    rw [file2string,find_of_mem h.distinct hfile]
    rfl
  have hload := DirTxtQueue.loadFile_fileContent s.writeFormat hne
  rw [payloadIn,hcontent,heq,hload]

/-- The directory is counted in one format. -/
theorem Filed.count_eq : DirTxtQueue.count fs s=s.files.length := by
  have hlength : (fs.listing (s.files.map Prod.fst)).length=s.files.length := by
    rw [(fs.listing_perm _).length_eq,List.length_map]
  rw [DirTxtQueue.count,formats]
  simp only [List.map_cons,List.map_nil,h.filesInPath_eq fs]
  cases s.writeFormat <;> simpa using hlength

/-- The payloads of the directory are those of its files. -/
theorem Filed.payloads_eq : DirTxtQueue.payloads fs s=(s.files.map (payloadIn s) : List Bytes) := by
  have hnames : ((fs.listing (s.files.map Prod.fst)).filterMap (DirTxtQueue.payloadOf s s.writeFormat)).Perm
      (s.files.map (payloadIn s)) := by
    refine ((fs.listing_perm _).filterMap _).trans ?_
    rw [List.filterMap_map]
    refine List.Perm.of_eq ?_
    have hloads : ∀ file∈s.files,(DirTxtQueue.payloadOf s s.writeFormat∘Prod.fst) file=some (payloadIn s file) := by
      intro file hfile
      rw [Function.comp_apply,DirTxtQueue.payloadOf,h.loadFile_eq hfile]
      rfl
    rw [List.filterMap_congr hloads]
    exact congrFun List.filterMap_eq_map _
  rw [DirTxtQueue.payloads,← Multiset.coe_eq_coe.mpr hnames,formats]
  simp only [List.flatMap_cons,List.flatMap_nil,h.filesInPath_eq fs]
  cases s.writeFormat <;> simp

/-- The loop of `pop` takes the file that is listed first. -/
theorem Filed.firstFile_eq (payload : Bytes) : firstFile fs s payload formats=
    match fs.listing (s.files.map Prod.fst) with
    | [] => (payload,none)
    | name::_ => ((payloadUnder s name).getD [],some name) := by
  have hnames : ∀ name∈fs.listing (s.files.map Prod.fst),
      loadFile s.writeFormat (file2string s name)=((payloadUnder s name).getD [],0) := by
    intro name hname
    obtain ⟨file,hfile,rfl⟩ := List.mem_map.mp ((fs.listing_perm _).mem_iff.mp hname)
    rw [h.loadFile_eq hfile,payloadUnder,find_of_mem h.distinct hfile]
    rfl
  rw [formats]
  simp only [firstFile,h.filesInPath_eq fs]
  cases hlist : fs.listing (s.files.map Prod.fst) with
  | nil => simp
  | cons name rest =>
    have hload := hnames name (hlist ▸ List.mem_cons_self)
    cases hformat : s.writeFormat <;> rw [hformat] at hload <;> simp [hload]

end Directory

/-- What stays when the file of a name goes, and what was in it. -/
theorem payloads_without {files : List (Bytes×Bytes)} (hd : (files.map Prod.fst).Nodup) (value : Bytes×Bytes → Bytes)
    (name : Bytes) : (((files.filter fun file => file.1≠name).map value : List Bytes) : Multiset Bytes)+
      (((files.find? fun file => file.1=name).map value).toList : List Bytes)=(files.map value : List Bytes) := by
  induction files with
  | nil => rfl
  | cons first rest ih =>
    obtain ⟨hnew,hrest⟩ := List.nodup_cons.mp hd
    by_cases hname : first.1=name
    · have hothers : (rest.filter fun file => file.1≠name)=rest := by
        refine List.filter_eq_self.mpr fun file hfile => decide_eq_true fun he => hnew ?_
        rw [hname,← he]
        exact List.mem_map_of_mem hfile
      rw [List.filter_cons_of_neg (by simpa using hname),hothers,
        List.find?_cons_of_pos (by simpa using hname)]
      exact Multiset.coe_eq_coe.mpr (List.perm_append_singleton _ _)
    · rw [List.filter_cons_of_pos (by simpa using hname),List.find?_cons_of_neg (by simpa using hname),List.map_cons,
        List.map_cons,← Multiset.cons_coe,← Multiset.cons_coe,Multiset.cons_add,ih hrest]

/-- Files that stay are as they were. -/
theorem Filed.filter {s : DirTxtReceiverQueueService} (h : Filed s) (keep : Bytes×Bytes → Bool) :
    Filed {s with files := s.files.filter keep} where
  distinct := h.distinct.sublist (List.filter_sublist.map Prod.fst)
  written := fun file hfile => h.written file (List.mem_filter.mp hfile).1

/-- An entry that is pushed is a new file, in the place of the one of its name. -/
theorem Filed.pushEntry {s : DirTxtReceiverQueueService} (h : Filed s) {entry : ReceiverQueueEntry}
    (hne : entry.value.payload≠[]) (t : ℤ) : Filed (DirTxtQueue.pushEntry s entry t) where
  distinct := by
    rw [DirTxtQueue.pushEntry,DirTxtQueue.storeFile]
    dsimp only
    rw [List.map_append,List.nodup_append]
    refine ⟨(h.filter _).distinct,List.nodup_singleton _,fun name hname other hother he => ?_⟩
    obtain ⟨file,hfile,rfl⟩ := List.mem_map.mp hname
    obtain rfl := List.mem_singleton.mp hother
    exact of_decide_eq_true (List.mem_filter.mp hfile).2 he
  written := by
    intro file hfile
    rcases List.mem_append.mp hfile with hold|hnew
    · exact h.written file (List.mem_filter.mp hold).1
    · exact ⟨t,s.cnt,entry.value.payload,hne,List.mem_singleton.mp hnew⟩

/-- The payload comes to the directory, and what was in its file goes. -/
theorem payloads_push {s : DirTxtReceiverQueueService} (h : Filed s) (fs : FileSystem) {entry : ReceiverQueueEntry}
    (hne : entry.value.payload≠[]) (t : ℤ) : DirTxtQueue.payloads fs (DirTxtQueue.pushEntry s entry t)+
      ((payloadUnder s (fileName t s.cnt s.writeFormat)).toList : List Bytes)=
        DirTxtQueue.payloads fs s+([entry.value.payload] : List Bytes) := by
  rw [(h.pushEntry hne t).payloads_eq fs,h.payloads_eq fs,payloadUnder,
    ← payloads_without h.distinct (payloadIn s) (fileName t s.cnt s.writeFormat)]
  have hnew : payloadIn s (fileName t s.cnt s.writeFormat,fileContent s.writeFormat entry.value.payload)=
      entry.value.payload := congrArg Prod.fst (DirTxtQueue.loadFile_fileContent s.writeFormat hne)
  have hfiles : (DirTxtQueue.pushEntry s entry t).files.map (payloadIn (DirTxtQueue.pushEntry s entry t))=
      ((s.files.filter fun file => file.1≠fileName t s.cnt s.writeFormat)++
        [(fileName t s.cnt s.writeFormat,fileContent s.writeFormat entry.value.payload)]).map (payloadIn s) := rfl
  rw [hfiles,List.map_append,List.map_singleton,hnew,← Multiset.coe_add]
  abel

/-- A pop takes the first file off the directory. -/
theorem Filed.pop {s : DirTxtReceiverQueueService} (h : Filed s) (fs : FileSystem) (dbId : ℤ)
    (retval : ReceiverQueueEntry) : Filed (DirTxtQueue.pop fs s dbId retval).1 ∧
      DirTxtQueue.payloads fs (DirTxtQueue.pop fs s dbId retval).1+((firstPayload fs s).toList : List Bytes)=
        DirTxtQueue.payloads fs s := by
  rw [DirTxtQueue.pop,h.firstFile_eq fs,firstPayload]
  cases hlist : fs.listing (s.files.map Prod.fst) with
  | nil => exact ⟨h,add_zero _⟩
  | cons name rest =>
    refine ⟨h.filter _,?_⟩
    dsimp only
    rw [(h.filter _).payloads_eq fs,h.payloads_eq fs]
    exact payloads_without h.distinct (payloadIn s) name

/-- `setDbs` empties the directory. -/
theorem files_setDbs {s : DirTxtReceiverQueueService} (h : Filed s) (fs : FileSystem) (values : List ℤ) :
    (DirTxtQueue.setDbs fs s values).files=[] := by
  refine List.filter_eq_nil_iff.mpr fun file hfile => ?_
  rw [decide_eq_true_eq,not_not]
  refine List.mem_flatMap.mpr ⟨s.writeFormat,by cases s.writeFormat <;> decide,?_⟩
  rw [h.filesInPath_eq fs,if_pos rfl]
  exact (fs.listing_perm _).mem_iff.mpr (List.mem_map_of_mem hfile)

/-- The configuration of the same database leaves the map. -/
theorem setDbs_same {s : JsonFileReceiverQueueService} {dbId : ℤ} (h : ∀ id∈s.dbs,id=dbId) :
    ReceiverQueue.setDbs s [dbId]={s with dbs := [dbId]} := by
  have hstale : (s.dbs.filter fun id => id∉[dbId])=[] :=
    List.filter_eq_nil_iff.mpr fun id hid => by simpa using h id hid
  rw [ReceiverQueue.setDbs,hstale]
  rfl

/-- What is known between two calls. -/
structure Sound (dbId : ℤ) (s : Queues) : Prop where
  /-- The directory. -/
  filed : Filed s.dir
  /-- Databases of the map. -/
  dbs : ∀ id∈s.json.dbs,id=dbId

/-- Every call keeps this. -/
theorem Sound.step {dbId : ℤ} {s : Queues} (h : Sound dbId s) (fs : FileSystem) (e : Event) :
    Sound dbId (step fs dbId s e) := by
  cases e with
  | setDbs =>
    have hfiles := files_setDbs h.filed fs [dbId]
    refine ⟨⟨?_,?_⟩,fun id hid => List.mem_singleton.mp hid⟩
    · rw [QueueAgreement.step,hfiles]
      exact List.nodup_nil
    · rw [QueueAgreement.step,hfiles]
      exact fun file hfile => absurd hfile List.not_mem_nil
  | pushEntry entry hasPayload t => exact ⟨h.filed.pushEntry hasPayload t,h.dbs⟩
  | peek => exact h
  | pop retval =>
    refine ⟨(h.filed.pop fs dbId retval).1,fun id hid => h.dbs id ?_⟩
    have hdbs : (ReceiverQueue.pop s.json dbId).1.dbs=s.json.dbs := by
      obtain ⟨storage,hs,-⟩|⟨entry,-,-,hs⟩ := pop_cases s.json dbId
      · rw [hs]
      · rw [hs]
        rfl
    exact hdbs ▸ hid

/-- Both queues agree when they have the same payloads. -/
theorem Sound.agree_iff {dbId : ℤ} {s : Queues} (h : Sound dbId s) (fs : FileSystem) :
    Agree fs s ↔ DirTxtQueue.payloads fs s.dir=payloads s.json := by
  refine ⟨And.left,fun heq => ⟨heq,?_⟩⟩
  have hcard := congrArg Multiset.card heq
  rw [h.filed.payloads_eq fs,payloads,Multiset.coe_card,Multiset.coe_card,List.length_map,List.length_map] at hcard
  rw [h.filed.count_eq fs,hcard]
  exact Std.TreeMap.length_toList

/-- Queues that agree do so after a call exactly when it takes the same off both. -/
theorem agree_step_iff {dbId : ℤ} {s : Queues} (h : Sound dbId s) (fs : FileSystem) (hagree : Agree fs s) (e : Event) :
    Agree fs (step fs dbId s e) ↔ TakesTheSame fs dbId s e := by
  have hsame := (h.agree_iff fs).mp hagree
  rw [(h.step fs e).agree_iff fs]
  cases e with
  | setDbs =>
    have hdir : DirTxtQueue.payloads fs (DirTxtQueue.setDbs fs s.dir [dbId])=0 := by
      have hfiled : Filed (DirTxtQueue.setDbs fs s.dir [dbId]) := (h.step fs .setDbs).filed
      rw [hfiled.payloads_eq fs,files_setDbs h.filed fs [dbId]]
      rfl
    have hjson : payloads (ReceiverQueue.setDbs s.json [dbId])=payloads s.json := by
      rw [setDbs_same h.dbs]
      rfl
    rw [TakesTheSame,QueueAgreement.step,hdir,hjson,← hsame,h.filed.payloads_eq fs,eq_comm,Multiset.coe_eq_zero,
      List.map_eq_nil_iff]
  | pushEntry entry hasPayload t =>
    rw [TakesTheSame,← toList_eq_iff]
    exact bags_eq_iff hsame (payloads_push h.filed fs hasPayload t) (payloads_pushEntry s.json entry)
  | peek => exact iff_of_true hsame trivial
  | pop retval =>
    rw [TakesTheSame,← toList_eq_iff]
    exact bags_eq_iff hsame ((h.filed.pop fs dbId retval).2.trans (add_zero _).symm)
      ((payloads_pop s.json dbId).trans (add_zero _).symm)

/-- Two queues that start empty hold the same payloads after every call exactly
when every call takes the same off both. -/
theorem agree_run_iff (fs : FileSystem) (writeFormat : DirtxtFormat) (dbId : ℤ) (events : List Event) :
    Along (step fs dbId) (fun s e => Agree fs (step fs dbId s e)) (.start writeFormat) events ↔
      Along (step fs dbId) (TakesTheSame fs dbId) (.start writeFormat) events := by
  have hrest : ∀ s,Sound dbId s → Agree fs s →
      (Along (step fs dbId) (fun s e => Agree fs (step fs dbId s e)) s events ↔
        Along (step fs dbId) (TakesTheSame fs dbId) s events) := by
    induction events with
    | nil => exact fun s _ _ => iff_of_true (along_nil _ _ _) (along_nil _ _ _)
    | cons event events ih =>
      intro s hsound hagree
      rw [along_cons_iff,along_cons_iff,agree_step_iff hsound fs hagree]
      refine and_congr_right fun htakes => ih _ (hsound.step fs event) ?_
      exact (agree_step_iff hsound fs hagree event).mpr htakes
  have hfiled : Filed (.new writeFormat) := ⟨List.nodup_nil,fun file hfile => absurd hfile List.not_mem_nil⟩
  have hsound : Sound dbId (.start writeFormat) := ⟨hfiled,fun id hid => absurd hid List.not_mem_nil⟩
  exact hrest (.start writeFormat) hsound ((hsound.agree_iff fs).mpr (hfiled.payloads_eq fs))

/-- A directory that is listed as its files were written. -/
def inOrder : FileSystem := ⟨id,fun _ => .refl _,fun _ => 0⟩

/-- A payload for database 1. -/
def sample : ReceiverQueueEntry := ⟨⟨⟨10,0⟩,1⟩,⟨7,Records.DeviceId.empty,[1,2,3],5,[1]⟩⟩

/-- The same configuration again empties one of the queues. -/
theorem sameDbs_emptied : ¬∀ fs writeFormat dbId events,
    Along (step fs dbId) (fun s e => Agree fs (step fs dbId s e)) (.start writeFormat) events := by
  intro h
  have hcount := (h inOrder .bin 1 [.setDbs,.pushEntry sample (List.cons_ne_nil _ _) 10,.setDbs]
    [.setDbs,.pushEntry sample (List.cons_ne_nil _ _) 10] .setDbs [] rfl).2
  revert hcount
  decide +kernel

end LorawanServer.QueueAgreement
