import LorawanServer.DirTxtQueue
import LorawanServer.OrderedMaps
import LorawanServer.Paging

/-!
# Entries by their position

`get` and `remove` of the two queues, against their `list`. The queue in memory
always gets its first entry. The directory sums up a listing that still holds the
formats before, so that it can look past the files it has listed.
-/

namespace LorawanServer.PositionalAccess

open CppRuntime Records ReceiverQueue IdentityLookups

section Memory

/-- `JsonFileReceiverQueueService::get` into an entry of the caller, for any number. -/
def jsonGet (s : JsonFileReceiverQueueService) (_onum : ℕ) (retval : ReceiverQueueEntry) : ReceiverQueueEntry×ℤ :=
  match head s with
  | none => (retval,ERR_CODE_DEVICE_ADDRESS_NOTFOUND)
  | some entry => (entry,0)

/-- The loop of `JsonFileReceiverQueueService::remove`. -/
def removeRange (onum : ℕ) (storage : Std.TreeMap ReceiverQueueKey ReceiverQueueValue) :
    ℕ → List (ReceiverQueueKey×ReceiverQueueValue) → Std.TreeMap ReceiverQueueKey ReceiverQueueValue
  | _,[] => storage
  | c,entry::rest => if onum=c then storage.erase entry.1 else removeRange onum storage (c+1) rest

/-- `JsonFileReceiverQueueService::remove`. -/
def jsonRemove (s : JsonFileReceiverQueueService) (onum : ℕ) : JsonFileReceiverQueueService :=
  {s with storage := removeRange onum s.storage 0 s.storage.toList}

end Memory

section Directory

open DirTxtQueue

variable (fs : FileSystem) (s : DirTxtReceiverQueueService)

/-- The loop that `get` and `remove` share. The number is compared with the sum of
the lengths of one growing vector, which is then read at the number. -/
def reach (onum : ℕ) : ℕ → List Bytes → List DirtxtFormat → Except Fault (Option (DirtxtFormat×Bytes))
  | _,_,[] => .ok none
  | r,files,format::rest =>
    let files := files++filesInPath fs s (dataFileExtensions format)
    let r := r+files.length
    if r>onum then
      match files[onum]? with
      | none => .error .readOutside
      | some name => .ok (some (format,name))
    else reach onum r files rest

/-- `DirTxtReceiverQueueService::get` into an entry of the caller. -/
def dirGet (onum : ℕ) (retval : ReceiverQueueEntry) : Except Fault (ReceiverQueueEntry×ℤ) := do
  match ← reach fs s onum 0 [] formats with
  | none => return (retval,0)
  | some (format,name) =>
    let (payload,code) := loadFile format (file2string s name)
    let value := {retval.value with payload := payload}
    if code≠0 then return (⟨retval.key,value⟩,ERR_CODE_INVALID_PACKET)
    else return (⟨{fileKey fs name with id := onum},value⟩,0)

/-- `DirTxtReceiverQueueService::remove`. -/
def dirRemove (onum : ℕ) : Except Fault DirTxtReceiverQueueService := do
  match ← reach fs s onum 0 [] formats with
  | none => return s
  | some (_,name) => return {s with files := s.files.filter fun file => file.1≠name}

/-- The inner loop of `DirTxtReceiverQueueService::list`, with its entry. -/
def listFiles (format : DirtxtFormat) (e : ReceiverQueueEntry) : ℕ → List Bytes → List ReceiverQueueEntry
  | _,[] => []
  | c,name::rest =>
    let (payload,code) := loadFile format (file2string s name)
    let value := {e.value with payload := payload}
    if code≠0 then listFiles format ⟨e.key,value⟩ (c+1) rest
    else
      let e := ⟨{fileKey fs name with id := c},value⟩
      e::listFiles format e (c+1) rest

/-- The outer loop of `DirTxtReceiverQueueService::list`, with the entry that each
format starts from. -/
def listFormats (fresh : ReceiverQueueEntry) : ℕ → List DirtxtFormat → List ReceiverQueueEntry
  | _,[] => []
  | c,format::rest =>
    let names := filesInPath fs s (dataFileExtensions format)
    listFiles fs s format fresh c names++listFormats fresh (c+names.length) rest

/-- `DirTxtReceiverQueueService::list`, for any offset and size. -/
def dirList (fresh : ReceiverQueueEntry) (_offset _size : ℕ) : List ReceiverQueueEntry :=
  listFormats fs s fresh 0 formats

/-- The listings of the formats, one behind the other. -/
def positions : List (DirtxtFormat×Bytes) :=
  formats.flatMap fun format => (filesInPath fs s (dataFileExtensions format)).map fun name => (format,name)

/-- Every file that is listed loads. -/
def Readable : Prop := ∀ position∈positions fs s,(payloadOf s position.1 position.2).isSome

instance : Decidable (Readable fs s) := inferInstanceAs (Decidable (∀ position∈positions fs s,_))

/-- Number of files of a format. -/
def fileCount (format : DirtxtFormat) : ℕ := (filesInPath fs s (dataFileExtensions format)).length

/-- The numbers at which the sum is past the number while the vector is not. -/
def Overcounted (onum : ℕ) : Prop :=
  fileCount fs s .bin+fileCount fs s .hex≤onum ∧ onum<2*fileCount fs s .bin+fileCount fs s .hex ∨
  count fs s≤onum ∧ onum<3*fileCount fs s .bin+2*fileCount fs s .hex+fileCount fs s .base64

/-- The number of files is the sum over the formats. -/
theorem count_eq : count fs s=fileCount fs s .bin+fileCount fs s .hex+fileCount fs s .base64 := by
  simp only [count,formats,List.map_cons,List.map_nil,List.sum_cons,List.sum_nil]
  rw [Nat.add_zero,← Nat.add_assoc]
  rfl

/-- So many positions are there. -/
theorem positions_length : (positions fs s).length=count fs s := by
  rw [positions,count,List.length_flatMap]
  simp only [List.length_map]

/-- A number that the files of this format answer. -/
theorem reach_inside {onum r : ℕ} {files : List Bytes} {format : DirtxtFormat} {rest : List DirtxtFormat}
    (hle : files.length≤onum) (hlt : onum<files.length+fileCount fs s format) :
    reach fs s onum r files (format::rest)=.ok (((filesInPath fs s (dataFileExtensions format)).map
      fun name => (format,name))[onum-files.length]?) := by
  have hname := List.getElem?_eq_getElem (l := filesInPath fs s (dataFileExtensions format))
    (i := onum-files.length) (by rw [fileCount] at hlt; omega)
  simp only [reach]
  rw [if_pos (by rw [List.length_append]; rw [fileCount] at hlt; omega),List.getElem?_append_right hle,
    List.getElem?_map,hname]
  rfl

/-- A number past the files that is not past the sum is looked up outside. -/
theorem reach_outside {onum r : ℕ} {files : List Bytes} {format : DirtxtFormat} {rest : List DirtxtFormat}
    (hle : files.length+fileCount fs s format≤onum) (hlt : onum<r+(files.length+fileCount fs s format)) :
    reach fs s onum r files (format::rest)=.error .readOutside := by
  have hlength : (files++filesInPath fs s (dataFileExtensions format)).length=
      files.length+fileCount fs s format := List.length_append
  simp only [reach]
  rw [if_pos (by rw [hlength]; exact hlt),List.getElem?_eq_none (by rw [hlength]; exact hle)]

/-- A number past the sum is left to the next format. -/
theorem reach_past {onum r : ℕ} {files : List Bytes} {format : DirtxtFormat} {rest : List DirtxtFormat}
    (h : r+(files.length+fileCount fs s format)≤onum) : reach fs s onum r files (format::rest)=
      reach fs s onum (r+(files.length+fileCount fs s format))
        (files++filesInPath fs s (dataFileExtensions format)) rest := by
  have hlength : (files++filesInPath fs s (dataFileExtensions format)).length=
      files.length+fileCount fs s format := List.length_append
  simp only [reach]
  rw [if_neg (by rw [hlength]; omega),hlength]

/-- What the loop reaches: the position, where the sum does not mislead it. -/
theorem reach_eq (onum : ℕ) : Overcounted fs s onum ∧ reach fs s onum 0 [] formats=.error .readOutside ∨
    ¬ Overcounted fs s onum ∧ reach fs s onum 0 [] formats=.ok (positions fs s)[onum]? := by
  have hbin : (filesInPath fs s (dataFileExtensions .bin)).length=fileCount fs s .bin := rfl
  have hhex : (filesInPath fs s (dataFileExtensions .hex)).length=fileCount fs s .hex := rfl
  have hbase64 : (filesInPath fs s (dataFileExtensions .base64)).length=fileCount fs s .base64 := rfl
  have hcount := count_eq fs s
  simp only [Overcounted,hcount,positions,formats,List.flatMap_cons,List.flatMap_nil,List.append_nil]
  rcases Nat.lt_or_ge onum (fileCount fs s .bin) with hfirst|hfirst
  · right
    refine ⟨by omega,?_⟩
    rw [reach_inside fs s (Nat.zero_le _) (by rw [List.length_nil]; omega),
      List.getElem?_append_left (by rw [List.length_map]; exact hfirst)]
    rfl
  rw [reach_past fs s (by rw [List.length_nil]; omega),List.nil_append,List.length_nil,Nat.zero_add,Nat.zero_add,
    List.getElem?_append_right (by rw [List.length_map]; exact hfirst),List.length_map,hbin]
  rcases Nat.lt_or_ge onum (fileCount fs s .bin+fileCount fs s .hex) with hsecond|hsecond
  · right
    refine ⟨by omega,?_⟩
    rw [reach_inside fs s (by omega) (by omega),
      List.getElem?_append_left (by rw [List.length_map,hhex]; omega),hbin]
  rcases Nat.lt_or_ge onum (2*fileCount fs s .bin+fileCount fs s .hex) with hmisled|hmisled
  · left
    exact ⟨by omega,reach_outside fs s (by omega) (by omega)⟩
  rw [reach_past fs s (by omega),List.getElem?_append_right (by rw [List.length_map,hhex]; omega),List.length_map,
    hhex,hbin]
  have hlength : (filesInPath fs s (dataFileExtensions .bin)++filesInPath fs s (dataFileExtensions .hex)).length=
      fileCount fs s .bin+fileCount fs s .hex := List.length_append
  rcases Nat.lt_or_ge onum (fileCount fs s .bin+fileCount fs s .hex+fileCount fs s .base64) with hthird|hthird
  · right
    refine ⟨by omega,?_⟩
    rw [reach_inside fs s (by omega) (by omega),hlength,Nat.sub_add_eq]
  rcases Nat.lt_or_ge onum (3*fileCount fs s .bin+2*fileCount fs s .hex+fileCount fs s .base64) with hlast|hlast
  · left
    exact ⟨by omega,reach_outside fs s (by omega) (by omega)⟩
  · right
    refine ⟨by omega,?_⟩
    rw [reach_past fs s (by omega),List.getElem?_eq_none (by rw [List.length_map,hbase64]; omega)]
    rfl

/-- The entry for a file at a number, over an entry of the caller. -/
def entryAt (fresh : ReceiverQueueEntry) (onum : ℕ) (position : DirtxtFormat×Bytes) : ReceiverQueueEntry :=
  ⟨{fileKey fs position.2 with id := onum},
    {fresh.value with payload := (loadFile position.1 (file2string s position.2)).1}⟩

/-- A payload is there exactly if the code is zero. -/
theorem code_eq_zero {s : DirTxtReceiverQueueService} {format : DirtxtFormat} {name : Bytes}
    (h : (payloadOf s format name).isSome) : (loadFile format (file2string s name)).2=0 := by
  by_contra hcode
  change (if (loadFile format (file2string s name)).2=0 then some _ else none).isSome=true at h
  rw [if_neg hcode] at h
  cases h

/-- A format is listed file by file. The entry goes from file to file, and all it
keeps is what no file says. -/
theorem listFiles_eq (format : DirtxtFormat) (e : ReceiverQueueEntry) (c : ℕ) {names : List Bytes}
    (h : ∀ name∈names,(payloadOf s format name).isSome) : listFiles fs s format e c names=
      ((names.map fun name => (format,name)).zipIdx c).map fun position => entryAt fs s e position.2 position.1 := by
  induction names generalizing e c with
  | nil => rfl
  | cons name rest ih =>
    have hcode := code_eq_zero (h name List.mem_cons_self)
    rw [listFiles]
    change (if (loadFile format (file2string s name)).2≠0 then _ else
      entryAt fs s e c (format,name)::listFiles fs s format (entryAt fs s e c (format,name)) (c+1) rest)=_
    rw [if_neg (not_not.mpr hcode),ih _ _ fun other hother => h other (List.mem_cons_of_mem _ hother)]
    rfl

/-- The formats are listed one behind the other. -/
theorem listFormats_eq (fresh : ReceiverQueueEntry) (c : ℕ) {kinds : List DirtxtFormat}
    (h : ∀ format∈kinds,∀ name∈filesInPath fs s (dataFileExtensions format),(payloadOf s format name).isSome) :
    listFormats fs s fresh c kinds=((kinds.flatMap fun format =>
      (filesInPath fs s (dataFileExtensions format)).map fun name => (format,name)).zipIdx c).map
        fun position => entryAt fs s fresh position.2 position.1 := by
  induction kinds generalizing c with
  | nil => rfl
  | cons format rest ih =>
    rw [listFormats,listFiles_eq fs s format fresh c (h format List.mem_cons_self),
      ih _ fun other hother => h other (List.mem_cons_of_mem _ hother),List.flatMap_cons,List.zipIdx_append,
      List.map_append,List.length_map]

/-- What the list of a readable directory has at a number. -/
theorem dirList_getElem? (hreadable : Readable fs s) (fresh : ReceiverQueueEntry) (onum : ℕ) :
    (dirList fs s fresh 0 0)[onum]?=(positions fs s)[onum]?.map (entryAt fs s fresh onum) := by
  have hformats : ∀ format∈formats,∀ name∈filesInPath fs s (dataFileExtensions format),
      (payloadOf s format name).isSome := fun format hformat name hname =>
    hreadable (format,name) (List.mem_flatMap.mpr ⟨format,hformat,List.mem_map_of_mem hname⟩)
  rw [dirList,listFormats_eq fs s fresh 0 hformats,List.getElem?_map]
  change ((positions fs s).zipIdx 0)[onum]?.map _=_
  rw [List.getElem?_zipIdx,Nat.zero_add,Option.map_map]
  rfl

/-- A file that is reached is got, if it loads. -/
theorem dirGet_of_reach {onum : ℕ} {position : DirtxtFormat×Bytes} (fresh : ReceiverQueueEntry)
    (hreach : reach fs s onum 0 [] formats=.ok (some position)) (h : (payloadOf s position.1 position.2).isSome) :
    dirGet fs s onum fresh=.ok (entryAt fs s fresh onum position,0) := by
  obtain ⟨format,name⟩ := position
  rw [dirGet,hreach]
  change (if (loadFile format (file2string s name)).2≠0 then _ else _)=_
  rw [if_neg (not_not.mpr (code_eq_zero h))]
  rfl

end Directory

section Memory

variable (s : JsonFileReceiverQueueService)

/-- The loop erases the key at the number. -/
theorem removeRange_eq (onum : ℕ) (storage : Std.TreeMap ReceiverQueueKey ReceiverQueueValue) (c : ℕ)
    (entries : List (ReceiverQueueKey×ReceiverQueueValue)) (h : c≤onum) : removeRange onum storage c entries=
      match entries[onum-c]? with
      | some entry => storage.erase entry.1
      | none => storage := by
  induction entries generalizing c with
  | nil => rfl
  | cons entry rest ih =>
    rw [removeRange]
    split_ifs with heq
    · rw [heq,Nat.sub_self]
      rfl
    · rw [ih (c+1) (by omega),show onum-c=onum-(c+1)+1 by omega,List.getElem?_cons_succ]

/-- What the list of the queue has at a number of the type `int`. -/
theorem queueList_getElem? {onum : ℕ} (h : onum<2^31) :
    (Paging.queueList s 0 0)[onum]?=s.storage.toList[onum]?.map fun entry => ⟨entry.1,entry.2⟩ := by
  have hmax : SIZE_MAX=2^64-1 := rfl
  rw [Paging.queueList_eq,if_pos rfl,Paging.bound,if_pos rfl,List.getElem?_take_of_lt (by omega),Paging.queueEntries,
    List.getElem?_map]

end Memory

/-- A number of the type `int` that is not negative. -/
structure Number where
  /-- The number. -/
  value : ℕ
  /-- It is an `int`. -/
  fits : value<2^31

/-- `get` of a number agrees with the list: the entry that is there, else an error. -/
def GetAgrees (got : Except Fault (ReceiverQueueEntry×ℤ)) (listed : List ReceiverQueueEntry) (onum : Number) : Prop :=
  match listed[onum.value]? with
  | some entry => got=.ok (entry,0)
  | none => ∃ entry code,got=.ok (entry,code) ∧ code≠0

/-- `remove` in memory agrees with the list: the key of the entry that is there
goes, and no other one. -/
def JsonRemoveAgrees (s : JsonFileReceiverQueueService) (onum : Number) : Prop :=
  (jsonRemove s onum.value).storage.toList=
    match (Paging.queueList s 0 0)[onum.value]? with
    | some entry => s.storage.toList.filter fun other => other.1≠entry.key
    | none => s.storage.toList

/-- `remove` in a directory agrees with the list: the file at the position that is
there goes, and no other one. -/
def DirRemoveAgrees (fs : DirTxtQueue.FileSystem) (s : DirTxtQueue.DirTxtReceiverQueueService) (onum : Number) :
    Prop :=
  dirRemove fs s onum.value=.ok
    (match (positions fs s)[onum.value]? with
    | some position => {s with files := s.files.filter fun file => file.1≠position.2}
    | none => s)

/-- In memory an entry is got exactly for the first number, or an error out of an
empty queue. -/
theorem jsonGet_agrees_iff (s : JsonFileReceiverQueueService) (onum : Number) (retval : ReceiverQueueEntry) :
    GetAgrees (.ok (jsonGet s onum.value retval)) (Paging.queueList s 0 0) onum ↔
      onum.value=0 ∨ s.storage.size=0 := by
  rw [GetAgrees,queueList_getElem? s onum.fits,← Std.TreeMap.length_toList,jsonGet,head]
  cases hlist : s.storage.toList with
  | nil =>
    refine iff_of_true ?_ (.inr rfl)
    exact ⟨retval,ERR_CODE_DEVICE_ADDRESS_NOTFOUND,rfl,by decide⟩
  | cons first rest =>
    rw [List.length_cons,or_iff_left (Nat.succ_ne_zero _)]
    constructor
    · intro h
      cases hthere : (first::rest)[onum.value]? with
      | none =>
        rw [hthere] at h
        obtain ⟨entry,code,heq,hcode⟩ := h
        cases heq
        exact absurd rfl hcode
      | some entry =>
        rw [hthere] at h
        have heq : (⟨first.1,first.2⟩ : ReceiverQueueEntry)=⟨entry.1,entry.2⟩ :=
          (Prod.mk.inj (Except.ok.inj h)).1
        rw [ReceiverQueueEntry.mk.injEq] at heq
        exact OrderedMaps.place_eq_of_key_eq s.storage (by rw [hlist]; exact hthere) (by rw [hlist]; rfl) heq.1.symm
    · intro h
      rw [h]
      rfl

/-- In memory what is removed is always what is listed. -/
theorem jsonRemove_agrees (s : JsonFileReceiverQueueService) (onum : Number) : JsonRemoveAgrees s onum := by
  rw [JsonRemoveAgrees,queueList_getElem? s onum.fits,jsonRemove,removeRange_eq onum.value s.storage 0 _ (Nat.zero_le _),
    Nat.sub_zero]
  cases s.storage.toList[onum.value]? with
  | none => rfl
  | some entry => exact OrderedMaps.toList_erase s.storage entry.1

section Directory

open DirTxtQueue

variable {fs : FileSystem} {s : DirTxtReceiverQueueService}

/-- A readable directory lists as many entries as it counts. -/
theorem dirList_length (hreadable : Readable fs s) (fresh : ReceiverQueueEntry) :
    (dirList fs s fresh 0 0).length=count fs s := by
  rw [← positions_length]
  refine Nat.le_antisymm ?_ ?_
  · rw [← List.getElem?_eq_none_iff,dirList_getElem? fs s hreadable,List.getElem?_eq_none (Nat.le_refl _),
      Option.map_none]
  · have h := dirList_getElem? fs s hreadable fresh (dirList fs s fresh 0 0).length
    rw [List.getElem?_eq_none (Nat.le_refl _)] at h
    exact List.getElem?_eq_none_iff.mp (Option.map_eq_none_iff.mp h.symm)

/-- In a directory an entry is got exactly for a number that is counted and does
not mislead the sum. There is no error. -/
theorem dirGet_agrees_iff (hreadable : Readable fs s) (onum : Number) (fresh : ReceiverQueueEntry) :
    GetAgrees (dirGet fs s onum.value fresh) (dirList fs s fresh 0 0) onum ↔
      onum.value<count fs s ∧ ¬ Overcounted fs s onum.value := by
  rw [GetAgrees,dirList_getElem? fs s hreadable]
  rcases reach_eq fs s onum.value with ⟨hover,hreach⟩|⟨hover,hreach⟩
  · refine iff_of_false ?_ fun h => h.2 hover
    rw [dirGet,hreach]
    intro h
    cases hposition : (positions fs s)[onum.value]? with
    | none =>
      rw [hposition] at h
      obtain ⟨entry,code,heq,-⟩ := h
      cases heq
    | some position =>
      rw [hposition] at h
      cases h
  · cases hposition : (positions fs s)[onum.value]? with
    | none =>
      have hle := List.getElem?_eq_none_iff.mp hposition
      rw [positions_length] at hle
      refine iff_of_false ?_ fun h => Nat.not_lt.mpr hle h.1
      rw [hposition] at hreach
      rw [dirGet,hreach]
      rintro ⟨entry,code,heq,hcode⟩
      cases heq
      exact hcode rfl
    | some position =>
      obtain ⟨hlt,-⟩ := List.getElem?_eq_some_iff.mp hposition
      rw [positions_length] at hlt
      rw [hposition] at hreach
      exact iff_of_true (dirGet_of_reach fs s fresh hreach (hreadable position (List.mem_of_getElem? hposition)))
        ⟨hlt,hover⟩

/-- In a directory a number that does not mislead the sum is removed as listed. -/
theorem dirRemove_agrees_iff (onum : Number) : DirRemoveAgrees fs s onum ↔ ¬ Overcounted fs s onum.value := by
  rw [DirRemoveAgrees]
  rcases reach_eq fs s onum.value with ⟨hover,hreach⟩|⟨hover,hreach⟩
  · rw [dirRemove,hreach]
    refine iff_of_false ?_ (not_not.mpr hover)
    intro h
    cases h
  · rw [dirRemove,hreach]
    refine iff_of_true ?_ hover
    cases (positions fs s)[onum.value]? <;> rfl

end Directory

/-- An entry without a payload. -/
def blank : ReceiverQueueEntry := ⟨⟨⟨0,0⟩,0⟩,⟨0,DeviceId.empty,[],0,[]⟩⟩

/-- A payload under a number. -/
def numbered (id : ℤ) (payload : Bytes) : ReceiverQueueEntry := ⟨⟨⟨10,0⟩,id⟩,⟨7,DeviceId.empty,payload,5,[1]⟩⟩

/-- Two payloads in memory. -/
def twoPayloads : JsonFileReceiverQueueService :=
  pushEntry (pushEntry (.fresh [1]) (numbered 1 [1,2,3])) (numbered 2 [4,5,6])

/-- A payload as it is, and one in base64. -/
def twoFormats : DirTxtQueue.DirTxtReceiverQueueService :=
  ⟨.bin,0,[1],[(ascii "10-1.bin",[1,2,3]),(ascii "10-2.b64",ascii "BAUG")]⟩

/-- Names in their own order are all there. -/
theorem id_perm (names : List Bytes) : (id names).Perm names := .refl _

/-- A directory that is listed as its files were written. -/
def asWritten : DirTxtQueue.FileSystem := ⟨id,id_perm,fun _ => 10⟩

/-- The second number. -/
def second : Number := ⟨1,by decide⟩

end LorawanServer.PositionalAccess
