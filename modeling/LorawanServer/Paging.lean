import LorawanServer.DeviceHistory
import LorawanServer.IdentityLookups
import LorawanServer.ListWindows
import LorawanServer.ReceiverQueue

/-!
# The pages of four stores

Each store lists its entries from an offset on with a loop of its own. Two of
them end at the size instead of the sum of offset and size, one adds the two and
may wrap, and the last one counts only what it appended, so that it never gets
past an offset. The first page is right in all of them. Only the database gives
the whole store page by page.
-/

namespace LorawanServer.Paging

open Records DeviceHistory IdentityStore LmdbStore IdentityLookups ReceiverQueue ListWindows

section Window

variable {α : Type*}

/-- The size of a page. -/
structure PageSize where
  /-- Number of entries. -/
  size : ℕ
  /-- There are some. -/
  positive : 0<size
  /-- The number is a `size_t`. -/
  fits : size<2^64

/-- The pages are the whole store. -/
def Partitioned (list : ℕ → ℕ → List α) (entries : List α) (page : PageSize) : Prop :=
  pages list entries.length page.size=entries

variable {entries : List α} {offset : ℕ}

/-- The size with its sentinel for no limit. -/
def bound (size : ℕ) : ℕ := if size=0 then SIZE_MAX else size

/-- The sentinel is a bound past every entry. -/
theorem window_eq_take (h : entries.length≤SIZE_MAX) (offset size : ℕ) :
    window offset size entries=(entries.drop offset).take (bound size) := by
  rw [window,bound]
  split_ifs with hsize
  · refine (List.take_of_length_le ?_).symm
    rw [List.length_drop]
    omega
  · rfl

/-- What begins at the offset is the window exactly when it is as long. -/
theorem take_eq_window_iff (h : entries.length≤SIZE_MAX) {taken : ℕ} :
    (entries.drop offset).take taken=window offset size entries ↔
      min taken (entries.length-offset)=min (bound size) (entries.length-offset) := by
  rw [window_eq_take h,List.take_eq_take_iff,List.length_drop]

end Window

section Loops

/-- The loop of `JsonFileDeviceHistoryService::list`. The counter is signed and
is compared as an unsigned number. -/
def historyRange (offset size : ℕ) : ℤ → List (DEVADDR×DeviceHistoryItem) → List (DEVADDR×DeviceHistoryItem)
  | _,[] => []
  | c,entry::rest =>
    if ((c+1)%2^64).toNat<offset then historyRange offset size (c+1) rest
    else if size≤((c+1)%2^64).toNat then []
    else entry::historyRange offset size (c+1) rest

/-- `JsonFileDeviceHistoryService::list`; an element is an address with all
members of its record. -/
def historyList (storage : DeviceHistory.Storage) (offset size : ℕ) : List (DEVADDR×DeviceHistoryItem) :=
  historyRange offset (if size=0 then SIZE_MAX else size) (-1) storage.toList

/-- The loop of `JsonFileReceiverQueueService::list`. Only an entry that is
appended is counted. -/
def queueRange (offset size : ℕ) :
    ℕ → List (ReceiverQueueKey×ReceiverQueueValue) → List (ReceiverQueueKey×ReceiverQueueValue)
  | _,[] => []
  | c,entry::rest =>
    if c<offset then queueRange offset size c rest
    else if size≤c then []
    else entry::queueRange offset size (c+1) rest

/-- `JsonFileReceiverQueueService::list`. -/
def queueList (s : JsonFileReceiverQueueService) (offset size : ℕ) : List ReceiverQueueEntry :=
  (queueRange offset (if size=0 then SIZE_MAX else size) 0 s.storage.toList).map fun entry => ⟨entry.1,entry.2⟩

/-- The loop over the identities in memory ends at the size. -/
theorem jsonRange_eq_scan (offset size c : ℕ) (entries : List (DEVADDR×DeviceId)) :
    jsonRange offset size c entries=scan offset size c entries := by
  induction entries generalizing c with
  | nil => rfl
  | cons entry rest ih => rw [jsonRange,scan,ih]

/-- The loop over the database ends at a sum. -/
theorem lmdbRange_eq_scan (offset size c : ℕ) (entries : List (UInt32×DeviceId)) :
    lmdbRange offset size c entries=scan offset ((offset+size)%2^64) c entries := by
  induction entries generalizing c with
  | nil => rfl
  | cons entry rest ih => simp only [lmdbRange,scan,ih,Nat.succ_le_iff,Nat.lt_succ_iff]

/-- The loop over the history ends at the size. -/
theorem historyRange_eq_scan (offset size c : ℕ) {entries : List (DEVADDR×DeviceHistoryItem)}
    (h : c+entries.length<2^64) : historyRange offset size ((c : ℤ)-1) entries=scan offset size c entries := by
  induction entries generalizing c with
  | nil => rfl
  | cons entry rest ih =>
    rw [List.length_cons] at h
    have hcounter : (((c : ℤ)-1+1)%2^64).toNat=c := by omega
    have hnext : (c : ℤ)-1+1=((c+1 : ℕ) : ℤ)-1 := by omega
    rw [historyRange,scan,hcounter,hnext,ih (c+1) (by omega)]

/-- The loop over the queue does not get past an offset. -/
theorem queueRange_behind {offset size c : ℕ} (h : c<offset) (entries : List (ReceiverQueueKey×ReceiverQueueValue)) :
    queueRange offset size c entries=[] := by
  induction entries with
  | nil => rfl
  | cons entry rest ih => rw [queueRange,if_pos h,ih]

/-- Without an offset it ends at the size. -/
theorem queueRange_first (size c : ℕ) (entries : List (ReceiverQueueKey×ReceiverQueueValue)) :
    queueRange 0 size c entries=scan 0 size c entries := by
  induction entries generalizing c with
  | nil => rfl
  | cons entry rest ih => simp only [queueRange,scan,Nat.not_lt_zero,if_false,ih]

end Loops

section Lists

variable (s : JsonFileIdentityService) (db : Database) (storage : DeviceHistory.Storage)
  (queue : JsonFileReceiverQueueService) (stale : DEVADDR → NetworkIdentity) (offset size : ℕ)

/-- All elements for the identities in memory. -/
def jsonEntries : List NetworkIdentity :=
  s.storage.toList.map fun entry => construct (stale entry.1) entry.1 entry.2

/-- All elements for the records of the database. -/
def lmdbEntries : List NetworkIdentity :=
  db.toList.map fun entry => construct (stale (DEVADDR2int entry.1)) (DEVADDR2int entry.1) entry.2

/-- All elements for the queue. -/
def queueEntries : List ReceiverQueueEntry := queue.storage.toList.map fun entry => ⟨entry.1,entry.2⟩

/-- What the list of the identities in memory is. -/
theorem jsonList_eq : jsonList s stale offset size=((jsonEntries s stale).drop offset).take (bound size-offset) := by
  rw [jsonList,jsonRange_eq_scan,scan_eq,Nat.sub_zero,Nat.max_zero,List.map_take,List.map_drop]
  rfl

/-- What the list of the database is. -/
theorem lmdbList_eq : lmdbList db stale offset size=
    ((lmdbEntries db stale).drop offset).take ((offset+bound size)%2^64-offset) := by
  rw [lmdbList,lmdbRange_eq_scan,scan_eq,Nat.sub_zero,Nat.max_zero,List.map_take,List.map_drop]
  rfl

/-- What the list of the history is. -/
theorem historyList_eq : historyList storage offset size=(storage.toList.drop offset).take (bound size-offset) := by
  have hlength := toList_length_le_addresses storage
  have hscan := historyRange_eq_scan offset (bound size) 0 (show 0+storage.toList.length<2^64 by omega)
  rw [scan_eq,Nat.sub_zero,Nat.max_zero] at hscan
  exact hscan

/-- What the list of the queue is. -/
theorem queueList_eq : queueList queue offset size=
    if offset=0 then (queueEntries queue).take (bound size) else [] := by
  by_cases hfirst : offset=0
  · rw [queueList,if_pos hfirst,hfirst,queueRange_first,scan_eq,Nat.sub_zero,Nat.max_zero,List.drop_zero,Nat.sub_zero,
      List.map_take]
    rfl
  · rw [queueList,if_neg hfirst,queueRange_behind (Nat.pos_of_ne_zero hfirst),List.map_nil]

/-- Elements and identities in memory are as many. -/
theorem jsonEntries_length : (jsonEntries s stale).length≤2^32 := by
  rw [jsonEntries,List.length_map]
  exact toList_length_le_addresses s.storage

/-- Elements and records of the database are as many. -/
theorem lmdbEntries_length : (lmdbEntries db stale).length≤2^32 := by
  rw [lmdbEntries,List.length_map]
  exact toList_length_le_addresses db

end Lists

section Pages

variable {α : Type*} {list : ℕ → ℕ → List α} {entries : List α}

/-- The sentinel is the largest size. -/
theorem bound_cases (size : ℕ) : size=0 ∧ bound size=2^64-1 ∨ 0<size ∧ bound size=size := by
  rcases size.eq_zero_or_pos with hzero|hpos
  · exact .inl ⟨hzero,if_pos hzero⟩
  · exact .inr ⟨hpos,if_neg hpos.ne'⟩

/-- A list that ends at the size gives the window exactly without an offset,
without a limit, behind the last entry and where no entry is past the size. -/
theorem paged_of_sized (hlist : ∀ offset size,list offset size=(entries.drop offset).take (bound size-offset))
    (hlength : entries.length≤2^32) (offset size : ℕ) :
    Paged list entries offset size ↔ offset=0 ∨ size=0 ∨ entries.length≤ offset ∨ entries.length≤ size := by
  have hmax : SIZE_MAX=2^64-1 := rfl
  rw [Paged,hlist,take_eq_window_iff (by omega)]
  rcases bound_cases size with ⟨hzero,hbound⟩|⟨hpos,hbound⟩
  · rw [hbound]
    omega
  · rw [hbound]
    omega

/-- Its pages are the whole store exactly if one page is. -/
theorem partitioned_of_sized (hlist : ∀ offset size,list offset size=(entries.drop offset).take (bound size-offset))
    (page : PageSize) : Partitioned list entries page ↔ entries.length≤ page.size := by
  have hbound : bound page.size=page.size := if_neg page.positive.ne'
  have hfirst : list 0 page.size=entries.take page.size := by rw [hlist,hbound,List.drop_zero,Nat.sub_zero]
  have hrest : ∀ i,0< i → list (i*page.size) page.size=[] := fun i hi => by
    rw [hlist,hbound,Nat.sub_eq_zero_of_le (Nat.le_mul_of_pos_left page.size hi),List.take_zero]
  rw [Partitioned,pages_of_first page.positive hfirst hrest,List.take_eq_self_iff]

/-- A list that ends at a sum gives the window exactly where the sum does not
wrap, or behind the last entry. -/
theorem paged_of_summed
    (hlist : ∀ offset size,list offset size=(entries.drop offset).take ((offset+bound size)%2^64-offset))
    (hlength : entries.length≤2^32) {offset size : ℕ} (hoffset : offset<2^64) (hsize : size<2^64) :
    Paged list entries offset size ↔ offset+bound size<2^64 ∨ entries.length≤ offset := by
  have hmax : SIZE_MAX=2^64-1 := rfl
  rw [Paged,hlist,take_eq_window_iff (by omega)]
  rcases bound_cases size with ⟨hzero,hbound⟩|⟨hpos,hbound⟩
  · rw [hbound]
    omega
  · rw [hbound]
    omega

/-- Its pages are the whole store. -/
theorem partitioned_of_summed
    (hlist : ∀ offset size,list offset size=(entries.drop offset).take ((offset+bound size)%2^64-offset))
    (hlength : entries.length≤2^32) (page : PageSize) : Partitioned list entries page := by
  have hfits := page.fits
  refine pages_of_windows page.positive fun i hi => ?_
  rw [paged_of_summed hlist hlength (by omega) hfits,bound,if_neg page.positive.ne']
  left
  rcases i.eq_zero_or_pos with hzero|hlater
  · rwa [hzero,Nat.zero_mul,Nat.zero_add]
  · -- a second page begins behind a first one that the store fills
    have hle := Nat.le_mul_of_pos_left page.size hlater
    omega

/-- A list that never gets past an offset gives the window exactly without one,
or behind the last entry. -/
theorem paged_of_stuck (hlist : ∀ offset size,list offset size=if offset=0 then entries.take (bound size) else [])
    (offset size : ℕ) : Paged list entries offset size ↔
      offset=0 ∧ (0<size ∨ entries.length≤SIZE_MAX) ∨ entries.length≤ offset := by
  rw [Paged,hlist,window]
  split_ifs with hfirst hsize hsize
  · rw [hfirst,List.drop_zero,List.take_eq_self_iff,bound,if_pos hsize]
    omega
  · rw [hfirst,List.drop_zero,bound,if_neg hsize]
    exact iff_of_true rfl (.inl ⟨rfl,.inl (Nat.pos_of_ne_zero hsize)⟩)
  · rw [eq_comm,List.drop_eq_nil_iff]
    omega
  · rw [eq_comm,List.take_eq_nil_iff,List.drop_eq_nil_iff]
    omega

/-- Its pages are the whole store exactly if one page is. -/
theorem partitioned_of_stuck
    (hlist : ∀ offset size,list offset size=if offset=0 then entries.take (bound size) else [])
    (page : PageSize) : Partitioned list entries page ↔ entries.length≤ page.size := by
  have hbound : bound page.size=page.size := if_neg page.positive.ne'
  have hfirst : list 0 page.size=entries.take page.size := by rw [hlist,if_pos rfl,hbound]
  have hrest : ∀ i,0< i → list (i*page.size) page.size=[] := fun i hi => by
    rw [hlist,if_neg (Nat.mul_pos hi page.positive).ne']
  rw [Partitioned,pages_of_first page.positive hfirst hrest,List.take_eq_self_iff]

end Pages

/-- The history of two devices. -/
def twoDevices : DeviceHistory.Storage :=
  ((∅ : DeviceHistory.Storage).insert 1 DeviceHistoryItem.zero).insert 2 DeviceHistoryItem.zero

end LorawanServer.Paging
