import LorawanServer.ReceiverQueue

/-!
# The queue as a list

The entries of the queue in the order of their keys, and what a pop and an
insertion do to this list.
-/

namespace LorawanServer.QueueEntries

open CppRuntime ReceiverQueue

/-- The queue in the order of its keys. -/
abbrev entries (s : JsonFileReceiverQueueService) : List (ReceiverQueueKey×ReceiverQueueValue) := s.storage.toList

/-- No entry is twice in a list that is ordered by keys. -/
theorem nodup_of_ordered {list : List (ReceiverQueueKey×ReceiverQueueValue)}
    (h : list.Pairwise fun a b => compare a.1 b.1=.lt) : list.Nodup := by
  refine h.imp fun {a b} hlt he => ?_
  subst he
  exact compare_asymm (compare_eq_lt.mp hlt) (compare_eq_lt.mp hlt)

/-- No entry is there twice. -/
theorem nodup_entries (s : JsonFileReceiverQueueService) : (entries s).Nodup :=
  nodup_of_ordered Std.TreeMap.ordered_keys_toList

/-- The entries are the list, ordered by keys, of what is stored. -/
theorem entries_eq {s : JsonFileReceiverQueueService} {list : List (ReceiverQueueKey×ReceiverQueueValue)}
    (hsorted : list.Pairwise fun a b => compare a.1 b.1=.lt)
    (hmem : ∀ (key : ReceiverQueueKey) (value : ReceiverQueueValue),(key,value)∈list ↔ s.storage[key]?=some value) :
    entries s=list := by
  have hsorted' := Std.TreeMap.ordered_keys_toList (t:=s.storage)
  refine List.Perm.eq_of_pairwise (fun a b _ _ hab hba => ?_) hsorted' hsorted ?_
  · exact absurd (compare_eq_lt.mp hba) (compare_asymm (compare_eq_lt.mp hab))
  · refine (List.perm_ext_iff_of_nodup (nodup_of_ordered hsorted') (nodup_of_ordered hsorted)).mpr ?_
    rintro ⟨key,value⟩
    rw [hmem]
    exact Std.TreeMap.mem_toList_iff_getElem?_eq_some

/-- The first entry is the first of the list. -/
theorem head_of_entries {s : JsonFileReceiverQueueService} {key : ReceiverQueueKey} {value : ReceiverQueueValue}
    {rest : List (ReceiverQueueKey×ReceiverQueueValue)} (h : entries s=(key,value)::rest) : head s=some ⟨key,value⟩ := by
  change s.storage.toList=_ at h
  rw [head,h]
  rfl

/-- The first entry and the others. -/
theorem entries_of_head {s : JsonFileReceiverQueueService} {entry : ReceiverQueueEntry} (h : head s=some entry) :
    ∃ rest,entries s=(entry.key,entry.value)::rest := by
  obtain ⟨first,hfirst,rfl⟩ := Option.map_eq_some_iff.mp h
  exact List.head?_eq_some_iff.mp hfirst

/-- What is left of the first entry, in front of the others. -/
def behindPop (key : ReceiverQueueKey) (value : ReceiverQueueValue) (dbId : ℤ)
    (rest : List (ReceiverQueueKey×ReceiverQueueValue)) : List (ReceiverQueueKey×ReceiverQueueValue) :=
  if value.dbids.erase dbId=[] then rest else (key,{value with dbids := value.dbids.erase dbId})::rest

/-- The list after a pop. -/
theorem entries_popped {s : JsonFileReceiverQueueService} {key : ReceiverQueueKey} {value : ReceiverQueueValue}
    {rest : List (ReceiverQueueKey×ReceiverQueueValue)} (h : entries s=(key,value)::rest) (dbId : ℤ) :
    entries (popped s ⟨key,value⟩ dbId)=behindPop key value dbId rest := by
  have hsorted := Std.TreeMap.ordered_keys_toList (t:=s.storage)
  have hmem : ∀ (k : ReceiverQueueKey) (v : ReceiverQueueValue),s.storage[k]?=some v ↔ (k,v)=(key,value) ∨ (k,v)∈rest := by
    intro k v
    rw [← Std.TreeMap.mem_toList_iff_getElem?_eq_some,← List.mem_cons]
    exact iff_of_eq (congrArg _ h)
  change List.Pairwise _ (entries s) at hsorted
  rw [h] at hsorted
  -- other keys are behind the first one
  have hother : ∀ k v,(k,v)∈rest → key≠k := by
    rintro _ v hv rfl
    have hlt := compare_eq_lt.mp (List.rel_of_pairwise_cons hsorted hv)
    exact compare_asymm hlt hlt
  refine entries_eq ?_ fun k v => ?_
  · rw [behindPop]
    split
    · exact hsorted.tail
    · exact List.pairwise_cons.mpr ⟨fun _ hm => List.rel_of_pairwise_cons hsorted hm,hsorted.tail⟩
  · rw [getElem?_popped,behindPop]
    by_cases hkey : key=k
    · subst hkey
      have hnot : ∀ w,(key,w)∉rest := fun w hw => hother key w hw rfl
      rw [if_pos rfl]
      split
      · exact iff_of_false (hnot v) fun h => nomatch h
      · simp only [List.mem_cons,Prod.mk.injEq,true_and,hnot,or_false,Option.some.injEq]
        exact eq_comm
    · rw [if_neg hkey,hmem]
      have hne : ∀ w : ReceiverQueueValue,(k,v)≠(key,w) := fun w he => hkey (Prod.mk.inj he).1.symm
      split
      · exact (or_iff_right (hne value)).symm
      · rw [List.mem_cons]
        exact or_congr (iff_of_false (hne _) (hne value)) Iff.rfl

/-- A queue with the same under every key has the same list. -/
theorem entries_congr {s t : JsonFileReceiverQueueService}
    (h : ∀ key : ReceiverQueueKey,s.storage[key]?=t.storage[key]?) : entries s=entries t := by
  refine entries_eq Std.TreeMap.ordered_keys_toList fun key value => ?_
  rw [h]
  exact Std.TreeMap.mem_toList_iff_getElem?_eq_some

/-- The payloads of the queue. -/
def payloads (s : JsonFileReceiverQueueService) : Multiset Bytes := ((entries s).map fun e => e.2.payload : List Bytes)

/-- The payload under a key, if there is one. -/
def payloadAt (s : JsonFileReceiverQueueService) (key : ReceiverQueueKey) : Option Bytes :=
  s.storage[key]?.map ReceiverQueueValue.payload

/-- An entry comes to the payloads, and takes the place of what was under its
key. -/
theorem payloads_pushEntry (s : JsonFileReceiverQueueService) (entry : ReceiverQueueEntry) :
    payloads (pushEntry s entry)+((payloadAt s entry.key).toList : Multiset Bytes)=
      payloads s+([entry.value.payload] : List Bytes) := by
  have hinsert : (entries (pushEntry s entry)).Perm
      ((entry.key,entry.value)::(entries s).filter fun e => ¬entry.key==e.1) := Std.TreeMap.toList_insert_perm
  have hold : ((entries s).filter fun e => entry.key==e.1).Perm
      (s.storage[entry.key]?.toList.map fun value => (entry.key,value)) := by
    refine (List.perm_ext_iff_of_nodup ((nodup_entries s).filter _) ?_).mpr fun e => ?_
    · cases s.storage[entry.key]? with
      | none => exact List.nodup_nil
      | some value => exact List.nodup_singleton _
    · obtain ⟨key,value⟩ := e
      rw [List.mem_filter,Std.TreeMap.mem_toList_iff_getElem?_eq_some,List.mem_map,beq_iff_eq]
      constructor
      · rintro ⟨hv,rfl⟩
        exact ⟨value,Option.mem_toList.mpr hv,rfl⟩
      · rintro ⟨other,ho,he⟩
        obtain ⟨rfl,rfl⟩ := Prod.mk.inj he
        exact ⟨Option.mem_toList.mp ho,rfl⟩
  have hgone : ((payloadAt s entry.key).toList : Multiset Bytes)=
      (((entries s).filter fun e => entry.key==e.1).map fun e => e.2.payload : List Bytes) := by
    rw [Multiset.coe_eq_coe.mpr (hold.map fun e => e.2.payload),payloadAt]
    cases s.storage[entry.key]? <;> rfl
  have hsplit := (List.filter_append_perm (fun e : ReceiverQueueKey×ReceiverQueueValue => entry.key==e.1)
    (entries s)).map fun e => e.2.payload
  rw [List.map_append] at hsplit
  rw [payloads,payloads,hgone,Multiset.coe_eq_coe.mpr (hinsert.map fun e => e.2.payload),Multiset.coe_add,
    Multiset.coe_add,Multiset.coe_eq_coe]
  refine List.Perm.trans ?_ (hsplit.append_right _)
  simp only [List.map_cons,List.cons_append,decide_not,Bool.decide_eq_true]
  exact (List.Perm.cons _ List.perm_append_comm).trans (List.perm_append_singleton _ _).symm

/-- The payload that a pop takes off the queue. -/
def poppedPayload (s : JsonFileReceiverQueueService) (dbId : ℤ) : Option Bytes :=
  (head s).bind fun entry =>
    if dbId∈entry.value.dbids ∧ entry.value.dbids.erase dbId=[] then some entry.value.payload else none

/-- A pop takes this payload off and leaves the others. -/
theorem payloads_pop (s : JsonFileReceiverQueueService) (dbId : ℤ) :
    payloads (pop s dbId).1+((poppedPayload s dbId).toList : Multiset Bytes)=payloads s := by
  by_cases hnamed : ∃ entry,head s=some entry ∧ dbId∈entry.value.dbids
  · obtain ⟨entry,hhead,hid⟩ := hnamed
    obtain ⟨rest,hlist⟩ := entries_of_head hhead
    rw [poppedPayload,hhead,Option.bind_some,pop_first hhead hid,payloads,payloads,entries_popped hlist,behindPop,hlist]
    by_cases hnil : entry.value.dbids.erase dbId=[]
    · rw [if_pos hnil,if_pos ⟨hid,hnil⟩,Multiset.coe_add,Multiset.coe_eq_coe]
      exact List.perm_append_singleton _ _
    · rw [if_neg hnil,if_neg fun h => hnil h.2]
      exact add_zero _
  · have hnone : poppedPayload s dbId=none := by
      refine Option.bind_eq_none_iff.mpr fun entry hhead => ?_
      exact if_neg fun h => hnamed ⟨entry,hhead,h.1⟩
    have hsame : entries (pop s dbId).1=entries s := by
      obtain ⟨storage,hs,hsame⟩|⟨entry,hhead,hid,-⟩ := pop_cases s dbId
      · rw [hs]
        exact entries_congr hsame
      · exact absurd ⟨entry,hhead,hid⟩ hnamed
    rw [payloads,payloads,hnone,hsame]
    exact add_zero _

end LorawanServer.QueueEntries
