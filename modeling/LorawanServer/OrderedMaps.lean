import Mathlib

/-!
# Ordered maps and the lists of their entries

The list of a map tells its entries apart by their keys, an erasure takes one of
them out, and a map that is filled with the entries of another one, each of them
changed, holds what the other one holds, changed.
-/

namespace LorawanServer.OrderedMaps

variable {κ β γ : Type*} [Ord κ] [Std.TransOrd κ] [Std.LawfulEqOrd κ]

/-- The keys of the list are different. -/
theorem pairwise_toList (map : Std.TreeMap κ β) : map.toList.Pairwise fun a b => a.1≠b.1 :=
  Std.TreeMap.distinct_keys_toList.imp fun hne heq => hne (Std.compare_eq_iff_eq.mpr heq)

/-- Entries at two places have two keys. -/
theorem place_eq_of_key_eq (map : Std.TreeMap κ β) {first second : ℕ} {entry other : κ×β}
    (hfirst : map.toList[first]?=some entry) (hsecond : map.toList[second]?=some other) (h : entry.1=other.1) :
    first=second := by
  obtain ⟨hf,rfl⟩ := List.getElem?_eq_some_iff.mp hfirst
  obtain ⟨hs,rfl⟩ := List.getElem?_eq_some_iff.mp hsecond
  have hkeys := List.pairwise_iff_getElem.mp (pairwise_toList map)
  rcases Nat.lt_trichotomy first second with hlt|heq|hgt
  · exact absurd h (hkeys _ _ hf hs hlt)
  · exact heq
  · exact absurd h.symm (hkeys _ _ hs hf hgt)

/-- An erased key is gone from the list, and nothing else. -/
theorem toList_erase [DecidableEq κ] (map : Std.TreeMap κ β) (key : κ) :
    (map.erase key).toList=map.toList.filter fun entry => entry.1≠key := by
  have hequiv : (map.erase key).Equiv (map.filter fun other _ => other≠key) := by
    refine Std.TreeMap.Equiv.of_forall_constGet?_eq fun other => ?_
    rw [Std.TreeMap.getElem?_erase,Std.TreeMap.getElem?_filter']
    by_cases h : key=other
    · rw [if_pos (Std.compare_eq_iff_eq.mpr h),decide_eq_false (not_not.mpr h.symm)]
      cases map[other]? <;> rfl
    · rw [if_neg (mt Std.compare_eq_iff_eq.mp h),decide_eq_true (Ne.symm h)]
      cases map[other]? <;> rfl
  rw [hequiv.toList_eq,Std.TreeMap.toList_filter]

/-- A map filled with the changed entries of another one. -/
def filled (map : Std.TreeMap κ γ) (change : β → γ) (entries : List (κ×β)) : Std.TreeMap κ γ :=
  entries.foldl (fun map entry => map.insert entry.1 (change entry.2)) map

/-- Other keys hold what they held. -/
theorem getElem?_filled_other {change : β → γ} {entries : List (κ×β)} {key : κ}
    (h : ∀ entry∈entries,entry.1≠key) (base : Std.TreeMap κ γ) : (filled base change entries)[key]?=base[key]? := by
  induction entries generalizing base with
  | nil => rfl
  | cons entry rest ih =>
    have hne : ¬ compare entry.1 key=.eq := mt Std.compare_eq_iff_eq.mp (h entry List.mem_cons_self)
    rw [filled,List.foldl_cons,← filled,ih (fun other hother => h other (List.mem_cons_of_mem _ hother)),
      Std.TreeMap.getElem?_insert,if_neg hne]

/-- A key of one entry holds what that entry says. -/
theorem getElem?_filled_self {change : β → γ} {entries : List (κ×β)} (hkeys : entries.Pairwise fun a b => a.1≠b.1)
    {key : κ} {value : β} (h : (key,value)∈entries) (base : Std.TreeMap κ γ) :
    (filled base change entries)[key]?=some (change value) := by
  induction entries generalizing base with
  | nil => cases h
  | cons entry rest ih =>
    obtain ⟨hfirst,hrest⟩ := List.pairwise_cons.mp hkeys
    rw [filled,List.foldl_cons,← filled]
    rcases List.mem_cons.mp h with heq|hmem
    · obtain rfl := heq
      rw [getElem?_filled_other fun other hother => (hfirst other hother).symm,Std.TreeMap.getElem?_insert_self]
    · exact ih hrest hmem _

/-- What a map filled with the list of another one holds. -/
theorem getElem?_filled_toList (change : β → γ) (base : Std.TreeMap κ γ) (map : Std.TreeMap κ β) (key : κ) :
    (filled base change map.toList)[key]?=(map[key]?.map change).or base[key]? := by
  cases hvalue : map[key]? with
  | none =>
    refine getElem?_filled_other (fun entry hentry heq => ?_) base
    rw [← heq,Std.TreeMap.mem_toList_iff_getElem?_eq_some.mp hentry] at hvalue
    cases hvalue
  | some value =>
    exact getElem?_filled_self (pairwise_toList map) (Std.TreeMap.mem_toList_iff_getElem?_eq_some.mpr hvalue) base

/-- A map after some writes. -/
def written (map : Std.TreeMap κ β) (writes : List (κ×β)) : Std.TreeMap κ β :=
  writes.foldl (fun map write => map.insert write.1 write.2) map

/-- What was written last under a key. -/
def lastWrite [DecidableEq κ] (key : κ) : List (κ×β) → Option β
  | [] => none
  | write::rest => (lastWrite key rest).or (if write.1=key then some write.2 else none)

/-- A map holds what was written last under a key, else what it held. -/
theorem getElem?_written [DecidableEq κ] (map : Std.TreeMap κ β) (writes : List (κ×β)) (key : κ) :
    (written map writes)[key]?=(lastWrite key writes).or map[key]? := by
  induction writes generalizing map with
  | nil => rfl
  | cons write rest ih =>
    rw [written,List.foldl_cons,← written,ih,lastWrite,Option.or_assoc,Std.TreeMap.getElem?_insert]
    by_cases h : write.1=key
    · rw [if_pos (Std.compare_eq_iff_eq.mpr h),if_pos h,Option.some_or]
    · rw [if_neg (mt Std.compare_eq_iff_eq.mp h),if_neg h,Option.none_or]

end LorawanServer.OrderedMaps
