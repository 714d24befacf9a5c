import Mathlib

/-!
# Windows and pages of a list

A window is what a call with an offset and a size should list, a page one of the
windows at the multiples of its size. A loop that passes the entries in front of
an offset and ends at a limit lists what is between the two. Where each page is
its window the pages are the whole list, and where only the first one has
entries they are that page.
-/

namespace LorawanServer.ListWindows

variable {α : Type*}

/-- The entries from a position on, at most so many, all of them when the size
is zero. -/
def window (offset size : ℕ) (entries : List α) : List α :=
  if size=0 then entries.drop offset else (entries.drop offset).take size

/-- A list call gives the window of all entries. -/
def Paged (list : ℕ → ℕ → List α) (entries : List α) (offset size : ℕ) : Prop :=
  list offset size=window offset size entries

/-- Pages of so many entries. -/
def pageCount (count size : ℕ) : ℕ := (count+size-1)/size

/-- The pages one behind the other. -/
def pages (list : ℕ → ℕ → List α) (count size : ℕ) : List α :=
  (List.range (pageCount count size)).flatMap fun i => list (i*size) size

/-- A loop over the entries that passes those in front of the offset and ends at
the limit. -/
def scan (offset limit : ℕ) : ℕ → List α → List α
  | _,[] => []
  | c,entry::rest =>
    if c<offset then scan offset limit (c+1) rest
    else if limit≤c then []
    else entry::scan offset limit (c+1) rest

variable {entries : List α} {size : ℕ}

/-- It gives the entries between the two. -/
theorem scan_eq (offset limit c : ℕ) (entries : List α) :
    scan offset limit c entries=(entries.drop (offset-c)).take (limit-max offset c) := by
  induction entries generalizing c with
  | nil => rw [scan,List.drop_nil,List.take_nil]
  | cons entry rest ih =>
    rw [scan,ih]
    split_ifs with hpass hend
    · have hdrop : offset-c=offset-(c+1)+1 := by omega
      rw [hdrop,List.drop_succ_cons,Nat.max_eq_left hpass.le,Nat.max_eq_left hpass]
    · rw [Nat.max_eq_right (not_lt.mp hpass),Nat.sub_eq_zero_of_le hend,List.take_zero]
    · have hpassed : offset≤c := not_lt.mp hpass
      have htake : limit-c=limit-(c+1)+1 := by omega
      rw [Nat.max_eq_right hpassed,Nat.max_eq_right (hpassed.trans c.le_succ),Nat.sub_eq_zero_of_le hpassed,
        Nat.sub_eq_zero_of_le (hpassed.trans c.le_succ),List.drop_zero,List.drop_zero,htake,List.take_succ_cons]

/-- A page begins at an entry. -/
theorem lt_pageCount {i count : ℕ} (hsize : 0<size) : i<pageCount count size ↔ i*size<count := by
  rw [pageCount,Nat.lt_iff_add_one_le,Nat.le_div_iff_mul_le hsize,Nat.add_mul,Nat.one_mul]
  omega

/-- The pages reach all entries. -/
theorem le_pageCount_mul (count : ℕ) (hsize : 0<size) : count≤pageCount count size*size := by
  by_contra hless
  exact absurd ((lt_pageCount hsize).mpr (not_le.mp hless)) (lt_irrefl _)

/-- Where every page is its window the pages are the whole store. -/
theorem pages_of_windows {list : ℕ → ℕ → List α} (hsize : 0<size)
    (h : ∀ i,i*size<entries.length → Paged list entries (i*size) size) :
    pages list entries.length size=entries := by
  have hfront : ∀ k≤pageCount entries.length size,
      ((List.range k).flatMap fun i => list (i*size) size)=entries.take (k*size) := by
    intro k hk
    induction k with
    | zero => rw [Nat.zero_mul,List.take_zero,List.range_zero,List.flatMap_nil]
    | succ k ih =>
      have hpage := h k ((lt_pageCount hsize).mp hk)
      rw [Paged,window,if_neg hsize.ne'] at hpage
      rw [List.range_succ,List.flatMap_append,ih (by omega),List.flatMap_singleton,hpage,Nat.add_mul,Nat.one_mul,
        List.take_add]
  rw [pages,hfront _ le_rfl,List.take_of_length_le (le_pageCount_mul _ hsize)]

/-- Where only the first page has entries the pages are that one. -/
theorem pages_of_first {list : ℕ → ℕ → List α} (hsize : 0<size) (hfirst : list 0 size=entries.take size)
    (hrest : ∀ i,0< i → list (i*size) size=[]) : pages list entries.length size=entries.take size := by
  cases hcount : pageCount entries.length size with
  | zero =>
    have hnone := le_pageCount_mul entries.length hsize
    rw [hcount,Nat.zero_mul,Nat.le_zero,List.length_eq_zero_iff] at hnone
    rw [pages,hcount,hnone,List.take_nil,List.range_zero,List.flatMap_nil]
  | succ k =>
    have hothers : ((List.range k).map Nat.succ).flatMap (fun i => list (i*size) size)=[] := by
      refine List.flatMap_eq_nil_iff.mpr fun i hi => ?_
      obtain ⟨j,-,rfl⟩ := List.mem_map.mp hi
      exact hrest _ j.succ_pos
    rw [pages,hcount,List.range_succ_eq_map,List.flatMap_cons,Nat.zero_mul,hfirst,hothers,List.append_nil]

end LorawanServer.ListWindows
