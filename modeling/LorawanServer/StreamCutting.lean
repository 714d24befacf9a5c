import Mathlib

/-!
# Cutting a stream into items

A cutter tells how long the item at the front of a stream is, if one begins
there, and reads no further than that item. Every stream is cut into its items
and a rest at whose front no item begins, and it is cut in one way: items that
follow each other are found again, whatever stands behind them.
-/

namespace LorawanServer.StreamCutting

/-- Where the first item of a stream ends. -/
structure Cutter (α : Type*) where
  /-- Length of the item at the front. -/
  first : List α → Option ℕ
  /-- An item is not empty and lies inside the stream. -/
  inside : ∀ {s : List α} {n : ℕ},first s=some n → 0<n ∧ n ≤ s.length
  /-- What stands behind an item does not change it. -/
  ahead : ∀ {s : List α} {n : ℕ},first s=some n → ∀ t,first (s.take n++t)=some n

namespace Cutter

variable {α : Type*} (c : Cutter α)

/-- The items of a stream. -/
def items (s : List α) : List (List α) :=
  match _h : c.first s with
  | none => []
  | some n => s.take n::items (s.drop n)
termination_by s.length
decreasing_by
  have hin := c.inside _h
  rw [List.length_drop]
  omega

/-- What no item takes. -/
def rest (s : List α) : List α := s.drop (c.items s).flatten.length

/-- The text is one item. -/
def IsItem (item : List α) : Prop := c.first item=some item.length

variable {c}

/-- Length of the first item. -/
theorem length_first {s : List α} {n : ℕ} (h : c.first s=some n) : (s.take n).length=n := by
  rw [List.length_take]
  exact min_eq_left (c.inside h).2

/-- A stream without an item at its front. -/
theorem items_of_none {s : List α} (h : c.first s=none) : c.items s=[] := by
  rw [items]
  split
  · rfl
  · next hsome => rw [h] at hsome; cases hsome

/-- A stream with an item at its front. -/
theorem items_of_some {s : List α} {n : ℕ} (h : c.first s=some n) :
    c.items s=s.take n::c.items (s.drop n) := by
  rw [items]
  split
  · next hnone => rw [h] at hnone; cases hnone
  · next m hsome =>
    rw [h] at hsome
    rw [Option.some.inj hsome]

/-- Induction over the items of a stream. -/
theorem induction {motive : List α → Prop} (s : List α)
    (hnone : ∀ s,c.first s=none → motive s)
    (hsome : ∀ s n,c.first s=some n → motive (s.drop n) → motive s) : motive s := by
  induction hn : s.length using Nat.strong_induction_on generalizing s with
  | _ length ih =>
    cases hf : c.first s with
    | none => exact hnone s hf
    | some n =>
      have hin := c.inside hf
      refine hsome s n hf (ih _ ?_ _ rfl)
      rw [List.length_drop]
      omega

/-- Items and rest together are the stream. -/
theorem flatten_append_rest (s : List α) : (c.items s).flatten++c.rest s=s := by
  have hstart : (c.items s).flatten<+:s := by
    induction s using c.induction with
    | hnone s h =>
      rw [items_of_none h]
      exact List.nil_prefix
    | hsome s n h ih =>
      rw [items_of_some h,List.flatten_cons]
      have hfront := (List.prefix_append_right_inj (s.take n)).mpr ih
      rwa [List.take_append_drop] at hfront
  obtain ⟨behind,hbehind⟩ := hstart
  have hrest : c.rest s=behind := by
    have hdrop := @List.drop_left _ (c.items s).flatten behind
    rwa [hbehind] at hdrop
  rw [hrest,hbehind]

/-- The rest of a stream without an item at its front. -/
theorem rest_of_none {s : List α} (h : c.first s=none) : c.rest s=s := by
  rw [rest,items_of_none h]
  rfl

/-- The rest of a stream with an item at its front. -/
theorem rest_of_some {s : List α} {n : ℕ} (h : c.first s=some n) : c.rest s=c.rest (s.drop n) := by
  rw [rest,rest,items_of_some h,List.flatten_cons,List.length_append,length_first h,List.drop_drop]

/-- No item begins at the front of a rest. -/
theorem first_rest (s : List α) : c.first (c.rest s)=none := by
  induction s using c.induction with
  | hnone s h => rwa [rest_of_none h]
  | hsome s n h ih => rwa [rest_of_some h]

/-- What a cutter takes is an item. -/
theorem isItem_take {s : List α} {n : ℕ} (h : c.first s=some n) : c.IsItem (s.take n) := by
  have hahead := c.ahead h []
  rw [List.append_nil] at hahead
  rwa [IsItem,length_first h]

/-- The items of a stream are items. -/
theorem isItem_of_mem {s item : List α} (h : item∈c.items s) : c.IsItem item := by
  induction s using c.induction with
  | hnone s hf =>
    rw [items_of_none hf] at h
    exact absurd h List.not_mem_nil
  | hsome s n hf ih =>
    rw [items_of_some hf] at h
    rcases List.mem_cons.mp h with rfl|h
    · exact isItem_take hf
    · exact ih h

/-- An item is found at the front, whatever stands behind it. -/
theorem IsItem.first {item : List α} (h : c.IsItem item) (t : List α) : c.first (item++t)=some item.length := by
  have hahead := c.ahead h t
  rwa [List.take_length] at hahead

/-- An item has a first element. -/
theorem IsItem.ne_nil {item : List α} (h : c.IsItem item) : item≠[] := by
  rintro rfl
  exact absurd (c.inside h).1 (lt_irrefl 0)

/-- Items that follow each other are found again. -/
theorem items_append {list : List (List α)} (h : ∀ item∈list,c.IsItem item) (t : List α) :
    c.items (list.flatten++t)=list++c.items t := by
  induction list with
  | nil => rfl
  | cons item list ih =>
    rw [List.forall_mem_cons] at h
    rw [List.flatten_cons,List.append_assoc,items_of_some (h.1.first _),List.take_left,List.drop_left,ih h.2,
      List.cons_append]

/-- So they are in front of a text at whose front no item begins. -/
theorem items_flatten_append {list : List (List α)} (h : ∀ item∈list,c.IsItem item) {t : List α}
    (ht : c.first t=none) : c.items (list.flatten++t)=list := by
  rw [items_append h,items_of_none ht,List.append_nil]

end Cutter

end LorawanServer.StreamCutting
