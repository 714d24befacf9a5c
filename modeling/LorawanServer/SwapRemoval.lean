import Mathlib

/-!
# Removal by the last element

An array loses an element in one move when its last element takes the place.
Seen as a list the result keeps the other elements, in a new order.
-/

namespace LorawanServer.SwapRemoval

variable {α : Type*}

/-- The list without the element at a position, whose place the last element
takes. -/
def swapRemove (l : List α) (i : ℕ) : List α :=
  match l.getLast? with
  | none => []
  | some last => l.dropLast.set i last

/-- Removal from a list with a known end. -/
theorem swapRemove_concat (front : List α) (last : α) (i : ℕ) :
    swapRemove (front++[last]) i=front.set i last := by
  simp [swapRemove]

/-- One element less. -/
@[simp] theorem length_swapRemove (l : List α) (i : ℕ) : (swapRemove l i).length=l.length-1 := by
  cases l using List.reverseRecOn with
  | nil => rfl
  | append_singleton front last => simp [swapRemove_concat]

/-- An element that is replaced and the new one change places. -/
theorem cons_set_perm (l : List α) (i : ℕ) (hi : i<l.length) (a : α) :
    (l[i]::l.set i a).Perm (a::l) := by
  induction l generalizing i with
  | nil => exact absurd hi (Nat.not_lt_zero i)
  | cons b l ih =>
    cases i with
    | zero => exact List.Perm.swap a b l
    | succ i =>
      have hl : i<l.length := Nat.lt_of_succ_lt_succ hi
      calc (l[i]::b::l.set i a).Perm (b::l[i]::l.set i a) := List.Perm.swap b l[i] (l.set i a)
        _ |>.Perm (b::a::l) := (ih i hl).cons b
        _ |>.Perm (a::b::l) := List.Perm.swap a b l

/-- The element and what is left are the list. -/
theorem cons_swapRemove_perm (l : List α) (i : ℕ) (hi : i<l.length) : (l[i]::swapRemove l i).Perm l := by
  cases l using List.reverseRecOn with
  | nil => exact absurd hi (Nat.not_lt_zero i)
  | append_singleton front last =>
    rw [swapRemove_concat]
    by_cases hf : i<front.length
    · rw [List.getElem_append_left hf]
      exact (cons_set_perm front i hf last).trans (List.perm_append_singleton last front).symm
    · have he : i=front.length := by
        rw [List.length_append,List.length_singleton] at hi
        omega
      subst he
      rw [List.set_eq_of_length_le le_rfl]
      simpa using (List.perm_append_singleton last front).symm

/-- Up to the order it is the removal that closes the gap. -/
theorem swapRemove_perm (l : List α) (i : ℕ) (hi : i<l.length) : (swapRemove l i).Perm (l.eraseIdx i) :=
  ((cons_swapRemove_perm l i hi).trans (List.getElem_cons_eraseIdx_perm hi).symm).cons_inv

/-- The array behind the list, with a free part of one value: the last element
moves to the place of the removed one and its own place becomes free. -/
theorem set_set_append (l : List α) (i : ℕ) (hi : i<l.length) (free : α) (n : ℕ) :
    ((l++List.replicate n free).set i (l[l.length-1])).set (l.length-1) free=
      swapRemove l i++List.replicate (n+1) free := by
  cases l using List.reverseRecOn with
  | nil => exact absurd hi (Nat.not_lt_zero i)
  | append_singleton front last =>
    rw [swapRemove_concat]
    have hn : (front++[last]).length-1=front.length := by simp
    have hl : getElem (front++[last]) ((front++[last]).length-1) (by simp)=last := by simp
    rw [hl,hn,List.append_assoc,List.replicate_succ]
    by_cases hf : i<front.length
    · rw [List.set_append_left i last hf,List.set_append_right front.length free (by simp)]
      simp
    · have he : i=front.length := by
        rw [List.length_append,List.length_singleton] at hi
        omega
      subst he
      rw [List.set_append_right _ _ le_rfl,List.set_append_right _ _ le_rfl,List.set_eq_of_length_le le_rfl]
      simp

end LorawanServer.SwapRemoval
