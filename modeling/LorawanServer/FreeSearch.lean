import Mathlib

/-!
# Search for a free element along a chain of successors

A loop that starts at one element and moves to the next one while it finds the
element taken. The chain is a finite block: its successor function fails behind
the last element. The loop ends within the size of the block, at the first free
element when there is one and with the failure of the successor function when
there is none.
-/

namespace LorawanServer.FreeSearch

variable {α ε : Type*}

/-- The loop, with the number of elements it may look at. -/
def search (taken : α → Bool) (next : α → Except ε α) : ℕ → α → Option (Except ε α)
  | 0,_ => none
  | fuel+1,current =>
    if taken current then
      match next current with
      | .error failure => some (.error failure)
      | .ok following => search taken next fuel following
    else some (.ok current)

/-- The elements of a block in the order of the successor function. -/
structure Block (next : α → Except ε α) (failure : ε) (size : ℕ) where
  /-- Element by its position. -/
  element : ℕ → α
  /-- The next element follows. -/
  next_of_lt : ∀ i,i+1<size → next (element i)=.ok (element (i+1))
  /-- Nothing follows the last one. -/
  next_last : ∀ i,i+1=size → next (element i)=.error failure

variable {next : α → Except ε α} {failure : ε} {size : ℕ}

/-- From any position the loop finds the first free element behind it, or fails
when everything behind it is taken. -/
theorem search_block (block : Block next failure size) (taken : α → Bool) {fuel start : ℕ}
    (hstart : start<size) (hfuel : size-start≤fuel) :
    (∃ found,start≤found ∧ found<size ∧ search taken next fuel (block.element start)=
        some (.ok (block.element found)) ∧ taken (block.element found)=false ∧
        ∀ i,start≤ i → i<found → taken (block.element i)=true) ∨
      (search taken next fuel (block.element start)=some (.error failure) ∧
        ∀ i,start≤ i → i<size → taken (block.element i)=true) := by
  induction fuel generalizing start with
  | zero => omega
  | succ fuel ih =>
    cases htaken : taken (block.element start) with
    | false =>
      left
      refine ⟨start,le_refl start,hstart,?_,htaken,fun i hi hs => by omega⟩
      rw [search,htaken]
      rfl
    | true =>
      by_cases hlast : start+1=size
      · right
        constructor
        · rw [search,htaken,if_pos rfl,block.next_last start hlast]
        · intro i hi hs
          obtain rfl : i=start := by omega
          exact htaken
      · have hnext := block.next_of_lt start (by omega)
        have hstep : search taken next (fuel+1) (block.element start)=
            search taken next fuel (block.element (start+1)) := by
          rw [search,htaken,if_pos rfl,hnext]
        rw [hstep]
        -- the element at the start is taken, so every statement about what is behind it carries over
        have hextend : ∀ stop,(∀ i,start+1≤ i → i<stop → taken (block.element i)=true) →
            ∀ i,start≤ i → i<stop → taken (block.element i)=true := by
          intro stop h i hi hs
          rcases eq_or_lt_of_le hi with rfl|hlt
          · exact htaken
          · exact h i hlt hs
        rcases ih (show start+1<size by omega) (by omega) with ⟨found,hle,hlt,hs,hfree,hbefore⟩|⟨hs,hall⟩
        · left
          exact ⟨found,by omega,hlt,hs,hfree,hextend found hbefore⟩
        · right
          exact ⟨hs,hextend size hall⟩

end LorawanServer.FreeSearch
