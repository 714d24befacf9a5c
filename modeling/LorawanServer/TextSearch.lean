import Mathlib

/-!
# Where a pattern stands in a text

A pattern stands at a position of a text if the text goes on with it there. In
two texts with a mark between them that the pattern does not have, it stands on
one side of the mark. So a first place in the front text stays the first one,
whatever is behind the mark, and a pattern that the front text does not have can
only be found behind it.
-/

namespace LorawanServer.TextSearch

variable {α : Type*} {text pattern rest : List α} {mark : α} {position i : ℕ}

/-- The pattern stands in the text at the position. -/
def MatchesAt (text pattern : List α) (i : ℕ) : Prop := pattern <+: text.drop i

/-- The first place of the pattern from the position on. -/
structure FirstMatch (text pattern : List α) (position i : ℕ) : Prop where
  /-- It is not in front of the position. -/
  behind : position≤ i
  /-- The pattern stands there. -/
  place : MatchesAt text pattern i
  /-- It does not stand earlier. -/
  first : ∀ j,position≤ j → j< i → ¬ MatchesAt text pattern j

/-- There is no place from the position on. -/
def Absent (text pattern : List α) (position : ℕ) : Prop := ∀ j,position≤ j → ¬ MatchesAt text pattern j

/-- What stands behind a mark. -/
theorem drop_append_mark (text rest : List α) (mark : α) (j : ℕ) :
    (text++mark::rest).drop (text.length+1+j)=rest.drop j := by
  rw [Nat.add_assoc,List.drop_length_add_append,Nat.add_comm 1 j,List.drop_succ_cons]

/-- A pattern without the mark stands on one side of it. -/
theorem matchesAt_append_mark (hmark : mark∉pattern) (i : ℕ) :
    MatchesAt (text++mark::rest) pattern i ↔
      (i≤text.length ∧ MatchesAt text pattern i) ∨
        ∃ j,i=text.length+1+j ∧ MatchesAt rest pattern j := by
  constructor
  · intro h
    by_cases hi : i≤text.length
    · left
      refine ⟨hi,?_⟩
      rw [MatchesAt,List.drop_append_of_le_length hi] at h
      rcases List.prefix_or_prefix_of_prefix h (List.prefix_append _ _) with hin|⟨more,hmore⟩
      · exact hin
      · rw [←hmore] at h
        cases more with
        | nil =>
          rw [List.append_nil] at hmore
          exact hmore ▸ List.prefix_rfl
        | cons byte tail =>
          obtain ⟨rfl,-⟩ := List.cons_prefix_cons.mp ((List.prefix_append_right_inj _).mp h)
          exact absurd (hmore ▸ List.mem_append_right _ List.mem_cons_self) hmark
    · right
      obtain ⟨j,rfl⟩ := Nat.exists_eq_add_of_le (Nat.succ_le_of_lt (not_le.mp hi))
      refine ⟨j,rfl,?_⟩
      rwa [MatchesAt,Nat.succ_eq_add_one,drop_append_mark] at h
  · rintro (⟨hi,h⟩|⟨j,rfl,h⟩)
    · rw [MatchesAt,List.drop_append_of_le_length hi]
      exact h.trans (List.prefix_append _ _)
    · rwa [MatchesAt,drop_append_mark]

/-- A pattern that stands somewhere fits there. -/
theorem MatchesAt.fits (h : MatchesAt text pattern i) (hne : pattern≠[]) :
    i+pattern.length≤text.length := by
  have hlength := h.length_le
  have hpositive := List.length_pos_of_ne_nil hne
  rw [List.length_drop] at hlength
  omega

/-- The letters of a pattern stand one behind the other. -/
theorem MatchesAt.getElem? (h : MatchesAt text pattern i) {k : ℕ}
    (hk : k<pattern.length) : text[i+k]?=pattern[k]? := by
  obtain ⟨tail,htail⟩ := h
  rw [←List.getElem?_drop,←htail,List.getElem?_append_left hk]

/-- A first place stays the first one with a mark and more behind the text. -/
theorem FirstMatch.append_mark (h : FirstMatch text pattern position i) (hne : pattern≠[]) (hmark : mark∉pattern)
    (rest : List α) : FirstMatch (text++mark::rest) pattern position i := by
  have hfits := h.place.fits hne
  refine ⟨h.behind,(matchesAt_append_mark hmark i).mpr (.inl ⟨by omega,h.place⟩),fun j hj hlt hmatch => ?_⟩
  rcases (matchesAt_append_mark hmark j).mp hmatch with ⟨-,hin⟩|⟨k,rfl,-⟩
  · exact h.first j hj hlt hin
  · omega

/-- What the text does not have can only stand behind the mark. -/
theorem Absent.behind_mark (h : Absent text pattern position) (hmark : mark∉pattern) (hbehind : position≤ i)
    (hmatch : MatchesAt (text++mark::rest) pattern i) : ∃ j,i=text.length+1+j ∧ MatchesAt rest pattern j := by
  rcases (matchesAt_append_mark hmark i).mp hmatch with ⟨-,hin⟩|hrest
  · exact absurd hin (h i hbehind)
  · exact hrest

/-- More marks bring no place. -/
theorem Absent.append_marks (h : Absent text pattern position) (hne : pattern≠[]) (hmark : mark∉pattern) (count : ℕ) :
    Absent (text++mark::List.replicate count mark) pattern position := by
  intro i hi hmatch
  obtain ⟨j,-,hmatch⟩ := h.behind_mark hmark hi hmatch
  obtain ⟨letter,tail,rfl⟩ := List.exists_cons_of_ne_nil hne
  have hmem : letter∈(List.replicate count mark).drop j := hmatch.subset List.mem_cons_self
  have hletter : letter=mark := List.eq_of_mem_replicate (List.mem_of_mem_drop hmem)
  exact hmark (hletter ▸ List.mem_cons_self)

/-- A pattern right behind the mark is first found there, if the text has none. -/
theorem Absent.firstMatch_behind (h : Absent text pattern position) (hmark : mark∉pattern)
    (hinside : position≤text.length) (tail : List α) :
    FirstMatch (text++mark::(pattern++tail)) pattern position (text.length+1) := by
  refine ⟨by omega,(matchesAt_append_mark hmark _).mpr (.inr ⟨0,rfl,List.prefix_append _ _⟩),fun j hj hlt hmatch => ?_⟩
  obtain ⟨k,rfl,-⟩ := h.behind_mark hmark hj hmatch
  omega

end LorawanServer.TextSearch
