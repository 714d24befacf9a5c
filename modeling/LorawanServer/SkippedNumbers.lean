import Mathlib

/-!
# A count that skips some numbers

Numbers of a sorted table are left out of a count. A number is turned into the
number that is reached when those of the table are left out, and back, by counting
the skipped numbers on either side. Counting on the side without them starts from
the place in the table. The two counts agree, so the two turns are inverse.
-/

namespace LorawanServer.SkippedNumbers

variable {table : List ℕ} {k x n : ℕ}

/-- Skipped numbers up to a number that counts them. -/
def passed (table : List ℕ) (n : ℕ) : ℕ := table.countP fun skipped => skipped≤n

/-- Skipped numbers in front of a number that does not count them, of a table that
starts at the given place. -/
def ahead (k : ℕ) (table : List ℕ) (x : ℕ) : ℕ := (table.zipIdx k).countP fun skipped => skipped.1-skipped.2≤x

/-- The first entry is passed or not. -/
theorem passed_cons (first : ℕ) (rest : List ℕ) (n : ℕ) :
    passed (first::rest) n=passed rest n+if first≤n then 1 else 0 := by
  simp only [passed,List.countP_cons,decide_eq_true_eq]

/-- The first entry is ahead or not. -/
theorem ahead_cons (k first : ℕ) (rest : List ℕ) (x : ℕ) :
    ahead k (first::rest) x=ahead (k+1) rest x+if first-k≤x then 1 else 0 := by
  simp only [ahead,List.zipIdx_cons,List.countP_cons,decide_eq_true_eq]

/-- A table behind a number has no entry passed. -/
theorem passed_eq_zero (h : ∀ skipped∈table,n<skipped) : passed table n=0 :=
  List.countP_eq_zero.mpr fun skipped hs => by
    rw [decide_eq_true_iff]
    exact Nat.not_le.mpr (h skipped hs)

/-- A sorted table behind a number has no entry ahead of it. -/
theorem ahead_eq_zero (hsorted : table.Pairwise (· < ·)) (h : ∀ skipped∈table,x+k<skipped) : ahead k table x=0 := by
  induction table generalizing k with
  | nil => rfl
  | cons first rest ih =>
    obtain ⟨hfirst,hrest⟩ := List.pairwise_cons.mp hsorted
    have hlt := h first List.mem_cons_self
    rw [ahead_cons,if_neg (by omega),ih hrest fun skipped hs => ?_]
    have hbehind := hfirst skipped hs
    omega

/-- What is ahead of a number is what the number that it is turned into passes. -/
theorem passed_ahead (hsorted : table.Pairwise (· < ·)) : passed table (x+k+ahead k table x)=ahead k table x := by
  induction table generalizing k with
  | nil => rfl
  | cons first rest ih =>
    obtain ⟨hfirst,hrest⟩ := List.pairwise_cons.mp hsorted
    by_cases hle : first≤x+k
    · have hsame : x+k+(ahead (k+1) rest x+1)=x+(k+1)+ahead (k+1) rest x := by omega
      rw [ahead_cons,if_pos (by omega),passed_cons,if_pos (by omega),hsame,ih hrest]
    · have hbehind : ∀ skipped∈first::rest,x+k<skipped := by
        intro skipped hs
        rcases List.mem_cons.mp hs with rfl|hmem
        · omega
        · have hlater := hfirst skipped hmem
          omega
      rw [ahead_eq_zero hsorted hbehind,Nat.add_zero,passed_eq_zero hbehind]

/-- Between an entry and a number that is not skipped there is room for the
entries that it passes. -/
theorem passed_room {first : ℕ} (hfirst : ∀ skipped∈table,first<skipped) (hsorted : table.Pairwise (· < ·))
    (hn : n∉table) (hlt : first<n) : first+passed table n<n := by
  induction table generalizing first with
  | nil => exact hlt
  | cons second rest ih =>
    obtain ⟨hsecond,hrest⟩ := List.pairwise_cons.mp hsorted
    have hgap := hfirst second List.mem_cons_self
    by_cases hle : second≤n
    · have hne : second≠n := fun heq => hn (heq ▸ List.mem_cons_self)
      have hroom := ih hsecond hrest (fun hmem => hn (List.mem_cons_of_mem _ hmem)) (by omega)
      rw [passed_cons,if_pos hle]
      omega
    · rw [passed_eq_zero fun skipped hs => ?_]
      · exact hlt
      · rcases List.mem_cons.mp hs with rfl|hmem
        · omega
        · have hlater := hsecond skipped hmem
          omega

/-- What a number that is not skipped passes is ahead of the number that it comes
from. -/
theorem ahead_passed (hsorted : table.Pairwise (· < ·)) (hk : ∀ skipped∈table,k≤ skipped) (hkn : k≤n) (hn : n∉table) :
    ahead k table (n-k-passed table n)=passed table n := by
  induction table generalizing k with
  | nil => rfl
  | cons first rest ih =>
    obtain ⟨hfirst,hrest⟩ := List.pairwise_cons.mp hsorted
    have hkfirst := hk first List.mem_cons_self
    by_cases hle : first≤n
    · have hne : first≠n := fun heq => hn (heq ▸ List.mem_cons_self)
      have hrestn : n∉rest := fun hmem => hn (List.mem_cons_of_mem _ hmem)
      have hroom := passed_room hfirst hrest hrestn (by omega)
      have hsame : n-k-(passed rest n+1)=n-(k+1)-passed rest n := by omega
      have hstart : ∀ skipped∈rest,k+1≤ skipped := fun skipped hs => by
        have hlater := hfirst skipped hs
        omega
      rw [passed_cons,if_pos hle,ahead_cons,hsame,ih hrest hstart (by omega) hrestn,if_pos (by omega)]
    · have hbehind : ∀ skipped∈first::rest,n<skipped := by
        intro skipped hs
        rcases List.mem_cons.mp hs with rfl|hmem
        · omega
        · have hlater := hfirst skipped hmem
          omega
      rw [passed_eq_zero hbehind,Nat.sub_zero]
      exact ahead_eq_zero hsorted fun skipped hs => by
        have hlater := hbehind skipped hs
        omega

/-- A later number has at least as many entries ahead. -/
theorem ahead_mono (k : ℕ) (table : List ℕ) {x y : ℕ} (h : x≤y) : ahead k table x≤ahead k table y :=
  List.countP_mono_left fun skipped _ hs => by
    rw [decide_eq_true_iff] at hs ⊢
    omega

/-- No more entries are ahead than there are. -/
theorem ahead_le_length (k : ℕ) (table : List ℕ) (x : ℕ) : ahead k table x≤table.length :=
  List.countP_le_length.trans_eq List.length_zipIdx

/-- No more entries are passed than there are. -/
theorem passed_le_length (table : List ℕ) (n : ℕ) : passed table n≤table.length := List.countP_le_length

end LorawanServer.SkippedNumbers
