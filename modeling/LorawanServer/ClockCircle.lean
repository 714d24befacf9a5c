import Mathlib

/-!
# The circle of a 32-bit clock

A free running microsecond counter wraps around. The distance that one reading
is ahead of another is their difference on the circle; readings that share a
half circle are ordered by it, and an interval of the circle is the set of
readings less than its length ahead of its start.
-/

namespace LorawanServer.ClockCircle

/-- Ticks that the first reading is ahead of the second. -/
def ahead (a b : UInt32) : ℕ := (a-b).toNat

/-- The distance in the natural numbers of the readings. -/
theorem ahead_eq (a b : UInt32) : ahead a b=(4294967296-b.toNat+a.toNat)%4294967296 := by
  rw [ahead,UInt32.toNat_sub]

/-- No distance reaches the length of the circle. -/
theorem ahead_lt (a b : UInt32) : ahead a b<4294967296 := (a-b).toNat_lt

/-- A reading is not ahead of itself. -/
@[simp] theorem ahead_self (a : UInt32) : ahead a a=0 := by simp [ahead]

/-- Readings at distance zero are equal. -/
theorem eq_of_ahead_zero {a b : UInt32} (h : ahead a b=0) : a=b := by
  rw [ahead_eq] at h
  have ha := a.toNat_lt
  have hb := b.toNat_lt
  apply UInt32.toNat_inj.mp
  omega

/-- Both ways around the circle. -/
theorem ahead_add_swap {a b : UInt32} (h : a≠b) : ahead a b+ahead b a=4294967296 := by
  have hn : a.toNat≠b.toNat := fun he => h (UInt32.toNat_inj.mp he)
  have ha := a.toNat_lt
  have hb := b.toNat_lt
  rw [ahead_eq,ahead_eq]
  omega

/-- Distances add on the circle. -/
theorem ahead_trans (a b c : UInt32) : ahead a c=(ahead a b+ahead b c)%4294967296 := by
  have ha := a.toNat_lt
  have hb := b.toNat_lt
  have hc := c.toNat_lt
  rw [ahead_eq,ahead_eq,ahead_eq]
  omega

/-- Distance of a reading that moved on. -/
theorem ahead_add (a k b : UInt32) : ahead (a+k) b=(ahead a b+k.toNat)%4294967296 := by
  have ha := a.toNat_lt
  have hb := b.toNat_lt
  rw [ahead_eq,ahead_eq,UInt32.toNat_add]
  omega

/-- Seen from one base, the nearer of two readings is behind the other by the
difference of their distances. -/
theorem ahead_of_le {a b base : UInt32} (h : ahead a base ≤ ahead b base) :
    ahead b a=ahead b base-ahead a base := by
  have ha := a.toNat_lt
  have hb := b.toNat_lt
  have hc := base.toNat_lt
  simp only [ahead_eq] at h ⊢
  omega

/-- Readings at one distance from a base are equal. -/
theorem ahead_injective {a b base : UInt32} (h : ahead a base=ahead b base) : a=b := by
  apply eq_of_ahead_zero
  rw [ahead_of_le h.ge,h,Nat.sub_self]

/-- The difference of two readings as a signed number, the way a comparison
function of C reads it. -/
def signedDifference (a b : UInt32) : ℤ := (a-b).toBitVec.toInt

/-- A signed difference is not positive when the second reading is at most half
a circle ahead. -/
theorem signedDifference_nonpos_iff (a b : UInt32) : signedDifference a b ≤ 0 ↔ ahead b a ≤ 2147483648 := by
  have hd : signedDifference a b=if 2*ahead a b<4294967296 then (ahead a b : ℤ) else (ahead a b : ℤ)-4294967296 := by
    rw [signedDifference,BitVec.toInt_eq_toNat_cond]
    rfl
  have hl := ahead_lt a b
  by_cases he : a=b
  · subst he
    simp [signedDifference]
  · have hs := ahead_add_swap he
    rw [hd]
    split_ifs with hc
    · have hz : ahead a b≠0 := fun h => he (eq_of_ahead_zero h)
      omega
    · omega

/-- Within half a circle of a base the signed difference orders readings by
their distance from the base. -/
theorem signedDifference_nonpos_iff_of_window {a b base : UInt32} (ha : ahead a base<2147483648)
    (hb : ahead b base<2147483648) : signedDifference a b ≤ 0 ↔ ahead a base ≤ ahead b base := by
  rw [signedDifference_nonpos_iff]
  constructor
  · intro h
    by_contra hc
    have hlt : ahead b base<ahead a base := not_le.mp hc
    have hd := ahead_of_le hlt.le
    have hne : a≠b := by
      rintro rfl
      exact hlt.false
    have hs := ahead_add_swap hne
    omega
  · intro h
    rw [ahead_of_le h]
    omega

/-- The readings of an interval of the circle. -/
def interval (start : UInt32) (length : ℕ) : Set UInt32 := {x | ahead x start<length}

/-- Intervals are disjoint when each starts behind the end of the other. -/
theorem interval_disjoint {s t : UInt32} {m n : ℕ} (hs : n ≤ ahead s t) (ht : m ≤ ahead t s) :
    Disjoint (interval s m) (interval t n) := by
  rw [Set.disjoint_left]
  intro x hx hy
  change ahead x s < m at hx
  change ahead x t < n at hy
  rcases le_total (ahead x s) (ahead t s) with h | h
  · have hd := ahead_of_le h
    by_cases he : x=t
    · subst he
      omega
    · have hw := ahead_add_swap he
      by_cases hst : s=t
      · subst hst
        rw [ahead_self] at hs
        omega
      · have hws := ahead_add_swap hst
        omega
  · omega

end LorawanServer.ClockCircle
