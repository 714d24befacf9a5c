import Mathlib

/-!
# Masks of a machine word as arithmetic

Clearing the low bits, the high bits or a field in the middle of a word, and
setting bits that are clear, in terms of quotients and remainders of powers of
two. The width is a parameter; words are natural numbers below its power.
-/

namespace LorawanServer.BitFields

/-- Keeping the bits from a position on keeps the quotient. -/
theorem and_high {width low x : ℕ} (hl : low≤width) (hx : x<2^width) :
    x&&&(2^width-2^low)=x/2^low*2^low := by
  have hm : 2^width-2^low=2^low*(2^(width-low)-1) := by
    rw [Nat.mul_sub,←pow_add,Nat.add_sub_cancel' hl,Nat.mul_one]
  apply Nat.eq_of_testBit_eq
  intro bit
  rw [Nat.testBit_and,hm,Nat.testBit_two_pow_mul,Nat.testBit_two_pow_sub_one,Nat.testBit_mul_two_pow,
    Nat.testBit_div_two_pow]
  by_cases hb : low≤bit
  · rw [Nat.sub_add_cancel hb]
    by_cases hw : bit<width
    · have hd : bit-low<width-low := by omega
      simp only [ge_iff_le,hb,hd,decide_true,Bool.and_true,Bool.true_and]
    · have hz : x.testBit bit=false :=
        Nat.testBit_lt_two_pow (hx.trans_le (Nat.pow_le_pow_right (by decide) (by omega)))
      simp only [hz,Bool.false_and,Bool.and_false]
  · simp only [ge_iff_le,hb,decide_false,Bool.false_and,Bool.and_false]

/-- Bits below a position fill a word whose low bits are clear. -/
theorem or_low {low quotient rest : ℕ} (h : rest<2^low) : quotient*2^low|||rest=quotient*2^low+rest := by
  rw [Nat.mul_comm,Nat.two_pow_add_eq_or_of_lt h]

/-- Low bits below a multiple do not change its quotient. -/
theorem mul_add_div_of_lt {low quotient rest : ℕ} (h : rest<2^low) : (quotient*2^low+rest)/2^low=quotient := by
  rw [Nat.mul_comm,Nat.mul_add_div (Nat.two_pow_pos _),Nat.div_eq_of_lt h,Nat.add_zero]

/-- Clearing a field in the middle of a word keeps what is above and below. -/
theorem and_gap {width low high x : ℕ} (hlh : low≤high) (hh : high≤width) (hx : x<2^width) :
    x&&&(2^width-2^high+(2^low-1))=x/2^high*2^high+x%2^low := by
  have hp : 2^low≤2^high := Nat.pow_le_pow_right (by decide) hlh
  have hb : 2^low-1<2^high := by
    have hpos : 0<2^low := Nat.two_pow_pos low
    omega
  have hw : 2^width-2^high=(2^(width-high)-1)*2^high := by
    rw [Nat.sub_mul,←pow_add,Nat.sub_add_cancel hh,Nat.one_mul]
  have hr : x%2^low<2^high := (Nat.mod_lt _ (Nat.two_pow_pos low)).trans_le hp
  rw [hw,←or_low hb,Nat.and_or_distrib_left,←hw,and_high hh hx,Nat.and_two_pow_sub_one_eq_mod,or_low hr]

/-- A quotient by a power of two of two words set together. -/
theorem or_div (x y low : ℕ) : (x|||y)/2^low=x/2^low|||y/2^low := by
  rw [←Nat.shiftRight_eq_div_pow,←Nat.shiftRight_eq_div_pow,←Nat.shiftRight_eq_div_pow,
    Nat.shiftRight_or_distrib]

end LorawanServer.BitFields
