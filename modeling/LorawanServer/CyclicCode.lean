import Mathlib

/-!
# Remainders of cyclic codes

A shift register divides a bit string by a polynomial. The register is additive
in its content and its input, so two strings have one remainder exactly when the
remainder of their difference is zero. A difference of an odd number of bits
changes the parity, one of two bits is seen as long as the register has not come
back, and one inside as many bits as the register has is never divided without
remainder.
-/

namespace LorawanServer.CyclicCode

variable {w : ℕ}

/-- A shift of the register. What leaves at the top subtracts the polynomial,
whose leading term is not written. -/
def shift (poly r : BitVec (w+1)) : BitVec (w+1) := if r.msb then r <<< 1 ^^^ poly else r <<< 1

/-- A bit at the top of the register. -/
def top (bit : Bool) : BitVec (w+1) := if bit then BitVec.twoPow (w+1) w else 0

/-- A bit enters. -/
def feed (poly r : BitVec (w+1)) (bit : Bool) : BitVec (w+1) := shift poly (r ^^^ top bit)

/-- The register behind a bit string. -/
def remainder (poly r : BitVec (w+1)) (bits : List Bool) : BitVec (w+1) := bits.foldl (feed poly) r

/-- Where two bit strings differ. -/
def difference (xs ys : List Bool) : List Bool := List.zipWith xor xs ys

/-- The highest bit of the register. -/
theorem msb_eq (r : BitVec (w+1)) : r.msb=r.getLsbD w := by
  rw [BitVec.msb_eq_getLsbD_last,Nat.add_sub_cancel]

/-- The bits of a shifted register. -/
theorem getLsbD_shift (poly r : BitVec (w+1)) {i : ℕ} (hi : i<w+1) :
    (shift poly r).getLsbD i=xor (decide (i≠0) && r.getLsbD (i-1)) (r.getLsbD w && poly.getLsbD i) := by
  have hs : (r <<< 1).getLsbD i=(decide (i≠0) && r.getLsbD (i-1)) := by
    rw [BitVec.getLsbD_shiftLeft,decide_eq_true hi,Bool.true_and]
    congr 1
    rw [←decide_not]
    exact decide_eq_decide.mpr (by omega)
  rw [shift,msb_eq]
  cases hm : r.getLsbD w with
  | false => rw [if_neg Bool.false_ne_true,hs,Bool.false_and,Bool.xor_false]
  | true => rw [if_pos rfl,BitVec.getLsbD_xor,hs,Bool.true_and]

/-- A bit at the top. -/
theorem getLsbD_top (bit : Bool) (i : ℕ) : (top bit : BitVec (w+1)).getLsbD i=(decide (i=w) && bit) := by
  cases bit with
  | false => rw [top,if_neg Bool.false_ne_true,Bool.and_false]; exact BitVec.getLsbD_zero
  | true =>
    rw [top,if_pos rfl,BitVec.getLsbD_twoPow,Bool.and_true]
    by_cases hi : i=w
    · subst hi
      simp
    · rw [decide_eq_false hi,decide_eq_false (Ne.symm hi),Bool.and_false]

/-- Shifts are additive. -/
theorem shift_xor (poly a b : BitVec (w+1)) : shift poly (a ^^^ b)=shift poly a ^^^ shift poly b := by
  apply BitVec.eq_of_getLsbD_eq
  intro i hi
  simp only [BitVec.getLsbD_xor,getLsbD_shift poly _ hi]
  cases decide (i≠0) <;> cases a.getLsbD (i-1) <;> cases b.getLsbD (i-1) <;> cases a.getLsbD w <;>
    cases b.getLsbD w <;> cases poly.getLsbD i <;> rfl

/-- The top is additive. -/
theorem top_xor (x y : Bool) : (top (xor x y) : BitVec (w+1))=top x ^^^ top y := by
  cases x <;> cases y <;> simp [top]

/-- A fed register is additive. -/
theorem feed_xor (poly a b : BitVec (w+1)) (x y : Bool) :
    feed poly (a ^^^ b) (xor x y)=feed poly a x ^^^ feed poly b y := by
  have hx : a ^^^ b ^^^ (top x ^^^ top y)=(a ^^^ top x) ^^^ (b ^^^ top y) := by ac_rfl
  rw [feed,top_xor,hx,shift_xor]
  rfl

/-- Remainders are additive. -/
theorem remainder_difference (poly : BitVec (w+1)) (a b : BitVec (w+1)) {xs ys : List Bool}
    (h : xs.length=ys.length) :
    remainder poly (a ^^^ b) (difference xs ys)=remainder poly a xs ^^^ remainder poly b ys := by
  induction xs generalizing ys a b with
  | nil =>
    rw [List.length_eq_zero_iff.mp h.symm]
    rfl
  | cons x xs ih =>
    cases ys with
    | nil => cases h
    | cons y ys =>
      have hstep : remainder poly (a ^^^ b) (difference (x::xs) (y::ys))=
          remainder poly (feed poly (a ^^^ b) (xor x y)) (difference xs ys) := rfl
      rw [hstep,feed_xor,ih _ _ (Nat.succ.inj h)]
      rfl

/-- Two strings have one remainder exactly when their difference has none. -/
theorem remainder_eq_iff (poly r : BitVec (w+1)) {xs ys : List Bool} (h : xs.length=ys.length) :
    remainder poly r xs=remainder poly r ys ↔ remainder poly 0 (difference xs ys)=0 := by
  have hd := remainder_difference poly r r h
  rw [BitVec.xor_self] at hd
  rw [show (0 : BitVec (w+1))=0#(w+1) from rfl,hd,BitVec.xor_eq_zero_iff]

/-- The register behind two strings. -/
theorem remainder_append (poly r : BitVec (w+1)) (front back : List Bool) :
    remainder poly r (front++back)=remainder poly (remainder poly r front) back := List.foldl_append

/-- Zeros shift the register. -/
theorem remainder_zeros (poly r : BitVec (w+1)) (n : ℕ) :
    remainder poly r (List.replicate n false)=(shift poly)^[n] r := by
  induction n generalizing r with
  | zero => rfl
  | succ n ih =>
    have hf : feed poly r false=shift poly r := by
      rw [feed,top,if_neg Bool.false_ne_true]
      exact congrArg _ BitVec.xor_zero
    rw [List.replicate_succ,Function.iterate_succ_apply,←ih,←hf]
    rfl

/-- An empty register stays empty. -/
theorem shift_zero (poly : BitVec (w+1)) : shift poly 0=0 := by
  apply BitVec.eq_of_getLsbD_eq
  intro i hi
  rw [getLsbD_shift poly 0 hi]
  simp

/-- Under zeros too. -/
theorem iterate_shift_zero (poly : BitVec (w+1)) (n : ℕ) : (shift poly)^[n] 0=0 :=
  Function.iterate_fixed (shift_zero poly) n

/-- With a constant term in the polynomial no shift empties the register. -/
theorem shift_injective {poly : BitVec (w+1)} (hodd : poly.getLsbD 0=true) : Function.Injective (shift poly) := by
  intro a b h
  rw [←BitVec.xor_eq_zero_iff]
  have hz : shift poly (a ^^^ b)=0#(w+1) := by rw [shift_xor,h,BitVec.xor_self]
  generalize a ^^^ b=r at hz
  have hbit : ∀ i,i<w+1 →
      xor (decide (i≠0) && r.getLsbD (i-1)) (r.getLsbD w && poly.getLsbD i)=false := by
    intro i hi
    rw [←getLsbD_shift poly r hi,hz,BitVec.getLsbD_zero]
  have hm : r.getLsbD w=false := by
    have h0 := hbit 0 (Nat.succ_pos w)
    rwa [hodd,decide_eq_false (fun hc => hc rfl),Bool.false_and,Bool.false_xor,Bool.and_true] at h0
  apply BitVec.eq_of_getLsbD_eq
  intro i hi
  rw [BitVec.getLsbD_zero]
  by_cases hw : i=w
  · rw [hw,hm]
  · have hnext := hbit (i+1) (by omega)
    rwa [hm,Bool.false_and,Bool.xor_false,decide_eq_true (Nat.succ_ne_zero i),Bool.true_and,
      Nat.add_sub_cancel] at hnext

/-- Register content that is met by the given bits one after the other. -/
def aligned : List Bool → BitVec (w+1)
  | [] => 0
  | bit::bits => top bit ^^^ aligned bits >>> 1

/-- The bits of an aligned string, from the top. -/
theorem getLsbD_aligned (bits : List Bool) {i : ℕ} (hi : i ≤ w) :
    (aligned bits : BitVec (w+1)).getLsbD i=bits.getD (w-i) false := by
  induction bits generalizing i with
  | nil => exact BitVec.getLsbD_zero
  | cons bit bits ih =>
    rw [aligned,BitVec.getLsbD_xor,getLsbD_top,BitVec.getLsbD_ushiftRight]
    rcases Nat.eq_or_lt_of_le hi with rfl | hlt
    · rw [decide_eq_true rfl,Bool.true_and,Nat.sub_self,BitVec.getLsbD_of_ge _ _ (by omega),Bool.xor_false]
      rfl
    · rw [decide_eq_false hlt.ne,Bool.false_and,Bool.false_xor,ih (by omega)]
      have hs : w-i=w-(1+i)+1 := by omega
      rw [hs,List.getD_cons_succ]

/-- A string that fits into the register enters as a whole. -/
theorem remainder_aligned (poly r : BitVec (w+1)) {bits : List Bool} (h : bits.length ≤ w+1) :
    remainder poly r bits=(shift poly)^[bits.length] (r ^^^ aligned bits) := by
  induction bits generalizing r with
  | nil => exact BitVec.xor_zero.symm
  | cons bit bits ih =>
    rw [List.length_cons] at h
    have hback : shift poly (aligned bits >>> 1)=aligned bits := by
      apply BitVec.eq_of_getLsbD_eq
      intro i hi
      rw [getLsbD_shift poly _ hi,BitVec.getLsbD_ushiftRight,BitVec.getLsbD_ushiftRight,
        BitVec.getLsbD_of_ge _ (1+w) (by omega),Bool.false_and,Bool.xor_false]
      by_cases h0 : i=0
      · rw [h0,getLsbD_aligned bits (Nat.zero_le w),List.getD_eq_default _ _ (by omega)]
        rfl
      · rw [decide_eq_true h0,Bool.true_and,Nat.add_sub_cancel' (Nat.one_le_iff_ne_zero.mpr h0)]
    have hstep : remainder poly r (bit::bits)=remainder poly (feed poly r bit) bits := rfl
    have hsplit : r ^^^ aligned (bit::bits)=(r ^^^ top bit) ^^^ aligned bits >>> 1 := by
      rw [aligned]
      ac_rfl
    rw [hstep,ih _ (by omega),List.length_cons,Function.iterate_succ_apply,hsplit,shift_xor,hback]
    rfl

/-- A string that is aligned to nothing has no bit set. -/
theorem aligned_eq_zero {bits : List Bool} (h : bits.length ≤ w+1) (hz : (aligned bits : BitVec (w+1))=0) :
    true∉bits := by
  intro hm
  obtain ⟨j,hj,ht⟩ := List.getElem_of_mem hm
  have hbit := @getLsbD_aligned w bits (w-j) (Nat.sub_le w j)
  rw [hz,Nat.sub_sub_self (by omega),List.getD_eq_getElem _ _ hj,ht] at hbit
  exact absurd hbit.symm (by simp)

/-- A difference inside as many bits as the register has. -/
def Burst (w : ℕ) (bits : List Bool) : Prop :=
  ∃ p burst q,bits=List.replicate p false++(burst++List.replicate q false) ∧ burst.length ≤ w+1 ∧ true∈burst

/-- Bursts are not divided without remainder. -/
theorem Burst.remainder_ne {poly : BitVec (w+1)} (hodd : poly.getLsbD 0=true) {bits : List Bool} (h : Burst w bits) :
    remainder poly 0 bits≠0 := by
  obtain ⟨p,burst,q,rfl,hlength,hm⟩ := h
  rw [remainder_append,remainder_zeros poly 0 p,iterate_shift_zero,remainder_append,remainder_zeros,
    remainder_aligned poly 0 hlength]
  intro hz
  have hburst : (shift poly)^[burst.length] (0 ^^^ aligned burst)=0 :=
    (shift_injective hodd).iterate q (hz.trans (iterate_shift_zero poly q).symm)
  have haligned : 0 ^^^ aligned burst=(0 : BitVec (w+1)) :=
    (shift_injective hodd).iterate burst.length (hburst.trans (iterate_shift_zero poly burst.length).symm)
  exact aligned_eq_zero hlength (BitVec.zero_xor.symm.trans haligned) hm

/-- Differences of strings that are put together. -/
theorem difference_append {xs ys : List Bool} (h : xs.length=ys.length) (xs' ys' : List Bool) :
    difference (xs++xs') (ys++ys')=difference xs ys++difference xs' ys' := List.zipWith_append h

/-- Strings without a difference are one. -/
theorem eq_of_difference {xs ys : List Bool} (h : xs.length=ys.length) (hz : (difference xs ys).count true=0) :
    xs=ys := by
  induction xs generalizing ys with
  | nil => exact (List.length_eq_zero_iff.mp h.symm).symm
  | cons x xs ih =>
    cases ys with
    | nil => cases h
    | cons y ys =>
      have hcons : difference (x::xs) (y::ys)=xor x y::difference xs ys := rfl
      rw [hcons] at hz
      have hxy : xor x y=false := by
        cases hb : xor x y with
        | false => rfl
        | true =>
          rw [hb,List.count_cons_self] at hz
          omega
      rw [hxy,List.count_cons_of_ne Bool.false_ne_true] at hz
      rw [ih (Nat.succ.inj h) hz,bne_eq_false_iff_eq.mp hxy]

/-- The content of a register from the top. -/
def word (r : BitVec (w+1)) : List Bool := (List.range (w+1)).map fun i => r.getLsbD (w-i)

/-- A register is aligned to its own content. -/
theorem aligned_word (r : BitVec (w+1)) : aligned (word r)=r := by
  apply BitVec.eq_of_getLsbD_eq
  intro i hi
  rw [getLsbD_aligned _ (by omega),word,List.getD_eq_getElem _ _ (by simp),List.getElem_map,
    List.getElem_range]
  congr 1
  omega

/-- A string that is followed by its remainder is divided. -/
theorem remainder_word (poly r : BitVec (w+1)) : remainder poly r (word r)=0 := by
  rw [remainder_aligned poly r (by simp [word]),aligned_word,BitVec.xor_self]
  exact iterate_shift_zero poly _

/-- A bit as a number modulo two. -/
def bitParity (bit : Bool) : ZMod 2 := if bit then 1 else 0

/-- Parity of the bits of a register. -/
def parity (r : BitVec (w+1)) : ZMod 2 := ∑ i ∈ Finset.range (w+1),bitParity (r.getLsbD i)

/-- Parities of bits add up. -/
theorem bitParity_xor (x y : Bool) : bitParity (xor x y)=bitParity x+bitParity y := by
  cases x <;> cases y <;> decide

/-- Parities add up. -/
theorem parity_xor (a b : BitVec (w+1)) : parity (a ^^^ b)=parity a+parity b := by
  simp only [parity,BitVec.getLsbD_xor,bitParity_xor,Finset.sum_add_distrib]

/-- Parity of a bit at the top. -/
theorem parity_top (bit : Bool) : parity (top bit : BitVec (w+1))=bitParity bit := by
  have hone : ∀ i∈Finset.range (w+1),i≠w → bitParity ((top bit : BitVec (w+1)).getLsbD i)=0 := by
    intro i _ hi
    rw [getLsbD_top,decide_eq_false hi,Bool.false_and]
    rfl
  rw [parity,Finset.sum_eq_single w hone (fun hn => absurd (Finset.mem_range.mpr (Nat.lt_succ_self w)) hn),
    getLsbD_top,decide_eq_true rfl,Bool.true_and]

/-- When the polynomial has an even number of terms, its leading one included,
shifts keep the parity. -/
theorem parity_shift {poly : BitVec (w+1)} (heven : parity poly=1) (r : BitVec (w+1)) :
    parity (shift poly r)=parity r := by
  have hbits : ∀ i∈Finset.range (w+1),bitParity ((shift poly r).getLsbD i)=
      bitParity (decide (i≠0) && r.getLsbD (i-1))+bitParity (r.getLsbD w && poly.getLsbD i) := by
    intro i hi
    rw [getLsbD_shift poly r (Finset.mem_range.mp hi),bitParity_xor]
  have hmoved : ∑ i ∈ Finset.range (w+1),bitParity (decide (i≠0) && r.getLsbD (i-1))=
      ∑ i ∈ Finset.range w,bitParity (r.getLsbD i) := by
    rw [Finset.sum_range_succ']
    simp [bitParity]
  have hpoly : ∑ i ∈ Finset.range (w+1),bitParity (r.getLsbD w && poly.getLsbD i)=bitParity (r.getLsbD w) := by
    cases r.getLsbD w with
    | false => simp [bitParity]
    | true =>
      simp only [Bool.true_and]
      exact heven
  rw [parity,Finset.sum_congr rfl hbits,Finset.sum_add_distrib,hmoved,hpoly,parity,Finset.sum_range_succ]

/-- The register has the parity of what entered it. -/
theorem parity_remainder {poly : BitVec (w+1)} (heven : parity poly=1) (r : BitVec (w+1)) (bits : List Bool) :
    parity (remainder poly r bits)=parity r+(bits.count true : ZMod 2) := by
  induction bits generalizing r with
  | nil => rw [List.count_nil,Nat.cast_zero,add_zero]; rfl
  | cons bit bits ih =>
    have hstep : remainder poly r (bit::bits)=remainder poly (feed poly r bit) bits := rfl
    have hcount : ((bit::bits).count true : ZMod 2)=bitParity bit+(bits.count true : ZMod 2) := by
      cases bit with
      | false => rw [List.count_cons_of_ne Bool.false_ne_true]; exact (zero_add _).symm
      | true => rw [List.count_cons_self,Nat.cast_succ,add_comm]; rfl
    rw [hstep,ih,feed,parity_shift heven,parity_xor,parity_top,hcount,add_assoc]

/-- A difference of an odd number of bits changes the remainder. -/
theorem remainder_ne_of_odd {poly : BitVec (w+1)} (heven : parity poly=1) {bits : List Bool}
    (h : Odd (bits.count true)) : remainder poly 0 bits≠0 := by
  intro hz
  have hp := parity_remainder heven 0 bits
  have hzero : parity (0 : BitVec (w+1))=0 := by simp [parity,bitParity]
  rw [hz,hzero,zero_add] at hp
  have heq := (ZMod.natCast_eq_zero_iff_even).mp hp.symm
  exact (Nat.not_even_iff_odd.mpr h) heq

/-- The first bit that is set. -/
theorem exists_first {bits : List Bool} (h : 0<bits.count true) :
    ∃ p rest,bits=List.replicate p false++true::rest ∧ bits.count true=rest.count true+1 := by
  induction bits with
  | nil => exact absurd h (Nat.lt_irrefl 0)
  | cons bit bits ih =>
    cases bit with
    | true => exact ⟨0,bits,rfl,List.count_cons_self⟩
    | false =>
      rw [List.count_cons_of_ne Bool.false_ne_true] at h ⊢
      obtain ⟨p,rest,hb,hc⟩ := ih h
      exact ⟨p+1,rest,by rw [hb]; rfl,hc⟩

/-- Without a set bit all are zero. -/
theorem eq_zeros {bits : List Bool} (h : bits.count true=0) : bits=List.replicate bits.length false := by
  rw [List.eq_replicate_iff]
  refine ⟨rfl,fun bit hm => ?_⟩
  cases bit with
  | false => rfl
  | true => exact absurd hm (List.count_eq_zero.mp h)

/-- Two bits are seen as long as the register has not come back. -/
theorem remainder_ne_of_two {poly : BitVec (w+1)} (hodd : poly.getLsbD 0=true) {n : ℕ}
    (horder : ∀ d<n,(shift poly)^[d+1] (top true)≠top true) {bits : List Bool} (h : bits.count true=2)
    (hlength : bits.length ≤ n+1) : remainder poly 0 bits≠0 := by
  obtain ⟨p,rest,rfl,hrest⟩ := exists_first (by omega : 0<bits.count true)
  obtain ⟨d,back,rfl,hback⟩ := exists_first (by omega : 0<rest.count true)
  obtain ⟨q,rfl⟩ : ∃ q,back=List.replicate q false := ⟨_,eq_zeros (by omega)⟩
  have hfirst : feed poly 0 true=shift poly (top true) := congrArg _ BitVec.zero_xor
  have hrun : remainder poly 0 (List.replicate p false++true::(List.replicate d false++true::List.replicate q false))=
      (shift poly)^[q] (shift poly ((shift poly)^[d+1] (top true) ^^^ top true)) := by
    rw [remainder_append,remainder_zeros,iterate_shift_zero]
    have hstep : remainder poly 0 (true::(List.replicate d false++true::List.replicate q false))=
        remainder poly (feed poly 0 true) (List.replicate d false++true::List.replicate q false) := rfl
    rw [hstep,hfirst,remainder_append,remainder_zeros,←Function.iterate_succ_apply]
    exact remainder_zeros poly _ q
  rw [hrun]
  intro hz
  rw [←iterate_shift_zero poly q] at hz
  have hlast := (shift_injective hodd).iterate q hz
  rw [←shift_zero poly] at hlast
  have hback := shift_injective hodd hlast
  refine horder d ?_ (BitVec.xor_eq_zero_iff.mp hback)
  simp only [List.length_append,List.length_replicate,List.length_cons] at hlength
  omega

/-- Up to three bits are seen. -/
theorem remainder_ne_of_few {poly : BitVec (w+1)} (hodd : poly.getLsbD 0=true) (heven : parity poly=1) {n : ℕ}
    (horder : ∀ d<n,(shift poly)^[d+1] (top true)≠top true) {bits : List Bool} (hpos : 0<bits.count true)
    (hfew : bits.count true ≤ 3) (hlength : bits.length ≤ n+1) : remainder poly 0 bits≠0 := by
  by_cases h : bits.count true=2
  · exact remainder_ne_of_two hodd horder h hlength
  · have hc : bits.count true=1 ∨ bits.count true=3 := by omega
    apply remainder_ne_of_odd heven
    rcases hc with hc | hc
    · rw [hc]
      exact odd_one
    · rw [hc]
      exact ⟨1,rfl⟩

/-- Two strings with their remainders differ in at least four bits. -/
theorem four_le_difference {poly : BitVec (w+1)} (hodd : poly.getLsbD 0=true) (heven : parity poly=1) {n : ℕ}
    (horder : ∀ d<n,(shift poly)^[d+1] (top true)≠top true) (r : BitVec (w+1)) {xs ys : List Bool}
    (h : xs.length=ys.length) (hne : xs≠ys) (hlength : xs.length+w ≤ n) :
    4 ≤ (difference xs ys).count true+(word (remainder poly r xs ^^^ remainder poly r ys)).count true := by
  have hd := remainder_difference poly r r h
  rw [BitVec.xor_self] at hd
  have hzero : remainder poly 0 (difference xs ys++word (remainder poly r xs ^^^ remainder poly r ys))=0 := by
    rw [remainder_append,show remainder poly 0 (difference xs ys)=_ from hd]
    exact remainder_word poly _
  have hpos : 0<(difference xs ys).count true :=
    Nat.pos_of_ne_zero fun hz => hne (eq_of_difference h hz)
  by_contra hlt
  refine remainder_ne_of_few hodd heven horder ?_ ?_ ?_ hzero
  · rw [List.count_append]
    omega
  · rw [List.count_append]
    omega
  · simp only [difference,word,List.length_append,List.length_zipWith,List.length_map,List.length_range]
    omega

end LorawanServer.CyclicCode
