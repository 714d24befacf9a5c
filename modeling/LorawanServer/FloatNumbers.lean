import LorawanServer.IdentityText
import LorawanServer.JsonWriting
import LorawanServer.SimulatedUplink

/-!
# Floating point numbers as they are written and read

The value of a number in a text and its rounding to a binary format. A stream
writes six significant digits: an integral number below one million is written
as an integer, any larger one with an exponent, and the rest of its digits is
lost.
-/

namespace LorawanServer.FloatNumbers

open CppRuntime JsonDocument JsonEvents
open IdentityText (takeSign)
open SimulatedUplink (intText roundEven trimZeros padded pointed floatText)

/-- What stands behind the digits of a number, split at the end of its fraction. -/
def splitFraction : Bytes → Bytes×Bytes
  | 46::text => (text.takeWhile isDigit,text.dropWhile isDigit)
  | text => ([],text)

/-- The exponent of a number behind its letter. -/
def exponentValue : Bytes → ℤ
  | _::45::digits => -digitsValue (digits.takeWhile isDigit)
  | _::43::digits => digitsValue (digits.takeWhile isDigit)
  | _::digits => digitsValue (digits.takeWhile isDigit)
  | [] => 0

/-- The value of a number in a text. -/
def decimalValue (text : Bytes) : ℚ :=
  let (negative,unsigned) := takeSign text
  let (fraction,behind) := splitFraction (unsigned.dropWhile isDigit)
  let size : ℚ := digitsValue (unsigned.takeWhile isDigit++fraction)*10^(exponentValue behind-fraction.length)
  if negative then -size else size

/-- The nearest value of a binary format with the given precision and lowest
exponent, halves to the even one. The largest value of the format does not
count. -/
def nearest (precision : ℕ) (lowest : ℤ) (value : ℚ) : ℚ :=
  let exponent := max (Int.log 2 (abs value)+1-precision) lowest
  let size : ℚ := roundEven (abs value/2^exponent)*2^exponent
  if value<0 then -size else size

/-- The conversion to `float`. -/
def toFloat (value : ℚ) : ℚ := nearest 24 (-149) value

/-- The conversion to `double`. -/
def toDouble (value : ℚ) : ℚ := nearest 53 (-1074) value

/-- A `float` is the one that its text of six digits stands for, read as a
`double` first. -/
def SixDigits (value : ℚ) : Prop := toFloat (toDouble (decimalValue (floatText value)))=value

instance (value : ℚ) : Decidable (SixDigits value) := inferInstanceAs (Decidable (_=_))

example : SixDigits 1000000 := by decide +kernel

example : ¬SixDigits 1234567 := by decide +kernel

/-- The size of an integer as a rational number. -/
theorem abs_intCast (n : ℤ) : abs (n : ℚ)=n.natAbs := by rw [←Int.cast_abs,Int.abs_eq_natAbs,Int.cast_natCast]

/-- A natural number needs no rounding. -/
theorem roundEven_natCast (n : ℕ) : roundEven n=n := by
  have hlow : ⌊(n : ℚ)⌋₊=n := Nat.floor_natCast n
  rw [roundEven]
  simp only [hlow,sub_self]
  rw [if_pos (by norm_num)]

/-- A number that is whole in a grid of fractions needs no rounding there. -/
theorem roundEven_grid (n : ℕ) {exponent : ℤ} (h : exponent≤0) :
    (roundEven ((n : ℚ)/2^exponent) : ℚ)*2^exponent=n := by
  obtain ⟨k,rfl⟩ : ∃ k : ℕ,exponent=-k := ⟨exponent.natAbs,by omega⟩
  have hgrid : (n : ℚ)/2^(-(k : ℤ))=(n*2^k : ℕ) := by
    rw [zpow_neg,zpow_natCast,div_inv_eq_mul]
    push_cast
    rfl
  rw [hgrid,roundEven_natCast,zpow_neg,zpow_natCast]
  push_cast
  exact mul_inv_cancel_right₀ (pow_ne_zero k two_ne_zero) _

/-- An integer of the format needs no rounding. -/
theorem nearest_int {precision : ℕ} {lowest n : ℤ} (hl : lowest≤0) (h : abs n<2^precision) (hp : 0<precision) :
    nearest precision lowest n=n := by
  have hlog : Int.log 2 (abs (n : ℚ))<precision := by
    by_cases hn : n=0
    · rw [hn,Int.cast_zero,abs_zero,Int.log_zero_right]
      exact Int.natCast_pos.mpr hp
    · have hpos : 0<abs (n : ℚ) := abs_pos.mpr (Int.cast_ne_zero.mpr hn)
      refine (Int.lt_zpow_iff_log_lt Nat.one_lt_two hpos).mp ?_
      rw [zpow_natCast,←Int.cast_abs]
      exact_mod_cast h
  have hexponent : max (Int.log 2 (abs (n : ℚ))+1-precision) lowest≤0 := max_le (by omega) hl
  have hround := roundEven_grid n.natAbs hexponent
  rw [←abs_intCast] at hround
  rw [nearest]
  simp only [hround]
  by_cases hneg : (n : ℚ)<0
  · rw [if_pos hneg,abs_of_neg hneg,neg_neg]
  · rw [if_neg hneg,abs_of_nonneg (not_lt.mp hneg)]

/-- Small integers are exact as `float`. -/
theorem toFloat_int {n : ℤ} (h : abs n<2^24) : toFloat n=n := nearest_int (by decide) h (by decide)

/-- Small integers are exact as `double`. -/
theorem toDouble_int {n : ℤ} (h : abs n<2^53) : toDouble n=n := nearest_int (by decide) h (by decide)

/-- Zeros are trimmed away. -/
theorem trimZeros_padded_zero (width : ℕ) : trimZeros (padded width 0)=[] := by
  have hzero : ∀ byte∈(padded width 0).reverse,decide (byte=48)=true := by
    intro byte hb
    rw [List.mem_reverse,padded,List.mem_append] at hb
    rcases hb with hb|hb
    · rw [List.eq_of_mem_replicate hb]
      rfl
    · rw [List.mem_singleton.mp hb]
      rfl
  rw [trimZeros,List.dropWhile_eq_nil_iff.mpr hzero]
  rfl

/-- The decimal logarithm of an integer. -/
theorem log_intCast (n : ℤ) : Int.log 10 (abs (n : ℚ))=Nat.log 10 n.natAbs := by rw [abs_intCast,Int.log_natCast]

/-- An integer below one million is written with all its digits. -/
theorem floatText_int {n : ℤ} (h : abs n<10^6) : floatText n=intText n := by
  by_cases hn : n=0
  · rw [hn]
    rfl
  have habs : n.natAbs<10^6 := by
    rw [Int.abs_eq_natAbs] at h
    exact_mod_cast h
  set k := Nat.log 10 n.natAbs with hk
  have hk6 : k<6 := Nat.log_lt_of_lt_pow (Int.natAbs_ne_zero.mpr hn) habs
  have hlog : Int.log 10 (abs (n : ℚ))=k := log_intCast n
  have hshift : (5-(k : ℤ))=((5-k : ℕ) : ℤ) := by omega
  have hdigits : roundEven (abs (n : ℚ)*10^(5-(k : ℤ)))=n.natAbs*10^(5-k) := by
    have hcast : abs (n : ℚ)*10^(5-(k : ℤ))=((n.natAbs*10^(5-k) : ℕ) : ℚ) := by
      rw [abs_intCast,hshift,zpow_natCast]
      push_cast
      rfl
    rw [hcast,roundEven_natCast]
  have hlt : n.natAbs*10^(5-k)<10^6 := by
    have hpow : n.natAbs<10^(k+1) := Nat.lt_pow_succ_log_self (by decide) _
    calc n.natAbs*10^(5-k)<10^(k+1)*10^(5-k) := Nat.mul_lt_mul_of_pos_right hpow (by positivity)
      _ = 10^6 := by rw [←pow_add]; congr 1; omega
  have hunit : (5-(k : ℤ)).toNat=5-k := by omega
  have hq : n.natAbs*10^(5-k)/10^(5-k)=n.natAbs := Nat.mul_div_cancel _ (by positivity)
  have hr : n.natAbs*10^(5-k)%10^(5-k)=0 := Nat.mul_mod_left _ _
  have hrange : 0≤(k : ℤ) ∧ (k : ℤ)<6 := by omega
  rw [floatText,if_neg (Int.cast_ne_zero.mpr hn)]
  simp only [hlog,hdigits,if_neg hlt.ne,if_pos hrange,hunit,hq,hr,trimZeros_padded_zero,pointed,if_true,
    List.append_nil]
  rw [intText]
  simp only [Int.cast_lt_zero]
  split <;> rfl

/-- Trimmed digits are digits. -/
theorem isDigit_trimZeros {digits : Bytes} (h : ∀ byte∈digits,isDigit byte=true) :
    ∀ byte∈trimZeros digits,isDigit byte=true := by
  intro byte hb
  rw [trimZeros,List.mem_reverse] at hb
  exact h byte (List.mem_reverse.mp ((List.dropWhile_suffix _).subset hb))

/-- Filled up digits are digits, and there are some. -/
theorem padded_digits (width value : ℕ) :
    padded width value≠[] ∧ ∀ byte∈padded width value,isDigit byte=true := by
  have hd := isNumeral_decimal value
  refine ⟨List.append_ne_nil_of_right_ne_nil _ hd.ne_nil,fun byte hb => ?_⟩
  rcases List.mem_append.mp hb with hb|hb
  · rw [List.eq_of_mem_replicate hb]
    rfl
  · exact hd.all_digits byte hb

/-- A fraction behind its point is one. -/
theorem isFraction_pointed {digits : Bytes} (h : ∀ byte∈digits,isDigit byte=true) : IsFraction (pointed digits) := by
  rw [pointed]
  split
  · exact .none
  · next hne => exact .digits hne h

/-- Digits behind digits. -/
theorem digitsValue_append (first second : Bytes) :
    digitsValue (first++second)=digitsValue first*10^second.length+digitsValue second := by
  have hfold : ∀ start,second.foldl (fun value digit => 10*value+(digit.toNat-48)) start=
      start*10^second.length+digitsValue second := by
    induction second with
    | nil => exact fun start => (Nat.mul_one start).symm
    | cons digit second ih =>
      intro start
      rw [digitsValue,List.foldl_cons,List.foldl_cons,ih,ih,List.length_cons]
      ring
  rw [digitsValue,List.foldl_append,hfold]
  rfl

/-- Rounding does not fall below an integer. -/
theorem le_roundEven {n : ℕ} {value : ℚ} (h : (n : ℚ)≤value) : n≤roundEven value := by
  have hfloor : n≤⌊value⌋₊ := Nat.le_floor h
  rw [roundEven]
  split
  · exact hfloor
  · split <;> omega

/-- Digits of a positive number are not all trimmed away. -/
theorem trimZeros_decimal_ne_nil {n : ℕ} (h : 0<n) : trimZeros (decimal n)≠[] := by
  intro hnil
  rw [trimZeros,List.reverse_eq_nil_iff,List.dropWhile_eq_nil_iff] at hnil
  have hzeros : ∀ digits : Bytes,(∀ byte∈digits,byte=48) → digitsValue digits=0 := by
    intro digits hd
    rw [List.eq_replicate_of_mem hd]
    induction digits.length with
    | zero => rfl
    | succ count ih =>
      rwa [List.replicate_succ,←List.singleton_append,digitsValue_append,show digitsValue [48]=0 from rfl,
        Nat.zero_mul,Nat.zero_add]
  have hvalue := hzeros (decimal n) fun byte hb => of_decide_eq_true (hnil byte (List.mem_reverse.mpr hb))
  rw [digitsValue_decimal] at hvalue
  omega

/-- The six digits of a number other than zero. -/
theorem le_sixDigits {value : ℚ} (h : value≠0) :
    10^5≤roundEven (abs value*10^(5-Int.log 10 (abs value))) := by
  have hpos : 0<abs value := abs_pos.mpr h
  have hten : (10 : ℚ)≠0 := by norm_num
  refine le_roundEven ?_
  calc ((10^5 : ℕ) : ℚ)=10^(Int.log 10 (abs value))*10^(5-Int.log 10 (abs value)) := by
        rw [←zpow_add₀ hten,add_sub_cancel]
        norm_num
    _ ≤ abs value*10^(5-Int.log 10 (abs value)) :=
        mul_le_mul_of_nonneg_right (Int.zpow_log_le_self (by norm_num) hpos) (zpow_nonneg (by norm_num) _)

/-- The layouts of six digits are numbers of JSON. -/
theorem layout_shape (exponent : ℤ) {digits : ℕ} (hd : 0<digits) :
    ∃ whole fraction behind,
      (if 0≤exponent ∧ exponent<6 then
        decimal (digits/10^(5-exponent).toNat)++
          pointed (trimZeros (padded (5-exponent).toNat (digits%10^(5-exponent).toNat)))
      else if -4≤exponent ∧ exponent<0 then
        48::46::(List.replicate (-exponent-1).toNat 48++trimZeros (decimal digits))
      else
        decimal (digits/10^5)++pointed (trimZeros (padded 5 (digits%10^5)))++
          101::(if exponent<0 then 45 else 43)::padded 2 exponent.natAbs)=whole++(fraction++behind) ∧
      IsNumeral whole ∧ IsFraction fraction ∧ IsExponent behind ∧ (6≤exponent → behind≠[]) := by
  have hdigits : ∀ width r,∀ byte∈trimZeros (padded width r),isDigit byte=true :=
    fun width r => isDigit_trimZeros (padded_digits width r).2
  by_cases hfixed : 0≤exponent ∧ exponent<6
  · rw [if_pos hfixed]
    exact ⟨_,_,[],by rw [List.append_nil],isNumeral_decimal _,isFraction_pointed (hdigits _ _),.none,
      fun h => absurd hfixed.2 (not_lt.mpr h)⟩
  · rw [if_neg hfixed]
    by_cases hsmall : -4≤exponent ∧ exponent<0
    · rw [if_pos hsmall]
      refine ⟨decimal 0,46::(List.replicate (-exponent-1).toNat 48++trimZeros (decimal digits)),[],?_,
        isNumeral_decimal 0,.digits ?_ ?_,.none,fun h => absurd hsmall.2 (by omega)⟩
      · rw [List.append_nil]
        rfl
      · exact List.append_ne_nil_of_right_ne_nil _ (trimZeros_decimal_ne_nil hd)
      · refine List.forall_mem_append.mpr ⟨fun byte hb => ?_,isDigit_trimZeros (isNumeral_decimal _).all_digits⟩
        rw [List.eq_of_mem_replicate hb]
        rfl
    · rw [if_neg hsmall]
      have hexponent := padded_digits 2 exponent.natAbs
      refine ⟨_,_,_,List.append_assoc _ _ _,isNumeral_decimal _,isFraction_pointed (hdigits _ _),?_,
        fun _ => List.cons_ne_nil _ _⟩
      refine .digits ?_ hexponent.1 hexponent.2
      split
      · exact .inr rfl
      · exact .inl rfl

/-- Every `float` is written as a number of JSON, from one million on with an
exponent. -/
theorem floatText_shape (value : ℚ) :
    ∃ whole fraction behind,floatText value=signed (decide (value<0)) (whole++(fraction++behind)) ∧
      IsNumeral whole ∧ IsFraction fraction ∧ IsExponent behind ∧ (10^6≤abs value → behind≠[]) := by
  by_cases hz : value=0
  · rw [hz]
    refine ⟨decimal 0,[],[],rfl,isNumeral_decimal 0,.none,.none,fun h => absurd h ?_⟩
    norm_num
  · have hsix := le_sixDigits hz
    have hlarge : 10^6≤abs value → 6≤Int.log 10 (abs value) := by
      intro h
      refine (Int.zpow_le_iff_le_log (by norm_num) (abs_pos.mpr hz)).mp ?_
      exact_mod_cast h
    set exponent := Int.log 10 (abs value)
    set digits := roundEven (abs value*10^(5-exponent))
    -- rounding may add a digit
    have hpos : 0 < if digits=10^6 then 10^5 else digits := by split <;> omega
    obtain ⟨whole,fraction,behind,heq,hw,hf,hb,hne⟩ :=
      layout_shape (if digits=10^6 then exponent+1 else exponent) hpos
    refine ⟨whole,fraction,behind,?_,hw,hf,hb,fun h => hne ?_⟩
    · rw [←heq,floatText,if_neg hz]
      simp only [signed,decide_eq_true_eq]
      split <;> split <;> rfl
    · have hsixth := hlarge h
      split <;> omega

/-- An integer from one million on is written with an exponent. -/
theorem floatText_large {n : ℤ} (h : 10^6≤abs n) :
    ∃ whole fraction exponent,floatText n=signed (decide (n<0)) (whole++(fraction++exponent)) ∧
      IsNumeral whole ∧ IsFraction fraction ∧ IsExponent exponent ∧ exponent≠[] := by
  obtain ⟨whole,fraction,exponent,htext,hw,hf,he,hne⟩ := floatText_shape n
  simp only [Int.cast_lt_zero] at htext
  refine ⟨whole,fraction,exponent,htext,hw,hf,he,hne ?_⟩
  rw [←Int.cast_abs]
  exact_mod_cast h

/-- A digit is no sign. -/
theorem takeSign_digits {digits : Bytes} (h : IsNumeral digits) (rest : Bytes) :
    takeSign (digits++rest)=(false,digits++rest) := by
  obtain ⟨first,more,rfl⟩ := List.exists_cons_of_ne_nil h.ne_nil
  have hfirst := h.all_digits first List.mem_cons_self
  have h45 : first≠45 := fun heq => absurd (heq ▸ hfirst) (by decide)
  have h43 : first≠43 := fun heq => absurd (heq ▸ hfirst) (by decide)
  rw [List.cons_append]
  unfold takeSign
  split
  · next heq => exact absurd (List.cons.inj heq).1 h45
  · next heq => exact absurd (List.cons.inj heq).1 h43
  · rfl

/-- A number without a sign. -/
theorem takeSign_numeral {digits : Bytes} (h : IsNumeral digits) : takeSign digits=(false,digits) := by
  have hd := takeSign_digits h []
  rwa [List.append_nil] at hd

/-- Two numbers around a point are whole part and fraction. -/
theorem decimalValue_point {whole fraction : Bytes} (hw : IsNumeral whole)
    (hf : ∀ byte∈fraction,isDigit byte=true) :
    decimalValue (whole++46::fraction)=digitsValue whole+digitsValue fraction/10^fraction.length := by
  have hscan : (whole++46::fraction).takeWhile isDigit=whole ∧
      (whole++46::fraction).dropWhile isDigit=46::fraction := by
    refine scan_append hw.all_digits fun byte hb => ?_
    obtain rfl : 46=byte := Option.some.inj hb
    rfl
  have hbehind := @scan_append isDigit _ [] hf (fun _ hb => absurd hb (Option.not_mem_none _))
  rw [List.append_nil] at hbehind
  have hsplit : splitFraction (46::fraction)=(fraction,[]) := by rw [splitFraction,hbehind.1,hbehind.2]
  have hten : (10 : ℚ)^fraction.length≠0 := pow_ne_zero _ (by norm_num)
  simp only [decimalValue,takeSign_digits hw,hscan,hsplit,exponentValue,digitsValue_append,Bool.false_eq_true,
    if_false,zero_sub,zpow_neg,zpow_natCast]
  push_cast
  field_simp

/-- An integer is read as its value. -/
theorem decimalValue_int (n : ℤ) : decimalValue (intText n)=n := by
  have hd := isNumeral_decimal n.natAbs
  have hscan := @scan_append isDigit _ [] hd.all_digits (fun _ hb => absurd hb (Option.not_mem_none _))
  rw [List.append_nil] at hscan
  have hbare : (digitsValue ((decimal n.natAbs).takeWhile isDigit++[]) : ℚ)*10^(exponentValue []-0)=n.natAbs := by
    rw [hscan.1,List.append_nil,digitsValue_decimal,exponentValue,sub_zero,zpow_zero,mul_one]
  have hsplit : splitFraction ((decimal n.natAbs).dropWhile isDigit)=([],[]) := by
    rw [hscan.2]
    rfl
  rw [intText]
  by_cases hneg : n<0
  · have hsign : takeSign (45::decimal n.natAbs)=(true,decimal n.natAbs) := rfl
    have habs : (n.natAbs : ℚ)=-n := by rw [←abs_intCast,abs_of_neg (Int.cast_lt_zero.mpr hneg)]
    simp only [if_pos hneg,decimalValue,hsign,hsplit,List.length_nil,Nat.cast_zero,hbare,if_true,habs,neg_neg]
  · have habs : (n.natAbs : ℚ)=n := by rw [←abs_intCast,abs_of_nonneg (Int.cast_nonneg (not_lt.mp hneg))]
    simp only [if_neg hneg,decimalValue,takeSign_numeral hd,hsplit,List.length_nil,Nat.cast_zero,hbare,
      Bool.false_eq_true,if_false,habs]

/-- Six digits are enough for an integer below one million. -/
theorem sixDigits_int {n : ℤ} (h : abs n<10^6) : SixDigits n := by
  rw [SixDigits,floatText_int h,decimalValue_int,toDouble_int (h.trans (by decide)),toFloat_int (h.trans (by decide))]

end LorawanServer.FloatNumbers
