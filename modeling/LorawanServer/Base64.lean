import LorawanServer.CppRuntime

/-!
# Base64 of radio frames

`base64_encode` and `base64_decode` of the vendored `base64.cpp`, in its
standard alphabet. The decoder also takes the two letters of the other
alphabet, and reading behind the end of the text meets the terminating zero
byte, which is not a letter. What was encoded is decoded again.
-/

namespace LorawanServer.Base64

open CppRuntime

/-- The standard alphabet. -/
def base64Chars : Bytes :=
  ascii "ABCDEFGHIJKLMNOPQRSTUVWXYZabcdefghijklmnopqrstuvwxyz0123456789+/"

/-- Letter at a position of the alphabet. -/
def letter (position : ℕ) : UInt8 := base64Chars.getD position 0

/-- The four positions that a loop step of `base64_encode` writes for its three
bytes. -/
def sextets (first second third : UInt8) : ℕ → ℕ
  | 0 => first.toNat/4
  | 1 => first.toNat%4*16+second.toNat/16
  | 2 => second.toNat%16*4+third.toNat/64
  | _ => third.toNat%64

/-- `base64_encode`; the last group is padded with equal signs. -/
def base64Encode : Bytes → Bytes
  | [] => []
  | [a] => [letter (sextets a 0 0 0),letter (sextets a 0 0 1),61,61]
  | [a,b] => [letter (sextets a b 0 0),letter (sextets a b 0 1),letter (sextets a b 0 2),61]
  | a::b::c::rest =>
    letter (sextets a b c 0)::letter (sextets a b c 1)::letter (sextets a b c 2)::letter (sextets a b c 3)::
      base64Encode rest

/-- `pos_of_char`; nothing stands for the exception it throws. -/
def posOfChar (chr : UInt8) : Option ℕ :=
  if 65≤chr.toNat ∧ chr.toNat≤90 then some (chr.toNat-65)
  else if 97≤chr.toNat ∧ chr.toNat≤122 then some (chr.toNat-97+25+1)
  else if 48≤chr.toNat ∧ chr.toNat≤57 then some (chr.toNat-48+25+25+2)
  else if chr=43 ∨ chr=45 then some 62
  else if chr=47 ∨ chr=95 then some 63
  else none

/-- Padding of either alphabet. -/
def isPadding (chr : UInt8) : Bool := chr=61 || chr=46

/-- One step of the decoding loop, over four characters. -/
def decodeGroup (a b c d : UInt8) : Option Bytes := do
  let pos1 ← posOfChar b
  let pos0 ← posOfChar a
  let first := UInt8.ofNat (pos0*4+pos1/16)
  if isPadding c then return [first]
  let pos2 ← posOfChar c
  let second := UInt8.ofNat (pos1%16*16+pos2/4)
  if isPadding d then return [first,second]
  let pos3 ← posOfChar d
  return [first,second,UInt8.ofNat (pos2%4*64+pos3)]

/-- `base64_decode`. A last group of fewer than four characters reads the
terminating zero byte. -/
def base64Decode : Bytes → Option Bytes
  | [] => some []
  | [a] => decodeGroup a 0 0 0
  | [a,b] => decodeGroup a b 0 0
  | [a,b,c] => decodeGroup a b c 0
  | a::b::c::d::rest => do
    let group ← decodeGroup a b c d
    let tail ← base64Decode rest
    return group++tail

/-- Every letter stands at its own position. -/
theorem posOfChar_letter {position : ℕ} (h : position<64) : posOfChar (letter position)=some position := by
  revert position
  decide +kernel

/-- No letter is padding. -/
theorem isPadding_letter {position : ℕ} (h : position<64) : isPadding (letter position)=false := by
  revert position
  decide +kernel

/-- All positions are below sixty-four. -/
theorem sextets_lt (first second third : UInt8) (i : ℕ) : sextets first second third i<64 := by
  have ha := first.toNat_lt
  have hb := second.toNat_lt
  have hc := third.toNat_lt
  rw [sextets.eq_def]
  split <;> omega

/-- The bytes come back from their positions. -/
theorem ofNat_sextets (a b c : UInt8) :
    UInt8.ofNat (sextets a b c 0*4+sextets a b c 1/16)=a ∧
    UInt8.ofNat (sextets a b c 1%16*16+sextets a b c 2/4)=b ∧
    UInt8.ofNat (sextets a b c 2%4*64+sextets a b c 3)=c := by
  have ha := a.toNat_lt
  have hb := b.toNat_lt
  have hc := c.toNat_lt
  simp only [sextets]
  refine ⟨?_,?_,?_⟩
  · apply UInt8.toNat_inj.mp
    rw [UInt8.toNat_ofNat']
    omega
  · apply UInt8.toNat_inj.mp
    rw [UInt8.toNat_ofNat']
    omega
  · apply UInt8.toNat_inj.mp
    rw [UInt8.toNat_ofNat']
    omega

/-- A full group decodes to its three bytes. -/
theorem decodeGroup_three (a b c : UInt8) :
    decodeGroup (letter (sextets a b c 0)) (letter (sextets a b c 1)) (letter (sextets a b c 2))
      (letter (sextets a b c 3))=some [a,b,c] := by
  obtain ⟨ha,hb,hc⟩ := ofNat_sextets a b c
  simp only [decodeGroup,posOfChar_letter (sextets_lt a b c _),isPadding_letter (sextets_lt a b c _),
    Option.bind_eq_bind,Option.bind_some,Bool.false_eq_true,if_false,ha,hb,hc,Option.pure_def]

/-- A group with one padding character decodes to two bytes. -/
theorem decodeGroup_two (a b : UInt8) :
    decodeGroup (letter (sextets a b 0 0)) (letter (sextets a b 0 1)) (letter (sextets a b 0 2)) 61=
      some [a,b] := by
  obtain ⟨ha,hb,-⟩ := ofNat_sextets a b 0
  have hp : isPadding 61=true := rfl
  simp only [decodeGroup,posOfChar_letter (sextets_lt a b 0 _),isPadding_letter (sextets_lt a b 0 _),
    Option.bind_eq_bind,Option.bind_some,Bool.false_eq_true,if_false,hp,if_true,ha,hb,Option.pure_def]

/-- A group with two padding characters decodes to one byte. -/
theorem decodeGroup_one (a : UInt8) :
    decodeGroup (letter (sextets a 0 0 0)) (letter (sextets a 0 0 1)) 61 61=some [a] := by
  obtain ⟨ha,-,-⟩ := ofNat_sextets a 0 0
  have hp : isPadding 61=true := rfl
  simp only [decodeGroup,posOfChar_letter (sextets_lt a 0 0 _),Option.bind_eq_bind,Option.bind_some,hp,
    if_true,ha,Option.pure_def]

/-- What was encoded is decoded again. -/
theorem base64Decode_base64Encode (data : Bytes) : base64Decode (base64Encode data)=some data := by
  induction data using base64Encode.induct with
  | case1 => rfl
  | case2 a =>
    rw [base64Encode,base64Decode,decodeGroup_one]
    rfl
  | case3 a b =>
    rw [base64Encode,base64Decode,decodeGroup_two]
    rfl
  | case4 a b c rest ih =>
    rw [base64Encode,base64Decode,decodeGroup_three,ih]
    rfl

/-- An encoded text has only letters and padding. -/
theorem mem_base64Encode (data : Bytes) :
    ∀ chr∈base64Encode data,chr=61 ∨ ∃ position<64,chr=letter position := by
  induction data using base64Encode.induct with
  | case1 => simp only [base64Encode,List.not_mem_nil,false_implies,implies_true]
  | case2 a =>
    intro chr hc
    simp only [base64Encode,List.mem_cons,List.not_mem_nil,or_false] at hc
    rcases hc with rfl|rfl|rfl|rfl
    · exact .inr ⟨_,sextets_lt a 0 0 0,rfl⟩
    · exact .inr ⟨_,sextets_lt a 0 0 1,rfl⟩
    · exact .inl rfl
    · exact .inl rfl
  | case3 a b =>
    intro chr hc
    simp only [base64Encode,List.mem_cons,List.not_mem_nil,or_false] at hc
    rcases hc with rfl|rfl|rfl|rfl
    · exact .inr ⟨_,sextets_lt a b 0 0,rfl⟩
    · exact .inr ⟨_,sextets_lt a b 0 1,rfl⟩
    · exact .inr ⟨_,sextets_lt a b 0 2,rfl⟩
    · exact .inl rfl
  | case4 a b c rest ih =>
    intro chr hc
    simp only [base64Encode,List.mem_cons] at hc
    rcases hc with rfl|rfl|rfl|rfl|hc
    · exact .inr ⟨_,sextets_lt a b c 0,rfl⟩
    · exact .inr ⟨_,sextets_lt a b c 1,rfl⟩
    · exact .inr ⟨_,sextets_lt a b c 2,rfl⟩
    · exact .inr ⟨_,sextets_lt a b c 3,rfl⟩
    · exact ih chr hc

end LorawanServer.Base64
