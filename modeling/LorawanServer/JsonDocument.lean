import LorawanServer.CppRuntime

/-!
# JSON documents, their texts and a reference reader

Values as a document object model holds them: integers and decimals stay
apart, members keep their order and their duplicates. The reader accepts the
part of the JSON grammar without escapes and exponents and is meant to be
compared with a production parser, which must agree wherever this one answers.
Texts in the layout with a blank behind every colon and comma are read back,
by one lemma for each kind of value. Decimals are exact rationals; rounding to
binary floating point stays outside.
-/

namespace LorawanServer.JsonDocument

open CppRuntime

/-- A JSON value. -/
inductive Json where
  /-- The literal `null`. -/
  | null
  /-- The literals `true` and `false`. -/
  | bool (value : Bool)
  /-- A number without fraction and exponent. -/
  | int (value : ℤ)
  /-- A number with fraction or exponent. -/
  | double (value : ℚ)
  /-- A string, by its bytes. -/
  | string (text : Bytes)
  /-- An array. -/
  | array (items : List Json)
  /-- An object, with its members in textual order. -/
  | object (members : List (Bytes×Json))

/-- Members of an object. -/
abbrev Members := List (Bytes×Json)

mutual

/-- Two values are the same. -/
def Json.same : Json → Json → Bool
  | .null,.null => true
  | .bool first,.bool second => first=second
  | .int first,.int second => first=second
  | .double first,.double second => first=second
  | .string first,.string second => first=second
  | .array first,.array second => sameItems first second
  | .object first,.object second => sameMembers first second
  | _,_ => false
termination_by structural value => value

/-- Two lists have the same values. -/
def sameItems : List Json → List Json → Bool
  | [],[] => true
  | first::firsts,second::seconds => first.same second && sameItems firsts seconds
  | _,_ => false
termination_by structural items => items

/-- Two objects have the same members. -/
def sameMembers : List (Bytes×Json) → List (Bytes×Json) → Bool
  | [],[] => true
  | first::firsts,second::seconds => sameMember first second && sameMembers firsts seconds
  | _,_ => false
termination_by structural members => members

/-- Two members are the same. -/
def sameMember : Bytes×Json → Bytes×Json → Bool
  | (name,first),(other,second) => decide (name=other) && first.same second
termination_by structural member => member

end

mutual

/-- Same values are equal. -/
theorem same_iff : ∀ first second : Json,first.same second=true ↔ first=second
  | .null,second => by cases second <;> simp [Json.same]
  | .bool first,second => by cases second <;> simp [Json.same]
  | .int first,second => by cases second <;> simp [Json.same]
  | .double first,second => by cases second <;> simp [Json.same]
  | .string first,second => by cases second <;> simp [Json.same]
  | .array first,second => by cases second <;> simp [Json.same,sameItems_iff first]
  | .object first,second => by cases second <;> simp [Json.same,sameMembers_iff first]
termination_by structural value => value

/-- Lists of the same values are equal. -/
theorem sameItems_iff : ∀ first second : List Json,sameItems first second=true ↔ first=second
  | [],second => by cases second <;> simp [sameItems]
  | first::firsts,second => by cases second <;> simp [sameItems,same_iff first,sameItems_iff firsts]
termination_by structural items => items

/-- Objects of the same members are equal. -/
theorem sameMembers_iff : ∀ first second : List (Bytes×Json),sameMembers first second=true ↔ first=second
  | [],second => by cases second <;> simp [sameMembers]
  | first::firsts,second => by cases second <;> simp [sameMembers,sameMember_iff first,sameMembers_iff firsts]
termination_by structural members => members

/-- Same members are equal. -/
theorem sameMember_iff : ∀ first second : Bytes×Json,sameMember first second=true ↔ first=second
  | (name,first),(other,second) => by simp [sameMember,same_iff first]
termination_by structural member => member

end

instance : DecidableEq Json := fun first second => decidable_of_iff (first.same second=true) (same_iff first second)

/-- The value of an integer that fits `int`. -/
def Json.int? : Json → Option ℤ
  | .int value => if -2^31≤value ∧ value<2^31 then some value else none
  | _ => none

/-- The value of an integer that fits `unsigned`. -/
def Json.uint? : Json → Option ℕ
  | .int value => if 0≤value ∧ value<2^32 then some value.toNat else none
  | _ => none

/-- The value of an integer that fits `uint64_t`. -/
def Json.uint64? : Json → Option ℕ
  | .int value => if 0≤value ∧ value<2^64 then some value.toNat else none
  | _ => none

/-- The value of a decimal. -/
def Json.double? : Json → Option ℚ
  | .double value => some value
  | _ => none

/-- The value of a decimal in the range of `float`. -/
def Json.float? : Json → Option ℚ
  | .double value => if -34028234*10^31≤value ∧ value≤34028234*10^31 then some value else none
  | _ => none

/-- The text of a string as a C function sees it, cut at the first zero byte. -/
def Json.string? : Json → Option Bytes
  | .string text => some (cString text)
  | _ => none

/-- True for an object. -/
def Json.isObject : Json → Bool
  | .object _ => true
  | _ => false

/-- A blank between tokens. -/
def isSpace (byte : UInt8) : Bool := byte=32 || byte=9 || byte=10 || byte=13

/-- The text behind its leading blanks. -/
def skipSpace (text : Bytes) : Bytes := text.dropWhile isSpace

/-- A decimal digit. -/
def isDigit (byte : UInt8) : Bool := 48≤byte && byte≤57

/-- A byte that can continue a number. -/
def isNumeric (byte : UInt8) : Bool := isDigit byte || byte=46 || byte=69 || byte=101

/-- A byte that stands for itself inside a string: printable, neither the
quote nor the backslash. -/
def isPlain (byte : UInt8) : Bool := 32≤byte && byte<127 && byte≠34 && byte≠92

/-- Number written by a list of digits. -/
def digitsValue (digits : Bytes) : ℕ := digits.foldl (fun value digit => 10*value+(digit.toNat-48)) 0

/-- The string behind an opening quote. -/
def readString (text : Bytes) : Option (Bytes×Bytes) :=
  match text.dropWhile isPlain with
  | 34::rest => some (text.takeWhile isPlain,rest)
  | _ => none

/-- True when the text goes on with a byte of a number. -/
def startsNumeric : Bytes → Bool
  | [] => false
  | byte::_ => isNumeric byte

/-- A number without sign: digits without a leading zero and an optional
fraction. Exponents and integers past 63 bits are refused. -/
def readMagnitude (text : Bytes) : Option ((ℕ⊕ℚ)×Bytes) :=
  let whole := text.takeWhile isDigit
  if whole=[] ∨ (whole.headD 0=48 ∧ 1<whole.length) then none else
  match text.dropWhile isDigit with
  | 46::tail =>
    let fraction := tail.takeWhile isDigit
    let rest := tail.dropWhile isDigit
    if fraction=[] ∨ startsNumeric rest then none
    else some (.inr (digitsValue whole+digitsValue fraction/10^fraction.length),rest)
  | rest =>
    if startsNumeric rest ∨ 2^63≤digitsValue whole then none
    else some (.inl (digitsValue whole),rest)

/-- A number; the negative zero is refused. -/
def readNumber : Bytes → Option (Json×Bytes)
  | 45::text =>
    match readMagnitude text with
    | some (.inl value,rest) => if value=0 then none else some (.int (-value),rest)
    | some (.inr value,rest) => if value=0 then none else some (.double (-value),rest)
    | none => none
  | text =>
    match readMagnitude text with
    | some (.inl value,rest) => some (.int value,rest)
    | some (.inr value,rest) => some (.double value,rest)
    | none => none

mutual

/-- One value at the front of the text; the first argument bounds the nesting
and the number of elements. -/
def readValue : ℕ → Bytes → Option (Json×Bytes)
  | 0,_ => none
  | fuel+1,text =>
    match skipSpace text with
    | 34::rest => (readString rest).map fun result => (.string result.1,result.2)
    | 91::rest =>
      match skipSpace rest with
      | 93::rest => some (.array [],rest)
      | rest => (readItems fuel rest).map fun result => (.array result.1,result.2)
    | 123::rest =>
      match skipSpace rest with
      | 125::rest => some (.object [],rest)
      | rest => (readMembers fuel rest).map fun result => (.object result.1,result.2)
    | 110::117::108::108::rest => some (.null,rest)
    | 116::114::117::101::rest => some (.bool true,rest)
    | 102::97::108::115::101::rest => some (.bool false,rest)
    | text => readNumber text

/-- The items of an array that is not empty, with its closing bracket. -/
def readItems : ℕ → Bytes → Option (List Json×Bytes)
  | 0,_ => none
  | fuel+1,text => do
    let (item,rest) ← readValue fuel text
    match skipSpace rest with
    | 44::rest => (readItems fuel rest).map fun result => (item::result.1,result.2)
    | 93::rest => some ([item],rest)
    | _ => none

/-- The members of an object that is not empty, with its closing brace. -/
def readMembers : ℕ → Bytes → Option (Members×Bytes)
  | 0,_ => none
  | fuel+1,text =>
    match skipSpace text with
    | 34::text => do
      let (name,rest) ← readString text
      match skipSpace rest with
      | 58::rest =>
        let (value,rest) ← readValue fuel rest
        match skipSpace rest with
        | 44::rest => (readMembers fuel rest).map fun result => ((name,value)::result.1,result.2)
        | 125::rest => some ([(name,value)],rest)
        | _ => none
      | _ => none
    | _ => none

end

/-- The value of a whole text, with blanks around it. -/
def read (text : Bytes) : Option Json :=
  match readValue (text.length+1) text with
  | some (value,rest) => if skipSpace rest=[] then some value else none
  | none => none

/-- Blanks in front of a value do not matter. -/
theorem readValue_space (fuel : ℕ) (text : Bytes) : readValue fuel (32::text)=readValue fuel text := by
  cases fuel with
  | zero => rfl
  | succ fuel =>
    have hs : skipSpace (32::text)=skipSpace text := rfl
    rw [readValue,readValue,hs]

/-- Blanks in front of a member do not matter. -/
theorem readMembers_space (fuel : ℕ) (text : Bytes) : readMembers fuel (32::text)=readMembers fuel text := by
  cases fuel with
  | zero => rfl
  | succ fuel =>
    have hs : skipSpace (32::text)=skipSpace text := rfl
    rw [readMembers,readMembers,hs]

/-- A scan over bytes of one kind stops at the first byte of another. -/
theorem scan_append {p : UInt8 → Bool} {run rest : Bytes} (hrun : ∀ byte∈run,p byte=true)
    (hrest : ∀ byte∈rest.head?,p byte=false) :
    (run++rest).takeWhile p=run ∧ (run++rest).dropWhile p=rest := by
  rw [List.takeWhile_append_of_pos hrun,List.dropWhile_append_of_pos hrun]
  cases rest with
  | nil => exact ⟨List.append_nil run,rfl⟩
  | cons byte tail =>
    have hb : p byte=false := hrest byte rfl
    rw [List.takeWhile_cons,List.dropWhile_cons,hb]
    exact ⟨List.append_nil run,rfl⟩

/-- A plain string is read up to its closing quote. -/
theorem readString_append {text : Bytes} (hp : ∀ byte∈text,isPlain byte=true) (rest : Bytes) :
    readString (text++34::rest)=some (text,rest) := by
  have hq : ∀ byte∈(34::rest).head?,isPlain byte=false := by
    intro byte hb
    rw [←Option.some.inj hb]
    rfl
  have hs := scan_append hp hq
  rw [readString,hs.1,hs.2]
  rfl

/-- Digits of a number as JSON writes them: at least one, and no zero in front
of another digit. -/
structure IsNumeral (digits : Bytes) : Prop where
  /-- There is a digit. -/
  ne_nil : digits≠[]
  /-- All bytes are digits. -/
  all_digits : ∀ byte∈digits,isDigit byte=true
  /-- Only the number zero starts with a zero. -/
  no_leading_zero : ¬ (digits.headD 0=48 ∧ 1<digits.length)

/-- A text that does not go on with a number does not go on with a digit. -/
theorem head_not_digit {rest : Bytes} (h : startsNumeric rest=false) :
    ∀ byte∈rest.head?,isDigit byte=false := by
  intro byte hb
  cases rest with
  | nil => exact absurd hb (by simp only [List.head?_nil,Option.mem_def,reduceCtorEq,not_false_eq_true])
  | cons first tail =>
    rw [←Option.some.inj hb]
    simp only [startsNumeric,isNumeric,Bool.or_eq_false_iff] at h
    exact h.1.1.1

/-- An integer is read up to the first byte that cannot continue it. -/
theorem readMagnitude_int {digits rest : Bytes} (hd : IsNumeral digits) (hv : digitsValue digits<2^63)
    (hr : startsNumeric rest=false) :
    readMagnitude (digits++rest)=some (.inl (digitsValue digits),rest) := by
  have hs := scan_append hd.all_digits (head_not_digit hr)
  have hn : ¬ (digits=[] ∨ (digits.headD 0=48 ∧ 1<digits.length)) :=
    not_or.mpr ⟨hd.ne_nil,hd.no_leading_zero⟩
  have hf : ¬ (startsNumeric rest=true ∨ 2^63≤digitsValue digits) := by
    rw [hr]
    simp only [Bool.false_eq_true,false_or]
    omega
  rw [readMagnitude]
  simp only [hs.1,hs.2,if_neg hn]
  split
  · next tail _ => exact absurd hr (by simp only [startsNumeric,isNumeric]; decide)
  · rw [if_neg hf]

/-- A decimal is read up to the first byte that cannot continue it. -/
theorem readMagnitude_fraction {digits fraction rest : Bytes} (hd : IsNumeral digits)
    (hf : fraction≠[]) (hfd : ∀ byte∈fraction,isDigit byte=true) (hr : startsNumeric rest=false) :
    readMagnitude (digits++46::(fraction++rest))=
      some (.inr (digitsValue digits+digitsValue fraction/10^fraction.length),rest) := by
  have hpoint : ∀ byte∈(46::(fraction++rest)).head?,isDigit byte=false := by
    intro byte hb
    rw [←Option.some.inj hb]
    rfl
  have hs := scan_append hd.all_digits hpoint
  have ht := scan_append hfd (head_not_digit hr)
  have hn : ¬ (digits=[] ∨ (digits.headD 0=48 ∧ 1<digits.length)) :=
    not_or.mpr ⟨hd.ne_nil,hd.no_leading_zero⟩
  have he : ¬ (fraction=[] ∨ startsNumeric rest=true) := by
    rw [hr]
    simp only [Bool.false_eq_true,or_false]
    exact hf
  rw [readMagnitude]
  simp only [hs.1,hs.2,if_neg hn,ht.1,ht.2,if_neg he]

/-- Bytes that start a number. -/
def numberStarts : List UInt8 := [45,48,49,50,51,52,53,54,55,56,57]

/-- A digit starts a number. -/
theorem isDigit_mem {byte : UInt8} (h : isDigit byte=true) : byte∈numberStarts := by
  have hb : 48≤byte.toNat ∧ byte.toNat≤57 := by
    simp only [isDigit,Bool.and_eq_true,decide_eq_true_eq,UInt8.le_iff_toNat_le] at h
    exact h
  have he : byte=UInt8.ofNat byte.toNat := (UInt8.ofNat_toNat).symm
  rw [he]
  obtain ⟨hlow,hhigh⟩ := hb
  interval_cases byte.toNat <;> decide

/-- A value that starts like a number is read as one. -/
theorem readValue_number {byte : UInt8} (h : byte∈numberStarts) (fuel : ℕ) (tail : Bytes) :
    readValue (fuel+1) (byte::tail)=readNumber (byte::tail) := by
  simp only [numberStarts,List.mem_cons,List.not_mem_nil,or_false] at h
  rcases h with rfl|rfl|rfl|rfl|rfl|rfl|rfl|rfl|rfl|rfl|rfl <;> rfl

/-- A digit does not start a negative number. -/
theorem readNumber_digit {byte : UInt8} (h : isDigit byte=true) (tail : Bytes) :
    readNumber (byte::tail)=
      match readMagnitude (byte::tail) with
      | some (.inl value,rest) => some (.int value,rest)
      | some (.inr value,rest) => some (.double value,rest)
      | none => none := by
  have hm := isDigit_mem h
  simp only [numberStarts,List.mem_cons,List.not_mem_nil,or_false] at hm
  rcases hm with rfl|rfl|rfl|rfl|rfl|rfl|rfl|rfl|rfl|rfl|rfl
  · exact absurd h (by decide)
  all_goals rfl

/-- The text is the value, wherever it stands in front of a byte that cannot
continue a number. -/
def Reads (text : Bytes) (value : Json) : Prop :=
  ∀ fuel rest,text.length≤fuel → startsNumeric rest=false → readValue fuel (text++rest)=some (value,rest)

/-- A string between its quotes. -/
def quoted (text : Bytes) : Bytes := 34::(text++[34])

/-- A plain string reads as itself. -/
theorem reads_string {text : Bytes} (hp : ∀ byte∈text,isPlain byte=true) :
    Reads (quoted text) (.string text) := by
  intro fuel rest hf _
  cases fuel with
  | zero => exact absurd hf (by simp only [quoted,List.length_cons]; omega)
  | succ fuel =>
    have hs : skipSpace (34::(text++34::rest))=34::(text++34::rest) := rfl
    have ht : quoted text++rest=34::(text++34::rest) := by
      simp only [quoted,List.cons_append,List.append_assoc,List.nil_append]
    rw [ht,readValue,hs]
    simp only [readString_append hp,Option.map_some]

/-- Digits read as the integer they write. -/
theorem reads_int {digits : Bytes} (hd : IsNumeral digits) (hv : digitsValue digits<2^63) :
    Reads digits (.int (digitsValue digits)) := by
  intro fuel rest hf hr
  have hm := readMagnitude_int hd hv hr
  obtain ⟨byte,tail,rfl⟩ := List.exists_cons_of_ne_nil hd.ne_nil
  have hb : isDigit byte=true := hd.all_digits byte List.mem_cons_self
  cases fuel with
  | zero => exact absurd hf (by simp only [List.length_cons]; omega)
  | succ fuel =>
    rw [List.cons_append] at hm ⊢
    rw [readValue_number (isDigit_mem hb),readNumber_digit hb,hm]

/-- Digits behind a minus sign read as the negative integer. -/
theorem reads_neg {digits : Bytes} (hd : IsNumeral digits) (hv : digitsValue digits<2^63)
    (hz : digitsValue digits≠0) : Reads (45::digits) (.int (-(digitsValue digits : ℤ))) := by
  intro fuel rest hf hr
  have hm := readMagnitude_int hd hv hr
  cases fuel with
  | zero => exact absurd hf (by simp only [List.length_cons]; omega)
  | succ fuel =>
    have hs : (45 : UInt8)∈numberStarts := by decide
    rw [List.cons_append,readValue_number hs,readNumber,hm]
    simp only [if_neg hz]

/-- Digits around a point read as the decimal they write. -/
theorem reads_double {digits fraction : Bytes} (hd : IsNumeral digits) (hf : fraction≠[])
    (hfd : ∀ byte∈fraction,isDigit byte=true) :
    Reads (digits++46::fraction)
      (.double (digitsValue digits+digitsValue fraction/10^fraction.length)) := by
  intro fuel rest hl hr
  have hm := readMagnitude_fraction hd hf hfd hr
  obtain ⟨byte,tail,rfl⟩ := List.exists_cons_of_ne_nil hd.ne_nil
  have hb : isDigit byte=true := hd.all_digits byte List.mem_cons_self
  cases fuel with
  | zero => exact absurd hl (by simp only [List.cons_append,List.length_cons]; omega)
  | succ fuel =>
    have ht : (byte::tail)++46::fraction++rest=byte::(tail++46::(fraction++rest)) := by
      simp only [List.cons_append,List.append_assoc]
    rw [List.cons_append] at hm
    rw [ht,readValue_number (isDigit_mem hb),readNumber_digit hb,hm]

/-- A member with a blank behind its colon. -/
def memberText (name value : Bytes) : Bytes := quoted name++58::32::value

/-- Texts of members or items with a comma and a blank between them. -/
def joined : List Bytes → Bytes
  | [] => []
  | [text] => text
  | text::texts => text++44::32::joined texts

/-- An object from the texts of its values. -/
def objectText (members : List (Bytes×Bytes)) : Bytes :=
  123::(joined (members.map fun member => memberText member.1 member.2)++[125])

/-- An array from the texts of its items. -/
def arrayText (items : List Bytes) : Bytes := 91::(joined items++[93])

/-- Names are plain and each text is its value, member by member. -/
def MembersRead (texts : List (Bytes×Bytes)) (members : Members) : Prop :=
  List.Forall₂ (fun text member =>
    text.1=member.1 ∧ (∀ byte∈text.1,isPlain byte=true) ∧ Reads text.2 member.2) texts members

/-- One member is read together with the comma or brace behind it. -/
theorem readMembers_step {name text rest : Bytes} {value : Json} {fuel : ℕ}
    (hp : ∀ byte∈name,isPlain byte=true) (hr : Reads text value)
    (hf : text.length≤fuel) (hs : startsNumeric rest=false) :
    readMembers (fuel+1) (memberText name text++rest)=
      match skipSpace rest with
      | 44::rest => (readMembers fuel rest).map fun result => ((name,value)::result.1,result.2)
      | 125::rest => some ([(name,value)],rest)
      | _ => none := by
  have ht : memberText name text++rest=34::(name++34::58::32::(text++rest)) := by
    simp only [memberText,quoted,List.cons_append,List.append_assoc,List.nil_append]
  have hk : skipSpace (34::(name++34::58::32::(text++rest)))=34::(name++34::58::32::(text++rest)) := rfl
  have hc : skipSpace (58::32::(text++rest))=58::32::(text++rest) := rfl
  have hv : readValue fuel (32::(text++rest))=some (value,rest) := by
    rw [readValue_space,hr fuel rest hf hs]
  rw [ht,readMembers,hk]
  simp only [readString_append hp,Option.bind_eq_bind,Option.bind_some,hc,hv]

/-- The members of a text are read in order. -/
theorem readMembers_joined {texts : List (Bytes×Bytes)} {members : Members} (h : MembersRead texts members)
    (hne : texts≠[]) (fuel : ℕ) (rest : Bytes)
    (hf : (joined (texts.map fun member => memberText member.1 member.2)).length≤fuel) :
    readMembers (fuel+1) (joined (texts.map fun member => memberText member.1 member.2)++125::rest)=
      some (members,rest) := by
  induction h generalizing fuel with
  | nil => exact absurd rfl hne
  | @cons text member texts members hm hrest ih =>
    obtain ⟨name,value⟩ := member
    obtain ⟨hname,hp,hr⟩ := hm
    have hname : text.1=name := hname
    cases texts with
    | nil =>
      cases hrest with
      | nil =>
        simp only [List.map_cons,List.map_nil,joined,memberText,quoted,List.length_cons,
          List.length_append] at hf ⊢
        have hstep := readMembers_step hp hr (show text.2.length≤fuel by omega)
          (show startsNumeric (125::rest)=false from rfl)
        simp only [memberText,quoted] at hstep
        rw [hstep,hname]
        rfl
    | cons next texts =>
      simp only [List.map_cons,joined] at hf ih ⊢
      have hl : text.2.length+6≤(memberText text.1 text.2).length+2 := by
        simp only [memberText,quoted,List.length_cons,List.length_append]
        omega
      rw [List.length_append,List.length_cons,List.length_cons] at hf
      have hstep := readMembers_step hp hr (show text.2.length≤fuel by omega)
        (show startsNumeric (44::32::(joined (memberText next.1 next.2::
          texts.map fun member => memberText member.1 member.2)++125::rest))=false from rfl)
      have hk : ∀ tail : Bytes,skipSpace (44::tail)=44::tail := fun _ => rfl
      rw [List.append_assoc,List.cons_append,List.cons_append,hstep,hk]
      obtain ⟨less,rfl⟩ : ∃ less,fuel=less+1 := ⟨fuel-1,by omega⟩
      simp only [readMembers_space]
      rw [ih (by simp only [ne_eq,reduceCtorEq,not_false_eq_true]) less (by omega),hname]
      rfl

/-- An object reads as its members. -/
theorem reads_object {texts : List (Bytes×Bytes)} {members : Members} (h : MembersRead texts members)
    (hne : texts≠[]) : Reads (objectText texts) (.object members) := by
  intro fuel rest hf _
  simp only [objectText,List.length_cons,List.length_append] at hf
  obtain ⟨less,rfl⟩ : ∃ less,fuel=less+2 := ⟨fuel-2,by omega⟩
  have hm := readMembers_joined h hne less rest (by omega)
  obtain ⟨text,tail,rfl⟩ := List.exists_cons_of_ne_nil hne
  have hq : ∃ body,joined ((text::tail).map fun member => memberText member.1 member.2)=34::body := by
    cases tail with
    | nil => exact ⟨_,rfl⟩
    | cons next tail => exact ⟨_,rfl⟩
  obtain ⟨body,hbody⟩ := hq
  rw [hbody] at hm
  rw [objectText,hbody]
  have ht : 123::(34::body++[125])++rest=123::34::(body++125::rest) := by
    simp only [List.cons_append,List.append_assoc,List.nil_append]
  have hk : skipSpace (123::34::(body++125::rest))=123::34::(body++125::rest) := rfl
  have hi : skipSpace (34::(body++125::rest))=34::(body++125::rest) := rfl
  rw [List.cons_append] at hm
  rw [ht,readValue,hk]
  simp only [hi]
  change (readMembers (less+1) (34::(body++125::rest))).map _=_
  rw [hm]
  rfl

/-- An array of one item reads as that item. -/
theorem reads_singleton {first : UInt8} {text : Bytes} {value : Json} (h : Reads (first::text) value)
    (hsp : isSpace first=false) (hb : first≠93) : Reads (arrayText [first::text]) (.array [value]) := by
  intro fuel rest hf _
  simp only [arrayText,joined,List.length_cons,List.length_append] at hf
  obtain ⟨less,rfl⟩ : ∃ less,fuel=less+2 := ⟨fuel-2,by omega⟩
  have ht : arrayText [first::text]++rest=91::first::(text++93::rest) := by
    simp only [arrayText,joined,List.cons_append,List.append_assoc,List.nil_append]
  have hk : skipSpace (91::first::(text++93::rest))=91::first::(text++93::rest) := rfl
  have hi : skipSpace (first::(text++93::rest))=first::(text++93::rest) := by
    rw [skipSpace,List.dropWhile_cons,hsp]
    rfl
  have hv : readValue less (first::(text++93::rest))=some (value,93::rest) :=
    h less (93::rest) (by simp only [List.length_cons]; omega) rfl
  have hc : skipSpace (93::rest)=93::rest := rfl
  rw [ht,readValue,hk]
  simp only [hi]
  split
  · next he => exact absurd (List.cons.inj he).1 hb
  · simp only [readItems,hv,Option.bind_eq_bind,Option.bind_some,hc,Option.map_some]

/-- A text that is a value is read as that value. -/
theorem read_of_reads {text : Bytes} {value : Json} (h : Reads text value) : read text=some value := by
  have hv := h (text.length+1) [] (by omega) rfl
  rw [List.append_nil] at hv
  rw [read,hv]
  rfl

/-- Digits of a number in base ten. -/
def decimal (value : ℕ) : Bytes :=
  if value=0 then [48] else (Nat.digits 10 value).reverse.map fun digit => UInt8.ofNat (48+digit)

/-- The byte of a digit is a digit. -/
theorem isDigit_ofNat {digit : ℕ} (h : digit<10) : isDigit (UInt8.ofNat (48+digit))=true := by
  interval_cases digit <;> rfl

/-- Digits with the most significant one in front write the usual value. -/
theorem digitsValue_reverse {digits : List ℕ} (h : ∀ digit∈digits,digit<10) :
    digitsValue (digits.reverse.map fun digit => UInt8.ofNat (48+digit))=Nat.ofDigits 10 digits := by
  induction digits with
  | nil => rfl
  | cons digit digits ih =>
    have hten : digit<10 := h digit List.mem_cons_self
    have hb : (UInt8.ofNat (48+digit)).toNat=48+digit := by
      rw [UInt8.toNat_ofNat']
      omega
    have hi := ih fun d hd => h d (List.mem_cons_of_mem _ hd)
    rw [digitsValue] at hi ⊢
    rw [List.reverse_cons,List.map_append,List.foldl_append,hi,Nat.ofDigits_cons]
    simp only [List.map_cons,List.map_nil,List.foldl_cons,List.foldl_nil,hb]
    omega

/-- The digits of a number write that number. -/
theorem digitsValue_decimal (value : ℕ) : digitsValue (decimal value)=value := by
  rw [decimal]
  split
  · next hz => rw [hz]; rfl
  · rw [digitsValue_reverse fun _ => Nat.digits_lt_base (by decide),Nat.ofDigits_digits]

/-- The digits of a number are a numeral. -/
theorem isNumeral_decimal (value : ℕ) : IsNumeral (decimal value) := by
  rw [decimal]
  split
  · refine ⟨by decide,?_,by decide⟩
    intro byte hb
    rw [List.mem_singleton.mp hb]
    rfl
  · next hz =>
    have hne : Nat.digits 10 value≠[] := Nat.digits_ne_nil_iff_ne_zero.mpr hz
    refine ⟨?_,?_,?_⟩
    · simp only [ne_eq,List.map_eq_nil_iff,List.reverse_eq_nil_iff]
      exact hne
    · intro byte hb
      obtain ⟨digit,hd,rfl⟩ := List.mem_map.mp hb
      exact isDigit_ofNat (Nat.digits_lt_base (by decide) (List.mem_reverse.mp hd))
    · rintro ⟨hh,-⟩
      -- the leading digit of a positive number is not zero
      have hlast := Nat.getLast_digit_ne_zero 10 hz
      have hlt := Nat.digits_lt_base (b := 10) (by decide) (List.getLast_mem hne)
      rw [List.headD_eq_head?_getD,List.head?_map,List.head?_reverse,List.getLast?_eq_some_getLast hne] at hh
      simp only [Option.map_some,Option.getD_some] at hh
      have hb := congrArg UInt8.toNat hh
      rw [UInt8.toNat_ofNat'] at hb
      change (48+(Nat.digits 10 value).getLast hne)%2^8=48 at hb
      omega

/-- The digits of a number read as that number. -/
theorem reads_decimal {value : ℕ} (h : value<2^63) : Reads (decimal value) (.int value) := by
  have hd := digitsValue_decimal value
  have hr := reads_int (isNumeral_decimal value) (by rw [hd]; exact h)
  rwa [hd] at hr

/-- Two numbers around a point read as whole part and fraction. -/
theorem reads_decimal_fraction (whole fraction : ℕ) :
    Reads (decimal whole++46::decimal fraction)
      (.double (whole+fraction/10^(decimal fraction).length)) := by
  have hf := isNumeral_decimal fraction
  have hr := reads_double (isNumeral_decimal whole) hf.ne_nil hf.all_digits
  rwa [digitsValue_decimal,digitsValue_decimal] at hr

/-- Separators bring no zero byte into a text. -/
theorem zero_notMem_joined {texts : List Bytes} (h : ∀ text∈texts,0∉text) : 0∉joined texts := by
  induction texts with
  | nil => exact List.not_mem_nil
  | cons text texts ih =>
    cases texts with
    | nil => exact h text List.mem_cons_self
    | cons next texts =>
      have ht := h text List.mem_cons_self
      have hi := ih fun other ho => h other (List.mem_cons_of_mem _ ho)
      have hj : joined (text::next::texts)=text++44::32::joined (next::texts) := rfl
      rw [hj]
      simp only [List.mem_append,List.mem_cons,ht,hi,or_false,false_or,not_or]
      exact ⟨by decide,by decide⟩

/-- Nor do the quotes. -/
theorem zero_notMem_quoted {text : Bytes} (h : 0∉text) : 0∉quoted text := by
  rw [quoted]
  simp only [List.mem_append,List.mem_cons,List.not_mem_nil,h,or_false,false_or,not_or]
  exact ⟨by decide,by decide⟩

/-- Nor do the names and braces of an object. -/
theorem zero_notMem_objectText {members : List (Bytes×Bytes)}
    (h : ∀ member∈members,0∉member.1 ∧ 0∉member.2) : 0∉objectText members := by
  have hj : 0∉joined (members.map fun member => memberText member.1 member.2) := by
    apply zero_notMem_joined
    intro text ht
    obtain ⟨member,hm,rfl⟩ := List.mem_map.mp ht
    have hq := zero_notMem_quoted (h member hm).1
    rw [memberText]
    simp only [List.mem_append,List.mem_cons,hq,(h member hm).2,or_false,false_or,not_or]
    exact ⟨by decide,by decide⟩
  rw [objectText]
  simp only [List.mem_append,List.mem_cons,List.not_mem_nil,hj,or_false,false_or,not_or]
  exact ⟨by decide,by decide⟩

/-- Nor do the brackets of an array. -/
theorem zero_notMem_arrayText {items : List Bytes} (h : ∀ item∈items,0∉item) : 0∉arrayText items := by
  have hj := zero_notMem_joined h
  rw [arrayText]
  simp only [List.mem_append,List.mem_cons,List.not_mem_nil,hj,or_false,false_or,not_or]
  exact ⟨by decide,by decide⟩

/-- A plain text has no zero byte. -/
theorem zero_notMem_of_plain {text : Bytes} (h : ∀ byte∈text,isPlain byte=true) : 0∉text := by
  intro hz
  exact absurd (h 0 hz) (by decide)

/-- Digits are plain. -/
theorem isPlain_of_isDigit {byte : UInt8} (h : isDigit byte=true) : isPlain byte=true := by
  have hm := isDigit_mem h
  simp only [numberStarts,List.mem_cons,List.not_mem_nil,or_false] at hm
  rcases hm with rfl|rfl|rfl|rfl|rfl|rfl|rfl|rfl|rfl|rfl|rfl <;> rfl

end LorawanServer.JsonDocument
