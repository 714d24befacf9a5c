import LorawanServer.JsonEvents

/-!
# Texts that are read as given tokens and calls

How a text is built up from parts that are read one after the other: marks,
strings without escapes, integers, members, objects and arrays of objects. Each
part is read the same way whatever stands behind it, so the tokens of a whole
text follow from those of its parts, and the calls of the reader from the
tokens.
-/

namespace LorawanServer.JsonEvents

open CppRuntime JsonDocument

/-- A text that is read as the given tokens, whatever stands behind it. -/
def Lexes (tooBig : Bytes → Bool) (text : Bytes) (list : List Token) : Prop :=
  ∀ rest,lex tooBig (text++rest)=(list++(lex tooBig rest).1,(lex tooBig rest).2)

section Lexing

variable {tooBig : Bytes → Bool}

/-- The empty text. -/
theorem lexes_nil : Lexes tooBig [] [] := fun _ => rfl

/-- One text behind another. -/
theorem Lexes.append {first second : Bytes} {list others : List Token} (h : Lexes tooBig first list)
    (hs : Lexes tooBig second others) : Lexes tooBig (first++second) (list++others) := by
  intro rest
  rw [List.append_assoc,h,hs,List.append_assoc]

/-- A text that is one token. -/
theorem lexes_token {text : Bytes} {token : Token}
    (h : ∀ rest,nextToken tooBig (text++rest)=.found token rest) : Lexes tooBig text [token] := by
  intro rest
  rw [lex_eq,h]
  rfl

/-- A blank does not change the next token. -/
theorem nextToken_space {byte : UInt8} (h : isSpace byte=true) (rest : Bytes) :
    nextToken tooBig (byte::rest)=nextToken tooBig rest := by
  have hskip : skipSpace (byte::rest)=skipSpace rest := by rw [skipSpace,List.dropWhile_cons,h,if_pos rfl,skipSpace]
  have hc : skipComments (rest.length+2) (byte::rest)=skipComments (rest.length+2) rest := by
    rw [skipComments,skipComments,hskip]
  have hf : skipComments (rest.length+2) rest=skipComments (rest.length+1) rest :=
    skipComments_fuel (by omega) (by omega)
  rw [nextToken,nextToken,List.length_cons,hc,hf]

/-- A blank. -/
theorem lexes_space {byte : UInt8} (h : isSpace byte=true) : Lexes tooBig [byte] [] := by
  intro rest
  rw [List.singleton_append,lex_eq,lex_eq,nextToken_space h,← lex_eq]
  rfl

/-- A byte that is no blank and no slash starts the next token. -/
theorem nextToken_cons {byte : UInt8} (hs : isSpace byte=false) (hc : byte≠47) (rest : Bytes) :
    nextToken tooBig (byte::rest)=scanToken tooBig (byte::rest) := by
  have hskip : skipSpace (byte::rest)=byte::rest := by rw [skipSpace,List.dropWhile_cons,hs,if_neg Bool.false_ne_true]
  have hsame : skipComments ((byte::rest).length+1) (byte::rest)=some (byte::rest) := by
    rw [skipComments,hskip]
    split
    · next heq => exact absurd (List.cons.inj heq).1 hc
    · next heq => exact absurd (List.cons.inj heq).1 hc
    · next heq => exact absurd (List.cons.inj heq).1 hc
    · rfl
  rw [nextToken,hsame]

/-- A bracket, a brace, a colon or a comma. -/
theorem lexes_mark {byte : UInt8} {token : Token} (hs : isSpace byte=false) (hc : byte≠47)
    (h : ∀ rest,scanToken tooBig (byte::rest)=.found token rest) : Lexes tooBig [byte] [token] :=
  lexes_token fun rest => (nextToken_cons hs hc rest).trans (h rest)

/-- An opening brace. -/
theorem lexes_openBrace : Lexes tooBig [123] [.openBrace] := lexes_mark rfl (by decide) fun _ => rfl

/-- A closing brace. -/
theorem lexes_closeBrace : Lexes tooBig [125] [.closeBrace] := lexes_mark rfl (by decide) fun _ => rfl

/-- An opening bracket. -/
theorem lexes_openBracket : Lexes tooBig [91] [.openBracket] := lexes_mark rfl (by decide) fun _ => rfl

/-- A closing bracket. -/
theorem lexes_closeBracket : Lexes tooBig [93] [.closeBracket] := lexes_mark rfl (by decide) fun _ => rfl

/-- A colon. -/
theorem lexes_colon : Lexes tooBig [58] [.colon] := lexes_mark rfl (by decide) fun _ => rfl

/-- A comma. -/
theorem lexes_comma : Lexes tooBig [44] [.comma] := lexes_mark rfl (by decide) fun _ => rfl

/-- A byte that spells itself in a string. -/
def IsClean (byte : UInt8) : Prop := 32≤byte ∧ byte≠34 ∧ byte≠92

instance (byte : UInt8) : Decidable (IsClean byte) := inferInstanceAs (Decidable (_ ∧ _))

/-- A text that is clean byte by byte. -/
theorem isClean_of_all {text : Bytes} (h : text.all (fun byte => decide (IsClean byte))=true) :
    ∀ byte∈text,IsClean byte := fun byte hb => of_decide_eq_true (List.all_eq_true.mp h byte hb)

/-- A name of a list of clean names, at any index. -/
theorem isClean_getD_of_all {names : List Bytes}
    (h : (names.all fun name => name.all fun byte => decide (IsClean byte))=true) (i : ℕ) :
    ∀ byte∈names.getD i [],IsClean byte := by
  by_cases hi : i<names.length
  · rw [List.getD_eq_getElem _ _ hi]
    exact isClean_of_all (List.all_eq_true.mp h _ (List.getElem_mem hi))
  · rw [List.getD_eq_default _ _ (Nat.le_of_not_lt hi)]
    exact fun _ hb => absurd hb List.not_mem_nil

/-- A clean text is seen whole by a C function. -/
theorem cString_of_clean {text : Bytes} (h : ∀ byte∈text,IsClean byte) : cString text=text :=
  cString_eq_self fun hz => absurd (h 0 hz).1 (by decide)

/-- Plain bytes can stand between quotes. -/
theorem isClean_of_isPlain {byte : UInt8} (h : isPlain byte=true) : IsClean byte := by
  simp only [isPlain,Bool.and_eq_true,decide_eq_true_eq] at h
  exact ⟨h.1.1.1,h.1.2,h.2⟩

/-- Decimal digits can stand between quotes. -/
theorem isClean_decimal (value : ℕ) : ∀ byte∈decimal value,IsClean byte := fun byte hb =>
  isClean_of_isPlain (isPlain_of_isDigit ((isNumeral_decimal value).all_digits byte hb))

/-- Clean bytes are read up to the closing quote. -/
theorem readText_clean {text : Bytes} (h : ∀ byte∈text,IsClean byte) (rest : Bytes) :
    ∀ {fuel : ℕ},text.length<fuel → readText fuel (text++34::rest)=some (text,rest) := by
  induction text with
  | nil =>
    intro fuel hf
    obtain ⟨fuel,rfl⟩ := Nat.exists_eq_add_of_lt hf
    rfl
  | cons byte text ih =>
    intro fuel hf
    obtain ⟨⟨hlow,hq,hb⟩,htail⟩ := List.forall_mem_cons.mp h
    cases fuel with
    | zero => exact absurd hf (Nat.not_lt_zero _)
    | succ fuel =>
      rw [List.cons_append,readText,if_neg hb,if_neg hq,if_neg (UInt8.not_lt.mpr hlow),
        ih htail (Nat.lt_of_succ_lt_succ hf)]
      rfl

/-- A string of clean bytes. -/
theorem lexes_string {text : Bytes} (h : ∀ byte∈text,IsClean byte) :
    Lexes tooBig (34::(text++[34])) [.string text] := by
  refine lexes_token fun rest => ?_
  have hread : readText ((text++34::rest).length+1) (text++34::rest)=some (text,rest) := by
    refine readText_clean h rest ?_
    rw [List.length_append]
    omega
  rw [List.cons_append,List.append_assoc,nextToken_cons rfl (by decide),List.singleton_append,scanToken,hread]

/-- A text that starts like a number is read as one. -/
theorem scanToken_number {byte : UInt8} (h : byte∈numberStarts) (tail : Bytes) :
    scanToken tooBig (byte::tail)=match readNumeral tooBig (byte::tail) with
      | some (event,rest) => .found (.scalar event) rest
      | none => .failed := by
  simp only [numberStarts,List.mem_cons,List.not_mem_nil,or_false] at h
  rcases h with rfl|rfl|rfl|rfl|rfl|rfl|rfl|rfl|rfl|rfl|rfl <;> rfl

/-- A numeral is the whole part of a number that goes on with no digit. -/
theorem wholeDigits_append {digits rest : Bytes} (hd : IsNumeral digits)
    (hr : ∀ byte∈rest.head?,isDigit byte=false) : wholeDigits (digits++rest)=digits := by
  cases digits with
  | nil => exact absurd rfl hd.ne_nil
  | cons byte tail =>
    rw [wholeDigits]
    split
    · next hz =>
      have hnil : tail=[] := by
        by_contra hne
        exact hd.no_leading_zero ⟨hz,Nat.succ_lt_succ (List.length_pos_of_ne_nil hne)⟩
      rw [hnil,show byte=48 from hz]
    · exact (scan_append hd.all_digits hr).1

/-- No exponent starts where no number goes on. -/
theorem readExponent_none {rest : Bytes} (h : startsNumeric rest=false) : readExponent rest=some ([],rest) := by
  cases rest with
  | nil => rfl
  | cons letter tail =>
    simp only [startsNumeric,isNumeric,Bool.or_eq_false_iff,decide_eq_false_iff_not] at h
    exact if_pos ⟨h.2,h.1.2⟩

/-- What starts a number is no blank and no slash. -/
theorem numberStarts_mark {byte : UInt8} (h : byte∈numberStarts) : isSpace byte=false ∧ byte≠47 := by
  simp only [numberStarts,List.mem_cons,List.not_mem_nil,or_false] at h
  rcases h with rfl|rfl|rfl|rfl|rfl|rfl|rfl|rfl|rfl|rfl|rfl <;> decide

/-- Sign and digits of an integer. -/
def signed (minus : Bool) (digits : Bytes) : Bytes := if minus then 45::digits else digits

/-- A fraction with its point, or nothing. -/
inductive IsFraction : Bytes → Prop where
  /-- No fraction. -/
  | none : IsFraction []
  /-- A point and digits. -/
  | digits {digits : Bytes} (hne : digits≠[]) (h : ∀ byte∈digits,isDigit byte=true) : IsFraction (46::digits)

/-- An exponent with its letter and its sign, or nothing. -/
inductive IsExponent : Bytes → Prop where
  /-- No exponent. -/
  | none : IsExponent []
  /-- A letter, a sign and digits. -/
  | digits {sign : UInt8} {digits : Bytes} (hs : sign=43 ∨ sign=45) (hne : digits≠[])
      (h : ∀ byte∈digits,isDigit byte=true) : IsExponent (101::sign::digits)

/-- What a number goes on with behind its digits is neither a digit nor a point. -/
theorem IsExponent.head {exponent rest : Bytes} (h : IsExponent exponent) (hr : startsNumeric rest=false) :
    ∀ byte∈(exponent++rest).head?,isDigit byte=false ∧ byte≠46 := by
  intro byte hb
  cases h with
  | none =>
    refine ⟨head_not_digit hr byte hb,?_⟩
    rintro rfl
    cases rest with
    | nil => cases hb
    | cons first tail =>
      obtain rfl := Option.some.inj hb
      cases hr
  | digits hs hne h =>
    obtain rfl := Option.some.inj hb
    exact ⟨rfl,by decide⟩

/-- A fraction is read up to what is neither a digit nor a point. -/
theorem readFraction_append {fraction rest : Bytes} (h : IsFraction fraction)
    (hr : ∀ byte∈rest.head?,isDigit byte=false ∧ byte≠46) : readFraction (fraction++rest)=some (fraction,rest) := by
  cases h with
  | none =>
    rw [List.nil_append]
    unfold readFraction
    split
    · exact absurd rfl (hr 46 rfl).2
    · rfl
  | digits hne h =>
    obtain ⟨htake,hdrop⟩ := scan_append h fun byte hb => (hr byte hb).1
    rw [List.cons_append,readFraction,htake,hdrop,if_neg hne]

/-- An exponent is read up to the first byte that does not go on with it. -/
theorem readExponent_append {exponent rest : Bytes} (h : IsExponent exponent) (hr : startsNumeric rest=false) :
    readExponent (exponent++rest)=some (exponent,rest) := by
  cases h with
  | none => exact readExponent_none hr
  | digits hs hne h =>
    obtain ⟨htake,hdrop⟩ := scan_append h (head_not_digit hr)
    have hletter : ¬((101 : UInt8)≠101 ∧ (101 : UInt8)≠69) := by decide
    rcases hs with rfl|rfl
    all_goals
      simp only [List.cons_append,readExponent,exponentSign,List.length_singleton,List.drop_succ_cons,List.drop_zero,
        htake,hdrop]
      rw [if_neg hletter,if_neg hne]
      rfl

/-- A number is read up to the first byte that does not go on with it. -/
theorem readNumeral_append {minus : Bool} {whole fraction exponent rest : Bytes} (hd : IsNumeral whole)
    (hf : IsFraction fraction) (he : IsExponent exponent) (hr : startsNumeric rest=false) :
    readNumeral tooBig (signed minus (whole++(fraction++exponent))++rest)=
      (numeralEvent tooBig minus (decide (fraction=[]) && decide (exponent=[])) (digitsValue whole)
        (signed minus (whole++(fraction++exponent)))).map fun event => (event,rest) := by
  set unsigned := whole++(fraction++exponent) with hunsigned
  have hsign : (signed minus unsigned++rest).headD 0=45 ↔ minus=true := by
    cases minus with
    | true => exact iff_of_true rfl rfl
    | false =>
      refine iff_of_false (fun h => ?_) Bool.false_ne_true
      cases whole with
      | nil => exact hd.ne_nil rfl
      | cons byte tail =>
        have hdigit := hd.all_digits byte List.mem_cons_self
        rw [show byte=45 from h] at hdigit
        cases hdigit
  have hdecide : decide ((signed minus unsigned++rest).headD 0=45)=minus := by
    rw [Bool.eq_iff_iff,decide_eq_true_iff]
    exact hsign
  have hbare : (if (signed minus unsigned++rest).headD 0=45 then (signed minus unsigned++rest).drop 1
      else signed minus unsigned++rest)=whole++(fraction++(exponent++rest)) := by
    have hassoc : unsigned++rest=whole++(fraction++(exponent++rest)) := by
      rw [hunsigned,List.append_assoc,List.append_assoc]
    cases minus with
    | true =>
      rw [if_pos (hsign.mpr rfl)]
      exact hassoc
    | false =>
      rw [if_neg fun h => Bool.false_ne_true (hsign.mp h)]
      exact hassoc
  have hlexeme : (signed minus unsigned++rest).take ((signed minus unsigned++rest).length-rest.length)=
      signed minus unsigned := by
    rw [List.length_append,Nat.add_sub_cancel,List.take_left]
  have hbehind := he.head hr
  have hpoint : ∀ byte∈(fraction++(exponent++rest)).head?,isDigit byte=false := by
    intro byte hb
    cases hf with
    | none => exact (hbehind byte hb).1
    | digits hne h =>
      obtain rfl := Option.some.inj hb
      rfl
  dsimp only [readNumeral]
  rw [hdecide,hbare,wholeDigits_append hd hpoint,if_neg hd.ne_nil,List.drop_left,readFraction_append hf hbehind]
  simp only [Option.bind_eq_bind,Option.bind_some,readExponent_append he hr,hlexeme,Option.pure_def]
  cases numeralEvent tooBig minus (decide (fraction=[]) && decide (exponent=[])) (digitsValue whole)
    (signed minus unsigned) <;> rfl

/-- A number is the next token, unless it is too big. -/
theorem nextToken_numeral {minus : Bool} {whole fraction exponent rest : Bytes} (hd : IsNumeral whole)
    (hf : IsFraction fraction) (he : IsExponent exponent) (hr : startsNumeric rest=false) :
    nextToken tooBig (signed minus (whole++(fraction++exponent))++rest)=
      match numeralEvent tooBig minus (decide (fraction=[]) && decide (exponent=[])) (digitsValue whole)
          (signed minus (whole++(fraction++exponent))) with
      | some event => .found (.scalar event) rest
      | none => .failed := by
  have hread : readNumeral tooBig (signed minus (whole++(fraction++exponent))++rest)=_ :=
    readNumeral_append hd hf he hr
  have hstart : ∃ byte tail,signed minus (whole++(fraction++exponent))++rest=byte::tail ∧ byte∈numberStarts := by
    cases minus with
    | true => exact ⟨45,_,rfl,by decide⟩
    | false =>
      cases whole with
      | nil => exact absurd rfl hd.ne_nil
      | cons byte tail => exact ⟨byte,_,rfl,isDigit_mem (hd.all_digits byte List.mem_cons_self)⟩
  obtain ⟨byte,tail,heq,hbyte⟩ := hstart
  rw [heq] at hread ⊢
  obtain ⟨hs,hc⟩ := numberStarts_mark hbyte
  rw [nextToken_cons hs hc,scanToken_number hbyte,hread]
  cases numeralEvent tooBig minus (decide (fraction=[]) && decide (exponent=[])) (digitsValue whole)
    (signed minus (whole++(fraction++exponent))) <;> rfl

/-- An integer is the next token, unless it is too big. -/
theorem nextToken_signed {minus : Bool} {digits rest : Bytes} (hd : IsNumeral digits) (hr : startsNumeric rest=false) :
    nextToken tooBig (signed minus digits++rest)=
      match numeralEvent tooBig minus true (digitsValue digits) (signed minus digits) with
      | some event => .found (.scalar event) rest
      | none => .failed := by
  have hnext : nextToken tooBig (signed minus (digits++([]++[]))++rest)=_ := nextToken_numeral hd .none .none hr
  rw [List.append_nil,List.append_nil] at hnext
  exact hnext

/-- An integer that fits is a token in front of a mark. -/
theorem lexes_signed {minus : Bool} {digits : Bytes} (hd : IsNumeral digits)
    (hv : if minus then digitsValue digits≤2^63 else digitsValue digits<2^64) {mark : UInt8} {token : Token}
    (hr : startsNumeric [mark]=false) (hm : Lexes tooBig [mark] [token]) :
    Lexes tooBig (signed minus digits++[mark]) [.scalar (.number minus (digitsValue digits)),token] := by
  intro rest
  have hevent : numeralEvent tooBig minus true (digitsValue digits) (signed minus digits)=
      some (.number minus (digitsValue digits)) := if_pos ⟨rfl,hv⟩
  have hnext : nextToken tooBig (signed minus digits++mark::rest)=
      .found (.scalar (.number minus (digitsValue digits))) (mark::rest) := by
    have hr' : startsNumeric (mark::rest)=false := hr
    rw [nextToken_signed hd hr',hevent]
  have hrest := hm rest
  rw [List.singleton_append] at hrest
  rw [List.append_assoc,List.singleton_append,lex_eq,hnext]
  simp only [hrest]
  rfl

/-- A number that fits is a token in front of a mark. -/
theorem lexes_decimal {value : ℕ} (hv : value<2^64) {mark : UInt8} {token : Token}
    (hr : startsNumeric [mark]=false) (hm : Lexes tooBig [mark] [token]) :
    Lexes tooBig (decimal value++[mark]) [.scalar (.number false value),token] := by
  have hd := digitsValue_decimal value
  have hfit : if false=true then digitsValue (decimal value)≤2^63 else digitsValue (decimal value)<2^64 := by
    rwa [if_neg Bool.false_ne_true,hd]
  have hlex : Lexes tooBig (signed false (decimal value)++[mark]) _ := lexes_signed (isNumeral_decimal value) hfit hr hm
  rwa [hd] at hlex

end Lexing

/-- The calls of one token list behind another. -/
theorem feed_append {first : List Token} {reading behind : Reading} {events : List Event}
    (h : feed reading first=(events,some behind)) (second : List Token) :
    feed reading (first++second)=(events++(feed behind second).1,(feed behind second).2) := by
  induction first generalizing reading events with
  | nil =>
    obtain ⟨rfl,hb⟩ := Prod.mk.inj h
    rw [Option.some.inj hb]
    rfl
  | cons token first ih =>
    rw [List.cons_append]
    rw [feed] at h ⊢
    cases hstep : advance reading token with
    | none =>
      rw [hstep] at h
      cases (Prod.mk.inj h).2
    | some found =>
      obtain ⟨calls,next⟩ := found
      rw [hstep] at h
      obtain ⟨rfl,hb⟩ := Prod.mk.inj h
      have hnext : feed next first=((feed next first).1,some behind) := Prod.ext rfl hb
      simp only [ih hnext,List.append_assoc]

/-- The calls of one event list behind another that is taken whole. -/
theorem deliver_append {σ : Type*} {handler : σ → Event → σ×Bool} {state behind : σ} {first : List Event}
    (h : deliver handler state first=(behind,true)) (second : List Event) :
    deliver handler state (first++second)=deliver handler behind second := by
  induction first generalizing state with
  | nil => rw [← (Prod.mk.inj h).1,List.nil_append]
  | cons event first ih =>
    rw [List.cons_append]
    simp only [deliver] at h ⊢
    split at h
    · next hgo =>
      rw [if_pos hgo]
      exact ih h
    · cases (Prod.mk.inj h).2

/-- A call that is refused ends an event list, whatever is behind it. -/
theorem deliver_stop {σ : Type*} {handler : σ → Event → σ×Bool} {state behind : σ} {first : List Event}
    (h : deliver handler state first=(behind,false)) (second : List Event) :
    deliver handler state (first++second)=(behind,false) := by
  induction first generalizing state with
  | nil => cases (Prod.mk.inj h).2
  | cons event first ih =>
    rw [List.cons_append]
    simp only [deliver] at h ⊢
    split at h
    · next hgo =>
      rw [if_pos hgo]
      exact ih h
    · next hgo =>
      rw [if_neg hgo]
      exact h

/-- One more item behind some with separators between them. -/
theorem intercalate_concat {α : Type*} (separator : List α) {items : List (List α)} (h : items≠[]) (last : List α) :
    separator.intercalate (items++[last])=separator.intercalate items++separator++last := by
  induction items with
  | nil => exact absurd rfl h
  | cons item rest ih =>
    cases rest with
    | nil =>
      rw [List.singleton_append,List.intercalate_cons_cons,List.intercalate_singleton,List.intercalate_singleton]
    | cons second rest =>
      rw [List.cons_append,List.intercalate_cons_of_ne_nil (List.append_ne_nil_of_left_ne_nil (List.cons_ne_nil _ _) _),
        ih (List.cons_ne_nil _ _),List.intercalate_cons_cons]
      simp only [List.append_assoc]

/-- Texts with a separator between them. -/
theorem Lexes.intercalate {ι : Type*} {tooBig : Bytes → Bool} {separator : Bytes} {mark : List Token}
    (hs : Lexes tooBig separator mark) {text : ι → Bytes} {list : ι → List Token} {items : List ι}
    (h : ∀ item∈items,Lexes tooBig (text item) (list item)) :
    Lexes tooBig (separator.intercalate (items.map text)) (mark.intercalate (items.map list)) := by
  induction items with
  | nil => exact lexes_nil
  | cons item rest ih =>
    obtain ⟨hfirst,hrest⟩ := List.forall_mem_cons.mp h
    cases rest with
    | nil =>
      rw [List.map_singleton,List.map_singleton,List.intercalate_singleton,List.intercalate_singleton]
      exact hfirst
    | cons second rest =>
      rw [List.map_cons,List.map_cons,List.map_cons,List.map_cons,List.intercalate_cons_cons,
        List.intercalate_cons_cons]
      exact (hfirst.append hs).append (ih hrest)

/-- The token of a value that is no container. -/
def Event.token : Event → Token
  | .string text => .string text
  | event => .scalar event

/-- Such a token is a value. -/
theorem beginValue_token (stack : List Frame) (event : Event) :
    beginValue stack event.token=some ([event],(.behind,stack)) := by
  cases event <;> rfl

/-- The tokens of a member. -/
def memberTokens (m : Bytes×Event) : List Token := [.string m.1,.colon,m.2.token]

/-- The calls of a member. -/
def memberEvents (m : Bytes×Event) : List Event := [.key m.1,m.2]

/-- The tokens of an object. -/
def objectTokens (members : List (Bytes×Event)) : List Token :=
  .openBrace::([.comma].intercalate (members.map memberTokens)++[.closeBrace])

/-- The calls of an object. -/
def objectEvents (members : List (Bytes×Event)) : List Event :=
  .startObject::(members.flatMap memberEvents++[.endObject])

/-- One member behind another name is read. -/
theorem feed_member {expect : Expect} (he : expect=.firstName ∨ expect=.name) (stack : List Frame)
    (m : Bytes×Event) : feed (expect,.object::stack) (memberTokens m)=(memberEvents m,some (.behind,.object::stack)) := by
  have hv := beginValue_token (.object::stack) m.2
  rcases he with rfl|rfl <;> simp only [memberTokens,memberEvents,feed,advance,hv] <;> rfl

/-- The members of an object are read. -/
theorem feed_members {members : List (Bytes×Event)} (hm : members≠[]) (stack : List Frame) :
    ∀ {expect : Expect},expect=.firstName ∨ expect=.name →
      feed (expect,.object::stack) ([.comma].intercalate (members.map memberTokens))=
        (members.flatMap memberEvents,some (.behind,.object::stack)) := by
  induction members with
  | nil => exact absurd rfl hm
  | cons m rest ih =>
    intro expect he
    have hfirst := feed_member he stack m
    cases rest with
    | nil =>
      rw [List.map_singleton,List.intercalate_singleton,hfirst,List.flatMap_singleton]
    | cons second rest =>
      have hcomma : feed (.behind,.object::stack) [.comma]=([],some (.name,.object::stack)) := rfl
      rw [List.map_cons,List.map_cons,List.intercalate_cons_cons,List.append_assoc,feed_append hfirst,
        feed_append hcomma,List.nil_append,← List.map_cons,ih (List.cons_ne_nil _ _) (.inr rfl)]
      rfl

/-- An object is a value. -/
theorem feed_object {members : List (Bytes×Event)} (hm : members≠[]) {expect : Expect}
    (he : expect=.value ∨ expect=.firstItem) (stack : List Frame) :
    feed (expect,stack) (objectTokens members)=(objectEvents members,some (.behind,stack)) := by
  have hopen : feed (expect,stack) [.openBrace]=([.startObject],some (.firstName,.object::stack)) := by
    rcases he with rfl|rfl
    · rfl
    · cases stack with
      | nil => rfl
      | cons frame stack => cases frame <;> rfl
  have hclose : feed (.behind,.object::stack) [.closeBrace]=([.endObject],some (.behind,stack)) := rfl
  have hmembers := feed_append (feed_members hm stack (.inl rfl)) [.closeBrace]
  rw [objectTokens,← List.singleton_append,feed_append hopen,hmembers,hclose,objectEvents]
  rfl

/-- Objects of an array are read. -/
theorem feed_objects {objects : List (List (Bytes×Event))} (ho : objects≠[]) (hm : ∀ members∈objects,members≠[])
    (stack : List Frame) : ∀ {expect : Expect},expect=.value ∨ expect=.firstItem →
      feed (expect,.array::stack) ([.comma].intercalate (objects.map objectTokens))=
        (objects.flatMap objectEvents,some (.behind,.array::stack)) := by
  induction objects with
  | nil => exact absurd rfl ho
  | cons members rest ih =>
    intro expect he
    obtain ⟨hone,hrest⟩ := List.forall_mem_cons.mp hm
    have hfirst := feed_object hone he (.array::stack)
    cases rest with
    | nil =>
      rw [List.map_singleton,List.intercalate_singleton,hfirst,List.flatMap_singleton]
    | cons second rest =>
      have hcomma : feed (.behind,.array::stack) [.comma]=([],some (.value,.array::stack)) := rfl
      rw [List.map_cons,List.map_cons,List.intercalate_cons_cons,List.append_assoc,feed_append hfirst,
        feed_append hcomma,List.nil_append,← List.map_cons,ih (List.cons_ne_nil _ _) hrest (.inl rfl)]
      rfl

/-- A text that is an array of objects. -/
theorem readEvents_objects {tooBig : Bytes → Bool} {text : Bytes} {objects : List (List (Bytes×Event))}
    (hm : ∀ members∈objects,members≠[])
    (h : Lexes tooBig text (Token.openBracket::([Token.comma].intercalate (objects.map objectTokens)++[Token.closeBracket]))) :
    readEvents tooBig text=(.startArray::(objects.flatMap objectEvents++[.endArray]),true) := by
  have hlex := h []
  have hnil : lex tooBig []=([],true) := rfl
  rw [List.append_nil,hnil,List.append_nil] at hlex
  have hopen : feed (.value,[]) [.openBracket]=([.startArray],some (.firstItem,[.array])) := rfl
  have hclose : feed (.behind,[.array]) [.closeBracket]=([.endArray],some (.behind,[])) := rfl
  have hfeed : feed (.value,[]) (Token.openBracket::([Token.comma].intercalate (objects.map objectTokens)++[Token.closeBracket]))=
      (.startArray::(objects.flatMap objectEvents++[.endArray]),some (.behind,[])) := by
    rw [← List.singleton_append,feed_append hopen]
    cases objects with
    | nil => rfl
    | cons members rest =>
      rw [feed_append (feed_objects (List.cons_ne_nil _ _) hm [] (.inr rfl)),hclose]
      rfl
  simp only [readEvents,hlex,hfeed,Bool.true_and,decide_true]

end LorawanServer.JsonEvents
