import LorawanServer.JsonDocument

/-!
# A JSON reader that calls a handler

Reading a text without building a document: tokens first, then a pushdown
automaton over them that calls a handler for every value, name and bracket.
Comments are skipped, strings keep their bytes but for escapes, and the text
ends at a zero byte. Numbers with a fraction, an exponent or too many digits
are passed on as they are written; which of these are refused is an argument.
Lemmas say what every part of the reader cuts off its text, and from which place
in the text a string token comes.
-/

namespace LorawanServer.JsonEvents

open CppRuntime JsonDocument

/-- A call on the handler. -/
inductive Event where
  /-- The literal `null`. -/
  | null
  /-- The literals `true` and `false`. -/
  | bool (value : Bool)
  /-- An integer of at most 64 bits, with its sign. -/
  | number (minus : Bool) (magnitude : ℕ)
  /-- Any other number, by its text. -/
  | double (text : Bytes)
  /-- A string. -/
  | string (text : Bytes)
  /-- An opening brace. -/
  | startObject
  /-- The name of a member. -/
  | key (text : Bytes)
  /-- A closing brace. -/
  | endObject
  /-- An opening bracket. -/
  | startArray
  /-- A closing bracket. -/
  | endArray
  deriving DecidableEq,Repr

/-- A token of a JSON text. -/
inductive Token where
  /-- An opening brace. -/
  | openBrace
  /-- A closing brace. -/
  | closeBrace
  /-- An opening bracket. -/
  | openBracket
  /-- A closing bracket. -/
  | closeBracket
  /-- A colon. -/
  | colon
  /-- A comma. -/
  | comma
  /-- A string between quotes. -/
  | string (text : Bytes)
  /-- A number or a literal, as the event of its value. -/
  | scalar (event : Event)
  deriving DecidableEq,Repr

/-- The text behind the end of a block comment. -/
def skipBlock : Bytes → Option Bytes
  | [] => none
  | 0::_ => none
  | 42::47::rest => some rest
  | _::rest => skipBlock rest

/-- The text behind the end of a line comment. -/
def skipLine : Bytes → Bytes
  | [] => []
  | 0::rest => 0::rest
  | 10::rest => rest
  | _::rest => skipLine rest

/-- The text behind blanks and comments; nothing for a broken comment. The first
argument bounds the number of comments. -/
def skipComments : ℕ → Bytes → Option Bytes
  | 0,_ => none
  | fuel+1,text =>
    match skipSpace text with
    | 47::42::rest => (skipBlock rest).bind (skipComments fuel)
    | 47::47::rest => skipComments fuel (skipLine rest)
    | 47::_ => none
    | text => some text

/-- Value of a hexadecimal digit. -/
def hexValue (byte : UInt8) : Option ℕ :=
  if 48≤byte.toNat ∧ byte.toNat≤57 then some (byte.toNat-48)
  else if 65≤byte.toNat ∧ byte.toNat≤70 then some (byte.toNat-55)
  else if 97≤byte.toNat ∧ byte.toNat≤102 then some (byte.toNat-87)
  else none

/-- Four hexadecimal digits and the text behind them. -/
def readHex4 : Bytes → Option (ℕ×Bytes)
  | a::b::c::d::rest => do
    let a ← hexValue a
    let b ← hexValue b
    let c ← hexValue c
    let d ← hexValue d
    return (((a*16+b)*16+c)*16+d,rest)
  | _ => none

/-- The bytes of a code point in UTF-8. -/
def utf8Bytes (codepoint : ℕ) : Bytes :=
  if codepoint<0x80 then [UInt8.ofNat codepoint]
  else if codepoint<0x800 then [UInt8.ofNat (0xc0+codepoint/64),UInt8.ofNat (0x80+codepoint%64)]
  else if codepoint<0x10000 then
    [UInt8.ofNat (0xe0+codepoint/4096),UInt8.ofNat (0x80+codepoint/64%64),UInt8.ofNat (0x80+codepoint%64)]
  else [UInt8.ofNat (0xf0+codepoint/262144),UInt8.ofNat (0x80+codepoint/4096%64),
    UInt8.ofNat (0x80+codepoint/64%64),UInt8.ofNat (0x80+codepoint%64)]

/-- An escaped code point behind the letter `u`; a high surrogate needs a low
one behind it. -/
def readCodepoint (text : Bytes) : Option (Bytes×Bytes) := do
  let (first,rest) ← readHex4 text
  if 0xd800≤first ∧ first≤0xdbff then
    match rest with
    | 92::117::rest =>
      let (second,rest) ← readHex4 rest
      if second<0xdc00 ∨ 0xdfff<second then none
      else some (utf8Bytes ((first-0xd800)*1024+(second-0xdc00)+0x10000),rest)
    | _ => none
  else some (utf8Bytes first,rest)

/-- What stands behind a backslash: its bytes and the text behind it. -/
def readEscape : Bytes → Option (Bytes×Bytes)
  | 34::rest => some ([34],rest)
  | 47::rest => some ([47],rest)
  | 92::rest => some ([92],rest)
  | 98::rest => some ([8],rest)
  | 102::rest => some ([12],rest)
  | 110::rest => some ([10],rest)
  | 114::rest => some ([13],rest)
  | 116::rest => some ([9],rest)
  | 117::rest => readCodepoint rest
  | _ => none

/-- A string behind its opening quote and the text behind the closing one. The
first argument bounds the number of characters. -/
def readText : ℕ → Bytes → Option (Bytes×Bytes)
  | 0,_ => none
  | _+1,[] => none
  | fuel+1,byte::rest =>
    if byte=92 then do
      let (decoded,rest) ← readEscape rest
      let (tail,rest) ← readText fuel rest
      return (decoded++tail,rest)
    else if byte=34 then some ([],rest)
    else if byte<32 then none
    else do
      let (tail,rest) ← readText fuel rest
      return (byte::tail,rest)

/-- Digits behind a point or an exponent, with what introduces them; nothing
when a digit is missing. -/
def readFraction : Bytes → Option (Bytes×Bytes)
  | 46::text =>
    if text.takeWhile isDigit=[] then none
    else some (46::text.takeWhile isDigit,text.dropWhile isDigit)
  | text => some ([],text)

/-- The sign behind the letter of an exponent. -/
def exponentSign : Bytes → Bytes
  | 43::_ => [43]
  | 45::_ => [45]
  | _ => []

/-- An exponent, with its letter and its sign. -/
def readExponent : Bytes → Option (Bytes×Bytes)
  | [] => some ([],[])
  | letter::text =>
    let sign := exponentSign text
    let digits := (text.drop sign.length).takeWhile isDigit
    if letter≠101 ∧ letter≠69 then some ([],letter::text)
    else if digits=[] then none
    else some (letter::(sign++digits),(text.drop sign.length).dropWhile isDigit)

/-- The whole part of a number without its sign: a single zero or digits. -/
def wholeDigits (unsigned : Bytes) : Bytes :=
  if unsigned.headD 0=48 then [48] else unsigned.takeWhile isDigit

/-- The event of a number: an integer without fraction and exponent that fits,
or its text. -/
def numeralEvent (tooBig : Bytes → Bool) (minus plain : Bool) (magnitude : ℕ) (lexeme : Bytes) : Option Event :=
  if plain ∧ (if minus then magnitude≤2^63 else magnitude<2^64) then some (.number minus magnitude)
  else if tooBig lexeme then none
  else some (.double lexeme)

/-- A number: its sign, its whole part, a fraction and an exponent. -/
def readNumeral (tooBig : Bytes → Bool) (text : Bytes) : Option (Event×Bytes) :=
  let minus := text.headD 0=45
  let unsigned := if minus then text.drop 1 else text
  let whole := wholeDigits unsigned
  if whole=[] then none else do
    let (fraction,behind) ← readFraction (unsigned.drop whole.length)
    let (exponent,rest) ← readExponent behind
    let event ← numeralEvent tooBig minus (fraction=[] && exponent=[]) (digitsValue whole)
      (text.take (text.length-rest.length))
    return (event,rest)

/-- What the front of a text is. -/
inductive Scan where
  /-- No token. -/
  | failed
  /-- The end of the text. -/
  | finished
  /-- A token, with the text behind it. -/
  | found (token : Token) (rest : Bytes)
  deriving DecidableEq,Repr

/-- The token at the front of a text that starts with no blank. -/
def scanToken (tooBig : Bytes → Bool) : Bytes → Scan
  | [] => .finished
  | 0::_ => .finished
  | 123::rest => .found .openBrace rest
  | 125::rest => .found .closeBrace rest
  | 91::rest => .found .openBracket rest
  | 93::rest => .found .closeBracket rest
  | 58::rest => .found .colon rest
  | 44::rest => .found .comma rest
  | 34::rest =>
    match readText (rest.length+1) rest with
    | some (text,rest) => .found (.string text) rest
    | none => .failed
  | 110::117::108::108::rest => .found (.scalar .null) rest
  | 116::114::117::101::rest => .found (.scalar (.bool true)) rest
  | 102::97::108::115::101::rest => .found (.scalar (.bool false)) rest
  | text =>
    match readNumeral tooBig text with
    | some (event,rest) => .found (.scalar event) rest
    | none => .failed

/-- The token behind blanks and comments. -/
def nextToken (tooBig : Bytes → Bool) (text : Bytes) : Scan :=
  match skipComments (text.length+1) text with
  | some text => scanToken tooBig text
  | none => .failed

/-- Tokens up to the end of the text or to the first place that is none, with
true for the end. The first argument bounds their number. -/
def tokens (tooBig : Bytes → Bool) : ℕ → Bytes → List Token×Bool
  | 0,_ => ([],false)
  | fuel+1,text =>
    match nextToken tooBig text with
    | .failed => ([],false)
    | .finished => ([],true)
    | .found token rest => (token::(tokens tooBig fuel rest).1,(tokens tooBig fuel rest).2)

/-- All tokens of a text. -/
def lex (tooBig : Bytes → Bool) (text : Bytes) : List Token×Bool := tokens tooBig (text.length+1) text

/-- A container that is open. -/
inductive Frame where
  /-- An object. -/
  | object
  /-- An array. -/
  | array
  deriving DecidableEq,Repr

/-- What may follow. -/
inductive Expect where
  /-- A value. -/
  | value
  /-- A value or the end of an empty array. -/
  | firstItem
  /-- A name or the end of an empty object. -/
  | firstName
  /-- A name. -/
  | name
  /-- The colon behind a name. -/
  | colon
  /-- What stands behind a value. -/
  | behind
  deriving DecidableEq,Repr

/-- State of the automaton, with the open containers, the inner ones in front. -/
abbrev Reading := Expect×List Frame

/-- Start of a value. -/
def beginValue (stack : List Frame) : Token → Option (List Event×Reading)
  | .string text => some ([.string text],(.behind,stack))
  | .scalar event => some ([event],(.behind,stack))
  | .openBrace => some ([.startObject],(.firstName,.object::stack))
  | .openBracket => some ([.startArray],(.firstItem,.array::stack))
  | _ => none

/-- One token: the calls it leads to and the state behind it. -/
def advance : Reading → Token → Option (List Event×Reading)
  | (.value,stack),token => beginValue stack token
  | (.firstItem,.array::stack),.closeBracket => some ([.endArray],(.behind,stack))
  | (.firstItem,stack),token => beginValue stack token
  | (.firstName,.object::stack),.closeBrace => some ([.endObject],(.behind,stack))
  | (.firstName,stack),.string text => some ([.key text],(.colon,stack))
  | (.name,stack),.string text => some ([.key text],(.colon,stack))
  | (.colon,stack),.colon => some ([],(.value,stack))
  | (.behind,.object::stack),.comma => some ([],(.name,.object::stack))
  | (.behind,.object::stack),.closeBrace => some ([.endObject],(.behind,stack))
  | (.behind,.array::stack),.comma => some ([],(.value,.array::stack))
  | (.behind,.array::stack),.closeBracket => some ([.endArray],(.behind,stack))
  | _,_ => none

/-- The calls of a token list from a state on, and the state behind it if every
token has its place. -/
def feed : Reading → List Token → List Event×Option Reading
  | reading,[] => ([],some reading)
  | reading,token::rest =>
    match advance reading token with
    | none => ([],none)
    | some (events,reading) => (events++(feed reading rest).1,(feed reading rest).2)

/-- The calls that reading a text leads to, and whether it is a JSON text. -/
def readEvents (tooBig : Bytes → Bool) (text : Bytes) : List Event×Bool :=
  let (list,whole) := lex tooBig text
  let (events,reading) := feed (.value,[]) list
  (events,whole && reading=some (.behind,[]))

/-- Calls on a handler until it refuses one. -/
def deliver {σ : Type*} (handler : σ → Event → σ×Bool) : σ → List Event → σ×Bool
  | state,[] => (state,true)
  | state,event::rest =>
    let (state,go) := handler state event
    if go then deliver handler state rest else (state,false)

/-- A handler over a text: its state afterwards, and whether it took everything
and the text is a JSON text. -/
def parse {σ : Type*} (tooBig : Bytes → Bool) (handler : σ → Event → σ×Bool) (state : σ) (text : Bytes) : σ×Bool :=
  let (events,whole) := readEvents tooBig text
  let (state,go) := deliver handler state events
  (state,go && whole)

/-- What every call keeps holds after some events. -/
theorem deliver_invariant {σ : Type*} {handler : σ → Event → σ×Bool} {inv : σ → Prop}
    (hcall : ∀ s e,inv s → inv (handler s e).1) {state : σ} (h : inv state) (events : List Event) :
    inv (deliver handler state events).1 := by
  induction events generalizing state with
  | nil => exact h
  | cons event events ih =>
    rw [deliver]
    have hnext := hcall state event h
    dsimp only
    split
    · exact ih hnext
    · exact hnext

/-- What every call keeps holds after any text, whole or not. -/
theorem parse_invariant {σ : Type*} {handler : σ → Event → σ×Bool} {inv : σ → Prop}
    (hcall : ∀ s e,inv s → inv (handler s e).1) {state : σ} (h : inv state) (tooBig : Bytes → Bool) (text : Bytes) :
    inv (parse tooBig handler state text).1 := deliver_invariant hcall h _

/-- A block comment is cut off the front. -/
theorem skipBlock_suffix {text rest : Bytes} (h : skipBlock text=some rest) : rest<:+text := by
  fun_induction skipBlock text with
  | case1 => cases h
  | case2 => cases h
  | case3 tail =>
    obtain rfl := Option.some.inj h
    exact (List.suffix_cons 47 tail).trans (List.suffix_cons 42 _)
  | case4 byte tail _ _ ih => exact (ih h).trans (List.suffix_cons byte tail)

/-- A line comment is cut off the front. -/
theorem skipLine_suffix (text : Bytes) : skipLine text<:+text := by
  fun_induction skipLine text with
  | case1 => exact List.suffix_rfl
  | case2 => exact List.suffix_rfl
  | case3 rest => exact List.suffix_cons 10 rest
  | case4 byte rest _ _ ih => exact ih.trans (List.suffix_cons byte rest)

/-- What stands behind blanks. -/
theorem skipSpace_suffix (text : Bytes) : skipSpace text<:+text := List.dropWhile_suffix _

/-- Blanks and comments are cut off the front. -/
theorem skipComments_suffix {fuel : ℕ} {text rest : Bytes} (h : skipComments fuel text=some rest) : rest<:+text := by
  induction fuel generalizing text with
  | zero => cases h
  | succ fuel ih =>
    rw [skipComments] at h
    have hs := skipSpace_suffix text
    split at h
    · next tail heq =>
      obtain ⟨behind,hblock,hrest⟩ := Option.bind_eq_some_iff.mp h
      rw [heq] at hs
      have htail : tail<:+47::42::tail := (List.suffix_cons 42 tail).trans (List.suffix_cons 47 _)
      exact (ih hrest).trans ((skipBlock_suffix hblock).trans (htail.trans hs))
    · next tail heq =>
      rw [heq] at hs
      have htail : tail<:+47::47::tail := (List.suffix_cons 47 tail).trans (List.suffix_cons 47 _)
      exact (ih h).trans ((skipLine_suffix tail).trans (htail.trans hs))
    · cases h
    · rwa [← Option.some.inj h]

/-- The bound on the comments does not matter once it exceeds the text. -/
theorem skipComments_fuel {first second : ℕ} {text : Bytes} (hf : text.length<first) (hs : text.length<second) :
    skipComments first text=skipComments second text := by
  induction first generalizing second text with
  | zero => exact absurd hf (Nat.not_lt_zero _)
  | succ first ih =>
    cases second with
    | zero => exact absurd hs (Nat.not_lt_zero _)
    | succ second =>
      have hl := (skipSpace_suffix text).length_le
      rw [skipComments,skipComments]
      split
      · next tail heq =>
        rw [heq,List.length_cons,List.length_cons] at hl
        cases hb : skipBlock tail with
        | none => rfl
        | some behind =>
          have hlen := (skipBlock_suffix hb).length_le
          exact ih (by omega) (by omega)
      · next tail heq =>
        rw [heq,List.length_cons,List.length_cons] at hl
        have hlen := (skipLine_suffix tail).length_le
        exact ih (by omega) (by omega)
      · rfl
      · rfl

/-- The body of a string as it stands between its quotes, and the text it
spells: it has no control bytes, a quote in it stands behind a backslash, and
it is longer than what it spells when it has a backslash. -/
structure IsBody (body text : Bytes) : Prop where
  /-- No control bytes. -/
  printable : ∀ byte∈body,32≤byte
  /-- Quotes are escaped. -/
  escaped : ∀ front back,body=front++34::back → ∃ before,front=before++[92]
  /-- Nothing is lost without escapes. -/
  plain : 92∉body → text=body
  /-- Escapes are longer than what they spell. -/
  shorter : 92∈body → text.length<body.length

/-- The body is never shorter than the text. -/
theorem IsBody.length_le {body text : Bytes} (h : IsBody body text) : text.length≤body.length := by
  by_cases hb : 92∈body
  · exact (h.shorter hb).le
  · rw [h.plain hb]

/-- The empty body. -/
theorem isBody_nil : IsBody [] [] where
  printable := fun _ hb => absurd hb List.not_mem_nil
  escaped := fun _ _ h => absurd h.symm (List.append_ne_nil_of_right_ne_nil _ (List.cons_ne_nil _ _))
  plain := fun _ => rfl
  shorter := fun hb => absurd hb List.not_mem_nil

/-- A byte that spells itself. -/
theorem IsBody.cons {body text : Bytes} (h : IsBody body text) {byte : UInt8} (hp : 32≤byte) (hq : byte≠34)
    (hb : byte≠92) : IsBody (byte::body) (byte::text) where
  printable := List.forall_mem_cons.mpr ⟨hp,h.printable⟩
  escaped := by
    intro front back heq
    cases front with
    | nil => exact absurd (List.cons.inj heq).1 hq
    | cons head front =>
      obtain ⟨rfl,htail⟩ := List.cons.inj heq
      obtain ⟨before,rfl⟩ := h.escaped front back htail
      exact ⟨byte::before,rfl⟩
  plain := by
    intro hn
    rw [h.plain fun hm => hn (List.mem_cons_of_mem _ hm)]
  shorter := by
    intro hm
    have hl := h.shorter ((List.mem_cons.mp hm).resolve_left hb.symm)
    rw [List.length_cons,List.length_cons]
    omega

/-- Hexadecimal digits stand behind the quote. -/
theorem hexValue_ge {byte : UInt8} {value : ℕ} (h : hexValue byte=some value) : 48≤byte := by
  rw [UInt8.le_iff_toNat_le]
  change 48≤byte.toNat
  rw [hexValue] at h
  split at h
  · omega
  · split at h
    · omega
    · split at h
      · omega
      · cases h

/-- Four digits are cut off the front. -/
theorem readHex4_split {text rest : Bytes} {value : ℕ} (h : readHex4 text=some (value,rest)) :
    ∃ digits,text=digits++rest ∧ digits.length=4 ∧ ∀ byte∈digits,48≤byte := by
  unfold readHex4 at h
  split at h
  · next a b c d tail =>
    simp only [Option.bind_eq_bind,Option.bind_eq_some_iff,Option.pure_def,Option.some.injEq,Prod.mk.injEq] at h
    obtain ⟨_,ha,_,hb,_,hc,_,hd,-,rfl⟩ := h
    refine ⟨[a,b,c,d],rfl,rfl,?_⟩
    simp only [List.forall_mem_cons]
    exact ⟨hexValue_ge ha,hexValue_ge hb,hexValue_ge hc,hexValue_ge hd,fun _ h => absurd h List.not_mem_nil⟩
  · cases h

/-- A code point has at most four bytes. -/
theorem utf8Bytes_length_le (codepoint : ℕ) : (utf8Bytes codepoint).length≤4 := by
  rw [utf8Bytes]
  split
  · exact Nat.le_of_ble_eq_true rfl
  · split
    · exact Nat.le_of_ble_eq_true rfl
    · split <;> exact Nat.le_of_ble_eq_true rfl

/-- An escaped code point is cut off the front and is no longer than its
escape. -/
theorem readCodepoint_split {text decoded rest : Bytes} (h : readCodepoint text=some (decoded,rest)) :
    ∃ escape,text=escape++rest ∧ decoded.length≤escape.length ∧ ∀ byte∈escape,48≤byte := by
  rw [readCodepoint,Option.bind_eq_bind,Option.bind_eq_some_iff] at h
  obtain ⟨⟨first,behind⟩,hfirst,h⟩ := h
  obtain ⟨digits,rfl,hlen,hdigits⟩ := readHex4_split hfirst
  dsimp only at h
  split at h
  · split at h
    · next tail =>
      rw [Option.bind_eq_some_iff] at h
      obtain ⟨⟨second,last⟩,hsecond,h⟩ := h
      obtain ⟨low,rfl,hlow,hdigitsLow⟩ := readHex4_split hsecond
      split at h
      · cases h
      · obtain ⟨rfl,rfl⟩ := Prod.mk.inj (Option.some.inj h)
        refine ⟨digits++92::117::low,?_,?_,?_⟩
        · rw [List.append_assoc,List.cons_append,List.cons_append]
        · refine (utf8Bytes_length_le _).trans ?_
          rw [List.length_append,hlen]
          exact Nat.le_add_right 4 _
        · intro byte hb
          rcases List.mem_append.mp hb with hb|hb
          · exact hdigits byte hb
          · rcases List.mem_cons.mp hb with rfl|hb
            · decide
            · rcases List.mem_cons.mp hb with rfl|hb
              · decide
              · exact hdigitsLow byte hb
    · cases h
  · obtain ⟨rfl,rfl⟩ := Prod.mk.inj (Option.some.inj h)
    exact ⟨digits,rfl,by rw [hlen]; exact utf8Bytes_length_le first,hdigits⟩

/-- What stands behind a backslash is cut off the front, is no longer than the
escape and is a quote or holds none. -/
theorem readEscape_split {text decoded rest : Bytes} (h : readEscape text=some (decoded,rest)) :
    ∃ escape,text=escape++rest ∧ decoded.length≤escape.length ∧ (∀ byte∈escape,32≤byte) ∧
      (escape=[34] ∨ 34∉escape) := by
  unfold readEscape at h
  split at h
  case h_9 tail =>
    obtain ⟨escape,rfl,hlen,hge⟩ := readCodepoint_split h
    refine ⟨117::escape,rfl,?_,?_,.inr ?_⟩
    · rw [List.length_cons]
      omega
    · exact List.forall_mem_cons.mpr ⟨by decide,fun byte hb => UInt8.le_trans (by decide) (hge byte hb)⟩
    · intro hm
      rcases List.mem_cons.mp hm with hm|hm
      · exact absurd hm (by decide)
      · exact absurd (hge 34 hm) (by decide)
  case h_10 => cases h
  all_goals
    obtain ⟨rfl,rfl⟩ := Prod.mk.inj (Option.some.inj h)
    refine ⟨[_],rfl,le_rfl,List.forall_mem_singleton.mpr (by decide),?_⟩
    decide

/-- A backslash with its escape in front of a body. -/
theorem IsBody.escape {body text escape decoded : Bytes} (h : IsBody body text)
    (hlen : decoded.length≤escape.length) (hp : ∀ byte∈escape,32≤byte) (hq : escape=[34] ∨ 34∉escape) :
    IsBody (92::(escape++body)) (decoded++text) where
  printable := by
    refine List.forall_mem_cons.mpr ⟨by decide,fun byte hb => ?_⟩
    rcases List.mem_append.mp hb with hb|hb
    · exact hp byte hb
    · exact h.printable byte hb
  escaped := by
    intro front back heq
    cases front with
    | nil => exact absurd (List.cons.inj heq).1 (by decide)
    | cons head front =>
      obtain ⟨rfl,htail⟩ := List.cons.inj heq
      rcases List.append_eq_append_iff.mp htail with ⟨middle,rfl,hbody⟩|⟨middle,hescape,hbody⟩
      · obtain ⟨before,rfl⟩ := h.escaped middle back hbody
        exact ⟨92::(escape++before),by rw [List.cons_append,List.append_assoc]⟩
      · cases middle with
        | nil =>
          obtain ⟨before,hbefore⟩ := h.escaped [] back hbody.symm
          exact absurd hbefore.symm (List.append_ne_nil_of_right_ne_nil _ (List.cons_ne_nil _ _))
        | cons first middle =>
          obtain ⟨rfl,-⟩ := List.cons.inj hbody
          have hone : escape=[34] := hq.resolve_right fun hn => hn (by
            rw [hescape]
            exact List.mem_append_right front List.mem_cons_self)
          rw [hone] at hescape
          obtain ⟨hfront,-⟩ := List.append_eq_singleton_iff.mp hescape.symm |>.resolve_right fun hr =>
            List.cons_ne_nil _ _ hr.2
          exact ⟨[],by rw [hfront]; rfl⟩
  plain := fun hn => absurd List.mem_cons_self hn
  shorter := by
    intro _
    have hl := h.length_le
    simp only [List.length_cons,List.length_append]
    omega

/-- A string is its body, a closing quote and the rest. -/
theorem readText_split {fuel : ℕ} {text decoded rest : Bytes} (h : readText fuel text=some (decoded,rest)) :
    ∃ body,text=body++34::rest ∧ IsBody body decoded := by
  induction fuel generalizing text decoded with
  | zero => cases h
  | succ fuel ih =>
    cases text with
    | nil => cases h
    | cons byte tail =>
      rw [readText] at h
      split at h
      · next hb =>
        simp only [Option.bind_eq_bind,Option.bind_eq_some_iff,Option.pure_def,Option.some.injEq,Prod.mk.injEq] at h
        obtain ⟨⟨front,behind⟩,hescape,⟨back,last⟩,hread,rfl,rfl⟩ := h
        obtain ⟨escape,rfl,hlen,hp,hq⟩ := readEscape_split hescape
        obtain ⟨body,hbehind,hbody⟩ := ih hread
        dsimp only at hbehind
        refine ⟨92::(escape++body),?_,hbody.escape hlen hp hq⟩
        rw [hb,hbehind,List.cons_append,List.append_assoc]
      · next hb =>
        split at h
        · next hq =>
          obtain ⟨rfl,rfl⟩ := Prod.mk.inj (Option.some.inj h)
          exact ⟨[],by rw [hq]; rfl,isBody_nil⟩
        · next hq =>
          split at h
          · cases h
          · next hlow =>
            simp only [Option.bind_eq_bind,Option.bind_eq_some_iff,Option.pure_def,Option.some.injEq,
              Prod.mk.injEq] at h
            obtain ⟨⟨back,last⟩,hread,rfl,rfl⟩ := h
            obtain ⟨body,rfl,hbody⟩ := ih hread
            exact ⟨byte::body,rfl,hbody.cons (UInt8.not_lt.mp hlow) hq hb⟩

/-- A fraction is cut off the front. -/
theorem readFraction_suffix {text fraction rest : Bytes} (h : readFraction text=some (fraction,rest)) :
    rest<:+text := by
  unfold readFraction at h
  split at h
  · next tail =>
    split at h
    · cases h
    · obtain ⟨-,rfl⟩ := Prod.mk.inj (Option.some.inj h)
      exact (List.dropWhile_suffix _).trans (List.suffix_cons 46 tail)
  · obtain ⟨-,rfl⟩ := Prod.mk.inj (Option.some.inj h)
    exact List.suffix_rfl

/-- An exponent is cut off the front. -/
theorem readExponent_suffix {text exponent rest : Bytes} (h : readExponent text=some (exponent,rest)) :
    rest<:+text := by
  cases text with
  | nil =>
    obtain ⟨-,rfl⟩ := Prod.mk.inj (Option.some.inj h)
    exact List.suffix_rfl
  | cons letter tail =>
    dsimp only [readExponent] at h
    split at h
    · obtain ⟨-,rfl⟩ := Prod.mk.inj (Option.some.inj h)
      exact List.suffix_rfl
    · split at h
      · cases h
      · obtain ⟨-,rfl⟩ := Prod.mk.inj (Option.some.inj h)
        exact (List.dropWhile_suffix _).trans ((List.drop_suffix _ _).trans (List.suffix_cons letter tail))

/-- A whole part is not longer than its text. -/
theorem wholeDigits_length_le {unsigned : Bytes} (h : wholeDigits unsigned≠[]) :
    (wholeDigits unsigned).length≤unsigned.length := by
  cases unsigned with
  | nil => exact absurd rfl h
  | cons byte tail =>
    rw [wholeDigits]
    split
    · exact Nat.succ_le_succ (Nat.zero_le _)
    · exact (List.takeWhile_prefix _).length_le

/-- A number is cut off the front and is not empty. -/
theorem readNumeral_suffix {tooBig : Bytes → Bool} {text rest : Bytes} {event : Event}
    (h : readNumeral tooBig text=some (event,rest)) : rest<:+text ∧ rest.length<text.length := by
  dsimp only [readNumeral] at h
  have hu : (if text.headD 0=45 then text.drop 1 else text)<:+text := by
    split
    · exact List.drop_suffix 1 text
    · exact List.suffix_rfl
  generalize (if text.headD 0=45 then text.drop 1 else text)=unsigned at h hu
  split at h
  · cases h
  · next hw =>
    simp only [Option.bind_eq_bind,Option.bind_eq_some_iff,Option.pure_def,Option.some.injEq,Prod.mk.injEq] at h
    obtain ⟨⟨fraction,behind⟩,hf,⟨exponent,last⟩,he,_,-,-,rfl⟩ := h
    have hrest := (readExponent_suffix he).trans (readFraction_suffix hf)
    have hlen := hrest.length_le
    have hle := hu.length_le
    have hwl := wholeDigits_length_le hw
    have hpos := List.length_pos_of_ne_nil hw
    refine ⟨hrest.trans ((List.drop_suffix _ _).trans hu),?_⟩
    rw [List.length_drop] at hlen
    change last.length<text.length
    omega

/-- A string token comes from a quoted body. -/
theorem scanToken_string {tooBig : Bytes → Bool} {text decoded rest : Bytes}
    (h : scanToken tooBig text=.found (.string decoded) rest) :
    ∃ body,text=34::(body++34::rest) ∧ IsBody body decoded := by
  unfold scanToken at h
  split at h
  case h_9 tail =>
    split at h
    · next found behind hread =>
      obtain ⟨htoken,rfl⟩ := Scan.found.inj h
      obtain rfl := Token.string.inj htoken
      obtain ⟨body,rfl,hbody⟩ := readText_split hread
      exact ⟨body,rfl,hbody⟩
    · cases h
  case h_13 =>
    split at h <;> cases h
  all_goals cases h

/-- A token is cut off the front and is not empty. -/
theorem scanToken_suffix {tooBig : Bytes → Bool} {text rest : Bytes} {token : Token}
    (h : scanToken tooBig text=.found token rest) : rest<:+text ∧ rest.length<text.length := by
  by_cases hs : ∃ decoded,token=.string decoded
  · obtain ⟨decoded,rfl⟩ := hs
    obtain ⟨body,rfl,-⟩ := scanToken_string h
    refine ⟨⟨34::(body++[34]),by rw [List.cons_append,List.append_assoc,List.singleton_append]⟩,?_⟩
    simp only [List.length_cons,List.length_append]
    omega
  · unfold scanToken at h
    split at h
    case h_1 => cases h
    case h_2 => cases h
    case h_9 =>
      split at h
      · obtain ⟨rfl,-⟩ := Scan.found.inj h
        exact absurd ⟨_,rfl⟩ hs
      · cases h
    case h_13 =>
      split at h
      · next hread =>
        obtain ⟨-,rfl⟩ := Scan.found.inj h
        exact readNumeral_suffix hread
      · cases h
    all_goals
      obtain ⟨-,rfl⟩ := Scan.found.inj h
      refine ⟨?_,?_⟩
      · simp only [List.suffix_cons_iff,List.suffix_rfl,or_true]
      · simp only [List.length_cons]
        omega

/-- The next token is cut off the front. -/
theorem nextToken_suffix {tooBig : Bytes → Bool} {text rest : Bytes} {token : Token}
    (h : nextToken tooBig text=.found token rest) : rest<:+text ∧ rest.length<text.length := by
  rw [nextToken] at h
  split at h
  · next behind hskip =>
    have hs := skipComments_suffix hskip
    have hl := hs.length_le
    obtain ⟨hrest,hlt⟩ := scanToken_suffix h
    exact ⟨hrest.trans hs,by omega⟩
  · cases h

/-- The bound on the tokens does not matter once it exceeds the text. -/
theorem tokens_fuel {tooBig : Bytes → Bool} {first second : ℕ} {text : Bytes} (hf : text.length<first)
    (hs : text.length<second) : tokens tooBig first text=tokens tooBig second text := by
  induction first generalizing second text with
  | zero => exact absurd hf (Nat.not_lt_zero _)
  | succ first ih =>
    cases second with
    | zero => exact absurd hs (Nat.not_lt_zero _)
    | succ second =>
      rw [tokens,tokens]
      split
      · rfl
      · rfl
      · next token rest hn =>
        obtain ⟨-,hlen⟩ := nextToken_suffix hn
        have hfuel : tokens tooBig first rest=tokens tooBig second rest := ih (by omega) (by omega)
        rw [hfuel]

/-- A text is read token by token. -/
theorem lex_eq (tooBig : Bytes → Bool) (text : Bytes) :
    lex tooBig text=match nextToken tooBig text with
      | .failed => ([],false)
      | .finished => ([],true)
      | .found token rest => (token::(lex tooBig rest).1,(lex tooBig rest).2) := by
  rw [lex,tokens]
  split
  · rfl
  · rfl
  · next token rest hn =>
    obtain ⟨-,hlen⟩ := nextToken_suffix hn
    rw [lex,tokens_fuel hlen (Nat.lt_succ_self rest.length)]

/-- Every string token of a text comes from a quoted body in it, and when the
text is read to its end, so is what stands behind that body. -/
theorem lex_string {tooBig : Bytes → Bool} {text decoded : Bytes} (hm : .string decoded∈(lex tooBig text).1) :
    ∃ before body after,text=before++34::(body++34::after) ∧ IsBody body decoded ∧
      (lex tooBig text).2=(lex tooBig after).2 := by
  induction hn : text.length using Nat.strong_induction_on generalizing text with
  | _ size ih =>
    subst hn
    rw [lex_eq] at hm ⊢
    cases htoken : nextToken tooBig text with
    | failed =>
      rw [htoken] at hm
      exact absurd hm List.not_mem_nil
    | finished =>
      rw [htoken] at hm
      exact absurd hm List.not_mem_nil
    | found token rest =>
      rw [htoken] at hm
      obtain ⟨hsuffix,hlen⟩ := nextToken_suffix htoken
      rcases List.mem_cons.mp hm with heq|hlater
      · subst heq
        rw [nextToken] at htoken
        split at htoken
        · next behind hskip =>
          obtain ⟨front,hfront⟩ := skipComments_suffix hskip
          obtain ⟨body,hbehind,hbody⟩ := scanToken_string htoken
          exact ⟨front,body,rest,by rw [← hfront,hbehind],hbody,rfl⟩
        · cases htoken
      · obtain ⟨front,hfront⟩ := hsuffix
        obtain ⟨before,body,after,hrest,hbody,hwhole⟩ := ih rest.length hlen hlater rfl
        exact ⟨front++before,body,after,by rw [← hfront,hrest,List.append_assoc],hbody,hwhole⟩

/-- The event of a number is no string. -/
theorem numeralEvent_ne_string {tooBig : Bytes → Bool} {minus plain : Bool} {magnitude : ℕ} {lexeme decoded : Bytes} :
    numeralEvent tooBig minus plain magnitude lexeme≠some (.string decoded) := by
  intro h
  rw [numeralEvent] at h
  by_cases hp : plain=true ∧ (if minus then magnitude≤2^63 else magnitude<2^64)
  · rw [if_pos hp] at h
    cases Option.some.inj h
  · rw [if_neg hp] at h
    cases hb : tooBig lexeme with
    | true =>
      rw [hb] at h
      cases h
    | false =>
      rw [hb] at h
      cases Option.some.inj h

/-- A number is no string. -/
theorem readNumeral_ne_string {tooBig : Bytes → Bool} {text decoded rest : Bytes} :
    readNumeral tooBig text≠some (.string decoded,rest) := by
  intro h
  dsimp only [readNumeral] at h
  generalize (if text.headD 0=45 then text.drop 1 else text)=unsigned at h
  split at h
  · cases h
  · simp only [Option.bind_eq_bind,Option.bind_eq_some_iff,Option.pure_def,Option.some.injEq,Prod.mk.injEq] at h
    obtain ⟨_,-,_,-,_,hevent,rfl,-⟩ := h
    exact numeralEvent_ne_string hevent

/-- A scalar is no string. -/
theorem lex_scalar_ne_string {tooBig : Bytes → Bool} {text decoded : Bytes} :
    .scalar (.string decoded)∉(lex tooBig text).1 := by
  induction hn : text.length using Nat.strong_induction_on generalizing text with
  | _ size ih =>
    subst hn
    intro hm
    rw [lex_eq] at hm
    cases htoken : nextToken tooBig text with
    | failed =>
      rw [htoken] at hm
      exact absurd hm List.not_mem_nil
    | finished =>
      rw [htoken] at hm
      exact absurd hm List.not_mem_nil
    | found token rest =>
      rw [htoken] at hm
      obtain ⟨-,hlen⟩ := nextToken_suffix htoken
      rcases List.mem_cons.mp hm with rfl|hlater
      · rw [nextToken] at htoken
        split at htoken
        · unfold scanToken at htoken
          split at htoken
          case h_9 => split at htoken <;> cases htoken
          case h_13 =>
            split at htoken
            · next hread =>
              obtain ⟨hevent,rfl⟩ := Scan.found.inj htoken
              rw [Token.scalar.inj hevent] at hread
              exact readNumeral_ne_string hread
            · cases htoken
          all_goals cases htoken
        · cases htoken
      · exact ih rest.length hlen rfl hlater

/-- A string that is passed on at the start of a value is its token. -/
theorem beginValue_string {stack : List Frame} {token : Token} {events : List Event} {next : Reading} {text : Bytes}
    (h : beginValue stack token=some (events,next)) (hm : .string text∈events) :
    token=.string text ∨ token=.scalar (.string text) := by
  unfold beginValue at h
  split at h
  · obtain ⟨rfl,-⟩ := Prod.mk.inj (Option.some.inj h)
    rw [Event.string.inj (List.mem_singleton.mp hm)]
    exact .inl rfl
  · obtain ⟨rfl,-⟩ := Prod.mk.inj (Option.some.inj h)
    rw [List.mem_singleton.mp hm]
    exact .inr rfl
  · obtain ⟨rfl,-⟩ := Prod.mk.inj (Option.some.inj h)
    cases List.mem_singleton.mp hm
  · obtain ⟨rfl,-⟩ := Prod.mk.inj (Option.some.inj h)
    cases List.mem_singleton.mp hm
  · cases h

/-- A string that is passed on is its token. -/
theorem advance_string {reading : Reading} {token : Token} {events : List Event} {next : Reading} {text : Bytes}
    (h : advance reading token=some (events,next)) (hm : .string text∈events) :
    token=.string text ∨ token=.scalar (.string text) := by
  unfold advance at h
  split at h
  case h_1 => exact beginValue_string h hm
  case h_3 => exact beginValue_string h hm
  case h_12 => cases h
  all_goals
    obtain ⟨rfl,-⟩ := Prod.mk.inj (Option.some.inj h)
    simp only [List.mem_singleton,List.not_mem_nil,reduceCtorEq] at hm

/-- A string that is passed on is one of the tokens. -/
theorem feed_string {text : Bytes} {list : List Token} {reading : Reading} (h : .string text∈(feed reading list).1) :
    .string text∈list ∨ .scalar (.string text)∈list := by
  induction list generalizing reading with
  | nil => exact absurd h List.not_mem_nil
  | cons token rest ih =>
    rw [feed] at h
    cases hstep : advance reading token with
    | none =>
      rw [hstep] at h
      exact absurd h List.not_mem_nil
    | some found =>
      obtain ⟨events,next⟩ := found
      rw [hstep] at h
      rcases List.mem_append.mp h with hnow|hlater
      · rcases advance_string hstep hnow with rfl|rfl
        · exact .inl List.mem_cons_self
        · exact .inr List.mem_cons_self
      · exact (ih hlater).imp (List.mem_cons_of_mem _) (List.mem_cons_of_mem _)

/-- Every string that is passed on comes from a quoted body in the text, and
when the text is read to its end, so is what stands behind that body. -/
theorem readEvents_string {tooBig : Bytes → Bool} {text decoded : Bytes}
    (hm : .string decoded∈(readEvents tooBig text).1) :
    ∃ before body after,text=before++34::(body++34::after) ∧ IsBody body decoded ∧
      (lex tooBig text).2=(lex tooBig after).2 :=
  lex_string ((feed_string hm).resolve_right lex_scalar_ne_string)

end LorawanServer.JsonEvents
