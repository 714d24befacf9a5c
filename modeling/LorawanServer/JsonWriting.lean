import LorawanServer.JsonLexing

/-!
# Values with the calls they are read as

A value is written together with the calls that reading it leads to: numbers,
strings, literals, and objects and arrays of values in the layout with a blank
behind every colon and comma. A value that is read as its calls may stand in any
other one, so a whole text is read as its calls as soon as its scalars are.
-/

namespace LorawanServer.JsonEvents

open CppRuntime JsonDocument

/-- A value with its text and its calls. -/
structure Written where
  /-- The text. -/
  text : Bytes
  /-- The calls. -/
  events : List Event

namespace Written

/-- A string. -/
def string (text : Bytes) : Written := ⟨quoted text,[.string text]⟩

/-- A literal. -/
def bool (value : Bool) : Written := ⟨if value then ascii "true" else ascii "false",[.bool value]⟩

/-- An integer. -/
def int (value : ℤ) : Written :=
  ⟨signed (decide (value<0)) (decimal value.natAbs),[.number (decide (value<0)) value.natAbs]⟩

/-- Any other number. -/
def double (text : Bytes) : Written := ⟨text,[.double text]⟩

/-- An object. -/
def object (members : List (Bytes×Written)) : Written :=
  ⟨objectText (members.map fun m => (m.1,m.2.text)),
    .startObject::(members.flatMap (fun m => .key m.1::m.2.events)++[.endObject])⟩

/-- An object with the given texts for its colons and commas. -/
def objectWith (colon comma : Bytes) (members : List (Bytes×Written)) : Written :=
  ⟨123::(comma.intercalate (members.map fun m => quoted m.1++(colon++m.2.text))++[125]),
    .startObject::(members.flatMap (fun m => .key m.1::m.2.events)++[.endObject])⟩

/-- An array. -/
def array (items : List Written) : Written :=
  ⟨arrayText (items.map text),.startArray::(items.flatMap events++[.endArray])⟩

end Written

/-- Texts with a comma and a blank between them. -/
theorem joined_eq_intercalate (texts : List Bytes) : joined texts=[44,32].intercalate texts := by
  induction texts with
  | nil => rfl
  | cons text texts ih =>
    cases texts with
    | nil => exact (List.intercalate_singleton).symm
    | cons second texts =>
      rw [joined,ih,List.intercalate_cons_cons,List.append_assoc]
      · rfl
      · exact fun h => List.cons_ne_nil _ _ h

/-- The layout with a blank behind every colon and comma. -/
theorem Written.object_eq (members : List (Bytes×Written)) : object members=objectWith [58,32] [44,32] members := by
  rw [object,objectWith,objectText,joined_eq_intercalate,List.map_map]
  rfl

section Reading

variable {tooBig : Bytes → Bool}

/-- A text that is read as the given tokens in front of what goes on with no
number. -/
def LexesApart (tooBig : Bytes → Bool) (text : Bytes) (list : List Token) : Prop :=
  ∀ rest,startsNumeric rest=false → lex tooBig (text++rest)=(list++(lex tooBig rest).1,(lex tooBig rest).2)

/-- What is read anywhere is read there. -/
theorem Lexes.apart {text : Bytes} {list : List Token} (h : Lexes tooBig text list) : LexesApart tooBig text list :=
  fun rest _ => h rest

/-- A text in front of one that is read apart. -/
theorem Lexes.append_apart {first second : Bytes} {list others : List Token} (h : Lexes tooBig first list)
    (hs : LexesApart tooBig second others) : LexesApart tooBig (first++second) (list++others) := by
  intro rest hr
  rw [List.append_assoc,h,hs rest hr,List.append_assoc]

/-- A text that is read apart, in front of a mark and more. -/
theorem LexesApart.append {first second : Bytes} {list others : List Token} (h : LexesApart tooBig first list)
    (hmark : startsNumeric second=false) (hne : second≠[]) (hs : LexesApart tooBig second others) :
    LexesApart tooBig (first++second) (list++others) := by
  intro rest hr
  have hstart : startsNumeric (second++rest)=false := by
    cases second with
    | nil => exact absurd rfl hne
    | cons byte tail => exact hmark
  rw [List.append_assoc,h _ hstart,hs rest hr,List.append_assoc]

/-- A value is read as its calls wherever a value may stand. -/
def Written.IsRead (tooBig : Bytes → Bool) (w : Written) : Prop :=
  ∃ list,LexesApart tooBig w.text list ∧
    ∀ {expect : Expect},expect=.value ∨ expect=.firstItem → ∀ stack,
      feed (expect,stack) list=(w.events,some (.behind,stack))

/-- A value that is one token. -/
theorem isRead_token {text : Bytes} {event : Event}
    (h : ∀ rest,startsNumeric rest=false → nextToken tooBig (text++rest)=.found event.token rest) :
    (Written.mk text [event]).IsRead tooBig := by
  refine ⟨[event.token],?_,?_⟩
  · intro rest hr
    rw [lex_eq,h rest hr]
    rfl
  · intro expect he stack
    have hvalue := beginValue_token stack event
    have hadvance : advance (expect,stack) event.token=beginValue stack event.token := by
      rcases he with rfl|rfl
      · rfl
      · cases stack with
        | nil => rfl
        | cons frame stack => cases frame <;> cases event <;> rfl
    rw [feed,hadvance,hvalue]
    rfl

/-- A string of clean bytes. -/
theorem isRead_string {text : Bytes} (h : ∀ byte∈text,IsClean byte) : (Written.string text).IsRead tooBig := by
  refine isRead_token fun rest _ => ?_
  have hread : readText ((text++34::rest).length+1) (text++34::rest)=some (text,rest) := by
    refine readText_clean h rest ?_
    rw [List.length_append]
    omega
  rw [quoted,List.cons_append,List.append_assoc,nextToken_cons rfl (by decide),List.singleton_append,scanToken,hread]
  rfl

/-- A literal. -/
theorem isRead_bool (value : Bool) : (Written.bool value).IsRead tooBig := by
  refine isRead_token fun rest _ => ?_
  cases value
  · exact nextToken_cons rfl (by decide) _
  · exact nextToken_cons rfl (by decide) _

/-- An integer of at most 64 bits. -/
theorem isRead_int {value : ℤ} (hlow : -2^63≤value) (hhigh : value<2^64) : (Written.int value).IsRead tooBig := by
  refine isRead_token fun rest hr => ?_
  have hd := digitsValue_decimal value.natAbs
  have hfit : if decide (value<0)=true then digitsValue (decimal value.natAbs)≤2^63
      else digitsValue (decimal value.natAbs)<2^64 := by
    rw [hd]
    by_cases hneg : value<0
    · rw [if_pos (decide_eq_true hneg)]
      omega
    · rw [if_neg (by rwa [decide_eq_true_iff])]
      omega
  rw [nextToken_signed (isNumeral_decimal _) hr,numeralEvent,if_pos ⟨rfl,hfit⟩,hd]
  rfl

/-- A number with a fraction or an exponent that is not too big. -/
theorem isRead_double {minus : Bool} {whole fraction exponent : Bytes} (hd : IsNumeral whole)
    (hf : IsFraction fraction) (he : IsExponent exponent) (hne : fraction≠[] ∨ exponent≠[])
    (hbig : tooBig (signed minus (whole++(fraction++exponent)))=false) :
    (Written.double (signed minus (whole++(fraction++exponent)))).IsRead tooBig := by
  refine isRead_token fun rest hr => ?_
  have hplain : (decide (fraction=[]) && decide (exponent=[]))=false := by
    rcases hne with h|h
    · rw [decide_eq_false h,Bool.false_and]
    · rw [decide_eq_false h,Bool.and_false]
  rw [nextToken_numeral hd hf he hr,hplain,numeralEvent,if_neg fun h => Bool.false_ne_true h.1,hbig,
    if_neg Bool.false_ne_true]
  rfl

/-- The members of an object, one behind the other. -/
theorem isRead_members {colon comma : Bytes} (hcolon : Lexes tooBig colon [.colon])
    (hcomma : Lexes tooBig comma [.comma]) (hmark : startsNumeric comma=false) (hsome : comma≠[])
    {members : List (Bytes×Written)} (hne : members≠[])
    (h : ∀ m∈members,(∀ byte∈m.1,IsClean byte) ∧ m.2.IsRead tooBig) :
    ∃ list,LexesApart tooBig (comma.intercalate (members.map fun m => quoted m.1++(colon++m.2.text))) list ∧
      ∀ {expect : Expect},expect=.firstName ∨ expect=.name → ∀ stack,
        feed (expect,.object::stack) list=
          (members.flatMap (fun m => .key m.1::m.2.events),some (.behind,.object::stack)) := by
  induction members with
  | nil => exact absurd rfl hne
  | cons m rest ih =>
    obtain ⟨⟨hclean,value,hlex,hfeed⟩,hrest⟩ := List.forall_mem_cons.mp h
    have hmember : LexesApart tooBig (quoted m.1++(colon++m.2.text)) ([Token.string m.1]++([Token.colon]++value)) :=
      (lexes_string hclean).append_apart (hcolon.append_apart hlex)
    have hone : ∀ {expect : Expect},expect=.firstName ∨ expect=.name → ∀ stack,
        feed (expect,.object::stack) ([Token.string m.1]++([Token.colon]++value))=
          (.key m.1::m.2.events,some (.behind,.object::stack)) := by
      intro expect he stack
      have hkey : feed (expect,.object::stack) [.string m.1,.colon]=([.key m.1],some (.value,.object::stack)) := by
        rcases he with rfl|rfl <;> rfl
      rw [←List.append_assoc,List.singleton_append,feed_append hkey,hfeed (.inl rfl)]
      rfl
    cases rest with
    | nil =>
      rw [List.map_singleton,List.intercalate_singleton]
      refine ⟨_,hmember,fun {expect} he stack => ?_⟩
      rw [hone he,List.flatMap_singleton]
    | cons second rest =>
      obtain ⟨others,hothers,hnext⟩ := ih (List.cons_ne_nil _ _) hrest
      have hbehind : startsNumeric (comma++comma.intercalate ((second::rest).map fun m => quoted m.1++(colon++m.2.text)))=
          false := by
        cases comma with
        | nil => exact absurd rfl hsome
        | cons byte tail => exact hmark
      have hwhole : LexesApart tooBig
          (comma.intercalate ((m::second::rest).map fun m => quoted m.1++(colon++m.2.text)))
          ([Token.string m.1]++([Token.colon]++value)++([Token.comma]++others)) := by
        rw [List.map_cons,List.map_cons,List.intercalate_cons_cons,List.append_assoc]
        exact hmember.append hbehind (List.append_ne_nil_of_left_ne_nil hsome _) (hcomma.append_apart hothers)
      refine ⟨_,hwhole,fun {expect} he stack => ?_⟩
      have hsep : feed (.behind,.object::stack) [.comma]=([],some (.name,.object::stack)) := rfl
      rw [feed_append (hone he stack),feed_append hsep,hnext (.inr rfl)]
      rfl

/-- An object with a member, in any layout that lexes. -/
theorem isRead_objectWith {colon comma : Bytes} (hcolon : Lexes tooBig colon [.colon])
    (hcomma : Lexes tooBig comma [.comma]) (hmark : startsNumeric comma=false) (hsome : comma≠[])
    {members : List (Bytes×Written)} (hne : members≠[])
    (h : ∀ m∈members,(∀ byte∈m.1,IsClean byte) ∧ m.2.IsRead tooBig) :
    (Written.objectWith colon comma members).IsRead tooBig := by
  obtain ⟨list,hlex,hfeed⟩ := isRead_members hcolon hcomma hmark hsome hne h
  refine ⟨[Token.openBrace]++(list++[Token.closeBrace]),?_,fun {expect} he stack => ?_⟩
  · exact lexes_openBrace.append_apart (hlex.append rfl (List.cons_ne_nil _ _) lexes_closeBrace.apart)
  · have hstart : feed (expect,stack) [.openBrace]=([.startObject],some (.firstName,.object::stack)) := by
      rcases he with rfl|rfl
      · rfl
      · cases stack with
        | nil => rfl
        | cons frame stack => cases frame <;> rfl
    have hend : feed (.behind,.object::stack) [.closeBrace]=([.endObject],some (.behind,stack)) := rfl
    rw [feed_append hstart,feed_append (hfeed (.inl rfl) stack),hend]
    rfl

/-- An object with a member. -/
theorem isRead_object {members : List (Bytes×Written)} (hne : members≠[])
    (h : ∀ m∈members,(∀ byte∈m.1,IsClean byte) ∧ m.2.IsRead tooBig) : (Written.object members).IsRead tooBig := by
  rw [Written.object_eq]
  exact isRead_objectWith (lexes_colon.append (lexes_space rfl)) (lexes_comma.append (lexes_space rfl)) rfl
    (List.cons_ne_nil _ _) hne h

/-- An object with a member, without blanks. -/
theorem isRead_compact {members : List (Bytes×Written)} (hne : members≠[])
    (h : ∀ m∈members,(∀ byte∈m.1,IsClean byte) ∧ m.2.IsRead tooBig) :
    (Written.objectWith [58] [44] members).IsRead tooBig :=
  isRead_objectWith lexes_colon lexes_comma rfl (List.cons_ne_nil _ _) hne h

/-- The items of an array, one behind the other. -/
theorem isRead_items {items : List Written} (hne : items≠[]) (h : ∀ item∈items,item.IsRead tooBig) :
    ∃ list,LexesApart tooBig (joined (items.map Written.text)) list ∧
      ∀ {expect : Expect},expect=.value ∨ expect=.firstItem → ∀ stack,
        feed (expect,.array::stack) list=(items.flatMap Written.events,some (.behind,.array::stack)) := by
  induction items with
  | nil => exact absurd rfl hne
  | cons item rest ih =>
    obtain ⟨⟨value,hlex,hfeed⟩,hrest⟩ := List.forall_mem_cons.mp h
    cases rest with
    | nil =>
      refine ⟨value,hlex,fun {expect} he stack => ?_⟩
      rw [hfeed he,List.flatMap_singleton]
    | cons second rest =>
      obtain ⟨others,hothers,hnext⟩ := ih (List.cons_ne_nil _ _) hrest
      have hcomma : Lexes tooBig [44,32] [.comma] := lexes_comma.append (lexes_space rfl)
      have hwhole : LexesApart tooBig (joined ((item::second::rest).map Written.text)) (value++([Token.comma]++others)) :=
        hlex.append rfl (List.cons_ne_nil _ _) (hcomma.append_apart hothers)
      refine ⟨_,hwhole,fun {expect} he stack => ?_⟩
      have hsep : feed (.behind,.array::stack) [.comma]=([],some (.value,.array::stack)) := rfl
      rw [feed_append (hfeed he (.array::stack)),feed_append hsep,hnext (.inl rfl)]
      rfl

/-- An array. -/
theorem isRead_array {items : List Written} (h : ∀ item∈items,item.IsRead tooBig) :
    (Written.array items).IsRead tooBig := by
  have hstart : ∀ {expect : Expect},expect=.value ∨ expect=.firstItem → ∀ stack,
      feed (expect,stack) [.openBracket]=([.startArray],some (.firstItem,.array::stack)) := by
    intro expect he stack
    rcases he with rfl|rfl
    · rfl
    · cases stack with
      | nil => rfl
      | cons frame stack => cases frame <;> rfl
  by_cases hnil : items=[]
  · subst hnil
    have hwhole : LexesApart tooBig (Written.array []).text ([Token.openBracket]++[Token.closeBracket]) :=
      (lexes_openBracket.append lexes_closeBracket).apart
    refine ⟨_,hwhole,fun {expect} he stack => ?_⟩
    rw [feed_append (hstart he stack)]
    rfl
  · obtain ⟨list,hlex,hfeed⟩ := isRead_items hnil h
    have hwhole : LexesApart tooBig (Written.array items).text ([Token.openBracket]++(list++[Token.closeBracket])) :=
      lexes_openBracket.append_apart (hlex.append rfl (List.cons_ne_nil _ _) lexes_closeBracket.apart)
    refine ⟨_,hwhole,fun {expect} he stack => ?_⟩
    have hend : feed (.behind,.array::stack) [.closeBracket]=([.endArray],some (.behind,stack)) := rfl
    rw [feed_append (hstart he stack),feed_append (hfeed (.inr rfl) stack),hend]
    rfl

/-- A text that is one value is read as its calls. -/
theorem readEvents_written {w : Written} (h : w.IsRead tooBig) : readEvents tooBig w.text=(w.events,true) := by
  obtain ⟨list,hlex,hfeed⟩ := h
  have hwhole := hlex [] rfl
  have hnil : lex tooBig []=([],true) := rfl
  rw [List.append_nil,hnil,List.append_nil] at hwhole
  simp only [readEvents,hwhole,hfeed (.inl rfl),Bool.true_and,decide_true]

end Reading

end LorawanServer.JsonEvents
