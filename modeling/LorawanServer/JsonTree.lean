import LorawanServer.JsonWriting

/-!
# Documents built from the calls of a reader

A document is built by a handler: a stack of open objects and arrays takes each
value as it ends. What a number in a text stands for is an argument. The calls
of a value that is written add that value to whatever is open, so its text
reads as the value.
-/

namespace LorawanServer.JsonEvents

open CppRuntime JsonDocument

/-- An object or an array that has not ended. -/
inductive Container where
  /-- Members so far, and the name of the next one. -/
  | object (members : Members) (name : Bytes)
  /-- Items so far. -/
  | array (items : List Json)

/-- A document under construction. -/
structure Building where
  /-- Open objects and arrays, the innermost in front. -/
  stack : List Container
  /-- The value that ended outside all of them. -/
  root : Option Json

namespace Building

/-- Nothing is built. -/
def empty : Building := ⟨[],none⟩

/-- A value ends. -/
def add (b : Building) (value : Json) : Building :=
  match b.stack with
  | [] => {b with root := some value}
  | .object members name::stack => {b with stack := .object (members++[(name,value)]) name::stack}
  | .array items::stack => {b with stack := .array (items++[value])::stack}

/-- A name is read. -/
def key (b : Building) (name : Bytes) : Building :=
  match b.stack with
  | .object members _::stack => {b with stack := .object members name::stack}
  | _ => b

/-- The innermost object or array ends. -/
def close (b : Building) : Building :=
  match b.stack with
  | [] => b
  | .object members _::stack => add {b with stack := stack} (.object members)
  | .array items::stack => add {b with stack := stack} (.array items)

/-- A call of the reader. -/
def call (number : Bytes → ℚ) (b : Building) : Event → Building
  | .null => b.add .null
  | .bool value => b.add (.bool value)
  | .number minus magnitude => b.add (.int (if minus then -magnitude else magnitude))
  | .double text => b.add (.double (number text))
  | .string text => b.add (.string text)
  | .startObject => {b with stack := .object [] []::b.stack}
  | .key name => b.key name
  | .startArray => {b with stack := .array []::b.stack}
  | .endObject | .endArray => b.close

end Building

/-- The value of a whole text. -/
def document (number : Bytes → ℚ) (tooBig : Bytes → Bool) (text : Bytes) : Option Json :=
  let (events,whole) := readEvents tooBig text
  if whole then (events.foldl (Building.call number) .empty).root else none

/-- An integer; past 64 bits it is read as any other number. -/
def Written.integer (value : ℤ) : Written :=
  if -2^63≤value ∧ value<2^64 then .int value else .double (signed (decide (value<0)) (decimal value.natAbs))

/-- The value of an integer that is written. -/
def integerValue (number : Bytes → ℚ) (value : ℤ) : Json :=
  if -2^63≤value ∧ value<2^64 then .int value
  else .double (number (signed (decide (value<0)) (decimal value.natAbs)))

example : document (fun _ => 0) (fun _ => false) (ascii "\x7b\"a\":[1,true]\x7d")=
    some (.object [(ascii "a",.array [.int 1,.bool true])]) := rfl

section Building

variable {number : Bytes → ℚ} {tooBig : Bytes → Bool}

/-- The calls of a value that is written add the given one. -/
def Written.Builds (number : Bytes → ℚ) (w : Written) (value : Json) : Prop :=
  ∀ b : Building,w.events.foldl (Building.call number) b=b.add value

/-- A string. -/
theorem builds_string (text : Bytes) : (Written.string text).Builds number (.string text) := fun _ => rfl

/-- A literal. -/
theorem builds_bool (value : Bool) : (Written.bool value).Builds number (.bool value) := fun _ => rfl

/-- An integer. -/
theorem builds_int (value : ℤ) : (Written.int value).Builds number (.int value) := by
  intro b
  rw [Written.int,List.foldl_cons,List.foldl_nil,Building.call]
  congr 2
  by_cases hneg : value<0
  · rw [if_pos (decide_eq_true hneg)]
    omega
  · rw [if_neg (by rwa [decide_eq_true_iff])]
    omega

/-- Any other number. -/
theorem builds_double (text : Bytes) : (Written.double text).Builds number (.double (number text)) := fun _ => rfl

/-- The members of an object, added one behind the other. -/
theorem builds_members {members : List (Bytes×Written)} {values : Members}
    (h : List.Forall₂ (fun m value => m.1=value.1 ∧ m.2.Builds number value.2) members values)
    (done : Members) (name : Bytes) (stack : List Container) (root : Option Json) :
    ∃ last,(members.flatMap fun m => .key m.1::m.2.events).foldl (Building.call number)
      ⟨.object done name::stack,root⟩=⟨.object (done++values) last::stack,root⟩ := by
  induction h generalizing done name with
  | nil => exact ⟨name,by rw [List.append_nil]; rfl⟩
  | @cons m value members values hm _ ih =>
    obtain ⟨hname,hvalue⟩ := hm
    obtain ⟨last,hlast⟩ := ih (done++[(m.1,value.2)]) m.1
    refine ⟨last,?_⟩
    rw [List.flatMap_cons,List.foldl_append,List.foldl_cons,Building.call,hvalue]
    have hsame : (m.1,value.2)=value := Prod.ext hname rfl
    rw [hsame,List.append_assoc] at hlast
    rw [←hsame]
    exact hsame ▸ hlast

/-- An object. -/
theorem builds_object {colon comma : Bytes} {members : List (Bytes×Written)} {values : Members}
    (h : List.Forall₂ (fun m value => m.1=value.1 ∧ m.2.Builds number value.2) members values) :
    (Written.objectWith colon comma members).Builds number (.object values) := by
  intro b
  obtain ⟨last,hlast⟩ := builds_members h [] [] b.stack b.root
  rw [Written.objectWith,List.foldl_cons,List.foldl_append,Building.call,hlast]
  rfl

/-- A value that is read as its calls, which add the given value. -/
structure Written.ReadsAs (number : Bytes → ℚ) (tooBig : Bytes → Bool) (w : Written) (value : Json) : Prop where
  /-- The text is read. -/
  isRead : w.IsRead tooBig
  /-- The calls build the value. -/
  builds : w.Builds number value

/-- A string of clean bytes. -/
theorem readsAs_string {text : Bytes} (h : ∀ byte∈text,IsClean byte) :
    (Written.string text).ReadsAs number tooBig (.string text) := ⟨isRead_string h,builds_string text⟩

/-- A literal. -/
theorem readsAs_bool (value : Bool) : (Written.bool value).ReadsAs number tooBig (.bool value) :=
  ⟨isRead_bool value,builds_bool value⟩

/-- An integer of any size. -/
theorem readsAs_integer (value : ℤ) (hbig : tooBig (signed (decide (value<0)) (decimal value.natAbs))=false) :
    (Written.integer value).ReadsAs number tooBig (integerValue number value) := by
  by_cases h : -2^63≤value ∧ value<2^64
  · rw [Written.integer,integerValue,if_pos h,if_pos h]
    exact ⟨isRead_int h.1 h.2,builds_int value⟩
  · rw [Written.integer,integerValue,if_neg h,if_neg h]
    refine ⟨isRead_token fun rest hr => ?_,builds_double _⟩
    have hlarge : ¬ if decide (value<0)=true then digitsValue (decimal value.natAbs)≤2^63
        else digitsValue (decimal value.natAbs)<2^64 := by
      rw [digitsValue_decimal]
      by_cases hneg : value<0
      · rw [if_pos (decide_eq_true hneg)]
        omega
      · rw [if_neg (by rwa [decide_eq_true_iff])]
        omega
    rw [nextToken_signed (isNumeral_decimal _) hr,numeralEvent,if_neg fun hboth => hlarge hboth.2,hbig,
      if_neg Bool.false_ne_true]
    rfl

/-- A number with a fraction or an exponent. -/
theorem readsAs_double {minus : Bool} {whole fraction exponent : Bytes} (hd : IsNumeral whole)
    (hf : IsFraction fraction) (he : IsExponent exponent) (hne : fraction≠[] ∨ exponent≠[])
    (hbig : tooBig (signed minus (whole++(fraction++exponent)))=false) :
    (Written.double (signed minus (whole++(fraction++exponent)))).ReadsAs number tooBig
      (.double (number (signed minus (whole++(fraction++exponent))))) :=
  ⟨isRead_double hd hf he hne hbig,builds_double _⟩

/-- Any number, read as an integer or not. -/
theorem exists_readsAs_numeral {minus : Bool} {whole fraction exponent : Bytes} (hd : IsNumeral whole)
    (hf : IsFraction fraction) (he : IsExponent exponent)
    (hbig : tooBig (signed minus (whole++(fraction++exponent)))=false) :
    ∃ (w : Written) (value : Json),w.text=signed minus (whole++(fraction++exponent)) ∧
      w.ReadsAs number tooBig value := by
  set text := signed minus (whole++(fraction++exponent))
  have hevent : ∀ plain,
      numeralEvent tooBig minus plain (digitsValue whole) text=some (.number minus (digitsValue whole)) ∨
      numeralEvent tooBig minus plain (digitsValue whole) text=some (.double text) := by
    intro plain
    rw [numeralEvent,hbig,if_neg Bool.false_ne_true]
    exact ite_eq_or_eq _ _ _
  have hnext : ∀ event,numeralEvent tooBig minus (decide (fraction=[]) && decide (exponent=[]))
        (digitsValue whole) text=some event →
      ∀ rest,startsNumeric rest=false → nextToken tooBig (text++rest)=.found (.scalar event) rest := by
    intro event hevent rest hr
    rw [nextToken_numeral hd hf he hr,hevent]
  rcases hevent (decide (fraction=[]) && decide (exponent=[])) with hnumber|hdouble
  · exact ⟨⟨text,[.number minus (digitsValue whole)]⟩,_,rfl,isRead_token (hnext _ hnumber),fun _ => rfl⟩
  · exact ⟨.double text,_,rfl,isRead_token (hnext _ hdouble),builds_double text⟩

/-- A member is read under its name. -/
def MemberReadsAs (number : Bytes → ℚ) (tooBig : Bytes → Bool) (m : Bytes×Written) (value : Bytes×Json) : Prop :=
  m.1=value.1 ∧ m.2.ReadsAs number tooBig value.2

/-- A value behind a name. -/
theorem Written.ReadsAs.member (name : Bytes) {w : Written} {value : Json} (h : w.ReadsAs number tooBig value) :
    MemberReadsAs number tooBig (name,w) (name,value) := ⟨rfl,h⟩

/-- An object without blanks whose names are clean. -/
theorem readsAs_compact (names : List Bytes) {members : List (Bytes×Written)} {values : Members}
    (hnames : members.map Prod.fst=names)
    (hclean : (names.all fun name => name.all fun byte => decide (IsClean byte))=true) (hne : members≠[])
    (h : List.Forall₂ (MemberReadsAs number tooBig) members values) :
    (Written.objectWith [58] [44] members).ReadsAs number tooBig (.object values) := by
  have hread : ∀ m∈members,m.2.IsRead tooBig :=
    ((List.forall₂_and_left members values).mp (h.imp fun m value hv => ⟨hv.2.isRead,hv⟩)).1
  refine ⟨isRead_compact hne fun m hm => ⟨?_,hread m hm⟩,builds_object (h.imp fun m value hv => ⟨hv.1,hv.2.builds⟩)⟩
  have hname : m.1∈names := hnames ▸ List.mem_map_of_mem hm
  exact isClean_of_all (List.all_eq_true.mp hclean _ hname)

/-- A text that is one value is that value as a document. -/
theorem document_written {w : Written} {value : Json} (hr : w.IsRead tooBig)
    (hb : w.Builds number value) : document number tooBig w.text=some value := by
  rw [document,readEvents_written hr]
  simp only [if_true]
  rw [hb]
  rfl

end Building

end LorawanServer.JsonEvents
