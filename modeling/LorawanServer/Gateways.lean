import LorawanServer.IdentityText
import LorawanServer.OrderedMaps

/-!
# The list of gateways

`GatewayList`: gateways by their identifiers, looked up by texts. A text of
hexadecimal digits is an identifier, any other one an expression for identifiers
or for names. An identifier that is not in the list ends the search with the code
of success, so that the gateways in front of it look like all that were asked for.
-/

namespace LorawanServer.Gateways

open CppRuntime Records Datagram IdentityText

/-- The expression does not compile. -/
abbrev ERR_CODE_INVALID_REGEX : ℤ := -548

/-- The class `GatewayList`, without its file. -/
structure GatewayList where
  /-- Gateways by identifiers. -/
  gateways : Std.TreeMap UInt64 GatewayStat
  /-- Every gateway is under its own identifier. -/
  keyed : ∀ (id : UInt64) (stat : GatewayStat),gateways[id]?=some stat → stat.gatewayId=id

/-- The constructor. -/
def GatewayList.empty : GatewayList := ⟨∅,by simp⟩

/-- A gateway is put under its identifier. -/
def GatewayList.put (list : GatewayList) (stat : GatewayStat) : GatewayList where
  gateways := list.gateways.insert stat.gatewayId stat
  keyed := by
    intro id other h
    rw [Std.TreeMap.getElem?_insert] at h
    split_ifs at h with heq
    · rw [← Option.some.inj h]
      exact Std.compare_eq_iff_eq.mp heq
    · exact list.keyed id other h

/-- `isHex`. The text without a character is one. -/
def isHex (value : Bytes) : Bool := value.all fun byte => (hexDigit? byte).isSome

/-- `str2gatewayId`. -/
def str2gatewayId (value : Bytes) : UInt64 := strtoull16 value

/-- `uint64_t2string`. -/
def uint64_t2string (value : UInt64) : Bytes := hexString (leBytes 8 value.toNat).reverse

/-- `replaceAll` of one character. -/
def replaceAll (str : Bytes) (character : UInt8) (behind : Bytes) : Bytes :=
  str.flatMap fun byte => if byte=character then behind else [byte]

section Search

variable (regex : Bytes → Option (Bytes → Bool)) (list : GatewayList) (text : UInt64 → GatewayStat → Bytes)
  (useRegex : Bool)

/-- The loop that `parseIdentifiers` and `parseNames` share. The expressions of the
C++ library are an argument: nothing for one that does not compile. An unknown
identifier returns `false`, which is the code zero. -/
def parseList : List UInt64 → List Bytes → List UInt64×ℤ
  | retval,[] => (retval,0)
  | retval,item::rest =>
    if isHex item then
      let v := str2gatewayId (cString item)
      if v∈list.gateways then parseList (retval++[v]) rest else (retval,0)
    else
      let re := if useRegex then item else replaceAll (replaceAll item 42 (ascii ".*")) 63 (ascii ".")
      match regex re with
      | none => (retval,ERR_CODE_INVALID_REGEX)
      | some search =>
        let found := list.gateways.toList.filter fun gateway => search (text gateway.1 gateway.2)
        parseList (retval++found.map Prod.fst) rest

/-- `GatewayList::parseIdentifiers`. -/
def parseIdentifiers (retval : List UInt64) (items : List Bytes) : List UInt64×ℤ :=
  parseList regex list (fun id _ => uint64_t2string id) useRegex retval items

/-- `GatewayList::parseNames`. -/
def parseNames (retval : List UInt64) (items : List Bytes) : List UInt64×ℤ :=
  parseList regex list (fun _ stat => stat.name) useRegex retval items

end Search

/-- The number that a text of hexadecimal digits writes. -/
def identifier (item : Bytes) : ℕ := hexNumber (hexDigits item)

/-- The list has the identifier that a text writes. -/
def Known (list : GatewayList) (item : Bytes) : Prop := ∃ id : UInt64,id∈list.gateways ∧ id.toNat=identifier item

/-- Identifiers are resolved: the code is zero exactly for known ones, which are
then returned in their order, and negative for an unknown one. -/
structure Resolves (list : GatewayList) (retval : List UInt64) (items : List Bytes) (outcome : List UInt64×ℤ) :
    Prop where
  /-- Success is for known identifiers. -/
  success : outcome.2=0 ↔ ∀ item∈items,Known list item
  /-- They are returned. -/
  identifiers : (∀ item∈items,Known list item) →
    outcome.1.map UInt64.toNat=retval.map UInt64.toNat++items.map identifier
  /-- An unknown one is an error. -/
  failure : (∃ item∈items,¬ Known list item) → outcome.2<0

/-- What a hexadecimal digit is not. -/
theorem isHex_byte {byte : UInt8} (h : (hexDigit? byte).isSome=true) :
    isCSpace byte=false ∧ byte≠45 ∧ byte≠43 ∧ byte≠120 ∧ byte≠88 ∧ byte≠0 := by
  have hrange : 48≤byte.toNat ∧ byte.toNat≤57 ∨ 97≤byte.toNat ∧ byte.toNat≤102 ∨ 65≤byte.toNat ∧ byte.toNat≤70 := by
    rw [hexDigit?] at h
    split_ifs at h with hdecimal hlower hupper
    · exact .inl hdecimal
    · exact .inr (.inl hlower)
    · exact .inr (.inr hupper)
    · cases h
  have hne : ∀ other : UInt8,other.toNat<48 ∨ other.toNat=88 ∨ other.toNat=120 → byte≠other := by
    intro other hother heq
    rw [heq] at hrange
    omega
  refine ⟨?_,hne 45 (by decide),hne 43 (by decide),hne 120 (by decide),hne 88 (by decide),hne 0 (by decide)⟩
  rw [isCSpace,decide_eq_false (hne 32 (by decide)),Bool.false_or,Bool.and_eq_false_iff]
  right
  rw [decide_eq_false_iff_not,UInt8.le_iff_toNat_le]
  change ¬ byte.toNat≤13
  omega

/-- Hexadecimal digits read as their number, up to the largest one. -/
theorem strtoull16_of_isHex {item : Bytes} (h : isHex item=true) :
    strtoull16 item=UInt64.ofNat (min (identifier item) (2^64-1)) := by
  have hbyte : ∀ byte∈item,isCSpace byte=false ∧ byte≠45 ∧ byte≠43 ∧ byte≠120 ∧ byte≠88 ∧ byte≠0 :=
    fun byte hb => isHex_byte (List.all_eq_true.mp h byte hb)
  have hdrop : item.dropWhile isCSpace=item := by
    cases item with
    | nil => rfl
    | cons byte rest => rw [List.dropWhile_cons,(hbyte byte List.mem_cons_self).1,if_neg Bool.false_ne_true]
  have hdigits : ∀ text : Bytes,(∀ byte∈text,byte∈item) →
      (text.takeWhile fun byte => (hexDigit? byte).isSome)=text := by
    intro text htext
    exact List.takeWhile_eq_self_iff.mpr fun byte hb => List.all_eq_true.mp h byte (htext byte hb)
  rw [strtoull16,hdrop]
  split
  next negative unsigned hsign =>
  have hplain : (negative,unsigned)=(false,item) := by
    rw [← hsign]
    split
    · exact absurd rfl (hbyte 45 List.mem_cons_self).2.1
    · exact absurd rfl (hbyte 43 List.mem_cons_self).2.2.1
    · rfl
  obtain ⟨rfl,rfl⟩ := Prod.mk.inj hplain
  rw [if_neg Bool.false_ne_true]
  split
  · next x digit rest =>
    have hx := hbyte x (List.mem_cons_of_mem _ List.mem_cons_self)
    rw [if_neg fun hmarker => hmarker.1.elim hx.2.2.2.1 hx.2.2.2.2.1]
    rfl
  · rfl

/-- Without a zero byte the text is what a C function sees. -/
theorem cString_of_isHex {item : Bytes} (h : isHex item=true) : cString item=item :=
  cString_eq_self fun hzero => (isHex_byte (List.all_eq_true.mp h 0 hzero)).2.2.2.2.2 rfl

section Search

variable (regex : Bytes → Option (Bytes → Bool)) {list : GatewayList} (text : UInt64 → GatewayStat → Bytes)
  (useRegex : Bool)

/-- A known identifier is the one that the text is read as. -/
theorem known_read {item : Bytes} (hhex : isHex item=true) (h : Known list item) :
    str2gatewayId (cString item)∈list.gateways ∧ (str2gatewayId (cString item)).toNat=identifier item := by
  obtain ⟨id,hmem,hid⟩ := h
  have hlt := id.toNat_lt
  have hread : str2gatewayId (cString item)=id := by
    rw [str2gatewayId,cString_of_isHex hhex,strtoull16_of_isHex hhex,← hid,Nat.min_eq_left (by omega),
      UInt64.ofNat_toNat]
  rw [hread]
  exact ⟨hmem,hid⟩

/-- A list of identifiers always ends with the code of success. -/
theorem parseList_code (retval : List UInt64) {items : List Bytes} (hhex : ∀ item∈items,isHex item=true) :
    (parseList regex list text useRegex retval items).2=0 := by
  induction items generalizing retval with
  | nil => rfl
  | cons item rest ih =>
    rw [parseList,if_pos (hhex item List.mem_cons_self)]
    dsimp only
    split_ifs
    · exact ih _ fun other hother => hhex other (List.mem_cons_of_mem _ hother)
    · rfl

/-- Known identifiers are all returned. -/
theorem parseList_known (retval : List UInt64) {items : List Bytes} (hhex : ∀ item∈items,isHex item=true)
    (hknown : ∀ item∈items,Known list item) :
    (parseList regex list text useRegex retval items).1.map UInt64.toNat=
      retval.map UInt64.toNat++items.map identifier := by
  induction items generalizing retval with
  | nil => rw [parseList,List.map_nil,List.append_nil]
  | cons item rest ih =>
    obtain ⟨hmem,hid⟩ := known_read (hhex item List.mem_cons_self) (hknown item List.mem_cons_self)
    rw [parseList,if_pos (hhex item List.mem_cons_self)]
    dsimp only
    rw [if_pos hmem,ih _ (fun other hother => hhex other (List.mem_cons_of_mem _ hother))
      fun other hother => hknown other (List.mem_cons_of_mem _ hother),List.map_append,List.append_assoc,List.map_cons,
      List.map_cons,List.map_nil,hid]
    rfl

/-- The loop resolves a list of identifiers exactly if all of them are known. -/
theorem parseList_resolves_iff (retval : List UInt64) {items : List Bytes} (hhex : ∀ item∈items,isHex item=true) :
    Resolves list retval items (parseList regex list text useRegex retval items) ↔
      ∀ item∈items,Known list item := by
  have hcode : (parseList regex list text useRegex retval items).2=0 := parseList_code regex text useRegex retval hhex
  constructor
  · intro h
    exact h.success.mp hcode
  · intro hknown
    refine ⟨iff_of_true hcode hknown,fun _ => parseList_known regex text useRegex retval hhex hknown,?_⟩
    rintro ⟨item,hmem,hunknown⟩
    exact absurd (hknown item hmem) hunknown

end Search

/-- Identifiers are resolved, by both searches, exactly if the list has all of them. -/
theorem resolves_iff (regex : Bytes → Option (Bytes → Bool)) (list : GatewayList) (useRegex : Bool)
    (retval : List UInt64) (items : List Bytes) (hhex : ∀ item∈items,isHex item=true) :
    (Resolves list retval items (parseIdentifiers regex list useRegex retval items) ↔ ∀ item∈items,Known list item) ∧
    (Resolves list retval items (parseNames regex list useRegex retval items) ↔ ∀ item∈items,Known list item) :=
  ⟨parseList_resolves_iff regex _ useRegex retval hhex,parseList_resolves_iff regex _ useRegex retval hhex⟩

/-- A list of one gateway. -/
def oneGateway : GatewayList := GatewayList.empty.put {GatewayStat.empty with gatewayId := 26}

/-- A known identifier, in both cases of its letter, and an unknown one. -/
def askedIdentifiers : List Bytes := [ascii "1a",ascii "1b",ascii "1A"]

/-- No expression compiles. -/
def noExpression (_ : Bytes) : Option (Bytes → Bool) := none

/-- The unknown identifier in the middle is a success with the one in front of it. -/
theorem unknown_succeeds :
    parseIdentifiers noExpression oneGateway false [] askedIdentifiers=([26],0) ∧
    ¬ Resolves oneGateway [] askedIdentifiers (parseIdentifiers noExpression oneGateway false [] askedIdentifiers) := by
  have hrun : parseIdentifiers noExpression oneGateway false [] askedIdentifiers=([26],0) := by decide +kernel
  refine ⟨hrun,fun h => ?_⟩
  rw [hrun] at h
  obtain ⟨id,hmem,hid⟩ := h.success.mp rfl (ascii "1b") (List.mem_cons_of_mem _ List.mem_cons_self)
  have hb : identifier (ascii "1b")=27 := by decide +kernel
  have heq : id=27 := UInt64.toNat_inj.mp (hid.trans hb)
  rw [heq] at hmem
  exact absurd hmem (by decide +kernel)

/-- A gateway that is asked for twice. -/
theorem resolves_known :
    (Resolves oneGateway [] [ascii "1a",ascii "1A"]
      (parseIdentifiers noExpression oneGateway false [] [ascii "1a",ascii "1A"]) ↔
        ∀ item∈[ascii "1a",ascii "1A"],Known oneGateway item) ∧
    (Resolves oneGateway [] [ascii "1a",ascii "1A"]
      (parseNames noExpression oneGateway false [] [ascii "1a",ascii "1A"]) ↔
        ∀ item∈[ascii "1a",ascii "1A"],Known oneGateway item) :=
  resolves_iff noExpression oneGateway false [] [ascii "1a",ascii "1A"] (by decide +kernel)

end LorawanServer.Gateways
