import LorawanServer.IdentityText

/-!
# Numbers whose front tells their base

`strtoll` with base zero: blanks, a sign, a marker of base sixteen or a zero for
base eight, and digits up to the bounds of `long long`. A text is a number if all of
it is read.
-/

namespace LorawanServer.BaseNumbers

open CppRuntime Datagram IdentityText

/-- The base that the front of a text asks for, and the text behind a marker. The
marker counts in front of a digit, else its zero is the first digit. -/
def takeBase : Bytes → ℕ×Bytes
  | 48::x::digit::rest =>
    if (x=120 ∨ x=88) ∧ (hexDigit? digit).isSome then (16,digit::rest) else (8,48::x::digit::rest)
  | 48::rest => (8,48::rest)
  | text => (10,text)

/-- The value of a digit in a base of at most sixteen. -/
def digit? (base : ℕ) (byte : UInt8) : Option ℕ := (hexDigit? byte).filter (· < base)

/-- A number at the front of a text. -/
structure Numeral where
  /-- True behind a minus. -/
  negative : Bool
  /-- Base of the digits. -/
  base : ℕ
  /-- Its digits, the highest one first. -/
  digits : List ℕ
  /-- The text behind them. -/
  rest : Bytes

/-- The number at the front of a text. -/
def readNumeral (text : Bytes) : Numeral :=
  let (negative,unsigned) := takeSign (text.dropWhile isCSpace)
  let (base,body) := takeBase unsigned
  ⟨negative,base,(body.takeWhile fun byte => (digit? base byte).isSome).filterMap (digit? base),
    body.dropWhile fun byte => (digit? base byte).isSome⟩

/-- The absolute value of a number. -/
def Numeral.magnitude (n : Numeral) : ℕ := n.digits.foldl (fun value digit => n.base*value+digit) 0

/-- The value of a number. -/
def Numeral.value (n : Numeral) : ℤ := if n.negative then -n.magnitude else n.magnitude

/-- `strtoll` with base zero. -/
def strtoll (text : Bytes) : ℤ := max (-2^63) (min (readNumeral (cString text)).value (2^63-1))

/-- The text is a number of that value, and nothing else. -/
def IsNumber (text : Bytes) (value : ℤ) : Prop :=
  0∉text ∧ (readNumeral text).digits≠[] ∧ (readNumeral text).rest=[] ∧ (readNumeral text).value=value

instance (text : Bytes) (value : ℤ) : Decidable (IsNumber text value) := inferInstanceAs (Decidable (_∧_∧_∧_))

/-- A sign is in front of what is appended. -/
theorem takeSign_append {text : Bytes} (h : text≠[]) (extra : Bytes) :
    takeSign (text++extra)=((takeSign text).1,(takeSign text).2++extra) := by
  cases text with
  | nil => exact absurd rfl h
  | cons first rest =>
    by_cases hminus : first=45
    · rw [hminus]
      rfl
    · by_cases hplus : first=43
      · rw [hplus]
        rfl
      · rw [List.cons_append]
        unfold takeSign
        split
        · simp_all
        · simp_all
        · split <;> simp_all

/-- The bases are eight, ten and sixteen. -/
theorem takeBase_base (text : Bytes) : (takeBase text).1=8 ∨ (takeBase text).1=10 ∨ (takeBase text).1=16 := by
  unfold takeBase
  split
  · split <;> simp
  · exact .inl rfl
  · exact .inr (.inl rfl)

/-- The digit one is a digit of every base. -/
theorem digit?_one {base : ℕ} (h : 1<base) : digit? base 49=some 1 := by
  rw [digit?,show hexDigit? 49=some 1 from rfl,Option.filter_some,if_pos (decide_eq_true h)]

/-- The letters of the marker are no digits of base eight. -/
theorem digit?_marker {x : UInt8} (h : x=120 ∨ x=88) : digit? 8 x=none := by
  rcases h with rfl|rfl <;> rfl

/-- A text that starts with another character is decimal. -/
theorem takeBase_of_ne {first : UInt8} (h : first≠48) (rest : Bytes) : takeBase (first::rest)=(10,first::rest) := by
  unfold takeBase
  split <;> simp_all

/-- A digit behind a text that is all digits asks for no other base. -/
theorem takeBase_append {text : Bytes} (hne : text≠[])
    (hall : ((takeBase text).2.dropWhile fun byte => (digit? (takeBase text).1 byte).isSome)=[]) :
    takeBase (text++[49])=((takeBase text).1,(takeBase text).2++[49]) := by
  match text,hne,hall with
  | first::second::third::rest,_,_ =>
    by_cases hfirst : first=48
    · subst hfirst
      change (if _ then _ else _)=((if _ then _ else _ : ℕ×Bytes).1,(if _ then _ else _ : ℕ×Bytes).2++[49])
      split_ifs <;> rfl
    · rw [takeBase_of_ne hfirst,List.cons_append,takeBase_of_ne hfirst]
  | [first,second],_,hall =>
    by_cases hfirst : first=48
    · subst hfirst
      have hmarker : ¬((second=120 ∨ second=88) ∧ (hexDigit? 49).isSome) := by
        rintro ⟨hsecond,-⟩
        rcases hsecond with rfl|rfl <;> cases hall
      exact (if_neg hmarker).trans rfl
    · rw [takeBase_of_ne hfirst,List.cons_append,takeBase_of_ne hfirst]
  | [first],_,_ =>
    by_cases hfirst : first=48
    · subst hfirst
      rfl
    · rw [takeBase_of_ne hfirst,List.cons_append,takeBase_of_ne hfirst]

/-- The parts of a number with one more digit. -/
theorem readNumeral_append {text : Bytes} (hdigits : (readNumeral text).digits≠[]) (hrest : (readNumeral text).rest=[]) :
    readNumeral (text++[49])={readNumeral text with digits := (readNumeral text).digits++[1]} := by
  have hbody : (takeSign (text.dropWhile isCSpace)).2≠[] := by
    intro h
    rw [readNumeral] at hdigits
    dsimp only at hdigits
    rw [h] at hdigits
    exact hdigits rfl
  have hblank : text.dropWhile isCSpace≠[] := by
    intro h
    rw [h] at hbody
    exact hbody rfl
  have hdrop : (text++[49]).dropWhile isCSpace=text.dropWhile isCSpace++[49] := by
    rw [List.dropWhile_append,if_neg (by simpa using hblank)]
  rw [readNumeral] at hrest
  dsimp only at hrest
  have hbase := takeBase_append hbody hrest
  have hone := @digit?_one (takeBase (takeSign (text.dropWhile isCSpace)).2).1
    (by rcases takeBase_base (takeSign (text.dropWhile isCSpace)).2 with h|h|h <;> rw [h] <;> decide)
  have hall := List.dropWhile_eq_nil_iff.mp hrest
  rw [readNumeral,readNumeral,hdrop,takeSign_append hblank]
  dsimp only
  rw [hbase]
  dsimp only
  rw [List.takeWhile_append_of_pos hall,List.dropWhile_append_of_pos hall,List.takeWhile_cons_of_pos (by rw [hone]; rfl),
    List.takeWhile_nil,List.dropWhile_cons_of_pos (by rw [hone]; rfl),List.takeWhile_eq_self_iff.mpr hall,hrest,
    List.filterMap_append,List.filterMap_cons_some hone]
  rfl

/-- A number is read as its value, inside the bounds. -/
theorem strtoll_of_isNumber {text : Bytes} {value : ℤ} (h : IsNumber text value) :
    strtoll text=max (-2^63) (min value (2^63-1)) := by
  rw [strtoll,cString_eq_self h.1,h.2.2.2]

/-- A number with one more digit is not zero. -/
theorem strtoll_append_ne_zero {text : Bytes} {value : ℤ} (h : IsNumber text value) : strtoll (text++[49])≠0 := by
  have hzero : 0∉text++[49] := by
    intro hmem
    rcases List.mem_append.mp hmem with hmem|hmem
    · exact h.1 hmem
    · exact absurd hmem (by decide)
  have hmagnitude : 0<(readNumeral (text++[49])).magnitude := by
    rw [Numeral.magnitude,readNumeral_append h.2.1 h.2.2.1]
    dsimp only
    rw [List.foldl_append]
    exact Nat.succ_pos _
  rw [strtoll,cString_eq_self hzero,Numeral.value]
  split_ifs <;> omega

end LorawanServer.BaseNumbers
