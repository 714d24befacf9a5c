import Mathlib

/-!
# Byte strings, machine integers and faults of a C++ program

A `std::string` is a list of bytes and a memory image of an integer is its
little-endian byte list. Integer conversions wrap as on a 64-bit host, and the
ways in which a run can leave the normal path are named faults. Nothing here
mentions one particular program; heap layout and timing stay outside.
-/

namespace LorawanServer.CppRuntime

/-- Content of a `std::string` or of a byte buffer. -/
abbrev Bytes := List UInt8

/-- The ways a run can end without returning to its caller. -/
inductive Fault where
  /-- `std::out_of_range`, thrown by `substr` past the end. -/
  | outOfRange
  /-- A null pointer handed to code that reads through it. -/
  | nullPointer
  /-- A failed `assert`, which ends the process. -/
  | assertion
  /-- A read outside the bytes the caller supplied. -/
  | readOutside
  deriving DecidableEq,Repr

/-- Little-endian memory image of a value in the given number of bytes. -/
def leBytes : ℕ → ℕ → Bytes
  | 0,_ => []
  | width+1,value => UInt8.ofNat value::leBytes width (value/256)

/-- The value of a little-endian memory image. -/
def leValue : Bytes → ℕ
  | [] => 0
  | byte::tail => byte.toNat+256*leValue tail

/-- A memory image has exactly its declared width. -/
@[simp] theorem leBytes_length (width value : ℕ) : (leBytes width value).length=width := by
  induction width generalizing value with
  | zero => rfl
  | succ width ih => simp only [leBytes,List.length_cons,ih]

/-- Reading back an image gives the value modulo the width. -/
theorem leValue_leBytes (width value : ℕ) : leValue (leBytes width value)=value%256^width := by
  induction width generalizing value with
  | zero => simp only [leBytes,leValue,pow_zero,Nat.mod_one]
  | succ width ih =>
    have hb : (UInt8.ofNat value).toNat=value%256 := by
      simp only [UInt8.toNat_ofNat',Nat.reducePow]
    rw [leBytes,leValue,ih,hb,pow_succ,Nat.mul_comm (256^width) 256,Nat.mod_mul]

/-- Values that fit the width survive the memory image. -/
theorem leValue_leBytes_of_lt {width value : ℕ} (h : value<256^width) :
    leValue (leBytes width value)=value := by
  rw [leValue_leBytes,Nat.mod_eq_of_lt h]

/-- A memory image never denotes a value past its width. -/
theorem leValue_lt (bytes : Bytes) : leValue bytes<256^bytes.length := by
  induction bytes with
  | nil => simp only [leValue,List.length_nil,pow_zero,Nat.zero_lt_one]
  | cons byte tail ih =>
    have hb := byte.toNat_lt
    rw [leValue,List.length_cons,pow_succ]
    omega

/-- Writing the value of an image gives the image back. -/
theorem leBytes_leValue (bytes : Bytes) : leBytes bytes.length (leValue bytes)=bytes := by
  induction bytes with
  | nil => rfl
  | cons byte tail ih =>
    have hb := byte.toNat_lt
    have hd : (byte.toNat+256*leValue tail)/256=leValue tail := by omega
    have hm : UInt8.ofNat (byte.toNat+256*leValue tail)=byte := by
      apply UInt8.toNat_inj.mp
      rw [UInt8.toNat_ofNat']
      omega
    rw [leValue,List.length_cons,leBytes,hm,hd,ih]

/-- Four bytes read as a `uint32_t` are the bytes of that word. -/
theorem leBytes_ofNat_leValue {bytes : Bytes} (h : bytes.length=4) :
    leBytes 4 (UInt32.ofNat (leValue bytes)).toNat=bytes := by
  have hv := leValue_lt bytes
  rw [h] at hv
  have hm : (UInt32.ofNat (leValue bytes)).toNat=leValue bytes := by
    rw [UInt32.toNat_ofNat']
    exact Nat.mod_eq_of_lt hv
  have hb := leBytes_leValue bytes
  rwa [h,←hm] at hb

/-- Byte order reversal of a value of the given width, as `be64toh` on a
little-endian host. -/
def swapBytes (width value : ℕ) : ℕ := leValue (leBytes width value).reverse

/-- Reversing the byte order twice restores every value of the width. -/
theorem swapBytes_swapBytes {width value : ℕ} (h : value<256^width) :
    swapBytes width (swapBytes width value)=value := by
  have he : leBytes width (leValue (leBytes width value).reverse)=(leBytes width value).reverse := by
    have hi := leBytes_leValue (leBytes width value).reverse
    rwa [List.length_reverse,leBytes_length] at hi
  rw [swapBytes,swapBytes,he,List.reverse_reverse,leValue_leBytes_of_lt h]

/-- A byte order reversal stays inside the width. -/
theorem swapBytes_lt (width value : ℕ) : swapBytes width value<256^width := by
  have h := leValue_lt (leBytes width value).reverse
  rwa [List.length_reverse,leBytes_length] at h

/-- Subtraction in `size_t`, wrapping below zero. -/
def sizeSub (left right : ℕ) : ℕ := (left+2^64-right)%2^64

/-- Conversion of an unsigned value to `int`. -/
def toInt32 (value : ℕ) : ℤ :=
  if value%2^32<2^31 then ((value%2^32 : ℕ) : ℤ) else ((value%2^32 : ℕ) : ℤ)-2^32

/-- Small values survive the conversion to `int`. -/
theorem toInt32_of_lt {value : ℕ} (h : value<2^31) : toInt32 value=value := by
  have hm : value%2^32=value := Nat.mod_eq_of_lt (by omega)
  rw [toInt32,hm,if_pos h]

/-- Narrowing a non-negative `int` to `uint16_t` keeps its low bits. -/
theorem uint16_ofInt_natCast (value : ℕ) : UInt16.ofInt (value : ℤ)=UInt16.ofNat value := by
  have hm : ((value : ℤ)%2^16).toNat=value%2^16 := by omega
  apply UInt16.toNat_inj.mp
  rw [UInt16.ofInt,hm,UInt16.toNat_ofNat',UInt16.toNat_ofNat',Nat.mod_mod]

/-- Successive subtractions in `size_t` add up. -/
theorem sizeSub_sizeSub {left first second : ℕ} (h : first+second≤2^64) :
    sizeSub (sizeSub left first) second=sizeSub left (first+second) := by
  simp only [sizeSub]
  omega

/-- A small difference survives the conversion to `int`, with its sign. -/
theorem toInt32_sizeSub {left right : ℕ} (hl : left<2^31) (hr : right<2^31) :
    toInt32 (sizeSub left right)=(left : ℤ)-right := by
  by_cases h : right≤left
  · have hd : sizeSub left right=left-right := by
      rw [sizeSub]
      omega
    rw [hd,toInt32_of_lt (by omega)]
    omega
  · have hd : sizeSub left right%2^32=left+2^32-right := by
      rw [sizeSub]
      omega
    rw [toInt32,hd,if_neg (by omega)]
    omega

/-- `std::string::substr`: the position is checked, the count is clipped. -/
def substr (text : Bytes) (position count : ℕ) : Except Fault Bytes :=
  if text.length<position then .error .outOfRange else .ok ((text.drop position).take count)

/-- A position inside the text never throws. -/
theorem substr_of_le {text : Bytes} {position : ℕ} (h : position≤text.length) (count : ℕ) :
    substr text position count=.ok ((text.drop position).take count) := by
  rw [substr,if_neg (by omega)]

/-- Bytes of a string literal of the source. -/
def ascii (text : String) : Bytes := text.toList.map fun c => UInt8.ofNat c.toNat

/-- Reading the given number of bytes behind a pointer to the text. -/
def readBytes (text : Bytes) (count : ℕ) : Except Fault Bytes :=
  if text.length<count then .error .readOutside else .ok (text.take count)

/-- A read that the text covers gives its front. -/
theorem readBytes_of_le {text : Bytes} {count : ℕ} (h : count≤text.length) :
    readBytes text count=.ok (text.take count) := by
  rw [readBytes,if_neg (by omega)]

/-- The computation ends without a fault. -/
def Returns {α : Type} (x : Except Fault α) : Prop := ∃ a,x=.ok a

/-- A value returns. -/
theorem returns_ok {α : Type} (a : α) : Returns (.ok a : Except Fault α) := ⟨a,rfl⟩

/-- A fault does not return. -/
theorem not_returns_error {α : Type} (fault : Fault) : ¬ Returns (.error fault : Except Fault α) := by
  rintro ⟨a,h⟩
  cases h

/-- A computation that ends in a fault does not return. -/
theorem not_returns_of_eq {α : Type} {x : Except Fault α} {fault : Fault} (h : x=.error fault) :
    ¬ Returns x := by
  rw [h]
  exact not_returns_error fault

/-- A sequence gives a value exactly when its first part gives one that the
second part continues with. -/
theorem bind_eq_ok {ε α β : Type} {x : Except ε α} {f : α → Except ε β} {b : β} :
    x>>=f=.ok b ↔ ∃ a,x=.ok a ∧ f a=.ok b := by
  cases x with
  | error fault => simp only [bind,Except.bind,reduceCtorEq,false_and,exists_false]
  | ok a => simp only [bind,Except.bind,Except.ok.injEq,exists_eq_left']

/-- A sequence returns exactly when its first part does and its second part
does from there. -/
theorem returns_bind {α β : Type} {x : Except Fault α} {f : α → Except Fault β} :
    Returns (x>>=f) ↔ ∃ a,x=.ok a ∧ Returns (f a) := by
  constructor
  · rintro ⟨b,h⟩
    obtain ⟨a,ha,hb⟩ := bind_eq_ok.mp h
    exact ⟨a,ha,b,hb⟩
  · rintro ⟨a,ha,b,hb⟩
    exact ⟨b,bind_eq_ok.mpr ⟨a,ha,hb⟩⟩

/-- The bytes a C function sees behind a pointer into a terminated buffer. -/
def cString (text : Bytes) : Bytes := text.takeWhile (· ≠ 0)

/-- A text without a zero byte is seen whole. -/
theorem cString_eq_self {text : Bytes} (h : 0∉text) : cString text=text := by
  rw [cString,List.takeWhile_eq_self_iff]
  intro byte hb
  exact decide_eq_true fun he => h (he ▸ hb)

/-- `memcpy` of a short source over the front of a fixed-size object; bytes
past the source keep their content. -/
def overwrite {n : ℕ} (object : Vector UInt8 n) (source : Bytes) : Vector UInt8 n :=
  Vector.ofFn fun i => source.getD i.val object[i]

/-- The overwritten part reads back as the source. -/
theorem overwrite_take {n : ℕ} (object : Vector UInt8 n) {source : Bytes} (h : source.length≤n) :
    (overwrite object source).toList.take source.length=source := by
  apply List.ext_getElem
  · simp only [List.length_take,Vector.length_toList]
    omega
  · intro i hi hs
    simp only [overwrite,List.getElem_take,Vector.getElem_toList,Vector.getElem_ofFn,
      List.getD_eq_getElem?_getD,List.getElem?_eq_getElem hs,Option.getD_some]

/-- The front of the source is the first byte of the object. -/
theorem overwrite_cons_zero {n : ℕ} (object : Vector UInt8 (n+1)) (byte : UInt8) (source : Bytes) :
    (overwrite object (byte::source))[0]=byte := by
  simp only [overwrite,Vector.getElem_ofFn,List.getD_cons_zero]

/-- `memmove` of a source into a buffer, from a position on. -/
def memmove (buffer : Bytes) (position : ℕ) (source : Bytes) : Bytes :=
  buffer.take position++source++buffer.drop (position+source.length)

/-- What lies in front of the source and behind it stays. -/
theorem memmove_front (front rest source : Bytes) :
    memmove (front++rest) front.length source=front++(source++rest.drop source.length) := by
  rw [memmove,List.take_left,List.drop_length_add_append,List.append_assoc]

/-- A part of a buffer is exchanged for one of the same length. -/
theorem memmove_append (front rest : Bytes) {old source : Bytes} (h : old.length=source.length) :
    memmove (front++(old++rest)) front.length source=front++(source++rest) := by
  rw [memmove_front,List.drop_left' h]

end LorawanServer.CppRuntime
