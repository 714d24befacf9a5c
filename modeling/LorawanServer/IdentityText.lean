import LorawanServer.Datagram
import LorawanServer.JsonLexing

/-!
# Identity members as texts

The conversions of `utillora.cpp` between the members of an identity and their
texts in a file. Bytes are two hexadecimal digits; addresses and identifiers are
turned around first, keys and nonces are not. A text that is too short leaves
the rest of its member as it was, because the clearing of the rest is aimed
behind the member; what it writes there is outside the model.
-/

namespace LorawanServer.IdentityText

open CppRuntime Records JsonDocument Datagram

/-- Lower case hexadecimal digit. -/
def hexChar (digit : ℕ) : UInt8 := UInt8.ofNat (if digit<10 then 48+digit else 87+digit)

/-- `hexString`. -/
def hexString (buffer : Bytes) : Bytes :=
  buffer.flatMap fun byte => [hexChar (byte.toNat/16),hexChar (byte.toNat%16)]

/-- The sign in front of a number, true for a minus, and the text behind it. -/
def takeSign : Bytes → Bool×Bytes
  | 45::rest => (true,rest)
  | 43::rest => (false,rest)
  | text => (false,text)

/-- The text behind a marker of base sixteen, which counts in front of a digit. -/
def skipMarker : Bytes → Bytes
  | 48::x::digit::rest =>
    if (x=120 ∨ x=88) ∧ (hexDigit? digit).isSome then digit::rest else 48::x::digit::rest
  | text => text

/-- The digits at the front of a text. -/
def hexDigits (text : Bytes) : List ℕ := (text.takeWhile fun byte => (hexDigit? byte).isSome).filterMap hexDigit?

/-- The number of some digits, the first one the highest. -/
def hexNumber (digits : List ℕ) : ℕ := digits.foldl (fun value digit => 16*value+digit) 0

/-- `strtol` in base sixteen: blanks, a sign, an optional marker in front of a
digit, and digits up to the bounds of `long`. -/
def strtol16 (text : Bytes) : ℤ :=
  let (negative,unsigned) := takeSign (text.dropWhile isCSpace)
  let magnitude : ℤ := hexNumber (hexDigits (skipMarker unsigned))
  if negative then max (-magnitude) (-2^63) else min magnitude (2^63-1)

/-- `hex2string`: pairs of characters, each read by itself. -/
def hex2string : Bytes → Bytes
  | first::second::rest => UInt8.ofInt (strtol16 [first,second])::hex2string rest
  | _ => []

/-- The memory of a member of the given size after the copy of a text and the
misplaced clearing behind it. -/
def copied (old : Bytes) (size : ℕ) (source : Bytes) : Bytes :=
  if source=[] then List.replicate size 0 else source.take size++old.drop (source.take size).length

/-- `DEVADDRINT2string`: the most significant byte first. -/
def DEVADDRINT2string (value : DEVADDR) : Bytes := hexString (leBytes 4 value.toNat).reverse

/-- `DEVEUI2string`. -/
def DEVEUI2string (value : DEVEUI) : Bytes := hexString (leBytes 8 value.toNat).reverse

/-- `KEY2string`. -/
def KEY2string (value : KEY128) : Bytes := hexString value.toList

/-- `DEVNONCE2string`: the bytes in the order of the memory. -/
def DEVNONCE2string (value : UInt16) : Bytes := hexString (leBytes 2 value.toNat)

/-- `JOINNONCE2string`: the bytes in the order of the memory. -/
def JOINNONCE2string (value : JOINNONCE) : Bytes := hexString value.toList

/-- `DEVICENAME2string`. -/
def DEVICENAME2string (value : DEVICENAME) : Bytes := cString value.toList

/-- `deviceclass2string`. -/
def deviceclass2string : DeviceClass → Bytes
  | .classA => ascii "A"
  | .classB => ascii "B"
  | .classC => ascii "C"

/-- `activation2string` and `getActivationName`. -/
def activation2string : Activation → Bytes
  | .otaa => ascii "OTAA"
  | .abp => ascii "ABP"

/-- `LORAWAN_VERSION2string`. -/
def LORAWAN_VERSION2string (value : LorawanVersion) : Bytes :=
  decimal value.major.toNat++46::(decimal value.minor.toNat++46::decimal value.release.toNat)

/-- `string2DEVADDR` over the old address. -/
def string2DEVADDR (old : DEVADDR) (value : Bytes) : DEVADDR :=
  UInt32.ofNat (leValue (copied (leBytes 4 old.toNat) 4 (hex2string value)).reverse)

/-- `string2DEVEUI` over the old identifier. -/
def string2DEVEUI (old : DEVEUI) (value : Bytes) : DEVEUI :=
  UInt64.ofNat (leValue (copied (leBytes 8 old.toNat) 8 (hex2string value)).reverse)

/-- `string2KEY` over the old key: a long text is hexadecimal, a short one is the
key itself. -/
def string2KEY (old : KEY128) (str : Bytes) : KEY128 :=
  let v := if 16<str.length then hex2string str else str
  Vector.ofFn fun i => (copied old.toList 16 v).getD i 0

/-- `string2DEVNONCE`. -/
def string2DEVNONCE (value : Bytes) : UInt16 := UInt16.ofInt (strtol16 value)

/-- `string2JOINNONCE`: the number is turned around as four bytes, of which the
lower three are kept. -/
def string2JOINNONCE (value : Bytes) : JOINNONCE :=
  let r := swapBytes 4 (UInt32.ofInt (strtol16 value)).toNat
  #v[UInt8.ofNat r,UInt8.ofNat (r/2^8),UInt8.ofNat (r/2^16)]

/-- `string2DEVICENAME`, a `strncpy`. -/
def string2DEVICENAME (str : Bytes) : DEVICENAME := Vector.ofFn fun i => (cString str).getD i 0

/-- `string2deviceclass`. -/
def string2deviceclass (value : Bytes) : DeviceClass :=
  if value=ascii "A" then .classA else if value=ascii "B" then .classB else .classC

/-- `string2activation` and `getActivationByName`. -/
def string2activation (value : Bytes) : Activation := if value=ascii "OTAA" then .otaa else .abp

/-- A `std::stringstream` that is read: what is left, and whether a read
reached the end or failed. -/
structure InputStream where
  /-- Characters left. -/
  rest : Bytes
  /-- The end was reached. -/
  eof : Bool
  /-- A read failed. -/
  fail : Bool
  deriving DecidableEq

/-- `ss >> value` for an `int`: a number out of bounds is clipped and fails. -/
def InputStream.readInt (ss : InputStream) (old : ℤ) : InputStream×ℤ :=
  if ss.eof || ss.fail then ({ss with fail := true},old) else
  match ss.rest.dropWhile isCSpace with
  | [] => (⟨[],true,true⟩,old)
  | first::tail =>
    let signed := first=45 || first=43
    let body := if signed then tail else first::tail
    let digits := body.takeWhile isDigit
    let rest := body.dropWhile isDigit
    let magnitude : ℤ := digitsValue digits
    let number := if first=45 then -magnitude else magnitude
    if digits=[] then (⟨rest,rest.isEmpty,true⟩,0)
    else if 2^31≤number then (⟨rest,rest.isEmpty,true⟩,2^31-1)
    else if number < -2^31 then (⟨rest,rest.isEmpty,true⟩,-2^31)
    else (⟨rest,rest.isEmpty,false⟩,number)

/-- `ss >> value` for a `char`, without its value. -/
def InputStream.readChar (ss : InputStream) : InputStream :=
  if ss.eof || ss.fail then {ss with fail := true} else
  match ss.rest.dropWhile isCSpace with
  | [] => ⟨[],true,true⟩
  | _::rest => {ss with rest := rest}

/-- `string2LORAWAN_VERSION`. -/
def string2LORAWAN_VERSION (value : Bytes) : LorawanVersion :=
  let ss : InputStream := ⟨value,false,false⟩
  let (ss,ma) := if ss.eof then (ss,1) else ss.readInt 1
  let ss := if ss.eof then ss else ss.readChar
  let (ss,mi) := if ss.eof then (ss,0) else ss.readInt 0
  let ss := if ss.eof then ss else ss.readChar
  let (_,re) := if ss.eof then (ss,0) else ss.readInt 0
  ⟨BitVec.ofInt 2 ma,BitVec.ofInt 2 mi,BitVec.ofInt 4 re⟩

/-- A printed digit reads as itself. -/
theorem hexDigit_hexChar {digit : ℕ} (h : digit<16) : hexDigit? (hexChar digit)=some digit := by
  interval_cases digit <;> rfl

/-- What a printed digit is not. -/
theorem hexChar_ne {digit : ℕ} (h : digit<16) : isCSpace (hexChar digit)=false ∧ hexChar digit≠45 ∧
    hexChar digit≠43 ∧ hexChar digit≠120 ∧ hexChar digit≠88 := by
  interval_cases digit <;> decide

/-- Printed digits are digits. -/
theorem hexDigits_hexChar {digits : List ℕ} (h : ∀ digit∈digits,digit<16) :
    hexDigits (digits.map hexChar)=digits := by
  have hall : ∀ byte∈digits.map hexChar,(hexDigit? byte).isSome=true := by
    intro byte hb
    obtain ⟨digit,hd,rfl⟩ := List.mem_map.mp hb
    rw [hexDigit_hexChar (h digit hd)]
    rfl
  rw [hexDigits,List.takeWhile_eq_self_iff.mpr hall,List.filterMap_map]
  calc digits.filterMap (hexDigit?∘hexChar)=digits.filterMap some :=
        List.filterMap_congr fun digit hd => hexDigit_hexChar (h digit hd)
    _=digits := List.filterMap_some

/-- Printed digits start with no sign. -/
theorem takeSign_hexChar {digits : List ℕ} (h : ∀ digit∈digits,digit<16) :
    takeSign ((digits.map hexChar).dropWhile isCSpace)=(false,digits.map hexChar) := by
  cases digits with
  | nil => rfl
  | cons digit rest =>
    obtain ⟨hspace,hminus,hplus,-⟩ := hexChar_ne (h digit List.mem_cons_self)
    rw [List.map_cons,List.dropWhile_cons,hspace,if_neg Bool.false_ne_true]
    unfold takeSign
    split
    · next heq => exact absurd (List.cons.inj heq).1 hminus
    · next heq => exact absurd (List.cons.inj heq).1 hplus
    · rfl

/-- Printed digits have no marker. -/
theorem skipMarker_hexChar {digits : List ℕ} (h : ∀ digit∈digits,digit<16) :
    skipMarker (digits.map hexChar)=digits.map hexChar := by
  unfold skipMarker
  split
  · next x digit rest heq =>
    have hx : x∈digits.map hexChar := by
      rw [heq]
      exact List.mem_cons_of_mem _ List.mem_cons_self
    obtain ⟨second,hs,rfl⟩ := List.mem_map.mp hx
    obtain ⟨-,-,-,hlower,hupper⟩ := hexChar_ne (h second hs)
    rw [if_neg fun hm => hm.1.elim hlower hupper,heq]
  · rfl

/-- Printed digits read as their number. -/
theorem strtol16_hexChar {digits : List ℕ} (h : ∀ digit∈digits,digit<16) (hv : hexNumber digits<2^63) :
    strtol16 (digits.map hexChar)=hexNumber digits := by
  rw [strtol16,takeSign_hexChar h]
  dsimp only
  rw [skipMarker_hexChar h,hexDigits_hexChar h,if_neg Bool.false_ne_true]
  omega

/-- The digits of bytes. -/
def nibbles (buffer : Bytes) : List ℕ := buffer.flatMap fun byte => [byte.toNat/16,byte.toNat%16]

/-- They are digits. -/
theorem nibbles_lt {buffer : Bytes} : ∀ digit∈nibbles buffer,digit<16 := by
  intro digit hd
  obtain ⟨byte,-,hm⟩ := List.mem_flatMap.mp hd
  have hb := byte.toNat_lt
  simp only [List.mem_cons,List.not_mem_nil,or_false] at hm
  omega

/-- Bytes are printed digit by digit. -/
theorem hexString_eq (buffer : Bytes) : hexString buffer=(nibbles buffer).map hexChar := by
  rw [hexString,nibbles,List.map_flatMap]
  rfl

/-- The number of the digits of bytes is the one of the bytes, the first one as
the highest. -/
theorem hexNumber_nibbles (buffer : Bytes) : hexNumber (nibbles buffer)=leValue buffer.reverse := by
  induction buffer using List.reverseRecOn with
  | nil => rfl
  | append_singleton front byte ih =>
    have hb := byte.toNat_lt
    rw [nibbles,List.flatMap_append,← nibbles,hexNumber,List.foldl_append,← hexNumber,ih,List.reverse_append,
      List.reverse_singleton,List.singleton_append,leValue]
    simp only [List.flatMap_cons,List.flatMap_nil,List.append_nil,List.foldl_cons,List.foldl_nil]
    omega

/-- The number of printed bytes. -/
theorem strtol16_hexString {buffer : Bytes} (h : buffer.length≤7) :
    strtol16 (hexString buffer)=leValue buffer.reverse := by
  have hv : hexNumber (nibbles buffer)<2^63 := by
    have hlt := leValue_lt buffer.reverse
    have hpow : 256^buffer.reverse.length≤256^7 := by
      rw [List.length_reverse]
      exact Nat.pow_le_pow_right (by decide) h
    rw [hexNumber_nibbles]
    omega
  rw [hexString_eq,strtol16_hexChar nibbles_lt hv,hexNumber_nibbles]

/-- Printed bytes read back. -/
theorem hex2string_hexString (buffer : Bytes) : hex2string (hexString buffer)=buffer := by
  induction buffer with
  | nil => rfl
  | cons byte rest ih =>
    have hl : [byte].length≤7 := Nat.succ_le_succ (Nat.zero_le 6)
    have hone : strtol16 [hexChar (byte.toNat/16),hexChar (byte.toNat%16)]=leValue [byte] := strtol16_hexString hl
    have hcons : hexString (byte::rest)=hexChar (byte.toNat/16)::hexChar (byte.toNat%16)::hexString rest := rfl
    have hbyte : UInt8.ofInt (leValue [byte] : ℤ)=byte := by
      apply UInt8.toNat_inj.mp
      have hb := byte.toNat_lt
      rw [UInt8.ofInt,UInt8.toNat_ofNat',leValue,leValue]
      omega
    rw [hcons,hex2string,hone,hbyte,ih]

/-- A text of the right size fills its member. -/
theorem copied_of_length {old source : Bytes} {size : ℕ} (ho : old.length= size) (hs : source.length= size)
    (hp : 0< size) : copied old size source=source := by
  have hne : source≠[] := List.ne_nil_of_length_pos (hs ▸ hp)
  rw [copied,if_neg hne,List.take_of_length_le hs.le,hs,List.drop_of_length_le ho.le,List.append_nil]

/-- Printed digits can stand between quotes. -/
theorem isClean_hexString (buffer : Bytes) : ∀ byte∈hexString buffer,JsonEvents.IsClean byte := by
  have hdigit : ∀ digit<16,JsonEvents.IsClean (hexChar digit) := by decide
  intro byte hb
  rw [hexString_eq] at hb
  obtain ⟨digit,hd,rfl⟩ := List.mem_map.mp hb
  exact hdigit digit (nibbles_lt digit hd)

/-- A printed address reads back. -/
theorem string2DEVADDR_print (old value : DEVADDR) : string2DEVADDR old (DEVADDRINT2string value)=value := by
  have hc : copied (leBytes 4 old.toNat) 4 (leBytes 4 value.toNat).reverse=(leBytes 4 value.toNat).reverse :=
    copied_of_length (leBytes_length _ _) (by rw [List.length_reverse,leBytes_length]) (by decide)
  rw [string2DEVADDR,DEVADDRINT2string,hex2string_hexString,hc,List.reverse_reverse,
    leValue_leBytes_of_lt value.toNat_lt,UInt32.ofNat_toNat]

/-- A printed identifier reads back. -/
theorem string2DEVEUI_print (old value : DEVEUI) : string2DEVEUI old (DEVEUI2string value)=value := by
  have hc : copied (leBytes 8 old.toNat) 8 (leBytes 8 value.toNat).reverse=(leBytes 8 value.toNat).reverse :=
    copied_of_length (leBytes_length _ _) (by rw [List.length_reverse,leBytes_length]) (by decide)
  rw [string2DEVEUI,DEVEUI2string,hex2string_hexString,hc,List.reverse_reverse,
    leValue_leBytes_of_lt value.toNat_lt,UInt64.ofNat_toNat]

/-- A printed key reads back. -/
theorem string2KEY_print (old value : KEY128) : string2KEY old (hex2string (KEY2string value))=value := by
  have hl : value.toList.length=16 := Vector.length_toList
  have hc : copied old.toList 16 value.toList=value.toList :=
    copied_of_length Vector.length_toList hl (by decide)
  rw [KEY2string,hex2string_hexString,string2KEY,if_neg (by rw [hl]; decide),hc]
  apply Vector.ext
  intro i hi
  rw [Vector.getElem_ofFn,List.getD_eq_getElem _ _ (by rw [hl]; exact hi),Vector.getElem_toList]

/-- A printed nonce reads back with its two bytes exchanged. -/
theorem string2DEVNONCE_print (value : UInt16) :
    string2DEVNONCE (DEVNONCE2string value)=UInt16.ofNat (swapBytes 2 value.toNat) := by
  have hl : (leBytes 2 value.toNat).length≤7 := by
    rw [leBytes_length]
    decide
  rw [string2DEVNONCE,DEVNONCE2string,strtol16_hexString hl,uint16_ofInt_natCast,swapBytes]

/-- It is the same nonce exactly when the two bytes are equal. -/
theorem devNonce_kept_iff (value : UInt16) :
    string2DEVNONCE (DEVNONCE2string value)=value ↔ value.toNat%256=value.toNat/256 := by
  have hv := value.toNat_lt
  have hhigh : value.toNat/256%256=value.toNat/256 := by omega
  have hswap : swapBytes 2 value.toNat=value.toNat/256+256*(value.toNat%256) := by
    simp only [swapBytes,leBytes,List.reverse_cons,List.reverse_nil,List.nil_append,List.cons_append,leValue,
      UInt8.toNat_ofNat',Nat.reducePow,hhigh,Nat.mul_zero,Nat.add_zero]
  have hlt : value.toNat/256+256*(value.toNat%256)<2^16 := by omega
  rw [string2DEVNONCE_print,← UInt16.toNat_inj,UInt16.toNat_ofNat',hswap,Nat.mod_eq_of_lt hlt]
  omega

/-- A byte of a memory image. -/
theorem ofNat_leValue_div (image : Bytes) (i : ℕ) : UInt8.ofNat (leValue image/256^i)=image.getD i 0 := by
  induction image generalizing i with
  | nil => rw [leValue,Nat.zero_div,List.getD_nil]; rfl
  | cons byte rest ih =>
    have hb := byte.toNat_lt
    cases i with
    | zero =>
      apply UInt8.toNat_inj.mp
      rw [leValue,pow_zero,Nat.div_one,List.getD_cons_zero,UInt8.toNat_ofNat']
      omega
    | succ i =>
      have hdiv : (byte.toNat+256*leValue rest)/256=leValue rest := by omega
      rw [leValue,pow_succ',← Nat.div_div_eq_div_mul,hdiv,ih,List.getD_cons_succ]

/-- A number of 32 bits as an unsigned one. -/
theorem uint32_ofInt_toNat {value : ℕ} (h : value<2^32) : (UInt32.ofInt (value : ℤ)).toNat=value := by
  rw [UInt32.ofInt,UInt32.toNat_ofNat']
  omega

/-- A printed join nonce reads back one byte further, with a zero in front. -/
theorem string2JOINNONCE_print (value : JOINNONCE) :
    string2JOINNONCE (JOINNONCE2string value)=(#v[0,value.get 0,value.get 1] : Vector UInt8 3) := by
  have hlist : value.toList=[value.get 0,value.get 1,value.get 2] := by
    obtain ⟨⟨list⟩,hl⟩ := value
    obtain ⟨a,b,c,rfl⟩ := List.length_eq_three.mp hl
    rfl
  generalize value.get 0=a at hlist ⊢
  generalize value.get 1=b at hlist ⊢
  generalize value.get 2=c at hlist
  have hlen : [a,b,c].length≤7 := Nat.succ_le_succ (Nat.succ_le_succ (Nat.succ_le_succ (Nat.zero_le 4)))
  have hread : strtol16 (JOINNONCE2string value)=leValue [c,b,a] := by
    rw [JOINNONCE2string,hlist]
    exact strtol16_hexString hlen
  have hbound : leValue [c,b,a]<2^32 := (leValue_lt [c,b,a]).trans (by
    rw [List.length_cons,List.length_cons,List.length_singleton]
    decide)
  have hzero : leValue [c,b,a]=leValue [c,b,a,0] := by
    simp only [leValue,UInt8.toNat_zero,Nat.mul_zero,Nat.add_zero]
  have himage : leBytes 4 (leValue [c,b,a,0])=[c,b,a,0] := leBytes_leValue [c,b,a,0]
  have hswap : swapBytes 4 (leValue [c,b,a])=leValue [0,a,b,c] := by
    rw [swapBytes,hzero,himage]
    rfl
  have h0 : UInt8.ofNat (leValue [0,a,b,c])=0 := by
    have h := ofNat_leValue_div [0,a,b,c] 0
    rwa [pow_zero,Nat.div_one] at h
  have h1 : UInt8.ofNat (leValue [0,a,b,c]/2^8)=a := ofNat_leValue_div [0,a,b,c] 1
  have h2 : UInt8.ofNat (leValue [0,a,b,c]/2^16)=b := ofNat_leValue_div [0,a,b,c] 2
  simp only [string2JOINNONCE,hread,uint32_ofInt_toNat hbound,hswap,h0,h1,h2]

/-- It is the same join nonce exactly when it is zero. -/
theorem joinNonce_kept_iff (value : JOINNONCE) :
    string2JOINNONCE (JOINNONCE2string value)=value ↔ value=Vector.replicate 3 0 := by
  rw [string2JOINNONCE_print]
  constructor
  · intro h
    have h0 : (0 : UInt8)=value[0] := congrArg (fun v : Vector UInt8 3 => v[0]) h
    have h1 : value[0]=value[1] := congrArg (fun v : Vector UInt8 3 => v[1]) h
    have h2 : value[1]=value[2] := congrArg (fun v : Vector UInt8 3 => v[2]) h
    apply Vector.ext
    intro i hi
    rw [Vector.getElem_replicate]
    interval_cases i
    · exact h0.symm
    · exact (h0.trans h1).symm
    · exact (h0.trans (h1.trans h2)).symm
  · rintro rfl
    rfl

/-- The versions there are. -/
theorem string2LORAWAN_VERSION_fin : ∀ (major minor : Fin 4) (release : Fin 16),
    string2LORAWAN_VERSION (LORAWAN_VERSION2string ⟨⟨major⟩,⟨minor⟩,⟨release⟩⟩)=⟨⟨major⟩,⟨minor⟩,⟨release⟩⟩ := by
  decide +kernel

/-- A printed version reads back. -/
theorem string2LORAWAN_VERSION_print (value : LorawanVersion) :
    string2LORAWAN_VERSION (LORAWAN_VERSION2string value)=value :=
  string2LORAWAN_VERSION_fin value.major.toFin value.minor.toFin value.release.toFin

/-- A printed version can stand between quotes. -/
theorem isClean_version (value : LorawanVersion) : ∀ byte∈LORAWAN_VERSION2string value,JsonEvents.IsClean byte := by
  intro byte hb
  rw [LORAWAN_VERSION2string,List.mem_append,List.mem_cons,List.mem_append,List.mem_cons] at hb
  rcases hb with hb|rfl|hb|rfl|hb
  · exact JsonEvents.isClean_decimal _ byte hb
  · decide
  · exact JsonEvents.isClean_decimal _ byte hb
  · decide
  · exact JsonEvents.isClean_decimal _ byte hb

/-- A text without a zero byte is a name padded with zeros. -/
theorem toList_string2DEVICENAME {str : Bytes} (hz : 0∉str) :
    (string2DEVICENAME str).toList=str.take 8++List.replicate (8-str.length) 0 := by
  rw [string2DEVICENAME,cString_eq_self hz]
  apply List.ext_getElem
  · rw [Vector.length_toList,List.length_append,List.length_take,List.length_replicate]
    omega
  · intro i hi hj
    rw [Vector.getElem_toList,Vector.getElem_ofFn]
    rw [Vector.length_toList] at hi
    by_cases hl : i<str.length
    · have ht : i<(str.take 8).length := by
        rw [List.length_take]
        omega
      rw [List.getElem_append_left ht,List.getElem_take,List.getD_eq_getElem _ _ hl]
    · have ht : (str.take 8).length≤ i := by
        rw [List.length_take]
        omega
      rw [List.getElem_append_right ht,List.getElem_replicate,List.getD_eq_default _ _ (Nat.le_of_not_lt hl)]

/-- A name without bytes behind its first zero. -/
def IsPadded (name : DEVICENAME) : Prop := ∀ byte∈name.toList.dropWhile (· ≠ 0),byte=0

instance (name : DEVICENAME) : Decidable (IsPadded name) := inferInstanceAs (Decidable (∀ byte∈_,_))

/-- The text of a name has no zero byte. -/
theorem zero_notMem_cString (text : Bytes) : 0∉cString text := by
  intro h
  have hz := List.mem_takeWhile_imp h
  exact absurd hz (by decide)

/-- A printed name reads back exactly when it is padded with zeros. -/
theorem deviceName_kept_iff (name : DEVICENAME) : string2DEVICENAME (DEVICENAME2string name)=name ↔ IsPadded name := by
  have hl : name.toList.length=8 := Vector.length_toList
  have hsplit : cString name.toList++name.toList.dropWhile (· ≠ 0)=name.toList := List.takeWhile_append_dropWhile
  have hlen := congrArg List.length hsplit
  rw [List.length_append,hl] at hlen
  have hprint := toList_string2DEVICENAME (zero_notMem_cString name.toList)
  rw [List.take_of_length_le (by omega)] at hprint
  have hiff : string2DEVICENAME (DEVICENAME2string name)=name ↔
      List.replicate (8-(cString name.toList).length) 0=name.toList.dropWhile (· ≠ 0) := by
    rw [← Vector.toList_inj,DEVICENAME2string,hprint]
    conv_lhs => rhs; rw [← hsplit]
    exact List.append_right_inj _
  rw [hiff,IsPadded,eq_comm,List.eq_replicate_iff]
  exact and_iff_right (by omega)

/-- A name that is read is a front part of its text. -/
theorem deviceName_prefix (text : Bytes) : DEVICENAME2string (string2DEVICENAME (cString text))<+:text := by
  have hz := zero_notMem_cString text
  have hall : ∀ byte∈(cString text).take 8,decide (byte≠0)=true := by
    intro byte hb
    refine decide_eq_true ?_
    rintro rfl
    exact hz (List.mem_of_mem_take hb)
  have hzeros : ∀ count : ℕ,(List.replicate count (0 : UInt8)).takeWhile (· ≠ 0)=[] := by
    intro count
    cases count <;> rfl
  rw [DEVICENAME2string,toList_string2DEVICENAME hz,cString,List.takeWhile_append_of_pos hall,hzeros,List.append_nil]
  exact (List.take_prefix 8 _).trans (List.takeWhile_prefix _)

end LorawanServer.IdentityText
