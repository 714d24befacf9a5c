import LorawanServer.DeviceAddress
import LorawanServer.IdentityText

/-!
# Identifiers and their texts

What `utilstring.cpp` and `utillora.cpp` print for bytes, addresses, identifiers,
keys and join nonces, they read back. A text of another length is where the
codecs differ from their purpose: the rest of a member that a text does not fill
is cleared only when the text is empty, and keeps what it held otherwise.
-/

namespace LorawanServer.IdentifierCodecs

open CppRuntime Records DeviceAddress IdentityText

/-- `DEVADDR2string`. -/
def DEVADDR2string (value : DEVADDR) : Bytes := hexString (leBytes 4 (swapBytes 4 value.toNat))

/-- `string2NETID` over the old identifier of a network. -/
def string2NETID (old : NETID) (value : Bytes) : NETID :=
  Vector.ofFn fun i => (copied old.toList 3 (hex2string (cString value))).getD i 0

/-- `string2JOINNONCE` of a `const char *`, over the old nonce. -/
def charsToJOINNONCE (old : JOINNONCE) (value : Bytes) : JOINNONCE :=
  Vector.ofFn fun i => (copied old.toList 3 (hex2string (cString value))).getD i 0

/-- Bytes cut to a size, or with zeros for the missing ones. -/
def padded (size : ℕ) (source : Bytes) : Bytes := source.take size++List.replicate (size-source.length) 0

/-- What is printed is read back. -/
structure Inverse : Prop where
  /-- Any bytes. -/
  bytes : ∀ s,hex2string (hexString s)=s
  /-- An address. -/
  devaddr : ∀ old value,string2DEVADDR old (DEVADDR2string value)=value
  /-- The same address as a map has it. -/
  devaddrInt : ∀ old value,string2DEVADDR old (DEVADDRINT2string value)=value
  /-- An identifier of a device. -/
  deveui : ∀ old value,string2DEVEUI old (DEVEUI2string value)=value
  /-- A key. -/
  key : ∀ old value,string2KEY old (KEY2string value)=value
  /-- A join nonce. -/
  joinNonce : ∀ old value,charsToJOINNONCE old (JOINNONCE2string value)=value

/-- What a text stores is a matter of the text, with zeros for missing bytes. -/
structure SelfContained (text : Bytes) : Prop where
  /-- An address. -/
  devaddr : ∀ old,string2DEVADDR old text=UInt32.ofNat (leValue (padded 4 (hex2string text)).reverse)
  /-- An identifier of a device. -/
  deveui : ∀ old,string2DEVEUI old text=UInt64.ofNat (leValue (padded 8 (hex2string text)).reverse)
  /-- A key, whose short text is not hexadecimal. -/
  key : ∀ old,string2KEY old text=
    Vector.ofFn fun i => (padded 16 (if 16<text.length then hex2string text else text)).getD i 0
  /-- An identifier of a network. -/
  netid : ∀ old,string2NETID old text=Vector.ofFn fun i => (padded 3 (hex2string (cString text))).getD i 0

/-- A text that leaves nothing of a member, or all of it. -/
structure Fills (text : Bytes) : Prop where
  /-- Eight digits of an address. -/
  devaddr : text.length<2 ∨ 8≤text.length
  /-- Sixteen digits of an identifier. -/
  deveui : text.length<2 ∨ 16≤text.length
  /-- Sixteen characters or thirty-two digits of a key. -/
  key : text.length=0 ∨ text.length=16 ∨ 32≤text.length
  /-- Six digits of a network in front of the first zero byte. -/
  netid : (cString text).length<2 ∨ 6≤(cString text).length

/-- A member of the given size: its bytes before a store, and the value that its
bytes are afterwards. -/
structure Layout (α : Type*) (size : ℕ) where
  /-- The bytes in memory. -/
  image : α → Bytes
  /-- The value of what was stored. -/
  value : Bytes → α
  /-- There are as many bytes as the size says. -/
  image_length : ∀ old,(image old).length= size
  /-- All bytes can be there. -/
  image_surjective : ∀ bytes : Bytes,bytes.length= size → ∃ old,image old=bytes
  /-- Different bytes are different values. -/
  value_injective : ∀ first second : Bytes,first.length= size → second.length= size →
    value first=value second → first=second

/-- A copy of bytes over a member and the clearing behind it. -/
def Layout.store {α : Type*} {size : ℕ} (L : Layout α size) (old : α) (source : Bytes) : α :=
  L.value (copied (L.image old) size source)

/-- What the padded bytes are one of. -/
theorem padded_length (size : ℕ) (source : Bytes) : (padded size source).length= size := by
  rw [padded,List.length_append,List.length_take,List.length_replicate]
  omega

/-- So are the bytes of a member after a copy. -/
theorem copied_length {old : Bytes} {size : ℕ} (ho : old.length= size) (source : Bytes) :
    (copied old size source).length= size := by
  rw [copied]
  split
  · exact List.length_replicate
  · rw [List.length_append,List.length_take,List.length_drop,ho]
    omega

/-- A copy pads the bytes for every old member exactly when nothing is copied or
everything is. -/
theorem copied_padded_iff {size : ℕ} {source : Bytes} :
    (∀ old : Bytes,old.length= size → copied old size source=padded size source) ↔
      source=[] ∨ size≤ source.length := by
  constructor
  · intro h
    by_contra hpartial
    obtain ⟨hne,hlt⟩ := not_or.mp hpartial
    have hold := h (List.replicate size 255) List.length_replicate
    have htake : source.take size=source := List.take_of_length_le (not_le.mp hlt).le
    rw [copied,if_neg hne,padded,htake,List.append_cancel_left_eq,List.drop_replicate] at hold
    have hsome : 0<size-source.length := Nat.sub_pos_of_lt (not_le.mp hlt)
    obtain ⟨n,hn⟩ := Nat.exists_eq_succ_of_ne_zero hsome.ne'
    rw [hn,List.replicate_succ,List.replicate_succ] at hold
    exact absurd (List.cons.inj hold).1 (by decide)
  · intro h old ho
    rw [copied,padded]
    rcases h with rfl|hle
    · rw [if_pos rfl,List.take_nil,List.nil_append,List.length_nil,Nat.sub_zero]
    · by_cases hnil : source=[]
      · rw [if_pos hnil,hnil,List.take_nil,List.nil_append,List.length_nil,Nat.sub_zero]
      · have htake : (source.take size).length= size := List.length_take_of_le hle
        rw [if_neg hnil,htake,List.drop_of_length_le ho.le,Nat.sub_eq_zero_of_le hle,List.replicate_zero]

/-- The same for values. -/
theorem Layout.store_padded_iff {α : Type*} {size : ℕ} (L : Layout α size) {source : Bytes} :
    (∀ old,L.store old source=L.value (padded size source)) ↔ source=[] ∨ size≤ source.length := by
  rw [← copied_padded_iff]
  constructor
  · intro h bytes hb
    obtain ⟨old,rfl⟩ := L.image_surjective bytes hb
    exact L.value_injective _ _ (copied_length hb source) (padded_length size source) (h old)
  · intro h old
    rw [Layout.store,h (L.image old) (L.image_length old)]

/-- A member that is an array of bytes. -/
def arrayLayout (size : ℕ) : Layout (Vector UInt8 size) size where
  image := Vector.toList
  value bytes := Vector.ofFn fun i => bytes.getD i 0
  image_length _ := Vector.length_toList
  image_surjective bytes hb := ⟨⟨bytes.toArray,hb⟩,rfl⟩
  value_injective first second hf hs h := by
    refine List.ext_getElem (hf.trans hs.symm) fun i hi hj => ?_
    have hsize : i< size := hf ▸ hi
    have hget := congrArg (fun v : Vector UInt8 size => v[i]) h
    simpa only [Vector.getElem_ofFn,List.getD_eq_getElem _ _ hi,List.getD_eq_getElem _ _ hj] using hget

/-- Bytes from the highest one on are their number. -/
theorem leValue_reverse_injective {size : ℕ} {first second : Bytes} (hf : first.length= size)
    (hs : second.length= size) (h : leValue first.reverse=leValue second.reverse) : first=second := by
  have hfirst := leBytes_leValue first.reverse
  have hsecond := leBytes_leValue second.reverse
  rw [List.length_reverse,hf,h] at hfirst
  rw [List.length_reverse,hs] at hsecond
  exact List.reverse_inj.mp (hfirst.symm.trans hsecond)

/-- Bytes of a size bound their number. -/
theorem leValue_lt_of_length {bytes : Bytes} {size : ℕ} (h : bytes.length= size) : leValue bytes<256^size :=
  h ▸ leValue_lt bytes

/-- An address, which is turned around after the store. -/
def devaddrLayout : Layout DEVADDR 4 where
  image old := leBytes 4 old.toNat
  value bytes := UInt32.ofNat (leValue bytes.reverse)
  image_length _ := leBytes_length _ _
  image_surjective bytes hb := by
    have hlt : leValue bytes<2^32 := leValue_lt_of_length hb
    refine ⟨UInt32.ofNat (leValue bytes),?_⟩
    rw [UInt32.toNat_ofNat_of_lt' hlt,← hb]
    exact leBytes_leValue bytes
  value_injective first second hf hs h := by
    have hone : leValue first.reverse<2^32 := leValue_lt_of_length (List.length_reverse.trans hf)
    have htwo : leValue second.reverse<2^32 := leValue_lt_of_length (List.length_reverse.trans hs)
    have hnat := congrArg UInt32.toNat h
    rw [UInt32.toNat_ofNat_of_lt' hone,UInt32.toNat_ofNat_of_lt' htwo] at hnat
    exact leValue_reverse_injective hf hs hnat

/-- An identifier of a device, which is turned around after the store. -/
def deveuiLayout : Layout DEVEUI 8 where
  image old := leBytes 8 old.toNat
  value bytes := UInt64.ofNat (leValue bytes.reverse)
  image_length _ := leBytes_length _ _
  image_surjective bytes hb := by
    have hlt : leValue bytes<2^64 := leValue_lt_of_length hb
    refine ⟨UInt64.ofNat (leValue bytes),?_⟩
    rw [UInt64.toNat_ofNat_of_lt' hlt,← hb]
    exact leBytes_leValue bytes
  value_injective first second hf hs h := by
    have hone : leValue first.reverse<2^64 := leValue_lt_of_length (List.length_reverse.trans hf)
    have htwo : leValue second.reverse<2^64 := leValue_lt_of_length (List.length_reverse.trans hs)
    have hnat := congrArg UInt64.toNat h
    rw [UInt64.toNat_ofNat_of_lt' hone,UInt64.toNat_ofNat_of_lt' htwo] at hnat
    exact leValue_reverse_injective hf hs hnat

/-- Two digits a byte; a last digit without a partner is dropped. -/
theorem hex2string_length (text : Bytes) : (hex2string text).length=text.length/2 := by
  fun_induction hex2string text with
  | case1 first second rest ih =>
    rw [List.length_cons,ih,List.length_cons,List.length_cons]
    omega
  | case2 text hshort =>
    rcases text with _|⟨first,_|⟨second,rest⟩⟩
    · rfl
    · rw [List.length_nil,List.length_singleton]
    · exact absurd rfl (hshort first second rest)

/-- The digits that fill a member. -/
theorem hex2string_fills_iff (text : Bytes) (size : ℕ) :
    (hex2string text=[] ∨ size≤(hex2string text).length) ↔ text.length<2 ∨ 2*size≤text.length := by
  rw [← List.length_eq_zero_iff,hex2string_length]
  omega

/-- The text of a key that fills it. -/
theorem key_fills_iff (text : Bytes) :
    ((if 16<text.length then hex2string text else text)=[] ∨
        16≤(if 16<text.length then hex2string text else text).length) ↔
      text.length=0 ∨ text.length=16 ∨ 32≤text.length := by
  rw [← List.length_eq_zero_iff]
  split
  · rw [hex2string_length]
    omega
  · omega

/-- The two printed forms of an address are the same. -/
theorem DEVADDR2string_eq (value : DEVADDR) : DEVADDR2string value=DEVADDRINT2string value := by
  have hbytes := leBytes_leValue (leBytes 4 value.toNat).reverse
  rw [List.length_reverse,leBytes_length] at hbytes
  rw [DEVADDR2string,DEVADDRINT2string,swapBytes,hbytes]

/-- Bytes in the order of the memory read back over any array of their size. -/
theorem array_print {size : ℕ} (hp : 0< size) (old value : Vector UInt8 size) :
    (arrayLayout size).store old value.toList=value := by
  have hl : value.toList.length= size := Vector.length_toList
  have hc : copied old.toList size value.toList=value.toList := copied_of_length Vector.length_toList hl hp
  refine Vector.ext fun i hi => ?_
  have hi' : i<value.toList.length := hl.symm ▸ hi
  rw [Layout.store,arrayLayout,hc,Vector.getElem_ofFn,List.getD_eq_getElem _ _ hi',Vector.getElem_toList]

/-- What is printed has no zero byte. -/
theorem cString_hexString (buffer : Bytes) : cString (hexString buffer)=hexString buffer := by
  refine List.takeWhile_eq_self_iff.mpr fun byte hb => ?_
  have hclean := isClean_hexString buffer byte hb
  have hge := hclean.1
  refine decide_eq_true fun hzero => ?_
  rw [hzero] at hge
  exact absurd hge (by decide)

/-- All that is printed is read back. -/
theorem inverse : Inverse where
  bytes := hex2string_hexString
  devaddr old value := by rw [DEVADDR2string_eq,string2DEVADDR_print]
  devaddrInt := string2DEVADDR_print
  deveui := string2DEVEUI_print
  key old value := by
    have hlong : 16<(hexString value.toList).length := by
      rw [hexString_eq,List.length_map,nibbles]
      simp
    rw [KEY2string,string2KEY,if_pos hlong,hex2string_hexString]
    exact array_print (by decide) old value
  joinNonce old value := by
    rw [JOINNONCE2string,charsToJOINNONCE,cString_hexString,hex2string_hexString]
    exact array_print (by decide) old value

/-- What an address makes of a text is a matter of the text when it has no byte
or all four. -/
theorem string2DEVADDR_padded_iff (text : Bytes) :
    (∀ old,string2DEVADDR old text=UInt32.ofNat (leValue (padded 4 (hex2string text)).reverse)) ↔
      text.length<2 ∨ 8≤text.length :=
  devaddrLayout.store_padded_iff.trans (hex2string_fills_iff text _)

/-- So is an identifier of a device with all eight. -/
theorem string2DEVEUI_padded_iff (text : Bytes) :
    (∀ old,string2DEVEUI old text=UInt64.ofNat (leValue (padded 8 (hex2string text)).reverse)) ↔
      text.length<2 ∨ 16≤text.length :=
  deveuiLayout.store_padded_iff.trans (hex2string_fills_iff text _)

/-- So is a key with all sixteen. -/
theorem string2KEY_padded_iff (text : Bytes) :
    (∀ old,string2KEY old text=
        Vector.ofFn fun i => (padded 16 (if 16<text.length then hex2string text else text)).getD i 0) ↔
      text.length=0 ∨ text.length=16 ∨ 32≤text.length :=
  (arrayLayout 16).store_padded_iff.trans (key_fills_iff text)

/-- So is an identifier of a network with all three. -/
theorem string2NETID_padded_iff (text : Bytes) :
    (∀ old,string2NETID old text=Vector.ofFn fun i => (padded 3 (hex2string (cString text))).getD i 0) ↔
      (cString text).length<2 ∨ 6≤(cString text).length :=
  (arrayLayout 3).store_padded_iff.trans (hex2string_fills_iff (cString text) _)

/-- The codecs serve their purpose on a text exactly when it fills what it is
stored in. -/
theorem codecs_iff (text : Bytes) : (Inverse ∧ SelfContained text) ↔ Fills text := by
  constructor
  · intro h
    obtain ⟨-,haddr,heui,hkey,hnet⟩ := h
    exact ⟨(string2DEVADDR_padded_iff text).mp haddr,(string2DEVEUI_padded_iff text).mp heui,
      (string2KEY_padded_iff text).mp hkey,(string2NETID_padded_iff text).mp hnet⟩
  · intro h
    obtain ⟨haddr,heui,hkey,hnet⟩ := h
    exact ⟨inverse,(string2DEVADDR_padded_iff text).mpr haddr,(string2DEVEUI_padded_iff text).mpr heui,
      (string2KEY_padded_iff text).mpr hkey,(string2NETID_padded_iff text).mpr hnet⟩

/-- One byte over an address of ones keeps three of them. -/
theorem oneByte_keeps : ¬ (Inverse ∧ ∀ text,SelfContained text) := by
  intro h
  have hstored := (h.2 (ascii "01")).devaddr 0xffffffff
  exact absurd hstored (by decide +kernel)

end LorawanServer.IdentifierCodecs
