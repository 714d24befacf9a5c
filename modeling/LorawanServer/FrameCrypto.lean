import LorawanServer.Keystream
import LorawanServer.Records

/-!
# Frame encryption and message integrity code

`encryptPayload` of `lora-encrypt.cpp` and `calculateMIC` of `utillora.cpp`
over an arbitrary block cipher and an arbitrary CMAC. Payloads up to 256 bytes
are a counter-mode stream cipher; past that the eight-bit buffer index of the
source wraps and the loop no longer reaches the rest of the text. The message
integrity code is the first four bytes of the CMAC of the block B0 and of as
many data bytes as an eight-bit size can name.
-/

namespace LorawanServer.FrameCrypto

open CppRuntime Keystream Records

/-- The two keyed primitives, taken as arbitrary functions. -/
structure Crypto where
  /-- `aes_encrypt` of one block. -/
  aesEncrypt : KEY128 → Vector UInt8 16 → Vector UInt8 16
  /-- `AES_CMAC` of a message. -/
  cmac : KEY128 → Bytes → Vector UInt8 16

/-- Byte of an address in memory order. -/
def addrByte (devAddr : DEVADDR) (i : ℕ) : UInt8 := UInt8.ofNat (devAddr.toNat/256^i)

/-- The counter block A of `encryptPayload`. -/
def blockA (frameCounter : ℕ) (direction : UInt8) (devAddr : DEVADDR) (ctr : ℕ) : Vector UInt8 16 :=
  #v[1,0,0,0,0,direction,addrByte devAddr 0,addrByte devAddr 1,addrByte devAddr 2,
    addrByte devAddr 3,UInt8.ofNat frameCounter,UInt8.ofNat (frameCounter/256),0,0,0,UInt8.ofNat ctr]

/-- `encryptPayload`: whole blocks first, then the rest of the text. The size
is an `int`, so a text of two gigabytes is left alone. -/
def encryptPayload (crypto : Crypto) (payload : Bytes) (frameCounter : ℕ) (direction : UInt8)
    (devAddr : DEVADDR) (key : KEY128) : Bytes :=
  let keyBlock := fun ctr => crypto.aesEncrypt key (blockA frameCounter direction devAddr ctr)
  let size := (toInt32 payload.length).toNat
  let whole := xorBlocks keyBlock payload (size/16) 1 0 payload
  if 0<size%16 then xorBlock payload (keyBlock whole.1) whole.2.1 (size%16) whole.2.2
  else whole.2.2

/-- `decryptPayload` calls `encryptPayload`. -/
def decryptPayload (crypto : Crypto) (payload : Bytes) (frameCounter : ℕ) (direction : UInt8)
    (devAddr : DEVADDR) (key : KEY128) : Bytes :=
  encryptPayload crypto payload frameCounter direction devAddr key

/-- Keystream of one frame under one key. -/
def payloadStream (crypto : Crypto) (frameCounter : ℕ) (direction : UInt8) (devAddr : DEVADDR)
    (key : KEY128) : ℕ → UInt8 :=
  blockStream fun ctr => crypto.aesEncrypt key (blockA frameCounter direction devAddr ctr)

/-- Up to 256 bytes the loop of the source is the stream cipher. -/
theorem encryptPayload_eq_xorStream (crypto : Crypto) {payload : Bytes} (h : payload.length≤256)
    (frameCounter : ℕ) (direction : UInt8) (devAddr : DEVADDR) (key : KEY128) :
    encryptPayload crypto payload frameCounter direction devAddr key=
      xorStream (payloadStream crypto frameCounter direction devAddr key) payload := by
  have hs : (toInt32 payload.length).toNat=payload.length := by
    rw [toInt32_of_lt (by omega),Int.toNat_natCast]
  let keyBlock := fun ctr => crypto.aesEncrypt key (blockA frameCounter direction devAddr ctr)
  have h0 : Enciphered keyBlock payload (16*0) payload :=
    ⟨rfl,fun i _ => by rw [if_neg (by omega)]⟩
  obtain ⟨hc,hi,hb⟩ := xorBlocks_enciphered (payload.length/16) (by omega) h0
  simp only [Nat.zero_add,Nat.mul_zero,Nat.zero_mod] at hc hi hb
  dsimp only [encryptPayload]
  rw [hs]
  split
  · have hm : 16*(payload.length/16)%2^8=16*(payload.length/16) := by omega
    rw [hc,hi,hm]
    exact (xorBlock_enciphered (by omega) hb).eq_xorStream (by omega)
  · exact hb.eq_xorStream (by omega)

/-- Within one counter block number the keystream comes from that block. -/
theorem payloadStream_zero (crypto : Crypto) (frameCounter : ℕ) (direction : UInt8)
    (devAddr : DEVADDR) (key : KEY128) :
    payloadStream crypto frameCounter direction devAddr key 0=
      (crypto.aesEncrypt key (blockA frameCounter direction devAddr 1)).toList.getD 0 0 := rfl

/-- The block B0 that precedes the message in the CMAC. -/
def blockB (frameCounter : ℕ) (direction : UInt8) (devAddr : DEVADDR) (size : UInt8) : Bytes :=
  [0x49,0,0,0,0,direction,addrByte devAddr 0,addrByte devAddr 1,addrByte devAddr 2,
    addrByte devAddr 3,UInt8.ofNat frameCounter,UInt8.ofNat (frameCounter/256),0,0,0,size]

/-- First four bytes of a CMAC, read as the `uint32_t` the code returns. -/
def micOf (mac : Vector UInt8 16) : UInt32 := UInt32.ofNat (leValue (mac.toList.take 4))

/-- `calculateMIC`: the size is an `unsigned char` and bounds the bytes read. -/
def calculateMIC (crypto : Crypto) (data : Bytes) (size : UInt8) (frameCounter : ℕ)
    (direction : UInt8) (devAddr : DEVADDR) (key : KEY128) : UInt32 :=
  micOf (crypto.cmac key (blockB frameCounter direction devAddr size++data.take size.toNat))

/-- `getMic`: the last four bytes of the frame. -/
def getMic (data : Bytes) : UInt32 := UInt32.ofNat (leValue (data.drop (data.length-4)))

/-- The four bytes appended to a frame are the first four bytes of the CMAC. -/
theorem leBytes_micOf (mac : Vector UInt8 16) : leBytes 4 (micOf mac).toNat=mac.toList.take 4 :=
  leBytes_ofNat_leValue (by rw [List.length_take,Vector.length_toList]; rfl)

/-- The code at the end of a frame is the one that was appended. -/
theorem getMic_append (body : Bytes) (mic : UInt32) :
    getMic (body++leBytes 4 mic.toNat)=mic := by
  have hd : (body++leBytes 4 mic.toNat).drop ((body++leBytes 4 mic.toNat).length-4)=
      leBytes 4 mic.toNat := by
    rw [List.length_append,leBytes_length,Nat.add_sub_cancel,List.drop_left]
  have hv : leValue (leBytes 4 mic.toNat)=mic.toNat := leValue_leBytes_of_lt mic.toNat_lt
  rw [getMic,hd,hv,UInt32.ofNat_toNat]

/-- A received code matches a CMAC exactly when its four bytes do. -/
theorem getMic_eq_micOf_iff {data : Bytes} (h : 4≤data.length) (mac : Vector UInt8 16) :
    getMic data=micOf mac ↔ data.drop (data.length-4)=mac.toList.take 4 := by
  have hl : (data.drop (data.length-4)).length=4 := by
    rw [List.length_drop]
    omega
  have hg : leBytes 4 (getMic data).toNat=data.drop (data.length-4) := leBytes_ofNat_leValue hl
  constructor
  · intro he
    rw [←hg,he,leBytes_micOf]
  · intro he
    rw [getMic,micOf,he]

/-- Sixteen equal bytes, the output of the separating primitives below. -/
def constBlock (byte : UInt8) : Vector UInt8 16 := Vector.replicate 16 byte

/-- Primitives that answer ones at a single chosen input and zeros elsewhere.
They separate any two distinct inputs of an abstract primitive. -/
def spotCrypto (aesKey : KEY128) (block : Vector UInt8 16) (macKey : KEY128) (message : Bytes) :
    Crypto where
  aesEncrypt key input := if key=aesKey ∧ input=block then constBlock 1 else constBlock 0
  cmac key input := if key=macKey ∧ input=message then constBlock 1 else constBlock 0

/-- Two messages that every keyed hash treats alike are equal, also where only
a part of the hash is kept. -/
theorem cmac_forall_iff {α : Type} {part : Vector UInt8 16 → α} (hpart : part (constBlock 1)≠part (constBlock 0))
    (key : KEY128) (left right : Bytes) :
    (∀ crypto : Crypto,part (crypto.cmac key left)=part (crypto.cmac key right)) ↔ left=right := by
  constructor
  · intro h
    by_contra hne
    have hspot := h (spotCrypto key (constBlock 0) key left)
    dsimp only [spotCrypto] at hspot
    rw [if_pos ⟨rfl,rfl⟩,if_neg fun hboth => hne hboth.2.symm] at hspot
    exact hpart hspot
  · rintro rfl crypto
    rfl

end LorawanServer.FrameCrypto
