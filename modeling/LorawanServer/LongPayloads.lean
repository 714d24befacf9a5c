import LorawanServer.FrameCrypto

/-!
# Payloads on both sides of 256 bytes

The loop of `encryptPayload` counts the bytes left in an `int` and the position
in a `uint8_t`. The position only ever names the first 256 bytes of the text,
so a longer payload leaves with its tail in clear while its head is enciphered
again. The stream equation therefore holds under every block cipher exactly
for the payloads of at most 256 bytes.
-/

namespace LorawanServer.LongPayloads

open CppRuntime Keystream Records FrameCrypto

/-- The buffer index always stands at a block of the first 256 bytes. -/
def BlockIndex (bufferIndex : ℕ) : Prop := bufferIndex%16=0 ∧ bufferIndex<2^8

/-- The loop starts at the first block. -/
theorem BlockIndex.zero : BlockIndex 0 := ⟨rfl,by decide⟩

/-- Sixteen more, modulo 256, is a block again. -/
theorem BlockIndex.next {bufferIndex : ℕ} (h : BlockIndex bufferIndex) : BlockIndex ((bufferIndex+16)%2^8) := by
  obtain ⟨hm,hlt⟩ := h
  exact ⟨by omega,by omega⟩

/-- A round of at most sixteen bytes stays within the first 256. -/
theorem BlockIndex.xorBlock_getD {bufferIndex count i : ℕ} (h : BlockIndex bufferIndex) (hc : count≤16)
    (hi : 256 ≤ i) (text : Bytes) (block : Vector UInt8 16) (buffer : Bytes) :
    (xorBlock text block bufferIndex count buffer).getD i 0=buffer.getD i 0 := by
  obtain ⟨hm,hlt⟩ := h
  rw [Keystream.xorBlock_getD,if_neg (by omega)]

/-- However many blocks the loop runs over, its index stays at a block and
every byte past the first 256 keeps its value. -/
theorem BlockIndex.xorBlocks {bufferIndex : ℕ} (h : BlockIndex bufferIndex)
    (keyBlock : ℕ → Vector UInt8 16) (text : Bytes) (blocks ctr : ℕ) (buffer : Bytes) :
    BlockIndex (xorBlocks keyBlock text blocks ctr bufferIndex buffer).2.1 ∧
      ∀ i,256 ≤ i → (xorBlocks keyBlock text blocks ctr bufferIndex buffer).2.2.getD i 0=buffer.getD i 0 := by
  induction blocks generalizing ctr bufferIndex buffer with
  | zero => exact ⟨h,fun _ _ => rfl⟩
  | succ blocks ih =>
    obtain ⟨hindex,hkept⟩ := ih h.next ((ctr+1)%2^16)
      (xorBlock text (keyBlock ctr) bufferIndex 16 buffer)
    refine ⟨hindex,fun i hi => ?_⟩
    rw [Keystream.xorBlocks,hkept i hi]
    exact h.xorBlock_getD le_rfl hi text (keyBlock ctr) buffer

/-- From its 257th byte on, every payload is sent in clear, under every block
cipher. -/
theorem encryptPayload_getD_of_le (crypto : Crypto) (payload : Bytes) (frameCounter : ℕ) (direction : UInt8)
    (devAddr : DEVADDR) (key : KEY128) {i : ℕ} (hi : 256 ≤ i) :
    (encryptPayload crypto payload frameCounter direction devAddr key).getD i 0=payload.getD i 0 := by
  obtain ⟨hindex,hkept⟩ := BlockIndex.zero.xorBlocks
    (fun ctr => crypto.aesEncrypt key (blockA frameCounter direction devAddr ctr)) payload
    ((toInt32 payload.length).toNat/16) 1 payload
  dsimp only [encryptPayload]
  split
  · rw [hindex.xorBlock_getD (Nat.mod_lt _ (by decide)).le hi,hkept i hi]
  · exact hkept i hi

/-- Every byte of the payload leaves with the byte of its position in the
keystream, and a second pass restores the payload. -/
def Enciphers (crypto : Crypto) (payload : Bytes) (frameCounter : ℕ) (direction : UInt8) (devAddr : DEVADDR)
    (key : KEY128) : Prop :=
  encryptPayload crypto payload frameCounter direction devAddr key=
      xorStream (payloadStream crypto frameCounter direction devAddr key) payload ∧
    decryptPayload crypto (encryptPayload crypto payload frameCounter direction devAddr key)
      frameCounter direction devAddr key=payload

/-- Up to 256 bytes both equations hold. -/
theorem enciphers_of_le {payload : Bytes} (h : payload.length≤256) (crypto : Crypto) (frameCounter : ℕ)
    (direction : UInt8) (devAddr : DEVADDR) (key : KEY128) :
    Enciphers crypto payload frameCounter direction devAddr key := by
  have hstream := encryptPayload_eq_xorStream crypto h frameCounter direction devAddr key
  refine ⟨hstream,?_⟩
  have hlength : (xorStream (payloadStream crypto frameCounter direction devAddr key) payload).length≤256 := by
    rwa [xorStream_length]
  rw [decryptPayload,hstream,encryptPayload_eq_xorStream crypto hlength]
  exact (xorStream_xorStream_iff _ _ payload).mpr fun _ _ => rfl

/-- A block cipher that answers ones to everything. -/
def onesCrypto : Crypto where
  aesEncrypt _ _ := constBlock 1
  cmac _ _ := constBlock 0

/-- Its keystream is one everywhere. -/
theorem payloadStream_onesCrypto (frameCounter : ℕ) (direction : UInt8) (devAddr : DEVADDR) (key : KEY128)
    (i : ℕ) : payloadStream onesCrypto frameCounter direction devAddr key i=1 := by
  have hlt : i%16<16 := Nat.mod_lt i (by decide)
  change (List.replicate 16 (1 : UInt8)).getD (i%16) 0=1
  rw [List.getD_eq_getElem?_getD,List.getElem?_replicate,if_pos hlt,Option.getD_some]

/-- Past 256 bytes the stream equation fails for this cipher at the 257th
byte, which the cipher would have changed. -/
theorem not_enciphers_of_lt {payload : Bytes} (h : 256<payload.length) (frameCounter : ℕ) (direction : UInt8)
    (devAddr : DEVADDR) (key : KEY128) :
    ¬Enciphers onesCrypto payload frameCounter direction devAddr key := by
  intro henciphers
  have hclear := encryptPayload_getD_of_le onesCrypto payload frameCounter direction devAddr key (le_refl 256)
  have hx : 256<(xorStream (payloadStream onesCrypto frameCounter direction devAddr key) payload).length := by
    rwa [xorStream_length]
  rw [henciphers.1,List.getD_eq_getElem _ _ hx,List.getD_eq_getElem _ _ h,xorStream_getElem _ payload 256 hx h,
    payloadStream_onesCrypto] at hclear
  have hsame : payload[256] ^^^ (1 : UInt8)=payload[256] ^^^ 0 := by rwa [UInt8.xor_zero]
  exact absurd (byte_xor_cancel hsame) (by decide)

/-- A payload is enciphered byte for byte and restored, whatever the block
cipher, exactly when it has at most 256 bytes. -/
theorem enciphers_iff (payload : Bytes) (frameCounter : ℕ) (direction : UInt8) (devAddr : DEVADDR)
    (key : KEY128) :
    (∀ crypto,Enciphers crypto payload frameCounter direction devAddr key) ↔ payload.length≤256 := by
  constructor
  · intro h
    by_contra hlong
    exact not_enciphers_of_lt (Nat.lt_of_not_le hlong) frameCounter direction devAddr key (h onesCrypto)
  · exact fun h crypto => enciphers_of_le h crypto frameCounter direction devAddr key

/-- A payload of 257 zeros keeps its last byte in clear. -/
theorem not_enciphers_zeros :
    ¬∀ (crypto : Crypto) (payload : Bytes) (frameCounter : ℕ) (direction : UInt8) (devAddr : DEVADDR)
      (key : KEY128),Enciphers crypto payload frameCounter direction devAddr key :=
  fun h => @not_enciphers_of_lt (List.replicate 257 0) (by rw [List.length_replicate]; decide)
    0 0 0 (Vector.replicate 16 0) (h onesCrypto _ 0 0 0 (Vector.replicate 16 0))

end LorawanServer.LongPayloads
