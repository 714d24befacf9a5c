import LorawanServer.CppRuntime

/-!
# Stream ciphers over byte strings

A stream cipher adds one keystream byte to each text byte. Applying the same
stream twice restores the text, and two streams treat a text alike exactly
when they agree on every byte that the text covers. The in-place block loop of
a counter-mode implementation is stated here once, with the block index that
an eight-bit buffer index can carry.
-/

namespace LorawanServer.Keystream

open CppRuntime

/-- Add the keystream byte of its position to every byte of the text. -/
def xorStream (stream : ℕ → UInt8) (text : Bytes) : Bytes :=
  text.mapIdx fun i byte => byte^^^stream i

/-- A stream cipher keeps the length of the text. -/
@[simp] theorem xorStream_length (stream : ℕ → UInt8) (text : Bytes) :
    (xorStream stream text).length=text.length := List.length_mapIdx

/-- Each enciphered byte depends on its own text byte and position only. -/
theorem xorStream_getElem (stream : ℕ → UInt8) (text : Bytes) (i : ℕ)
    (h : i<(xorStream stream text).length) (ht : i<text.length) :
    (xorStream stream text)[i]=text[i] ^^^ stream i := by
  simp only [xorStream,List.getElem_mapIdx]

/-- Adding a keystream byte on the left can be cancelled. -/
theorem byte_xor_cancel {text left right : UInt8} (h : text^^^left=text^^^right) : left=right := by
  have hx := congrArg (fun byte => text^^^byte) h
  simpa only [←UInt8.xor_assoc,UInt8.xor_self,UInt8.zero_xor] using hx

/-- Two streams encipher a text alike exactly when they agree on it. -/
theorem xorStream_congr_iff (left right : ℕ → UInt8) (text : Bytes) :
    xorStream left text=xorStream right text ↔ ∀ i<text.length,left i=right i := by
  constructor
  · intro he i hi
    have hb := List.getElem_of_eq he (by rwa [xorStream_length])
    rw [xorStream_getElem left text i _ hi,xorStream_getElem right text i _ hi] at hb
    exact byte_xor_cancel hb
  · intro ha
    apply List.ext_getElem
    · simp only [xorStream_length]
    · intro i hl hr
      rw [xorStream_length] at hl
      rw [xorStream_getElem left text i _ hl,xorStream_getElem right text i _ hl,ha i hl]

/-- Deciphering with the same stream restores the text. -/
theorem xorStream_self (stream : ℕ → UInt8) (text : Bytes) : xorStream stream (xorStream stream text)=text := by
  apply List.ext_getElem
  · simp only [xorStream_length]
  · intro i hl hr
    rw [xorStream_getElem stream _ i _ (by rwa [xorStream_length]),xorStream_getElem stream text i _ hr,
      UInt8.xor_assoc,UInt8.xor_self,UInt8.xor_zero]

/-- Deciphering with a second stream restores the text exactly when both
streams agree on it. -/
theorem xorStream_xorStream_iff (left right : ℕ → UInt8) (text : Bytes) :
    xorStream right (xorStream left text)=text ↔ ∀ i<text.length,left i=right i := by
  have hc := xorStream_congr_iff right left (xorStream left text)
  rw [xorStream_self,xorStream_length] at hc
  exact hc.trans (forall₂_congr fun i _ => eq_comm)

/-- A text is left unchanged exactly by streams that are zero on it. -/
theorem xorStream_fixed_iff (stream : ℕ → UInt8) (text : Bytes) :
    xorStream stream text=text ↔ ∀ i<text.length,stream i=0 := by
  have hz : xorStream (fun _ => 0) text=text := by
    apply List.ext_getElem
    · simp only [xorStream_length]
    · intro i _ hi
      rw [xorStream_getElem _ text i _ hi,UInt8.xor_zero]
  have hc := xorStream_congr_iff stream (fun _ => 0) text
  rwa [hz] at hc

/-- One block of the in-place loop: positions from the buffer index on get the
text byte with the key block byte added. -/
def xorBlock (text : Bytes) (block : Vector UInt8 16) (bufferIndex count : ℕ) (buffer : Bytes) : Bytes :=
  (List.range count).foldl (fun out i =>
    out.set (bufferIndex+i) (text.getD (bufferIndex+i) 0^^^block.toList.getD i 0)) buffer

/-- The block loop keeps the length of the buffer. -/
@[simp] theorem xorBlock_length (text : Bytes) (block : Vector UInt8 16) (bufferIndex count : ℕ)
    (buffer : Bytes) : (xorBlock text block bufferIndex count buffer).length=buffer.length := by
  induction count with
  | zero => rfl
  | succ count ih =>
    rw [xorBlock] at ih ⊢
    rw [List.range_succ,List.foldl_append,List.foldl_cons,List.foldl_nil,List.length_set,ih]

/-- Content of the buffer after one block. -/
theorem xorBlock_getD (text : Bytes) (block : Vector UInt8 16) (bufferIndex count : ℕ)
    (buffer : Bytes) (i : ℕ) :
    (xorBlock text block bufferIndex count buffer).getD i 0=
      if bufferIndex ≤ i ∧ i<bufferIndex+count ∧ i<buffer.length then
        text.getD i 0^^^block.toList.getD (i-bufferIndex) 0 else buffer.getD i 0 := by
  induction count with
  | zero =>
    rw [if_neg (by omega)]
    rfl
  | succ count ih =>
    have hs : xorBlock text block bufferIndex (count+1) buffer=
        (xorBlock text block bufferIndex count buffer).set (bufferIndex+count)
          (text.getD (bufferIndex+count) 0^^^block.toList.getD count 0) := by
      simp only [xorBlock,List.range_succ,List.foldl_append,List.foldl_cons,List.foldl_nil]
    rw [hs,List.getD_eq_getElem?_getD,List.getElem?_set,xorBlock_length]
    by_cases hi : bufferIndex+count=i
    · subst hi
      by_cases hb : bufferIndex+count<buffer.length
      · rw [if_pos rfl,if_pos hb,if_pos (by omega),Nat.add_sub_cancel_left]
        rfl
      · have hn : buffer[bufferIndex+count]?=none := List.getElem?_eq_none (by omega)
        rw [if_pos rfl,if_neg hb,if_neg (by omega),List.getD_eq_getElem?_getD,hn]
    · rw [if_neg hi,←List.getD_eq_getElem?_getD,ih]
      by_cases hc : bufferIndex ≤ i ∧ i<bufferIndex+count ∧ i<buffer.length
      · rw [if_pos hc,if_pos (by omega)]
      · rw [if_neg hc,if_neg (by omega)]

/-- Whole blocks of the in-place loop: a sixteen-bit block counter and an
eight-bit buffer index, both wrapping. The result carries the final counter,
index and buffer. -/
def xorBlocks (keyBlock : ℕ → Vector UInt8 16) (text : Bytes) : ℕ → ℕ → ℕ → Bytes → ℕ×ℕ×Bytes
  | 0,ctr,bufferIndex,buffer => (ctr,bufferIndex,buffer)
  | blocks+1,ctr,bufferIndex,buffer =>
    xorBlocks keyBlock text blocks ((ctr+1)%2^16) ((bufferIndex+16)%2^8)
      (xorBlock text (keyBlock ctr) bufferIndex 16 buffer)

/-- Keystream byte of a position under a block function. -/
def blockStream (keyBlock : ℕ → Vector UInt8 16) (i : ℕ) : UInt8 :=
  (keyBlock (i/16+1)).toList.getD (i%16) 0

/-- Progress of the loop: every position before the limit is enciphered and
every later one still holds its text byte. -/
def Enciphered (keyBlock : ℕ → Vector UInt8 16) (text : Bytes) (limit : ℕ) (buffer : Bytes) : Prop :=
  buffer.length=text.length ∧ ∀ i<text.length,buffer.getD i 0=
    if i<limit then text.getD i 0^^^blockStream keyBlock i else text.getD i 0

/-- One block carries the progress from its first position to its last. -/
theorem xorBlock_enciphered {keyBlock : ℕ → Vector UInt8 16} {text buffer : Bytes} {k count : ℕ}
    (hc : count≤16) (h : Enciphered keyBlock text (16*k) buffer) :
    Enciphered keyBlock text (16*k+count) (xorBlock text (keyBlock (k+1)) (16*k) count buffer) := by
  refine ⟨by rw [xorBlock_length,h.1],fun i hi => ?_⟩
  rw [xorBlock_getD,h.1]
  by_cases hin : 16*k ≤ i ∧ i<16*k+count ∧ i<text.length
  · have hq : i/16=k := by omega
    have hr : i%16=i-16*k := by omega
    rw [if_pos hin,if_pos hin.2.1,blockStream,hq,hr]
  · rw [if_neg hin,h.2 i hi]
    by_cases hl : i<16*k
    · rw [if_pos hl,if_pos (by omega)]
    · rw [if_neg hl,if_neg (by omega)]

/-- While the buffer index does not wrap, whole blocks keep the progress. -/
theorem xorBlocks_enciphered {keyBlock : ℕ → Vector UInt8 16} {text : Bytes} (blocks : ℕ)
    {k : ℕ} {buffer : Bytes} (hk : 16*(k+blocks)≤256)
    (h : Enciphered keyBlock text (16*k) buffer) :
    (xorBlocks keyBlock text blocks (k+1) (16*k%2^8) buffer).1=k+blocks+1 ∧
      (xorBlocks keyBlock text blocks (k+1) (16*k%2^8) buffer).2.1=16*(k+blocks)%2^8 ∧
      Enciphered keyBlock text (16*(k+blocks))
        (xorBlocks keyBlock text blocks (k+1) (16*k%2^8) buffer).2.2 := by
  induction blocks generalizing k buffer with
  | zero => exact ⟨rfl,rfl,h⟩
  | succ blocks ih =>
    have hm : 16*k%2^8=16*k := by omega
    have hi : (16*k%2^8+16)%2^8=16*(k+1)%2^8 := by omega
    have hw : (k+1+1)%2^16=k+1+1 := by omega
    have hb := xorBlock_enciphered (le_refl 16) h
    rw [xorBlocks,hi,hw,hm]
    have hn : Enciphered keyBlock text (16*(k+1)) (xorBlock text (keyBlock (k+1)) (16*k) 16 buffer) := by
      simpa only [Nat.mul_add,Nat.mul_one] using hb
    have hr := ih (by omega) hn
    have he : k+1+blocks=k+(blocks+1) := by omega
    rwa [he] at hr

/-- A fully enciphered buffer is the stream cipher of its text. -/
theorem Enciphered.eq_xorStream {keyBlock : ℕ → Vector UInt8 16} {text buffer : Bytes} {limit : ℕ}
    (hl : text.length≤limit) (h : Enciphered keyBlock text limit buffer) :
    buffer=xorStream (blockStream keyBlock) text := by
  apply List.ext_getElem
  · rw [h.1,xorStream_length]
  · intro i hb hx
    have ht : i<text.length := by rwa [xorStream_length] at hx
    have hi := h.2 i ht
    rw [if_pos (by omega),List.getD_eq_getElem _ _ hb,List.getD_eq_getElem _ _ ht] at hi
    rw [hi,xorStream_getElem _ text i hx ht]

end LorawanServer.Keystream
