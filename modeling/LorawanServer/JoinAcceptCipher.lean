import LorawanServer.JoinReplies

/-!
# Opening a join accept

A join accept is sent by adding one enciphered block of zeros to every block
behind its header byte, and opened by enciphering each of these blocks. Both
sides are translated from `lora-encrypt.cpp` and compared block by block
over an arbitrary block function. They undo each other for no frame under
every permutation of the blocks, and for all frames under one permutation
exactly when it adds the same block to every input.
-/

namespace LorawanServer.JoinAcceptCipher

open CppRuntime Keystream Records FrameCrypto JoinReplies

/-- A block of sixteen bytes. -/
abbrev Block := Vector UInt8 16

/-- The sixteen bytes of a text behind a position. -/
def blockAt (text : Bytes) (i : ℕ) : Block := Vector.ofFn fun j => text.getD (i+j) 0

/-- The loop of `decryptJoinAccept` over the blocks that are left, with its
eight-bit buffer index. -/
def decryptBlocks (crypto : Crypto) (key : KEY128) (payload : Bytes) : ℕ → ℕ → Bytes → Bytes
  | 0,_,encBuffer => encBuffer
  | blocks+1,bufferIndex,encBuffer => decryptBlocks crypto key payload blocks ((bufferIndex+16)%2^8)
      (memmove encBuffer bufferIndex (crypto.aesEncrypt key (blockAt payload bufferIndex)).toList)

/-- `decryptJoinAccept`; the header byte stays, and so do the bytes behind the
last whole block. -/
def decryptJoinAccept (crypto : Crypto) (payload : Bytes) (key : KEY128) : Bytes :=
  if payload.length=0 then payload
  else decryptBlocks crypto key payload ((payload.length-1)/16) 1 payload

/-- `JOIN_ACCEPT_FRAME`, seventeen bytes. -/
structure JoinAcceptFrame where
  /-- Header byte. -/
  mhdr : UInt8
  /-- Header of the answer. -/
  hdr : JoinAcceptFrameHeader
  /-- Integrity code. -/
  mic : UInt32

/-- The bytes behind the header byte. -/
def JoinAcceptFrame.body (frame : JoinAcceptFrame) : Bytes := frame.hdr.toBytes++leBytes 4 frame.mic.toNat

/-- The memory image of the frame. -/
def JoinAcceptFrame.toBytes (frame : JoinAcceptFrame) : Bytes := frame.mhdr::frame.body

/-- `CFLIST`: five frequencies of three bytes and the type of the list. -/
structure CFList where
  /-- Frequencies of the channels 4 to 8. -/
  frequency : Vector (Vector UInt8 3) 5
  /-- Type of the list. -/
  cflisttype : UInt8

/-- The memory image of the list, sixteen bytes. -/
def CFList.toBytes (cflist : CFList) : Bytes :=
  cflist.frequency.toList.flatMap Vector.toList++[cflist.cflisttype]

/-- `JOIN_ACCEPT_FRAME_CFLIST`, 33 bytes. -/
structure JoinAcceptFrameCFList extends JoinAcceptFrame where
  /-- Channel frequency list. -/
  cflist : CFList

/-- The bytes behind the header byte; the list stands in front of the code. -/
def JoinAcceptFrameCFList.body (frame : JoinAcceptFrameCFList) : Bytes :=
  frame.hdr.toBytes++frame.cflist.toBytes++leBytes 4 frame.mic.toNat

/-- The memory image of the frame with a list. -/
def JoinAcceptFrameCFList.toBytes (frame : JoinAcceptFrameCFList) : Bytes := frame.mhdr::frame.body

/-- `encryptJoinAcceptCFListResponse` on the bytes behind the header byte: the
second call of `aes_encrypt` gets the same zeros as the first. -/
def encryptJoinAcceptCFListResponse (crypto : Crypto) (body : Bytes) (key : KEY128) : Bytes :=
  List.zipWith (· ^^^ ·) body ((crypto.aesEncrypt key (Vector.replicate 16 0)).toList++
    (crypto.aesEncrypt key (Vector.replicate 16 0)).toList)

/-- What the device finds in an encrypted frame is the frame. -/
def Opens (crypto : Crypto) (frame : JoinAcceptFrame) (key : KEY128) : Prop :=
  decryptJoinAccept crypto (frame.mhdr::encryptJoinAcceptResponse crypto frame.body key) key=frame.toBytes

/-- The same for a frame with a list of frequencies. -/
def OpensCFList (crypto : Crypto) (frame : JoinAcceptFrameCFList) (key : KEY128) : Prop :=
  decryptJoinAccept crypto (frame.mhdr::encryptJoinAcceptCFListResponse crypto frame.body key) key=frame.toBytes

/-- `replyJoinRequest` sends the encryption of such a frame. -/
theorem joinAcceptFrame_eq (crypto : Crypto) (hdr : JoinAcceptFrameHeader) (key : KEY128) :
    joinAcceptFrame crypto hdr key=joinAcceptMhdr::encryptJoinAcceptResponse crypto
      (JoinAcceptFrame.body ⟨joinAcceptMhdr,hdr,calculateMICJoinResponse crypto hdr key⟩) key := rfl

/-- The bytes of blocks that stand one behind the other. -/
def blockBytes (blocks : List Block) : Bytes := blocks.flatMap Vector.toList

/-- No blocks have no bytes. -/
@[simp] theorem blockBytes_nil : blockBytes []=[] := rfl

/-- The bytes of the first block come first. -/
@[simp] theorem blockBytes_cons (block : Block) (blocks : List Block) :
    blockBytes (block::blocks)=block.toList++blockBytes blocks := rfl

/-- Arrays of one width have that many bytes each. -/
theorem flatMap_toList_length {width : ℕ} (blocks : List (Vector UInt8 width)) :
    (blocks.flatMap Vector.toList).length=width*blocks.length := by
  induction blocks with
  | nil => rfl
  | cons block blocks ih =>
    rw [List.flatMap_cons,List.length_append,Vector.length_toList,ih,List.length_cons,Nat.mul_succ,Nat.add_comm]

/-- Sixteen bytes for each block. -/
@[simp] theorem blockBytes_length (blocks : List Block) : (blockBytes blocks).length=16*blocks.length :=
  flatMap_toList_length blocks

/-- The bytes determine the blocks. -/
theorem blockBytes_injective : Function.Injective blockBytes := by
  intro left
  induction left with
  | nil =>
    intro right h
    have hl := congrArg List.length h
    rw [blockBytes_length,blockBytes_length,List.length_nil] at hl
    exact (List.length_eq_zero_iff.mp (by omega)).symm
  | cons block left ih =>
    intro right h
    cases right with
    | nil =>
      have hl := congrArg List.length h
      rw [blockBytes_length,blockBytes_length,List.length_cons,List.length_nil] at hl
      omega
    | cons other right =>
      rw [blockBytes_cons,blockBytes_cons] at h
      obtain ⟨hb,ht⟩ := List.append_inj h (by rw [Vector.length_toList,Vector.length_toList])
      rw [Vector.toList_inj.mp hb,ih ht]

/-- The block behind the front of a text. -/
theorem blockAt_append (front rest : Bytes) (block : Block) :
    blockAt (front++(block.toList++rest)) front.length=block := by
  apply Vector.ext
  intro i hi
  have hb : i<block.toList.length := by rwa [Vector.length_toList]
  rw [blockAt,Vector.getElem_ofFn,List.getD_append_right _ _ _ _ (by omega),Nat.add_sub_cancel_left,
    List.getD_append _ _ _ _ hb,List.getD_eq_getElem _ _ hb,Vector.getElem_toList]

/-- Bytes that fill blocks are the bytes of blocks. -/
theorem exists_blockBytes {text : Bytes} {n : ℕ} (h : text.length=16*n) :
    ∃ blocks,blocks.length=n ∧ blockBytes blocks=text := by
  induction n generalizing text with
  | zero => exact ⟨[],rfl,(List.length_eq_zero_iff.mp (by omega)).symm⟩
  | succ n ih =>
    obtain ⟨blocks,hn,hb⟩ := @ih (text.drop 16) (by rw [List.length_drop]; omega)
    have hl : (text.take 16).toArray.size=16 := by
      rw [List.size_toArray,List.length_take]
      omega
    refine ⟨⟨(text.take 16).toArray,hl⟩::blocks,by rw [List.length_cons,hn],?_⟩
    rw [blockBytes_cons,hb]
    exact List.take_append_drop 16 text

/-- The loop enciphers every block of the payload, as long as its index does
not wrap. -/
theorem decryptBlocks_append (crypto : Crypto) (key : KEY128) {front done : Bytes} {blocks : List Block}
    (hd : done.length=front.length) (h : front.length+16*blocks.length<256) :
    decryptBlocks crypto key (front++blockBytes blocks) blocks.length front.length (done++blockBytes blocks)=
      done++blockBytes (blocks.map (crypto.aesEncrypt key)) := by
  induction blocks generalizing front done with
  | nil => rfl
  | cons block blocks ih =>
    rw [List.length_cons] at h
    have hindex : (front.length+16)%2^8=(front++block.toList).length := by
      rw [List.length_append,Vector.length_toList]
      omega
    have hdone : (done++(crypto.aesEncrypt key block).toList).length=(front++block.toList).length := by
      rw [List.length_append,List.length_append,Vector.length_toList,Vector.length_toList,hd]
    have hrun := ih hdone (by rw [List.length_append,Vector.length_toList]; omega)
    have hwidth : block.toList.length=(crypto.aesEncrypt key block).toList.length := by
      rw [Vector.length_toList,Vector.length_toList]
    rw [List.length_cons,decryptBlocks,blockBytes_cons,blockAt_append,←hd,memmove_append _ _ hwidth,hd,hindex]
    rw [List.append_assoc,List.append_assoc] at hrun
    rw [hrun,List.map_cons,blockBytes_cons,List.append_assoc]

/-- `decryptJoinAccept` enciphers each block behind the header byte. -/
theorem decryptJoinAccept_cons (crypto : Crypto) (mhdr : UInt8) {blocks : List Block}
    (h : 16*blocks.length<255) (key : KEY128) :
    decryptJoinAccept crypto (mhdr::blockBytes blocks) key=
      mhdr::blockBytes (blocks.map (crypto.aesEncrypt key)) := by
  have hcount : ((mhdr::blockBytes blocks).length-1)/16=blocks.length := by
    rw [List.length_cons,blockBytes_length]
    omega
  rw [decryptJoinAccept,if_neg (by rw [List.length_cons]; omega),hcount]
  exact @decryptBlocks_append crypto key [mhdr] [mhdr] blocks rfl (by rw [List.length_singleton]; omega)

/-- Two blocks added byte by byte. -/
def addBlock (pad block : Block) : Block := Vector.zipWith (· ^^^ ·) block pad

/-- Adding a block twice changes nothing. -/
theorem addBlock_addBlock (pad block : Block) : addBlock pad (addBlock pad block)=block := by
  apply Vector.ext
  intro i hi
  rw [addBlock,addBlock,Vector.getElem_zipWith,Vector.getElem_zipWith,UInt8.xor_assoc,UInt8.xor_self,
    UInt8.xor_zero]

/-- The same block is added to each of several. -/
theorem zipWith_blockBytes (pad : Block) (blocks : List Block) :
    List.zipWith (· ^^^ ·) (blockBytes blocks) (blockBytes (List.replicate blocks.length pad))=
      blockBytes (blocks.map (addBlock pad)) := by
  induction blocks with
  | nil => rfl
  | cons block blocks ih =>
    rw [List.length_cons,List.replicate_succ,blockBytes_cons,blockBytes_cons,
      List.zipWith_append (by rw [Vector.length_toList,Vector.length_toList]),ih,List.map_cons,
      blockBytes_cons,addBlock,Vector.toList_zipWith]

/-- The block that is added to every block of a join accept. -/
def joinPad (crypto : Crypto) (key : KEY128) : Block := crypto.aesEncrypt key (Vector.replicate 16 0)

/-- A block survives both sides. -/
def BlockOpens (crypto : Crypto) (key : KEY128) (block : Block) : Prop :=
  crypto.aesEncrypt key (addBlock (joinPad crypto key) block)=block

/-- A frame of blocks is opened exactly when each of its blocks is. -/
theorem decrypt_encrypt_iff (crypto : Crypto) (mhdr : UInt8) {blocks : List Block}
    (h : 16*blocks.length<255) (key : KEY128) :
    decryptJoinAccept crypto (mhdr::List.zipWith (· ^^^ ·) (blockBytes blocks)
        (blockBytes (List.replicate blocks.length (joinPad crypto key)))) key=mhdr::blockBytes blocks ↔
      ∀ block∈blocks,BlockOpens crypto key block := by
  rw [zipWith_blockBytes,decryptJoinAccept_cons crypto mhdr (by rwa [List.length_map]) key,List.map_map,
    List.cons_inj_right,blockBytes_injective.eq_iff]
  constructor
  · intro hmap block hb
    rw [←List.map_id blocks,List.map_map] at hmap
    exact List.map_inj_left.mp hmap block hb
  · intro hall
    exact (List.map_congr_left hall).trans (List.map_id blocks)

/-- A frame without a list has one block. -/
theorem JoinAcceptFrame.exists_block (frame : JoinAcceptFrame) : ∃ block,blockBytes [block]=frame.body := by
  have hl : frame.body.length=16*1 := by
    simp only [JoinAcceptFrame.body,JoinAcceptFrameHeader.toBytes,List.length_append,Vector.length_toList,
      leBytes_length,List.length_cons,List.length_nil]
  obtain ⟨blocks,hn,hb⟩ := exists_blockBytes hl
  obtain ⟨block,rfl⟩ := List.length_eq_one_iff.mp hn
  exact ⟨block,hb⟩

/-- A frame with a list has two. -/
theorem JoinAcceptFrameCFList.exists_blocks (frame : JoinAcceptFrameCFList) :
    ∃ first second,blockBytes [first,second]=frame.body := by
  have hlist : frame.cflist.toBytes.length=16 := by
    rw [CFList.toBytes,List.length_append,flatMap_toList_length,Vector.length_toList,List.length_singleton]
  have hl : frame.body.length=16*2 := by
    simp only [JoinAcceptFrameCFList.body,JoinAcceptFrameHeader.toBytes,List.length_append,Vector.length_toList,
      leBytes_length,List.length_cons,List.length_nil,hlist]
  obtain ⟨blocks,hn,hb⟩ := exists_blockBytes hl
  obtain ⟨first,second,rfl⟩ := List.length_eq_two.mp hn
  exact ⟨first,second,hb⟩

/-- A frame without a list is opened exactly when its block is. -/
theorem opens_iff (crypto : Crypto) {frame : JoinAcceptFrame} {block : Block} (hb : blockBytes [block]=frame.body)
    (key : KEY128) : Opens crypto frame key ↔ BlockOpens crypto key block := by
  have h := @decrypt_encrypt_iff crypto frame.mhdr [block] (by rw [List.length_singleton]; decide) key
  have hpad : blockBytes (List.replicate [block].length (joinPad crypto key))=(joinPad crypto key).toList :=
    List.append_nil _
  rw [hb,hpad,List.forall_mem_singleton] at h
  exact h

/-- A frame with a list is opened exactly when its two blocks are. -/
theorem opensCFList_iff (crypto : Crypto) {frame : JoinAcceptFrameCFList} {first second : Block}
    (hb : blockBytes [first,second]=frame.body) (key : KEY128) :
    OpensCFList crypto frame key ↔ BlockOpens crypto key first ∧ BlockOpens crypto key second := by
  have hcount : 16*[first,second].length<255 := by
    rw [List.length_cons,List.length_singleton]
    decide
  have h := decrypt_encrypt_iff crypto frame.mhdr hcount key
  have hpad : blockBytes (List.replicate [first,second].length (joinPad crypto key))=
      (joinPad crypto key).toList++(joinPad crypto key).toList :=
    congrArg ((joinPad crypto key).toList ++ ·) (List.append_nil _)
  rw [hb,hpad,List.forall_mem_cons,List.forall_mem_singleton] at h
  exact h

/-- The frame with given bytes behind its header byte. -/
def JoinAcceptFrame.ofBlock (mhdr : UInt8) (block : Block) : JoinAcceptFrame where
  mhdr := mhdr
  hdr := ⟨#v[block[0],block[1],block[2]],#v[block[3],block[4],block[5]],
    UInt32.ofNat (leValue [block[6],block[7],block[8],block[9]]),block[10],block[11]⟩
  mic := UInt32.ofNat (leValue [block[12],block[13],block[14],block[15]])

/-- Every block stands behind the header byte of some frame. -/
theorem JoinAcceptFrame.ofBlock_body (mhdr : UInt8) (block : Block) :
    blockBytes [block]=(JoinAcceptFrame.ofBlock mhdr block).body := by
  have haddr := @leBytes_ofNat_leValue [block[6],block[7],block[8],block[9]] rfl
  have hmic := @leBytes_ofNat_leValue [block[12],block[13],block[14],block[15]] rfl
  rw [JoinAcceptFrame.body,JoinAcceptFrameHeader.toBytes,JoinAcceptFrame.ofBlock]
  dsimp only
  rw [haddr,hmic]
  apply List.ext_getElem
  · rw [blockBytes_length]
    rfl
  · intro i hl hr
    have hi : i<16 := by rwa [blockBytes_length,List.length_singleton] at hl
    interval_cases i <;> simp only [blockBytes,List.flatMap_cons,List.flatMap_nil,List.append_nil,
      Vector.getElem_toList] <;> rfl

/-- Under one permutation all frames are opened exactly when it only adds its
block of zeros. -/
theorem opens_forall_iff (crypto : Crypto) (key : KEY128) : (∀ frame,Opens crypto frame key) ↔
    ∀ block,crypto.aesEncrypt key block=addBlock (joinPad crypto key) block := by
  constructor
  · intro h block
    have hbody := JoinAcceptFrame.ofBlock_body joinAcceptMhdr (addBlock (joinPad crypto key) block)
    have hopens := (opens_iff crypto hbody key).mp (h _)
    rwa [BlockOpens,addBlock_addBlock] at hopens
  · intro h frame
    obtain ⟨block,hb⟩ := frame.exists_block
    rw [opens_iff crypto hb key,BlockOpens,h,addBlock_addBlock]

/-- A permutation of blocks that adds one to every byte and then a block. -/
def shiftCrypto (block : Block) : Crypto where
  aesEncrypt _ input := Vector.zipWith (fun byte other => byte^^^(other+1)) block input
  cmac _ _ := constBlock 0

/-- It can be undone. -/
theorem shiftCrypto_bijective (block : Block) (key : KEY128) :
    Function.Bijective ((shiftCrypto block).aesEncrypt key) := by
  refine Function.bijective_iff_has_inverse.mpr ⟨Vector.zipWith (fun byte other => (byte^^^other)-1) block,?_,?_⟩
  · intro input
    apply Vector.ext
    intro i hi
    rw [Vector.getElem_zipWith,shiftCrypto,Vector.getElem_zipWith,←UInt8.xor_assoc,UInt8.xor_self,
      UInt8.zero_xor,UInt8.add_sub_cancel]
  · intro output
    apply Vector.ext
    intro i hi
    rw [shiftCrypto,Vector.getElem_zipWith,Vector.getElem_zipWith,UInt8.sub_add_cancel,←UInt8.xor_assoc,
      UInt8.xor_self,UInt8.zero_xor]

/-- The block itself is not opened under it: its first byte comes out with
two added. -/
theorem not_blockOpens_shiftCrypto (block : Block) (key : KEY128) :
    ¬BlockOpens (shiftCrypto block) key block := by
  intro h
  have hfirst := congrArg (fun found : Block => found[0]) h
  simp only [addBlock,joinPad,shiftCrypto,Vector.getElem_zipWith,Vector.getElem_replicate,zero_add,
    ←UInt8.xor_assoc,UInt8.xor_self,UInt8.zero_xor] at hfirst
  have hsame : block[0] ^^^ (1+1 : UInt8)=block[0] ^^^ 0 := by rwa [UInt8.xor_zero]
  exact absurd (byte_xor_cancel hsame) (by decide)

/-- No frame of either kind is opened under every permutation of the blocks. -/
theorem not_opens_all (frame : JoinAcceptFrame) (listed : JoinAcceptFrameCFList) (key : KEY128) :
    (¬∀ crypto : Crypto,Function.Bijective (crypto.aesEncrypt key) → Opens crypto frame key) ∧
    ¬∀ crypto : Crypto,Function.Bijective (crypto.aesEncrypt key) → OpensCFList crypto listed key := by
  constructor
  · intro h
    obtain ⟨block,hb⟩ := frame.exists_block
    have hopens := h (shiftCrypto block) (shiftCrypto_bijective block key)
    exact not_blockOpens_shiftCrypto block key ((opens_iff _ hb key).mp hopens)
  · intro h
    obtain ⟨first,second,hb⟩ := listed.exists_blocks
    have hopens := h (shiftCrypto first) (shiftCrypto_bijective first key)
    exact not_blockOpens_shiftCrypto first key ((opensCFList_iff _ hb key).mp hopens).1

/-- The blank join accept under the zero key stays closed under a permutation
that adds one to every byte. -/
theorem not_opens_blank :
    ¬((∀ (crypto : Crypto) (frame : JoinAcceptFrame) (key : KEY128),
        Function.Bijective (crypto.aesEncrypt key) → Opens crypto frame key) ∧
      ∀ (crypto : Crypto) (frame : JoinAcceptFrameCFList) (key : KEY128),
        Function.Bijective (crypto.aesEncrypt key) → OpensCFList crypto frame key) := by
  intro h
  have hb : blockBytes [Vector.replicate 16 0]=
      JoinAcceptFrame.body ⟨joinAcceptMhdr,JoinAcceptFrameHeader.blank,0⟩ := rfl
  have hopens := h.1 (shiftCrypto (Vector.replicate 16 0)) ⟨joinAcceptMhdr,JoinAcceptFrameHeader.blank,0⟩
    (Vector.replicate 16 0) (shiftCrypto_bijective _ _)
  exact not_blockOpens_shiftCrypto _ _ ((opens_iff _ hb _).mp hopens)

end LorawanServer.JoinAcceptCipher
