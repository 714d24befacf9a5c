import LorawanServer.Aes
import LorawanServer.FrameCrypto

/-!
# The message authentication code in parts

`cmac.c` takes a message in any number of parts and holds back up to sixteen
bytes, since the last block is treated in another way. Whatever the parts are,
the digest is that of the whole message: the blocks chained through the cipher,
the last one with a subkey for a complete or for a padded block. With `aes.c` as
the cipher this is the code that the frames carry.
-/

namespace LorawanServer.Cmac

open CppRuntime Aes FrameCrypto Records

/-- A block function: `aes_encrypt` under one key. -/
abbrev Cipher := Block → Block

/-- The block of zeros. -/
def zeroBlock : Block := Vector.replicate 16 0

/-- The first sixteen bytes of a text, filled up with zeros. -/
def blockOf (text : Bytes) : Block := Vector.ofFn fun i => text.getD i 0

/-- `memcpy` into a block at an offset. -/
def copyTo (block : Block) (offset : ℕ) (data : Bytes) : Block :=
  Vector.ofFn fun i => if offset ≤ i.1 ∧ i.1<offset+data.length then data.getD (i.1-offset) 0 else block.get i

/-- `AES_CMAC_CTX` without its key. -/
structure AesCmacCtx where
  /-- The chain value `X`. -/
  x : Block
  /-- `M_last`. -/
  mLast : Block
  /-- `M_n`: bytes of `M_last` in use. -/
  mN : ℕ

/-- `AES_CMAC_Init`; the block of held bytes is not initialised. -/
def aesCmacInit (stack : Block) : AesCmacCtx := ⟨zeroBlock,stack,0⟩

/-- The loop of `AES_CMAC_Update` while more than a block is left. -/
def updateLoop (e : Cipher) (x : Block) (data : Bytes) : Block×Bytes :=
  if 16<data.length then updateLoop e (e (xorBlock x (blockOf (data.take 16)))) (data.drop 16) else (x,data)
termination_by data.length
decreasing_by
  rw [List.length_drop]
  omega

/-- The part of `AES_CMAC_Update` behind the held bytes. -/
def updateRest (e : Cipher) (ctx : AesCmacCtx) (data : Bytes) : AesCmacCtx :=
  let (x,rest) := updateLoop e ctx.x data
  ⟨x,copyTo ctx.mLast 0 rest,rest.length⟩

/-- `AES_CMAC_Update`. -/
def aesCmacUpdate (e : Cipher) (ctx : AesCmacCtx) (data : Bytes) : AesCmacCtx :=
  if 0<ctx.mN then
    let mlen := if 16-ctx.mN<data.length then 16-ctx.mN else data.length
    let filled : AesCmacCtx := {ctx with
      mLast := copyTo ctx.mLast ctx.mN (data.take mlen)
      mN := ctx.mN+mlen}
    if filled.mN<16 ∨ data.length=mlen then filled
    else updateRest e {filled with x := e (xorBlock filled.x filled.mLast)} (data.drop mlen)
  else updateRest e ctx data

/-- `LSHIFT` and the polynomial for the top bit: a subkey from the one before. -/
def nextKey (k : Block) : Block :=
  let shifted : Block := Vector.ofFn fun i =>
    (k.get i <<< 1) ||| (if h : i.1+1<16 then k.get ⟨i.1+1,h⟩ >>> 7 else 0)
  if k.getD 0 0 &&& 0x80≠0 then Vector.ofFn fun i => if i.1=15 then shifted.get i ^^^ 0x87 else shifted.get i
  else shifted

/-- The padding of `AES_CMAC_Final`: a bit behind the bytes in use, then zeros. -/
def padLast (ctx : AesCmacCtx) : Block :=
  Vector.ofFn fun i => if i.1<ctx.mN then ctx.mLast.get i else if i.1=ctx.mN then 0x80 else 0

/-- `AES_CMAC_Final`. -/
def aesCmacFinal (e : Cipher) (ctx : AesCmacCtx) : Block :=
  let k1 := nextKey (e zeroBlock)
  let mLast := if ctx.mN=16 then xorBlock ctx.mLast k1 else xorBlock (padLast ctx) (nextKey k1)
  e (xorBlock ctx.x mLast)

/-- The code of a whole message: the blocks in front of the last one are
chained, the last one is complete or padded and gets its subkey. -/
def cmac (e : Cipher) (message : Bytes) : Block :=
  let front := (message.length+15)/16-1
  let x := (List.range front).foldl (fun x i => e (xorBlock x (blockOf (message.drop (16*i))))) zeroBlock
  let last := message.drop (16*front)
  let k1 := nextKey (e zeroBlock)
  if last.length=16 then e (xorBlock x (xorBlock (blockOf last) k1))
  else e (xorBlock x (xorBlock (blockOf (last++[0x80])) (nextKey k1)))

/-- The bytes in use of the held block. -/
def held (ctx : AesCmacCtx) : Bytes := ctx.mLast.toList.take ctx.mN

/-- The loop while more than a block is left leaves at most a block. -/
theorem updateLoop_length (e : Cipher) (x : Block) (data : Bytes) : (updateLoop e x data).2.length≤16 := by
  induction x, data using updateLoop.induct e with
  | case1 x data h ih =>
    rw [updateLoop,if_pos h]
    exact ih
  | case2 x data h =>
    rw [updateLoop,if_neg h]
    exact not_lt.mp h

/-- What the loop leaves can be continued. -/
theorem updateLoop_append (e : Cipher) (x : Block) (data more : Bytes) :
    updateLoop e x (data++more)=updateLoop e (updateLoop e x data).1 ((updateLoop e x data).2++more) := by
  induction x, data using updateLoop.induct e with
  | case1 x data h ih =>
    have hmore : 16<(data++more).length := by
      rw [List.length_append]
      omega
    have htake : (data++more).take 16=data.take 16 := List.take_append_of_le_length (by omega)
    have hdrop : (data++more).drop 16=data.drop 16++more := List.drop_append_of_le_length (by omega)
    rw [updateLoop,if_pos hmore,htake,hdrop,ih,updateLoop.eq_def e x data,if_pos h]
  | case2 x data h => rw [updateLoop.eq_def e x data,if_neg h]

/-- A byte of the block after the copy. -/
theorem getElem_copyTo (block : Block) (offset : ℕ) (data : Bytes) (i : ℕ) (hi : i<16) :
    (copyTo block offset data)[i]=
      if offset ≤ i ∧ i<offset+data.length then data.getD (i-offset) 0 else block[i] := by
  simp [copyTo,Vector.get_eq_getElem]

/-- Bytes that fit are those of the block at their place. -/
theorem take_copyTo (block : Block) (offset : ℕ) {data : Bytes} (h : offset+data.length≤16) :
    (copyTo block offset data).toList.take (offset+data.length)=block.toList.take offset++data := by
  apply List.ext_getElem
  · rw [List.length_take,List.length_append,List.length_take,Vector.length_toList,Vector.length_toList]
    omega
  · intro i hi hj
    rw [List.length_take,Vector.length_toList] at hi
    rw [List.getElem_take,Vector.getElem_toList,getElem_copyTo]
    by_cases ho : i<offset
    · rw [if_neg (by omega),List.getElem_append_left (by rw [List.length_take,Vector.length_toList]; omega),
        List.getElem_take,Vector.getElem_toList]
    · rw [if_pos ⟨by omega,by omega⟩,List.getElem_append_right (by rw [List.length_take,Vector.length_toList]; omega)]
      simp only [List.length_take,Vector.length_toList]
      rw [List.getD_eq_getElem _ _ (by omega)]
      congr 1
      omega

/-- The state of the code after a message: the loop over the message, with the
bytes it leaves held. -/
structure Absorbed (e : Cipher) (message : Bytes) (ctx : AesCmacCtx) : Prop where
  size : ctx.mN≤16
  chain : updateLoop e zeroBlock message=(ctx.x,held ctx)

/-- The bytes held are as many as the counter says. -/
theorem length_held {ctx : AesCmacCtx} (h : ctx.mN≤16) : (held ctx).length=ctx.mN := by
  rw [held,List.length_take,Vector.length_toList,min_eq_left h]

/-- A full held block is its bytes. -/
theorem blockOf_toList (block : Block) : blockOf block.toList=block := by
  apply Vector.ext
  intro i hi
  rw [blockOf,Vector.getElem_ofFn,List.getD_eq_getElem _ _ (by rwa [Vector.length_toList]),Vector.getElem_toList]

/-- The loop behind the held bytes. -/
theorem updateRest_spec (e : Cipher) (ctx : AesCmacCtx) (data : Bytes) :
    (updateRest e ctx data).mN≤16 ∧ (updateLoop e ctx.x data)=((updateRest e ctx data).x,held (updateRest e ctx data)) := by
  have hl := updateLoop_length e ctx.x data
  refine ⟨hl,?_⟩
  have hcopy := @take_copyTo ctx.mLast 0 (updateLoop e ctx.x data).2 (by omega)
  rw [Nat.zero_add,List.take_zero,List.nil_append] at hcopy
  exact Prod.ext rfl hcopy.symm

/-- One part more. -/
theorem Absorbed.update {e : Cipher} {message : Bytes} {ctx : AesCmacCtx} (h : Absorbed e message ctx) (data : Bytes) :
    Absorbed e (message++data) (aesCmacUpdate e ctx data) := by
  obtain ⟨hsize,hchain⟩ := h
  have hnext : updateLoop e zeroBlock (message++data)=updateLoop e ctx.x (held ctx++data) := by
    rw [updateLoop_append,hchain]
  unfold aesCmacUpdate
  by_cases hpos : 0<ctx.mN
  · rw [if_pos hpos]
    dsimp only
    have hmin : (if 16-ctx.mN<data.length then 16-ctx.mN else data.length)=min (16-ctx.mN) data.length := by
      split_ifs <;> omega
    rw [hmin]
    have hlen : (data.take (min (16-ctx.mN) data.length)).length=min (16-ctx.mN) data.length := by
      rw [List.length_take]
      omega
    have hcopy := @take_copyTo ctx.mLast ctx.mN (data.take (min (16-ctx.mN) data.length)) (by omega)
    rw [hlen] at hcopy
    split_ifs with hfew
    · -- the part fits into the held block
      have hall : data.take (min (16-ctx.mN) data.length)=data := List.take_of_length_le (by omega)
      refine ⟨by dsimp only; omega,?_⟩
      rw [hnext,updateLoop,if_neg (by rw [List.length_append,length_held hsize]; omega)]
      refine Prod.ext rfl ?_
      change held ctx++data=(copyTo ctx.mLast ctx.mN (data.take (min (16-ctx.mN) data.length))).toList.take
        (ctx.mN+min (16-ctx.mN) data.length)
      rw [hcopy,hall]
      rfl
    · -- the held block is full and more follows
      have hfull : ctx.mN+min (16-ctx.mN) data.length=16 := by omega
      rw [hfull,List.take_of_length_le (by rw [Vector.length_toList])] at hcopy
      have hmore : 16<(held ctx++data).length := by
        rw [List.length_append,length_held hsize]
        omega
      have htake : (held ctx++data).take 16=held ctx++data.take (min (16-ctx.mN) data.length) := by
        rw [List.take_append,length_held hsize,List.take_of_length_le (by rw [length_held hsize]; omega)]
        congr 2
        omega
      have hdrop : (held ctx++data).drop 16=data.drop (min (16-ctx.mN) data.length) := by
        rw [List.drop_append,length_held hsize,List.drop_of_length_le (by rw [length_held hsize]; omega),
          List.nil_append]
        congr 1
        omega
      obtain ⟨hs,hc⟩ := updateRest_spec e ⟨e (xorBlock ctx.x (copyTo ctx.mLast ctx.mN
        (data.take (min (16-ctx.mN) data.length)))),copyTo ctx.mLast ctx.mN
        (data.take (min (16-ctx.mN) data.length)),ctx.mN+min (16-ctx.mN) data.length⟩
        (data.drop (min (16-ctx.mN) data.length))
      refine ⟨hs,?_⟩
      rw [hnext,updateLoop,if_pos hmore,htake,hdrop,←hc]
      have hblock : blockOf (held ctx++data.take (min (16-ctx.mN) data.length))=
          copyTo ctx.mLast ctx.mN (data.take (min (16-ctx.mN) data.length)) := by
        rw [held,←hcopy,blockOf_toList]
      rw [hblock]
  · rw [if_neg hpos]
    obtain ⟨hs,hc⟩ := updateRest_spec e ctx data
    refine ⟨hs,?_⟩
    have hempty : held ctx=[] := by
      rw [held,Nat.eq_zero_of_not_pos hpos,List.take_zero]
    rw [hnext,hempty,List.nil_append,hc]

/-- The loop chains the blocks in front of the last one. -/
theorem updateLoop_eq (e : Cipher) (x : Block) (message : Bytes) :
    updateLoop e x message=
      ((List.range ((message.length+15)/16-1)).foldl
        (fun x i => e (xorBlock x (blockOf (message.drop (16*i))))) x,
        message.drop (16*((message.length+15)/16-1))) := by
  induction x, message using updateLoop.induct e with
  | case1 x message h ih =>
    have hfront : (message.length+15)/16-1=((message.drop 16).length+15)/16-1+1 := by
      rw [List.length_drop]
      omega
    have hblock : blockOf (message.take 16)=blockOf (message.drop (16*0)) := by
      apply Vector.ext
      intro i hi
      rw [blockOf,blockOf,Vector.getElem_ofFn,Vector.getElem_ofFn,Nat.mul_zero,List.drop_zero,
        List.getD_eq_getElem _ _ (by rw [List.length_take]; omega),List.getD_eq_getElem _ _ (by omega),
        List.getElem_take]
    have hstep : ∀ i,16*(i+1)=16+16*i := by omega
    rw [updateLoop,if_pos h,ih,hfront,List.range_succ_eq_map,List.foldl_cons,List.foldl_map,hblock]
    simp only [List.drop_drop,Nat.succ_eq_add_one,hstep]
  | case2 x message h =>
    have hfront : (message.length+15)/16-1=0 := by omega
    rw [updateLoop,if_neg h,hfront]
    rfl

/-- The padding of the held bytes. -/
theorem padLast_eq {ctx : AesCmacCtx} (h : ctx.mN<16) : padLast ctx=blockOf (held ctx++[0x80]) := by
  have hl := length_held h.le
  apply Vector.ext
  intro i hi
  rw [padLast,blockOf,Vector.getElem_ofFn,Vector.getElem_ofFn]
  dsimp only
  by_cases hlt : i<ctx.mN
  · rw [if_pos hlt,List.getD_append _ _ _ _ (by omega),List.getD_eq_getElem _ _ (by omega)]
    simp [held,Vector.get_eq_getElem]
  · rw [if_neg hlt,List.getD_append_right _ _ _ _ (by omega),hl]
    by_cases he : i=ctx.mN
    · rw [if_pos he,he,Nat.sub_self]
      rfl
    · rw [if_neg he,List.getD_eq_default _ _ (by simp only [List.length_singleton]; omega)]

/-- The digest of a state that took in a message. -/
theorem Absorbed.final {e : Cipher} {message : Bytes} {ctx : AesCmacCtx} (h : Absorbed e message ctx) :
    aesCmacFinal e ctx=cmac e message := by
  obtain ⟨hsize,hchain⟩ := h
  rw [updateLoop_eq] at hchain
  obtain ⟨hx,hlast⟩ := Prod.mk.inj hchain
  have hl := length_held hsize
  unfold aesCmacFinal cmac
  dsimp only
  rw [hx,hlast,hl]
  split_ifs with hfull
  · have hblock : blockOf (held ctx)=ctx.mLast := by
      rw [held,hfull,List.take_of_length_le (by rw [Vector.length_toList]),blockOf_toList]
    rw [hblock]
  · rw [padLast_eq (by omega)]

/-- For every cipher, every rest on the stack and every way to cut a message in
parts of any lengths, also empty ones, the calls of `AES_CMAC_Update` for the
parts and `AES_CMAC_Final` give the code of the whole message. -/
theorem aesCmac_parts (e : Cipher) (stack : Block) (parts : List Bytes) :
    aesCmacFinal e (parts.foldl (aesCmacUpdate e) (aesCmacInit stack))=cmac e parts.flatten := by
  have hinit : Absorbed e [] (aesCmacInit stack) := by
    refine ⟨Nat.zero_le _,?_⟩
    rw [updateLoop,if_neg (by decide)]
    rfl
  have hall : ∀ message ctx,Absorbed e message ctx →
      Absorbed e (message++parts.flatten) (parts.foldl (aesCmacUpdate e) ctx) := by
    induction parts with
    | nil =>
      intro message ctx h
      simpa using h
    | cons part parts ih =>
      intro message ctx h
      have hnext := ih _ _ (h.update part)
      rwa [List.append_assoc] at hnext
  exact (hall [] _ hinit).final

/-- `aes_encrypt` after `aes_set_key` for a key of 128 bits. -/
def cipherOf (key : KEY128) : Cipher := fun block => (aesEncrypt (aesSetKey key.toList 16) block).getD block

/-- The keyed primitives of the repository. -/
def aesCrypto : Crypto where
  aesEncrypt := cipherOf
  cmac key := cmac (cipherOf key)

/-- `calculateMIC` as the source computes it, with the block B0 and the message
in two parts. -/
theorem calculateMIC_parts (data : Bytes) (size : UInt8) (frameCounter : ℕ) (direction : UInt8)
    (devAddr : DEVADDR) (key : KEY128) (stack : Block) :
    calculateMIC aesCrypto data size frameCounter direction devAddr key=
      micOf (aesCmacFinal (cipherOf key) ([blockB frameCounter direction devAddr size,data.take size.toNat].foldl
        (aesCmacUpdate (cipherOf key)) (aesCmacInit stack))) := by
  rw [aesCmac_parts]
  simp [calculateMIC,aesCrypto]

end LorawanServer.Cmac
