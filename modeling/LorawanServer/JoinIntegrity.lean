import LorawanServer.JoinAcceptCipher

/-!
# Integrity code of a join accept of version 1.1

`calculateOptNegMICJoinResponse` collects its message in a buffer of 24 bytes.
The frame is copied one byte too early, over the second byte of the device
nonce, so the last byte of the buffer is never written, and one byte more than
the buffer has is hashed. The hashed message is determined here and compared
with the documented one.
-/

namespace LorawanServer.JoinIntegrity

open CppRuntime Records FrameCrypto JoinReplies JoinAcceptCipher

/-- What one call finds on its stack. -/
structure MicStack where
  /-- The buffer `d` before it is written. -/
  d : Vector UInt8 24
  /-- The byte behind the buffer. -/
  behind : UInt8

/-- The fields that the code is to protect. -/
structure MicFields where
  /-- Header byte and header of the answer. -/
  frame : JoinAcceptFrame
  /-- Identifier of the join server. -/
  joinEUI : DEVEUI
  /-- Nonce of the device. -/
  devNonce : UInt16
  /-- Kind of the request. -/
  rejoinType : UInt8

/-- Header byte and header, the thirteen bytes of the frame in front of its code. -/
def frameFront (frame : JoinAcceptFrame) : Bytes := frame.mhdr::frame.hdr.toBytes

/-- The buffer after the four copies of the source, in their order. -/
def filledBuffer (stack : MicStack) (fields : MicFields) : Bytes :=
  let d := memmove stack.d.toList 0 [fields.rejoinType]
  let d := memmove d 1 (leBytes 8 fields.joinEUI.toNat)
  let d := memmove d 9 (leBytes 2 fields.devNonce.toNat)
  memmove d 10 (frameFront fields.frame)

/-- `calculateOptNegMICJoinResponse`: `1 + sizeof(d)` bytes are hashed. -/
def calculateOptNegMICJoinResponse (crypto : Crypto) (stack : MicStack) (fields : MicFields) (key : KEY128) :
    UInt32 :=
  micOf (crypto.cmac key ((filledBuffer stack fields++[stack.behind]).take (1+24)))

/-- The message of the documentation: JoinReqType, JoinEUI, DevNonce, MHDR and
the header of the answer. -/
def documentedMessage (fields : MicFields) : Bytes :=
  fields.rejoinType::leBytes 8 fields.joinEUI.toNat++leBytes 2 fields.devNonce.toNat++frameFront fields.frame

/-- The message that is hashed. -/
def hashedMessage (stack : MicStack) (fields : MicFields) : Bytes :=
  fields.rejoinType::leBytes 8 fields.joinEUI.toNat++[UInt8.ofNat fields.devNonce.toNat]++
    frameFront fields.frame++[stack.d[23],stack.behind]

/-- The frame in front of its code has thirteen bytes. -/
@[simp] theorem frameFront_length (frame : JoinAcceptFrame) : (frameFront frame).length=13 := by
  simp only [frameFront,JoinAcceptFrameHeader.toBytes,List.length_cons,List.length_append,Vector.length_toList,
    leBytes_length,List.length_nil]

/-- The documented message has 24 bytes. -/
theorem documentedMessage_length (fields : MicFields) : (documentedMessage fields).length=24 := by
  simp only [documentedMessage,List.cons_append,List.length_cons,List.length_append,leBytes_length,
    frameFront_length]

/-- The hashed one has 25. -/
theorem hashedMessage_length (stack : MicStack) (fields : MicFields) : (hashedMessage stack fields).length=25 := by
  simp only [hashedMessage,List.cons_append,List.length_cons,List.length_append,leBytes_length,
    frameFront_length,List.length_nil]

/-- After the copies the buffer keeps the first byte of the nonce and its own
last byte. -/
theorem filledBuffer_eq (stack : MicStack) (fields : MicFields) :
    filledBuffer stack fields=fields.rejoinType::leBytes 8 fields.joinEUI.toNat++
      [UInt8.ofNat fields.devNonce.toNat]++frameFront fields.frame++[stack.d[23]] := by
  let eui := leBytes 8 fields.joinEUI.toNat
  let low := UInt8.ofNat fields.devNonce.toNat
  let high := UInt8.ofNat (fields.devNonce.toNat/256)
  have htype : memmove stack.d.toList 0 [fields.rejoinType]=[fields.rejoinType]++stack.d.toList.drop 1 :=
    memmove_front [] stack.d.toList [fields.rejoinType]
  have heui : memmove ([fields.rejoinType]++stack.d.toList.drop 1) 1 eui=
      [fields.rejoinType]++eui++stack.d.toList.drop 9 := by
    have hcopy := memmove_front [fields.rejoinType] (stack.d.toList.drop 1) eui
    rwa [leBytes_length,List.drop_drop,←List.append_assoc] at hcopy
  have hnonce : memmove ([fields.rejoinType]++eui++stack.d.toList.drop 9) 9 [low,high]=
      [fields.rejoinType]++eui++[low]++([high]++stack.d.toList.drop 11) := by
    have hcopy := memmove_front ([fields.rejoinType]++eui) (stack.d.toList.drop 9) [low,high]
    rw [List.length_append,leBytes_length,List.drop_drop] at hcopy
    rw [List.append_assoc _ [low]]
    exact hcopy
  -- the frame begins at the second byte of the nonce
  have hframe : memmove ([fields.rejoinType]++eui++[low]++([high]++stack.d.toList.drop 11)) 10
      (frameFront fields.frame)=
        [fields.rejoinType]++eui++[low]++(frameFront fields.frame++stack.d.toList.drop 23) := by
    have hdrop : ([high]++stack.d.toList.drop 11).drop 13=stack.d.toList.drop 23 := by
      rw [List.singleton_append,List.drop_succ_cons,List.drop_drop]
    have hcopy := memmove_front ([fields.rejoinType]++eui++[low]) ([high]++stack.d.toList.drop 11)
      (frameFront fields.frame)
    rwa [List.length_append,List.length_append,leBytes_length,frameFront_length,hdrop] at hcopy
  have hlast : stack.d.toList.drop 23=[stack.d[23]] := by
    apply List.ext_getElem
    · rw [List.length_drop,Vector.length_toList]
      rfl
    · intro i hl hr
      have hi : i=0 := by rwa [List.length_singleton,Nat.lt_one_iff] at hr
      subst hi
      rw [List.getElem_drop,Vector.getElem_toList,List.getElem_singleton]
  change memmove (memmove (memmove (memmove stack.d.toList 0 [fields.rejoinType]) 1 eui) 9 [low,high]) 10
    (frameFront fields.frame)=_
  rw [htype,heui,hnonce,hframe,hlast,←List.append_assoc]
  rfl

/-- What is hashed, byte by byte. -/
theorem calculateOptNegMICJoinResponse_eq (crypto : Crypto) (stack : MicStack) (fields : MicFields) (key : KEY128) :
    calculateOptNegMICJoinResponse crypto stack fields key=micOf (crypto.cmac key (hashedMessage stack fields)) := by
  have hmessage : filledBuffer stack fields++[stack.behind]=hashedMessage stack fields := by
    rw [filledBuffer_eq,hashedMessage,List.append_assoc _ _ [stack.behind]]
    rfl
  rw [calculateOptNegMICJoinResponse,hmessage,List.take_of_length_le (hashedMessage_length stack fields).le]

/-- The two codes are equal, whatever the hash, exactly when the two messages
are. -/
theorem micOf_forall_iff (key : KEY128) (left right : Bytes) :
    (∀ crypto : Crypto,micOf (crypto.cmac key left)=micOf (crypto.cmac key right)) ↔ left=right :=
  cmac_forall_iff (by decide) key left right

/-- The documented message tells apart any two requests that differ in a field
that it names. -/
theorem documentedMessage_inj {left right : MicFields} (h : documentedMessage left=documentedMessage right) :
    left.rejoinType=right.rejoinType ∧ left.joinEUI=right.joinEUI ∧ left.devNonce=right.devNonce ∧
      frameFront left.frame=frameFront right.frame := by
  simp only [documentedMessage,List.cons_append,List.cons.injEq] at h
  obtain ⟨htype,hrest⟩ := h
  obtain ⟨hfields,hframe⟩ := List.append_inj' hrest (by rw [frameFront_length,frameFront_length])
  obtain ⟨heui,hnonce⟩ := List.append_inj hfields (by rw [leBytes_length,leBytes_length])
  have heuiValue := congrArg leValue heui
  rw [leValue_leBytes_of_lt left.joinEUI.toNat_lt,leValue_leBytes_of_lt right.joinEUI.toNat_lt] at heuiValue
  have hnonceValue := congrArg leValue hnonce
  rw [leValue_leBytes_of_lt left.devNonce.toNat_lt,leValue_leBytes_of_lt right.devNonce.toNat_lt] at hnonceValue
  exact ⟨htype,UInt64.toNat_inj.mp heuiValue,UInt16.toNat_inj.mp hnonceValue,hframe⟩

/-- The other nonce with the same first byte. -/
def otherNonce (devNonce : UInt16) : UInt16 := UInt16.ofNat ((devNonce.toNat+256)%65536)

/-- It differs, and only in its second byte. -/
theorem otherNonce_spec (devNonce : UInt16) :
    otherNonce devNonce≠devNonce ∧ UInt8.ofNat (otherNonce devNonce).toNat=UInt8.ofNat devNonce.toNat := by
  have hlt := devNonce.toNat_lt
  have hvalue : (otherNonce devNonce).toNat=(devNonce.toNat+256)%65536 := by
    rw [otherNonce,UInt16.toNat_ofNat']
    exact Nat.mod_eq_of_lt (Nat.mod_lt _ (by decide))
  constructor
  · intro he
    rw [he] at hvalue
    omega
  · apply UInt8.toNat_inj.mp
    rw [UInt8.toNat_ofNat',UInt8.toNat_ofNat',hvalue]
    omega

/-- For no request and no stack is the code the one of the documented message
whatever the hash; two nonces always share one code; and another byte behind
the buffer always gives another message. -/
theorem not_documented_mic (stack : MicStack) (fields : MicFields) (key : KEY128) :
    (¬∀ crypto : Crypto,calculateOptNegMICJoinResponse crypto stack fields key=
      micOf (crypto.cmac key (documentedMessage fields))) ∧
    (∃ other≠fields.devNonce,∀ crypto : Crypto,
      calculateOptNegMICJoinResponse crypto stack {fields with devNonce := other} key=
        calculateOptNegMICJoinResponse crypto stack fields key) ∧
    ∃ behind,¬∀ crypto : Crypto,calculateOptNegMICJoinResponse crypto {stack with behind := behind} fields key=
      calculateOptNegMICJoinResponse crypto stack fields key := by
  simp only [calculateOptNegMICJoinResponse_eq]
  refine ⟨fun h => ?_,⟨otherNonce fields.devNonce,(otherNonce_spec fields.devNonce).1,fun crypto => ?_⟩,
    stack.behind+1,fun h => ?_⟩
  · have hlength := congrArg List.length ((micOf_forall_iff key _ _).mp h)
    rw [hashedMessage_length,documentedMessage_length] at hlength
    omega
  · simp only [hashedMessage,(otherNonce_spec fields.devNonce).2]
  · have hmessage := (micOf_forall_iff key _ _).mp h
    have hbytes := List.append_cancel_left hmessage
    simp only [List.cons.injEq,true_and,and_true] at hbytes
    exact absurd hbytes (by simp)

/-- The code of zero fields under the zero key on a stack of zeros. -/
theorem not_documented_zero :
    ¬∀ (crypto : Crypto) (stack : MicStack) (fields : MicFields) (key : KEY128),
      calculateOptNegMICJoinResponse crypto stack fields key=micOf (crypto.cmac key (documentedMessage fields)) := by
  intro h
  have hall := fun crypto => (calculateOptNegMICJoinResponse_eq crypto ⟨Vector.replicate 24 0,0⟩
    ⟨⟨joinAcceptMhdr,JoinAcceptFrameHeader.blank,0⟩,0,0,0⟩ (constBlock 0)).symm.trans (h crypto _ _ _)
  exact absurd ((micOf_forall_iff (constBlock 0) _ _).mp hall) (by decide)

end LorawanServer.JoinIntegrity
