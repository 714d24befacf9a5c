import LorawanServer.DataFrame

/-!
# What the integrity code of an accepted frame covers

`parseData` narrows the length of the frame to one byte before it subtracts
the four bytes of the code, so the CMAC sees at most 255 bytes of a frame.
Frames below 260 bytes are covered whole and their block B0 names the exact
length. From 260 bytes on the covered part is shorter than the body, and two
different bodies share one code.
-/

namespace LorawanServer.FrameAuthenticity

open CppRuntime FrameCrypto Records DataFrame

/-- The bytes that the code hands to the CMAC for a received frame. -/
def micMessage (downlink : Bool) (data : Bytes) : Bytes :=
  blockB (PackedRfmHeader.ofBytes data).fcnt.toNat (direction downlink)
    (PackedRfmHeader.ofBytes data).devaddr (UInt8.ofNat data.length-4)++
      data.take (UInt8.ofNat data.length-4).toNat

/-- B0 with the length of all bytes before the code, followed by those bytes. -/
def wholeMessage (downlink : Bool) (data : Bytes) : Bytes :=
  blockB (PackedRfmHeader.ofBytes data).fcnt.toNat (direction downlink)
    (PackedRfmHeader.ofBytes data).devaddr (UInt8.ofNat (data.length-4))++data.take (data.length-4)

/-- The last four bytes of the frame are the first four of the CMAC of the
whole message under the key stored for the address of the frame. -/
def CoversWholeFrame (crypto : Crypto) (identityService : Option IdentityService) (downlink : Bool)
    (data : Bytes) : Prop :=
  ∃ id,lookup identityService (PackedRfmHeader.ofBytes data).devaddr=some id ∧
    data.drop (data.length-4)=(crypto.cmac id.nwkSKey (wholeMessage downlink data)).toList.take 4

/-- Authenticity of a frame as a whole: whenever it is accepted, the code
covers every byte before it and B0 carries their exact number. -/
def WholeFrameAuthentic (data : Bytes) : Prop :=
  ∀ (crypto : Crypto) (identityService : Option IdentityService) (packet result : SemtechUDPPacket),
    parseData crypto identityService packet data=.ok (result,LORA_OK) →
      CoversWholeFrame crypto identityService packet.downlink data ∧
        (UInt8.ofNat (data.length-4)).toNat=data.length-4

/-- Two accepted frames with one header and one code but different bodies are
told apart by the CMAC, because different messages were handed to it. -/
def BodiesSeparated (left right : Bytes) : Prop :=
  ∀ (crypto : Crypto) (identityService : Option IdentityService)
    (packet leftResult rightResult : SemtechUDPPacket),
    parseData crypto identityService packet left=.ok (leftResult,LORA_OK) →
    parseData crypto identityService packet right=.ok (rightResult,LORA_OK) →
    left.take 8=right.take 8 → left.drop (left.length-4)=right.drop (right.length-4) → left≠right →
      micMessage packet.downlink left≠micMessage packet.downlink right

/-- The code that is compared is the CMAC of `micMessage`. -/
theorem frameMic_eq {data : Bytes} (hl : 8≤data.length) (crypto : Crypto) (packet : SemtechUDPPacket)
    (id : DeviceId) :
    frameMic crypto (withHeader packet data) data id=
      micOf (crypto.cmac id.nwkSKey (micMessage packet.downlink data)) := by
  rw [frameMic,withHeader_header hl]
  rfl

/-- In every frame the eight-bit size is the length before the code, modulo 256. -/
theorem micSize_eq {size : ℕ} (h4 : 4 ≤ size) : (UInt8.ofNat size-4).toNat=(size-4)%256 := by
  rw [UInt8.toNat_sub,UInt8.toNat_ofNat']
  change (2^8-4+size%2^8)%2^8=(size-4)%256
  omega

/-- Below 260 bytes the compared message is the whole one. -/
theorem micMessage_eq_wholeMessage {data : Bytes} (h4 : 4≤data.length) (h : data.length<260)
    (downlink : Bool) : micMessage downlink data=wholeMessage downlink data := by
  have hs : (UInt8.ofNat data.length-4).toNat=data.length-4 := by
    rw [micSize_eq h4]
    omega
  have hb : UInt8.ofNat data.length-4=UInt8.ofNat (data.length-4) := by
    apply UInt8.toNat_inj.mp
    rw [hs,UInt8.toNat_ofNat',Nat.mod_eq_of_lt (by omega)]
  rw [micMessage,wholeMessage,hs,hb]

/-- Acceptance compares the end of the frame with the CMAC of `micMessage`. -/
theorem accepted_mic {crypto : Crypto} {identityService : Option IdentityService}
    {packet result : SemtechUDPPacket} {data : Bytes}
    (h : parseData crypto identityService packet data=.ok (result,LORA_OK)) :
    8≤data.length ∧ ∃ id,lookup identityService (PackedRfmHeader.ofBytes data).devaddr=some id ∧
      data.drop (data.length-4)=
        (crypto.cmac id.nwkSKey (micMessage packet.downlink data)).toList.take 4 := by
  obtain ⟨-,hl,id,hg,hm,-⟩ := (parseData_ok_iff crypto identityService packet result data).mp h
  rw [withHeader_header hl] at hg
  rw [frameMic_eq hl] at hm
  exact ⟨hl,id,hg,(getMic_eq_micOf_iff (by omega) _).mp hm⟩

/-- A block that starts with the last four bytes of a frame. -/
def micBlock (data : Bytes) : Vector UInt8 16 := overwrite (constBlock 0) (data.drop (data.length-4))

/-- The block matches the end of its frame. -/
theorem micBlock_take {data : Bytes} (h4 : 4≤data.length) :
    (micBlock data).toList.take 4=data.drop (data.length-4) := by
  have hl : (data.drop (data.length-4)).length=4 := by
    rw [List.length_drop]
    omega
  have ho := overwrite_take (constBlock 0) (hl.trans_le (by decide))
  rwa [hl] at ho

/-- A data frame is accepted as soon as the CMAC of its message starts with
its last four bytes. -/
theorem accepted_of_cmac {data : Bytes} (hj : isJoinType data=false) (hl : 8≤data.length)
    {crypto : Crypto} {id : DeviceId} (packet : SemtechUDPPacket)
    (hc : crypto.cmac id.nwkSKey (micMessage packet.downlink data)=micBlock data) :
    parseData crypto (some (constService id)) packet data=
      .ok (acceptedPacket crypto packet data id,LORA_OK) := by
  refine (parseData_ok_iff _ _ _ _ _).mpr ⟨hj,hl,id,rfl,?_,rfl⟩
  rw [frameMic_eq hl,hc]
  exact (getMic_eq_micOf_iff (by omega) _).mpr (micBlock_take (by omega)).symm

/-- A CMAC that tells messages apart by their length only: messages of the
chosen length get the first block, all others the second. -/
def lengthCrypto (size : ℕ) (inside outside : Vector UInt8 16) : Crypto where
  aesEncrypt _ _ := constBlock 0
  cmac _ message := if message.length=size then inside else outside

/-- Length of the message that the code covers. -/
theorem micMessage_length {data : Bytes} (h4 : 4≤data.length) (downlink : Bool) :
    (micMessage downlink data).length=16+(data.length-4)%256 := by
  rw [micMessage,List.length_append,List.length_take,micSize_eq h4]
  change 16+min ((data.length-4)%256) data.length=16+(data.length-4)%256
  omega

/-- Length of the whole message. -/
theorem wholeMessage_length (downlink : Bool) (data : Bytes) :
    (wholeMessage downlink data).length=16+(data.length-4) := by
  rw [wholeMessage,List.length_append,List.length_take]
  change 16+min (data.length-4) data.length=16+(data.length-4)
  omega

/-- From 260 bytes on some CMAC accepts a data frame although the whole
message has another code. -/
theorem accepted_uncovered {data : Bytes} (hj : isJoinType data=false) (hl : 260≤data.length)
    (packet : SemtechUDPPacket) (id : DeviceId) :
    ∃ crypto result,parseData crypto (some (constService id)) packet data=.ok (result,LORA_OK) ∧
      ¬ CoversWholeFrame crypto (some (constService id)) packet.downlink data := by
  let other := constBlock (data.getD (data.length-4) 0+1)
  let crypto := lengthCrypto (16+(data.length-4)%256) (micBlock data) other
  have hin : crypto.cmac id.nwkSKey (micMessage packet.downlink data)=micBlock data :=
    if_pos (micMessage_length (by omega) packet.downlink)
  have hout : crypto.cmac id.nwkSKey (wholeMessage packet.downlink data)=other := by
    refine if_neg ?_
    rw [wholeMessage_length]
    omega
  refine ⟨crypto,_,accepted_of_cmac hj (by omega) packet hin,?_⟩
  rintro ⟨stored,hs,hd⟩
  have hid : stored=id := by
    have hc : some id=some stored := hs
    exact (Option.some.inj hc).symm
  rw [hid,hout] at hd
  have hf := congrArg (fun bytes : Bytes => bytes.getD 0 0) hd
  have hg : (data.drop (data.length-4)).getD 0 0=data.getD (data.length-4) 0 := by
    rw [List.getD_eq_getElem?_getD,List.getElem?_drop,Nat.add_zero,List.getD_eq_getElem?_getD]
  have ho : (other.toList.take 4).getD 0 0=data.getD (data.length-4) 0+1 := rfl
  rw [hg,ho] at hf
  have hz : data.getD (data.length-4) 0+0=data.getD (data.length-4) 0+1 := by rwa [UInt8.add_zero]
  exact absurd (UInt8.add_right_inj _ |>.mp hz) (by decide)

/-- Frames below 260 bytes are authentic as a whole. -/
theorem wholeFrameAuthentic_of_lt {data : Bytes} (h : data.length<260) : WholeFrameAuthentic data := by
  intro crypto identityService packet result ha
  obtain ⟨hl,id,hg,hd⟩ := accepted_mic ha
  rw [micMessage_eq_wholeMessage (by omega) h] at hd
  refine ⟨⟨id,hg,hd⟩,?_⟩
  rw [UInt8.toNat_ofNat']
  omega

/-- Whole messages of two frames with one header and one code determine the
frames. -/
theorem bodiesSeparated_of_lt {left right : Bytes} (hl : left.length<260) (hr : right.length<260) :
    BodiesSeparated left right := by
  intro crypto identityService packet leftResult rightResult ha hb _ hm hn he
  have hl8 := (accepted_mic ha).1
  have hr8 := (accepted_mic hb).1
  rw [micMessage_eq_wholeMessage (by omega) hl,micMessage_eq_wholeMessage (by omega) hr] at he
  have ht := (List.append_inj he rfl).2
  apply hn
  rw [←List.take_append_drop (left.length-4) left,←List.take_append_drop (right.length-4) right,ht,hm]

/-- A data frame is authentic as a whole exactly when it is shorter than 260
bytes, and between two such frames the CMAC sees every difference. -/
theorem accepted_frame_covered_iff (data : Bytes) (hj : isJoinType data=false) :
    (WholeFrameAuthentic data ↔ data.length<260) ∧
      ∀ other : Bytes,data.length<260 → other.length<260 → BodiesSeparated data other := by
  refine ⟨⟨fun hw => ?_,wholeFrameAuthentic_of_lt⟩,fun other hl hr => bodiesSeparated_of_lt hl hr⟩
  by_contra hn
  obtain ⟨crypto,result,ha,hc⟩ :=
    accepted_uncovered hj (by omega) SemtechUDPPacket.empty DeviceId.empty
  exact hc (hw _ _ _ _ ha).1

/-- An empty data frame of twelve bytes. -/
def shortFrame : Bytes := [0x40,1,0,0,0,0,3,0,9,9,9,9]

/-- The twelve-byte frame is authentic, and told apart from itself with another
counter. -/
theorem short_frame_covered :
    isJoinType shortFrame=false ∧ WholeFrameAuthentic shortFrame ∧ shortFrame.length<260 ∧
      BodiesSeparated shortFrame (shortFrame.set 6 4) :=
  ⟨by decide,(accepted_frame_covered_iff shortFrame (by decide)).1.mpr (by decide),by decide,
    (accepted_frame_covered_iff shortFrame (by decide)).2 (shortFrame.set 6 4) (by decide) (by decide)⟩

/-- Some frame of 260 bytes is accepted without being covered. -/
theorem frame_of_260_bytes_uncovered :
    ¬ WholeFrameAuthentic (List.replicate 260 0x40) := by
  intro hw
  have hj : isJoinType (List.replicate 260 0x40)=false := by decide
  obtain ⟨crypto,result,ha,hc⟩ := accepted_uncovered hj (by rw [List.length_replicate])
    SemtechUDPPacket.empty DeviceId.empty
  exact hc (hw _ _ _ _ ha).1

end LorawanServer.FrameAuthenticity
