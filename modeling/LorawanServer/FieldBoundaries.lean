import LorawanServer.FrameAuthenticity
import LorawanServer.PacketHandler

/-!
# Fields of an accepted frame and the bytes of its integrity code

The header reader takes the port from the byte behind the options as soon as
the frame has one, whether that byte belongs to the integrity code or not. The
fields of a frame come from the bytes before the code exactly when the frame
has room for a port. In a frame without a port the first byte of the code
becomes the port, and the handler routes the frame by it.
-/

namespace LorawanServer.FieldBoundaries

open CppRuntime FrameCrypto Records DataFrame FrameAuthenticity PacketHandler

/-- Options length that a frame announces. -/
def announced (data : Bytes) : ℕ := foptslen (PackedRfmHeader.ofBytes data).fctrl

/-- The packet has no payload to deliver and its port is not taken from the
code: frames that differ in the code only give the same port, and the handler
does not push the packet to the control queue. -/
def PortFree (packet : SemtechUDPPacket) (data : Bytes) (result : SemtechUDPPacket) : Prop :=
  hasApplicationPayload result=false ∧ isPayloadMAC result=false ∧
    (∀ (crypto : Crypto) (identityService : Option IdentityService) (other : Bytes)
      (otherResult : SemtechUDPPacket),other.length=data.length →
      other.take (data.length-4)=data.take (data.length-4) →
      parseData crypto identityService packet other=.ok (otherResult,LORA_OK) →
        otherResult.header.fport=result.header.fport) ∧
    ∀ (processor : LoraPacketProcessor) (services services' : Services) (time : Timeval)
      (result' : SemtechUDPPacket) (code : ℤ),
      put processor services time result=.ok (services',result',code) →
        ∀ item∈services'.queue,item∈services.queue ∨ item.processMode≠.controlNs

/-- Options, port and payload of an accepted frame come from the bytes before
its code. Every caller starts from a packet whose port is 0. -/
def FieldsBeforeMic (data : Bytes) : Prop :=
  ∀ (crypto : Crypto) (identityService : Option IdentityService) (packet result : SemtechUDPPacket),
    packet.header.fport=0 → parseData crypto identityService packet data=.ok (result,LORA_OK) →
      12+foptslen result.header.header.fctrl≤data.length ∧
      result.header.fopts.toList.take (foptslen result.header.header.fctrl)=
        (data.drop 8).take (foptslen result.header.header.fctrl) ∧
      (data.length=12+foptslen result.header.header.fctrl → PortFree packet data result)

/-- An accepted frame determines the header of the packet. -/
theorem acceptedPacket_header {data : Bytes} (hl : 8≤data.length) (crypto : Crypto)
    (packet : SemtechUDPPacket) (id : DeviceId) :
    (acceptedPacket crypto packet data id).header.header=PackedRfmHeader.ofBytes data :=
  withHeader_header hl packet

/-- The port of an accepted frame is the byte behind its options. -/
theorem acceptedPacket_fport {data : Bytes} (hl : 8≤data.length) (hp : 8+announced data<data.length)
    (crypto : Crypto) (packet : SemtechUDPPacket) (id : DeviceId) :
    (acceptedPacket crypto packet data id).header.fport=data.getD (8+announced data) 0 := by
  have h := RfmHeader.parse_fport hl (withMacheader packet data).header
  rw [announced] at hp
  rw [if_pos hp] at h
  exact h

/-- A CMAC that gives every message the code of one frame. -/
def constMac (data : Bytes) : Crypto := ⟨fun _ _ => constBlock 0,fun _ _ => micBlock data⟩

/-- Every complete data frame is accepted under some CMAC. -/
theorem accepted_constMac {data : Bytes} (hj : isJoinType data=false) (hl : 8≤data.length)
    (packet : SemtechUDPPacket) (id : DeviceId) :
    parseData (constMac data) (some (constService id)) packet data=
      .ok (acceptedPacket (constMac data) packet data id,LORA_OK) :=
  accepted_of_cmac hj hl packet rfl

/-- The same frame with another first byte of the code. -/
def otherCode (data : Bytes) : Bytes :=
  data.take (data.length-4)++[data.getD (data.length-4) 0+1,0,0,0]

/-- The other frame has the same length. -/
theorem otherCode_length {data : Bytes} (hl : 4≤data.length) : (otherCode data).length=data.length := by
  rw [otherCode,List.length_append,List.length_take]
  change min (data.length-4) data.length+4=data.length
  omega

/-- The other frame has the same bytes before the code. -/
theorem otherCode_take (data : Bytes) :
    (otherCode data).take (data.length-4)=data.take (data.length-4) := by
  have hl : (data.take (data.length-4)).length=data.length-4 := by
    rw [List.length_take]
    omega
  rw [otherCode,List.take_left' hl]

/-- The first byte of the other code. -/
theorem otherCode_getD (data : Bytes) :
    (otherCode data).getD (data.length-4) 0=data.getD (data.length-4) 0+1 := by
  have hl : (data.take (data.length-4)).length=data.length-4 := by
    rw [List.length_take]
    omega
  rw [otherCode,List.getD_eq_getElem?_getD,List.getElem?_append_right (by omega),hl,Nat.sub_self]
  rfl

/-- Frames with the same bytes before the code have the same header. -/
theorem header_of_take {left right : Bytes} {n : ℕ} (h : left.take n=right.take n) (hn : 8≤n) :
    PackedRfmHeader.ofBytes left=PackedRfmHeader.ofBytes right ∧ isJoinType left=isJoinType right := by
  have h8 : left.take 8=right.take 8 := by
    have ht := congrArg (List.take 8) h
    rwa [List.take_take,List.take_take,Nat.min_eq_left hn] at ht
  have hd : ∀ bytes : Bytes,bytes.headD 0=(bytes.take 8).headD 0 := by
    intro bytes
    cases bytes with
    | nil => rfl
    | cons byte tail => rfl
  constructor
  · rw [←PackedRfmHeader.ofBytes_take left,←PackedRfmHeader.ofBytes_take right,h8]
  · rw [isJoinType,isJoinType,hd left,hd right,h8]

/-- In a frame without a port the port of the packet follows the code. -/
theorem not_portFree {data : Bytes} (hj : isJoinType data=false) (hl : data.length=12+announced data)
    (crypto : Crypto) (packet : SemtechUDPPacket) (id : DeviceId) :
    ¬ PortFree packet data (acceptedPacket crypto packet data id) := by
  rintro ⟨-,-,hport,-⟩
  have h4 : 4≤data.length := by omega
  obtain ⟨hh,hjo⟩ := header_of_take (otherCode_take data) (by omega)
  have hlen := otherCode_length h4
  have ha : announced (otherCode data)=announced data := by rw [announced,hh,announced]
  have h8 : 8+announced data=data.length-4 := by omega
  have hok := accepted_constMac (hjo.trans hj) (by omega) packet id
  have he := hport _ _ _ _ hlen (otherCode_take data) hok
  rw [acceptedPacket_fport (by omega) (by rw [ha]; omega),acceptedPacket_fport (by omega) (by omega),ha,h8,
    otherCode_getD] at he
  have hz : data.getD (data.length-4) 0+1=data.getD (data.length-4) 0+0 := by rwa [UInt8.add_zero]
  exact absurd ((UInt8.add_right_inj _).mp hz) (by decide)

/-- The fields of a frame come from the bytes before its code exactly when it
is never accepted, being a join message or shorter than the header, or when it
has room for a port. -/
theorem fields_before_mic_iff (data : Bytes) :
    FieldsBeforeMic data ↔ isJoinType data=true ∨ data.length<8 ∨ 13+announced data≤data.length := by
  constructor
  · intro h
    by_contra hn
    obtain ⟨hj,hn⟩ := not_or.mp hn
    obtain ⟨hl,hs⟩ := not_or.mp hn
    have hj : isJoinType data=false := Bool.eq_false_iff.mpr hj
    have hok := accepted_constMac hj (by omega) SemtechUDPPacket.empty DeviceId.empty
    obtain ⟨hsize,-,hfree⟩ := h _ _ SemtechUDPPacket.empty _ rfl hok
    rw [acceptedPacket_header (by omega)] at hsize hfree
    have heq : data.length=12+announced data := by
      rw [announced] at hs ⊢
      omega
    exact not_portFree hj heq _ _ _ (hfree heq)
  · intro h crypto identityService packet result _ hok
    obtain ⟨hj,hl,id,-,-,rfl⟩ := (parseData_ok_iff _ _ _ _ _).mp hok
    have hs : 13+announced data≤data.length := by
      rcases h with h | h | h
      · exact absurd (hj.symm.trans h) (by decide)
      · omega
      · exact h
    rw [acceptedPacket_header hl]
    rw [announced] at hs
    refine ⟨by omega,?_,fun he => by omega⟩
    exact RfmHeader.parse_fopts hl (withMacheader packet data).header (by omega)

/-- A frame of device 1 without a port; its code starts with 42. -/
def portlessFrame : Bytes := [0x40,1,0,0,0,0,3,0,42,9,9,9]

/-- A processor that reserves port 42 and grants control to every device. -/
def controlProcessor : LoraPacketProcessor where
  identityService := some (constService DeviceId.empty)
  deviceChannelPlan := none
  receiverQueueService := false
  onLog := true
  reservedFPort := 42

/-- The frame without a port is routed to the control port. -/
theorem portless_frame_controls : ¬ FieldsBeforeMic portlessFrame := by
  intro h
  have hj : isJoinType portlessFrame=false := by decide
  have hok := accepted_constMac hj (by decide) SemtechUDPPacket.empty DeviceId.empty
  obtain ⟨-,-,hfree⟩ := h _ _ SemtechUDPPacket.empty _ rfl hok
  have hput := (hfree (by decide)).2.2.2 controlProcessor ⟨none,[],[]⟩ _ ⟨0,0⟩ _ _ rfl
  rcases hput _ (List.mem_singleton_self _) with hi | hi
  · exact absurd hi List.not_mem_nil
  · exact hi rfl

end LorawanServer.FieldBoundaries
