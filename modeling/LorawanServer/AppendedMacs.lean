import LorawanServer.PacketHandler

/-!
# Appending MAC commands to a packet

`appendMACs` writes commands behind the frame options while they fit, and else
behind the payload, where `getMACs` looks only on port 0. The calls after which
nothing is lost are described exactly: the commands fit into the options of a
packet whose payload holds none, or the packet is on port 0 and its options are
empty or repeat its payload.
-/

namespace LorawanServer.AppendedMacs

open CppRuntime Records DataFrame PacketHandler

/-- The commands are found behind the earlier ones, and an application payload
stays with its port. -/
def LosesNothing (packet : SemtechUDPPacket) (macs : Bytes) : Prop :=
  getMACs (appendMACs packet macs)=getMACs packet++macs ∧
    (hasApplicationPayload packet=true → (appendMACs packet macs).payload=packet.payload ∧
      (appendMACs packet macs).header.fport=packet.header.fport)

/-- Size of the frame options of a packet. -/
def optionsSize (packet : SemtechUDPPacket) : ℕ := foptslen packet.header.header.fctrl

/-- The payload holds no commands and the options have room for the new ones. -/
def FitsOptions (packet : SemtechUDPPacket) (macs : Bytes) : Prop :=
  isPayloadMAC packet=false ∧ optionsSize packet+macs.length≤15

/-- On port 0 the options are empty or the payload repeats them. -/
def PayloadCarries (packet : SemtechUDPPacket) : Prop :=
  packet.header.fport=0 ∧
    (optionsSize packet=0 ∨ packet.payload=packet.header.fopts.toList.take (optionsSize packet))

/-- Commands in the options hide the payload. -/
theorem getMACs_of_pos {packet : SemtechUDPPacket} (h : optionsSize packet≠0) :
    getMACs packet=packet.header.fopts.toList.take (optionsSize packet) := if_pos h

/-- Without options they are sought in the payload. -/
theorem getMACs_of_zero {packet : SemtechUDPPacket} (h : optionsSize packet=0) :
    getMACs packet=if packet.header.fport=0 ∧ 0<packet.payload.length then packet.payload else [] :=
  if_neg (not_not.mpr h)

/-- On port 0 with empty options the payload holds the commands. -/
theorem getMACs_of_port {packet : SemtechUDPPacket} (h : optionsSize packet=0) (hport : packet.header.fport=0) :
    getMACs packet=packet.payload := by
  rw [getMACs_of_zero h]
  split_ifs with hpay
  · rfl
  · exact (List.length_eq_zero_iff.mp (Nat.eq_zero_of_not_pos fun hpos => hpay ⟨hport,hpos⟩)).symm

/-- On any other port with empty options there are none. -/
theorem getMACs_of_ne {packet : SemtechUDPPacket} (h : optionsSize packet=0) (hport : packet.header.fport≠0) :
    getMACs packet=[] := by
  rw [getMACs_of_zero h,if_neg fun hpay => hport hpay.1]

/-- A payload without commands leaves those of the options. -/
theorem getMACs_of_not_isPayloadMAC {packet : SemtechUDPPacket} (h : isPayloadMAC packet=false) :
    getMACs packet=packet.header.fopts.toList.take (optionsSize packet) := by
  by_cases hsize : optionsSize packet=0
  · have hpay : ¬(packet.header.fport=0 ∧ 0<packet.payload.length) := fun hpay => by
      rw [isPayloadMAC,decide_eq_true hpay.1,decide_eq_true hpay.2] at h
      exact absurd h (by decide)
    rw [getMACs_of_zero hsize,if_neg hpay,hsize,List.take_zero]
  · exact getMACs_of_pos hsize

/-- Their number is the size of the options. -/
theorem getMACs_length_of_not_isPayloadMAC {packet : SemtechUDPPacket} (h : isPayloadMAC packet=false) :
    (getMACs packet).length=optionsSize packet := by
  have hlt : optionsSize packet<16 := foptslen_lt packet.header.header.fctrl
  rw [getMACs_of_not_isPayloadMAC h,List.length_take,Vector.length_toList]
  omega

/-- The branch of the payload is taken exactly when the options do not fit. -/
theorem forced_iff (packet : SemtechUDPPacket) (macs : Bytes) :
    (15<(getMACs packet).length+macs.length ∨ isPayloadMAC packet=true) ↔ ¬FitsOptions packet macs := by
  cases hpay : isPayloadMAC packet with
  | true => simp only [FitsOptions,hpay,or_true,Bool.true_eq_false,false_and,not_false_eq_true]
  | false =>
    rw [getMACs_length_of_not_isPayloadMAC hpay]
    simp only [FitsOptions,hpay,Bool.false_eq_true,or_false,true_and,not_le]

/-- The branch of the options. -/
theorem appendMACs_of_fits {packet : SemtechUDPPacket} {macs : Bytes} (h : FitsOptions packet macs) :
    appendMACs packet macs={packet with header := {packet.header with
      fopts := overwrite packet.header.fopts (getMACs packet++macs)
      header := {packet.header.header with
        fctrl := setFoptslen packet.header.header.fctrl (optionsSize packet+macs.length)}}} := by
  have hforced : ¬(15<(getMACs packet).length+macs.length ∨ isPayloadMAC packet=true) := fun hforced =>
    (forced_iff packet macs).mp hforced h
  have hfront : packet.header.fopts.toList.take (getMACs packet).length=getMACs packet := by
    rw [getMACs_length_of_not_isPayloadMAC h.1,getMACs_of_not_isPayloadMAC h.1]
  rw [appendMACs,if_neg hforced,hfront,getMACs_length_of_not_isPayloadMAC h.1]

/-- The branch of the payload. -/
theorem appendMACs_of_not_fits {packet : SemtechUDPPacket} {macs : Bytes} (h : ¬FitsOptions packet macs) :
    appendMACs packet macs={packet with
      payload := packet.payload++macs
      header := {packet.header with
        fopts := Vector.replicate 15 0
        header := {packet.header.header with fctrl := setFoptslen packet.header.header.fctrl 0}}} :=
  if_pos ((forced_iff packet macs).mpr h)

/-- The port always stays. -/
theorem appendMACs_fport (packet : SemtechUDPPacket) (macs : Bytes) :
    (appendMACs packet macs).header.fport=packet.header.fport := by
  rw [appendMACs]
  split <;> rfl

/-- Commands that fit into the options lose nothing. -/
theorem losesNothing_of_fits {packet : SemtechUDPPacket} {macs : Bytes} (h : FitsOptions packet macs) :
    LosesNothing packet macs := by
  refine ⟨?_,fun _ => ⟨by rw [appendMACs_of_fits h],appendMACs_fport packet macs⟩⟩
  have hsize : optionsSize (appendMACs packet macs)=optionsSize packet+macs.length := by
    rw [appendMACs_of_fits h]
    exact foptslen_setFoptslen (Nat.lt_succ_of_le h.2) packet.header.header.fctrl
  have hpay : isPayloadMAC (appendMACs packet macs)=false := by
    rw [appendMACs_of_fits h]
    exact h.1
  have hlength : (getMACs packet++macs).length=optionsSize packet+macs.length := by
    rw [List.length_append,getMACs_length_of_not_isPayloadMAC h.1]
  rw [getMACs_of_not_isPayloadMAC hpay,hsize,←hlength,appendMACs_of_fits h]
  exact overwrite_take packet.header.fopts (hlength.trans_le h.2)

/-- Otherwise only port 0 shows the payload with the commands behind it. -/
theorem getMACs_appendMACs_of_not_fits {packet : SemtechUDPPacket} {macs : Bytes} (h : ¬FitsOptions packet macs) :
    getMACs (appendMACs packet macs)=if packet.header.fport=0 then packet.payload++macs else [] := by
  have hsize : optionsSize (appendMACs packet macs)=0 := by
    rw [appendMACs_of_not_fits h]
    exact foptslen_setFoptslen (by decide) packet.header.header.fctrl
  have hport := appendMACs_fport packet macs
  split_ifs with hzero
  · rw [getMACs_of_port hsize (hport.trans hzero),appendMACs_of_not_fits h]
  · exact getMACs_of_ne hsize fun hnew => hzero (hport.symm.trans hnew)

/-- Port 0 is no port of an application. -/
theorem not_hasApplicationPayload {packet : SemtechUDPPacket} (h : packet.header.fport=0) :
    hasApplicationPayload packet=false := by
  rw [hasApplicationPayload,h]
  rfl

/-- Commands that do not fit lose nothing exactly when the payload carries
what was there before. -/
theorem losesNothing_iff_of_not_fits {packet : SemtechUDPPacket} {macs : Bytes} (h : ¬FitsOptions packet macs) :
    LosesNothing packet macs ↔ PayloadCarries packet := by
  constructor
  · intro hloses
    have hmacs := hloses.1
    rw [getMACs_appendMACs_of_not_fits h] at hmacs
    split_ifs at hmacs with hport
    · by_cases hsize : optionsSize packet=0
      · exact ⟨hport,.inl hsize⟩
      · rw [getMACs_of_pos hsize] at hmacs
        exact ⟨hport,.inr (List.append_cancel_right hmacs)⟩
    · -- away from port 0 something was there or is to be added, and nothing is found
      obtain ⟨hbefore,hadded⟩ := List.append_eq_nil_iff.mp hmacs.symm
      have hnotpay : isPayloadMAC packet=false := by
        rw [isPayloadMAC,decide_eq_false hport,Bool.false_and]
      have hsize := getMACs_length_of_not_isPayloadMAC hnotpay
      rw [hbefore,List.length_nil] at hsize
      exact absurd ⟨hnotpay,by rw [←hsize,hadded]; decide⟩ h
  · rintro ⟨hport,hcarries⟩
    have hmacs : getMACs packet=packet.payload := by
      rcases hcarries with hsize|hsame
      · exact getMACs_of_port hsize hport
      · by_cases hsize : optionsSize packet=0
        · exact getMACs_of_port hsize hport
        · rw [getMACs_of_pos hsize,hsame]
    refine ⟨?_,fun happ => ?_⟩
    · rw [getMACs_appendMACs_of_not_fits h,if_pos hport,hmacs]
    · rw [not_hasApplicationPayload hport] at happ
      cases happ

/-- Nothing is lost exactly when the commands fit into the options of a packet
whose payload holds none, or the packet is on port 0 and its options are empty
or repeat its payload. -/
theorem losesNothing_iff (packet : SemtechUDPPacket) (macs : Bytes) :
    LosesNothing packet macs ↔ FitsOptions packet macs ∨ PayloadCarries packet := by
  by_cases h : FitsOptions packet macs
  · exact iff_of_true (losesNothing_of_fits h) (.inl h)
  · rw [losesNothing_iff_of_not_fits h,or_iff_right h]

/-- Several appends that fit together lose nothing either. -/
theorem getMACs_foldl_appendMACs {packet : SemtechUDPPacket} {requests : List Bytes}
    (h : FitsOptions packet requests.flatten) :
    getMACs (requests.foldl appendMACs packet)=getMACs packet++requests.flatten := by
  induction requests generalizing packet with
  | nil => rw [List.foldl_nil,List.flatten_nil,List.append_nil]
  | cons macs requests ih =>
    obtain ⟨hpay,hroom⟩ := h
    rw [List.flatten_cons,List.length_append] at hroom
    have hfits : FitsOptions packet macs := ⟨hpay,by omega⟩
    have hsize : optionsSize (appendMACs packet macs)=optionsSize packet+macs.length := by
      rw [appendMACs_of_fits hfits]
      exact foptslen_setFoptslen (by omega) packet.header.header.fctrl
    have hnext : FitsOptions (appendMACs packet macs) requests.flatten := by
      refine ⟨?_,by omega⟩
      rw [appendMACs_of_fits hfits]
      exact hpay
    rw [List.foldl_cons,ih hnext,(losesNothing_of_fits hfits).1,List.flatten_cons,List.append_assoc]

/-- A packet with full options on an application port. -/
def fullPacket : SemtechUDPPacket :=
  {SemtechUDPPacket.empty with
    payload := [0xaa]
    header := {SemtechUDPPacket.empty.header with
      fport := 1
      fopts := Vector.replicate 15 2
      header := {SemtechUDPPacket.empty.header.header with fctrl := 15}}}

/-- A request for the device status, as `putMACRequests` adds it, displaces the
commands of the full packet. -/
theorem not_losesNothing_fullPacket : ¬∀ (packet : SemtechUDPPacket) (macs : Bytes),LosesNothing packet macs := by
  intro h
  have hmacs := (h fullPacket [6]).1
  exact absurd hmacs (by decide +kernel)

end LorawanServer.AppendedMacs
