import LorawanServer.MacSetters

/-!
# Classes of requests

The constructors of the request classes against `MacData::set` with the same
values. Every constructor says that an end-device sends the command, so it is
written with the size of an answer. The class of the device mode, where both sizes
are the same, is the only one that is written as it is set.
-/

namespace LorawanServer.MacRequests

open CppRuntime MacCommands MacSetters
open PacketHandler (Timeval)

/-- A request with values that fit the members of its command. -/
inductive Request where
  /-- `MacDataClientLinkCheck`. -/
  | LinkCheck (linkMarginDb gatewaysReceivedRequestCount : Fin (2^8))
  /-- `MacDataClientLinkADR`. -/
  | LinkADR (txpower datarate : Fin (2^4)) (chmask : Fin (2^16)) (nbtans : Fin (2^4)) (chmaskcntl : Fin (2^3))
  /-- `MacDataClientDutyCycle`. -/
  | DutyCycle (value : Fin (2^4))
  /-- `MacDataClientRXParamSetup`. -/
  | RXParamSetup (frequency : Fin (2^24)) (rx1droffset : Fin (2^3)) (rx2datatrate : Fin (2^4))
  /-- `MacDataClientNewChannel`. -/
  | NewChannel (channelIndex : Fin (2^8)) (frequency : Fin (2^24)) (mindr maxdr : Fin (2^4))
  /-- `MacDataClientRXTimingSetup`. -/
  | RXTimingSetup (secondsPlus1 : Fin (2^4))
  /-- `MacDataTXParamSetup`. -/
  | TXParamSetup (downlinkDwellTime uplinkDwellTime : Bool) (maxEIRP : Fin (2^4))
  /-- `MacDataDLChannel`. -/
  | DLChannel (chindex : Fin (2^8)) (frequency : Fin (2^24))
  /-- `MacDataADRParamSetup`. -/
  | ADRParamSetup (ackLimit ackDelay : Fin (2^4))
  /-- `MacDataForceRejoin`. -/
  | ForceRejoin (period maxretries rejointype : Fin (2^3)) (dr : Fin (2^4))
  /-- `MacDataRejoinParamSetup`. -/
  | RejoinParamSetup (maxtime maxcount : Fin (2^4))
  /-- `MacDataPingSlotChannel`. -/
  | PingSlotChannel (frequency : Fin (2^24)) (datarate : Fin (2^4))
  /-- `MacDataBeaconTiming`. -/
  | BeaconTiming (delay : Fin (2^16)) (channel : Fin (2^8))
  /-- `MacDataBeaconFreq`. -/
  | BeaconFreq (frequency : Fin (2^24))
  /-- `MacDataDeviceMode`. -/
  | DeviceMode (classC : Bool)

/-- The body that the constructors share: an identifier and assignments over the
empty command, sent by an end-device. -/
def build (cid : MAC_CID) (assignments : List Assignment) : MacData :=
  ⟨assignAll (withCid MacData.empty.command cid) assignments,0,false⟩

/-- The code of a device class: zero for the first one and two for the last one. -/
def classCode (classC : Bool) : ℤ := if classC then 2 else 0

/-- A dwell time as a bit. -/
def dwellBit (dwellTime : Bool) : ℤ := if dwellTime then 1 else 0

/-- The constructors. One of them ignores its parameters, one takes a parameter
twice and the other one not at all, one swaps its two, and one has the identifier
of another command. -/
def Request.construct : Request → MacData
  | .LinkCheck linkMarginDb gatewaysReceivedRequestCount =>
    build .LinkCheck [⟨16,8,gatewaysReceivedRequestCount.val⟩,⟨8,8,linkMarginDb.val⟩]
  | .LinkADR _txpower _datarate _chmask _nbtans _chmaskcntl =>
    build .LinkADR [⟨8,4,15⟩,⟨12,4,0⟩,⟨16,16,65535⟩,⟨32,4,1⟩,⟨36,3,0⟩,⟨39,1,0⟩]
  | .DutyCycle value => build .DutyCycle [⟨8,4,(value.val&&&15 : ℕ)⟩,⟨12,4,0⟩]
  | .RXParamSetup frequency rx1droffset _rx2datatrate =>
    build .RXParamSetup [⟨16,24,frequency.val⟩,⟨12,3,(rx1droffset.val&&&7 : ℕ)⟩,⟨8,4,(rx1droffset.val&&&15 : ℕ)⟩,
      ⟨15,1,0⟩]
  | .NewChannel channelIndex frequency mindr maxdr =>
    build .NewChannel [⟨8,8,(channelIndex.val&&&15 : ℕ)⟩,⟨16,24,frequency.val⟩,⟨40,4,(mindr.val&&&15 : ℕ)⟩,
      ⟨44,4,(maxdr.val&&&15 : ℕ)⟩]
  | .RXTimingSetup secondsPlus1 => build .RXTimingSetup [⟨8,4,secondsPlus1.val⟩,⟨12,4,0⟩]
  | .TXParamSetup downlinkDwellTime uplinkDwellTime maxEIRP =>
    build .TXParamSetup [⟨13,1,dwellBit downlinkDwellTime⟩,⟨12,1,dwellBit uplinkDwellTime⟩,
      ⟨8,4,(maxEIRP.val&&&15 : ℕ)⟩,⟨14,2,0⟩]
  | .DLChannel chindex frequency => build .DLChannel [⟨8,8,(chindex.val&&&15 : ℕ)⟩,⟨16,24,frequency.val⟩]
  | .ADRParamSetup ackLimit ackDelay =>
    build .ADRParamSetup [⟨8,4,(ackLimit.val&&&15 : ℕ)⟩,⟨12,4,(ackDelay.val&&&15 : ℕ)⟩]
  | .ForceRejoin period maxretries rejointype dr =>
    build .ForceRejoin [⟨19,3,(period.val&&&7 : ℕ)⟩,⟨16,3,(maxretries.val&&&7 : ℕ)⟩,⟨12,3,(rejointype.val&&&7 : ℕ)⟩,
      ⟨8,4,(dr.val&&&15 : ℕ)⟩,⟨15,1,0⟩,⟨22,2,0⟩]
  | .RejoinParamSetup maxtime maxcount =>
    build .ForceRejoin [⟨12,4,(maxtime.val&&&15 : ℕ)⟩,⟨8,4,(maxcount.val&&&15 : ℕ)⟩]
  | .PingSlotChannel frequency datarate =>
    build .PingSlotChannel [⟨8,4,(datarate.val&&&15 : ℕ)⟩,⟨16,24,frequency.val⟩,⟨12,4,0⟩]
  | .BeaconTiming delay channel => build .BeaconTiming [⟨8,8,(channel.val&&&15 : ℕ)⟩,⟨16,16,delay.val⟩]
  | .BeaconFreq frequency => build .BeaconFreq [⟨8,24,frequency.val⟩]
  | .DeviceMode classC => build .DeviceMode [⟨8,8,classCode classC⟩]

/-- The command of a request. -/
def Request.cid : Request → MAC_CID
  | .LinkCheck .. => .LinkCheck
  | .LinkADR .. => .LinkADR
  | .DutyCycle .. => .DutyCycle
  | .RXParamSetup .. => .RXParamSetup
  | .NewChannel .. => .NewChannel
  | .RXTimingSetup .. => .RXTimingSetup
  | .TXParamSetup .. => .TXParamSetup
  | .DLChannel .. => .DLChannel
  | .ADRParamSetup .. => .ADRParamSetup
  | .ForceRejoin .. => .ForceRejoin
  | .RejoinParamSetup .. => .RejoinParamSetup
  | .PingSlotChannel .. => .PingSlotChannel
  | .BeaconTiming .. => .BeaconTiming
  | .BeaconFreq .. => .BeaconFreq
  | .DeviceMode .. => .DeviceMode

/-- The members that a request is to fill, each with its value, in the order of the
parameters. -/
def Request.members : Request → List Assignment
  | .LinkCheck margin gwcnt => [⟨8,8,margin.val⟩,⟨16,8,gwcnt.val⟩]
  | .LinkADR txpower datarate chmask nbtans chmaskcntl =>
    [⟨8,4,txpower.val⟩,⟨12,4,datarate.val⟩,⟨16,16,chmask.val⟩,⟨32,4,nbtans.val⟩,⟨36,3,chmaskcntl.val⟩]
  | .DutyCycle maxdccycle => [⟨8,4,maxdccycle.val⟩]
  | .RXParamSetup frequency rx1droffset rx2datatrate =>
    [⟨16,24,frequency.val⟩,⟨12,3,rx1droffset.val⟩,⟨8,4,rx2datatrate.val⟩]
  | .NewChannel chindex frequency mindr maxdr =>
    [⟨8,8,chindex.val⟩,⟨16,24,frequency.val⟩,⟨40,4,mindr.val⟩,⟨44,4,maxdr.val⟩]
  | .RXTimingSetup delay => [⟨8,4,delay.val⟩]
  | .TXParamSetup downlinkdwelltime uplinkdwelltime maxeirp =>
    [⟨13,1,dwellBit downlinkdwelltime⟩,⟨12,1,dwellBit uplinkdwelltime⟩,⟨8,4,maxeirp.val⟩]
  | .DLChannel chindex frequency => [⟨8,8,chindex.val⟩,⟨16,24,frequency.val⟩]
  | .ADRParamSetup limitexp delayexp => [⟨12,4,limitexp.val⟩,⟨8,4,delayexp.val⟩]
  | .ForceRejoin period maxretries rejointype dr =>
    [⟨19,3,period.val⟩,⟨16,3,maxretries.val⟩,⟨12,3,rejointype.val⟩,⟨8,4,dr.val⟩]
  | .RejoinParamSetup maxtime maxccount => [⟨12,4,maxtime.val⟩,⟨8,4,maxccount.val⟩]
  | .PingSlotChannel frequency dr => [⟨16,24,frequency.val⟩,⟨8,4,dr.val⟩]
  | .BeaconTiming delay channel => [⟨16,16,delay.val⟩,⟨8,8,channel.val⟩]
  | .BeaconFreq frequency => [⟨8,24,frequency.val⟩]
  | .DeviceMode classC => [⟨8,8,classCode classC⟩]

/-- `set` with the values of a request, for the side of the gateway. -/
def Request.setting (now : Timeval) (request : Request) : MacData :=
  MacData.set now .empty request.cid (request.members.map Assignment.value) true

/-- A command has the members of a request. -/
def Request.Restored (request : Request) (data : MacData) : Prop :=
  data.errcode=0 ∧ cidByte data.command=request.cid.code ∧
    ∀ a∈request.members,getMember a.position a.width data.command=a.value

/-- A request is written as it is set, and what is written is read back. -/
def Request.Consistent (now : Timeval) (stale : MAC_COMMAND) (request : Request) : Prop :=
  request.construct.toString=(request.setting now).toString ∧
    request.Restored (MacData.ofPayload stale request.construct.toString true)

/-- The request sets the device mode. -/
def Request.IsDeviceMode : Request → Prop
  | .DeviceMode _ => True
  | _ => False

/-- A command that is built has its identifier. -/
theorem build_head {cid : MAC_CID} {assignments : List Assignment} (h : ∀ a∈assignments,8≤a.position) :
    cidByte (build cid assignments).command=cid.code :=
  (assignAll_head h _).trans (cidByte_withCid _ cid)

/-- A command that is built is as long as an answer. -/
theorem build_length {cid : MAC_CID} {assignments : List Assignment} (h : ∀ a∈assignments,8≤a.position) :
    (build cid assignments).toString.length=deviceSizes cid := toString_length (build_head h) rfl

/-- A command that is set is as long as a request. -/
theorem setting_length (now : Timeval) (request : Request) :
    (request.setting now).toString.length=gatewaySizes request.cid := toString_length (set_head ..) rfl

/-- Every other request is shorter than it is to be. -/
theorem construct_length_lt {request : Request} (h : ¬ request.IsDeviceMode) :
    request.construct.toString.length<gatewaySizes request.cid := by
  cases request with
  | DeviceMode classC => exact absurd trivial h
  | _ =>
    rw [Request.construct,build_length (by simp)]
    dsimp only [Request.cid]
    decide

/-- What is read over the memory has the bytes that were read in front. -/
theorem overwrite_pair (stale : MAC_COMMAND) (first second : UInt8) :
    ∃ rest,(overwrite stale [first,second]).toList=first::second::rest := by
  refine ⟨(overwrite stale [first,second]).toList.drop 2,?_⟩
  have hfits : [first,second].length≤6 := (Nat.le_add_left 2 4)
  have htake : (overwrite stale [first,second]).toList.take 2=[first,second] := overwrite_take stale hfits
  calc (overwrite stale [first,second]).toList
      =(overwrite stale [first,second]).toList.take 2++(overwrite stale [first,second]).toList.drop 2 :=
        (List.take_append_drop 2 _).symm
    _=first::second::(overwrite stale [first,second]).toList.drop 2 := by rw [htake]; rfl

/-- The device mode is written as it is set and read back. -/
theorem deviceMode_consistent (now : Timeval) (stale : MAC_COMMAND) (classC : Bool) :
    (Request.DeviceMode classC).Consistent now stale := by
  obtain ⟨cl,hcl,htext,hset⟩ : ∃ cl : UInt8,(cl.toNat : ℤ)=classCode classC ∧
      (Request.DeviceMode classC).construct.toString=[32,cl] ∧
      ((Request.DeviceMode classC).setting now).toString=[32,cl] := by
    cases classC with
    | false => exact ⟨0,rfl,by decide,by rfl⟩
    | true => exact ⟨2,rfl,by decide,by rfl⟩
  obtain ⟨rest,hrest⟩ := overwrite_pair stale 32 cl
  refine ⟨htext.trans hset.symm,?_⟩
  have hparsed : MacData.ofPayload stale [32,cl] true=⟨overwrite stale [32,cl],0,true⟩ := rfl
  rw [htext,hparsed]
  refine ⟨rfl,?_,?_⟩
  · rw [← image_head,image,hrest]
    apply UInt8.toNat_inj.mp
    rw [UInt8.toNat_ofNat']
    change (32+256*leValue (cl::rest))%256=32
    omega
  · intro a ha
    obtain rfl := List.mem_singleton.mp ha
    have hlt := cl.toNat_lt
    rw [← hcl,getMember,image,hrest]
    change (((32+256*(cl.toNat+256*leValue rest))/2^8%2^8 : ℕ) : ℤ)=cl.toNat
    omega

/-- The class of the device mode is the only one that is consistent. -/
theorem consistent_iff (now : Timeval) (stale : MAC_COMMAND) (request : Request) :
    request.Consistent now stale ↔ request.IsDeviceMode := by
  constructor
  · intro h
    by_contra hmode
    have hlt := construct_length_lt hmode
    rw [h.1,setting_length] at hlt
    exact Nat.lt_irrefl _ hlt
  · intro h
    cases request with
    | DeviceMode classC => exact deviceMode_consistent now stale classC
    | _ => exact h.elim

/-- A request for three gateways with a margin of ten. -/
def sampleCheck : Request := .LinkCheck 10 3

/-- It is written without its values. -/
theorem sampleCheck_cut :
    sampleCheck.construct.toString=[2] ∧ (sampleCheck.setting ⟨0,0⟩).toString=[2,10,3] ∧
    ¬ sampleCheck.Consistent ⟨0,0⟩ (Vector.replicate 6 0) := by
  have hbuilt : sampleCheck.construct.toString=[2] := by decide +kernel
  have hset : (sampleCheck.setting ⟨0,0⟩).toString=[2,10,3] := by decide +kernel
  refine ⟨hbuilt,hset,fun h => ?_⟩
  have hsame := h.1
  rw [hbuilt,hset] at hsame
  exact absurd hsame (by decide)

end LorawanServer.MacRequests
