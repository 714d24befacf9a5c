import LorawanServer.MacCommands
import LorawanServer.ReceptionText

/-!
# Setting the parameters of a command

`MacData::set`. A command is a little-endian number, and its members are ranges of
bits in it; the layout is the one of a compiler that fills bytes from their lowest
bit on. A value that is too large for its member loses its high bits. A command
with too few values keeps the parameters it had.
-/

namespace LorawanServer.MacSetters

open CppRuntime MacCommands ReceptionText
open PacketHandler (Timeval)

/-- An assignment to a member of a command. -/
structure Assignment where
  /-- First bit of the member. -/
  position : ℕ
  /-- Number of its bits. -/
  width : ℕ
  /-- What is assigned. -/
  value : ℤ
  deriving DecidableEq

/-- The number whose bytes are the command. -/
def image (command : MAC_COMMAND) : ℕ := leValue command.toList

/-- The command of a number. -/
def ofImage (number : ℕ) : MAC_COMMAND := Vector.ofFn fun i => UInt8.ofNat (number/256^i.val)

/-- What a member holds. -/
def getMember (position width : ℕ) (command : MAC_COMMAND) : ℕ := image command/2^position%2^width

/-- A number with some of its bits replaced. -/
def replaceBits (position width value number : ℕ) : ℕ :=
  number/2^(position+width)*2^(position+width)+value*2^position+number%2^position

/-- A member is assigned. -/
def Assignment.assign (command : MAC_COMMAND) (a : Assignment) : MAC_COMMAND :=
  ofImage (replaceBits a.position a.width (a.value%2^a.width).toNat (image command))

/-- Members are assigned one behind the other. -/
def assignAll (command : MAC_COMMAND) (assignments : List Assignment) : MAC_COMMAND :=
  assignments.foldl Assignment.assign command

/-- The first switch of `MacData::set`: sent by the gateway. -/
def setClientSide (now : Timeval) : MAC_CID → List ℤ → List Assignment
  | .Reset,_ => [⟨12,4,0⟩,⟨8,4,1⟩]
  | .LinkCheck,margin::gwcnt::_ => [⟨8,8,margin⟩,⟨16,8,gwcnt⟩]
  | .LinkADR,txpower::datarate::chmask::nbtans::chmaskcntl::_ =>
    [⟨8,4,txpower⟩,⟨12,4,datarate⟩,⟨16,16,chmask⟩,⟨32,4,nbtans⟩,⟨36,3,chmaskcntl⟩,⟨39,1,0⟩]
  | .DutyCycle,maxdccycle::_ => [⟨8,4,maxdccycle⟩,⟨12,4,0⟩]
  | .RXParamSetup,frequency::rx1droffset::rx2datatrate::_ =>
    [⟨16,24,frequency⟩,⟨12,3,rx1droffset⟩,⟨8,4,rx2datatrate⟩,⟨15,1,0⟩]
  | .NewChannel,chindex::frequency::mindr::maxdr::_ => [⟨8,8,chindex⟩,⟨16,24,frequency⟩,⟨40,4,mindr⟩,⟨44,4,maxdr⟩]
  | .RXTimingSetup,delay::_ => [⟨8,4,delay⟩,⟨12,4,0⟩]
  | .TXParamSetup,downlinkdwelltime::uplinkdwelltime::maxeirp::_ =>
    [⟨13,1,downlinkdwelltime⟩,⟨12,1,uplinkdwelltime⟩,⟨8,4,maxeirp⟩,⟨14,2,0⟩]
  | .DLChannel,chindex::frequency::_ => [⟨8,8,chindex⟩,⟨16,24,frequency⟩]
  | .Rekey,_ => [⟨8,4,1⟩,⟨12,4,0⟩]
  | .ADRParamSetup,limitexp::delayexp::_ => [⟨12,4,limitexp⟩,⟨8,4,delayexp⟩]
  | .DeviceTime,_ => [⟨8,32,(utc2gps now.tvSec).toNat⟩,⟨40,8,now.tvUsec⟩]
  | .ForceRejoin,period::maxretries::rejointype::_ =>
    [⟨19,3,period⟩,⟨16,3,maxretries⟩,⟨12,3,rejointype⟩,⟨15,1,0⟩,⟨22,2,0⟩]
  | .RejoinParamSetup,maxtime::maxccount::_ => [⟨12,4,maxtime⟩,⟨8,4,maxccount⟩]
  | .PingSlotChannel,frequency::dr::_ => [⟨16,24,frequency⟩,⟨8,4,dr⟩,⟨12,4,0⟩]
  | .BeaconTiming,delay::channel::_ => [⟨16,16,delay⟩,⟨8,8,channel⟩]
  | .BeaconFreq,frequency::_ => [⟨8,24,frequency⟩]
  | .DeviceMode,cl::_ => [⟨8,8,cl⟩]
  | _,_ => []

/-- The second switch of `MacData::set`: sent by an end-device. -/
def setServerSide : MAC_CID → List ℤ → List Assignment
  | .Reset,_ => [⟨12,4,0⟩,⟨8,4,1⟩]
  | .LinkADR,powerack::datarateack::channelmaskack::_ =>
    [⟨10,1,powerack⟩,⟨9,1,datarateack⟩,⟨8,1,channelmaskack⟩,⟨11,5,0⟩]
  | .RXParamSetup,rx1droffsetack::rx2datatrateack::channelack::_ =>
    [⟨10,1,rx1droffsetack⟩,⟨9,1,rx2datatrateack⟩,⟨8,1,channelack⟩,⟨11,5,0⟩]
  | .DevStatus,battery::margin::_ => [⟨8,8,battery⟩,⟨16,8,margin⟩]
  | .NewChannel,channelfrequencyack::datarateack::_ => [⟨8,1,channelfrequencyack⟩,⟨9,1,datarateack⟩,⟨10,6,0⟩]
  | .DLChannel,channelfrequencyack::uplinkfrequencyexistsack::_ =>
    [⟨8,1,channelfrequencyack⟩,⟨9,1,uplinkfrequencyexistsack⟩,⟨10,6,0⟩]
  | .Rekey,_ => [⟨8,4,1⟩,⟨12,4,0⟩]
  | .RejoinParamSetup,timeack::_ => [⟨8,1,timeack⟩,⟨9,7,0⟩]
  | .PingSlotInfo,periodicity::_ => [⟨8,3,periodicity⟩,⟨11,5,0⟩]
  | .PingSlotChannel,drack::frequencyack::_ => [⟨9,1,drack⟩,⟨8,1,frequencyack⟩,⟨10,6,0⟩]
  | .BeaconFreq,frequencyack::_ => [⟨8,1,frequencyack⟩,⟨9,7,0⟩]
  | .DeviceMode,cl::_ => [⟨8,8,cl⟩]
  | _,_ => []

/-- `MacData::set` at a time of the clock. -/
def MacData.set (now : Timeval) (data : MacData) (cid : MAC_CID) (values : List ℤ) (clientSide : Bool) : MacData :=
  let assignments := if clientSide then setClientSide now cid values else setServerSide cid values
  {data with command := assignAll (withCid data.command cid) assignments,isClientSide := clientSide}

/-- The constructor of `MacData` for a payload, over what the memory holds. -/
def MacData.ofPayload (stale : MAC_COMMAND) (value : Bytes) (sentByGateway : Bool) : MacData :=
  let parsed := if sentByGateway then parseClientSide stale value else parseServerSide stale value
  ⟨parsed.2,if parsed.1<0 then parsed.1 else 0,sentByGateway⟩

/-- Replaced bits do not reach the bits below them. -/
theorem replaceBits_mod {position width value number low : ℕ} (h : low≤position) :
    replaceBits position width value number%2^low=number%2^low := by
  obtain ⟨rest,rfl⟩ := Nat.exists_eq_add_of_le h
  have hhigh : number/2^(low+rest+width)*2^(low+rest+width)=2^low*(number/2^(low+rest+width)*2^(rest+width)) := by
    rw [Nat.add_assoc,pow_add 2 low]
    ring
  have hvalue : value*2^(low+rest)=2^low*(value*2^rest) := by
    rw [pow_add]
    ring
  rw [replaceBits,hhigh,hvalue,Nat.add_assoc,Nat.mul_add_mod,Nat.mul_add_mod,
    Nat.mod_mod_of_dvd _ (pow_dvd_pow 2 h)]

/-- The first byte of a number is its lowest one. -/
theorem ofImage_head (number : ℕ) : cidByte (ofImage number)=UInt8.ofNat number := by
  rw [cidByte,ofImage,Vector.getElem_ofFn]
  exact congrArg UInt8.ofNat (Nat.div_one number)

/-- The first byte of a command is the lowest one of its number. -/
theorem image_head (command : MAC_COMMAND) : UInt8.ofNat (image command)=cidByte command := by
  obtain ⟨⟨bytes⟩,hlength⟩ := command
  cases bytes with
  | nil => cases hlength
  | cons first rest =>
    apply UInt8.toNat_inj.mp
    have hlt := first.toNat_lt
    rw [UInt8.toNat_ofNat']
    change (first.toNat+256*leValue rest)%256=first.toNat
    omega

/-- An assignment behind the first byte keeps that byte. -/
theorem Assignment.assign_head {a : Assignment} (h : 8≤a.position) (command : MAC_COMMAND) :
    cidByte (a.assign command)=cidByte command := by
  have hmod : replaceBits a.position a.width (a.value%2^a.width).toNat (image command)%2^8=image command%2^8 :=
    replaceBits_mod h
  rw [assign,ofImage_head,← image_head]
  apply UInt8.toNat_inj.mp
  rw [UInt8.toNat_ofNat',UInt8.toNat_ofNat',hmod]

/-- Assignments behind the first byte keep that byte. -/
theorem assignAll_head {assignments : List Assignment} (h : ∀ a∈assignments,8≤a.position) (command : MAC_COMMAND) :
    cidByte (assignAll command assignments)=cidByte command := by
  induction assignments generalizing command with
  | nil => rfl
  | cons a rest ih =>
    have hhead := Assignment.assign_head (h a List.mem_cons_self) command
    exact (ih (fun other hother => h other (List.mem_cons_of_mem _ hother)) _).trans hhead

/-- No assignment reaches the identifier. -/
theorem setClientSide_position (now : Timeval) (cid : MAC_CID) (values : List ℤ) :
    ∀ a∈setClientSide now cid values,8≤a.position := by
  unfold setClientSide
  split <;> simp

/-- No assignment reaches the identifier. -/
theorem setServerSide_position (cid : MAC_CID) (values : List ℤ) : ∀ a∈setServerSide cid values,8≤a.position := by
  unfold setServerSide
  split <;> simp

/-- A command that is set has the identifier that was asked for. -/
theorem set_head (now : Timeval) (data : MacData) (cid : MAC_CID) (values : List ℤ) (clientSide : Bool) :
    cidByte (MacData.set now data cid values clientSide).command=cid.code := by
  have hposition : ∀ a∈if clientSide then setClientSide now cid values else setServerSide cid values,8≤a.position := by
    cases clientSide with
    | false => exact setServerSide_position cid values
    | true => exact setClientSide_position now cid values
  exact (assignAll_head hposition _).trans (cidByte_withCid _ cid)

/-- A command without an error is as long as the table for its identifier says. -/
theorem toString_length {data : MacData} {cid : MAC_CID} (hhead : cidByte data.command=cid.code) (herr : data.errcode=0) :
    data.toString.length=sideSizes data.isClientSide cid := by
  have hbounds := (sideSizes_bounds data.isClientSide cid).2
  rw [MacData.toString,MacData.size,if_neg (not_not.mpr herr),commandSize_of_cidByte hhead _ (cidOf_code cid),List.length_take,
    Vector.length_toList]
  exact Nat.min_eq_left hbounds

end LorawanServer.MacSetters
