import LorawanServer.IdentityText

/-!
# MAC commands

The commands of `lorawan-mac.h` with their sizes, the four parsers of
`lorawan-mac.cpp` with the switch of each, `commandSize`, and the classes
`MacData` and `MacDataList`. A command is its identifier and up to five bytes
of parameters; the gateway and the end-device send different parameters under
one identifier. The separately written tables are shown to agree.
-/

namespace LorawanServer.MacCommands

open CppRuntime IdentityText

/-- `ERR_CODE_MAC_TOO_SHORT`. -/
abbrev ERR_CODE_MAC_TOO_SHORT : ℤ := -542
/-- `ERR_CODE_MAC_INVALID`. -/
abbrev ERR_CODE_MAC_INVALID : ℤ := -543

/-- `MAC_CID`. -/
inductive MAC_CID where
  /-- `0x01`. -/
  | Reset
  /-- `0x02`. -/
  | LinkCheck
  /-- `0x03`. -/
  | LinkADR
  /-- `0x04`. -/
  | DutyCycle
  /-- `0x05`. -/
  | RXParamSetup
  /-- `0x06`. -/
  | DevStatus
  /-- `0x07`. -/
  | NewChannel
  /-- `0x08`. -/
  | RXTimingSetup
  /-- `0x09`. -/
  | TXParamSetup
  /-- `0x0a`. -/
  | DLChannel
  /-- `0x0b`. -/
  | Rekey
  /-- `0x0c`. -/
  | ADRParamSetup
  /-- `0x0d`. -/
  | DeviceTime
  /-- `0x0e`. -/
  | ForceRejoin
  /-- `0x0f`. -/
  | RejoinParamSetup
  /-- `0x10`. -/
  | PingSlotInfo
  /-- `0x11`. -/
  | PingSlotChannel
  /-- `0x12`. -/
  | BeaconTiming
  /-- `0x13`. -/
  | BeaconFreq
  /-- `0x20`. -/
  | DeviceMode
  deriving DecidableEq,Repr

/-- Value of an identifier. -/
def MAC_CID.code : MAC_CID → UInt8
  | .Reset => 1
  | .LinkCheck => 2
  | .LinkADR => 3
  | .DutyCycle => 4
  | .RXParamSetup => 5
  | .DevStatus => 6
  | .NewChannel => 7
  | .RXTimingSetup => 8
  | .TXParamSetup => 9
  | .DLChannel => 10
  | .Rekey => 11
  | .ADRParamSetup => 12
  | .DeviceTime => 13
  | .ForceRejoin => 14
  | .RejoinParamSetup => 15
  | .PingSlotInfo => 16
  | .PingSlotChannel => 17
  | .BeaconTiming => 18
  | .BeaconFreq => 19
  | .DeviceMode => 32

/-- The case that a byte selects in the switches below. -/
def cidOf : UInt8 → Option MAC_CID
  | 1 => some .Reset
  | 2 => some .LinkCheck
  | 3 => some .LinkADR
  | 4 => some .DutyCycle
  | 5 => some .RXParamSetup
  | 6 => some .DevStatus
  | 7 => some .NewChannel
  | 8 => some .RXTimingSetup
  | 9 => some .TXParamSetup
  | 10 => some .DLChannel
  | 11 => some .Rekey
  | 12 => some .ADRParamSetup
  | 13 => some .DeviceTime
  | 14 => some .ForceRejoin
  | 15 => some .RejoinParamSetup
  | 16 => some .PingSlotInfo
  | 17 => some .PingSlotChannel
  | 18 => some .BeaconTiming
  | 19 => some .BeaconFreq
  | 32 => some .DeviceMode
  | _ => none

/-- A byte selects the case it is the value of. -/
@[simp] theorem cidOf_code (cid : MAC_CID) : cidOf cid.code=some cid := by
  cases cid <;> rfl

/-- Different commands have different identifiers. -/
theorem MAC_CID.code_injective : Function.Injective MAC_CID.code := by
  intro left right h
  have hcid := congrArg cidOf h
  rw [cidOf_code,cidOf_code] at hcid
  exact Option.some.inj hcid

/-- No other byte selects a case. -/
theorem cidOf_eq_some {command : UInt8} {cid : MAC_CID} (h : cidOf command=some cid) : command=cid.code := by
  unfold cidOf at h
  split at h <;> cases h <;> rfl

/-- `MAC_EMPTY_SIZE`. -/
def MAC_EMPTY_SIZE : ℕ := 1+0
/-- `MAC_RESET_SIZE`. -/
def MAC_RESET_SIZE : ℕ := 1+1
/-- `MAC_LINK_CHECK_SIZE`. -/
def MAC_LINK_CHECK_SIZE : ℕ := 1+2
/-- `MAC_LINK_ADR_REQ_SIZE`. -/
def MAC_LINK_ADR_REQ_SIZE : ℕ := 1+4
/-- `MAC_LINK_ADR_RESP_SIZE`. -/
def MAC_LINK_ADR_RESP_SIZE : ℕ := 1+1
/-- `MAC_DUTY_CYCLE_SIZE`. -/
def MAC_DUTY_CYCLE_SIZE : ℕ := 1+1
/-- `MAC_RXRARAMSETUP_REQ_SIZE`. -/
def MAC_RXRARAMSETUP_REQ_SIZE : ℕ := 1+4
/-- `MAC_RXRARAMSETUP_RESP_SIZE`. -/
def MAC_RXRARAMSETUP_RESP_SIZE : ℕ := 1+1
/-- `MAC_DEVSTATUS_SIZE`. -/
def MAC_DEVSTATUS_SIZE : ℕ := 1+2
/-- `MAC_NEWCHANNEL_REQ_SIZE`. -/
def MAC_NEWCHANNEL_REQ_SIZE : ℕ := 1+5
/-- `MAC_NEWCHANNEL_RESP_SIZE`. -/
def MAC_NEWCHANNEL_RESP_SIZE : ℕ := 1+1
/-- `MAC_TIMINGSETUP_SIZE`. -/
def MAC_TIMINGSETUP_SIZE : ℕ := 1+1
/-- `MAC_TXPARAMSETUP_SIZE`. -/
def MAC_TXPARAMSETUP_SIZE : ℕ := 1+1
/-- `MAC_DLCHANNEL_REQ_SIZE`. -/
def MAC_DLCHANNEL_REQ_SIZE : ℕ := 1+4
/-- `MAC_DLCHANNEL_RESP_SIZE`. -/
def MAC_DLCHANNEL_RESP_SIZE : ℕ := 1+1
/-- `MAC_REKEY_REQ_SIZE`. -/
def MAC_REKEY_REQ_SIZE : ℕ := 1+1
/-- `MAC_REKEY_RESP_SIZE`. -/
def MAC_REKEY_RESP_SIZE : ℕ := 1+1
/-- `MAC_ADRPARAMSETUP_SIZE`. -/
def MAC_ADRPARAMSETUP_SIZE : ℕ := 1+1
/-- `MAC_DEVICETIME_SIZE`. -/
def MAC_DEVICETIME_SIZE : ℕ := 1+5
/-- `MAC_FORCEREJOIN_SIZE`. -/
def MAC_FORCEREJOIN_SIZE : ℕ := 1+2
/-- `MAC_REJOINPARAMSETUP_REQ_SIZE`. -/
def MAC_REJOINPARAMSETUP_REQ_SIZE : ℕ := 1+1
/-- `MAC_REJOINPARAMSETUP_RESP_SIZE`. -/
def MAC_REJOINPARAMSETUP_RESP_SIZE : ℕ := 1+1
/-- `MAC_PINGSLOTINFO_SIZE`. -/
def MAC_PINGSLOTINFO_SIZE : ℕ := 1+1
/-- `MAC_PINGSLOTCHANNEL_REQ_SIZE`. -/
def MAC_PINGSLOTCHANNEL_REQ_SIZE : ℕ := 1+4
/-- `MAC_PINGSLOTCHANNEL_RESP_SIZE`. -/
def MAC_PINGSLOTCHANNEL_RESP_SIZE : ℕ := 1+1
/-- `MAC_BEACONTIMING_SIZE`. -/
def MAC_BEACONTIMING_SIZE : ℕ := 1+3
/-- `MAC_BEACONFREQUENCY_REQ_SIZE`. -/
def MAC_BEACONFREQUENCY_REQ_SIZE : ℕ := 1+3
/-- `MAC_BEACONFREQUENCY_RESP_SIZE`. -/
def MAC_BEACONFREQUENCY_RESP_SIZE : ℕ := 1+1
/-- `MAC_DEVICEMODE_SIZE`. -/
def MAC_DEVICEMODE_SIZE : ℕ := 1+1

/-- `MAC_COMMAND`: the identifier and the union of the parameters. -/
abbrev MAC_COMMAND := Vector UInt8 6

/-- `COPY_MAC`: the front of the packet goes into the result if it is there. -/
def copyMac (size : ℕ) (retval : MAC_COMMAND) (value : Bytes) : ℤ×MAC_COMMAND :=
  if value.length<size then (ERR_CODE_MAC_TOO_SHORT,retval)
  else ((size : ℤ),overwrite retval (value.take size))

/-- A copying parser with the sizes of its switch. -/
def parseCopy (sizes : MAC_CID → ℕ) (retval : MAC_COMMAND) (value : Bytes) : ℤ×MAC_COMMAND :=
  if value.length<1 then (ERR_CODE_MAC_TOO_SHORT,retval)
  else match cidOf (value.getD 0 0) with
    | none => (ERR_CODE_MAC_INVALID,retval)
    | some cid => copyMac (sizes cid) retval value

/-- The switch of `parseClientSide`. -/
def copyClientSizes : MAC_CID → ℕ
  | .Reset => MAC_RESET_SIZE
  | .LinkCheck => MAC_LINK_CHECK_SIZE
  | .LinkADR => MAC_LINK_ADR_REQ_SIZE
  | .DutyCycle => MAC_DUTY_CYCLE_SIZE
  | .RXParamSetup => MAC_RXRARAMSETUP_REQ_SIZE
  | .DevStatus => MAC_EMPTY_SIZE
  | .NewChannel => MAC_NEWCHANNEL_REQ_SIZE
  | .RXTimingSetup => MAC_TIMINGSETUP_SIZE
  | .TXParamSetup => MAC_TXPARAMSETUP_SIZE
  | .DLChannel => MAC_DLCHANNEL_REQ_SIZE
  | .Rekey => MAC_REKEY_RESP_SIZE
  | .ADRParamSetup => MAC_ADRPARAMSETUP_SIZE
  | .DeviceTime => MAC_DEVICETIME_SIZE
  | .ForceRejoin => MAC_FORCEREJOIN_SIZE
  | .RejoinParamSetup => MAC_REJOINPARAMSETUP_REQ_SIZE
  | .PingSlotInfo => MAC_EMPTY_SIZE
  | .PingSlotChannel => MAC_PINGSLOTCHANNEL_REQ_SIZE
  | .BeaconTiming => MAC_BEACONTIMING_SIZE
  | .BeaconFreq => MAC_BEACONFREQUENCY_REQ_SIZE
  | .DeviceMode => MAC_DEVICEMODE_SIZE

/-- The switch of `parseServerSide`. -/
def copyServerSizes : MAC_CID → ℕ
  | .Reset => MAC_RESET_SIZE
  | .LinkCheck => MAC_EMPTY_SIZE
  | .LinkADR => MAC_LINK_ADR_RESP_SIZE
  | .DutyCycle => MAC_EMPTY_SIZE
  | .RXParamSetup => MAC_RXRARAMSETUP_RESP_SIZE
  | .DevStatus => MAC_DEVSTATUS_SIZE
  | .NewChannel => MAC_NEWCHANNEL_RESP_SIZE
  | .RXTimingSetup => MAC_EMPTY_SIZE
  | .TXParamSetup => MAC_EMPTY_SIZE
  | .DLChannel => MAC_DLCHANNEL_RESP_SIZE
  | .Rekey => MAC_REKEY_REQ_SIZE
  | .ADRParamSetup => MAC_EMPTY_SIZE
  | .DeviceTime => MAC_EMPTY_SIZE
  | .ForceRejoin => MAC_EMPTY_SIZE
  | .RejoinParamSetup => MAC_REJOINPARAMSETUP_RESP_SIZE
  | .PingSlotInfo => MAC_PINGSLOTINFO_SIZE
  | .PingSlotChannel => MAC_PINGSLOTCHANNEL_RESP_SIZE
  | .BeaconTiming => MAC_EMPTY_SIZE
  | .BeaconFreq => MAC_BEACONFREQUENCY_RESP_SIZE
  | .DeviceMode => MAC_DEVICEMODE_SIZE

/-- `parseClientSide`: a command sent by the gateway. -/
def parseClientSide (retval : MAC_COMMAND) (value : Bytes) : ℤ×MAC_COMMAND :=
  parseCopy copyClientSizes retval value

/-- `parseServerSide`: a command sent by an end-device. -/
def parseServerSide (retval : MAC_COMMAND) (value : Bytes) : ℤ×MAC_COMMAND :=
  parseCopy copyServerSizes retval value

/-- The byte behind a pointer into `c_str()`, with the terminator. -/
def charAt (text : Bytes) (p : ℕ) : Except Fault UInt8 :=
  if text.length<p then .error .readOutside else .ok (text.getD p 0)

/-- `PTR_MAC`: the result points at the packet if as many bytes are left. A
pointer into the text is its offset. -/
def ptrMac (size retval p sz : ℕ) : ℤ×ℕ :=
  if sz<size then (ERR_CODE_MAC_TOO_SHORT,retval) else ((size : ℤ),p)

/-- A pointing parser with the sizes of its switch. It trusts the count of the
bytes left and reads one of them. -/
def parsePointer (sizes : MAC_CID → ℕ) (text : Bytes) (retval p sz : ℕ) :
    Except Fault (ℤ×ℕ) :=
  if sz<1 then .ok (ERR_CODE_MAC_TOO_SHORT,retval)
  else do
    let command ← charAt text p
    match cidOf command with
    | none => .ok (ERR_CODE_MAC_INVALID,retval)
    | some cid => .ok (ptrMac (sizes cid) retval p sz)

/-- The switch of `parseClientSidePtr`. -/
def pointClientSizes : MAC_CID → ℕ
  | .Reset => MAC_RESET_SIZE
  | .LinkCheck => MAC_LINK_CHECK_SIZE
  | .LinkADR => MAC_LINK_ADR_REQ_SIZE
  | .DutyCycle => MAC_DUTY_CYCLE_SIZE
  | .RXParamSetup => MAC_RXRARAMSETUP_REQ_SIZE
  | .DevStatus => MAC_EMPTY_SIZE
  | .NewChannel => MAC_NEWCHANNEL_REQ_SIZE
  | .RXTimingSetup => MAC_TIMINGSETUP_SIZE
  | .TXParamSetup => MAC_TXPARAMSETUP_SIZE
  | .DLChannel => MAC_DLCHANNEL_REQ_SIZE
  | .Rekey => MAC_REKEY_RESP_SIZE
  | .ADRParamSetup => MAC_ADRPARAMSETUP_SIZE
  | .DeviceTime => MAC_DEVICETIME_SIZE
  | .ForceRejoin => MAC_FORCEREJOIN_SIZE
  | .RejoinParamSetup => MAC_REJOINPARAMSETUP_REQ_SIZE
  | .PingSlotInfo => MAC_EMPTY_SIZE
  | .PingSlotChannel => MAC_PINGSLOTCHANNEL_REQ_SIZE
  | .BeaconTiming => MAC_BEACONTIMING_SIZE
  | .BeaconFreq => MAC_BEACONFREQUENCY_REQ_SIZE
  | .DeviceMode => MAC_DEVICEMODE_SIZE

/-- The switch of `parseServerSidePtr`. -/
def pointServerSizes : MAC_CID → ℕ
  | .Reset => MAC_RESET_SIZE
  | .LinkCheck => MAC_EMPTY_SIZE
  | .LinkADR => MAC_LINK_ADR_RESP_SIZE
  | .DutyCycle => MAC_EMPTY_SIZE
  | .RXParamSetup => MAC_RXRARAMSETUP_RESP_SIZE
  | .DevStatus => MAC_DEVSTATUS_SIZE
  | .NewChannel => MAC_NEWCHANNEL_RESP_SIZE
  | .RXTimingSetup => MAC_EMPTY_SIZE
  | .TXParamSetup => MAC_EMPTY_SIZE
  | .DLChannel => MAC_DLCHANNEL_RESP_SIZE
  | .Rekey => MAC_REKEY_REQ_SIZE
  | .ADRParamSetup => MAC_EMPTY_SIZE
  | .DeviceTime => MAC_EMPTY_SIZE
  | .ForceRejoin => MAC_EMPTY_SIZE
  | .RejoinParamSetup => MAC_REJOINPARAMSETUP_RESP_SIZE
  | .PingSlotInfo => MAC_PINGSLOTINFO_SIZE
  | .PingSlotChannel => MAC_PINGSLOTCHANNEL_RESP_SIZE
  | .BeaconTiming => MAC_EMPTY_SIZE
  | .BeaconFreq => MAC_BEACONFREQUENCY_RESP_SIZE
  | .DeviceMode => MAC_DEVICEMODE_SIZE

/-- `parseClientSidePtr`. -/
def parseClientSidePtr (text : Bytes) (retval p sz : ℕ) : Except Fault (ℤ×ℕ) :=
  parsePointer pointClientSizes text retval p sz

/-- `parseServerSidePtr`. -/
def parseServerSidePtr (text : Bytes) (retval p sz : ℕ) : Except Fault (ℤ×ℕ) :=
  parsePointer pointServerSizes text retval p sz

/-- The first switch of `commandSize`: sent by the gateway. -/
def gatewaySizes : MAC_CID → ℕ
  | .Reset => MAC_RESET_SIZE
  | .LinkCheck => MAC_LINK_CHECK_SIZE
  | .LinkADR => MAC_LINK_ADR_REQ_SIZE
  | .DutyCycle => MAC_DUTY_CYCLE_SIZE
  | .RXParamSetup => MAC_RXRARAMSETUP_REQ_SIZE
  | .DevStatus => MAC_EMPTY_SIZE
  | .NewChannel => MAC_NEWCHANNEL_REQ_SIZE
  | .RXTimingSetup => MAC_TIMINGSETUP_SIZE
  | .TXParamSetup => MAC_TXPARAMSETUP_SIZE
  | .DLChannel => MAC_DLCHANNEL_REQ_SIZE
  | .Rekey => MAC_REKEY_RESP_SIZE
  | .ADRParamSetup => MAC_ADRPARAMSETUP_SIZE
  | .DeviceTime => MAC_DEVICETIME_SIZE
  | .ForceRejoin => MAC_FORCEREJOIN_SIZE
  | .RejoinParamSetup => MAC_REJOINPARAMSETUP_REQ_SIZE
  | .PingSlotInfo => MAC_EMPTY_SIZE
  | .PingSlotChannel => MAC_PINGSLOTCHANNEL_REQ_SIZE
  | .BeaconTiming => MAC_BEACONTIMING_SIZE
  | .BeaconFreq => MAC_BEACONFREQUENCY_REQ_SIZE
  | .DeviceMode => MAC_DEVICEMODE_SIZE

/-- The second switch of `commandSize`: sent by an end-device. -/
def deviceSizes : MAC_CID → ℕ
  | .Reset => MAC_RESET_SIZE
  | .LinkCheck => MAC_EMPTY_SIZE
  | .LinkADR => MAC_LINK_ADR_RESP_SIZE
  | .DutyCycle => MAC_EMPTY_SIZE
  | .RXParamSetup => MAC_RXRARAMSETUP_RESP_SIZE
  | .DevStatus => MAC_DEVSTATUS_SIZE
  | .NewChannel => MAC_NEWCHANNEL_RESP_SIZE
  | .RXTimingSetup => MAC_EMPTY_SIZE
  | .TXParamSetup => MAC_EMPTY_SIZE
  | .DLChannel => MAC_DLCHANNEL_RESP_SIZE
  | .Rekey => MAC_REKEY_REQ_SIZE
  | .ADRParamSetup => MAC_EMPTY_SIZE
  | .DeviceTime => MAC_EMPTY_SIZE
  | .ForceRejoin => MAC_EMPTY_SIZE
  | .RejoinParamSetup => MAC_REJOINPARAMSETUP_RESP_SIZE
  | .PingSlotInfo => MAC_PINGSLOTINFO_SIZE
  | .PingSlotChannel => MAC_PINGSLOTCHANNEL_RESP_SIZE
  | .BeaconTiming => MAC_EMPTY_SIZE
  | .BeaconFreq => MAC_BEACONFREQUENCY_RESP_SIZE
  | .DeviceMode => MAC_DEVICEMODE_SIZE

/-- The size of a command with the given identifier. -/
def sideSizes (clientSide : Bool) : MAC_CID → ℕ := if clientSide then gatewaySizes else deviceSizes

/-- `commandSize`; zero for an unknown identifier. -/
def commandSize (value : MAC_COMMAND) (clientSide : Bool) : ℕ :=
  match cidOf value[0] with
  | none => 0
  | some cid => sideSizes clientSide cid

/-- The identifier in front of a command. -/
def cidByte (value : MAC_COMMAND) : UInt8 := value[0]

/-- A command with another identifier. -/
def withCid (value : MAC_COMMAND) (cid : MAC_CID) : MAC_COMMAND := value.set 0 cid.code

/-- The identifier that a command was given. -/
theorem cidByte_withCid (value : MAC_COMMAND) (cid : MAC_CID) : cidByte (withCid value cid)=cid.code :=
  Vector.getElem_set_self _

/-- The size of a command depends on its identifier. -/
theorem commandSize_of_cidByte {value : MAC_COMMAND} {cid : MAC_CID} (h : cidByte value=cid.code) (clientSide : Bool)
    (hcid : cidOf cid.code=some cid) : commandSize value clientSide=sideSizes clientSide cid := by
  rw [cidByte] at h
  rw [commandSize,h,hcid]

/-- `MacData`. -/
structure MacData where
  /-- Bytes of the command. -/
  command : MAC_COMMAND
  /-- Error of the last parse. -/
  errcode : ℤ
  /-- True for a command sent by the gateway. -/
  isClientSide : Bool
  deriving DecidableEq,Repr

/-- `MacData::MacData`. -/
def MacData.empty : MacData := ⟨Vector.replicate 6 0,0,false⟩

/-- `MacData::size`. -/
def MacData.size (data : MacData) : ℕ :=
  if data.errcode≠0 then 0 else commandSize data.command data.isClientSide

/-- `MacData::toString`. -/
def MacData.toString (data : MacData) : Bytes := data.command.toList.take data.size

/-- `MacData::toHexString`. -/
def MacData.toHexString (data : MacData) : Bytes := hexString (data.command.toList.take data.size)

/-- `MacDataList`. -/
structure MacDataList where
  /-- Side of the constructor. -/
  isClientSide : Bool
  /-- The commands. -/
  list : List MacData
  deriving DecidableEq,Repr

/-- The loop of the constructor of `MacDataList`: one `data` serves every
round. Without enough rounds there is no result. -/
def parseList (clientSide : Bool) : ℕ → MacData → Bytes → List MacData → Option (List MacData)
  | 0,_,_,_ => none
  | fuel+1,data,value,list =>
    let parsed := if clientSide then parseClientSide data.command value else parseServerSide data.command value
    if parsed.1<0 then some list
    else parseList clientSide fuel {data with command := parsed.2} (value.drop parsed.1.toNat)
      (list++[{data with command := parsed.2}])

/-- `MacDataList::MacDataList` of a payload. -/
def MacDataList.ofPayload (value : Bytes) (clientSide : Bool) : MacDataList :=
  ⟨clientSide,(parseList clientSide (value.length+1) MacData.empty value []).getD []⟩

/-- `MacDataList::size`. -/
def MacDataList.size (commands : MacDataList) : ℕ :=
  commands.list.foldl (fun sz data => sz+data.size) 0

/-- `MacDataList::toHexString`. -/
def MacDataList.toHexString (commands : MacDataList) : Bytes :=
  commands.list.foldl (fun ss data => ss++data.toHexString) []

/-- All tables for one side agree. -/
theorem copySizes_eq (clientSide : Bool) :
    (if clientSide then copyClientSizes else copyServerSizes)=sideSizes clientSide := by
  funext cid
  cases clientSide <;> cases cid <;> rfl

/-- So do those of the pointing parsers. -/
theorem pointSizes_eq (clientSide : Bool) :
    (if clientSide then pointClientSizes else pointServerSizes)=sideSizes clientSide := by
  funext cid
  cases clientSide <;> cases cid <;> rfl

/-- A command has one byte at least and fits the union. -/
theorem sideSizes_bounds (clientSide : Bool) (cid : MAC_CID) :
    1 ≤ sideSizes clientSide cid ∧ sideSizes clientSide cid ≤ 6 := by
  cases clientSide <;> cases cid <;> decide

/-- The copying parser of a side. -/
theorem parseSide_eq (clientSide : Bool) (retval : MAC_COMMAND) (value : Bytes) :
    (if clientSide then parseClientSide retval value else parseServerSide retval value)=
      parseCopy (sideSizes clientSide) retval value := by
  rw [←copySizes_eq]
  cases clientSide <;> rfl

/-- The pointing parser of a side. -/
theorem parseSidePtr_eq (clientSide : Bool) (text : Bytes) (retval p sz : ℕ) :
    (if clientSide then parseClientSidePtr text retval p sz else parseServerSidePtr text retval p sz)=
      parsePointer (sideSizes clientSide) text retval p sz := by
  rw [←pointSizes_eq]
  cases clientSide <;> rfl

end LorawanServer.MacCommands
