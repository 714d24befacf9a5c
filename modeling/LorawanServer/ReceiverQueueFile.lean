import LorawanServer.Base64
import LorawanServer.IdentityText
import LorawanServer.JsonEvents
import LorawanServer.ReceiverQueue
import LorawanServer.SimulatedUplink

/-!
# The file of received payloads

`JsonFileReceiverQueueService::save` and `load`. The writer prints one object for
an entry, with an object for its device inside. The loader counts opening braces
and stores an entry at a closing brace when the count is one; the count never
goes down. The file system is assumed to work: a file that is there is read
whole.
-/

namespace LorawanServer.ReceiverQueueFile

open CppRuntime Records JsonDocument IdentityText JsonEvents ReceiverQueue Base64
open Datagram (isCSpace)
open SimulatedUplink (intText)

/-- `ATTR_NAMES`. -/
def ATTR_NAMES : List Bytes :=
  ["time","id","payload","dbids","deviceId","activation","class","eui","nwkSKey","appSKey","name"].map ascii

/-- `getAttrByName`, with nothing for a name that is not there. -/
def getAttrByName (name : Bytes) : Option ℕ := ATTR_NAMES.findIdx? fun attr => attr=cString name

/-- `atoll`: blanks, a sign and digits, up to the bounds of `long long`. -/
def atoll (text : Bytes) : ℤ :=
  let (negative,unsigned) := takeSign ((cString text).dropWhile isCSpace)
  let magnitude : ℤ := digitsValue (unsigned.takeWhile isDigit)
  if negative then max (-magnitude) (-2^63) else min magnitude (2^63-1)

/-- `base64_decode` that leaves out line breaks. -/
def decodePayload (text : Bytes) : Option Bytes := base64Decode (text.filter fun byte => byte≠10)

/-- The class `MessageQueueJsonHandler`. -/
structure MessageQueueJsonHandler where
  /-- Index of the last name. -/
  idx : Option ℕ
  /-- Number of opening braces. -/
  level : ℕ
  /-- The service that is filled. -/
  service : JsonFileReceiverQueueService
  /-- The current entry. -/
  entry : ReceiverQueueEntry

/-- The constructor. Address and port of the entry are not initialised; they are
arguments. -/
def MessageQueueJsonHandler.new (addr : DEVADDR) (fport : UInt8) (svc : JsonFileReceiverQueueService) :
    MessageQueueJsonHandler :=
  ⟨none,0,svc,⟨⟨⟨0,0⟩,0⟩,⟨addr,DeviceId.empty,[],fport,[]⟩⟩⟩

/-- A change of the device of the current entry. -/
def MessageQueueJsonHandler.setDevice (h : MessageQueueJsonHandler) (deviceId : DeviceId) : MessageQueueJsonHandler :=
  {h with entry := ⟨h.entry.key,{h.entry.value with deviceId := deviceId}⟩}

/-- `putUInt`. Number and databases are `int`. -/
def MessageQueueJsonHandler.putUInt (h : MessageQueueJsonHandler) (value : UInt32) : MessageQueueJsonHandler :=
  let number : ℤ := (value.toNat : ℤ).bmod (2^32)
  match h.idx with
  | some 0 => {h with entry := ⟨⟨⟨value.toNat,0⟩,h.entry.key.id⟩,h.entry.value⟩}
  | some 1 => {h with entry := ⟨⟨h.entry.key.time,number⟩,h.entry.value⟩}
  | some 3 => {h with entry := ⟨h.entry.key,{h.entry.value with dbids := h.entry.value.dbids++[number]}⟩}
  | _ => h

/-- `String`. -/
def MessageQueueJsonHandler.string (h : MessageQueueJsonHandler) (s : Bytes) : MessageQueueJsonHandler×Bool :=
  let deviceId := h.entry.value.deviceId
  match h.idx with
  | some 2 =>
    match decodePayload s with
    | some payload => ({h with entry := ⟨h.entry.key,{h.entry.value with payload := payload}⟩},true)
    | none => (h,false)
  | some 4 => (h,true)
  | some 5 => (h.setDevice {deviceId with activation := string2activation s},true)
  | some 6 => (h.setDevice {deviceId with deviceclass := string2deviceclass s},true)
  | some 7 => (h.setDevice {deviceId with devEUI := string2DEVEUI deviceId.devEUI s},true)
  | some 8 => (h.setDevice {deviceId with nwkSKey := string2KEY deviceId.nwkSKey s},true)
  | some 9 => (h.setDevice {deviceId with appSKey := string2KEY deviceId.appSKey s},true)
  | some 10 => (h.setDevice {deviceId with name := string2DEVICENAME s},true)
  | _ => (h.putUInt (UInt32.ofInt (atoll s)),true)

/-- `EndObject`: an entry is stored at the first level. -/
def MessageQueueJsonHandler.endObject (h : MessageQueueJsonHandler) : MessageQueueJsonHandler :=
  if h.level=1 then {h with service := pushEntry h.service h.entry,entry := h.entry.clear} else h

/-- The calls of the reader. The conversion of a `double` to `unsigned` is an
argument; what is no number, string or object changes nothing. -/
def MessageQueueJsonHandler.call (toUnsigned : Bytes → UInt32) (h : MessageQueueJsonHandler) :
    Event → MessageQueueJsonHandler×Bool
  | .number minus magnitude => (h.putUInt (UInt32.ofInt (if minus then -magnitude else magnitude)),true)
  | .double text => (h.putUInt (toUnsigned text),true)
  | .string text => h.string text
  | .startObject => ({h with level := h.level+1},true)
  | .key text => ({h with idx := getAttrByName text},true)
  | .endObject => (h.endObject,true)
  | _ => (h,true)

/-- `clear`. -/
def clear (s : JsonFileReceiverQueueService) : JsonFileReceiverQueueService := {s with storage := ∅}

/-- What the platform adds to a load: which numbers are too big, the conversion of
a `double`, and the address and the port in an entry that is not initialised. -/
structure Platform where
  /-- The number is refused. -/
  tooBig : Bytes → Bool
  /-- The number as `unsigned`. -/
  toUnsigned : Bytes → UInt32
  /-- Address in a new entry. -/
  addr : DEVADDR
  /-- Port in a new entry. -/
  fport : UInt8

/-- `load` of a file, if there is one, with the service afterwards and the code. -/
def load (platform : Platform) (s : JsonFileReceiverQueueService) (file : Option Bytes) :
    JsonFileReceiverQueueService×ℤ :=
  match file with
  | none => (clear s,ERR_CODE_INVALID_JSON)
  | some text =>
    let (handler,whole) := parse platform.tooBig (MessageQueueJsonHandler.call platform.toUnsigned)
      (.new platform.addr platform.fport (clear s)) text
    (handler.service,if whole then 0 else ERR_CODE_INVALID_JSON)

/-- A name with its quotes and the colon. -/
def nameText (name : Bytes) : Bytes := 34::(name++[34,58])

/-- `DeviceId::toJsonString`. The name has all its eight bytes. -/
def toJsonString (deviceId : DeviceId) : Bytes :=
  let members : List (Bytes×Bytes) :=
    [(ascii "activation",activation2string deviceId.activation),(ascii "class",deviceclass2string deviceId.deviceclass),
      (ascii "deveui",DEVEUI2string deviceId.devEUI),(ascii "nwkSKey",KEY2string deviceId.nwkSKey),
      (ascii "appSKey",KEY2string deviceId.appSKey),(ascii "version",LORAWAN_VERSION2string deviceId.version),
      (ascii "appeui",DEVEUI2string deviceId.appEUI),(ascii "appKey",KEY2string deviceId.appKey),
      (ascii "nwkKey",KEY2string deviceId.nwkKey),(ascii "devNonce",DEVNONCE2string deviceId.devNonce),
      (ascii "joinNonce",JOINNONCE2string deviceId.joinNonce),(ascii "name",deviceId.name.toList)]
  123::([44].intercalate (members.map fun member => nameText member.1++34::(member.2++[34]))++[125])

/-- The databases of an entry, if there are some. -/
def dbidsText (dbids : List ℤ) : Bytes :=
  if dbids=[] then [] else 44::(nameText (ATTR_NAMES.getD 3 [])++91::([44,32].intercalate (dbids.map intText)++[93]))

/-- What stands in an entry behind its device. -/
def payloadText (value : ReceiverQueueValue) : Bytes :=
  44::(nameText (ATTR_NAMES.getD 2 [])++34::(base64Encode value.payload++34::(dbidsText value.dbids++[125])))

/-- One entry of the file. -/
def entryText (entry : ReceiverQueueKey×ReceiverQueueValue) : Bytes :=
  123::(nameText (ATTR_NAMES.getD 0 [])++(intText entry.1.time.tvSec++44::(nameText (ATTR_NAMES.getD 1 [])++
    (intText entry.1.id++44::(nameText (ATTR_NAMES.getD 4 [])++(toJsonString entry.2.deviceId++
      payloadText entry.2))))))

/-- `save`: the text of the file. -/
def save (s : JsonFileReceiverQueueService) : Bytes :=
  91::10::([44,10].intercalate (s.storage.toList.map entryText)++[10,93,10])

end LorawanServer.ReceiverQueueFile
