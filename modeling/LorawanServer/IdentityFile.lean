import LorawanServer.IdentityStore
import LorawanServer.IdentityText
import LorawanServer.JsonEvents

/-!
# The identity file

`JsonFileIdentityService::save` and `load`. The writer prints one object a line;
the rights of a device follow its name. The loader is a handler that collects
one object after another and stores each one at its closing brace; an object
without an address gets the next free one. Loading starts with `clear`, which
keeps the rights. The file system is assumed to work: a file that is there is
read whole.
-/

namespace LorawanServer.IdentityFile

open CppRuntime Records JsonDocument DeviceAddress IdentityStore IdentityText JsonEvents

/-- `ATTR_NAMES`. -/
def ATTR_NAMES : List Bytes :=
  ["addr","activation","deveui","nwkSKey","appSKey","class","version","appeui","appKey","nwkKey","devNonce",
    "joinNonce","name","flags"].map ascii

/-- `getAttrByName`, with nothing for a name that is not there. -/
def getAttrByName (name : Bytes) : Option ℕ := ATTR_NAMES.findIdx? fun attr => attr=cString name

/-- The class `NetworkIdentityHandler`. -/
structure NetworkIdentityHandler where
  /-- The service that is filled. -/
  service : JsonFileIdentityService
  /-- Index of the last name. -/
  idx : Option ℕ
  /-- Address of the current object. -/
  k : DEVADDR
  /-- Identity of the current object. -/
  v : DeviceId
  /-- Rights of the current object. -/
  flags : UInt32
  /-- Number of addresses that were asked for. -/
  asked : ℕ

/-- The constructor. -/
def NetworkIdentityHandler.new (svc : JsonFileIdentityService) : NetworkIdentityHandler :=
  ⟨svc,none,0,{DeviceId.empty with version := ⟨0,0,0⟩},0,0⟩

/-- `resetEntry`. -/
def NetworkIdentityHandler.resetEntry (h : NetworkIdentityHandler) : NetworkIdentityHandler :=
  {h with k := 0,v := DeviceId.empty,flags := 0}

/-- `Uint`. -/
def NetworkIdentityHandler.uint (h : NetworkIdentityHandler) (u : UInt32) : NetworkIdentityHandler :=
  if h.idx=some 13 then {h with flags := u} else h

/-- `String`. -/
def NetworkIdentityHandler.string (h : NetworkIdentityHandler) (str : Bytes) : NetworkIdentityHandler :=
  match h.idx with
  | some 0 =>
    let k := string2DEVADDR h.k str
    let na := getNwkAddr k
    {h with k := k
            service := {h.service with
              maxDevNwkAddr := if h.service.maxDevNwkAddr<na then na else h.service.maxDevNwkAddr}}
  | some 1 => {h with v := {h.v with activation := string2activation str}}
  | some 2 => {h with v := {h.v with devEUI := string2DEVEUI h.v.devEUI str}}
  | some 3 => {h with v := {h.v with nwkSKey := string2KEY h.v.nwkSKey (hex2string str)}}
  | some 4 => {h with v := {h.v with appSKey := string2KEY h.v.appSKey (hex2string str)}}
  | some 5 => {h with v := {h.v with deviceclass := string2deviceclass str}}
  | some 6 => {h with v := {h.v with version := string2LORAWAN_VERSION str}}
  | some 7 => {h with v := {h.v with appEUI := string2DEVEUI h.v.appEUI str}}
  | some 8 => {h with v := {h.v with appKey := string2KEY h.v.appKey (hex2string str)}}
  | some 9 => {h with v := {h.v with nwkKey := string2KEY h.v.nwkKey (hex2string str)}}
  | some 10 => {h with v := {h.v with devNonce := string2DEVNONCE str}}
  | some 11 => {h with v := {h.v with joinNonce := string2JOINNONCE str}}
  | some 12 => {h with v := {h.v with name := string2DEVICENAME str}}
  | _ => h

/-- The end of `EndObject`: the identity and its rights are stored. -/
def NetworkIdentityHandler.store (h : NetworkIdentityHandler) (devaddr : DEVADDR) : NetworkIdentityHandler :=
  {h with k := devaddr,service := setRightsMask (put h.service devaddr h.v) devaddr h.flags}

/-- `EndObject`. What the stack holds when an address is asked for is an
argument. -/
def NetworkIdentityHandler.endObject (stale : ℕ → DEVADDR) (h : NetworkIdentityHandler) :
    NetworkIdentityHandler×Bool :=
  if h.k=0 then
    match next h.service (stale h.asked) ⟨h.v,0⟩ with
    | some (identity,r) =>
      if r≠0 then (h,false) else ({h.store identity.devaddr with asked := h.asked+1},true)
    | none => (h,false)
  else (h.store h.k,true)

/-- The calls of the reader. A C string ends at its first zero byte. Numbers
that do not fit `unsigned` and all other values change nothing. -/
def NetworkIdentityHandler.call (stale : ℕ → DEVADDR) (h : NetworkIdentityHandler) :
    Event → NetworkIdentityHandler×Bool
  | .number false magnitude => (if magnitude<2^32 then h.uint (UInt32.ofNat magnitude) else h,true)
  | .string text => (h.string (cString text),true)
  | .startObject => (h.resetEntry,true)
  | .key text => ({h with idx := getAttrByName text},true)
  | .endObject => h.endObject stale
  | _ => (h,true)

/-- `load` of a file, if there is one, with the service afterwards and the
code. -/
def load (stale : ℕ → DEVADDR) (tooBig : Bytes → Bool) (s : JsonFileIdentityService) (file : Option Bytes) :
    JsonFileIdentityService×ℤ :=
  match file with
  | none => (clear s,ERR_CODE_INVALID_JSON)
  | some text =>
    let (handler,whole) := parse tooBig (NetworkIdentityHandler.call stale) (.new (clear s)) text
    (handler.service,if whole then 0 else ERR_CODE_INVALID_JSON)

/-- A member with a text, as `save` prints it. -/
def member (i : ℕ) (value : Bytes) : Bytes :=
  34::(ATTR_NAMES.getD i []++34::58::32::34::(value++[34]))

/-- The members of an identity in the order of their names, with their texts. -/
def memberTexts (addr : DEVADDR) (id : DeviceId) : List (ℕ×Bytes) :=
  [(0,DEVADDRINT2string addr),(1,activation2string id.activation),(2,DEVEUI2string id.devEUI),
    (3,KEY2string id.nwkSKey),(4,KEY2string id.appSKey),(5,deviceclass2string id.deviceclass),
    (6,LORAWAN_VERSION2string id.version),(7,DEVEUI2string id.appEUI),(8,KEY2string id.appKey),
    (9,KEY2string id.nwkKey),(10,DEVNONCE2string id.devNonce),(11,JOINNONCE2string id.joinNonce),
    (12,DEVICENAME2string id.name)]

/-- The rights of a device behind its members. They go under the eighth name,
which is the one of a key. -/
def rightsText (addrRightsMask : UInt32) : Bytes :=
  if addrRightsMask≠0 then 44::34::(ATTR_NAMES.getD 8 []++34::58::32::decimal addrRightsMask.toNat) else []

/-- One object of the file. -/
def entryText (s : JsonFileIdentityService) (entry : DEVADDR×DeviceId) : Bytes :=
  10::123::([44].intercalate ((memberTexts entry.1 entry.2).map fun m => member m.1 m.2)++
    (rightsText (getRightsMask s entry.1)++[125]))

/-- `save`: the text of the file. -/
def save (s : JsonFileIdentityService) : Bytes :=
  91::10::([44].intercalate (s.storage.toList.map (entryText s))++[93,10])

end LorawanServer.IdentityFile
