import LorawanServer.IdentityRights
import LorawanServer.JsonLexing

/-!
# The identity file read back

What `load` makes of a file that `save` printed. When no name of a device has a
quote, a backslash or a control byte, the file is one object for every
identity, and every object gives its identity back but for its nonces and the
bytes behind the end of its name; no rights come back.
-/

namespace LorawanServer.IdentityRoundTrip

open CppRuntime Records JsonDocument DeviceAddress IdentityStore IdentityText IdentityFile IdentityRights JsonEvents

/-- A saved file is read into a fresh service of the same network without an
error, and storage and rights are as before. -/
def RoundTrips (stale : ℕ → DEVADDR) (tooBig : Bytes → Bool) (s : JsonFileIdentityService) : Prop :=
  (load stale tooBig (setNetworkId .fresh s.netid) (some (save s))).2=LORA_OK ∧
    (∀ addr : DEVADDR,(load stale tooBig (setNetworkId .fresh s.netid) (some (save s))).1.storage[addr]?=s.storage[addr]?) ∧
      ∀ addr,getRightsMask (load stale tooBig (setNetworkId .fresh s.netid) (some (save s))).1 addr=getRightsMask s addr

/-- All names of devices can stand between quotes. -/
def CleanNames (s : JsonFileIdentityService) : Prop :=
  ∀ entry∈s.storage.toList,∀ byte∈DEVICENAME2string entry.2.name,IsClean byte

/-- Every printed member can stand between quotes when the name can. -/
theorem isClean_memberTexts {addr : DEVADDR} {id : DeviceId} (h : ∀ byte∈DEVICENAME2string id.name,IsClean byte) :
    ∀ m∈memberTexts addr id,∀ byte∈m.2,IsClean byte := by
  have hactivation : ∀ byte∈activation2string id.activation,IsClean byte := by
    cases id.activation <;> exact isClean_of_all rfl
  have hclass : ∀ byte∈deviceclass2string id.deviceclass,IsClean byte := by
    cases id.deviceclass <;> exact isClean_of_all rfl
  simp only [memberTexts,List.forall_mem_cons]
  exact ⟨isClean_hexString _,hactivation,isClean_hexString _,isClean_hexString _,isClean_hexString _,hclass,isClean_version _,
    isClean_hexString _,isClean_hexString _,isClean_hexString _,isClean_hexString _,isClean_hexString _,h,
    fun _ hm => absurd hm List.not_mem_nil⟩

/-- The names of members can stand between quotes. -/
theorem isClean_getD (i : ℕ) : ∀ byte∈ATTR_NAMES.getD i [],IsClean byte := isClean_getD_of_all (by decide +kernel) i

section Reading

variable {tooBig : Bytes → Bool}

/-- The members of an object of the file. -/
def entryMembers (s : JsonFileIdentityService) (entry : DEVADDR×DeviceId) : List (Bytes×Event) :=
  (memberTexts entry.1 entry.2).map (fun m => (ATTR_NAMES.getD m.1 [],.string m.2))++
    if getRightsMask s entry.1≠0 then [(ATTR_NAMES.getD 8 [],.number false (getRightsMask s entry.1).toNat)] else []

/-- A name with a colon and a blank behind it. -/
theorem lexes_name (i : ℕ) : Lexes tooBig (34::(ATTR_NAMES.getD i []++[34])++[58,32]) [.string (ATTR_NAMES.getD i []),.colon] :=
  (lexes_string (isClean_getD i)).append (lexes_colon.append (lexes_space rfl))

/-- A member with a text. -/
theorem lexes_member {i : ℕ} {value : Bytes} (h : ∀ byte∈value,IsClean byte) :
    Lexes tooBig (member i value) (memberTokens (ATTR_NAMES.getD i [],.string value)) := by
  have hlex : Lexes tooBig _ _ := (lexes_name i).append (lexes_string h)
  have htext : member i value=(34::(ATTR_NAMES.getD i []++[34])++[58,32])++34::(value++[34]) := by
    simp only [member,List.cons_append,List.append_assoc,List.nil_append]
  rw [htext]
  exact hlex

/-- The end of an object, with the rights of its device. -/
theorem lexes_rights (addrRightsMask : UInt32) : Lexes tooBig (rightsText addrRightsMask++[125])
    ((if addrRightsMask≠0 then .comma::memberTokens (ATTR_NAMES.getD 8 [],.number false addrRightsMask.toNat)
      else [])++[Token.closeBrace]) := by
  by_cases hz : addrRightsMask=0
  · rw [rightsText,if_neg (not_not.mpr hz),if_neg (not_not.mpr hz)]
    exact lexes_closeBrace
  · have hnumber : Lexes tooBig (decimal addrRightsMask.toNat++[125]) _ :=
      lexes_decimal (addrRightsMask.toNat_lt.trans (by decide)) rfl lexes_closeBrace
    have hlex := (lexes_comma.append (lexes_name 8)).append hnumber
    have htext : rightsText addrRightsMask++[125]=
        ([44]++(34::(ATTR_NAMES.getD 8 []++[34])++[58,32]))++(decimal addrRightsMask.toNat++[125]) := by
      rw [rightsText,if_pos hz]
      simp only [List.cons_append,List.append_assoc,List.nil_append]
    rw [htext,if_pos hz]
    exact hlex

/-- The tokens of the members with texts. -/
def textTokens (entry : DEVADDR×DeviceId) : List (List Token) :=
  (memberTexts entry.1 entry.2).map fun m => memberTokens (ATTR_NAMES.getD m.1 [],.string m.2)

/-- The tokens of an object are those of its members with texts and of its
rights. -/
theorem objectTokens_entry (s : JsonFileIdentityService) (entry : DEVADDR×DeviceId) :
    objectTokens (entryMembers s entry)=[Token.openBrace]++[.comma].intercalate (textTokens entry)++
      ((if getRightsMask s entry.1≠0 then
          .comma::memberTokens (ATTR_NAMES.getD 8 [],.number false (getRightsMask s entry.1).toNat)
        else [])++[Token.closeBrace]) := by
  have hmap : ((memberTexts entry.1 entry.2).map fun m => (ATTR_NAMES.getD m.1 [],Event.string m.2)).map memberTokens=
      textTokens entry := List.map_map
  have hne : textTokens entry≠[] := List.cons_ne_nil _ _
  by_cases hz : getRightsMask s entry.1=0
  · rw [objectTokens,entryMembers,if_neg (not_not.mpr hz),if_neg (not_not.mpr hz),List.append_nil,hmap]
    rfl
  · rw [objectTokens,entryMembers,if_pos hz,if_pos hz,List.map_append,hmap,List.map_singleton,
      intercalate_concat _ hne]
    simp only [List.append_assoc,List.cons_append,List.nil_append]

/-- An object of the file. -/
theorem lexes_entry {s : JsonFileIdentityService} {entry : DEVADDR×DeviceId}
    (h : ∀ byte∈DEVICENAME2string entry.2.name,IsClean byte) :
    Lexes tooBig (entryText s entry) (objectTokens (entryMembers s entry)) := by
  have hopen : Lexes tooBig [10,123] [.openBrace] := (lexes_space rfl).append lexes_openBrace
  have hmembers : Lexes tooBig ([44].intercalate ((memberTexts entry.1 entry.2).map fun m => member m.1 m.2))
      ([.comma].intercalate (textTokens entry)) :=
    lexes_comma.intercalate fun m hm => lexes_member (isClean_memberTexts h m hm)
  have hlex := (hopen.append hmembers).append (lexes_rights (getRightsMask s entry.1))
  have htext : entryText s entry=([10,123]++[44].intercalate ((memberTexts entry.1 entry.2).map fun m => member m.1 m.2))++
      (rightsText (getRightsMask s entry.1)++[125]) := by
    rw [entryText,List.append_assoc]
    rfl
  rw [htext,objectTokens_entry]
  exact hlex

/-- The file without bad names: one object for every identity. -/
theorem readEvents_save {s : JsonFileIdentityService} (h : CleanNames s) :
    readEvents tooBig (save s)=
      (.startArray::((s.storage.toList.map (entryMembers s)).flatMap objectEvents++[.endArray]),true) := by
  refine readEvents_objects ?_ ?_
  · intro members hm
    obtain ⟨entry,-,rfl⟩ := List.mem_map.mp hm
    exact List.append_ne_nil_of_left_ne_nil (List.cons_ne_nil _ _) _
  · have hopen : Lexes tooBig [91,10] [.openBracket] := lexes_openBracket.append (lexes_space rfl)
    have hclose : Lexes tooBig [93,10] [.closeBracket] := lexes_closeBracket.append (lexes_space rfl)
    have hentries : Lexes tooBig ([44].intercalate (s.storage.toList.map (entryText s)))
        ([.comma].intercalate (s.storage.toList.map fun entry => objectTokens (entryMembers s entry))) :=
      lexes_comma.intercalate fun entry he => lexes_entry (h entry he)
    have hlex := (hopen.append hentries).append hclose
    rw [List.map_map]
    have htext : save s=([91,10]++[44].intercalate (s.storage.toList.map (entryText s)))++[93,10] := by
      rw [save,List.append_assoc]
      rfl
    rw [htext]
    exact hlex

end Reading

/-- What an object of the file gives back. -/
def reloaded (id : DeviceId) : DeviceId :=
  {id with
    devNonce := string2DEVNONCE (DEVNONCE2string id.devNonce)
    joinNonce := string2JOINNONCE (JOINNONCE2string id.joinNonce)
    name := string2DEVICENAME (DEVICENAME2string id.name)}

section Loading

variable (stale : ℕ → DEVADDR)

/-- One member with a text. -/
def setMember (h : NetworkIdentityHandler) (m : ℕ×Bytes) : NetworkIdentityHandler :=
  NetworkIdentityHandler.string {h with idx := some m.1} m.2

/-- The name at an index is found there. -/
theorem getAttrByName_getD : ∀ i<14,getAttrByName (ATTR_NAMES.getD i [])=some i := by decide +kernel

/-- Members with texts set what they name. -/
theorem deliver_members {members : List (ℕ×Bytes)} (hi : ∀ m∈members,m.1<14)
    (hc : ∀ m∈members,∀ byte∈m.2,IsClean byte) (h : NetworkIdentityHandler) :
    deliver (NetworkIdentityHandler.call stale) h
      ((members.map fun m => (ATTR_NAMES.getD m.1 [],Event.string m.2)).flatMap memberEvents)=
        (members.foldl setMember h,true) := by
  induction members generalizing h with
  | nil => rfl
  | cons m rest ih =>
    obtain ⟨hfirst,hrest⟩ := List.forall_mem_cons.mp hi
    obtain ⟨hclean,hothers⟩ := List.forall_mem_cons.mp hc
    have hone : deliver (NetworkIdentityHandler.call stale) h (memberEvents (ATTR_NAMES.getD m.1 [],.string m.2))=
        (setMember h m,true) := by
      simp only [memberEvents,deliver,NetworkIdentityHandler.call,getAttrByName_getD m.1 hfirst,
        cString_of_clean hclean,if_true,setMember]
    rw [List.map_cons,List.flatMap_cons,deliver_append hone,ih hrest hothers,List.foldl_cons]

/-- All members with texts give the identity back. -/
theorem foldl_memberTexts (h : NetworkIdentityHandler) (addr : DEVADDR) (id : DeviceId) :
    ∃ max,(memberTexts addr id).foldl setMember h.resetEntry=
      ⟨{h.service with maxDevNwkAddr := max},some 12,addr,reloaded id,0,h.asked⟩ := by
  have hactivation : string2activation (activation2string id.activation)=id.activation := by
    cases id.activation <;> rfl
  have hclass : string2deviceclass (deviceclass2string id.deviceclass)=id.deviceclass := by
    cases id.deviceclass <;> rfl
  simp only [memberTexts,List.foldl_cons,List.foldl_nil,setMember,NetworkIdentityHandler.string,
    NetworkIdentityHandler.resetEntry,string2DEVADDR_print,string2DEVEUI_print,string2KEY_print,
    string2LORAWAN_VERSION_print,hactivation,hclass]
  exact ⟨_,rfl⟩

/-- The rights of a device are read and dropped. -/
theorem deliver_rights (h : NetworkIdentityHandler) (addrRightsMask : UInt32) :
    ∃ idx,deliver (NetworkIdentityHandler.call stale) h
      ((if addrRightsMask≠0 then [(ATTR_NAMES.getD 8 [],Event.number false addrRightsMask.toNat)] else []).flatMap
        memberEvents)=({h with idx := idx},true) := by
  by_cases hz : addrRightsMask=0
  · rw [if_neg (not_not.mpr hz)]
    exact ⟨h.idx,rfl⟩
  · have hlt : addrRightsMask.toNat<2^32 := addrRightsMask.toNat_lt
    rw [if_pos hz,List.flatMap_singleton]
    refine ⟨some 8,?_⟩
    simp only [memberEvents,deliver,NetworkIdentityHandler.call,NetworkIdentityHandler.uint,
      getAttrByName_getD 8 (by decide),if_pos hlt,if_true]
    rfl

/-- An object with an address stores what it gives back, without rights. -/
theorem deliver_entry {s : JsonFileIdentityService} {entry : DEVADDR×DeviceId}
    (hc : ∀ byte∈DEVICENAME2string entry.2.name,IsClean byte) (hz : entry.1≠0) (h : NetworkIdentityHandler) :
    ∃ after,deliver (NetworkIdentityHandler.call stale) h (objectEvents (entryMembers s entry))=(after,true) ∧
      after.service.storage=h.service.storage.insert entry.1 (reloaded entry.2) ∧
      ∀ addr,getRightsMask after.service addr=if entry.1=addr then 0 else getRightsMask h.service addr := by
  have hi : ∀ m∈memberTexts entry.1 entry.2,m.1<14 := by
    simp only [memberTexts,List.forall_mem_cons]
    decide
  obtain ⟨max,hfold⟩ := foldl_memberTexts h entry.1 entry.2
  have hmembers := deliver_members stale hi (isClean_memberTexts hc) h.resetEntry
  rw [hfold] at hmembers
  obtain ⟨idx,hrights⟩ := deliver_rights stale
    ⟨{h.service with maxDevNwkAddr := max},some 12,entry.1,reloaded entry.2,0,h.asked⟩ (getRightsMask s entry.1)
  have hend : NetworkIdentityHandler.call stale
      ⟨{h.service with maxDevNwkAddr := max},idx,entry.1,reloaded entry.2,0,h.asked⟩ .endObject=
      (NetworkIdentityHandler.store ⟨{h.service with maxDevNwkAddr := max},idx,entry.1,reloaded entry.2,0,h.asked⟩ entry.1,
        true) := if_neg hz
  refine ⟨NetworkIdentityHandler.store ⟨{h.service with maxDevNwkAddr := max},idx,entry.1,reloaded entry.2,0,h.asked⟩
    entry.1,?_,rfl,?_⟩
  · rw [objectEvents,entryMembers,List.flatMap_append,List.append_assoc,← List.singleton_append,
      deliver_append (show deliver (NetworkIdentityHandler.call stale) h [.startObject]=(h.resetEntry,true) from rfl),
      deliver_append hmembers,deliver_append hrights,deliver,hend]
    rfl
  · intro addr
    exact getRightsMask_setRightsMask _ entry.1 addr 0

/-- Objects of the file are stored one after the other. -/
def storeAll (storage : Std.TreeMap DEVADDR DeviceId) (entries : List (DEVADDR×DeviceId)) : Std.TreeMap DEVADDR DeviceId :=
  entries.foldl (fun map entry => map.insert entry.1 (reloaded entry.2)) storage

/-- Objects with addresses are stored, and no rights are given. -/
theorem deliver_entries {s : JsonFileIdentityService} {entries : List (DEVADDR×DeviceId)}
    (hc : ∀ entry∈entries,∀ byte∈DEVICENAME2string entry.2.name,IsClean byte) (hz : ∀ entry∈entries,entry.1≠0) :
    ∀ h : NetworkIdentityHandler,(∀ addr,getRightsMask h.service addr=0) →
      ∃ after,deliver (NetworkIdentityHandler.call stale) h ((entries.map (entryMembers s)).flatMap objectEvents)=
        (after,true) ∧ after.service.storage=storeAll h.service.storage entries ∧
        ∀ addr,getRightsMask after.service addr=0 := by
  induction entries with
  | nil => exact fun h hm => ⟨h,rfl,rfl,hm⟩
  | cons entry rest ih =>
    intro h hm
    obtain ⟨hclean,hcleanRest⟩ := List.forall_mem_cons.mp hc
    obtain ⟨hne,hneRest⟩ := List.forall_mem_cons.mp hz
    obtain ⟨middle,hfirst,hstored,hrights⟩ := deliver_entry (s := s) stale hclean hne h
    have hnone : ∀ addr,getRightsMask middle.service addr=0 := by
      intro addr
      rw [hrights,hm,ite_self]
    obtain ⟨after,hall,hstorage,hmask⟩ := ih hcleanRest hneRest middle hnone
    refine ⟨after,?_,?_,hmask⟩
    · rw [List.map_cons,List.flatMap_cons,deliver_append hfirst,hall]
    · rw [hstorage,hstored]
      rfl

end Loading

/-- An address that no object has keeps what it had. -/
theorem storeAll_other {entries : List (DEVADDR×DeviceId)} {addr : DEVADDR} (h : ∀ entry∈entries,entry.1≠addr) :
    ∀ storage : Std.TreeMap DEVADDR DeviceId,(storeAll storage entries)[addr]?=storage[addr]? := by
  induction entries with
  | nil => exact fun _ => rfl
  | cons entry rest ih =>
    intro storage
    obtain ⟨hne,hrest⟩ := List.forall_mem_cons.mp h
    rw [storeAll,List.foldl_cons,← storeAll,ih hrest,Std.TreeMap.getElem?_insert,if_neg (by
      rwa [Std.compare_eq_iff_eq])]

/-- An address has what its only object gives back. -/
theorem storeAll_self {entries : List (DEVADDR×DeviceId)}
    (hd : entries.Pairwise fun first second => ¬compare first.1 second.1=.eq) {addr : DEVADDR} {id : DeviceId}
    (h : (addr,id)∈entries) :
    ∀ storage : Std.TreeMap DEVADDR DeviceId,(storeAll storage entries)[addr]?=some (reloaded id) := by
  induction entries with
  | nil => exact absurd h List.not_mem_nil
  | cons entry rest ih =>
    intro storage
    obtain ⟨hne,hrest⟩ := List.pairwise_cons.mp hd
    rw [storeAll,List.foldl_cons,← storeAll]
    rcases List.mem_cons.mp h with rfl|hlater
    · have hother : ∀ entry∈rest,entry.1≠addr := fun entry he heq =>
        hne entry he (Std.compare_eq_iff_eq.mpr heq.symm)
      rw [storeAll_other hother,Std.TreeMap.getElem?_insert_self]
    · exact ih hrest hlater _

/-- A file without bad names loads, gives every identity back as far as its
object does, and gives no rights. -/
theorem load_save (stale : ℕ → DEVADDR) (tooBig : Bytes → Bool) {s : JsonFileIdentityService} (hz : 0∉s.storage)
    (hc : CleanNames s) :
    (load stale tooBig (setNetworkId .fresh s.netid) (some (save s))).2=LORA_OK ∧
      (∀ addr : DEVADDR,(load stale tooBig (setNetworkId .fresh s.netid) (some (save s))).1.storage[addr]?=
        s.storage[addr]?.map reloaded) ∧
      ∀ addr,getRightsMask (load stale tooBig (setNetworkId .fresh s.netid) (some (save s))).1 addr=0 := by
  have hne : ∀ entry∈s.storage.toList,entry.1≠0 := by
    rintro ⟨addr,id⟩ he rfl
    have hfound := Std.TreeMap.mem_toList_iff_getElem?_eq_some.mp he
    exact hz (Std.TreeMap.mem_iff_isSome_getElem?.mpr (Option.isSome_of_eq_some hfound))
  obtain ⟨after,hdeliver,hstorage,hmask⟩ := deliver_entries (s := s) stale hc hne
    (.new (clear (setNetworkId .fresh s.netid))) fun _ => rfl
  have hopen : deliver (NetworkIdentityHandler.call stale) (.new (clear (setNetworkId .fresh s.netid))) [.startArray]=
      (.new (clear (setNetworkId .fresh s.netid)),true) := rfl
  have hload : load stale tooBig (setNetworkId .fresh s.netid) (some (save s))=(after.service,LORA_OK) := by
    simp only [load,parse,readEvents_save hc]
    rw [← List.singleton_append,deliver_append hopen,deliver_append hdeliver]
    rfl
  rw [hload]
  refine ⟨rfl,fun addr => ?_,hmask⟩
  rw [hstorage]
  cases hs : s.storage[addr]? with
  | none =>
    refine storeAll_other (fun entry he heq => ?_) _
    have hfound := Std.TreeMap.mem_toList_iff_getElem?_eq_some.mp he
    rw [heq,hs] at hfound
    cases hfound
  | some id =>
    exact storeAll_self Std.TreeMap.distinct_keys_toList (Std.TreeMap.mem_toList_iff_getElem?_eq_some.mpr hs) _

/-- The identity comes back: the two bytes of the device nonce are equal, the
join nonce is zero, and the name is clean and padded. -/
structure ComesBack (id : DeviceId) : Prop where
  /-- The exchange of the bytes does not show. -/
  devNonce : id.devNonce.toNat%256=id.devNonce.toNat/256
  /-- Nothing is shifted. -/
  joinNonce : id.joinNonce=Vector.replicate 3 0
  /-- The name can stand between quotes. -/
  clean : ∀ byte∈DEVICENAME2string id.name,IsClean byte
  /-- Nothing stands behind the end of the name. -/
  padded : IsPadded id.name

/-- An identity with a clean name is given back exactly under this condition. -/
theorem reloaded_eq_iff {id : DeviceId} (hc : ∀ byte∈DEVICENAME2string id.name,IsClean byte) :
    reloaded id=id ↔ ComesBack id := by
  constructor
  · intro h
    have hd : (reloaded id).devNonce=id.devNonce := by rw [h]
    have hj : (reloaded id).joinNonce=id.joinNonce := by rw [h]
    have hn : (reloaded id).name=id.name := by rw [h]
    exact ⟨(devNonce_kept_iff _).mp hd,(joinNonce_kept_iff _).mp hj,hc,(deviceName_kept_iff _).mp hn⟩
  · intro h
    have hd := (devNonce_kept_iff _).mpr h.devNonce
    have hj := (joinNonce_kept_iff _).mpr h.joinNonce
    have hn := (deviceName_kept_iff _).mpr h.padded
    rw [reloaded,hd,hj,hn]

/-- What a service has to be for its file to bring it back: no rights, and
identities that come back. -/
structure Survives (s : JsonFileIdentityService) : Prop where
  /-- There are no rights. -/
  rights : ∀ addr,getRightsMask s addr=0
  /-- Every identity comes back. -/
  identities : ∀ (addr : DEVADDR) (id : DeviceId),s.storage[addr]?=some id → ComesBack id

/-- Without bad names this decides the round trip. -/
theorem roundTrips_iff_of_clean (stale : ℕ → DEVADDR) (tooBig : Bytes → Bool) {s : JsonFileIdentityService}
    (hz : 0∉s.storage) (hc : CleanNames s) : RoundTrips stale tooBig s ↔ Survives s := by
  obtain ⟨hcode,hstorage,hmask⟩ := load_save stale tooBig hz hc
  have hclean : ∀ (addr : DEVADDR) (id : DeviceId),s.storage[addr]?=some id → ∀ byte∈DEVICENAME2string id.name,IsClean byte :=
    fun addr id hs => hc (addr,id) (Std.TreeMap.mem_toList_iff_getElem?_eq_some.mpr hs)
  constructor
  · rintro ⟨-,hsame,hrights⟩
    refine ⟨fun addr => (hrights addr).symm.trans (hmask addr),fun addr id hs => ?_⟩
    have hid := (hstorage addr).symm.trans (hsame addr)
    rw [hs] at hid
    exact (reloaded_eq_iff (hclean addr id hs)).mp (Option.some.inj hid)
  · intro h
    refine ⟨hcode,fun addr => ?_,fun addr => (hmask addr).trans (h.rights addr).symm⟩
    rw [hstorage]
    cases hs : s.storage[addr]? with
    | none => rfl
    | some id =>
      rw [Option.map_some,(reloaded_eq_iff (hclean addr id hs)).mpr (h.identities addr id hs)]

end LorawanServer.IdentityRoundTrip
