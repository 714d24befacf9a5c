import LorawanServer.DeviceHistory
import LorawanServer.IdentityText
import LorawanServer.JsonLexing
import LorawanServer.OrderedMaps

/-!
# The file of frame counters

`JsonFileDeviceHistoryService::save` and `load`. An opening brace clears the record
of the loader but not its address, so an object without an address is stored under
the last address that was read. The file system is assumed to work: a file that is
there is read whole.
-/

namespace LorawanServer.DeviceHistoryFile

open CppRuntime Records JsonDocument DeviceHistory IdentityText JsonEvents OrderedMaps

/-- `ATTR_NAMES`. -/
def ATTR_NAMES : List Bytes := ["addr","time","fcntup","fcntdown"].map ascii

/-- `getAttrByName`, with nothing for a name that is not there. -/
def getAttrByName (name : Bytes) : Option ℕ := ATTR_NAMES.findIdx? fun attr => attr=cString name

/-- The conversions of times, which depend on the time zone of the host. -/
structure Clock where
  /-- `time2string`. -/
  time2string : ℤ → Bytes
  /-- `parseDate`. -/
  parseDate : Bytes → ℤ
  /-- The text of a time has digits, letters, colons and signs. -/
  clean : ∀ t,∀ byte∈time2string t,IsClean byte

/-- A clock that knows one time. -/
def Clock.stopped : Clock := ⟨fun _ => ascii "1970-01-01T00:00:00GMT",fun _ => 0,fun _ => isClean_of_all (by decide +kernel)⟩

/-- The class `DeviceStatJsonHandler`. -/
structure DeviceStatJsonHandler where
  /-- The storage of the service that is filled. -/
  storage : Storage
  /-- Index of the last name. -/
  idx : Option ℕ
  /-- Last address. -/
  k : DEVADDR
  /-- Current record. -/
  v : DeviceHistoryItem

namespace DeviceStatJsonHandler

/-- The constructor, for a service that is cleared. -/
def new : DeviceStatJsonHandler := ⟨∅,none,0,.zero⟩

/-- `Uint`. -/
def uint (h : DeviceStatJsonHandler) (u : UInt32) : DeviceStatJsonHandler :=
  match h.idx with
  | some 2 => {h with v := {h.v with fcntup := u}}
  | some 3 => {h with v := {h.v with fcntdown := u}}
  | _ => h

/-- `String`. -/
def string (clock : Clock) (h : DeviceStatJsonHandler) (str : Bytes) : DeviceStatJsonHandler :=
  match h.idx with
  | some 0 => {h with k := string2DEVADDR h.k str}
  | some 1 => {h with v := {h.v with t := clock.parseDate str}}
  | _ => h

/-- `EndObject`. -/
def endObject (h : DeviceStatJsonHandler) : DeviceStatJsonHandler :=
  if h.k≠0 then {h with storage := h.storage.insert h.k h.v} else h

/-- The calls of the reader. A C string ends at its first zero byte. Numbers with a
sign or past `unsigned` and all other values change nothing. -/
def call (clock : Clock) (h : DeviceStatJsonHandler) : Event → DeviceStatJsonHandler
  | .number false magnitude => if magnitude<2^32 then h.uint (UInt32.ofNat magnitude) else h
  | .string text => h.string clock (cString text)
  | .startObject => {h with v := .zero}
  | .key text => {h with idx := getAttrByName text}
  | .endObject => h.endObject
  | _ => h

/-- The calls, none of which is refused. -/
def run (clock : Clock) (h : DeviceStatJsonHandler) (events : List Event) : DeviceStatJsonHandler :=
  events.foldl (call clock) h

end DeviceStatJsonHandler

/-- `load` of a file, if there is one: the storage afterwards and the code. -/
def load (clock : Clock) (tooBig : Bytes → Bool) : Option Bytes → Storage×ℤ
  | none => (∅,ERR_CODE_INVALID_JSON)
  | some text =>
    let (handler,whole) := parse tooBig (fun h event => (DeviceStatJsonHandler.call clock h event,true)) .new text
    (handler.storage,if whole then 0 else ERR_CODE_INVALID_JSON)

/-- A text between quotes. -/
def quoted (text : Bytes) : Bytes := 34::(text++[34])

/-- A name and what stands between it and its value. -/
def nameText (i : ℕ) (behind : Bytes) : Bytes := quoted (ATTR_NAMES.getD i [])++behind

/-- One object of the file. -/
def entryText (clock : Clock) (entry : DEVADDR×DeviceHistoryItem) : Bytes :=
  10::123::(nameText 0 [58,32]++quoted (DEVADDRINT2string entry.1)++[44,32]++
    nameText 1 [58,32]++quoted (clock.time2string entry.2.t)++[44,32]++
    nameText 2 [58,32]++decimal entry.2.fcntup.toNat++[44,32]++
    nameText 3 [58]++decimal entry.2.fcntdown.toNat++[125,10])

/-- `save`: the text of the file. -/
def save (clock : Clock) (storage : Storage) : Bytes :=
  91::([44].intercalate (storage.toList.map (entryText clock))++[93,10])

/-- The members of an object, each with the calls of its value. -/
abbrev Object := List (Bytes×List Event)

/-- The calls of an object. -/
def Object.calls (object : Object) : List Event :=
  .startObject::(object.flatMap (fun m => .key m.1::m.2)++[.endObject])

/-- The counters of a record. -/
def counters (item : DeviceHistoryItem) : UInt32×UInt32 := (item.fcntup,item.fcntdown)

section Loading

variable (clock : Clock)

/-- The loader behind the first objects of an array. -/
def behind (objects : List Object) : DeviceStatJsonHandler :=
  DeviceStatJsonHandler.new.run clock (.startArray::objects.flatMap Object.calls)

/-- A saved storage gives its counters back, and an object of an array that has no
address leaves all records as they are. -/
structure Faithful (tooBig : Bytes → Bool) (storage : Storage) (document : List Object) : Prop where
  /-- All addresses come back. -/
  restored : (∀ addr∈storage,addr≠0) → (load clock tooBig (some (save clock storage))).2=0 ∧
    ∀ addr : DEVADDR,(load clock tooBig (some (save clock storage))).1[addr]?.map counters=storage[addr]?.map counters
  /-- No record changes. -/
  untouched : ∀ front object back,document=front++object::back → ascii "addr"∉object.map Prod.fst →
    ∀ addr : DEVADDR,(behind clock (front++[object])).storage[addr]?=(behind clock front).storage[addr]?

/-- What the closing braces among some calls store: the address in hand, if it is not
zero, with what was read since the last opening brace. -/
def writes (h : DeviceStatJsonHandler) : List Event → List (DEVADDR×DeviceHistoryItem)
  | [] => []
  | event::rest => (if event=.endObject ∧ h.k≠0 then [(h.k,h.v)] else [])++writes (h.call clock event) rest

/-- Each object of the array that has no address stores last, under every address it
stores under, the record that is there before it. -/
def AlreadyHeld (document : List Object) : Prop :=
  ∀ front object back,document=front++object::back → ascii "addr"∉object.map Prod.fst →
    ∀ (addr : DEVADDR) (item : DeviceHistoryItem),
      lastWrite addr (writes clock (behind clock front) object.calls)=some item →
      (behind clock front).storage[addr]?=some item

/-- The names of the members are found. -/
theorem getAttrByName_getD : ∀ i<4,getAttrByName (ATTR_NAMES.getD i [])=some i := by decide +kernel

/-- A call stores what a closing brace stores. -/
theorem storage_call (h : DeviceStatJsonHandler) (event : Event) :
    (h.call clock event).storage=written h.storage (if event=.endObject ∧ h.k≠0 then [(h.k,h.v)] else []) := by
  have hnone {rest : Prop} [Decidable (event=.endObject ∧ rest)] (hne : event≠.endObject) :
      written h.storage (if event=.endObject ∧ rest then [(h.k,h.v)] else [])=h.storage := by
    rw [if_neg fun hboth => hne hboth.1]
    rfl
  cases event with
  | endObject =>
    rw [DeviceStatJsonHandler.call,DeviceStatJsonHandler.endObject]
    by_cases hk : h.k≠0
    · rw [if_pos hk,if_pos ⟨rfl,hk⟩]
      rfl
    · rw [if_neg hk,if_neg fun hboth => hk hboth.2]
      rfl
  | number minus magnitude =>
    rw [hnone (by rintro ⟨⟩)]
    cases minus with
    | true => rfl
    | false =>
      rw [DeviceStatJsonHandler.call]
      split_ifs
      · rw [DeviceStatJsonHandler.uint]
        split <;> rfl
      · rfl
  | string text =>
    rw [hnone (by rintro ⟨⟩),DeviceStatJsonHandler.call,DeviceStatJsonHandler.string]
    split <;> rfl
  | _ => exact (hnone (by rintro ⟨⟩)).symm

/-- Calls store what their closing braces store. -/
theorem storage_run (h : DeviceStatJsonHandler) (events : List Event) :
    (h.run clock events).storage=written h.storage (writes clock h events) := by
  induction events generalizing h with
  | nil => rfl
  | cons event rest ih =>
    rw [DeviceStatJsonHandler.run,List.foldl_cons,← DeviceStatJsonHandler.run,ih,storage_call,writes,written,written,
      written,List.foldl_append]

/-- The loader behind one more object. -/
theorem behind_concat (front : List Object) (object : Object) :
    behind clock (front++[object])=(behind clock front).run clock object.calls := by
  rw [behind,behind,DeviceStatJsonHandler.run,DeviceStatJsonHandler.run,DeviceStatJsonHandler.run,← List.foldl_append,
    List.flatMap_append,List.flatMap_singleton]
  rfl

/-- An object leaves the records as they are exactly if it stores what is there. -/
theorem untouched_iff (front : List Object) (object : Object) :
    (∀ addr : DEVADDR,(behind clock (front++[object])).storage[addr]?=(behind clock front).storage[addr]?) ↔
      ∀ (addr : DEVADDR) (item : DeviceHistoryItem),
        lastWrite addr (writes clock (behind clock front) object.calls)=some item →
        (behind clock front).storage[addr]?=some item := by
  refine forall_congr' fun addr => ?_
  rw [behind_concat,storage_run,getElem?_written]
  cases lastWrite addr (writes clock (behind clock front) object.calls) with
  | none => exact iff_of_true rfl fun _ h => by cases h
  | some item =>
    rw [Option.some_or]
    refine ⟨?_,fun h => (h item rfl).symm⟩
    rintro h other ⟨⟩
    exact h.symm

/-- The calls of the members of an object. -/
def Object.memberCalls (object : Object) : List Event := object.flatMap fun m => .key m.1::m.2

/-- The values of the members have no objects in them. -/
def Object.Flat (object : Object) : Prop :=
  ∀ m∈object,∀ event∈m.2,event≠.startObject ∧ event≠.endObject ∧ ∀ name,event≠.key name

/-- The record that the members of an object give. -/
def recordOf (object : Object) : DeviceHistoryItem := (DeviceStatJsonHandler.new.run clock object.memberCalls).v

/-- A call that is no brace and no name keeps the address under another name. -/
theorem call_value {h : DeviceStatJsonHandler} (hidx : h.idx≠some 0) {event : Event}
    (h' : event≠.startObject ∧ event≠.endObject ∧ ∀ name,event≠.key name) :
    (h.call clock event).k=h.k ∧ (h.call clock event).idx=h.idx := by
  cases event with
  | startObject => exact absurd rfl h'.1
  | endObject => exact absurd rfl h'.2.1
  | key name => exact absurd rfl (h'.2.2 name)
  | number minus magnitude =>
    cases minus with
    | true => exact ⟨rfl,rfl⟩
    | false =>
      rw [DeviceStatJsonHandler.call]
      split_ifs
      · rw [DeviceStatJsonHandler.uint]
        split <;> exact ⟨rfl,rfl⟩
      · exact ⟨rfl,rfl⟩
  | string text =>
    rw [DeviceStatJsonHandler.call,DeviceStatJsonHandler.string]
    split
    · next hzero => exact absurd hzero hidx
    · exact ⟨rfl,rfl⟩
    · exact ⟨rfl,rfl⟩
  | _ => exact ⟨rfl,rfl⟩

/-- Name and record of the loader do not depend on its address. -/
theorem call_congr {h other : DeviceStatJsonHandler} (hidx : h.idx=other.idx) (hv : h.v=other.v) (event : Event) :
    (h.call clock event).idx=(other.call clock event).idx ∧ (h.call clock event).v=(other.call clock event).v := by
  obtain ⟨storage,idx,k,v⟩ := h
  obtain ⟨storage',idx',k',v'⟩ := other
  dsimp only at hidx hv
  subst hidx hv
  cases event with
  | number minus magnitude =>
    cases minus with
    | true => exact ⟨rfl,rfl⟩
    | false =>
      rw [DeviceStatJsonHandler.call,DeviceStatJsonHandler.call]
      split_ifs
      · rw [DeviceStatJsonHandler.uint,DeviceStatJsonHandler.uint]
        dsimp only
        split <;> exact ⟨rfl,rfl⟩
      · exact ⟨rfl,rfl⟩
  | string text =>
    rw [DeviceStatJsonHandler.call,DeviceStatJsonHandler.call,DeviceStatJsonHandler.string,DeviceStatJsonHandler.string]
    dsimp only
    split <;> exact ⟨rfl,rfl⟩
  | endObject =>
    rw [DeviceStatJsonHandler.call,DeviceStatJsonHandler.call,DeviceStatJsonHandler.endObject,
      DeviceStatJsonHandler.endObject]
    split_ifs <;> exact ⟨rfl,rfl⟩
  | _ => exact ⟨rfl,rfl⟩

/-- Name and record behind some calls do not depend on the address. -/
theorem run_congr {h other : DeviceStatJsonHandler} (hidx : h.idx=other.idx) (hv : h.v=other.v) (events : List Event) :
    (h.run clock events).idx=(other.run clock events).idx ∧ (h.run clock events).v=(other.run clock events).v := by
  induction events generalizing h other with
  | nil => exact ⟨hidx,hv⟩
  | cons event rest ih =>
    obtain ⟨hidx',hv'⟩ := call_congr clock hidx hv event
    exact ih hidx' hv'

/-- The record behind the members of an object depends on the record before them only. -/
theorem run_members_v {h other : DeviceStatJsonHandler} (hv : h.v=other.v) (object : Object) :
    (h.run clock object.memberCalls).v=(other.run clock object.memberCalls).v := by
  cases object with
  | nil => exact hv
  | cons m rest =>
    have hkey : (h.call clock (.key m.1)).idx=(other.call clock (.key m.1)).idx := rfl
    rw [Object.memberCalls,List.flatMap_cons,List.cons_append,DeviceStatJsonHandler.run,DeviceStatJsonHandler.run,
      List.foldl_cons,List.foldl_cons]
    exact (run_congr clock hkey hv _).2

/-- The values of a member that is no address store nothing and keep the address. -/
theorem run_value {events : List Event}
    (hflat : ∀ event∈events,event≠.startObject ∧ event≠.endObject ∧ ∀ name,event≠.key name) {h : DeviceStatJsonHandler}
    (hidx : h.idx≠some 0) : writes clock h events=[] ∧ (h.run clock events).k=h.k := by
  induction events generalizing h with
  | nil => exact ⟨rfl,rfl⟩
  | cons event rest ih =>
    have hevent := hflat event List.mem_cons_self
    obtain ⟨hk,hsame⟩ := call_value clock hidx hevent
    obtain ⟨hwrites,hrun⟩ := ih (fun other hother => hflat other (List.mem_cons_of_mem _ hother)) (by rwa [hsame])
    refine ⟨?_,hrun.trans hk⟩
    rw [writes,hwrites,if_neg fun hboth => hevent.2.1 hboth.1,List.append_nil]

/-- What some calls store behind others. -/
theorem writes_append (h : DeviceStatJsonHandler) (first second : List Event) :
    writes clock h (first++second)=writes clock h first++writes clock (h.run clock first) second := by
  induction first generalizing h with
  | nil => rfl
  | cons event rest ih =>
    rw [List.cons_append,writes,writes,ih,List.append_assoc]
    rfl

/-- The members of a flat object without an address store nothing and keep the address. -/
theorem run_flat {object : Object} (hflat : object.Flat) (haddr : ∀ m∈object,getAttrByName m.1≠some 0)
    (h : DeviceStatJsonHandler) : writes clock h object.memberCalls=[] ∧ (h.run clock object.memberCalls).k=h.k := by
  induction object generalizing h with
  | nil => exact ⟨rfl,rfl⟩
  | cons m rest ih =>
    obtain ⟨hwrites,hk⟩ := run_value clock (hflat m List.mem_cons_self)
      (show (h.call clock (.key m.1)).idx≠some 0 from haddr m List.mem_cons_self)
    obtain ⟨hothers,hlast⟩ := ih (fun other hother => hflat other (List.mem_cons_of_mem _ hother))
      (fun other hother => haddr other (List.mem_cons_of_mem _ hother)) (((h.call clock (.key m.1)).run clock m.2))
    rw [Object.memberCalls] at hothers hlast
    rw [Object.memberCalls,List.flatMap_cons,List.cons_append,writes,if_neg (by simp),writes_append,hwrites,hothers]
    refine ⟨rfl,?_⟩
    rw [DeviceStatJsonHandler.run,List.foldl_cons,List.foldl_append]
    exact hlast.trans hk

/-- A flat object without an address stores its record under the address in hand. -/
theorem writes_flat {object : Object} (hflat : object.Flat) (haddr : ∀ m∈object,getAttrByName m.1≠some 0)
    (h : DeviceStatJsonHandler) :
    writes clock h object.calls=if h.k=0 then [] else [(h.k,recordOf clock object)] := by
  obtain ⟨hwrites,hk⟩ := run_flat clock hflat haddr (h.call clock .startObject)
  have hv := run_members_v clock (show (h.call clock .startObject).v=DeviceStatJsonHandler.new.v from rfl) object
  have hkey : (h.call clock .startObject).k=h.k := rfl
  rw [Object.calls,← Object.memberCalls,writes,if_neg (by simp),writes_append,hwrites,writes,hk,hv,hkey]
  by_cases hzero : h.k=0
  · rw [if_neg fun hboth => hboth.2 hzero,if_pos hzero]
    rfl
  · rw [if_pos ⟨rfl,hzero⟩,if_neg hzero]
    rfl

/-- A flat object without an address leaves the records as they are exactly if no
address but zero was read before it or its record is the one of that address. -/
theorem flat_untouched_iff {object : Object} (hflat : object.Flat) (haddr : ∀ m∈object,getAttrByName m.1≠some 0)
    (front : List Object) :
    (∀ addr : DEVADDR,(behind clock (front++[object])).storage[addr]?=(behind clock front).storage[addr]?) ↔
      (behind clock front).k=0 ∨ (behind clock front).storage[(behind clock front).k]?=some (recordOf clock object) := by
  rw [untouched_iff,writes_flat clock hflat haddr]
  by_cases hzero : (behind clock front).k=0
  · rw [if_pos hzero]
    exact iff_of_true (fun addr item h => by cases h) (.inl hzero)
  · rw [if_neg hzero]
    constructor
    · intro h
      exact .inr (h _ _ (by rw [lastWrite,if_pos rfl]; rfl))
    · rintro (h|h) addr item hlast
      · exact absurd h hzero
      · rw [lastWrite,lastWrite,Option.none_or] at hlast
        split_ifs at hlast with heq
        rw [← heq,h]
        exact hlast

end Loading

section Saving

variable {tooBig : Bytes → Bool} (clock : Clock)

/-- The members of an object of the file. -/
def entryMembers (entry : DEVADDR×DeviceHistoryItem) : List (Bytes×Event) :=
  [(ATTR_NAMES.getD 0 [],.string (DEVADDRINT2string entry.1)),(ATTR_NAMES.getD 1 [],.string (clock.time2string entry.2.t)),
    (ATTR_NAMES.getD 2 [],.number false entry.2.fcntup.toNat),(ATTR_NAMES.getD 3 [],.number false entry.2.fcntdown.toNat)]

/-- A name and what stands between it and its value. -/
theorem lexes_nameText (i : ℕ) {text : Bytes} {list : List Token} (h : Lexes tooBig text list) :
    Lexes tooBig (nameText i text) (.string (ATTR_NAMES.getD i [])::list) :=
  (lexes_string (isClean_getD_of_all (by decide +kernel) i)).append h

/-- An object of the file. -/
theorem lexes_entryText (entry : DEVADDR×DeviceHistoryItem) :
    Lexes tooBig (entryText clock entry) (objectTokens (entryMembers clock entry)) := by
  have hopen : Lexes tooBig [10,123] [.openBrace] := (lexes_space rfl).append lexes_openBrace
  have hcolon : Lexes tooBig [58,32] [.colon] := lexes_colon.append (lexes_space rfl)
  have hcomma : Lexes tooBig [44,32] [.comma] := lexes_comma.append (lexes_space rfl)
  have haddr : Lexes tooBig (quoted (DEVADDRINT2string entry.1)) [.string (DEVADDRINT2string entry.1)] :=
    lexes_string (isClean_hexString _)
  have htime : Lexes tooBig (quoted (clock.time2string entry.2.t)) [.string (clock.time2string entry.2.t)] :=
    lexes_string (clock.clean entry.2.t)
  have hup : Lexes tooBig (decimal entry.2.fcntup.toNat++[44]) [.scalar (.number false entry.2.fcntup.toNat),.comma] :=
    lexes_decimal (entry.2.fcntup.toNat_lt.trans (by decide)) rfl lexes_comma
  have hdown : Lexes tooBig (decimal entry.2.fcntdown.toNat++[125])
      [.scalar (.number false entry.2.fcntdown.toNat),.closeBrace] :=
    lexes_decimal (entry.2.fcntdown.toNat_lt.trans (by decide)) rfl lexes_closeBrace
  have hspace : Lexes tooBig [32] [] := lexes_space rfl
  have hend : Lexes tooBig [10] [] := lexes_space rfl
  have hfirst := (hopen.append (lexes_nameText 0 hcolon)).append (haddr.append hcomma)
  have hsecond := hfirst.append ((lexes_nameText 1 hcolon).append (htime.append hcomma))
  have hthird := hsecond.append ((lexes_nameText 2 hcolon).append (hup.append hspace))
  have hlex := hthird.append ((lexes_nameText 3 lexes_colon).append (hdown.append hend))
  have htext : entryText clock entry=[10,123]++nameText 0 [58,32]++(quoted (DEVADDRINT2string entry.1)++[44,32])++
      (nameText 1 [58,32]++(quoted (clock.time2string entry.2.t)++[44,32]))++
      (nameText 2 [58,32]++(decimal entry.2.fcntup.toNat++[44]++[32]))++
      (nameText 3 [58]++(decimal entry.2.fcntdown.toNat++[125]++[10])) := by
    simp only [entryText,List.append_assoc,List.cons_append,List.nil_append]
  rw [htext]
  exact hlex

/-- A saved storage is read as one object for every record. -/
theorem readEvents_save (storage : Storage) : readEvents tooBig (save clock storage)=
    (.startArray::((storage.toList.map (entryMembers clock)).flatMap objectEvents++[.endArray]),true) := by
  refine readEvents_objects ?_ ?_
  · intro members hm
    obtain ⟨entry,-,rfl⟩ := List.mem_map.mp hm
    exact List.cons_ne_nil _ _
  · have hclose : Lexes tooBig [93,10] [.closeBracket] := lexes_closeBracket.append (lexes_space rfl)
    have hentries : Lexes tooBig ([44].intercalate (storage.toList.map (entryText clock)))
        ([.comma].intercalate (storage.toList.map fun entry => objectTokens (entryMembers clock entry))) :=
      lexes_comma.intercalate fun entry _ => lexes_entryText clock entry
    have hlex := lexes_openBracket.append (hentries.append hclose)
    rw [List.map_map]
    exact hlex

/-- What an object of the file gives back: another time. -/
def reread (item : DeviceHistoryItem) : DeviceHistoryItem :=
  {item with t := clock.parseDate (clock.time2string item.t)}

/-- An object of the file stores its record, whatever was read before. -/
theorem run_entry {entry : DEVADDR×DeviceHistoryItem} (hne : entry.1≠0) (h : DeviceStatJsonHandler) :
    h.run clock (objectEvents (entryMembers clock entry))=
      ⟨h.storage.insert entry.1 (reread clock entry.2),some 3,entry.1,reread clock entry.2⟩ := by
  have haddr : cString (DEVADDRINT2string entry.1)=DEVADDRINT2string entry.1 := cString_of_clean (isClean_hexString _)
  have htime : cString (clock.time2string entry.2.t)=clock.time2string entry.2.t := cString_of_clean (clock.clean _)
  have hup : entry.2.fcntup.toNat<2^32 := entry.2.fcntup.toNat_lt
  have hdown : entry.2.fcntdown.toNat<2^32 := entry.2.fcntdown.toNat_lt
  simp only [DeviceStatJsonHandler.run,objectEvents,entryMembers,memberEvents,List.flatMap_cons,List.flatMap_nil,
    List.cons_append,List.nil_append,List.foldl_cons,List.foldl_nil,DeviceStatJsonHandler.call,getAttrByName_getD 0 (by decide),
    getAttrByName_getD 1 (by decide),getAttrByName_getD 2 (by decide),getAttrByName_getD 3 (by decide),
    DeviceStatJsonHandler.string,DeviceStatJsonHandler.uint,haddr,htime,string2DEVADDR_print,if_pos hup,if_pos hdown,
    UInt32.ofNat_toNat,DeviceStatJsonHandler.endObject,if_pos hne]
  rfl

/-- The objects of the file store their records one behind the other. -/
theorem run_entries {entries : List (DEVADDR×DeviceHistoryItem)} (hne : ∀ entry∈entries,entry.1≠0)
    (h : DeviceStatJsonHandler) :
    (h.run clock ((entries.map (entryMembers clock)).flatMap objectEvents)).storage=
      filled h.storage (reread clock) entries := by
  induction entries generalizing h with
  | nil => rfl
  | cons entry rest ih =>
    have hrun := run_entry clock (hne entry List.mem_cons_self) h
    rw [DeviceStatJsonHandler.run] at hrun
    rw [List.map_cons,List.flatMap_cons,DeviceStatJsonHandler.run,List.foldl_append,hrun,← DeviceStatJsonHandler.run,
      ih (fun other hother => hne other (List.mem_cons_of_mem _ hother))]
    rfl

/-- A loader that refuses nothing takes all calls. -/
theorem deliver_call (h : DeviceStatJsonHandler) (events : List Event) :
    deliver (fun h event => (DeviceStatJsonHandler.call clock h event,true)) h events=(h.run clock events,true) := by
  induction events generalizing h with
  | nil => rfl
  | cons event rest ih =>
    rw [deliver]
    exact ih _

/-- A saved storage over addresses that are not zero gives its records back, but for their times. -/
theorem load_save {storage : Storage} (h : ∀ addr∈storage,addr≠0) :
    load clock tooBig (some (save clock storage))=(filled ∅ (reread clock) storage.toList,0) := by
  have hne : ∀ entry∈storage.toList,entry.1≠0 := fun entry hentry =>
    h entry.1 (Std.TreeMap.mem_iff_isSome_getElem?.mpr
      (Option.isSome_of_eq_some (Std.TreeMap.mem_toList_iff_getElem?_eq_some.mp hentry)))
  have hrun := run_entries clock hne .new
  rw [load,parse,readEvents_save]
  dsimp only
  rw [deliver_call,DeviceStatJsonHandler.run,List.foldl_cons,List.foldl_append]
  exact Prod.ext hrun rfl

/-- The counters of a saved storage come back. -/
theorem counters_restored {storage : Storage} (h : ∀ addr∈storage,addr≠0) :
    (load clock tooBig (some (save clock storage))).2=0 ∧
      ∀ addr : DEVADDR,(load clock tooBig (some (save clock storage))).1[addr]?.map counters=
        storage[addr]?.map counters := by
  rw [load_save clock h]
  refine ⟨rfl,fun addr => ?_⟩
  dsimp only
  rw [getElem?_filled_toList,Std.TreeMap.getElem?_emptyc,Option.or_none,Option.map_map]
  rfl

/-- Saving gives all counters back, so the file is faithful exactly if every object
without an address stores only what is there before it. -/
theorem faithful_iff (tooBig : Bytes → Bool) (storage : Storage) (document : List Object) :
    Faithful clock tooBig storage document ↔ AlreadyHeld clock document := by
  constructor
  · intro h front object back hdocument hname
    exact (untouched_iff clock front object).mp (h.untouched front object back hdocument hname)
  · intro h
    exact ⟨fun hne => counters_restored clock hne,fun front object back hdocument hname =>
      (untouched_iff clock front object).mpr (h front object back hdocument hname)⟩

/-- An object without an address puts its counters in the place of those before it. -/
theorem nameless_overwrites : ¬Faithful .stopped (fun _ => false) ∅
    [[(ascii "addr",[.string (ascii "01020304")]),(ascii "fcntup",[.number false 5])],[(ascii "fcntup",[.number false 1])]] := by
  intro h
  have hsame := h.untouched [[(ascii "addr",[.string (ascii "01020304")]),(ascii "fcntup",[.number false 5])]]
    [(ascii "fcntup",[.number false 1])] [] rfl (by decide +kernel) 0x01020304
  exact absurd hsame (by decide +kernel)

end Saving

end LorawanServer.DeviceHistoryFile
