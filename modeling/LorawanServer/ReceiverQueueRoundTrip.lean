import LorawanServer.JsonLexing
import LorawanServer.ReceiverQueueFile

/-!
# The file of received payloads read back

Every saved entry has an object inside, so two braces open before the first one
closes, and the loader never again sees the first level. A saved file gives no
entry back, whatever it holds.
-/

namespace LorawanServer.ReceiverQueueRoundTrip

open CppRuntime Records JsonDocument JsonEvents ReceiverQueue ReceiverQueueFile
open SimulatedUplink (intText)

/-- An entry as it is to come back. -/
structure Restored where
  /-- Seconds, microseconds and number. -/
  key : ReceiverQueueKey
  /-- Address of the device. -/
  addr : DEVADDR
  /-- Port. -/
  fport : UInt8
  /-- Device identifier. -/
  devEUI : DEVEUI
  /-- Device class. -/
  deviceclass : DeviceClass
  /-- Activation type. -/
  activation : Activation
  /-- Network session key. -/
  nwkSKey : KEY128
  /-- Application session key. -/
  appSKey : KEY128
  /-- Device name. -/
  name : DEVICENAME
  /-- Payload. -/
  payload : Bytes
  /-- Databases in their order. -/
  dbids : List ℤ
  deriving DecidableEq

/-- What is to come back of an entry. -/
def restored (entry : ReceiverQueueKey×ReceiverQueueValue) : Restored :=
  let id := entry.2.deviceId
  ⟨entry.1,entry.2.addr,entry.2.fport,id.devEUI,id.deviceclass,id.activation,id.nwkSKey,id.appSKey,id.name,
    entry.2.payload,entry.2.dbids⟩

/-- A saved file is read into a fresh service without an error, and the queue is
as before. -/
def RoundTrips (platform : Platform) (dbs : List ℤ) (s : JsonFileReceiverQueueService) : Prop :=
  (load platform (.fresh dbs) (some (save s))).2=0 ∧
    (load platform (.fresh dbs) (some (save s))).1.storage.toList.map restored=s.storage.toList.map restored

instance (platform : Platform) (dbs : List ℤ) (s : JsonFileReceiverQueueService) :
    Decidable (RoundTrips platform dbs s) := inferInstanceAs (Decidable (_ ∧ _))

/-- No brace closes at the first level, counted from a number of open ones on. -/
def NoneStored : ℕ → List Event → Prop
  | _,[] => True
  | level,.startObject::rest => NoneStored (level+1) rest
  | level,.endObject::rest => level≠1 ∧ NoneStored level rest
  | level,_::rest => NoneStored level rest

/-- Behind two opening braces the first level does not come again. -/
theorem noneStored_of_two {level : ℕ} (h : 2≤level) (events : List Event) : NoneStored level events := by
  induction events generalizing level with
  | nil => trivial
  | cons event rest ih =>
    cases event with
    | startObject => exact ih (by omega)
    | endObject => exact ⟨by omega,ih h⟩
    | null => exact ih h
    | bool value => exact ih h
    | number minus magnitude => exact ih h
    | double text => exact ih h
    | string text => exact ih h
    | key text => exact ih h
    | startArray => exact ih h
    | endArray => exact ih h

section Handler

variable {toUnsigned : Bytes → UInt32}

/-- A number goes into the current entry. -/
theorem putUInt_keeps (h : MessageQueueJsonHandler) (value : UInt32) :
    (h.putUInt value).service=h.service ∧ (h.putUInt value).level=h.level := by
  rw [MessageQueueJsonHandler.putUInt]
  dsimp only
  split <;> exact ⟨rfl,rfl⟩

/-- A string goes into the current entry. -/
theorem string_keeps (h : MessageQueueJsonHandler) (s : Bytes) :
    (h.string s).1.service=h.service ∧ (h.string s).1.level=h.level := by
  have hdevice : ∀ deviceId,(h.setDevice deviceId).service=h.service ∧ (h.setDevice deviceId).level=h.level :=
    fun _ => ⟨rfl,rfl⟩
  fun_cases MessageQueueJsonHandler.string h s
  · exact ⟨rfl,rfl⟩
  · exact ⟨rfl,rfl⟩
  · exact ⟨rfl,rfl⟩
  · exact hdevice _
  · exact hdevice _
  · exact hdevice _
  · exact hdevice _
  · exact hdevice _
  · exact hdevice _
  · exact putUInt_keeps h _

/-- Nothing is stored while no brace closes at the first level. -/
theorem deliver_noneStored {events : List Event} {h : MessageQueueJsonHandler} (hn : NoneStored h.level events) :
    (deliver (MessageQueueJsonHandler.call toUnsigned) h events).1.service=h.service := by
  induction events generalizing h with
  | nil => rfl
  | cons event rest ih =>
    -- a call that keeps service and level
    have hsame : ∀ {next : MessageQueueJsonHandler},next.service=h.service ∧ next.level=h.level →
        NoneStored h.level rest →
          (deliver (MessageQueueJsonHandler.call toUnsigned) next rest).1.service=h.service := by
      intro next hk hr
      rw [← hk.2] at hr
      rw [ih hr,hk.1]
    rw [deliver]
    cases event with
    | startObject => exact ih hn
    | endObject =>
      have hend : h.endObject=h := if_neg hn.1
      dsimp only [MessageQueueJsonHandler.call]
      rw [hend]
      exact ih hn.2
    | null => exact ih hn
    | bool value => exact ih hn
    | number minus magnitude => exact hsame (putUInt_keeps h _) hn
    | double text => exact hsame (putUInt_keeps h _) hn
    | string text =>
      have hk := string_keeps h text
      dsimp only [MessageQueueJsonHandler.call]
      split
      · exact hsame hk hn
      · exact hk.1
    | key text => exact hsame ⟨rfl,rfl⟩ hn
    | startArray => exact ih hn
    | endArray => exact ih hn

end Handler

section Reading

variable {tooBig : Bytes → Bool}

/-- A number is an integer or a text. -/
theorem numeralEvent_cases {minus plain : Bool} {magnitude : ℕ} {lexeme : Bytes} {event : Event}
    (h : numeralEvent tooBig minus plain magnitude lexeme=some event) :
    (∃ minus magnitude,event=.number minus magnitude) ∨ ∃ lexeme,event=.double lexeme := by
  rw [numeralEvent] at h
  by_cases hfit : plain=true ∧ if minus=true then magnitude≤2^63 else magnitude<2^64
  · rw [if_pos hfit] at h
    exact .inl ⟨_,_,(Option.some.inj h).symm⟩
  · rw [if_neg hfit] at h
    by_cases hbig : tooBig lexeme=true
    · rw [if_pos hbig] at h
      cases h
    · rw [if_neg hbig] at h
      exact .inr ⟨_,(Option.some.inj h).symm⟩

/-- The next token is a number, unless it is too big. -/
theorem lex_int (value : ℤ) (rest : Bytes) :
    lex tooBig (intText value++44::rest)=([],false) ∨
      ∃ event,(∀ level events,NoneStored level (event::events)=NoneStored level events) ∧
        lex tooBig (intText value++44::rest)=
          (.scalar event::(lex tooBig (44::rest)).1,(lex tooBig (44::rest)).2) := by
  have htext : intText value=signed (decide (value<0)) (decimal value.natAbs) := by
    rw [intText,signed]
    simp only [decide_eq_true_eq]
  have hnext : nextToken tooBig (signed (decide (value<0)) (decimal value.natAbs)++44::rest)=_ :=
    nextToken_signed (isNumeral_decimal value.natAbs) rfl
  rw [htext,lex_eq,hnext]
  cases hevent : numeralEvent tooBig (decide (value<0)) true (digitsValue (decimal value.natAbs))
      (signed (decide (value<0)) (decimal value.natAbs)) with
  | none => exact .inl rfl
  | some event =>
    refine .inr ⟨event,?_,rfl⟩
    rcases numeralEvent_cases hevent with ⟨minus,magnitude,rfl⟩|⟨lexeme,rfl⟩ <;> exact fun _ _ => rfl

/-- A name of the file with its colon. -/
theorem lexes_name (i : ℕ) : Lexes tooBig (nameText (ATTR_NAMES.getD i [])) [.string (ATTR_NAMES.getD i []),.colon] := by
  have hclean : ∀ byte∈ATTR_NAMES.getD i [],IsClean byte := isClean_getD_of_all (by decide +kernel) i
  have hlex : Lexes tooBig _ _ := (lexes_string hclean).append lexes_colon
  have htext : nameText (ATTR_NAMES.getD i [])=34::(ATTR_NAMES.getD i []++[34])++[58] := by
    rw [nameText,List.cons_append,List.append_assoc]
    rfl
  rw [htext]
  exact hlex

/-- What stands in front of the first time of a file. -/
def front : Bytes := [91]++([10]++([123]++nameText (ATTR_NAMES.getD 0 [])))

/-- What stands behind it. -/
def behind (entry : ReceiverQueueKey×ReceiverQueueValue) (rest : Bytes) : Bytes :=
  44::(nameText (ATTR_NAMES.getD 1 [])++(intText entry.1.id++44::(nameText (ATTR_NAMES.getD 4 [])++123::rest)))

/-- A file that is not empty starts with an entry, and the entry with two opening
braces. -/
theorem save_cons {s : JsonFileReceiverQueueService} {entry : ReceiverQueueKey×ReceiverQueueValue}
    {entries : List (ReceiverQueueKey×ReceiverQueueValue)} (h : s.storage.toList=entry::entries) :
    ∃ rest,save s=front++(intText entry.1.time.tvSec++behind entry rest) := by
  have hjoin : ∃ tail,[44,10].intercalate ((entry::entries).map entryText)=entryText entry++tail := by
    cases entries with
    | nil => exact ⟨[],by rw [List.map_singleton,List.intercalate_singleton,List.append_nil]⟩
    | cons other entries => exact ⟨_,by rw [List.map_cons,List.map_cons,List.intercalate_cons_cons,List.append_assoc]⟩
  obtain ⟨tail,htail⟩ := hjoin
  have hdevice : ∃ members,toJsonString entry.2.deviceId=123::members := ⟨_,rfl⟩
  obtain ⟨members,hmembers⟩ := hdevice
  refine ⟨members++(payloadText entry.2++(tail++[10,93,10])),?_⟩
  rw [save,h,htail,entryText,hmembers,front,behind]
  simp only [List.cons_append,List.nil_append,List.append_assoc]

/-- No brace of such a file closes at the first level. -/
theorem noneStored_save {s : JsonFileReceiverQueueService} {entry : ReceiverQueueKey×ReceiverQueueValue}
    {entries : List (ReceiverQueueKey×ReceiverQueueValue)} (h : s.storage.toList=entry::entries) :
    NoneStored 0 (readEvents tooBig (save s)).1 := by
  obtain ⟨rest,hsave⟩ := save_cons h
  have hfront : Lexes tooBig front [.openBracket,.openBrace,.string (ATTR_NAMES.getD 0 []),.colon] :=
    lexes_openBracket.append ((lexes_space rfl).append (lexes_openBrace.append (lexes_name 0)))
  have hid : Lexes tooBig (44::nameText (ATTR_NAMES.getD 1 [])) [.comma,.string (ATTR_NAMES.getD 1 []),.colon] :=
    lexes_comma.append (lexes_name 1)
  have hdevice : Lexes tooBig (44::(nameText (ATTR_NAMES.getD 4 [])++[123]))
      [.comma,.string (ATTR_NAMES.getD 4 []),.colon,.openBrace] :=
    lexes_comma.append ((lexes_name 4).append lexes_openBrace)
  have hobject : 44::(nameText (ATTR_NAMES.getD 4 [])++123::rest)=44::(nameText (ATTR_NAMES.getD 4 [])++[123])++rest := by
    rw [List.cons_append,List.append_assoc,List.singleton_append]
  change NoneStored 0 (feed (.value,[]) (lex tooBig (save s)).1).1
  rw [hsave,hfront,behind]
  -- the text ends at a number that is too big, or the reader comes to the second brace
  rcases @lex_int tooBig entry.1.time.tvSec _ with hlex|⟨time,htime,hlex⟩
  · rw [hlex]
    trivial
  · rw [hlex,← List.cons_append,hid]
    rcases @lex_int tooBig entry.1.id _ with hlex|⟨id,hnumber,hlex⟩
    · rw [hlex]
      change NoneStored 1 [time,.key _]
      rw [htime]
      trivial
    · rw [hlex,hobject,hdevice]
      change NoneStored 1 (time::.key _::id::.key _::.startObject::_)
      rw [htime]
      change NoneStored 1 (id::.key _::.startObject::_)
      rw [hnumber]
      exact noneStored_of_two le_rfl _

end Reading

/-- Nothing comes back of a queue that is not empty. -/
theorem load_save_storage (platform : Platform) (dbs : List ℤ) {s : JsonFileReceiverQueueService}
    (h : s.storage.isEmpty=false) : (load platform (.fresh dbs) (some (save s))).1.storage=∅ := by
  cases hlist : s.storage.toList with
  | nil =>
    rw [← Std.TreeMap.isEmpty_toList,hlist] at h
    cases h
  | cons entry entries =>
    have hn : NoneStored 0 (readEvents platform.tooBig (save s)).1 := noneStored_save hlist
    have hservice : (load platform (.fresh dbs) (some (save s))).1=clear (.fresh dbs) := deliver_noneStored hn
    rw [hservice]
    rfl

/-- A saved queue comes back exactly when it is empty. -/
theorem roundTrips_iff_isEmpty (platform : Platform) (dbs : List ℤ) (s : JsonFileReceiverQueueService) :
    RoundTrips platform dbs s ↔ s.storage.isEmpty=true := by
  constructor
  · rintro ⟨-,hlist⟩
    by_contra hne
    have hempty : (load platform (.fresh dbs) (some (save s))).1.storage=∅ :=
      load_save_storage platform dbs (Bool.eq_false_iff.mpr hne)
    rw [hempty] at hlist
    have hnil := List.map_eq_nil_iff.mp hlist.symm
    rw [← Std.TreeMap.isEmpty_toList,hnil] at hne
    exact hne rfl
  · intro h
    rw [← Std.TreeMap.isEmpty_toList,List.isEmpty_iff] at h
    have hsave : save s=[91,10,10,93,10] := by
      rw [save,h]
      rfl
    rw [RoundTrips,hsave,h]
    exact ⟨rfl,rfl⟩

/-- A queue with one payload for one database, of a device with a name. -/
def onePayload : JsonFileReceiverQueueService :=
  pushEntry (.fresh [1]) ⟨⟨⟨1624327719,0⟩,1⟩,
    ⟨7,{DeviceId.empty with name := #v[115,101,110,115,111,114,48,49]},[1,2,3],5,[1]⟩⟩

/-- It is lost. -/
theorem onePayload_lost : ¬∀ platform dbs s,RoundTrips platform dbs s := by
  intro h
  have hlost := h ⟨fun _ => true,fun _ => 0,0,0⟩ [1] onePayload
  revert hlost
  decide +kernel

end LorawanServer.ReceiverQueueRoundTrip
