import LorawanServer.IdentityRoundTrip

/-!
# Names that do not fit between quotes

A name with a quote, a backslash or a control byte never comes back from the
file. A name that is read comes from a string of the file. Only a string with a
backslash spells such a name, and then it is shorter than the string; the
backslash belongs to a stored name, and the string lies inside that name, since
no string goes on over the end of a line. So every such name would need a
longer one.
-/

namespace LorawanServer.IdentityNames

open CppRuntime Records JsonDocument DeviceAddress IdentityStore IdentityText IdentityFile IdentityRoundTrip
  JsonEvents

/-- A name that is zero or was read from one of the strings. -/
def NameFrom (events : List Event) (name : DEVICENAME) : Prop :=
  name=DeviceId.empty.name ∨ ∃ text,.string text∈events ∧ name=string2DEVICENAME (cString text)

/-- All names of a handler and of its service are of this kind. -/
structure NamesFrom (events : List Event) (h : NetworkIdentityHandler) : Prop where
  /-- The name of the current object. -/
  current : NameFrom events h.v.name
  /-- The names that are stored. -/
  stored : ∀ (addr : DEVADDR) (id : DeviceId),h.service.storage[addr]?=some id → NameFrom events id.name

/-- Storing an object keeps to it. -/
theorem NamesFrom.store {events : List Event} {h : NetworkIdentityHandler} (hn : NamesFrom events h)
    (devaddr : DEVADDR) : NamesFrom events (h.store devaddr) where
  current := hn.current
  stored := by
    intro addr id hs
    have hp : (h.service.storage.insert devaddr h.v)[addr]?=some id := hs
    rw [Std.TreeMap.getElem?_insert] at hp
    split at hp
    · rw [← Option.some.inj hp]
      exact hn.current
    · exact hn.stored addr id hp

/-- A string keeps to it. -/
theorem NamesFrom.string {events : List Event} {h : NetworkIdentityHandler} (hn : NamesFrom events h) {text : Bytes}
    (ht : .string text∈events) : NamesFrom events (h.string (cString text)) := by
  have hname : NameFrom events (string2DEVICENAME (cString text)) := .inr ⟨text,ht,rfl⟩
  unfold NetworkIdentityHandler.string
  split
  case h_13 => exact ⟨hname,hn.stored⟩
  all_goals exact ⟨hn.current,hn.stored⟩

/-- One call keeps to it. -/
theorem NamesFrom.call {events : List Event} {h : NetworkIdentityHandler} (hn : NamesFrom events h)
    (stale : ℕ → DEVADDR) {event : Event} (he : event∈events) : NamesFrom events (h.call stale event).1 := by
  cases event with
  | number minus magnitude =>
    cases minus with
    | true => exact hn
    | false =>
      simp only [NetworkIdentityHandler.call,NetworkIdentityHandler.uint]
      split
      · split
        · exact ⟨hn.current,hn.stored⟩
        · exact hn
      · exact hn
  | string text => exact hn.string he
  | startObject => exact ⟨.inl rfl,hn.stored⟩
  | key text => exact ⟨hn.current,hn.stored⟩
  | endObject =>
    simp only [NetworkIdentityHandler.call,NetworkIdentityHandler.endObject]
    split
    · split
      · split
        · exact hn
        · next identity r _ _ =>
          have hs := hn.store identity.devaddr
          exact ⟨hs.current,hs.stored⟩
      · exact hn
    · exact hn.store h.k
  | _ => exact hn

/-- A list of calls keeps to it. -/
theorem NamesFrom.deliver {events : List Event} (stale : ℕ → DEVADDR) {calls : List Event}
    (hc : ∀ event∈calls,event∈events) :
    ∀ h,NamesFrom events h → NamesFrom events (deliver (NetworkIdentityHandler.call stale) h calls).1 := by
  induction calls with
  | nil => exact fun h hn => hn
  | cons event rest ih =>
    intro h hn
    obtain ⟨he,hrest⟩ := List.forall_mem_cons.mp hc
    have hcall := hn.call stale he
    simp only [JsonEvents.deliver]
    split
    · exact ih hrest _ hcall
    · exact hcall

/-- A name that is loaded is zero or was read from a string of the file. -/
theorem nameFrom_load {stale : ℕ → DEVADDR} {tooBig : Bytes → Bool} {s : JsonFileIdentityService} {text : Bytes}
    {addr : DEVADDR} {id : DeviceId} (h : (load stale tooBig s (some text)).1.storage[addr]?=some id) :
    NameFrom (readEvents tooBig text).1 id.name := by
  have hstart : NamesFrom (readEvents tooBig text).1 (.new (clear s)) := by
    refine ⟨.inl rfl,fun addr id hs => ?_⟩
    exact absurd hs (by rw [show (NetworkIdentityHandler.new (clear s)).service.storage=∅ from rfl,
      Std.TreeMap.getElem?_emptyc]; exact Option.some_ne_none _ |>.symm)
  exact (NamesFrom.deliver stale (fun _ he => he) _ hstart).stored addr id h

/-- A byte of two texts stands in the first or in the second one. -/
theorem append_eq_mark {first second front back : Bytes} {byte : UInt8} (h : first++second=front++byte::back) :
    (∃ rest,first=front++byte::rest ∧ back=rest++second) ∨ ∃ rest,front=first++rest ∧ second=rest++byte::back := by
  rcases List.append_eq_append_iff.mp h with ⟨rest,hfront,hsecond⟩|⟨rest,hfirst,hback⟩
  · exact .inr ⟨rest,hfront,hsecond⟩
  · cases rest with
    | nil => exact .inr ⟨[],by rw [hfirst,List.append_nil,List.append_nil],hback.symm⟩
    | cons head rest =>
      obtain ⟨rfl,htail⟩ := List.cons.inj hback
      exact .inl ⟨rest,hfirst,htail⟩

/-- A byte that is in no item and not in the separator is not between them. -/
theorem notMem_intercalate {byte : UInt8} {separator : Bytes} (hs : byte∉separator) {items : List Bytes}
    (h : ∀ item∈items,byte∉item) : byte∉separator.intercalate items := by
  induction items with
  | nil => exact List.not_mem_nil
  | cons item rest ih =>
    obtain ⟨hfirst,hrest⟩ := List.forall_mem_cons.mp h
    cases rest with
    | nil =>
      rw [List.intercalate_singleton]
      exact hfirst
    | cons second rest =>
      rw [List.intercalate_cons_cons,List.mem_append,List.mem_append]
      exact not_or.mpr ⟨not_or.mpr ⟨hfirst,hs⟩,ih hrest⟩

/-- A clean text has no backslash. -/
theorem backslash_notMem {text : Bytes} (h : ∀ byte∈text,IsClean byte) : 92∉text :=
  fun hm => (h 92 hm).2.2 rfl

/-- A member with a clean text has no backslash. -/
theorem backslash_notMem_member (i : ℕ) {value : Bytes} (h : ∀ byte∈value,IsClean byte) : 92∉member i value := by
  have hparts : member i value=[34]++(ATTR_NAMES.getD i []++([34,58,32,34]++(value++[34]))) := rfl
  have hbehind : 92∉value++[34] := List.not_mem_append (backslash_notMem h) (by decide)
  have hname : 92∉ATTR_NAMES.getD i []++([34,58,32,34]++(value++[34])) :=
    List.not_mem_append (backslash_notMem (isClean_getD i)) (List.not_mem_append (by decide) hbehind)
  rw [hparts]
  exact List.not_mem_append (by decide) hname

/-- An object of the file up to the blank in front of the name. -/
def entryHead (entry : DEVADDR×DeviceId) : Bytes :=
  10::123::([44].intercalate ((memberTexts entry.1 entry.2).dropLast.map fun m => member m.1 m.2)++
    (44::34::(ATTR_NAMES.getD 12 []++[34,58])))

/-- An object of the file around its name. -/
theorem entryText_eq (s : JsonFileIdentityService) (entry : DEVADDR×DeviceId) :
    entryText s entry=(entryHead entry++[32,34])++(DEVICENAME2string entry.2.name++
      34::(rightsText (getRightsMask s entry.1)++[125])) := by
  have hmembers : memberTexts entry.1 entry.2=
      (memberTexts entry.1 entry.2).dropLast++[(12,DEVICENAME2string entry.2.name)] := rfl
  have hne : ((memberTexts entry.1 entry.2).dropLast.map fun m => member m.1 m.2)≠[] := List.cons_ne_nil _ _
  rw [entryText,hmembers,List.map_append,List.map_singleton,intercalate_concat _ hne]
  simp only [entryHead,member,List.cons_append,List.append_assoc,List.nil_append]

/-- There is no backslash in front of the name. -/
theorem backslash_notMem_entryHead (entry : DEVADDR×DeviceId) : 92∉entryHead entry++[32,34] := by
  have hclean : ∀ m∈(memberTexts entry.1 entry.2).dropLast,∀ byte∈m.2,IsClean byte := by
    have hsame : (memberTexts entry.1 entry.2).dropLast=
        (memberTexts entry.1 {entry.2 with name := DeviceId.empty.name}).dropLast := rfl
    rw [hsame]
    exact fun m hm => isClean_memberTexts (fun byte hb => absurd hb List.not_mem_nil) m (List.mem_of_mem_dropLast hm)
  have hmembers : 92∉[44].intercalate ((memberTexts entry.1 entry.2).dropLast.map fun m => member m.1 m.2) := by
    refine notMem_intercalate (by decide) fun text ht => ?_
    obtain ⟨m,hm,rfl⟩ := List.mem_map.mp ht
    exact backslash_notMem_member m.1 (hclean m hm)
  have hname : 92∉[44,34]++(ATTR_NAMES.getD 12 []++[34,58]) :=
    List.not_mem_append (by decide) (List.not_mem_append (backslash_notMem (isClean_getD 12)) (by decide))
  have hhead : 92∉[10,123]++([44].intercalate ((memberTexts entry.1 entry.2).dropLast.map fun m => member m.1 m.2)++
      ([44,34]++(ATTR_NAMES.getD 12 []++[34,58]))) :=
    List.not_mem_append (by decide) (List.not_mem_append hmembers hname)
  exact List.not_mem_append hhead (by decide)

/-- There is no backslash behind the name. -/
theorem backslash_notMem_entryTail (addrRightsMask : UInt32) : 92∉34::(rightsText addrRightsMask++[125]) := by
  have hrights : 92∉rightsText addrRightsMask := by
    rw [rightsText]
    split
    · have hnumber := backslash_notMem (isClean_decimal addrRightsMask.toNat)
      have hname : 92∉ATTR_NAMES.getD 8 []++([34,58,32]++decimal addrRightsMask.toNat) :=
        List.not_mem_append (backslash_notMem (isClean_getD 8)) (List.not_mem_append (by decide) hnumber)
      exact @List.not_mem_append _ _ [44,34] _ (by decide) hname
    · exact List.not_mem_nil
  exact @List.not_mem_append _ _ [34] _ (by decide) (List.not_mem_append hrights (by decide))

/-- What may stand behind the closing quote of a name: the end of its object
and of its line, or the rights. -/
def Follows (behind : Bytes) : Prop :=
  ∃ rest,behind=125::44::10::rest ∨ behind=125::93::10::rest ∨ behind=44::34::97::rest

/-- A byte in a name of the file: the name starts behind a blank and its quote,
ends with its quote, and the line ends soon behind it. -/
def InName (entries : List (DEVADDR×DeviceId)) (front : Bytes) (byte : UInt8) (back : Bytes) : Prop :=
  ∃ entry∈entries,∃ before first second behind,DEVICENAME2string entry.2.name=first++byte::second ∧
    front=(before++[32])++34::first ∧ back=second++34::behind ∧ Follows behind

/-- The texts that may stand behind an object. -/
def EndsLine (text : Bytes) : Prop := ∃ rest,text=44::10::rest ∨ text=93::10::rest

/-- What stands behind the name of an object that ends its line. -/
theorem follows_entry (addrRightsMask : UInt32) {behind : Bytes} (h : EndsLine behind) :
    Follows (rightsText addrRightsMask++([125]++behind)) := by
  rw [rightsText]
  split
  · exact ⟨_,.inr (.inr rfl)⟩
  · obtain ⟨rest,rfl|rfl⟩ := h
    · exact ⟨rest,.inl rfl⟩
    · exact ⟨rest,.inr (.inl rfl)⟩

/-- A backslash in an object stands in its name. -/
theorem inName_entry (s : JsonFileIdentityService) {entry : DEVADDR×DeviceId} {behind front back : Bytes}
    (he : EndsLine behind) (h : entryText s entry++behind=front++92::back) :
    InName [entry] front 92 back ∨ ∃ rest,front=entryText s entry++rest ∧ behind=rest++92::back := by
  rw [entryText_eq,List.append_assoc (entryHead entry++[32,34])] at h
  rcases append_eq_mark h with ⟨rest,hhead,-⟩|⟨rest,rfl,hrest⟩
  · refine absurd ?_ (backslash_notMem_entryHead entry)
    rw [hhead]
    exact List.mem_append_right front List.mem_cons_self
  · rw [List.append_assoc] at hrest
    rcases append_eq_mark hrest with ⟨second,hname,rfl⟩|⟨tail,rfl,htail⟩
    · refine .inl ⟨entry,List.mem_singleton_self _,entryHead entry,rest,second,
        rightsText (getRightsMask s entry.1)++([125]++behind),hname,?_,?_,follows_entry _ he⟩
      · simp only [List.append_assoc,List.cons_append,List.nil_append]
      · simp only [List.append_assoc,List.cons_append,List.nil_append]
    · rcases append_eq_mark htail with ⟨last,hlast,-⟩|⟨last,rfl,hlast⟩
      · refine absurd ?_ (backslash_notMem_entryTail (getRightsMask s entry.1))
        rw [hlast]
        exact List.mem_append_right _ List.mem_cons_self
      · refine .inr ⟨last,?_,hlast⟩
        rw [entryText_eq]
        simp only [List.append_assoc]

/-- More text in front of a name. -/
theorem InName.prepend {entries : List (DEVADDR×DeviceId)} {front back : Bytes} {byte : UInt8}
    (h : InName entries front byte back) (text : Bytes) {others : List (DEVADDR×DeviceId)}
    (hs : ∀ entry∈entries,entry∈others) : InName others (text++front) byte back := by
  obtain ⟨entry,hm,before,first,second,behind,hname,rfl,hback,hfollows⟩ := h
  refine ⟨entry,hs entry hm,text++before,first,second,behind,hname,?_,hback,hfollows⟩
  simp only [List.append_assoc]

/-- A backslash in the objects of a file stands in a name. -/
theorem inName_entries (s : JsonFileIdentityService) {entries : List (DEVADDR×DeviceId)} {front back : Bytes}
    (h : [44].intercalate (entries.map (entryText s))++[93,10]=front++92::back) : InName entries front 92 back := by
  have hend : 92∉([93,10] : Bytes) := by decide
  induction entries generalizing front with
  | nil =>
    refine absurd ?_ hend
    rw [show ([93,10] : Bytes)=front++92::back from h]
    exact List.mem_append_right front List.mem_cons_self
  | cons entry rest ih =>
    cases rest with
    | nil =>
      rw [List.map_singleton,List.intercalate_singleton] at h
      rcases inName_entry s ⟨[],.inr rfl⟩ h with hn|⟨rest,-,hrest⟩
      · exact hn
      · refine absurd ?_ hend
        rw [hrest]
        exact List.mem_append_right rest List.mem_cons_self
    | cons second rest =>
      rw [List.map_cons,List.map_cons,List.intercalate_cons_cons,List.append_assoc,List.append_assoc,
        List.singleton_append] at h
      have hline : EndsLine (44::([44].intercalate ((second::rest).map (entryText s))++[93,10])) := by
        rw [List.map_cons,entryText,List.intercalate_cons_cons_left]
        exact ⟨_,.inl rfl⟩
      rcases inName_entry s hline h with hn|⟨text,rfl,hrest⟩
      · have hsub : ∀ e∈[entry],e∈entry::second::rest := fun e he => List.mem_cons.mpr (.inl (List.mem_singleton.mp he))
        exact hn.prepend [] hsub
      · cases text with
        | nil => exact absurd (List.cons.inj hrest).1 (by decide)
        | cons comma text =>
          obtain ⟨-,htail⟩ := List.cons.inj hrest
          have hp := (ih htail).prepend (entryText s entry++[comma]) fun e he => List.mem_cons_of_mem entry he
          rwa [List.append_assoc,List.singleton_append] at hp

/-- A backslash of the file stands in a name. -/
theorem inName_save {s : JsonFileIdentityService} {front back : Bytes} (h : save s=front++92::back) :
    InName s.storage.toList front 92 back := by
  have hopen : 92∉([91,10] : Bytes) := by decide
  have hsplit : [91,10]++([44].intercalate (s.storage.toList.map (entryText s))++[93,10])=front++92::back := h
  rcases append_eq_mark hsplit with ⟨rest,hhead,-⟩|⟨rest,rfl,htail⟩
  · refine absurd ?_ hopen
    rw [hhead]
    exact List.mem_append_right front List.mem_cons_self
  · exact (inName_entries s htail).prepend [91,10] fun e he => he

/-- A letter that starts no literal is no token. -/
theorem lex_letter (tooBig : Bytes → Bool) (rest : Bytes) : (lex tooBig (97::rest)).2=false := by
  have hfail : nextToken tooBig (97::rest)=.failed := (nextToken_cons rfl (by decide) rest).trans rfl
  rw [lex_eq,hfail]

/-- A string that has a byte of a name starts in the name: the quote in front of
the name stands behind a blank and is not escaped. -/
theorem opening_inside {before front first head : Bytes} (h : before++34::head=(front++[32])++34::first)
    (hq : ∀ left right,head=left++34::right → ∃ rest,left=rest++[92]) : head.length≤first.length := by
  rcases append_eq_mark h with ⟨rest,-,rfl⟩|⟨rest,hfront,hhead⟩
  · rw [List.length_append,List.length_cons]
    omega
  · cases rest with
    | nil => rw [(List.cons.inj hhead).2]
    | cons quote rest =>
      obtain ⟨left,rfl⟩ := hq rest first (List.cons.inj hhead).2
      have hlast := congrArg List.getLast? hfront
      rw [List.getLast?_concat,← List.cons_append,← List.append_assoc,List.getLast?_concat] at hlast
      cases Option.some.inj hlast

/-- The end of a line comes before any quote behind the end of an object. -/
theorem newline_mem {mark : UInt8} (hm : mark≠34) {last rest after : Bytes}
    (h : 125::mark::10::last=rest++34::after) : 10∈rest := by
  cases rest with
  | nil => exact absurd (List.cons.inj h).1 (by decide)
  | cons brace rest =>
    cases rest with
    | nil => exact absurd (List.cons.inj (List.cons.inj h).2).1 hm
    | cons second rest =>
      have htail := (List.cons.inj (List.cons.inj h).2).2
      cases rest with
      | nil => exact absurd (List.cons.inj htail).1 (by decide)
      | cons newline rest =>
        rw [← (List.cons.inj htail).1]
        exact List.mem_cons_of_mem _ (List.mem_cons_of_mem _ List.mem_cons_self)

/-- It also ends in the name: behind the quote of the name the line ends, or a
letter would stand where a token has to. -/
theorem closing_inside {tooBig : Bytes → Bool} {after second behind tail : Bytes}
    (h : tail++34::after=second++34::behind) (hf : Follows behind) (hp : ∀ byte∈tail,32≤byte)
    (hq : ∀ left right,left≠[] → tail=left++34::right → ∃ rest,left=rest++[92])
    (hw : (lex tooBig after).2=true) : tail.length≤ second.length := by
  rcases append_eq_mark h.symm with ⟨rest,rfl,-⟩|⟨rest,rfl,hbehind⟩
  · rw [List.length_append,List.length_cons]
    omega
  · cases rest with
    | nil => rw [List.append_nil]
    | cons quote rest =>
      obtain ⟨rfl,htail⟩ := List.cons.inj hbehind
      have hline : 10∉rest := by
        intro hm
        have hlow := hp 10 (List.mem_append_right second (List.mem_cons_of_mem _ hm))
        exact absurd hlow (by decide)
      obtain ⟨last,rfl|rfl|rfl⟩ := hf
      · exact absurd (newline_mem (by decide) htail) hline
      · exact absurd (newline_mem (by decide) htail) hline
      · cases rest with
        | nil => exact absurd (List.cons.inj htail).1 (by decide)
        | cons comma rest =>
          obtain ⟨rfl,hrest⟩ := List.cons.inj htail
          cases rest with
          | nil =>
            rw [← (List.cons.inj hrest).2,lex_letter] at hw
            cases hw
          | cons opening rest =>
            obtain ⟨rfl,-⟩ := List.cons.inj hrest
            have hsplit : second++34::44::34::rest=(second++[34]++[44])++34::rest := by
              simp only [List.append_assoc,List.cons_append,List.nil_append]
            obtain ⟨left,hleft⟩ := hq (second++[34]++[44]) rest
              (List.append_ne_nil_of_right_ne_nil _ (List.cons_ne_nil _ _)) hsplit
            have hlast := congrArg List.getLast? hleft
            rw [List.getLast?_concat,List.getLast?_concat] at hlast
            cases Option.some.inj hlast

/-- A string with a backslash lies inside a name with a backslash. -/
theorem body_inside {tooBig : Bytes → Bool} {s : JsonFileIdentityService} {before body after decoded : Bytes}
    (hb : IsBody body decoded) (hm : 92∈body) (htext : save s=before++34::(body++34::after))
    (hw : (lex tooBig after).2=true) :
    ∃ entry∈s.storage.toList,92∈DEVICENAME2string entry.2.name ∧
      body.length≤(DEVICENAME2string entry.2.name).length := by
  obtain ⟨head,tail,rfl⟩ := List.append_of_mem hm
  have hplace : save s=(before++34::head)++92::(tail++34::after) := by
    rw [htext]
    simp only [List.append_assoc,List.cons_append]
  obtain ⟨entry,he,front,first,second,behind,hname,hfront,hback,hfollows⟩ := inName_save hplace
  have hopen : head.length≤first.length := by
    refine opening_inside hfront fun left right hsplit => ?_
    refine hb.escaped left (right++92::tail) ?_
    rw [hsplit,List.append_assoc,List.cons_append]
  have hclose : tail.length≤ second.length := by
    refine closing_inside hback hfollows (fun byte hbyte => hb.printable byte ?_) (fun left right hne hsplit => ?_) hw
    · exact List.mem_append_right head (List.mem_cons_of_mem _ hbyte)
    · obtain ⟨rest,hrest⟩ := hb.escaped (head++92::left) right (by
        rw [hsplit,List.append_assoc,List.cons_append])
      obtain ⟨most,last,rfl⟩ := (List.eq_nil_or_concat' left).resolve_left hne
      have hlast := congrArg List.getLast? hrest
      rw [← List.cons_append,← List.append_assoc,List.getLast?_concat,List.getLast?_concat] at hlast
      rw [Option.some.inj hlast]
      exact ⟨most,rfl⟩
  refine ⟨entry,he,?_,?_⟩
  · rw [hname]
    exact List.mem_append_right first List.mem_cons_self
  · rw [hname,List.length_append,List.length_append,List.length_cons,List.length_cons]
    omega

/-- A name that comes back from a string and is not clean is shorter than some
name with a backslash. -/
theorem longer_name {tooBig : Bytes → Bool} {s : JsonFileIdentityService} {name : DEVICENAME}
    (hn : NameFrom (readEvents tooBig (save s)).1 name) (hw : (readEvents tooBig (save s)).2=true)
    (hbad : ¬ ∀ byte∈DEVICENAME2string name,IsClean byte) :
    ∃ entry∈s.storage.toList,(¬ ∀ byte∈DEVICENAME2string entry.2.name,IsClean byte) ∧
      (DEVICENAME2string name).length<(DEVICENAME2string entry.2.name).length := by
  rcases hn with rfl|⟨text,hm,rfl⟩
  · exact absurd (fun byte hb => absurd hb List.not_mem_nil) hbad
  · obtain ⟨before,body,after,htext,hbody,hsame⟩ := readEvents_string hm
    have hprefix := deviceName_prefix text
    have hlex : (lex tooBig after).2=true := by
      rw [← hsame]
      exact (Bool.and_eq_true_iff.mp hw).1
    have hescape : 92∈body := by
      by_contra hno
      refine hbad fun byte hb => ?_
      have hmem : byte∈body := hbody.plain hno ▸ hprefix.subset hb
      refine ⟨hbody.printable byte hmem,?_,?_⟩
      · rintro rfl
        obtain ⟨front,back,hsplit⟩ := List.append_of_mem hmem
        obtain ⟨rest,rfl⟩ := hbody.escaped front back hsplit
        refine hno ?_
        rw [hsplit]
        exact List.mem_append_left _ (List.mem_append_right rest List.mem_cons_self)
      · rintro rfl
        exact hno hmem
    obtain ⟨entry,he,hmark,hlen⟩ := body_inside hbody hescape htext hlex
    have hshort := hbody.shorter hescape
    have hle := hprefix.length_le
    exact ⟨entry,he,fun hclean => backslash_notMem hclean hmark,by omega⟩

/-- A service whose file comes back has clean names only. -/
theorem cleanNames_of_roundTrips {stale : ℕ → DEVADDR} {tooBig : Bytes → Bool} {s : JsonFileIdentityService}
    (h : RoundTrips stale tooBig s) : CleanNames s := by
  obtain ⟨hcode,hstorage,-⟩ := h
  have hw : (readEvents tooBig (save s)).2=true := by
    by_contra hno
    have hfalse := Bool.not_eq_true _ ▸ hno
    simp only [load,parse,hfalse,Bool.and_false] at hcode
    exact absurd hcode (by decide)
  -- the names are at most eight bytes long, so there is no longer one for ever
  have hlong : ∀ room,∀ entry∈s.storage.toList,8-(DEVICENAME2string entry.2.name).length=room →
      ∀ byte∈DEVICENAME2string entry.2.name,IsClean byte := by
    intro room
    induction room using Nat.strong_induction_on with
    | _ room ih =>
      rintro entry he rfl
      by_contra hbad
      have hs := Std.TreeMap.mem_toList_iff_getElem?_eq_some.mp he
      have hload := (hstorage entry.1).trans hs
      obtain ⟨other,ho,hother,hlt⟩ := longer_name (nameFrom_load hload) hw hbad
      have hbound : (DEVICENAME2string other.2.name).length≤8 := by
        have hp := (List.takeWhile_prefix (fun byte : UInt8 => decide (byte≠0)) (l := other.2.name.toList)).length_le
        rwa [Vector.length_toList] at hp
      exact hother (ih _ (by omega) other ho rfl)
  exact fun entry he => hlong _ entry he rfl

/-- One device without a nonce and with a name of eight letters. -/
def namedDevice : JsonFileIdentityService :=
  put .fresh 1 {DeviceId.empty with name := #v[97,98,99,100,101,102,103,104]}

/-- One device whose last nonce is 1. -/
def nonceDevice : JsonFileIdentityService := put .fresh 1 {DeviceId.empty with devNonce := 1}

end LorawanServer.IdentityNames
