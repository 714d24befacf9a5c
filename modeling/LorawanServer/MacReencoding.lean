import LorawanServer.MacStream

/-!
# Writing a parsed stream of MAC commands

The items of a parsed list never learn which side sent them, so each is
written with the size that an end-device gives its command. A stream of an
end-device is written back up to where its commands end. A stream of the
gateway is written back whatever its parameters are exactly when the
identifiers in it have one size on both sides.
-/

namespace LorawanServer.MacReencoding

open CppRuntime IdentityText MacCommands StreamCutting MacStream

/-- What the items write is the front of the stream that the commands take,
and the list measures and prints it. -/
def Reencodes (value : Bytes) (clientSide : Bool) : Prop :=
  let commands := MacDataList.ofPayload value clientSide
  let p := commands.list.flatMap MacData.toString
  p<+:value ∧ commands.size=p.length ∧ commands.toHexString=hexString p ∧
    ∀ c,IsCommand clientSide c → ¬ c<+:value.drop p.length

/-- A command of one side with the given identifier. -/
def IsCommandOf (clientSide : Bool) (cid : MAC_CID) (c : Bytes) : Prop :=
  IsCommand clientSide c ∧ c.head?=some cid.code

/-- An item is written with as many bytes as its size says. -/
theorem length_toString (data : MacData) : data.toString.length=data.size := by
  have hsize : data.size ≤ 6 := by
    unfold MacData.size commandSize
    split_ifs
    · exact Nat.zero_le _
    · split
      · exact Nat.zero_le _
      · next cid _ => exact (sideSizes_bounds _ cid).2
  rw [MacData.toString,List.length_take,Vector.length_toList]
  exact min_eq_left hsize

/-- The size of a list is the length of what its items write. -/
theorem size_eq (commands : MacDataList) :
    commands.size=(commands.list.flatMap MacData.toString).length := by
  have hfold : ∀ (list : List MacData) (sz : ℕ),
      list.foldl (fun sz data => sz+data.size) sz=sz+(list.flatMap MacData.toString).length := by
    intro list
    induction list with
    | nil => intro sz; rfl
    | cons data list ih =>
      intro sz
      rw [List.foldl_cons,ih,List.flatMap_cons,List.length_append,length_toString,Nat.add_assoc]
  rw [MacDataList.size,hfold,Nat.zero_add]

/-- The digits of a list are those of what its items write. -/
theorem toHexString_eq (commands : MacDataList) :
    commands.toHexString=hexString (commands.list.flatMap MacData.toString) := by
  have hfold : ∀ (list : List MacData) (ss : Bytes),
      list.foldl (fun ss data => ss++data.toHexString) ss=ss++hexString (list.flatMap MacData.toString) := by
    intro list
    induction list with
    | nil =>
      intro ss
      exact (List.append_nil ss).symm
    | cons data list ih =>
      intro ss
      have happend : hexString (data.toString++list.flatMap MacData.toString)=
          data.toHexString++hexString (list.flatMap MacData.toString) := List.flatMap_append
      rw [List.foldl_cons,ih,List.flatMap_cons,happend,List.append_assoc]
  rw [MacDataList.toHexString,hfold,List.nil_append]

/-- A complete command is at the front exactly when the cutter finds one. -/
theorem no_command_iff {clientSide : Bool} {value : Bytes} :
    (∀ c,IsCommand clientSide c → ¬ c<+:value) ↔ (commandCutter clientSide).first value=none := by
  constructor
  · intro h
    rw [Option.eq_none_iff_forall_ne_some]
    intro n hn
    exact h (value.take n) (isCommand_iff.mpr (Cutter.isItem_take hn)) (List.take_prefix n value)
  · rintro h c hc ⟨behind,rfl⟩
    exact absurd ((isCommand_iff.mp hc).first behind) (h ▸ (Option.some_ne_none _).symm)

/-- What the buffer writes over the given commands. -/
def written (data : MacData) (commands : List Bytes) : Bytes := (held data commands).flatMap MacData.toString

/-- What is written is the front of the stream, and no command is behind it. -/
def Faithful (clientSide : Bool) (data : MacData) (commands : List Bytes) (value : Bytes) : Prop :=
  written data commands<+:value ∧
    (commandCutter clientSide).first (value.drop (written data commands).length)=none

/-- Size and digits always agree with the items; what counts is their text. -/
theorem reencodes_iff_faithful {clientSide : Bool} {commands : List Bytes} {tail : Bytes}
    (hc : ∀ c∈commands,IsCommand clientSide c) (ht : NoCommand clientSide tail) :
    Reencodes (commands.flatten++tail) clientSide ↔
      Faithful clientSide MacData.empty commands (commands.flatten++tail) := by
  have hlist : (MacDataList.ofPayload (commands.flatten++tail) clientSide).list=held MacData.empty commands := by
    rw [ofPayload_list,items_commands hc ht]
  rw [Reencodes,size_eq,toHexString_eq,no_command_iff,hlist,Faithful,written]
  simp only [true_and]

/-- An item of the loop counts as sent by an end-device. -/
def Unmarked (data : MacData) : Prop := data.errcode=0 ∧ data.isClientSide=false

/-- It is written with the size of that side. -/
theorem toString_overwrite {data : MacData} (h : Unmarked data) (cid : MAC_CID) (params : Bytes) :
    ({data with command := overwrite data.command (cid.code::params)} : MacData).toString=
      (overwrite data.command (cid.code::params)).toList.take (sideSizes false cid) := by
  rw [MacData.toString,MacData.size,if_neg (not_not.mpr h.1)]
  dsimp only
  rw [h.2,commandSize_overwrite]

/-- A command with one size on both sides is written as it was read. -/
theorem toString_of_sizes_eq {clientSide : Bool} {data : MacData} (h : Unmarked data) {cid : MAC_CID}
    {params : Bytes} (hc : (cid.code::params).length=sideSizes clientSide cid)
    (he : sideSizes clientSide cid=sideSizes false cid) :
    ({data with command := overwrite data.command (cid.code::params)} : MacData).toString=cid.code::params := by
  have hfits := (sideSizes_bounds clientSide cid).2
  rw [toString_overwrite h,←he,←hc]
  exact overwrite_take data.command (by omega)

/-- The bytes and the size of a command with a given identifier. -/
theorem isCommandOf_iff {clientSide : Bool} {cid : MAC_CID} {c : Bytes} : IsCommandOf clientSide cid c ↔
    ∃ params,c=cid.code::params ∧ (cid.code::params).length=sideSizes clientSide cid := by
  constructor
  · rintro ⟨⟨other,params,rfl,hlength⟩,hhead⟩
    have hcode : other.code=cid.code := Option.some.inj hhead
    have hcid : other=cid := MAC_CID.code_injective hcode
    rw [commandSize_overwrite] at hlength
    exact ⟨params,by rw [hcode],by rw [←hcode,hlength,hcid]⟩
  · rintro ⟨params,rfl,hlength⟩
    exact ⟨⟨cid,params,rfl,by rw [commandSize_overwrite,hlength]⟩,rfl⟩

/-- Commands of given identifiers are commands. -/
theorem isCommand_of_forall₂ {clientSide : Bool} {cids : List MAC_CID} {commands : List Bytes}
    (h : List.Forall₂ (IsCommandOf clientSide) cids commands) : ∀ c∈commands,IsCommand clientSide c := by
  induction h with
  | nil => exact fun c hc => absurd hc List.not_mem_nil
  | cons hc hcs ih => exact List.forall_mem_cons.mpr ⟨hc.1,ih⟩

/-- Commands with one size on both sides are written as they were read. -/
theorem written_of_sizes_eq {clientSide : Bool} {cids : List MAC_CID} {commands : List Bytes}
    (h : List.Forall₂ (IsCommandOf clientSide) cids commands)
    (he : ∀ cid∈cids,sideSizes clientSide cid=sideSizes false cid) {data : MacData} (hd : Unmarked data) :
    written data commands=commands.flatten := by
  induction h generalizing data with
  | nil => rfl
  | @cons cid c cids commands hc hcs ih =>
    rw [List.forall_mem_cons] at he
    obtain ⟨params,rfl,hlength⟩ := isCommandOf_iff.mp hc
    have hrest := @ih he.2 {data with command := overwrite data.command (cid.code::params)} hd
    rw [List.flatten_cons,←hrest]
    exact congrArg (·++_) (toString_of_sizes_eq hd hlength he.1)

/-- Such a stream is written back. -/
theorem reencodes_of_sizes_eq {clientSide : Bool} {cids : List MAC_CID} {commands : List Bytes} {tail : Bytes}
    (h : List.Forall₂ (IsCommandOf clientSide) cids commands) (ht : NoCommand clientSide tail)
    (he : ∀ cid∈cids,sideSizes clientSide cid=sideSizes false cid) :
    Reencodes (commands.flatten++tail) clientSide := by
  rw [reencodes_iff_faithful (isCommand_of_forall₂ h) ht,Faithful,
    written_of_sizes_eq h he ⟨rfl,rfl⟩,List.drop_left]
  exact ⟨List.prefix_append _ _,noCommand_iff.mp ht⟩

/-- A command of the gateway with one byte in place of all its parameters. -/
def filled (fill : UInt8) (cid : MAC_CID) : Bytes := cid.code::List.replicate (sideSizes true cid-1) fill

/-- It is a command. -/
theorem isCommandOf_filled (fill : UInt8) (cid : MAC_CID) : IsCommandOf true cid (filled fill cid) := by
  have hsize := (sideSizes_bounds true cid).1
  refine isCommandOf_iff.mpr ⟨_,rfl,?_⟩
  rw [List.length_cons,List.length_replicate]
  omega

/-- Length of such a command. -/
theorem length_filled (fill : UInt8) (cid : MAC_CID) : (filled fill cid).length=sideSizes true cid := by
  have hsize := (sideSizes_bounds true cid).1
  rw [filled,List.length_cons,List.length_replicate]
  omega

/-- Every byte of such a command but the first. -/
theorem getElem?_filled {fill : UInt8} {cid : MAC_CID} {i : ℕ} (h : 0 < i) (hi : i < sideSizes true cid) :
    (filled fill cid)[i]?=some fill := by
  obtain ⟨j,rfl⟩ := Nat.exists_eq_add_of_lt h
  rw [filled,Nat.zero_add,List.getElem?_cons_succ,List.getElem?_replicate,if_pos (by omega)]

/-- A command for each identifier. -/
theorem forall₂_filled (fill : UInt8) (cids : List MAC_CID) :
    List.Forall₂ (IsCommandOf true) cids (cids.map (filled fill)) := by
  induction cids with
  | nil => exact List.Forall₂.nil
  | cons cid cids ih => exact List.Forall₂.cons (isCommandOf_filled fill cid) ih

/-- Nothing but zeros is behind the identifier in the buffer. -/
def Blank (data : MacData) : Prop := Unmarked data ∧ ∀ i,0 < i → i < 6 → data.command.toList[i]?=some 0

/-- A byte of the buffer after a command was copied over it. -/
theorem getElem?_overwrite {command : MAC_COMMAND} {source : Bytes} {i : ℕ} (h : i < 6) :
    (overwrite command source).toList[i]?=some (source.getD i (command.toList.getD i 0)) := by
  have hi : i < (overwrite command source).toList.length := by rwa [Vector.length_toList]
  have hc : i < command.toList.length := by rwa [Vector.length_toList]
  rw [List.getElem?_eq_getElem hi,List.getD_eq_getElem _ _ hc]
  simp only [Vector.getElem_toList,overwrite,Vector.getElem_ofFn]
  rfl

/-- Zeros over zeros. -/
theorem blank_overwrite {data : MacData} (h : Blank data) (cid : MAC_CID) :
    Blank {data with command := overwrite data.command (filled 0 cid)} := by
  refine ⟨h.1,fun i hi hl => ?_⟩
  rw [getElem?_overwrite hl,List.getD_eq_getElem?_getD,List.getD_eq_getElem?_getD,h.2 i hi hl]
  by_cases hs : i < sideSizes true cid
  · rw [getElem?_filled hi hs]
    rfl
  · rw [List.getElem?_eq_none (by rw [length_filled]; omega)]
    rfl

/-- The front of a text agrees with it at every place. -/
theorem getElem?_of_front {front text : Bytes} (h : front<+:text) {i : ℕ} (hi : i < front.length) :
    text[i]?=front[i]? := by
  obtain ⟨behind,rfl⟩ := h
  exact List.getElem?_append_left hi

/-- The item of a command, in front of those of the rest. -/
theorem written_cons {data : MacData} (h : Unmarked data) (fill : UInt8) (cid : MAC_CID) (commands : List Bytes) :
    written data (filled fill cid::commands)=
      (overwrite data.command (filled fill cid)).toList.take (sideSizes false cid)++
        written {data with command := overwrite data.command (filled fill cid)} commands := by
  rw [filled,←toString_overwrite h]
  rfl

/-- Length of the front that one item writes. -/
theorem length_front (command : MAC_COMMAND) (cid : MAC_CID) :
    (command.toList.take (sideSizes false cid)).length=sideSizes false cid := by
  rw [List.length_take,Vector.length_toList]
  exact min_eq_left (sideSizes_bounds false cid).2

/-- What an item writes begins with its identifier. -/
theorem head_written {data : MacData} (h : Unmarked data) (fill : UInt8) (cid : MAC_CID) (commands : List Bytes) :
    (written data (filled fill cid::commands))[0]?=some cid.code := by
  have hpos := (sideSizes_bounds false cid).1
  rw [written_cons h,List.getElem?_append_left (by rw [length_front]; omega),List.getElem?_take_of_lt hpos,
    getElem?_overwrite (by decide)]
  rfl

/-- A command that an end-device would send with more bytes is followed by
zeros of the buffer, which no command begins with. -/
theorem not_faithful_of_lt {data : MacData} (h : Blank data) {cid : MAC_CID}
    (hlt : sideSizes true cid<sideSizes false cid) (cids : List MAC_CID) :
    ¬ Faithful true data ((cid::cids).map (filled 0)) ((cid::cids).map (filled 0)).flatten := by
  rintro ⟨hstart,-⟩
  have hbound := (sideSizes_bounds false cid).2
  have hpos := (sideSizes_bounds true cid).1
  rw [List.map_cons,written_cons h.1,List.flatten_cons] at hstart
  have hzero : ((overwrite data.command (filled 0 cid)).toList.take (sideSizes false cid))[sideSizes true cid]?=
      some 0 := by
    rw [List.getElem?_take_of_lt hlt]
    exact (blank_overwrite h cid).2 _ hpos (by omega)
  have hat := @getElem?_of_front _ _ hstart (sideSizes true cid)
    (by rw [List.length_append,length_front]; omega)
  have hfront : (filled 0 cid).length=sideSizes true cid := length_filled 0 cid
  rw [List.getElem?_append_right (by omega),hfront,Nat.sub_self,
    List.getElem?_append_left (by rw [length_front]; exact hlt),hzero] at hat
  cases cids with
  | nil => cases hat
  | cons next cids =>
    have hcode : next.code=0 := Option.some.inj hat
    cases next <;> cases hcode

/-- A command of one byte whose identifier is not the given one. -/
def other (next : MAC_CID) : MAC_CID := if next=.DevStatus then .PingSlotInfo else .DevStatus

/-- It differs and is one byte long. -/
theorem other_spec (next : MAC_CID) : (other next).code≠next.code ∧ sideSizes true (other next)=1 := by
  cases next <;> decide

/-- A command that an end-device would send with fewer bytes leaves parameters
behind, which another command may begin with. -/
theorem exists_not_faithful_of_gt {data : MacData} (h : Blank data) {cid : MAC_CID}
    (hlt : sideSizes false cid<sideSizes true cid) (cids : List MAC_CID) :
    ∃ commands,List.Forall₂ (IsCommandOf true) (cid::cids) commands ∧
      ¬ Faithful true data commands commands.flatten := by
  have hpos := (sideSizes_bounds false cid).1
  have hfits := (sideSizes_bounds true cid).2
  cases cids with
  | nil =>
    refine ⟨[filled (other .Reset).code cid],List.Forall₂.cons (isCommandOf_filled _ cid) List.Forall₂.nil,?_⟩
    rintro ⟨-,hbehind⟩
    rw [written_cons h.1,List.length_append,length_front,List.flatten_singleton] at hbehind
    have hdrop : (filled (other .Reset).code cid).drop (sideSizes false cid)=
        (other .Reset).code::List.replicate (sideSizes true cid-sideSizes false cid-1) (other .Reset).code := by
      obtain ⟨j,hj⟩ := Nat.exists_eq_add_of_le' hpos
      rw [filled,hj,List.drop_succ_cons,List.drop_replicate,←List.replicate_succ]
      congr 1
      omega
    have hsome : (commandCutter true).first ((filled (other .Reset).code cid).drop (sideSizes false cid))=some 1 :=
      firstCommand_eq_some_iff.mpr ⟨_,_,hdrop,(other_spec .Reset).2,by
        rw [List.length_drop,length_filled]
        omega⟩
    exact absurd (hsome.symm.trans hbehind) (Option.some_ne_none _)
  | cons next cids =>
    refine ⟨filled (other next).code cid::(next::cids).map (filled 0),
      List.Forall₂.cons (isCommandOf_filled _ cid) (forall₂_filled 0 (next::cids)),?_⟩
    rintro ⟨hstart,-⟩
    rw [written_cons h.1,List.flatten_cons] at hstart
    have hmark : Unmarked {data with command := overwrite data.command (filled (other next).code cid)} := h.1
    have hnext := head_written hmark 0 next (cids.map (filled 0))
    rw [←List.map_cons] at hnext
    have hlength := (List.getElem?_eq_some_iff.mp hnext).1
    have hfront := length_front (overwrite data.command (filled (other next).code cid)) cid
    have hfilled := length_filled (other next).code cid
    have hat := @getElem?_of_front _ _ hstart (sideSizes false cid) (by
      rw [List.length_append]
      omega)
    rw [List.getElem?_append_left (by omega),getElem?_filled hpos hlt,List.getElem?_append_right (by omega),
      hfront,Nat.sub_self,hnext] at hat
    exact (other_spec next).1 (Option.some.inj hat)

/-- A command with one size on both sides moves on to the next one. -/
theorem faithful_cons {data : MacData} (h : Unmarked data) (fill : UInt8) {cid : MAC_CID}
    (he : sideSizes true cid=sideSizes false cid) (commands : List Bytes) :
    Faithful true data (filled fill cid::commands) (filled fill cid::commands).flatten ↔
      Faithful true {data with command := overwrite data.command (filled fill cid)} commands commands.flatten := by
  have hsame : (overwrite data.command (filled fill cid)).toList.take (sideSizes false cid)=filled fill cid := by
    have hwhole := toString_of_sizes_eq h (length_filled fill cid) he
    rwa [toString_overwrite h] at hwhole
  rw [Faithful,Faithful,written_cons h,hsame,List.flatten_cons,List.prefix_append_right_inj,List.length_append,
    ←List.drop_drop,List.drop_left]

/-- Identifiers with different sizes have a stream that is not written back. -/
theorem exists_not_faithful {cids : List MAC_CID} (h : ∃ cid∈cids,sideSizes true cid≠sideSizes false cid)
    {data : MacData} (hd : Blank data) : ∃ commands,List.Forall₂ (IsCommandOf true) cids commands ∧
      ¬ Faithful true data commands commands.flatten := by
  induction cids generalizing data with
  | nil =>
    obtain ⟨cid,hmem,-⟩ := h
    exact absurd hmem List.not_mem_nil
  | cons cid cids ih =>
    by_cases he : sideSizes true cid=sideSizes false cid
    · have hbehind : ∃ cid∈cids,sideSizes true cid≠sideSizes false cid := by
        obtain ⟨found,hmem,hne⟩ := h
        rcases List.mem_cons.mp hmem with rfl|hmem
        · exact absurd he hne
        · exact ⟨found,hmem,hne⟩
      obtain ⟨commands,hc,hnot⟩ := ih hbehind (blank_overwrite hd cid)
      exact ⟨filled 0 cid::commands,List.Forall₂.cons (isCommandOf_filled 0 cid) hc,
        fun hf => hnot ((faithful_cons hd.1 0 he commands).mp hf)⟩
    · rcases Nat.lt_or_gt_of_ne he with hlt|hgt
      · exact ⟨_,forall₂_filled 0 (cid::cids),not_faithful_of_lt hd hlt cids⟩
      · exact exists_not_faithful_of_gt hd hgt cids

/-- The first buffer is blank. -/
theorem blank_empty : Blank MacData.empty := by
  refine ⟨⟨rfl,rfl⟩,fun i _ hi => ?_⟩
  have hlength : i < (MacData.empty.command).toList.length := by rwa [Vector.length_toList]
  rw [List.getElem?_eq_getElem hlength,Vector.getElem_toList]
  exact congrArg some (Vector.getElem_replicate hi)

/-- Every stream with commands of the given identifiers is written back,
whatever parameters they have and whatever is behind them, exactly when an
end-device sent it or each of the identifiers has one size on both sides. -/
theorem reencodes_iff (clientSide : Bool) (cids : List MAC_CID) :
    (∀ commands tail,List.Forall₂ (IsCommandOf clientSide) cids commands → NoCommand clientSide tail →
      Reencodes (commands.flatten++tail) clientSide) ↔
      clientSide=false ∨ ∀ cid∈cids,sideSizes true cid=sideSizes false cid := by
  constructor
  · intro h
    by_contra hnot
    rw [not_or,Bool.not_eq_false] at hnot
    obtain ⟨rfl,hsizes⟩ := hnot
    push Not at hsizes
    obtain ⟨commands,hc,hunfaithful⟩ := exists_not_faithful hsizes blank_empty
    have hwritten := h commands [] hc (noCommand_nil true)
    rw [reencodes_iff_faithful (isCommand_of_forall₂ hc) (noCommand_nil true),List.append_nil] at hwritten
    exact hunfaithful hwritten
  · intro h commands tail hc ht
    refine reencodes_of_sizes_eq hc ht fun cid hmem => ?_
    rcases h with rfl|hsizes
    · rfl
    · cases clientSide with
      | false => rfl
      | true => exact hsizes cid hmem

/-- A status request of the gateway is one byte, and its item writes three. -/
theorem not_reencodes_devStatus : ¬ Reencodes [0x06] true := by
  rintro ⟨hstart,-⟩
  exact absurd hstart (by decide)

end LorawanServer.MacReencoding
