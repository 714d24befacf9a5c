import LorawanServer.MacCommands
import LorawanServer.StreamCutting

/-!
# Reading and writing streams of MAC commands

The sizes of the parsers cut a stream into commands. The list of the
constructor holds these commands, one after another in the same buffer, so
what is shorter keeps the end of what came before. Each command is read back
with all of its bytes. Written out again, an item counts as sent by an
end-device on both sides, and its size is that of the other side when the
stream came from the gateway.
-/

namespace LorawanServer.MacStream

open CppRuntime IdentityText MacCommands StreamCutting

/-- Length of the command at the front. -/
def firstCommand (clientSide : Bool) (value : Bytes) : Option ℕ :=
  match cidOf (value.getD 0 0) with
  | none => none
  | some cid => if value.length<sideSizes clientSide cid then none else some (sideSizes clientSide cid)

/-- A stream begins with a command exactly when it begins with a known
identifier and is as long as the size says. -/
theorem firstCommand_eq_some_iff {clientSide : Bool} {value : Bytes} {n : ℕ} :
    firstCommand clientSide value=some n ↔ ∃ cid params,value=MAC_CID.code cid::params ∧
      sideSizes clientSide cid=n ∧ n ≤ value.length := by
  constructor
  · intro h
    unfold firstCommand at h
    split at h
    · cases h
    · next cid hcid =>
      split at h
      · cases h
      · next hlength =>
        cases value with
        | nil => cases hcid
        | cons command params =>
          exact ⟨cid,params,by rw [←cidOf_eq_some hcid]; rfl,Option.some.inj h,by
            rw [←Option.some.inj h]
            omega⟩
  · rintro ⟨cid,params,rfl,rfl,hn⟩
    rw [firstCommand,List.getD_cons_zero,cidOf_code]
    dsimp only
    rw [if_neg (by omega)]

/-- The commands of one side cut a stream. -/
def commandCutter (clientSide : Bool) : Cutter UInt8 where
  first := firstCommand clientSide
  inside := by
    intro s n h
    obtain ⟨cid,params,-,rfl,hn⟩ := firstCommand_eq_some_iff.mp h
    exact ⟨(sideSizes_bounds clientSide cid).1,hn⟩
  ahead := by
    intro s n h t
    obtain ⟨cid,params,rfl,rfl,hn⟩ := firstCommand_eq_some_iff.mp h
    obtain ⟨m,hm⟩ := Nat.exists_eq_add_of_le' (sideSizes_bounds clientSide cid).1
    refine firstCommand_eq_some_iff.mpr ⟨cid,params.take m++t,?_,rfl,?_⟩
    · rw [hm,List.take_succ_cons,List.cons_append]
    · rw [List.length_append,List.length_take]
      omega

/-- The buffer that serves all rounds, after each of them. -/
def held (data : MacData) : List Bytes → List MacData
  | [] => []
  | item::items =>
    {data with command := overwrite data.command item}::
      held {data with command := overwrite data.command item} items

/-- A round without a command at the front fails. -/
theorem parseCopy_of_none {clientSide : Bool} {value : Bytes} (h : firstCommand clientSide value=none)
    (retval : MAC_COMMAND) : (parseCopy (sideSizes clientSide) retval value).1<0 := by
  have hshort : ERR_CODE_MAC_TOO_SHORT<0 := by decide
  have hinvalid : ERR_CODE_MAC_INVALID<0 := by decide
  unfold firstCommand at h
  unfold parseCopy
  split
  · exact hshort
  · split
    · exact hinvalid
    · next cid hcid =>
      rw [hcid] at h
      dsimp only at h
      split_ifs at h with hlength
      rwa [copyMac,if_pos hlength]

/-- A round with a command at the front takes it. -/
theorem parseCopy_of_some {clientSide : Bool} {value : Bytes} {n : ℕ}
    (h : firstCommand clientSide value=some n) (retval : MAC_COMMAND) :
    parseCopy (sideSizes clientSide) retval value=((n : ℤ),overwrite retval (value.take n)) := by
  obtain ⟨cid,params,rfl,rfl,hn⟩ := firstCommand_eq_some_iff.mp h
  rw [parseCopy,if_neg (by rw [List.length_cons]; omega),List.getD_cons_zero,cidOf_code]
  dsimp only
  rw [copyMac,if_neg (by omega)]

/-- With a round for each byte and one more the loop ends, and the list holds
the commands of the stream. -/
theorem parseList_eq (clientSide : Bool) {fuel : ℕ} {value : Bytes} (h : value.length<fuel)
    (data : MacData) (list : List MacData) : parseList clientSide fuel data value list=
      some (list++held data ((commandCutter clientSide).items value)) := by
  induction fuel generalizing value data list with
  | zero => exact absurd h (Nat.not_lt_zero _)
  | succ fuel ih =>
    rw [parseList,parseSide_eq]
    cases hf : firstCommand clientSide value with
    | none =>
      rw [if_pos (parseCopy_of_none hf data.command),Cutter.items_of_none hf,held,List.append_nil]
    | some n =>
      have hin := (commandCutter clientSide).inside hf
      have hitems : (commandCutter clientSide).items value=
          value.take n::(commandCutter clientSide).items (value.drop n) := Cutter.items_of_some hf
      rw [parseCopy_of_some hf]
      dsimp only
      rw [if_neg (by omega),Int.toNat_natCast,ih (by rw [List.length_drop]; omega),hitems,held,
        List.append_assoc,List.singleton_append]

/-- The list of the constructor. -/
theorem ofPayload_list (value : Bytes) (clientSide : Bool) : (MacDataList.ofPayload value clientSide).list=
    held MacData.empty ((commandCutter clientSide).items value) := by
  rw [MacDataList.ofPayload,parseList_eq clientSide (Nat.lt_succ_self _)]
  rfl

/-- The constructor runs out of no number of rounds above the length. -/
theorem parseList_ofPayload (value : Bytes) (clientSide : Bool) {fuel : ℕ} (h : value.length<fuel) :
    parseList clientSide fuel MacData.empty value []=some (MacDataList.ofPayload value clientSide).list := by
  rw [parseList_eq clientSide h,ofPayload_list,List.nil_append]

/-- A command of one side: a known identifier and parameters up to the size. -/
def IsCommand (clientSide : Bool) (c : Bytes) : Prop :=
  ∃ (cid : MAC_CID) (params : Bytes),c=cid.code::params ∧
    c.length=commandSize (overwrite MacData.empty.command c) clientSide

/-- A text that begins with no known identifier or is shorter than its command. -/
def NoCommand (clientSide : Bool) (tail : Bytes) : Prop :=
  ∀ (cid : MAC_CID) (params : Bytes),tail=cid.code::params →
    tail.length<commandSize (overwrite MacData.empty.command tail) clientSide

/-- An item has the bytes of a command, as many as its size on that side. -/
def Holds (clientSide : Bool) (data : MacData) (c : Bytes) : Prop :=
  data.command.toList.take (commandSize data.command clientSide)=c

/-- The size of a copied command. -/
theorem commandSize_overwrite (command : MAC_COMMAND) (cid : MAC_CID) (params : Bytes) (clientSide : Bool) :
    commandSize (overwrite command (cid.code::params)) clientSide=sideSizes clientSide cid := by
  rw [commandSize,overwrite_cons_zero,cidOf_code]

/-- The commands of a side are the items of its cutter. -/
theorem isCommand_iff {clientSide : Bool} {c : Bytes} :
    IsCommand clientSide c ↔ (commandCutter clientSide).IsItem c := by
  constructor
  · rintro ⟨cid,params,rfl,hlength⟩
    rw [commandSize_overwrite] at hlength
    exact firstCommand_eq_some_iff.mpr ⟨cid,params,rfl,hlength.symm,le_rfl⟩
  · intro h
    obtain ⟨cid,params,rfl,hlength,-⟩ := firstCommand_eq_some_iff.mp h
    exact ⟨cid,params,rfl,by rw [commandSize_overwrite,hlength]⟩

/-- No command is at the front of such a text. -/
theorem noCommand_iff {clientSide : Bool} {tail : Bytes} :
    NoCommand clientSide tail ↔ (commandCutter clientSide).first tail=none := by
  constructor
  · intro h
    rw [Option.eq_none_iff_forall_ne_some]
    intro n hn
    obtain ⟨cid,params,rfl,rfl,hlength⟩ := firstCommand_eq_some_iff.mp hn
    have hshort := h cid params rfl
    rw [commandSize_overwrite] at hshort
    omega
  · rintro h cid params rfl
    rw [commandSize_overwrite]
    by_contra hlength
    have hsome : firstCommand clientSide (cid.code::params)=some (sideSizes clientSide cid) :=
      firstCommand_eq_some_iff.mpr ⟨cid,params,rfl,rfl,by omega⟩
    exact absurd (hsome.symm.trans h) (Option.some_ne_none _)

/-- A copied command has its bytes. -/
theorem holds_overwrite {clientSide : Bool} {c : Bytes} (h : IsCommand clientSide c) (data : MacData) :
    Holds clientSide {data with command := overwrite data.command c} c := by
  obtain ⟨cid,params,rfl,hlength⟩ := h
  rw [commandSize_overwrite] at hlength
  have hfits := (sideSizes_bounds clientSide cid).2
  rw [Holds,commandSize_overwrite,←hlength]
  exact overwrite_take data.command (by omega)

/-- The buffer has the bytes of each command in turn. -/
theorem held_holds {clientSide : Bool} {commands : List Bytes} (h : ∀ c∈commands,IsCommand clientSide c)
    (data : MacData) : List.Forall₂ (Holds clientSide) (held data commands) commands := by
  induction commands generalizing data with
  | nil => exact List.Forall₂.nil
  | cons c commands ih =>
    rw [List.forall_mem_cons] at h
    exact List.Forall₂.cons (holds_overwrite h.1 data) (ih h.2 _)

/-- The commands of a stream are found again, in front of any text that begins
with no command. -/
theorem items_commands {clientSide : Bool} {commands : List Bytes} {tail : Bytes}
    (hc : ∀ c∈commands,IsCommand clientSide c) (ht : NoCommand clientSide tail) :
    (commandCutter clientSide).items (commands.flatten++tail)=commands :=
  Cutter.items_flatten_append (fun c h => isCommand_iff.mp (hc c h)) (noCommand_iff.mp ht)

/-- The empty text begins with no command. -/
theorem noCommand_nil (clientSide : Bool) : NoCommand clientSide [] := by
  intro cid params h
  cases h

/-- Reading undoes writing: the list of a stream of commands holds exactly
these commands, a tail that begins with no command adds nothing, and the loop
of the constructor ends on every input. -/
theorem ofPayload_commands (clientSide : Bool) (commands : List Bytes) (tail : Bytes)
    (hc : ∀ c∈commands,IsCommand clientSide c) (ht : NoCommand clientSide tail) :
    List.Forall₂ (Holds clientSide) (MacDataList.ofPayload commands.flatten clientSide).list commands ∧
      MacDataList.ofPayload (commands.flatten++tail) clientSide=
        MacDataList.ofPayload commands.flatten clientSide ∧
      ∀ value fuel,value.length<fuel → parseList clientSide fuel MacData.empty value []=
        some (MacDataList.ofPayload value clientSide).list := by
  have hitems : (commandCutter clientSide).items commands.flatten=commands := by
    have happend := items_commands hc (noCommand_nil clientSide)
    rwa [List.append_nil] at happend
  refine ⟨?_,?_,fun value fuel h => parseList_ofPayload value clientSide h⟩
  · rw [ofPayload_list,hitems]
    exact held_holds hc MacData.empty
  · have hlist : (MacDataList.ofPayload (commands.flatten++tail) clientSide).list=
        (MacDataList.ofPayload commands.flatten clientSide).list := by
      rw [ofPayload_list,ofPayload_list,items_commands hc ht,hitems]
    exact congrArg (MacDataList.mk clientSide) hlist

/-- A new channel and a link check, and behind them a data rate request cut short. -/
theorem ofPayload_newChannel : List.Forall₂ (Holds true) (MacDataList.ofPayload
      ([[0x07,3,0x18,0x4f,0x84,0x50],[0x02,20,1]].flatten) true).list [[0x07,3,0x18,0x4f,0x84,0x50],[0x02,20,1]] ∧
    MacDataList.ofPayload ([[0x07,3,0x18,0x4f,0x84,0x50],[0x02,20,1]].flatten++[0x03,7]) true=
      MacDataList.ofPayload ([[0x07,3,0x18,0x4f,0x84,0x50],[0x02,20,1]].flatten) true ∧
    ∀ value fuel,value.length<fuel → parseList true fuel MacData.empty value []=
      some (MacDataList.ofPayload value true).list := by
  refine ofPayload_commands true [[0x07,3,0x18,0x4f,0x84,0x50],[0x02,20,1]] [0x03,7] ?_ (noCommand_iff.mpr rfl)
  rw [List.forall_mem_cons,List.forall_mem_singleton]
  exact ⟨⟨.NewChannel,_,rfl,by decide⟩,⟨.LinkCheck,_,rfl,by decide⟩⟩

end LorawanServer.MacStream
