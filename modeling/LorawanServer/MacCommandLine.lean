import LorawanServer.BaseNumbers
import LorawanServer.CommandLines
import LorawanServer.MacSetters

/-!
# Commands from a command line

`MacGwConfig::parse` against the grammar that its tables spell out. The grammar
lets either of two commands be meant by one short name, the code takes the first
one. The code never looks at the upper bound of a choice, takes an unknown alias for
zero, and ends with success behind a command whose parameters are all missing.
-/

namespace LorawanServer.MacCommandLine

open CppRuntime BaseNumbers CommandLines JsonDocument MacCommands MacSetters
open PacketHandler (Timeval)

/-- `ERR_CODE_PARAM_INVALID`. -/
abbrev ERR_CODE_PARAM_INVALID : ℤ := -545

/-- `ERR_CODE_INSUFFICIENT_PARAMS`. -/
abbrev ERR_CODE_INSUFFICIENT_PARAMS : ℤ := -546

/-- `COMMAND_PARAM_CHOICE`. -/
structure COMMAND_PARAM_CHOICE where
  /-- Lowest value. -/
  minvalue : ℕ
  /-- Highest value. -/
  maxvalue : ℕ
  /-- Alias, empty if there is none. -/
  name : Bytes
  deriving DecidableEq

/-- `COMMAND_PARAM`: the choices of a parameter. -/
abbrev COMMAND_PARAM := List COMMAND_PARAM_CHOICE

/-- `COMMAND_DESCRIPTION`. -/
structure COMMAND_DESCRIPTION where
  /-- Identifier. -/
  cmd : MAC_CID
  /-- How many parameters follow the name. -/
  paramcount : ℕ
  /-- Short name. -/
  shortname : Bytes
  /-- Full name. -/
  fullname : Bytes
  /-- Its parameters; the table of one command is longer than its count. -/
  param : List COMMAND_PARAM
  deriving DecidableEq

/-- `CHOICES_TXPOWER`. -/
def CHOICES_TXPOWER : COMMAND_PARAM := [⟨0,7,[]⟩,⟨15,15,ascii "asis"⟩]

/-- `CHOICES_DATARATE`. -/
def CHOICES_DATARATE : COMMAND_PARAM := [⟨0,7,[]⟩,⟨15,15,ascii "asis"⟩]

/-- `CHOICES_CHMASK`. -/
def CHOICES_CHMASK : COMMAND_PARAM := [⟨1,255,[]⟩]

/-- `CHOICES_NBTRANS`. -/
def CHOICES_NBTRANS : COMMAND_PARAM := [⟨1,15,[]⟩]

/-- `CHOICES_CHMASKCTL`. -/
def CHOICES_CHMASKCTL : COMMAND_PARAM := [⟨0,7,[]⟩]

/-- `CHOICES_DUTY_CYCLE_LIMIT`. -/
def CHOICES_DUTY_CYCLE_LIMIT : COMMAND_PARAM := [⟨0,15,[]⟩]

/-- `CHOICES_FREQUENCY`. -/
def CHOICES_FREQUENCY : COMMAND_PARAM := [⟨0,9999999,ascii " * 100Hz"⟩]

/-- `CHOICES_RX1_DR_OFFSET`. -/
def CHOICES_RX1_DR_OFFSET : COMMAND_PARAM := [⟨0,7,ascii "s"⟩]

/-- `CHOICES_CHANNEL_INDEX`. -/
def CHOICES_CHANNEL_INDEX : COMMAND_PARAM := [⟨0,15,[]⟩]

/-- `CHOICES_RXTIMING`. -/
def CHOICES_RXTIMING : COMMAND_PARAM := [⟨0,15,ascii " + 1s"⟩]

/-- `CHOICES_DWELLTIME`. -/
def CHOICES_DWELLTIME : COMMAND_PARAM := [⟨0,0,ascii "no-limit"⟩,⟨1,1,ascii "400"⟩]

/-- `CHOICES_MAXEIRP`. -/
def CHOICES_MAXEIRP : COMMAND_PARAM := [⟨0,15,[]⟩]

/-- `CHOICES_1_32768`. -/
def CHOICES_1_32768 : COMMAND_PARAM := [⟨0,15,[]⟩]

/-- `CHOICES_1_7`. -/
def CHOICES_1_7 : COMMAND_PARAM := [⟨0,7,[]⟩]

/-- `CHOICES_REJOIN_TYPES`. -/
def CHOICES_REJOIN_TYPES : COMMAND_PARAM := [⟨0,0,ascii "0"⟩,⟨2,2,ascii "2"⟩]

/-- `CHOICES_MAXTIME`. -/
def CHOICES_MAXTIME : COMMAND_PARAM := [⟨0,15,[]⟩]

/-- `CHOICES_MAXCOUNT`. -/
def CHOICES_MAXCOUNT : COMMAND_PARAM := [⟨0,15,[]⟩]

/-- The entry of `RXTimingSetup`, whose short name is also the one of an earlier entry. -/
def RXTIMING_DESCRIPTION : COMMAND_DESCRIPTION :=
  ⟨.RXTimingSetup,1,ascii "rx",ascii "rxtiming",[CHOICES_RXTIMING]⟩

/-- `gatewayCommands`. -/
def gatewayCommands : List COMMAND_DESCRIPTION :=
  [⟨.LinkADR,5,ascii "a",ascii "linkadr",
      [CHOICES_TXPOWER,CHOICES_DATARATE,CHOICES_CHMASK,CHOICES_NBTRANS,CHOICES_CHMASKCTL]⟩,
    ⟨.DutyCycle,1,ascii "d",ascii "dutycycle",[CHOICES_DUTY_CYCLE_LIMIT]⟩,
    ⟨.RXParamSetup,3,ascii "rx",ascii "rxparamsetup",[CHOICES_FREQUENCY,CHOICES_RX1_DR_OFFSET,CHOICES_DATARATE]⟩,
    ⟨.DevStatus,0,ascii "s",ascii "devstatus",[]⟩,
    ⟨.NewChannel,4,ascii "n",ascii "newchannel",
      [CHOICES_CHANNEL_INDEX,CHOICES_FREQUENCY,CHOICES_DATARATE,CHOICES_DATARATE]⟩,
    RXTIMING_DESCRIPTION,
    ⟨.TXParamSetup,3,ascii "tx",ascii "dwelltime",[CHOICES_DWELLTIME,CHOICES_DWELLTIME,CHOICES_MAXEIRP]⟩,
    ⟨.DLChannel,2,ascii "dl",ascii "dlchannel",[CHOICES_CHANNEL_INDEX,CHOICES_FREQUENCY]⟩,
    ⟨.Rekey,0,ascii "k",ascii "rekey",[]⟩,
    ⟨.ADRParamSetup,2,ascii "al",ascii "acklimit",[CHOICES_1_32768,CHOICES_1_32768]⟩,
    ⟨.ForceRejoin,3,ascii "j",ascii "forcerejoin",[CHOICES_1_7,CHOICES_1_7,CHOICES_REJOIN_TYPES,CHOICES_DATARATE]⟩,
    ⟨.RejoinParamSetup,2,ascii "js",ascii "rejoinsetup",[CHOICES_MAXTIME,CHOICES_MAXCOUNT]⟩,
    ⟨.PingSlotInfo,0,ascii "p",ascii "ping",[]⟩,
    ⟨.PingSlotChannel,2,ascii "pc",ascii "pingchannel",[CHOICES_FREQUENCY,CHOICES_DATARATE]⟩,
    ⟨.BeaconFreq,1,ascii "bf",ascii "beaconfreq",[CHOICES_FREQUENCY]⟩]

/-- `commandIndex`: the first entry with that name. -/
def commandIndex (value : Bytes) : Option COMMAND_DESCRIPTION :=
  gatewayCommands.find? fun c => value=c.shortname || value=c.fullname

/-- `paramValNum`. What is compared with the upper bound is the index of the choice. -/
def paramValNum (v : ℤ) (p : COMMAND_PARAM) : ℤ :=
  if p.zipIdx.any fun choice => choice.1.minvalue≤v%2^32 && choice.2≤choice.1.maxvalue then v else 0

/-- `paramValAlias`. -/
def paramValAlias (v : Bytes) (p : COMMAND_PARAM) : ℤ :=
  match p.find? fun choice => v=choice.name with
  | some choice => choice.minvalue
  | none => 0

/-- The value of a token among the choices of its parameter. A zero is no number if
a digit behind the token does not change it. -/
def choiceValue (value : Bytes) (p : COMMAND_PARAM) : ℤ :=
  if strtoll value=0 ∧ strtoll (value++ascii "1")=0 then paramValAlias value p else paramValNum (strtoll value) p

/-- `paramValue`. -/
def paramValue (value : Bytes) (paramIndex : ℕ) (cmd : COMMAND_DESCRIPTION) : ℤ :=
  if cmd.paramcount≤paramIndex then ERR_CODE_MAC_INVALID else choiceValue value (cmd.param.getD paramIndex [])

/-- The members of `MacGwConfig` that the parser uses. -/
structure MacGwConfig where
  /-- Tokens of the command line. -/
  cmd : List Bytes
  /-- Commands read so far. -/
  macCommands : List MacData
  /-- Error of the last parse. -/
  errcode : ℤ
  /-- Its text, which stays when there is none. -/
  errmessage : Bytes
  deriving DecidableEq

/-- The states of the parser. -/
inductive ParseState where
  /-- `0`: the name of a command is next. -/
  | command
  /-- `1`: a parameter is next, behind some that are read. -/
  | parameter (c : COMMAND_DESCRIPTION) (paramval : List ℤ)

/-- A command with its values as `putMacCommand` sets it. -/
def putMacCommand (now : Timeval) (sentByServerSide : Bool) (command : COMMAND_DESCRIPTION×List ℤ) : MacData :=
  MacData.set now MacData.empty command.1.cmd command.2 sentByServerSide

/-- A text between quotation marks. -/
def quotedName (name : Bytes) : Bytes := ascii "'"++name++ascii "'"

/-- The loop of `MacGwConfig::parse` and what follows it. -/
def parseLoop (now : Timeval) (sentByServerSide : Bool) : ParseState → List Bytes → MacGwConfig → MacGwConfig
  | .command,[],config => {config with errcode := 0}
  | .parameter c paramval,[],config =>
    if paramval=[] then {config with errcode := 0}
    else {config with
      errcode := ERR_CODE_INSUFFICIENT_PARAMS
      errmessage := ascii "Insufficient parameters for "++quotedName c.fullname++ascii ". Expected "++
        decimal c.paramcount++ascii ", got "++decimal paramval.length}
  | .command,v::rest,config =>
    match commandIndex v with
    | none =>
      {config with errcode := ERR_CODE_MAC_INVALID,errmessage := ascii "Invalid MAC command "++quotedName v}
    | some c =>
      if c.paramcount=0 then
        parseLoop now sentByServerSide .command rest
          {config with macCommands := config.macCommands++[putMacCommand now sentByServerSide (c,[])]}
      else parseLoop now sentByServerSide (.parameter c []) rest config
  | .parameter c paramval,v::rest,config =>
    let val := paramValue v paramval.length c
    if val<0 then
      {config with
        errcode := ERR_CODE_PARAM_INVALID
        errmessage := ascii "Invalid parameter "++quotedName v++ascii " of "++c.fullname}
    else if c.paramcount≤paramval.length+1 then
      parseLoop now sentByServerSide .command rest
        {config with
          macCommands := config.macCommands++[putMacCommand now sentByServerSide (c,paramval++[toInt32 val.toNat])]}
    else parseLoop now sentByServerSide (.parameter c (paramval++[toInt32 val.toNat])) rest config

/-- `MacGwConfig::parse` at a time of the clock: its code and the configuration. -/
def MacGwConfig.parse (now : Timeval) (sentByServerSide : Bool) (config : MacGwConfig) : ℤ×MacGwConfig :=
  let result := parseLoop now sentByServerSide .command config.cmd {config with macCommands := [],errcode := 0}
  (result.errcode,result)

/-- The token is the alias of a choice. -/
def Alias (param : COMMAND_PARAM) (token : Bytes) (value : ℤ) : Prop :=
  ∃ choice∈param,choice.name≠[] ∧ token=choice.name ∧ value=choice.minvalue

/-- The token is a number inside the range of a choice. -/
def InRange (param : COMMAND_PARAM) (token : Bytes) (value : ℤ) : Prop :=
  IsNumber token value ∧ ∃ choice∈param,choice.minvalue≤value ∧ value≤choice.maxvalue

/-- The token is a value of the parameter. -/
def Reads (param : COMMAND_PARAM) (token : Bytes) (value : ℤ) : Prop := Alias param token value ∨ InRange param token value

/-- The token is the short or the full name of a command. -/
def Named (token : Bytes) (c : COMMAND_DESCRIPTION) : Prop :=
  c∈gatewayCommands ∧ (token=c.shortname ∨ token=c.fullname)

/-- The parameters that follow the name of a command. -/
def COMMAND_DESCRIPTION.params (c : COMMAND_DESCRIPTION) : List COMMAND_PARAM := c.param.take c.paramcount

/-- The tokens are a sequence of commands with their parameters. -/
def Derives (tokens : List Bytes) (commands : List (COMMAND_DESCRIPTION×List ℤ)) : Prop :=
  Line Named COMMAND_DESCRIPTION.params Reads tokens commands

/-- The parser keeps to the grammar on a command line: success is for the derivable
ones and gives the commands of a derivation, and the others have another code. -/
structure Meets (now : Timeval) (sentByServerSide : Bool) (config : MacGwConfig) : Prop where
  /-- Success is for derivable lines. -/
  success : (config.parse now sentByServerSide).1=0 ↔ ∃ commands,Derives config.cmd commands
  /-- Success gives one command after another. -/
  built : (config.parse now sentByServerSide).1=0 → ∃ commands,Derives config.cmd commands ∧
    (config.parse now sentByServerSide).2.macCommands=commands.map (putMacCommand now sentByServerSide)
  /-- Failure has a code. -/
  failure : (¬∃ commands,Derives config.cmd commands) → (config.parse now sentByServerSide).1≠0

/-- The first entry with that name. -/
def First (token : Bytes) (c : COMMAND_DESCRIPTION) : Prop := commandIndex token=some c

/-- The code takes the token, with this value. -/
def Coded (param : COMMAND_PARAM) (token : Bytes) (value : ℤ) : Prop :=
  0≤choiceValue token param ∧ value=toInt32 (choiceValue token param).toNat

/-- The token is a value of the parameter, and the code takes it for that value: the
only one it gets wrong is the longer dwell time, which matters to the command of a gateway. -/
def Kept (sentByServerSide : Bool) (param : COMMAND_PARAM) (token : Bytes) (value : ℤ) : Prop :=
  Reads param token value ∧ ¬(sentByServerSide=true ∧ param=CHOICES_DWELLTIME ∧ token=ascii "400")

/-- Commands by their first entries, with values of their parameters that the code gets right. -/
def Sound (sentByServerSide : Bool) (tokens : List Bytes) : Prop :=
  ∃ commands,Line First COMMAND_DESCRIPTION.params (Kept sentByServerSide) tokens commands

/-- Commands by their first entries, no parameter of which is taken for a negative
number; at the end there can be a name without any of its parameters. -/
def Shaped (tokens : List Bytes) : Prop :=
  ∃ front commands,Line First COMMAND_DESCRIPTION.params Coded front commands ∧
    (tokens=front ∨ ∃ name c,tokens=front++[name] ∧ First name c ∧ c.paramcount≠0)

/-- Somewhere the short name that two commands share is followed by a delay, and what
is around the two tokens is derivable. -/
def Retimed (tokens : List Bytes) : Prop :=
  ∃ front first delay value back second,tokens=front++ascii "rx"::delay::back ∧ Derives front first ∧
    Reads CHOICES_RXTIMING delay value ∧ Derives back second

/-- The tables are long enough, and their bounds are. -/
theorem gatewayCommands_tables {c : COMMAND_DESCRIPTION} (h : c∈gatewayCommands) :
    c.paramcount≤c.param.length ∧
      ∀ p∈c.param,∀ choice∈p.zipIdx,choice.2≤choice.1.maxvalue ∧ choice.1.minvalue<2^31 ∧ choice.1.maxvalue<2^31 := by
  revert c
  decide +kernel

/-- Entries with one identifier are one entry. -/
theorem gatewayCommands_cmd {c d : COMMAND_DESCRIPTION} (hc : c∈gatewayCommands) (hd : d∈gatewayCommands)
    (h : c.cmd=d.cmd) : c=d := by
  have hall : ∀ c∈gatewayCommands,∀ d∈gatewayCommands,c.cmd=d.cmd → c=d := by decide +kernel
  exact hall c hc d hd h

/-- A name is the one of a first entry, or the short one that two commands share. -/
theorem first_or_rx {name : Bytes} {c : COMMAND_DESCRIPTION} (h : Named name c) :
    First name c ∨ (name=ascii "rx" ∧ c=RXTIMING_DESCRIPTION) := by
  obtain ⟨hc,rfl|rfl⟩ := h
  · revert c
    unfold First
    decide +kernel
  · revert c
    unfold First
    decide +kernel

/-- A first entry is an entry. -/
theorem First.named {name : Bytes} {c : COMMAND_DESCRIPTION} (h : First name c) : Named name c := by
  have hname := List.find?_some h
  rw [Bool.or_eq_true] at hname
  exact ⟨List.mem_of_find?_eq_some h,hname.imp of_decide_eq_true of_decide_eq_true⟩

/-- Aliases are taken for the lowest values of their choices, except for the longer dwell time. -/
theorem choiceValue_alias {c : COMMAND_DESCRIPTION} (hc : c∈gatewayCommands) {p : COMMAND_PARAM} (hp : p∈c.param)
    {choice : COMMAND_PARAM_CHOICE} (h : choice∈p) (hne : choice.name≠[]) :
    choiceValue choice.name p=choice.minvalue ∨
      (p=CHOICES_DWELLTIME ∧ choice.name=ascii "400" ∧ choice.minvalue=1) := by
  revert c p choice
  decide +kernel

/-- Numbers inside the range of a choice are taken for what they are. -/
theorem choiceValue_number {c : COMMAND_DESCRIPTION} (hc : c∈gatewayCommands) {p : COMMAND_PARAM} (hp : p∈c.param)
    {token : Bytes} {value : ℤ} (h : InRange p token value) : choiceValue token p=value := by
  obtain ⟨hnumber,choice,hchoice,hmin,hmax⟩ := h
  obtain ⟨index,hindex⟩ := List.mem_iff_getElem?.mp hchoice
  have hzip : (choice,index)∈p.zipIdx := List.mk_mem_zipIdx_iff_getElem?.mpr hindex
  obtain ⟨hplace,-,hbound⟩ := (gatewayCommands_tables hc).2 p hp _ hzip
  dsimp only at hplace hbound
  have hread : strtoll token=value := by
    rw [strtoll_of_isNumber hnumber]
    omega
  have hnz := strtoll_append_ne_zero hnumber
  rw [choiceValue,if_neg fun hboth => hnz hboth.2,hread,paramValNum,if_pos]
  refine List.any_eq_true.mpr ⟨_,hzip,?_⟩
  rw [Bool.and_eq_true,decide_eq_true_eq,decide_eq_true_eq]
  refine ⟨?_,hplace⟩
  rw [Int.emod_eq_of_lt (by omega) (by omega)]
  exact hmin

/-- The values of a parameter are taken for what they are, except for the longer dwell time. -/
theorem choiceValue_reads {c : COMMAND_DESCRIPTION} (hc : c∈gatewayCommands) {p : COMMAND_PARAM} (hp : p∈c.param)
    {token : Bytes} {value : ℤ} (h : Reads p token value) :
    choiceValue token p=value ∨ (p=CHOICES_DWELLTIME ∧ token=ascii "400" ∧ value=1) := by
  rcases h with ⟨choice,hchoice,hne,rfl,rfl⟩|hrange
  · rcases choiceValue_alias hc hp hchoice hne with h|⟨hp,hname,hmin⟩
    · exact .inl h
    · exact .inr ⟨hp,hname,by rw [hmin]; rfl⟩
  · exact .inl (choiceValue_number hc hp hrange)

/-- The values of a parameter are small. -/
theorem reads_bounds {c : COMMAND_DESCRIPTION} (hc : c∈gatewayCommands) {p : COMMAND_PARAM} (hp : p∈c.param)
    {token : Bytes} {value : ℤ} (h : Reads p token value) : 0≤value ∧ value<2^31 := by
  have hbound {choice : COMMAND_PARAM_CHOICE} (hchoice : choice∈p) : choice.minvalue<2^31 ∧ choice.maxvalue<2^31 := by
    obtain ⟨index,hindex⟩ := List.mem_iff_getElem?.mp hchoice
    exact ((gatewayCommands_tables hc).2 p hp _ (List.mk_mem_zipIdx_iff_getElem?.mpr hindex)).2
  rcases h with ⟨choice,hchoice,-,-,rfl⟩|⟨-,choice,hchoice,hmin,hmax⟩
  · have hlt := (hbound hchoice).1
    omega
  · have hlt := (hbound hchoice).2
    omega

/-- The value the code takes is kept in the narrower type. -/
theorem toInt32_value {value : ℤ} (h : 0≤value ∧ value<2^31) : toInt32 value.toNat=value := by
  rw [toInt32_of_lt (by omega)]
  omega

/-- The parameter at an index is the next one of those that are left. -/
theorem params_drop {c : COMMAND_DESCRIPTION} (hc : c∈gatewayCommands) {index : ℕ} (h : index<c.paramcount) :
    c.params.drop index=c.param.getD index []::c.params.drop (index+1) ∧ c.param.getD index []∈c.param := by
  have hlength := (gatewayCommands_tables hc).1
  have hparams : index<c.params.length := by
    rw [COMMAND_DESCRIPTION.params,List.length_take]
    omega
  have hget : c.param.getD index []=c.param[index] := List.getD_eq_getElem _ _ (by omega)
  refine ⟨?_,?_⟩
  · rw [hget,List.drop_eq_getElem_cons hparams]
    congr 1
    exact List.getElem_take
  · rw [hget]
    exact List.getElem_mem _

/-- A command with no parameters left has none. -/
theorem params_drop_end {c : COMMAND_DESCRIPTION} {index : ℕ} (h : c.paramcount≤ index) : c.params.drop index=[] := by
  rw [List.drop_eq_nil_iff,COMMAND_DESCRIPTION.params,List.length_take]
  omega

variable (now : Timeval) (sentByServerSide : Bool)

/-- The configuration with one more command. -/
def MacGwConfig.push (config : MacGwConfig) (commands : List (COMMAND_DESCRIPTION×List ℤ)) : MacGwConfig :=
  {config with macCommands := config.macCommands++commands.map (putMacCommand now sentByServerSide)}

/-- The loop reads the parameters that are left and then a command. -/
theorem parseLoop_arguments {c : COMMAND_DESCRIPTION} (hc : c∈gatewayCommands) {list : List COMMAND_PARAM}
    {tokens : List Bytes} {values : List ℤ} (h : Arguments Coded list tokens values) {paramval : List ℤ}
    (hlist : list=c.params.drop paramval.length) (hlt : paramval.length<c.paramcount) (extra : List Bytes)
    (config : MacGwConfig) :
    parseLoop now sentByServerSide (.parameter c paramval) (tokens++extra) config=
      parseLoop now sentByServerSide .command extra
        (config.push now sentByServerSide [(c,paramval++values)]) := by
  obtain ⟨hdrop,-⟩ := params_drop hc hlt
  induction h generalizing paramval with
  | nil =>
    rw [hdrop] at hlist
    cases hlist
  | @cons param token value params tokens values hread hrest ih =>
    rw [hdrop] at hlist
    injection hlist with hparam hparams
    subst hparam
    obtain ⟨hval,rfl⟩ := hread
    have hvalue : paramValue token paramval.length c=choiceValue token (c.param.getD paramval.length []) := by
      rw [paramValue,if_neg (Nat.not_le.mpr hlt)]
    rw [List.cons_append,parseLoop,hvalue,if_neg (not_lt.mpr hval)]
    by_cases hlast : c.paramcount≤paramval.length+1
    · rw [params_drop_end hlast] at hparams
      subst hparams
      cases hrest
      rw [if_pos hlast]
      rfl
    · have hnext : (paramval++[toInt32 (choiceValue token (c.param.getD paramval.length [])).toNat]).length=
          paramval.length+1 := List.length_append
      rw [if_neg hlast,ih (by rw [hnext]; exact hparams) (by omega) (by rw [hnext]; exact (params_drop hc (by omega)).1),
        List.append_assoc]
      rfl

/-- The loop reads commands by their first entries. -/
theorem parseLoop_line {tokens : List Bytes} {commands : List (COMMAND_DESCRIPTION×List ℤ)}
    (h : Line First COMMAND_DESCRIPTION.params Coded tokens commands) (extra : List Bytes) (config : MacGwConfig) :
    parseLoop now sentByServerSide .command (tokens++extra) config=
      parseLoop now sentByServerSide .command extra (config.push now sentByServerSide commands) := by
  induction h generalizing config with
  | nil =>
    rw [MacGwConfig.push,List.map_nil,List.append_nil]
    rfl
  | @cons name c tokens values rest commands hname arguments _ ih =>
    have hc := hname.named.1
    have hsplit : (config.push now sentByServerSide [(c,values)]).push now sentByServerSide commands=
        config.push now sentByServerSide ((c,values)::commands) := by
      rw [MacGwConfig.push,MacGwConfig.push,MacGwConfig.push,List.append_assoc,← List.map_append]
      rfl
    have hfound : commandIndex name=some c := hname
    rw [← hsplit,← ih,List.cons_append,List.append_assoc,parseLoop,hfound]
    dsimp only
    by_cases hcount : c.paramcount=0
    · rw [COMMAND_DESCRIPTION.params,hcount,List.take_zero] at arguments
      cases arguments
      rw [if_pos hcount]
      rfl
    · rw [if_neg hcount,@parseLoop_arguments now sentByServerSide c hc _ _ _ arguments [] rfl (Nat.pos_of_ne_zero hcount)]
      rfl

/-- A line of the shape that the parser takes ends with success, and its commands are there. -/
theorem parse_shaped {config : MacGwConfig} {front : List Bytes} {commands : List (COMMAND_DESCRIPTION×List ℤ)}
    (hline : Line First COMMAND_DESCRIPTION.params Coded front commands)
    (hend : config.cmd=front ∨ ∃ name c,config.cmd=front++[name] ∧ First name c ∧ c.paramcount≠0) :
    (config.parse now sentByServerSide).1=0 ∧
      (config.parse now sentByServerSide).2.macCommands=commands.map (putMacCommand now sentByServerSide) := by
  rcases hend with hend|⟨name,c,hend,hname,hcount⟩
  · rw [MacGwConfig.parse,hend,← List.append_nil front,parseLoop_line now sentByServerSide hline]
    exact ⟨rfl,rfl⟩
  · have hfound : commandIndex name=some c := hname
    rw [MacGwConfig.parse,hend,parseLoop_line now sentByServerSide hline,parseLoop,hfound]
    dsimp only
    rw [if_neg hcount]
    exact ⟨rfl,rfl⟩

/-- One more command in front of a line of that shape. -/
theorem Shaped.cons {name : Bytes} {c : COMMAND_DESCRIPTION} {tokens rest : List Bytes} {values : List ℤ}
    (hname : First name c) (arguments : Arguments Coded c.params tokens values) (h : Shaped rest) :
    Shaped (name::(tokens++rest)) := by
  obtain ⟨front,commands,hline,hend⟩ := h
  refine ⟨_,_,.cons hname arguments hline,hend.imp ?_ ?_⟩
  · rintro rfl
    rfl
  · rintro ⟨last,d,rfl,hlast,hcount⟩
    exact ⟨last,d,by rw [List.cons_append,List.append_assoc],hlast,hcount⟩

/-- What the loop has read when it ends with success. -/
def Completed : ParseState → List Bytes → Prop
  | .command,tokens => Shaped tokens
  | .parameter c paramval,tokens => (paramval=[] ∧ tokens=[]) ∨ ∃ front rest values,tokens=front++rest ∧
      Arguments Coded (c.params.drop paramval.length) front values ∧ Shaped rest

/-- The loop ends with success only on lines of that shape. -/
theorem completed_of_errcode {state : ParseState} {tokens : List Bytes} {config : MacGwConfig}
    (hstate : ∀ c paramval,state=.parameter c paramval → c∈gatewayCommands ∧ paramval.length<c.paramcount)
    (h : (parseLoop now sentByServerSide state tokens config).errcode=0) : Completed state tokens := by
  induction tokens generalizing state config with
  | nil =>
    cases state with
    | command => exact ⟨[],[],.nil,.inl rfl⟩
    | parameter c paramval =>
      rw [parseLoop] at h
      split_ifs at h with hval
      · exact .inl ⟨hval,rfl⟩
      · cases h
  | cons v rest ih =>
    cases state with
    | command =>
      rw [parseLoop] at h
      cases hfound : commandIndex v with
      | none =>
        rw [hfound] at h
        cases h
      | some c =>
        have hname : First v c := hfound
        rw [hfound] at h
        dsimp only at h
        split_ifs at h with hcount
        · have hrest := ih (by rintro d p ⟨⟩) h
          have hparams : c.params=[] := by
            rw [COMMAND_DESCRIPTION.params,hcount,List.take_zero]
          exact Shaped.cons hname (by rw [hparams]; exact .nil) hrest
        · have hc := hname.named.1
          rcases ih (by rintro d p ⟨⟩; exact ⟨hc,Nat.pos_of_ne_zero hcount⟩) h with
            ⟨-,rfl⟩|⟨front,back,values,rfl,arguments,hrest⟩
          · exact ⟨[],[],.nil,.inr ⟨v,c,rfl,hname,hcount⟩⟩
          · exact Shaped.cons hname arguments hrest
    | parameter c paramval =>
      obtain ⟨hc,hlt⟩ := hstate c paramval rfl
      obtain ⟨hdrop,-⟩ := params_drop hc hlt
      rw [parseLoop,paramValue,if_neg (Nat.not_le.mpr hlt)] at h
      split_ifs at h with hneg hlast
      · cases h
      · have hrest := ih (by rintro d p ⟨⟩) h
        refine .inr ⟨[v],rest,[toInt32 (choiceValue v (c.param.getD paramval.length [])).toNat],rfl,?_,hrest⟩
        rw [hdrop,params_drop_end hlast]
        exact .cons ⟨not_lt.mp hneg,rfl⟩ .nil
      · have hnext : (paramval++[toInt32 (choiceValue v (c.param.getD paramval.length [])).toNat]).length=
            paramval.length+1 := List.length_append
        rcases ih (by rintro d p ⟨⟩; exact ⟨hc,by omega⟩) h with
          ⟨hnil,-⟩|⟨front,back,values,rfl,arguments,hrest⟩
        · exact absurd hnil (by simp)
        · rw [hnext] at arguments
          refine .inr ⟨v::front,back,toInt32 (choiceValue v (c.param.getD paramval.length [])).toNat::values,rfl,?_,
            hrest⟩
          rw [hdrop]
          exact .cons ⟨not_lt.mp hneg,rfl⟩ arguments

/-- The parser ends with success exactly on lines of that shape. -/
theorem parse_code_iff (config : MacGwConfig) : (config.parse now sentByServerSide).1=0 ↔ Shaped config.cmd := by
  constructor
  · exact @completed_of_errcode now sentByServerSide .command _ _ (by rintro c p ⟨⟩)
  · rintro ⟨front,commands,hline,hend⟩
    exact (parse_shaped now sentByServerSide hline hend).1

/-- Values of parameters are taken for what they are, except for the longer dwell time. -/
theorem Reads.coded {c : COMMAND_DESCRIPTION} (hc : c∈gatewayCommands) {p : COMMAND_PARAM}
    (hp : p∈c.param) {token : Bytes} {value : ℤ} (h : Reads p token value)
    (hdwell : ¬(p=CHOICES_DWELLTIME ∧ token=ascii "400")) : Coded p token value := by
  rcases choiceValue_reads hc hp h with hvalue|⟨hparam,htoken,-⟩
  · have hbounds := reads_bounds hc hp h
    rw [Coded,hvalue]
    exact ⟨hbounds.1,(toInt32_value hbounds).symm⟩
  · exact absurd ⟨hparam,htoken⟩ hdwell

/-- Values of parameters are taken, perhaps for other ones. -/
theorem Reads.exists_coded {c : COMMAND_DESCRIPTION} (hc : c∈gatewayCommands) {p : COMMAND_PARAM}
    (hp : p∈c.param) {token : Bytes} {value : ℤ} (h : Reads p token value) : ∃ value',Coded p token value' := by
  have hnonneg : 0≤choiceValue token p := by
    rcases choiceValue_reads hc hp h with hvalue|⟨rfl,rfl,-⟩
    · rw [hvalue]
      exact (reads_bounds hc hp h).1
    · decide +kernel
  exact ⟨_,hnonneg,rfl⟩

/-- Only one command has dwell times. -/
theorem cmd_of_dwellTime {c : COMMAND_DESCRIPTION} (hc : c∈gatewayCommands) (h : CHOICES_DWELLTIME∈c.param) :
    c.cmd=.TXParamSetup ∧ c.params=[CHOICES_DWELLTIME,CHOICES_DWELLTIME,CHOICES_MAXEIRP] := by
  revert c
  decide +kernel

/-- A dwell time is zero or one, and the longer one is taken for its alias as a number. -/
theorem dwellTime_cases {token : Bytes} {value value' : ℤ} (hcoded : Coded CHOICES_DWELLTIME token value)
    (hreads : Reads CHOICES_DWELLTIME token value') :
    (value,value')∈[((0 : ℤ),(0 : ℤ)),(1,1),(400,1)] ∧ (token=ascii "400" → value≠value') := by
  have hbit : value'=0 ∨ value'=1 := by
    rcases hreads with ⟨choice,hchoice,-,-,rfl⟩|⟨-,choice,hchoice,hmin,hmax⟩
    · rcases List.mem_pair.mp hchoice with rfl|rfl
      · exact .inl rfl
      · exact .inr rfl
    · rcases List.mem_pair.mp hchoice with rfl|rfl
      · exact .inl (le_antisymm hmax hmin)
      · exact .inr (le_antisymm hmax hmin)
  have hmem : (⟨.TXParamSetup,3,ascii "tx",ascii "dwelltime",
      [CHOICES_DWELLTIME,CHOICES_DWELLTIME,CHOICES_MAXEIRP]⟩ : COMMAND_DESCRIPTION)∈gatewayCommands := by
    decide +kernel
  by_cases htoken : token=ascii "400"
  · have hvalue : value=400 := hcoded.2.trans (by rw [htoken]; decide +kernel)
    have hone : value'=1 := by
      rcases hreads with ⟨choice,hchoice,-,hname,rfl⟩|⟨hnumber,-⟩
      · rcases List.mem_pair.mp hchoice with rfl|rfl
        · rw [htoken] at hname
          exact absurd hname (by decide)
        · rfl
      · rw [htoken] at hnumber
        have h400 : IsNumber (ascii "400") 400 := by decide +kernel
        rcases hbit with hbit|hbit <;> exact absurd (h400.2.2.2.symm.trans hnumber.2.2.2) (by omega)
    rw [hvalue,hone]
    exact ⟨by decide,fun _ => by decide⟩
  · have hsame := hreads.coded hmem List.mem_cons_self fun h => htoken h.2
    have heq : value=value' := hcoded.2.trans hsame.2.symm
    refine ⟨?_,fun h => absurd h htoken⟩
    rcases hbit with hbit|hbit <;> rw [heq,hbit] <;> decide

/-- The bits of dwell times differ where the dwell times do. -/
theorem dwellTimes_assigned : ∀ a∈[((0 : ℤ),(0 : ℤ)),(1,1),(400,1)],∀ b∈[((0 : ℤ),(0 : ℤ)),(1,1),(400,1)],
    ∀ power : Fin 16,
      assignAll (withCid MacData.empty.command .TXParamSetup)
        [⟨13,1,a.1⟩,⟨12,1,b.1⟩,⟨8,4,(power.val : ℤ)⟩,⟨14,2,0⟩]=
      assignAll (withCid MacData.empty.command .TXParamSetup)
        [⟨13,1,a.2⟩,⟨12,1,b.2⟩,⟨8,4,(power.val : ℤ)⟩,⟨14,2,0⟩] → a.1=a.2 ∧ b.1=b.2 := by
  decide +kernel

/-- The command of a gateway shows its dwell times. -/
theorem dwellTimes_eq {a b : ℤ×ℤ} (ha : a∈[((0 : ℤ),(0 : ℤ)),(1,1),(400,1)]) (hb : b∈[((0 : ℤ),(0 : ℤ)),(1,1),(400,1)])
    {power : ℤ} (hpower : 0≤power ∧ power≤15)
    (h : (MacData.set now MacData.empty .TXParamSetup [a.1,b.1,power] true)=
      MacData.set now MacData.empty .TXParamSetup [a.2,b.2,power] true) : a.1=a.2 ∧ b.1=b.2 := by
  lift power to ℕ using hpower.1
  exact dwellTimes_assigned a ha b hb ⟨power,by omega⟩ (congrArg MacData.command h)

/-- The range of the highest power. -/
theorem maxEirp_bounds {token : Bytes} {value : ℤ} (h : Reads CHOICES_MAXEIRP token value) : 0≤value ∧ value≤15 := by
  rcases h with ⟨choice,hchoice,hne,-⟩|⟨-,choice,hchoice,hmin,hmax⟩
  · cases List.mem_singleton.mp hchoice
    exact absurd rfl hne
  · cases List.mem_singleton.mp hchoice
    exact ⟨hmin,hmax⟩

/-- Parameters that the code gets right give one command. -/
theorem kept_arguments {c : COMMAND_DESCRIPTION} (hc : c∈gatewayCommands) {tokens : List Bytes} {values : List ℤ}
    (h : Arguments (Kept sentByServerSide) c.params tokens values) :
    ∃ values',Arguments Coded c.params tokens values' ∧
      putMacCommand now sentByServerSide (c,values)=putMacCommand now sentByServerSide (c,values') := by
  have hparam {p : COMMAND_PARAM} (hp : p∈c.params) : p∈c.param := List.mem_of_mem_take hp
  by_cases hdwell : CHOICES_DWELLTIME∈c.param ∧ sentByServerSide=false
  · obtain ⟨values',hvalues⟩ := h.exists_imp fun p hp token value hkept => hkept.1.exists_coded hc (hparam hp)
    refine ⟨values',hvalues,?_⟩
    rw [putMacCommand,putMacCommand,(cmd_of_dwellTime hc hdwell.1).1,hdwell.2]
    rfl
  · refine ⟨values,h.imp fun p hp token value hkept => ?_,rfl⟩
    refine hkept.1.coded hc (hparam hp) ?_
    rintro ⟨rfl,htoken⟩
    refine hkept.2 ⟨?_,rfl,htoken⟩
    exact (Bool.not_eq_false _).mp fun hside => hdwell ⟨hparam hp,hside⟩

/-- Parameters that give the command the grammar asks for are those that the code gets right. -/
theorem arguments_kept {c : COMMAND_DESCRIPTION} (hc : c∈gatewayCommands) {tokens : List Bytes} {values values' : List ℤ}
    (hcoded : Arguments Coded c.params tokens values) (hreads : Arguments Reads c.params tokens values')
    (h : putMacCommand now sentByServerSide (c,values)=putMacCommand now sentByServerSide (c,values')) :
    Arguments (Kept sentByServerSide) c.params tokens values' := by
  by_cases hdwell : CHOICES_DWELLTIME∈c.param ∧ sentByServerSide=true
  · obtain ⟨hcmd,hparams⟩ := cmd_of_dwellTime hc hdwell.1
    rw [hparams] at hcoded hreads ⊢
    obtain _|⟨hdown,_|⟨hup,_|⟨hpower,_|_⟩⟩⟩ := hcoded
    obtain _|⟨hdown',_|⟨hup',_|⟨hpower',_|_⟩⟩⟩ := hreads
    have hmem : CHOICES_MAXEIRP∈c.param := List.mem_of_mem_take (show _∈c.params by rw [hparams]; decide)
    have hsame := hpower'.coded hc hmem fun h => absurd h.1 (by decide)
    rw [putMacCommand,putMacCommand,hcmd,hdwell.2,hpower.2,← hsame.2] at h
    obtain ⟨hd,hdne⟩ := dwellTime_cases hdown hdown'
    obtain ⟨hu,hune⟩ := dwellTime_cases hup hup'
    obtain ⟨hdeq,hueq⟩ := dwellTimes_eq now hd hu (maxEirp_bounds hpower') h
    exact .cons ⟨hdown',fun h => hdne h.2.2 hdeq⟩
      (.cons ⟨hup',fun h => hune h.2.2 hueq⟩ (.cons ⟨hpower',fun h => absurd h.2.1 (by decide)⟩ .nil))
  · refine hreads.imp fun p hp token value hread => ⟨hread,?_⟩
    rintro ⟨hside,rfl,-⟩
    exact hdwell ⟨List.mem_of_mem_take hp,hside⟩

/-- Commands that are set alike are of one entry. -/
theorem entry_of_putMacCommand {c d : COMMAND_DESCRIPTION} (hc : c∈gatewayCommands) (hd : d∈gatewayCommands)
    {values values' : List ℤ}
    (h : putMacCommand now sentByServerSide (c,values)=putMacCommand now sentByServerSide (d,values')) : c=d := by
  refine gatewayCommands_cmd hc hd (MAC_CID.code_injective ?_)
  have hhead := congrArg (fun data : MacData => cidByte data.command) h
  rwa [putMacCommand,putMacCommand,set_head,set_head] at hhead

/-- A derivable line has a derivation by first entries, or a delay behind the shared name. -/
theorem derives_cases {tokens : List Bytes} {commands : List (COMMAND_DESCRIPTION×List ℤ)}
    (h : Derives tokens commands) :
    (∃ commands',Line First COMMAND_DESCRIPTION.params Reads tokens commands') ∨ Retimed tokens := by
  induction h with
  | nil => exact .inl ⟨[],.nil⟩
  | @cons name c tokens values rest commands hname arguments hrest ih =>
    rcases first_or_rx hname with hfirst|⟨rfl,rfl⟩
    · refine ih.imp ?_ ?_
      · rintro ⟨commands',hline⟩
        exact ⟨_,.cons hfirst arguments hline⟩
      · rintro ⟨front,first,delay,value,back,second,rfl,hfront,hdelay,hback⟩
        exact ⟨name::(tokens++front),_,delay,value,back,second,by rw [List.cons_append,List.append_assoc],
          .cons hname arguments hfront,hdelay,hback⟩
    · obtain _|⟨hdelay,_|_⟩ := arguments
      exact .inr ⟨[],[],_,_,rest,commands,rfl,.nil,hdelay,hrest⟩

/-- A line with a delay behind the shared name is derivable. -/
theorem Retimed.derives {tokens : List Bytes} (h : Retimed tokens) : ∃ commands,Derives tokens commands := by
  obtain ⟨front,first,delay,value,back,second,rfl,hfront,hdelay,hback⟩ := h
  have hnamed : Named (ascii "rx") RXTIMING_DESCRIPTION := by
    unfold Named
    decide +kernel
  exact ⟨_,hfront.append (.cons hnamed (.cons hdelay .nil) hback)⟩

/-- A line that is derivable by first entries is taken by the parser. -/
theorem shaped_of_first {tokens : List Bytes} {commands : List (COMMAND_DESCRIPTION×List ℤ)}
    (h : Line First COMMAND_DESCRIPTION.params Reads tokens commands) : Shaped tokens := by
  obtain ⟨commands',hline,-⟩ := @Line.transfer _ _ _ _ _ First _ _ Coded (fun _ _ => True) _ _ h fun name c tokens values
    hname arguments => by
      have hc := hname.named.1
      obtain ⟨values',hvalues⟩ := arguments.exists_imp fun p hp token value hread =>
        hread.exists_coded hc (List.mem_of_mem_take hp)
      exact ⟨hname,values',hvalues,trivial⟩
  exact ⟨tokens,commands',hline,.inl rfl⟩

end LorawanServer.MacCommandLine
