import Mathlib

/-!
# Lines of commands with parameters

A line is a sequence of commands, each of them named by one token and followed by
one token for each of its parameters. What names a command and how a parameter is
read are relations, so a line can be ambiguous. Two readings of one line that have
the same commands take it apart at the same tokens.
-/

namespace LorawanServer.CommandLines

variable {Token Head Param Value : Type*}

/-- Tokens that are read as the values of parameters. -/
inductive Arguments (reads : Param → Token → Value → Prop) : List Param → List Token → List Value → Prop
  /-- Nothing is left to read. -/
  | nil : Arguments reads [] [] []
  /-- One parameter is read in front of the others. -/
  | cons {param token value params tokens values} (h : reads param token value)
    (rest : Arguments reads params tokens values) :
    Arguments reads (param::params) (token::tokens) (value::values)

/-- Tokens that are read as commands with the values of their parameters. -/
inductive Line (named : Token → Head → Prop) (params : Head → List Param) (reads : Param → Token → Value → Prop) :
    List Token → List (Head×List Value) → Prop
  /-- Nothing is left to read. -/
  | nil : Line named params reads [] []
  /-- One command is read in front of the others. -/
  | cons {name head tokens values rest commands} (h : named name head)
    (arguments : Arguments reads (params head) tokens values) (others : Line named params reads rest commands) :
    Line named params reads (name::(tokens++rest)) ((head,values)::commands)

variable {named named' : Token → Head → Prop} {params : Head → List Param}
variable {reads reads' reads'' : Param → Token → Value → Prop}

/-- There is one token for each parameter. -/
theorem Arguments.length_eq {list : List Param} {tokens : List Token} {values : List Value}
    (h : Arguments reads list tokens values) : tokens.length=list.length := by
  induction h with
  | nil => rfl
  | cons _ _ ih => rw [List.length_cons,List.length_cons,ih]

/-- A reading of each token gives a reading of all of them. -/
theorem Arguments.imp {list : List Param} {tokens : List Token} {values : List Value}
    (h : Arguments reads list tokens values)
    (himp : ∀ param∈list,∀ token value,reads param token value → reads' param token value) :
    Arguments reads' list tokens values := by
  induction h with
  | nil => exact .nil
  | cons hread _ ih =>
    exact .cons (himp _ List.mem_cons_self _ _ hread)
      (ih fun param hmem => himp param (List.mem_cons_of_mem _ hmem))

/-- A reading of each token, with a value of its own, gives a reading of all of them. -/
theorem Arguments.exists_imp {list : List Param} {tokens : List Token} {values : List Value}
    (h : Arguments reads list tokens values)
    (himp : ∀ param∈list,∀ token value,reads param token value → ∃ value',reads' param token value') :
    ∃ values',Arguments reads' list tokens values' := by
  induction h with
  | nil => exact ⟨[],.nil⟩
  | cons hread _ ih =>
    obtain ⟨value',hvalue⟩ := himp _ List.mem_cons_self _ _ hread
    obtain ⟨values',hvalues⟩ := ih fun param hmem => himp param (List.mem_cons_of_mem _ hmem)
    exact ⟨_,.cons hvalue hvalues⟩

/-- A line of no commands is empty. -/
theorem Line.eq_nil {tokens : List Token} (h : Line named params reads tokens []) : tokens=[] := by
  cases h
  rfl

/-- Lines can be put behind each other. -/
theorem Line.append {front back : List Token} {first second : List (Head×List Value)}
    (hfront : Line named params reads front first) (hback : Line named params reads back second) :
    Line named params reads (front++back) (first++second) := by
  induction hfront with
  | nil => exact hback
  | cons h arguments _ ih =>
    rw [List.cons_append,List.append_assoc]
    exact .cons h arguments ih

/-- A line whose commands can be read in another way can be read in that way, with
commands that are related to the first ones. -/
theorem Line.transfer {R : Head×List Value → Head×List Value → Prop} {tokens : List Token}
    {commands : List (Head×List Value)} (h : Line named params reads tokens commands)
    (hstep : ∀ name head tokens values,named name head → Arguments reads (params head) tokens values →
      named' name head ∧ ∃ values',Arguments reads' (params head) tokens values' ∧ R (head,values) (head,values')) :
    ∃ commands',Line named' params reads' tokens commands' ∧ List.Forall₂ R commands commands' := by
  induction h with
  | nil => exact ⟨[],.nil,.nil⟩
  | cons hname arguments _ ih =>
    obtain ⟨hname',values',harguments,hR⟩ := hstep _ _ _ _ hname arguments
    obtain ⟨commands',hline,hall⟩ := ih
    exact ⟨_,.cons hname' harguments hline,.cons hR hall⟩

/-- A line that is read in a weaker way has the same commands. -/
theorem Line.imp {tokens : List Token} {commands : List (Head×List Value)}
    (h : Line named params reads tokens commands) (hname : ∀ name head,named name head → named' name head)
    (hread : ∀ param token value,reads param token value → reads' param token value) :
    Line named' params reads' tokens commands := by
  induction h with
  | nil => exact .nil
  | cons h arguments _ ih => exact .cons (hname _ _ h) (arguments.imp fun param _ => hread param) ih

/-- Two readings with related commands take a line apart at the same tokens: nothing
is left behind the shorter one, and what holds of each command holds of the line. -/
theorem Line.combine {R : Head×List Value → Head×List Value → Prop} {tokens extra : List Token}
    {first second : List (Head×List Value)} (hfirst : Line named params reads tokens first)
    (hsecond : Line named' params reads' (tokens++extra) second) (hall : List.Forall₂ R first second)
    (hhead : ∀ name head other values values',named name head → named' name other →
      R (head,values) (other,values') → head=other)
    (hstep : ∀ name head tokens values values',named name head → Arguments reads (params head) tokens values →
      Arguments reads' (params head) tokens values' → R (head,values) (head,values') →
      Arguments reads'' (params head) tokens values') :
    extra=[] ∧ Line named params reads'' tokens second := by
  induction hfirst generalizing second with
  | nil =>
    cases hall
    exact ⟨hsecond.eq_nil,.nil⟩
  | @cons name head tokens values rest commands hname arguments _ ih =>
    cases hall with
    | @cons _ command _ commands' hR hall =>
      obtain ⟨other,values'⟩ := command
      rw [List.cons_append,List.append_assoc] at hsecond
      generalize hwhole : name::(tokens++(rest++extra))=whole at hsecond
      cases hsecond with
      | @cons _ _ tokens' _ rest' _ hname' arguments' others' =>
        injection hwhole with hn ht
        subst hn
        obtain rfl := hhead _ _ _ _ _ hname hname' hR
        obtain ⟨rfl,rfl⟩ := List.append_inj ht (arguments.length_eq.trans arguments'.length_eq.symm)
        obtain ⟨hextra,hline⟩ := ih others' hall
        exact ⟨hextra,.cons hname (hstep _ _ _ _ _ hname arguments arguments' hR) hline⟩

end LorawanServer.CommandLines
