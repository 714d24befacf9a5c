import LorawanServer.JsonTree
import LorawanServer.Listener
import LorawanServer.TextSearch

/-!
# What a transmission acknowledgement is judged by

`extractTXAckCode` searches the text behind the prefix, but with the length of
the whole datagram, so it sees the terminating zero and eleven bytes that an
earlier datagram left behind it. No name reaches over the zero. What is left
there decides unless the datagram does not name an acknowledgement, or already
names the error that comes first in the table.
-/

namespace LorawanServer.TxAcknowledgement

open CppRuntime JsonDocument JsonEvents Listener TextSearch

section Find

variable {text pattern rest : Bytes} {position i : ℕ}

/-- The comparison at a place fails where the pattern does not stand. -/
theorem isPrefixOf_drop_eq_false : pattern.isPrefixOf (text.drop i)=false ↔ ¬ MatchesAt text pattern i := by
  rw [←Bool.not_eq_true,List.isPrefixOf_iff_prefix,MatchesAt]

/-- The search finds the first place. -/
theorem findFrom_eq_some_iff (hne : pattern≠[]) :
    findFrom text pattern position=some i ↔ FirstMatch text pattern position i := by
  rw [findFrom,List.head?_filter,List.find?_range_eq_some]
  simp only [Bool.and_eq_true,decide_eq_true_eq,List.isPrefixOf_iff_prefix,List.mem_range,Bool.not_eq_true',
    Bool.and_eq_false_iff,decide_eq_false_iff_not,isPrefixOf_drop_eq_false]
  constructor
  · rintro ⟨⟨hbehind,hplace⟩,-,hfirst⟩
    exact ⟨hbehind,hplace,fun j hj hlt => (hfirst j hlt).resolve_left fun hno => hno hj⟩
  · rintro ⟨hbehind,hplace,hfirst⟩
    have hfits := hplace.fits hne
    exact ⟨⟨hbehind,hplace⟩,by omega,
      fun j hlt => (Classical.em (position≤ j)).symm.imp_right fun hj => hfirst j hj hlt⟩

/-- The search finds nothing where there is nothing. -/
theorem findFrom_eq_none_iff (hne : pattern≠[]) :
    findFrom text pattern position=none ↔ Absent text pattern position := by
  rw [findFrom,List.head?_filter,List.find?_range_eq_none]
  simp only [Bool.not_eq_true',Bool.and_eq_false_iff,decide_eq_false_iff_not,isPrefixOf_drop_eq_false]
  constructor
  · intro h j hj hplace
    have hfits := hplace.fits hne
    exact (h j (by omega)).elim (fun hno => hno hj) fun hno => hno hplace
  · exact fun h j _ => (Classical.em (position≤ j)).symm.imp_right fun hj => h j hj

/-- It finds something exactly where the pattern stands from the position on. -/
theorem findFrom_isSome_iff (hne : pattern≠[]) :
    (findFrom text pattern position).isSome=true ↔ ∃ j,position≤ j ∧ MatchesAt text pattern j := by
  rw [←not_iff_not,Bool.not_eq_true,Option.isSome_eq_false_iff,Option.isNone_iff_eq_none,findFrom_eq_none_iff hne,
    Absent]
  simp only [not_exists,not_and]

/-- What is found in the text is found with a zero and more behind it. -/
theorem findFrom_append_zero (hne : pattern≠[]) (hzero : 0∉pattern) (h : findFrom text pattern position=some i) :
    findFrom (text++0::rest) pattern position=some i :=
  (findFrom_eq_some_iff hne).mpr (((findFrom_eq_some_iff hne).mp h).append_mark hne hzero rest)

/-- Zeros change no search. -/
theorem findFrom_zeros (hne : pattern≠[]) (hzero : 0∉pattern) (count position : ℕ) :
    findFrom (text++0::List.replicate count 0) pattern position=findFrom text pattern position := by
  cases h : findFrom text pattern position with
  | none =>
    have habsent := (findFrom_eq_none_iff hne).mp h
    exact (findFrom_eq_none_iff hne).mpr (habsent.append_marks hne hzero count)
  | some i => exact findFrom_append_zero hne hzero h

/-- A pattern behind the zero is found there, if the text has none. -/
theorem findFrom_in_rest (hne : pattern≠[]) (hzero : 0∉pattern) (hinside : position≤text.length)
    (hnone : findFrom text pattern position=none) (tail : Bytes) :
    findFrom (text++0::(pattern++tail)) pattern position=some (text.length+1) :=
  (findFrom_eq_some_iff hne).mpr (((findFrom_eq_none_iff hne).mp hnone).firstMatch_behind hzero hinside tail)

end Find

/-- Where the error of an acknowledgement is named. -/
def errorPosition (s : Bytes) : Option ℕ := (findFrom s (ascii "txpk_ack") 0).bind (findFrom s (ascii "error"))

/-- The first code of the table whose name stands behind a position. -/
def codeFrom (s : Bytes) (p : ℕ) : ℕ :=
  ((List.range 11).filter fun i => 1≤ i && (findFrom s (ascii (txAckCodes.getD i "")) p).isSome).headD 0

/-- The code that a searched text gives. -/
def ackCode (s : Bytes) : ℕ := ((errorPosition s).map (codeFrom s)).getD 0

/-- The code is the one of the text that is read behind the prefix. -/
theorem extractTXAckCode_eq (buffer : Bytes) (sz : ℕ) :
    extractTXAckCode buffer sz=
      if sz<12 ∨ buffer.getD 3 0≠5 then .ok 0 else (readBytes (buffer.drop 12) sz).map ackCode := by
  rw [extractTXAckCode]
  split
  · rfl
  · cases readBytes (buffer.drop 12) sz with
    | error fault => rfl
    | ok s =>
      simp only [bind,Except.bind,Except.map,ackCode,errorPosition]
      split
      · next hnone => rw [hnone]; rfl
      · next p hsome => rw [hsome]; rfl

/-- Every name of the table is a text without a zero. -/
theorem txAckCodes_name {i : ℕ} (hlow : 1≤ i) (hhigh : i<11) :
    ascii (txAckCodes.getD i "")≠[] ∧ 0∉ascii (txAckCodes.getD i "") := by
  interval_cases i <;> decide +kernel

/-- The first code of a list of places is the first place that counts. -/
theorem codeFrom_eq_find (s : Bytes) (p : ℕ) :
    codeFrom s p=((List.range 11).find? fun i =>
      1≤ i && (findFrom s (ascii (txAckCodes.getD i "")) p).isSome).getD 0 := by
  rw [codeFrom,List.headD_eq_head?_getD,List.head?_filter]

/-- The first code is given exactly where its name is found. -/
theorem codeFrom_eq_one_iff (s : Bytes) (p : ℕ) :
    codeFrom s p=1 ↔ (findFrom s (ascii "TOO_LATE") p).isSome=true := by
  have hsome : ∀ found : Option ℕ,found.getD 0=1 ↔ found=some 1 := by
    intro found
    cases found with
    | none => exact iff_of_false Nat.zero_ne_one fun h => nomatch h
    | some k => rw [Option.getD_some,Option.some.injEq]
  rw [codeFrom_eq_find,hsome,List.find?_range_eq_some]
  constructor
  · exact fun h => h.1
  · refine fun h => ⟨h,by decide,fun j hj => ?_⟩
    obtain rfl : j=0 := by omega
    rfl

/-- A name that is found gives some code. -/
theorem codeFrom_ne_zero {s : Bytes} {p i : ℕ} (hlow : 1≤ i) (hhigh : i<11)
    (h : (findFrom s (ascii (txAckCodes.getD i "")) p).isSome=true) : codeFrom s p≠0 := by
  rw [codeFrom_eq_find]
  cases hfind : (List.range 11).find? fun i => 1≤ i && (findFrom s (ascii (txAckCodes.getD i "")) p).isSome with
  | none =>
    have hno := List.find?_range_eq_none.mp hfind i hhigh
    rw [h,decide_eq_true hlow] at hno
    cases hno
  | some k =>
    have hk := (List.find?_range_eq_some.mp hfind).1
    rw [Bool.and_eq_true,decide_eq_true_eq] at hk
    rw [Option.getD_some]
    omega

/-- The names of the search are texts without a zero. -/
theorem searched_names : (ascii "txpk_ack"≠[] ∧ 0∉ascii "txpk_ack") ∧ ascii "error"≠[] ∧ 0∉ascii "error" := by
  decide +kernel

section Leftovers

variable {text : Bytes}

/-- Zeros behind the text do not change its code. -/
theorem ackCode_zeros (count : ℕ) : ackCode (text++0::List.replicate count 0)=ackCode text := by
  obtain ⟨⟨hack,hackZero⟩,herror,herrorZero⟩ := searched_names
  have hposition : errorPosition (text++0::List.replicate count 0)=errorPosition text := by
    rw [errorPosition,errorPosition,findFrom_zeros hack hackZero]
    congr 1
    funext p
    exact findFrom_zeros herror herrorZero count p
  have hcode : ∀ p,codeFrom (text++0::List.replicate count 0) p=codeFrom text p := by
    intro p
    rw [codeFrom,codeFrom]
    congr 1
    refine List.filter_congr fun i hi => ?_
    by_cases hlow : 1≤ i
    · obtain ⟨hne,hzero⟩ := txAckCodes_name hlow (List.mem_range.mp hi)
      rw [findFrom_zeros hne hzero]
    · rw [decide_eq_false hlow,Bool.false_and,Bool.false_and]
  rw [ackCode,ackCode,hposition]
  simp only [funext hcode]

/-- Without the name of an acknowledgement in the text nothing behind it counts:
the eleven bytes have no room for the other names. -/
theorem ackCode_of_noAck (hnone : findFrom text (ascii "txpk_ack") 0=none) {rest : Bytes} (hr : rest.length=11) :
    ackCode (text++0::rest)=0 := by
  obtain ⟨⟨hack,hackZero⟩,herror,herrorZero⟩ := searched_names
  have hposition : errorPosition (text++0::rest)=none := by
    rw [errorPosition,Option.bind_eq_none_iff]
    intro i hi
    have hfirst := (findFrom_eq_some_iff hack).mp hi
    obtain ⟨j,rfl,hj⟩ := ((findFrom_eq_none_iff hack).mp hnone).behind_mark hackZero hfirst.behind hfirst.place
    refine (findFrom_eq_none_iff herror).mpr fun k hk hmatch => ?_
    rcases (matchesAt_append_mark herrorZero k).mp hmatch with ⟨hle,-⟩|⟨l,rfl,hl⟩
    · omega
    · have hfits := hj.fits hack
      have hfits' := hl.fits herror
      obtain ⟨between,rfl⟩ := Nat.exists_eq_add_of_le (show j≤l by omega)
      have hlengths : (ascii "txpk_ack").length=8 ∧ (ascii "error").length=5 := by decide +kernel
      -- the first name has no letter with which the second one begins
      have hletters : ∀ k<8,(ascii "txpk_ack")[k]?≠(ascii "error")[0]? := by decide +kernel
      refine hletters between (by omega) ?_
      rw [←hj.getElem? (by omega),←hl.getElem? (by omega),Nat.add_zero]
  rw [ackCode,hposition]
  rfl

/-- What names the error in the text names it with anything behind. -/
theorem errorPosition_append {p : ℕ} (hp : errorPosition text=some p) (rest : Bytes) :
    p≤text.length ∧ errorPosition (text++0::rest)=some p := by
  obtain ⟨⟨hack,hackZero⟩,herror,herrorZero⟩ := searched_names
  obtain ⟨i,hi,hfound⟩ := Option.bind_eq_some_iff.mp hp
  have hfits := ((findFrom_eq_some_iff herror).mp hfound).place.fits herror
  refine ⟨by omega,?_⟩
  rw [errorPosition,findFrom_append_zero hack hackZero hi,Option.bind_some,
    findFrom_append_zero herror herrorZero hfound]

/-- With the name of an acknowledgement but no error in the text, an error
behind it gives a code. -/
theorem ackCode_errorFull (hnamed : (findFrom text (ascii "txpk_ack") 0).isSome=true)
    (hnone : errorPosition text=none) : ackCode (text++0::(ascii "error"++(ascii "FULL"++[0,0])))≠0 := by
  obtain ⟨⟨hack,hackZero⟩,herror,herrorZero⟩ := searched_names
  obtain ⟨i,hi⟩ := Option.isSome_iff_exists.mp hnamed
  have hfits := ((findFrom_eq_some_iff hack).mp hi).place.fits hack
  rw [errorPosition,hi,Option.bind_some] at hnone
  have hposition : errorPosition (text++0::(ascii "error"++(ascii "FULL"++[0,0])))=some (text.length+1) := by
    rw [errorPosition,findFrom_append_zero hack hackZero hi,Option.bind_some,
      findFrom_in_rest herror herrorZero (by omega) hnone]
  have hfull : (findFrom (text++0::(ascii "error"++(ascii "FULL"++[0,0]))) (ascii (txAckCodes.getD 3 ""))
      (text.length+1)).isSome=true := by
    obtain ⟨hne,hzero⟩ := @txAckCodes_name 3 (by decide) (by decide)
    refine (findFrom_isSome_iff hne).mpr ⟨text.length+1+5,by omega,?_⟩
    exact (matchesAt_append_mark hzero _).mpr (.inr ⟨5,rfl,List.prefix_append _ _⟩)
  rw [ackCode,hposition]
  exact codeFrom_ne_zero (by decide) (by decide) hfull

/-- With an error in the text a first code behind it counts. -/
theorem ackCode_tooLate {p : ℕ} (hp : errorPosition text=some p) :
    ackCode (text++0::(ascii "TOO_LATE"++[0,0,0]))=1 := by
  obtain ⟨hle,hposition⟩ := errorPosition_append hp (ascii "TOO_LATE"++[0,0,0])
  obtain ⟨hne,hzero⟩ := @txAckCodes_name 1 (by decide) (by decide)
  rw [ackCode,hposition]
  refine (codeFrom_eq_one_iff _ p).mpr ((findFrom_isSome_iff hne).mpr ⟨text.length+1,by omega,?_⟩)
  exact (matchesAt_append_mark hzero _).mpr (.inr ⟨0,rfl,List.prefix_append _ _⟩)

/-- With a first code in the text nothing behind it counts. -/
theorem ackCode_of_tooLate {p : ℕ} (hp : errorPosition text=some p)
    (hlate : (findFrom text (ascii "TOO_LATE") p).isSome=true) (rest : Bytes) : ackCode (text++0::rest)=1 := by
  obtain ⟨hne,hzero⟩ := @txAckCodes_name 1 (by decide) (by decide)
  obtain ⟨i,hi⟩ := Option.isSome_iff_exists.mp hlate
  have hfound : findFrom (text++0::rest) (ascii "TOO_LATE") p=some i := findFrom_append_zero hne hzero hi
  rw [ackCode,(errorPosition_append hp rest).2]
  refine (codeFrom_eq_one_iff _ p).mpr ?_
  rw [hfound]
  rfl

end Leftovers

section Judgement

variable (own : Bytes) (spare : ℕ)

/-- A datagram whose text is searched. -/
def IsTxAck : Prop := 12≤own.length ∧ own.getD 3 0=5

/-- The buffer with a datagram in it, the zero behind it and what is left of
earlier ones. -/
def received (rest : Bytes) : Bytes := own++0::rest

/-- Two buffers with the same datagram give the same code. -/
def SameCode : Prop :=
  ∀ rest other : Bytes,rest.length=spare → other.length=spare →
    ∃ code,extractTXAckCode (received own rest) own.length=.ok code ∧
      extractTXAckCode (received own other) own.length=.ok code

/-- The JSON text of the datagram has an acknowledgement with an error member. -/
def HasErrorMember (number : Bytes → ℚ) (tooBig : Bytes → Bool) : Prop :=
  ∃ members ack error,document number tooBig (own.drop 12)=some (.object members) ∧
    (ascii "txpk_ack",.object ack)∈members ∧ (ascii "error",error)∈ack

/-- The datagram is judged by its own bytes, and as sent if it has no error
member. -/
def JudgedByOwnBytes (number : Bytes → ℚ) (tooBig : Bytes → Bool) : Prop :=
  SameCode own spare ∧ (¬ HasErrorMember own number tooBig →
    ∀ rest : Bytes,rest.length=spare → extractTXAckCode (received own rest) own.length=.ok 0)

/-- The text of the datagram names an acknowledgement. -/
def NamesAck : Prop := (findFrom (own.drop 12) (ascii "txpk_ack") 0).isSome=true

/-- It names an error and behind it the first error of the table. -/
def NamesFirstError : Prop :=
  ∃ p,errorPosition (own.drop 12)=some p ∧ (findFrom (own.drop 12) (ascii "TOO_LATE") p).isSome=true

variable {own spare} {rest : Bytes}

/-- The searched bytes are the text, the zero and eleven bytes behind it. -/
theorem searched_bytes (hack : IsTxAck own) :
    ((received own rest).drop 12).take own.length=own.drop 12++0::rest.take 11 := by
  obtain ⟨hlength,-⟩ := hack
  have hbehind : own.length-(own.length-12)=11+1 := by omega
  rw [received,List.drop_append_of_le_length hlength,List.take_append,List.length_drop,hbehind,List.take_succ_cons,
    List.take_of_length_le (by rw [List.length_drop]; omega)]

/-- The tag of a buffer is the one of its datagram. -/
theorem received_tag (h : 12≤own.length) : (received own rest).getD 3 0=own.getD 3 0 := by
  rw [received,List.getD_append _ _ _ _ (by omega)]

/-- A datagram that is no acknowledgement has no code. -/
theorem extractTXAckCode_other (h : ¬ IsTxAck own) : extractTXAckCode (received own rest) own.length=.ok 0 := by
  rw [extractTXAckCode_eq]
  refine if_pos ?_
  by_cases hlength : own.length<12
  · exact .inl hlength
  · right
    rw [received_tag (not_lt.mp hlength)]
    exact fun htag => h ⟨not_lt.mp hlength,htag⟩

/-- An acknowledgement has the code of the searched bytes. -/
theorem extractTXAckCode_ack (hack : IsTxAck own) (hspare : 11≤rest.length) :
    extractTXAckCode (received own rest) own.length=.ok (ackCode (own.drop 12++0::rest.take 11)) := by
  obtain ⟨hlength,htag⟩ := hack
  have hread : own.length≤((received own rest).drop 12).length := by
    rw [List.length_drop,received,List.length_append,List.length_cons]
    omega
  rw [extractTXAckCode_eq,if_neg (by rw [received_tag hlength,htag]; simpa using hlength),readBytes_of_le hread,
    searched_bytes ⟨hlength,htag⟩]
  rfl

/-- With fewer bytes behind the zero the search leaves the buffer. -/
theorem extractTXAckCode_outside (hack : IsTxAck own) (hspare : rest.length<11) :
    extractTXAckCode (received own rest) own.length=.error .readOutside := by
  obtain ⟨hlength,htag⟩ := hack
  rw [extractTXAckCode_eq,if_neg (by rw [received_tag hlength,htag]; simpa using hlength),readBytes,if_pos ?_]
  · rfl
  · rw [List.length_drop,received,List.length_append,List.length_cons]
    omega

/-- So a code needs eleven bytes there. -/
theorem spare_of_code (hack : IsTxAck own) {code : ℕ}
    (hcode : extractTXAckCode (received own rest) own.length=.ok code) : 11≤rest.length := by
  by_contra hfew
  rw [extractTXAckCode_outside hack (not_le.mp hfew)] at hcode
  cases hcode

/-- Any eleven bytes can stand behind the zero. -/
theorem exists_leftovers (hack : IsTxAck own) (hspare : 11≤ spare) (front : Bytes) (hfront : front.length=11) :
    ∃ rest : Bytes,rest.length=spare ∧
      extractTXAckCode (received own rest) own.length=.ok (ackCode (own.drop 12++0::front)) := by
  have hrest : (front++List.replicate (spare-11) 0).length=spare := by
    rw [List.length_append,List.length_replicate,hfront,Nat.add_sub_cancel' hspare]
  refine ⟨front++List.replicate (spare-11) 0,hrest,?_⟩
  rw [extractTXAckCode_ack hack (hspare.trans_eq hrest.symm),List.take_left' hfront]

/-- Zeros can stand there, and then the code is the one of the text. -/
theorem exists_clean (hack : IsTxAck own) (hspare : 11≤ spare) :
    ∃ rest : Bytes,rest.length=spare ∧
      extractTXAckCode (received own rest) own.length=.ok (ackCode (own.drop 12)) := by
  have hclean := exists_leftovers hack hspare (List.replicate 11 0) List.length_replicate
  rwa [ackCode_zeros] at hclean

/-- A text that names an acknowledgement has some code with the right bytes
behind it. -/
theorem exists_misled (hack : IsTxAck own) (hspare : 11≤ spare) (hnamed : NamesAck own) :
    ∃ rest : Bytes,rest.length=spare ∧ ∃ code≠0,extractTXAckCode (received own rest) own.length=.ok code := by
  cases hposition : errorPosition (own.drop 12) with
  | none =>
    obtain ⟨rest,hrest,hcode⟩ := exists_leftovers hack hspare (ascii "error"++(ascii "FULL"++[0,0])) rfl
    exact ⟨rest,hrest,_,ackCode_errorFull hnamed hposition,hcode⟩
  | some p =>
    obtain ⟨rest,hrest,hcode⟩ := exists_leftovers hack hspare (ascii "TOO_LATE"++[0,0,0]) rfl
    rw [ackCode_tooLate hposition] at hcode
    exact ⟨rest,hrest,1,Nat.one_ne_zero,hcode⟩

/-- What is left behind the datagram does not count exactly in these cases. -/
theorem sameCode_iff : SameCode own spare ↔
    ¬ IsTxAck own ∨ 11≤ spare ∧ (¬ NamesAck own ∨ NamesFirstError own) := by
  constructor
  · intro hsame
    refine (Classical.em (IsTxAck own)).symm.imp_right fun hack => ?_
    have hspare : 11≤ spare := by
      have hzeros : (List.replicate spare (0 : UInt8)).length=spare := List.length_replicate
      obtain ⟨code,hcode,-⟩ := hsame _ _ hzeros hzeros
      exact hzeros ▸ spare_of_code hack hcode
    refine ⟨hspare,(Classical.em (NamesAck own)).symm.imp_right fun hnamed => ?_⟩
    obtain ⟨clean,hclean,hown⟩ := exists_clean hack hspare
    cases hposition : errorPosition (own.drop 12) with
    | none =>
      obtain ⟨rest,hrest,misled,hne,hcode⟩ := exists_misled hack hspare hnamed
      obtain ⟨code,hfirst,hsecond⟩ := hsame clean rest hclean hrest
      rw [hown,Except.ok.injEq,ackCode,hposition] at hfirst
      rw [hcode,Except.ok.injEq,←hfirst] at hsecond
      exact absurd hsecond hne
    | some p =>
      obtain ⟨rest,hrest,hcode⟩ := exists_leftovers hack hspare (ascii "TOO_LATE"++[0,0,0]) rfl
      obtain ⟨code,hfirst,hsecond⟩ := hsame clean rest hclean hrest
      rw [hcode,ackCode_tooLate hposition,Except.ok.injEq] at hsecond
      rw [hown,Except.ok.injEq,←hsecond,ackCode,hposition] at hfirst
      exact ⟨p,hposition,(codeFrom_eq_one_iff _ p).mp hfirst⟩
  · rintro (hother|⟨hspare,hcase⟩) rest other hrest hother'
    · exact ⟨0,extractTXAckCode_other hother,extractTXAckCode_other hother⟩
    · by_cases hack : IsTxAck own
      · rw [extractTXAckCode_ack hack (hspare.trans_eq hrest.symm),
          extractTXAckCode_ack hack (hspare.trans_eq hother'.symm)]
        have htake : ∀ {left : Bytes},left.length=spare → (left.take 11).length=11 := fun h => by
          rw [List.length_take,h,Nat.min_eq_left hspare]
        rcases hcase with hnone|⟨p,hposition,hlate⟩
        · have hnone : findFrom (own.drop 12) (ascii "txpk_ack") 0=none := Option.not_isSome_iff_eq_none.mp hnone
          exact ⟨0,congrArg _ (ackCode_of_noAck hnone (htake hrest)),
            congrArg _ (ackCode_of_noAck hnone (htake hother'))⟩
        · exact ⟨1,congrArg _ (ackCode_of_tooLate hposition hlate _),
            congrArg _ (ackCode_of_tooLate hposition hlate _)⟩
      · exact ⟨0,extractTXAckCode_other hack,extractTXAckCode_other hack⟩

/-- No code is given, whatever is left behind, exactly in these cases. -/
theorem always_ok_iff : (∀ rest : Bytes,rest.length=spare → extractTXAckCode (received own rest) own.length=.ok 0) ↔
    ¬ IsTxAck own ∨ 11≤ spare ∧ ¬ NamesAck own := by
  constructor
  · intro hok
    refine (Classical.em (IsTxAck own)).symm.imp_right fun hack => ?_
    have hspare : 11≤ spare := by
      have hzeros : (List.replicate spare (0 : UInt8)).length=spare := List.length_replicate
      exact hzeros ▸ spare_of_code hack (hok _ hzeros)
    refine ⟨hspare,fun hnamed => ?_⟩
    obtain ⟨rest,hrest,code,hne,hcode⟩ := exists_misled hack hspare hnamed
    rw [hok rest hrest,Except.ok.injEq] at hcode
    exact hne hcode.symm
  · rintro (hother|⟨hspare,hnone⟩) rest hrest
    · exact extractTXAckCode_other hother
    · by_cases hack : IsTxAck own
      · rw [extractTXAckCode_ack hack (hspare.trans_eq hrest.symm)]
        refine congrArg _ (ackCode_of_noAck (Option.not_isSome_iff_eq_none.mp hnone) ?_)
        rw [List.length_take,hrest,Nat.min_eq_left hspare]
      · exact extractTXAckCode_other hack

/-- A datagram is judged by its own bytes, and without an error member has no
code, exactly when it is no acknowledgement, or the buffer has eleven more bytes
and its text names no acknowledgement, or it has an error member and its text
names the first error of the table. -/
theorem judgedByOwnBytes_iff (own : Bytes) (spare : ℕ) (number : Bytes → ℚ) (tooBig : Bytes → Bool) :
    JudgedByOwnBytes own spare number tooBig ↔
      ¬ IsTxAck own ∨
        11≤ spare ∧ (¬ NamesAck own ∨ NamesFirstError own ∧ HasErrorMember own number tooBig) := by
  rw [JudgedByOwnBytes,sameCode_iff,always_ok_iff]
  constructor
  · rintro ⟨hother|⟨hspare,hcode⟩,hok⟩
    · exact .inl hother
    · by_cases herror : HasErrorMember own number tooBig
      · exact .inr ⟨hspare,hcode.imp_right fun hfirst => ⟨hfirst,herror⟩⟩
      · exact (hok herror).imp_right fun ⟨_,hnone⟩ => ⟨hspare,.inl hnone⟩
  · rintro (hother|⟨hspare,hnone|⟨hfirst,herror⟩⟩)
    · exact ⟨.inl hother,fun _ => .inl hother⟩
    · exact ⟨.inr ⟨hspare,.inl hnone⟩,fun _ => .inr ⟨hspare,hnone⟩⟩
    · exact ⟨.inr ⟨hspare,.inr hfirst⟩,fun hno => absurd herror hno⟩

/-- The acknowledgement of a packet that was sent. -/
def noneAck : Bytes := [2,1,2,5,0,0,0,0,0,0,0,1]++ascii "\x7b\"txpk_ack\":\x7b\"error\":\"NONE\"\x7d\x7d"

/-- What `{"txpk_ack":{"value":1,"error":"TOO_LATE"}}` leaves behind it. -/
def lateLeftovers : Bytes := ascii ":\"TOO_LATE\""

/-- The acknowledgement without an error is judged as too late where the
datagram before was. -/
theorem not_judgedByOwnBytes_noneAck : ¬ JudgedByOwnBytes noneAck 11 (fun _ => 0) fun _ => false := by
  intro hjudged
  obtain ⟨code,hclean,hlate⟩ := hjudged.1 (List.replicate 11 0) lateLeftovers rfl (by decide +kernel)
  have hnone : extractTXAckCode (received noneAck (List.replicate 11 0)) noneAck.length=.ok 0 := by decide +kernel
  have htooLate : extractTXAckCode (received noneAck lateLeftovers) noneAck.length=.ok 1 := by decide +kernel
  rw [hnone,Except.ok.injEq] at hclean
  rw [htooLate,Except.ok.injEq,←hclean] at hlate
  exact Nat.one_ne_zero hlate

end Judgement

end LorawanServer.TxAcknowledgement
