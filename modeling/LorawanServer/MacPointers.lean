import LorawanServer.MacStream
import LorawanServer.PacketQueue

/-!
# Pointers to MAC commands, and the answers

`MacPtr` of `lorawan-mac.cpp` lists pointers into the stream in place of
copies, and `mkResponseMACs` answers the commands behind them. The loop moves
on by the count of the bytes left, not by the size of the command, so it finds
the next command only where both are equal. It is compared with the copying
parser, and the streams on which the two agree are described.
-/

namespace LorawanServer.MacPointers

open CppRuntime Records MacCommands StreamCutting MacStream

/-- `MacPtr`; a pointer is its offset in the text. -/
structure MacPtr where
  /-- The commands. -/
  mac : List ℕ
  /-- Error of the last round. -/
  errorcode : ℤ
  /-- True for a stream sent by the gateway. -/
  clientSide : Bool
  deriving DecidableEq,Repr

/-- The loop of `MacPtr::parse` with its local variables. The pointer moves by
the size that was just made smaller. -/
def parseLoop (clientSide : Bool) (text : Bytes) :
    ℕ → ℕ → ℕ → ℤ → ℕ → List ℕ → Option (Except Fault (ℤ×List ℕ))
  | 0,_,_,_,_,_ => none
  | fuel+1,p,sz,r,m,mac =>
    if sz=0 then some (.ok (r,mac))
    else match if clientSide then parseClientSidePtr text m p sz else parseServerSidePtr text m p sz with
      | .error fault => some (.error fault)
      | .ok parsed =>
        if parsed.1<0 then some (.ok (parsed.1,mac))
        else parseLoop clientSide text fuel (p+(sz-parsed.1.toNat)) (sz-parsed.1.toNat) parsed.1 parsed.2
          (mac++[parsed.2])

/-- `MacPtr::parse` over what the stack holds in place of its variables `r`
and `m`, which nothing initialises. -/
def MacPtr.parse (text : Bytes) (clientSide : Bool) (r : ℤ) (m : ℕ) : Except Fault MacPtr :=
  match (parseLoop clientSide text (text.length+1) 0 text.length r m []).getD (.ok (r,[])) with
  | .error fault => .error fault
  | .ok parsed => .ok ⟨parsed.2,if parsed.1<0 then parsed.1 else 0,clientSide⟩

/-- `SpreadFactorToRequiredSNR`. -/
def SpreadFactorToRequiredSNR : List ℚ :=
  [-5,-5,-5,-5,-5,-5,-5,-15/2,-10,-25/2,-15,-35/2,-20]

/-- `loraMargin`; the conversion to `int` cuts the fraction off. -/
def loraMargin (spreadingFactor : UInt8) (loraSNR : ℚ) : UInt8 :=
  let factor := if 12 ≤ spreadingFactor then 11 else spreadingFactor
  let r := Datagram.truncate (loraSNR-SpreadFactorToRequiredSNR.getD factor.toNat 0+1/2)
  let r := if r<0 then 0 else r
  UInt8.ofNat (if 254<r then 254 else r).toNat

/-- The three bytes of an answer to a link check. -/
def linkCheckAns (packet : SemtechUDPPacket) : Bytes :=
  [MAC_CID.LinkCheck.code,loraMargin 6 (PacketQueue.bestGateway packet).1,UInt8.ofNat packet.metadata.length]

/-- `mkResponseMAC`: only a link check has an answer. -/
def mkResponseMAC (outMacCommand : MAC_COMMAND) (inMacCommand : UInt8) (packet : SemtechUDPPacket) :
    Option MAC_COMMAND :=
  match cidOf inMacCommand with
  | some .LinkCheck => some (overwrite outMacCommand
      [inMacCommand,loraMargin 6 (PacketQueue.bestGateway packet).1,UInt8.ofNat packet.metadata.length])
  | _ => none

/-- `MAC_COMMANDResponse2binary`. -/
def MAC_COMMANDResponse2binary (command : MAC_COMMAND) : Bytes :=
  match cidOf (command.get 0) with
  | some .LinkCheck => command.toList.take MAC_LINK_CHECK_SIZE
  | _ => []

/-- The loop of `mkResponseMACs` over the pointers, with what was written. -/
def respond (text : Bytes) (count : ℕ) (packet : SemtechUDPPacket) (rmac : MAC_COMMAND) :
    List ℕ → Bytes → Except Fault (ℤ×Bytes)
  | [],retval => .ok (count,retval)
  | p::mac,retval => do
    let command ← charAt text p
    match mkResponseMAC rmac command packet with
    | none => respond text count packet rmac mac retval
    | some out =>
      if MAC_COMMANDResponse2binary out=[] then .ok (-1,retval)
      else respond text count packet rmac mac (retval++MAC_COMMANDResponse2binary out)

/-- `mkResponseMACs`: returned count and written answers, over what the stack
holds in place of the answer. -/
def mkResponseMACs (text : Bytes) (ptr : MacPtr) (packet : SemtechUDPPacket) (rmac : MAC_COMMAND) :
    Except Fault (ℤ×Bytes) := respond text ptr.mac.length packet rmac ptr.mac []

/-- What the pointing parser finds where it looks. -/
def fitting (clientSide : Bool) (text : Bytes) (p sz : ℕ) : Option ℕ :=
  match cidOf (text.getD p 0) with
  | none => none
  | some cid => if sz<sideSizes clientSide cid then none else some (sideSizes clientSide cid)

/-- At the front of a stream it finds what the copying parser finds. -/
theorem fitting_append (clientSide : Bool) (front value : Bytes) :
    fitting clientSide (front++value) front.length value.length=firstCommand clientSide value := by
  have hat : (front++value).getD front.length 0=value.getD 0 0 := by
    rw [List.getD_append_right _ _ _ _ le_rfl,Nat.sub_self]
  rw [fitting,hat]
  rfl

/-- A command that fits has a byte and no more than are left. -/
theorem fitting_bounds {clientSide : Bool} {text : Bytes} {p sz n : ℕ}
    (h : fitting clientSide text p sz=some n) : 0<n ∧ n ≤ sz := by
  unfold fitting at h
  split at h
  · cases h
  · next cid _ =>
    split_ifs at h with hlt
    cases h
    exact ⟨(sideSizes_bounds clientSide cid).1,by omega⟩

/-- A round in which nothing fits ends the loop with an error. -/
theorem parseLoop_of_none {clientSide : Bool} {text : Bytes} {p sz : ℕ} (hp : p ≤ text.length) (hsz : 0<sz)
    (h : fitting clientSide text p sz=none) (fuel : ℕ) (r : ℤ) (m : ℕ) (mac : List ℕ) :
    ∃ e,e<0 ∧ parseLoop clientSide text (fuel+1) p sz r m mac=some (.ok (e,mac)) := by
  have hround : ∃ e,e<0 ∧ parsePointer (sideSizes clientSide) text m p sz=.ok (e,m) := by
    rw [parsePointer,if_neg (by omega),charAt,if_neg (by omega)]
    dsimp only [bind,Except.bind]
    cases hcid : cidOf (text.getD p 0) with
    | none => exact ⟨ERR_CODE_MAC_INVALID,by decide,rfl⟩
    | some cid =>
      rw [fitting,hcid] at h
      dsimp only at h
      split_ifs at h with hlt
      exact ⟨ERR_CODE_MAC_TOO_SHORT,by decide,congrArg Except.ok (if_pos hlt)⟩
  obtain ⟨e,he,hround⟩ := hround
  refine ⟨e,he,?_⟩
  rw [parseLoop,if_neg (by omega),parseSidePtr_eq,hround]
  dsimp only
  rw [if_pos he]

/-- A round in which a command fits lists where it looked. -/
theorem parseLoop_of_some {clientSide : Bool} {text : Bytes} {p sz n : ℕ} (hp : p ≤ text.length)
    (h : fitting clientSide text p sz=some n) (fuel : ℕ) (r : ℤ) (m : ℕ) (mac : List ℕ) :
    parseLoop clientSide text (fuel+1) p sz r m mac=
      parseLoop clientSide text fuel (p+(sz-n)) (sz-n) n p (mac++[p]) := by
  have hbounds := fitting_bounds h
  have hround : parsePointer (sideSizes clientSide) text m p sz=.ok ((n : ℤ),p) := by
    rw [parsePointer,if_neg (by omega),charAt,if_neg (by omega)]
    dsimp only [bind,Except.bind]
    cases hcid : cidOf (text.getD p 0) with
    | none =>
      rw [fitting,hcid] at h
      cases h
    | some cid =>
      rw [fitting,hcid] at h
      dsimp only at h
      split_ifs at h with hlt
      cases h
      dsimp only
      rw [ptrMac,if_neg hlt]
  rw [parseLoop,if_neg (by omega),parseSidePtr_eq,hround]
  dsimp only
  rw [if_neg (by omega),Int.toNat_natCast]

/-- The loop only adds to its list. -/
theorem prefix_of_parseLoop {clientSide : Bool} {text : Bytes} {fuel p sz m : ℕ} {r e : ℤ} {mac found : List ℕ}
    (h : parseLoop clientSide text fuel p sz r m mac=some (.ok (e,found))) : mac<+:found := by
  induction fuel generalizing p sz r m mac with
  | zero => cases h
  | succ fuel ih =>
    rw [parseLoop,parseSidePtr_eq] at h
    split_ifs at h with hsz
    · cases h
      exact List.prefix_rfl
    · split at h
      · cases h
      · next parsed _ =>
        split_ifs at h with hneg
        · cases h
          exact List.prefix_rfl
        · exact (List.prefix_append mac [parsed.2]).trans (ih h)

/-- Where the commands of a stream begin. -/
def offsets : ℕ → List Bytes → List ℕ
  | _,[] => []
  | p,c::commands => p::offsets (p+c.length) commands

/-- Each command but the last is as long as all that is behind it. Behind the
last one nothing is left, or nothing fits as far behind its beginning as bytes
are left. -/
def Lands (clientSide : Bool) (text : Bytes) : ℕ → List Bytes → Bytes → Prop
  | _,[],_ => True
  | p,[_],rest => rest=[] ∨ fitting clientSide text (p+rest.length) rest.length=none
  | p,c::next::commands,rest => c.length=((next::commands).flatten++rest).length ∧
      Lands clientSide text (p+c.length) (next::commands) rest

variable {clientSide : Bool}

/-- The first round over a stream of commands. -/
theorem parseLoop_cons {front c behind : Bytes} (hc : IsCommand clientSide c) (fuel : ℕ) (r : ℤ) (m : ℕ)
    (mac : List ℕ) : parseLoop clientSide (front++(c++behind)) (fuel+1) front.length (c++behind).length r m mac=
      parseLoop clientSide (front++(c++behind)) fuel (front.length+behind.length) behind.length c.length
        front.length (mac++[front.length]) := by
  have hfirst : firstCommand clientSide (c++behind)=some c.length := (isCommand_iff.mp hc).first behind
  have hfit := fitting_append clientSide front (c++behind)
  rw [hfirst] at hfit
  rw [parseLoop_of_some (by rw [List.length_append]; omega) hfit,List.length_append,Nat.add_sub_cancel_left]

/-- Where nothing is left or nothing fits the loop ends. It ends with an error
when something is left, and else with what the last round gave. -/
theorem parseLoop_end {text : Bytes} {p sz : ℕ} (hp : p ≤ text.length)
    (h : sz=0 ∨ fitting clientSide text p sz=none) (fuel : ℕ) (r : ℤ) (m : ℕ) (mac : List ℕ) :
    ∃ e,parseLoop clientSide text (fuel+1) p sz r m mac=some (.ok (e,mac)) ∧ (e<0 ↔ sz≠0 ∨ r<0) := by
  by_cases hsz : sz=0
  · refine ⟨r,by rw [parseLoop,if_pos hsz],?_⟩
    rw [or_iff_right (not_not.mpr hsz)]
  · obtain ⟨e,he,hloop⟩ := parseLoop_of_none hp (Nat.pos_of_ne_zero hsz) (h.resolve_left hsz) fuel r m mac
    exact ⟨e,hloop,iff_of_true he (.inl hsz)⟩

/-- A loop that lists nothing more has nothing left, or nothing that fits. -/
theorem fitting_eq_none_of_parseLoop {text : Bytes} {fuel p sz m : ℕ} {r e : ℤ} {mac : List ℕ}
    (hp : p ≤ text.length) (h : parseLoop clientSide text (fuel+1) p sz r m mac=some (.ok (e,mac))) :
    sz=0 ∨ fitting clientSide text p sz=none := by
  by_contra hnot
  rw [not_or] at hnot
  obtain ⟨n,hn⟩ := Option.ne_none_iff_exists'.mp hnot.2
  rw [parseLoop_of_some hp hn] at h
  have hlonger := (prefix_of_parseLoop h).length_le
  rw [List.length_append,List.length_singleton] at hlonger
  omega

/-- The next offset that it lists is the one where it looks. -/
theorem eq_of_parseLoop {text : Bytes} {fuel p sz m q : ℕ} {r e : ℤ} {mac found : List ℕ} (hp : p ≤ text.length)
    (hsz : 0<sz) (h : parseLoop clientSide text (fuel+1) p sz r m mac=some (.ok (e,mac++q::found))) : q=p := by
  cases hfit : fitting clientSide text p sz with
  | none =>
    obtain ⟨failed,-,hloop⟩ := parseLoop_of_none hp hsz hfit fuel r m mac
    rw [hloop] at h
    have hlist := (Prod.mk.inj (Except.ok.inj (Option.some.inj h))).2
    exact absurd (List.append_right_eq_self.mp hlist.symm) (List.cons_ne_nil q found)
  | some n =>
    rw [parseLoop_of_some hp hfit] at h
    have hlisted := (List.prefix_append_right_inj _).mp (prefix_of_parseLoop h)
    exact (List.cons_prefix_cons.mp hlisted).1.symm

/-- Where the loop lands on every command it lists them all, and it ends with
an error when something is left. -/
theorem parseLoop_of_lands {commands : List Bytes} {rest : Bytes} (hc : ∀ c∈commands,IsCommand clientSide c)
    (ht : NoCommand clientSide rest) {front : Bytes} {fuel : ℕ} (hfuel : (commands.flatten++rest).length<fuel)
    (h : Lands clientSide (front++(commands.flatten++rest)) front.length commands rest) (r : ℤ) (m : ℕ)
    (mac : List ℕ) : ∃ e,parseLoop clientSide (front++(commands.flatten++rest)) fuel front.length
      (commands.flatten++rest).length r m mac=some (.ok (e,mac++offsets front.length commands)) ∧
      (e<0 ↔ rest≠[] ∨ commands=[] ∧ r<0) := by
  induction commands generalizing front fuel r m mac with
  | nil =>
    obtain ⟨fuel,rfl⟩ := Nat.exists_eq_succ_of_ne_zero (Nat.ne_zero_of_lt hfuel)
    have hfit := fitting_append clientSide front rest
    rw [show firstCommand clientSide rest=none from noCommand_iff.mp ht] at hfit
    rw [List.flatten_nil,List.nil_append,offsets,List.append_nil]
    obtain ⟨e,hloop,he⟩ := parseLoop_end (by rw [List.length_append]; omega) (.inr hfit) fuel r m mac
    rw [ne_eq,List.length_eq_zero_iff] at he
    exact ⟨e,hloop,by rw [he,and_iff_right rfl]⟩
  | cons c commands ih =>
    rw [List.forall_mem_cons] at hc
    obtain ⟨fuel,rfl⟩ := Nat.exists_eq_succ_of_ne_zero (Nat.ne_zero_of_lt hfuel)
    have hpos : 0<c.length := List.length_pos_of_ne_nil (isCommand_iff.mp hc.1).ne_nil
    rw [List.flatten_cons,List.append_assoc] at h hfuel ⊢
    rw [List.length_append] at hfuel
    rw [parseLoop_cons hc.1]
    cases commands with
    | nil =>
      rw [List.flatten_nil,List.nil_append] at h hfuel ⊢
      obtain ⟨fuel,rfl⟩ := Nat.exists_eq_succ_of_ne_zero (show fuel≠0 by omega)
      rw [Lands,←List.length_eq_zero_iff] at h
      obtain ⟨e,hloop,he⟩ := parseLoop_end (by simp only [List.length_append]; omega) h fuel c.length front.length
        (mac++[front.length])
      refine ⟨e,hloop,?_⟩
      rw [he,ne_eq,List.length_eq_zero_iff,or_iff_left (by omega),or_iff_left fun hnil => List.cons_ne_nil _ _ hnil.1]
    | cons next commands =>
      obtain ⟨hlength,hlands⟩ := h
      rw [←List.append_assoc front,←List.length_append] at hlands
      have hless : ((next::commands).flatten++rest).length<fuel := by omega
      obtain ⟨e,hloop,he⟩ := ih hc.2 hless hlands c.length front.length (mac++[front.length])
      refine ⟨e,?_,?_⟩
      · have hplace : front.length+((next::commands).flatten++rest).length=(front++c).length := by
          rw [←hlength,List.length_append]
        rw [hplace,←List.append_assoc front,hloop,List.append_assoc,List.length_append]
        rfl
      · rw [he]
        simp only [reduceCtorEq,false_and,or_false]

/-- A list of the commands is only found by landing on each of them. -/
theorem lands_of_parseLoop {commands : List Bytes} {rest : Bytes} (hc : ∀ c∈commands,IsCommand clientSide c)
    {front : Bytes} {fuel : ℕ} (hfuel : (commands.flatten++rest).length<fuel) {r : ℤ} {m : ℕ} {mac : List ℕ} {e : ℤ}
    (h : parseLoop clientSide (front++(commands.flatten++rest)) fuel front.length (commands.flatten++rest).length
      r m mac=some (.ok (e,mac++offsets front.length commands))) :
    Lands clientSide (front++(commands.flatten++rest)) front.length commands rest := by
  induction commands generalizing front fuel r m mac with
  | nil => exact trivial
  | cons c commands ih =>
    rw [List.forall_mem_cons] at hc
    obtain ⟨fuel,rfl⟩ := Nat.exists_eq_succ_of_ne_zero (Nat.ne_zero_of_lt hfuel)
    have hpos : 0<c.length := List.length_pos_of_ne_nil (isCommand_iff.mp hc.1).ne_nil
    rw [List.flatten_cons,List.append_assoc] at h hfuel ⊢
    rw [List.length_append] at hfuel
    rw [parseLoop_cons hc.1,offsets,List.append_cons mac front.length (offsets (front.length+c.length) commands)] at h
    obtain ⟨fuel,rfl⟩ := Nat.exists_eq_succ_of_ne_zero (show fuel≠0 by omega)
    have hinside : front.length+(commands.flatten++rest).length ≤ (front++(c++(commands.flatten++rest))).length := by
      simp only [List.length_append]
      omega
    cases commands with
    | nil =>
      rw [List.flatten_nil,List.nil_append] at h hinside ⊢
      rw [offsets,List.append_nil] at h
      rw [Lands,←List.length_eq_zero_iff]
      exact fitting_eq_none_of_parseLoop hinside h
    | cons next commands =>
      have hbehind : 0<((next::commands).flatten++rest).length := by
        have hnext := List.length_pos_of_ne_nil (isCommand_iff.mp (hc.2 next List.mem_cons_self)).ne_nil
        rw [List.flatten_cons,List.append_assoc,List.length_append]
        omega
      -- the second command is listed, so the loop looks where it begins
      have hlength : c.length=((next::commands).flatten++rest).length :=
        Nat.add_left_cancel (eq_of_parseLoop hinside hbehind h)
      have hplace : front.length+((next::commands).flatten++rest).length=(front++c).length := by
        rw [←hlength,List.length_append]
      refine ⟨hlength,?_⟩
      rw [hplace,←List.append_assoc front,←List.length_append] at h
      rw [←List.append_assoc front,←List.length_append]
      exact ih hc.2 (by omega) h

/-- With a round for each byte and one more the loop ends. -/
theorem exists_parseLoop {clientSide : Bool} {text : Bytes} {fuel p sz : ℕ} (h : sz<fuel) (r : ℤ) (m : ℕ)
    (mac : List ℕ) : ∃ result,parseLoop clientSide text fuel p sz r m mac=some result := by
  induction fuel generalizing p sz r m mac with
  | zero => exact absurd h (Nat.not_lt_zero _)
  | succ fuel ih =>
    by_cases hsz : sz=0
    · rw [parseLoop,if_pos hsz]
      exact ⟨_,rfl⟩
    · by_cases hp : p ≤ text.length
      · cases hfit : fitting clientSide text p sz with
        | none =>
          obtain ⟨e,-,hloop⟩ := parseLoop_of_none hp (Nat.pos_of_ne_zero hsz) hfit fuel r m mac
          exact ⟨_,hloop⟩
        | some n =>
          have hbounds := fitting_bounds hfit
          rw [parseLoop_of_some hp hfit]
          exact ih (by omega) _ _ _
      · have hfault : parsePointer (sideSizes clientSide) text m p sz=.error .readOutside := by
          rw [parsePointer,if_neg (by omega),charAt,if_pos (by omega)]
          rfl
        rw [parseLoop,if_neg hsz,parseSidePtr_eq,hfault]
        exact ⟨_,rfl⟩

/-- Offsets of the items of a copied list, one behind the other. -/
def starts (clientSide : Bool) : ℕ → List MacData → List ℕ
  | _,[] => []
  | p,data::list => p::starts clientSide (p+commandSize data.command clientSide) list

/-- The text behind a pointer has the bytes of the item, all of them inside. -/
def PointsAt (clientSide : Bool) (text : Bytes) (p : ℕ) (data : MacData) : Prop :=
  p+commandSize data.command clientSide ≤ text.length ∧
    (text.drop p).take (commandSize data.command clientSide)=
      data.command.toList.take (commandSize data.command clientSide)

/-- The pointing parser does what the copying parser does: the same commands
at the offsets that their sizes give, no error exactly when they are all of the
text, and an answer to each link check and nothing else. -/
def Agrees (text : Bytes) (clientSide : Bool) (r : ℤ) (m : ℕ) : Prop :=
  let list := (MacDataList.ofPayload text clientSide).list
  ∃ ptr,MacPtr.parse text clientSide r m=.ok ptr ∧ ptr.mac=starts clientSide 0 list ∧
    List.Forall₂ (PointsAt clientSide text) ptr.mac list ∧
    (ptr.errorcode=0 ↔ (list.map fun data => commandSize data.command clientSide).sum=text.length) ∧
    ∀ packet rmac,∃ count,mkResponseMACs text ptr packet rmac=.ok (count,
      (list.filter fun data => data.command.get 0=MAC_CID.LinkCheck.code).flatMap fun _ => linkCheckAns packet)

/-- The size of a held command. -/
theorem commandSize_held {c : Bytes} (hc : IsCommand clientSide c) (command : MAC_COMMAND) :
    commandSize (overwrite command c) clientSide=c.length := by
  obtain ⟨cid,params,rfl,hlength⟩ := hc
  rw [commandSize_overwrite] at hlength ⊢
  exact hlength.symm

/-- The held commands begin where the commands do. -/
theorem starts_held {commands : List Bytes} (hc : ∀ c∈commands,IsCommand clientSide c) (data : MacData) (p : ℕ) :
    starts clientSide p (held data commands)=offsets p commands := by
  induction commands generalizing data p with
  | nil => rfl
  | cons c commands ih =>
    rw [List.forall_mem_cons] at hc
    rw [held,starts,commandSize_held hc.1,ih hc.2,offsets]

/-- Their sizes are the length of the commands. -/
theorem sum_held {commands : List Bytes} (hc : ∀ c∈commands,IsCommand clientSide c) (data : MacData) :
    ((held data commands).map fun data => commandSize data.command clientSide).sum=commands.flatten.length := by
  induction commands generalizing data with
  | nil => rfl
  | cons c commands ih =>
    rw [List.forall_mem_cons] at hc
    rw [held,List.map_cons,List.sum_cons,commandSize_held hc.1,ih hc.2,List.flatten_cons,List.length_append]

/-- Behind the offsets of the commands are the held ones. -/
theorem pointsAt_held {commands : List Bytes} (hc : ∀ c∈commands,IsCommand clientSide c) (data : MacData)
    (front rest : Bytes) : List.Forall₂ (PointsAt clientSide (front++(commands.flatten++rest)))
      (offsets front.length commands) (held data commands) := by
  induction commands generalizing data front with
  | nil => exact List.Forall₂.nil
  | cons c commands ih =>
    rw [List.forall_mem_cons] at hc
    rw [List.flatten_cons,List.append_assoc,offsets,held]
    refine List.Forall₂.cons ⟨?_,?_⟩ ?_
    · rw [commandSize_held hc.1]
      simp only [List.length_append]
      omega
    · have hbytes : (overwrite data.command c).toList.take (commandSize (overwrite data.command c) clientSide)=c :=
        holds_overwrite hc.1 data
      rw [List.drop_left,hbytes,commandSize_held hc.1,List.take_left]
    · rw [←List.append_assoc front,←List.length_append]
      exact ih hc.2 _ (front++c)

/-- The bytes of an answer. -/
theorem response_linkCheck (packet : SemtechUDPPacket) (rmac : MAC_COMMAND) :
    ∃ out,mkResponseMAC rmac MAC_CID.LinkCheck.code packet=some out ∧
      MAC_COMMANDResponse2binary out=linkCheckAns packet := by
  refine ⟨_,rfl,?_⟩
  have hfront : (overwrite rmac [MAC_CID.LinkCheck.code,loraMargin 6 (PacketQueue.bestGateway packet).1,
      UInt8.ofNat packet.metadata.length]).get 0=MAC_CID.LinkCheck.code := overwrite_cons_zero rmac _ _
  have hfits : (linkCheckAns packet).length ≤ 6 := Nat.le_add_right 3 3
  rw [MAC_COMMANDResponse2binary,hfront]
  exact overwrite_take rmac hfits

/-- No other command has an answer. -/
theorem mkResponseMAC_of_ne {cid : MAC_CID} (h : cid≠.LinkCheck) (packet : SemtechUDPPacket) (rmac : MAC_COMMAND) :
    mkResponseMAC rmac cid.code packet=none := by
  rw [mkResponseMAC,cidOf_code]
  cases cid <;> first | rfl | exact absurd rfl h

/-- An answer is written for each link check behind the offsets. -/
theorem respond_held {commands : List Bytes} (hc : ∀ c∈commands,IsCommand clientSide c) (data : MacData)
    (front rest : Bytes) (count : ℕ) (packet : SemtechUDPPacket) (rmac : MAC_COMMAND) (retval : Bytes) :
    respond (front++(commands.flatten++rest)) count packet rmac (offsets front.length commands) retval=
      .ok (count,retval++((held data commands).filter fun data =>
        data.command.get 0=MAC_CID.LinkCheck.code).flatMap fun _ => linkCheckAns packet) := by
  induction commands generalizing data front retval with
  | nil =>
    rw [held,List.filter_nil,List.flatMap_nil,List.append_nil]
    rfl
  | cons c commands ih =>
    rw [List.forall_mem_cons] at hc
    obtain ⟨cid,params,rfl,-⟩ := hc.1
    have hchar : charAt (front++(cid.code::params++(commands.flatten++rest))) front.length=.ok cid.code := by
      rw [charAt,if_neg (by rw [List.length_append]; omega),List.getD_append_right _ _ _ _ le_rfl,Nat.sub_self]
      rfl
    have hfront : (overwrite data.command (cid.code::params)).get 0=cid.code :=
      overwrite_cons_zero data.command cid.code params
    have hrest := fun retval => ih hc.2 {data with command := overwrite data.command (cid.code::params)}
      (front++cid.code::params) retval
    rw [List.length_append,List.append_assoc] at hrest
    rw [List.flatten_cons,List.append_assoc,offsets,respond,hchar,held]
    dsimp only [bind,Except.bind]
    by_cases hlink : cid=.LinkCheck
    · subst hlink
      obtain ⟨out,hout,hbinary⟩ := response_linkCheck packet rmac
      have hanswer : linkCheckAns packet≠[] := List.cons_ne_nil _ _
      rw [hout]
      dsimp only
      rw [hbinary,if_neg hanswer,hrest,List.filter_cons_of_pos (by rw [hfront]; decide),
        List.flatMap_cons,List.append_assoc]
    · have hcode : cid.code≠MAC_CID.LinkCheck.code := MAC_CID.code_injective.ne hlink
      rw [mkResponseMAC_of_ne hlink,List.filter_cons_of_neg (by rw [hfront]; simpa using hcode)]
      exact hrest retval

/-- An error is kept, and a size is no error. -/
theorem errorcode_eq_zero_iff (e : ℤ) : (if e<0 then e else 0)=0 ↔ ¬ e<0 := by
  split_ifs with h
  · exact iff_of_false h.ne (not_not.mpr h)
  · exact iff_of_true rfl h

section Agreement

variable {commands : List Bytes} {rest : Bytes} (hc : ∀ c∈commands,IsCommand clientSide c)
  (ht : NoCommand clientSide rest)
  (hlist : (MacDataList.ofPayload (commands.flatten++rest) clientSide).list=held MacData.empty commands)
include hc hlist

/-- The held commands are all of the text exactly when nothing is left. -/
theorem sum_eq_length_iff : ((MacDataList.ofPayload (commands.flatten++rest) clientSide).list.map fun data =>
    commandSize data.command clientSide).sum=(commands.flatten++rest).length ↔ rest=[] := by
  rw [hlist,sum_held hc,List.length_append,←List.length_eq_zero_iff]
  omega

include ht

/-- A parser that agrees lands on every command, and a stream without commands
needs a stack without an error. -/
theorem lands_of_agrees {r : ℤ} {m : ℕ} (h : Agrees (commands.flatten++rest) clientSide r m) :
    (rest=[] → commands=[] → 0 ≤ r) ∧ Lands clientSide (commands.flatten++rest) 0 commands rest := by
  have henough := Nat.lt_succ_self (commands.flatten++rest).length
  obtain ⟨ptr,hparse,hmac,-,herror,-⟩ := h
  obtain ⟨result,hloop⟩ := @exists_parseLoop clientSide (commands.flatten++rest) _ 0 _ henough r m []
  rw [MacPtr.parse,hloop,Option.getD_some] at hparse
  cases result with
  | error fault => cases hparse
  | ok parsed =>
    cases hparse
    rw [hlist,starts_held hc] at hmac
    have hresult : parsed=(parsed.1,[]++offsets 0 commands) := Prod.ext rfl hmac
    rw [hresult] at hloop
    have hlands := @lands_of_parseLoop _ _ _ hc [] _ henough _ _ _ _ hloop
    refine ⟨fun hrest hcommands => ?_,hlands⟩
    obtain ⟨e,hfound,he⟩ := @parseLoop_of_lands _ _ _ hc ht [] _ henough hlands r m []
    have hsame : parsed.1=e := (Prod.mk.inj (Except.ok.inj (Option.some.inj (hloop.symm.trans hfound)))).1
    rw [sum_eq_length_iff hc hlist,errorcode_eq_zero_iff,hsame,he] at herror
    have hnot := herror.mpr hrest
    rw [not_or,not_and,not_lt] at hnot
    exact hnot.2 hcommands

/-- A parser that lands on every command agrees. -/
theorem agrees_of_lands {r : ℤ} {m : ℕ} (hstale : rest=[] → commands=[] → 0 ≤ r)
    (hlands : Lands clientSide (commands.flatten++rest) 0 commands rest) :
    Agrees (commands.flatten++rest) clientSide r m := by
  obtain ⟨e,hloop,he⟩ := @parseLoop_of_lands _ _ _ hc ht [] _ (Nat.lt_succ_self _) hlands r m []
  have hdone : parseLoop clientSide (commands.flatten++rest) ((commands.flatten++rest).length+1) 0
      (commands.flatten++rest).length r m []=some (.ok (e,offsets 0 commands)) := hloop
  refine ⟨⟨offsets 0 commands,if e<0 then e else 0,clientSide⟩,?_,?_,?_,?_,fun packet rmac => ?_⟩
  · rw [MacPtr.parse,hdone]
    rfl
  · rw [hlist,starts_held hc]
  · rw [hlist]
    exact pointsAt_held hc MacData.empty [] rest
  · rw [sum_eq_length_iff hc hlist,errorcode_eq_zero_iff,he,not_or,not_not,not_and,not_lt]
    exact ⟨fun h => h.1,fun h => ⟨h,hstale h⟩⟩
  · rw [hlist]
    exact ⟨_,respond_held hc MacData.empty [] rest _ packet rmac []⟩

end Agreement

/-- The pointing parser agrees with the copying one exactly when it lands on
every command, and on the empty text when the stack holds no error. -/
theorem agrees_iff (text : Bytes) (clientSide : Bool) (r : ℤ) (m : ℕ) : Agrees text clientSide r m ↔
    (text=[] → 0 ≤ r) ∧ Lands clientSide text 0 ((commandCutter clientSide).items text)
      ((commandCutter clientSide).rest text) := by
  have hc : ∀ c∈(commandCutter clientSide).items text,IsCommand clientSide c :=
    fun c h => isCommand_iff.mpr (Cutter.isItem_of_mem h)
  have ht : NoCommand clientSide ((commandCutter clientSide).rest text) := noCommand_iff.mpr (Cutter.first_rest text)
  have hcut := (commandCutter clientSide).flatten_append_rest text
  have hlist := ofPayload_list text clientSide
  generalize (commandCutter clientSide).items text=commands at hc hcut hlist ⊢
  generalize (commandCutter clientSide).rest text=rest at ht hcut ⊢
  have hempty : text=[] ↔ rest=[] ∧ commands=[] := by
    rw [←hcut,List.append_eq_nil_iff,and_comm]
    refine and_congr_right fun _ => ⟨fun h => ?_,fun h => by rw [h]; rfl⟩
    cases commands with
    | nil => rfl
    | cons c commands =>
      exact absurd (List.append_eq_nil_iff.mp h).1 (isCommand_iff.mp (hc c List.mem_cons_self)).ne_nil
  rw [hempty,and_imp]
  subst hcut
  exact ⟨lands_of_agrees hc ht hlist,fun h => agrees_of_lands hc ht hlist h.1 h.2⟩

/-- Behind the status of a device the loop looks for the link check two bytes
too early, and the device gets no answer. -/
theorem not_agrees_devStatus : ¬ Agrees [0x06,0xff,0x0a,0x02] false 0 0 := by
  rintro ⟨ptr,hparse,hmac,-⟩
  have hfound : MacPtr.parse [0x06,0xff,0x0a,0x02] false 0 0=.ok ⟨[0],ERR_CODE_MAC_INVALID,false⟩ := by
    decide +kernel
  rw [hfound] at hparse
  cases hparse
  exact absurd hmac (by decide +kernel)

end LorawanServer.MacPointers
