import LorawanServer.PlanDocument

/-!
# Where the arrays of a document start

An array starts where its counter stands. The counter of one band is what the
bands before it left, unless the defaults of the band come first. What a band
becomes is what it becomes alone exactly when every array stays the same, or is
read at its first place.
-/

namespace LorawanServer.PlanPlaces

open CppRuntime Records ChannelPlan ChannelPlanFile ChannelPlanMoves PlanDocument
open RegionBandsJsonHandler (modifyAt)

section Places

variable {α : Type*} {n : ℕ}

/-- An element of a vector with changes from one place on. -/
theorem getElem_placeFrom (v : Vector α n) (start : ℕ) (fs : List (α → α)) {j : ℕ} (hj : j<n) :
    (placeFrom v start fs)[j]=if start≤j then (fs.getD (j-start) id) v[j] else v[j] := by
  induction fs generalizing v start with
  | nil => rw [placeFrom,List.getD_nil,id,ite_self]
  | cons f rest ih =>
    rw [placeFrom,ih,getElem_modifyAt]
    rcases Nat.lt_trichotomy start j with hlt|heq|hgt
    · have hsub : j-start=(j-(start+1))+1 := by omega
      rw [if_pos (Nat.succ_le_of_lt hlt),if_neg hlt.ne,if_pos hlt.le,hsub,List.getD_cons_succ]
    · have hnext : ¬start+1≤j := by omega
      rw [if_neg hnext,if_pos heq,if_pos heq.le,heq,Nat.sub_self,List.getD_cons_zero]
    · have hnext : ¬start+1≤j := by omega
      rw [if_neg hnext,if_neg hgt.ne',if_neg (Nat.not_le.mpr hgt)]

/-- Changes that leave the default as it is. -/
theorem placeFrom_default {d : α} {fs : List (α → α)} (h : ∀ f∈fs,f d=d) (start : ℕ) :
    placeFrom (Vector.replicate n d) start fs=Vector.replicate n d := by
  ext j hj
  rw [getElem_placeFrom,Vector.getElem_replicate]
  split
  · rw [List.getD_eq_getElem?_getD]
    cases hf : fs[j-start]? with
    | none => rfl
    | some f => exact h f (List.mem_of_getElem? hf)
  · rfl

/-- Changes of defaults that have a place are the same from the first place on
exactly when they start there, or change nothing. -/
theorem placeFrom_eq_iff {d : α} {start : ℕ} {fs : List (α → α)}
    (hfit : ∀ i f,fs[i]?=some f → f d≠d → start+i<n) :
    placeFrom (Vector.replicate n d) start fs=placeFrom (Vector.replicate n d) 0 fs ↔ start=0 ∨ ∀ f∈fs,f d=d := by
  constructor
  · intro h
    by_contra hmoved
    obtain ⟨hstart,hchange⟩ := not_or.mp hmoved
    have hall : ∀ (i : ℕ) (f : α → α),fs[i]?=some f → f d=d := by
      intro i
      -- the place that the item would have from the first one on holds an earlier item
      induction i using Nat.strong_induction_on with
      | _ i ih =>
        intro f hf
        by_contra hne
        have hi : i<n := by
          have hplace := hfit i f hf hne
          omega
        have hsame := congrArg (fun v : Vector α n => v[i]) h
        rw [getElem_placeFrom,getElem_placeFrom,Vector.getElem_replicate,if_pos (Nat.zero_le i),Nat.sub_zero,
          List.getD_eq_getElem?_getD,List.getD_eq_getElem?_getD,hf] at hsame
        split at hsame
        · cases hg : fs[i-start]? with
          | none =>
            rw [hg] at hsame
            exact hne hsame.symm
          | some g =>
            rw [hg] at hsame
            exact hne (hsame.symm.trans (ih (i-start) (by omega) g hg))
        · exact hne hsame.symm
    refine hchange fun f hf => ?_
    obtain ⟨i,hi⟩ := List.mem_iff_getElem?.mp hf
    exact hall i f hi
  · intro h
    rcases h with rfl|hall
    · rfl
    · rw [placeFrom_default hall,placeFrom_default hall]

end Places

/-- The two plans have the same array of the name. -/
def SameAt (key : Key) (b b' : RegionalParameterChannelPlan) : Prop :=
  match key with
  | .dataRates => b.dataRates=b'.dataRates
  | .maxPayloadSizePerDataRate => b.maxPayloadSizePerDataRate=b'.maxPayloadSizePerDataRate
  | .maxPayloadSizePerDataRateRepeater => b.maxPayloadSizePerDataRateRepeater=b'.maxPayloadSizePerDataRateRepeater
  | .rx1DataRateOffsets => b.rx1DataRateOffsets=b'.rx1DataRateOffsets
  | _ => True

/-- Every plan has its own arrays. -/
theorem SameAt.refl (key : Key) (b : RegionalParameterChannelPlan) : SameAt key b b := by
  cases key <;> trivial

/-- From one plan to another and on. -/
theorem SameAt.trans {key : Key} {b b' b'' : RegionalParameterChannelPlan} (h : SameAt key b b')
    (h' : SameAt key b' b'') : SameAt key b b'' := by
  cases key <;> first | trivial | exact Eq.trans h h'

/-- And back. -/
theorem SameAt.symm {key : Key} {b b' : RegionalParameterChannelPlan} (h : SameAt key b b') : SameAt key b' b := by
  cases key <;> first | trivial | exact Eq.symm h

section Members

variable {m : BandMember} {key : Key} {start : ℕ} {b b' : RegionalParameterChannelPlan}

/-- A member leaves the arrays of other names. -/
theorem write_other (hkey : m.key≠ key) : SameAt key (m.write start b) b := by
  cases m with
  | scalar m => cases key <;> first | trivial | (cases m <;> rfl)
  | _ => cases key <;> trivial

/-- What a member makes of its array is a matter of the array. -/
theorem write_congr (h : SameAt m.key b b') : SameAt m.key (m.write start b) (m.write start b') := by
  cases m with
  | scalar m => cases m <;> trivial
  | bandDefaults o => trivial
  | uplinkChannels items => trivial
  | downlinkChannels items => trivial
  | txPowerOffsets items => trivial
  | dataRates items => exact congrArg (fun v => placeFrom v start (items.map Object.write)) h
  | maxPayloadSizePerDataRate items => exact congrArg (fun v => placeFrom v start (items.map Object.write)) h
  | maxPayloadSizePerDataRateRepeater items => exact congrArg (fun v => placeFrom v start (items.map Object.write)) h
  | rx1DataRateOffsets items =>
    exact congrArg (fun v => placeFrom v start
      (items.map fun list old => old++list.map fun n => UInt8.ofInt n.value)) h

/-- Objects that write nothing new. -/
theorem forall_write_iff {μ α : Type} [Member μ α] {items : List (Object μ)} {d : α} :
    (∀ f∈items.map Object.write,f d=d) ↔ ∀ o∈items,o.write d=d := List.forall_mem_map

/-- An object that changes something is written. -/
theorem within_objects {μ α : Type} [Member μ α] {size start : ℕ} {items : List (Object μ)} {d : α}
    (h : BandMember.Within size start items fun o => o.members≠[]) :
    ∀ i f,(items.map Object.write)[i]?=some f → f d≠d → start+i< size := by
  intro i f hf hne
  rw [List.getElem?_map,Option.map_eq_some_iff] at hf
  obtain ⟨o,ho,rfl⟩ := hf
  refine h i o ho fun hnil => hne ?_
  rw [Object.write,hnil,List.foldl_nil]

/-- An array with a place for every item is the same from its first place on
exactly when it stays. -/
theorem write_start_iff (hfit : m.Fits start) :
    SameAt m.key (m.write start .new) (m.write 0 .new) ↔ m.Stays start := by
  cases m with
  | scalar m => cases m <;> exact Iff.rfl
  | bandDefaults o => exact Iff.rfl
  | uplinkChannels items => exact Iff.rfl
  | downlinkChannels items => exact Iff.rfl
  | txPowerOffsets items => exact Iff.rfl
  | dataRates items =>
    exact (placeFrom_eq_iff (within_objects hfit)).trans (or_congr Iff.rfl forall_write_iff)
  | maxPayloadSizePerDataRate items =>
    exact (placeFrom_eq_iff (within_objects hfit)).trans (or_congr Iff.rfl forall_write_iff)
  | maxPayloadSizePerDataRateRepeater items =>
    exact (placeFrom_eq_iff (within_objects hfit)).trans (or_congr Iff.rfl forall_write_iff)
  | rx1DataRateOffsets items =>
    refine (placeFrom_eq_iff ?_).trans (or_congr Iff.rfl ?_)
    · intro i f hf hne
      rw [List.getElem?_map,Option.map_eq_some_iff] at hf
      obtain ⟨list,hlist,rfl⟩ := hf
      refine hfit i list hlist fun hnil => hne ?_
      rw [hnil]
      rfl
    · rw [List.forall_mem_map]
      refine forall₂_congr fun list _ => ?_
      dsimp only
      rw [List.nil_append,List.map_eq_nil_iff]

/-- A member that stays writes what it writes from its first place on. -/
theorem write_of_stays (h : m.Stays start) (hb : SameAt m.key b .new) : m.write start b=m.write 0 b := by
  have hobjects : ∀ {μ α : Type} [Member μ α] {n : ℕ} (items : List (Object μ)) (d : α),
      (start=0 ∨ ∀ o∈items,o.write d=d) → placeFrom (Vector.replicate n d) start (items.map Object.write)=
        placeFrom (Vector.replicate n d) 0 (items.map Object.write) := by
    intro μ α _ n items d hstay
    rcases hstay with rfl|hall
    · rfl
    · rw [placeFrom_default (forall_write_iff.mpr hall),placeFrom_default (forall_write_iff.mpr hall)]
  cases m with
  | scalar m => rfl
  | bandDefaults o => rfl
  | uplinkChannels items => rfl
  | downlinkChannels items => rfl
  | txPowerOffsets items => rfl
  | dataRates items =>
    have hv : b.dataRates=Vector.replicate _ .new := hb
    rw [BandMember.write,BandMember.write,hv,hobjects items .new h]
  | maxPayloadSizePerDataRate items =>
    have hv : b.maxPayloadSizePerDataRate=Vector.replicate _ .new := hb
    rw [BandMember.write,BandMember.write,hv,hobjects items .new h]
  | maxPayloadSizePerDataRateRepeater items =>
    have hv : b.maxPayloadSizePerDataRateRepeater=Vector.replicate _ .new := hb
    rw [BandMember.write,BandMember.write,hv,hobjects items .new h]
  | rx1DataRateOffsets items =>
    have hv : b.rx1DataRateOffsets=Vector.replicate _ [] := hb
    rcases h with rfl|hall
    · rfl
    · have hnothing : ∀ f∈items.map fun list (old : List UInt8) => old++list.map fun n => UInt8.ofInt n.value,
          f []=[] := by
        rw [List.forall_mem_map]
        intro list hlist
        rw [hall list hlist]
        rfl
      rw [BandMember.write,BandMember.write,hv,placeFrom_default hnothing,placeFrom_default hnothing]

/-- An earlier start leaves as much room. -/
theorem fits_of_le {first : ℕ} (h : m.Fits start) (hle : first≤ start) : m.Fits first := by
  have hwithin : ∀ {ι : Type} {size : ℕ} {items : List ι} {isWritten : ι → Prop},
      BandMember.Within size start items isWritten → BandMember.Within size first items isWritten :=
    fun hw i item hi hwritten => (Nat.add_le_add_right hle i).trans_lt (hw i item hi hwritten)
  cases m with
  | dataRates items => exact hwithin h
  | maxPayloadSizePerDataRate items => exact hwithin h
  | maxPayloadSizePerDataRateRepeater items => exact hwithin h
  | rx1DataRateOffsets items => exact hwithin h
  | txPowerOffsets items => exact hwithin h
  | _ => trivial

/-- What stays at a place stays at an earlier one. -/
theorem stays_of_le {first : ℕ} (h : m.Stays start) (hle : first≤ start) : m.Stays first := by
  have hzero : start=0 → first=0 := fun hs => Nat.le_zero.mp (hs ▸ hle)
  cases m with
  | dataRates items => exact Or.imp_left hzero h
  | maxPayloadSizePerDataRate items => exact Or.imp_left hzero h
  | maxPayloadSizePerDataRateRepeater items => exact Or.imp_left hzero h
  | rx1DataRateOffsets items => exact Or.imp_left hzero h
  | _ => trivial

/-- A sized array fits from its first place on. -/
theorem fits_zero (h : m.IsSized) : m.Fits 0 := by
  have hwithin : ∀ {ι : Type} {size : ℕ} {items : List ι} {isWritten : ι → Prop},
      items.length≤ size → BandMember.Within size 0 items isWritten := by
    intro ι size items isWritten hlength i item hi _
    have hlt := (List.getElem?_eq_some_iff.mp hi).1
    omega
  cases m with
  | dataRates items => exact hwithin h
  | maxPayloadSizePerDataRate items => exact hwithin h
  | maxPayloadSizePerDataRateRepeater items => exact hwithin h
  | rx1DataRateOffsets items => exact hwithin h
  | txPowerOffsets items => exact hwithin h
  | _ => trivial

/-- Nothing moves from the first place. -/
theorem stays_zero : m.Stays 0 := by
  cases m with
  | dataRates items => exact .inl rfl
  | maxPayloadSizePerDataRate items => exact .inl rfl
  | maxPayloadSizePerDataRateRepeater items => exact .inl rfl
  | rx1DataRateOffsets items => exact .inl rfl
  | _ => trivial

end Members

/-- The counters of the handler by the names of their arrays. -/
abbrev Counters := Key → ℕ

/-- The counters behind a member: the defaults clear them all. -/
def counted (m : BandMember) (c : Counters) : Counters :=
  if m.key=.bandDefaults then fun _ => 0 else Function.update c m.key (c m.key+m.count)

/-- The counters behind some members. -/
def final (c : Counters) (members : List BandMember) : Counters := members.foldl (fun c m => counted m c) c

/-- What some members write, each from where its counter stands. -/
def written (c : Counters) : List BandMember → RegionalParameterChannelPlan → RegionalParameterChannelPlan
  | [],b => b
  | m::rest,b => written (counted m c) rest (m.write (c m.key) b)

/-- Every array has a place for its items. -/
def AllFit (c : Counters) : List BandMember → Prop
  | [] => True
  | m::rest => m.Fits (c m.key) ∧ AllFit (counted m c) rest

/-- A band that is read by itself. -/
def fresh (members : List BandMember) : RegionalParameterChannelPlan :=
  members.foldl (fun b m => m.write 0 b) .new

section Runs

variable {c : Counters} {members : List BandMember} {b : RegionalParameterChannelPlan}

/-- A member moves no counter of another name ahead. -/
theorem counted_le {m : BandMember} {key : Key} (hkey : m.key≠ key) : counted m c key≤c key := by
  rw [counted]
  split
  · exact Nat.zero_le _
  · rw [Function.update_of_ne hkey.symm]

/-- Members that all fit where their counters stand. -/
theorem allFit_of_fits (hd : (members.map BandMember.key).Nodup) (h : ∀ m∈members,m.Fits (c m.key)) :
    AllFit c members := by
  induction members generalizing c with
  | nil => trivial
  | cons m rest ih =>
    rw [List.map_cons,List.nodup_cons] at hd
    refine ⟨h m List.mem_cons_self,ih hd.2 fun m' hm' => ?_⟩
    have hkey : m.key≠m'.key := fun heq => hd.1 (heq ▸ List.mem_map_of_mem hm')
    exact fits_of_le (h m' (List.mem_cons_of_mem m hm')) (counted_le hkey)

/-- Members that all stay write what they write by themselves. -/
theorem written_of_stays (hd : (members.map BandMember.key).Nodup) (h : ∀ m∈members,m.Stays (c m.key))
    (hb : ∀ m∈members,SameAt m.key b .new) : written c members b=members.foldl (fun b m => m.write 0 b) b := by
  induction members generalizing c b with
  | nil => rfl
  | cons m rest ih =>
    rw [List.map_cons,List.nodup_cons] at hd
    have hkey : ∀ m'∈rest,m.key≠m'.key := fun m' hm' heq => hd.1 (heq ▸ List.mem_map_of_mem hm')
    have hm : m∈m::rest := List.mem_cons_self
    rw [written,List.foldl_cons,write_of_stays (h m hm) (hb m hm)]
    refine ih hd.2 (fun m' hm' => ?_) fun m' hm' => ?_
    · exact stays_of_le (h m' (List.mem_cons_of_mem m hm')) (counted_le (hkey m' hm'))
    · exact (write_other (hkey m' hm')).trans (hb m' (List.mem_cons_of_mem m hm'))

/-- Members of other names leave an array. -/
theorem written_other {key : Key} (h : ∀ m∈members,m.key≠ key) : SameAt key (written c members b) b := by
  induction members generalizing c b with
  | nil => exact SameAt.refl key b
  | cons m rest ih =>
    rw [List.forall_mem_cons] at h
    exact (ih h.2).trans (write_other h.1)

/-- An array in front of which there are no defaults is what its member makes of
it from where the counter stood. -/
theorem written_at {m : BandMember} {before behind : List BandMember}
    (hd : ((before++m::behind).map BandMember.key).Nodup) (hb : SameAt m.key b .new)
    (hplain : ∀ m'∈before,m'.key≠.bandDefaults) :
    SameAt m.key (written c (before++m::behind) b) (m.write (c m.key) .new) ∧
      (AllFit c (before++m::behind) → m.Fits (c m.key)) := by
  induction before generalizing c b with
  | nil =>
    rw [List.nil_append,List.map_cons,List.nodup_cons] at hd
    have hother : ∀ m'∈behind,m'.key≠m.key := fun m' hm' heq => hd.1 (heq ▸ List.mem_map_of_mem hm')
    exact ⟨(written_other hother).trans (write_congr hb),And.left⟩
  | cons first before ih =>
    rw [List.cons_append,List.map_cons,List.nodup_cons] at hd
    have hmem : m∈before++m::behind := List.mem_append_right before List.mem_cons_self
    have hne : first.key≠m.key := fun heq => hd.1 (heq ▸ List.mem_map_of_mem hmem)
    rw [List.forall_mem_cons] at hplain
    have hcount : counted first c m.key=c m.key := by
      rw [counted,if_neg hplain.1,Function.update_of_ne hne.symm]
    obtain ⟨hsame,hfit⟩ := @ih (counted first c) (first.write (c first.key) b) hd.2
      ((write_other hne).trans hb) hplain.2
    rw [hcount] at hsame hfit
    exact ⟨hsame,fun h => hfit h.2⟩

/-- What a member counts is counted once, by its counter or by the members from
it on. -/
theorem counted_add {m : BandMember} {rest : List BandMember} (key : Key) (h : m.key≠.bandDefaults) :
    counted m c key+((rest.filter fun m => m.key= key).map BandMember.count).sum=
      c key+(((m::rest).filter fun m => m.key= key).map BandMember.count).sum := by
  rw [counted,if_neg h,List.filter_cons]
  by_cases hkey : m.key= key
  · subst hkey
    rw [if_pos (decide_eq_true rfl),List.map_cons,List.sum_cons,Function.update_self,add_assoc]
  · rw [if_neg (by simpa using hkey),Function.update_of_ne (Ne.symm hkey)]

/-- The counters behind members without defaults. -/
theorem final_plain (key : Key) (h : ∀ m∈members,m.key≠.bandDefaults) :
    final c members key=c key+((members.filter fun m => m.key= key).map BandMember.count).sum := by
  induction members generalizing c with
  | nil => rfl
  | cons m rest ih =>
    rw [List.forall_mem_cons] at h
    have hrest : final c (m::rest)=final (counted m c) rest := rfl
    rw [hrest,ih h.2,counted_add key h.1]

/-- The counters behind any members. -/
theorem final_le (key : Key) :
    final c members key≤(if .bandDefaults∈members.map BandMember.key then 0 else c key)+
      ((members.filter fun m => m.key= key).map BandMember.count).sum := by
  induction members generalizing c with
  | nil => exact le_rfl
  | cons m rest ih =>
    have hrest : final c (m::rest)=final (counted m c) rest := rfl
    have hle := @ih (counted m c)
    have hcount : ((rest.filter fun m => m.key= key).map BandMember.count).sum≤
        (((m::rest).filter fun m => m.key= key).map BandMember.count).sum := by
      rw [List.filter_cons]
      split
      · rw [List.map_cons,List.sum_cons]
        exact Nat.le_add_left _ _
      · exact le_rfl
    rw [hrest,List.map_cons]
    by_cases hdefaults : m.key=.bandDefaults
    · rw [if_pos (by rw [hdefaults]; exact List.mem_cons_self)]
      rw [counted,if_pos hdefaults,ite_self] at hle
      rw [counted,if_pos hdefaults]
      omega
    · have hiff : .bandDefaults∈m.key::rest.map BandMember.key ↔ .bandDefaults∈rest.map BandMember.key := by
        rw [List.mem_cons,or_iff_right (Ne.symm hdefaults)]
      simp only [hiff]
      by_cases hlater : .bandDefaults∈rest.map BandMember.key
      · rw [if_pos hlater] at hle ⊢
        omega
      · rw [if_neg hlater] at hle ⊢
        rwa [counted_add key hdefaults] at hle

end Runs

/-- What a band leaves of a counter at most, whatever the order of its members. -/
def carry (c : Counters) (band : Band) : Counters :=
  fun key => (if band.HasDefaults then 0 else c key)+band.count key

/-- What some bands leave of a counter at most. -/
def carried (before : List Band) : Counters := before.foldl carry fun _ => 0

/-- The plans of some bands, each from where the counters stand. -/
def plansFrom (c : Counters) : List Band → List RegionalParameterChannelPlan
  | [] => []
  | band::rest => written c band.members .new::plansFrom (final c band.members) rest

/-- Every array of every band has a place for its items. -/
def BandsFit (c : Counters) : List Band → Prop
  | [] => True
  | band::rest => AllFit c band.members ∧ BandsFit (final c band.members) rest

/-- More is left behind a band when more was left before. -/
theorem carry_mono {c c' : Counters} (h : ∀ key,c key≤c' key) (band : Band) (key : Key) :
    carry c band key≤carry c' band key := by
  rw [carry,carry]
  split
  · exact le_rfl
  · exact Nat.add_le_add_right (h key) _

/-- No order leaves more. -/
theorem final_le_carry (c : Counters) (band : Band) (key : Key) : final c band.members key≤carry c band key := final_le key

/-- Nothing but the members that stay, wherever a band before them left the
counters. -/
def Moveless (c : Counters) (band : Band) : Prop := ∀ m∈band.members,m.Fits (c m.key) ∧ m.Stays (c m.key)

/-- Bands that stay are what they are alone. -/
theorem plansFrom_fresh {c c' : Counters} {bands : List Band} (hle : ∀ key,c key≤c' key)
    (h : ∀ before band behind,bands=before++band::behind → Moveless (before.foldl carry c') band) :
    BandsFit c bands ∧ plansFrom c bands=bands.map fun band => fresh band.members := by
  induction bands generalizing c c' with
  | nil => exact ⟨trivial,rfl⟩
  | cons band rest ih =>
    have hhere := h [] band rest rfl
    have hfits : ∀ m∈band.members,m.Fits (c m.key) := fun m hm => fits_of_le (hhere m hm).1 (hle m.key)
    have hstays : ∀ m∈band.members,m.Stays (c m.key) := fun m hm => stays_of_le (hhere m hm).2 (hle m.key)
    have hnext : ∀ key,final c band.members key≤carry c' band key :=
      fun key => (final_le_carry c band key).trans (carry_mono hle band key)
    obtain ⟨hrest,hplans⟩ := ih hnext fun before other behind hsplit =>
      h (band::before) other behind (by rw [hsplit,List.cons_append])
    refine ⟨⟨allFit_of_fits band.distinct hfits,hrest⟩,?_⟩
    rw [plansFrom,hplans,List.map_cons,written_of_stays band.distinct hstays fun m _ => SameAt.refl m.key .new]
    rfl

/-- Nothing was counted before the first band. -/
theorem fresh_eq (band : Band) : written (fun _ => 0) band.members .new=fresh band.members :=
  written_of_stays band.distinct (fun _ _ => stays_zero) fun m _ => SameAt.refl m.key .new

/-- A band that comes first fits. -/
theorem allFit_first (band : Band) : AllFit (fun _ => 0) band.members :=
  allFit_of_fits band.distinct fun m hm => fits_zero (band.sized m hm)

end LorawanServer.PlanPlaces
