import LorawanServer.ChannelPlanIndex
import LorawanServer.PlanDocumentMoves

/-!
# The order of members in a file of channel plans

A band is read from the counters that the bands before it left, until its
defaults come. What they leave depends on where their own defaults stand. A
document means the same in any order of members exactly when no downlink channel
has a flag and no array is moved by what can be left of its counter.
-/

namespace LorawanServer.PlanOrder

open CppRuntime Records JsonEvents ChannelPlan ChannelPlanFile ChannelPlanMoves ChannelPlanArrays
open PlanDocument PlanPlaces PlanDocumentMoves
open RegionBandsJsonHandler (step)

/-- What becomes of a document. -/
inductive Outcome where
  /-- Undefined behaviour. -/
  | undefined
  /-- The document is refused. -/
  | refused
  /-- It is loaded, with its plans. -/
  | loaded (bands : List RegionalParameterChannelPlan)
  deriving DecidableEq

/-- The handler of a load. -/
def start (s : RegionalParameterChannelPlanFileJson) : RegionBandsJsonHandler :=
  .new s.clear.storage s.clear.errDescription

/-- What a run of the handler ends in. -/
def conclude : Option RegionBandsJsonHandler×Bool → Outcome
  | (none,_) => .undefined
  | (some h,true) => .loaded h.storage.bands
  | (some _,false) => .refused

/-- What becomes of the calls for a document when an object is cleared and loads
it. -/
def outcome (s : RegionalParameterChannelPlanFileJson) (events : List Event) : Outcome :=
  conclude (deliver step (some (start s)) events)

/-- What becomes of documents that are put together. -/
def together : List Outcome → Outcome
  | [] => .loaded []
  | .loaded bands::rest =>
    match together rest with
    | .loaded more => .loaded (bands++more)
    | other => other
  | other::_ => other

/-- A document with one of the bands only. -/
def only (d : Document) (band : Band) : Document := {d with bands := [band]}

/-- The document means the same in any order of members. -/
structure MeansTheSame (s : RegionalParameterChannelPlanFileJson) (d : Document) : Prop where
  /-- No order is undefined. -/
  defined : ∀ d',d.Reordered d' → outcome s d'.events≠.undefined
  /-- All orders are loaded or none, with the same plans. -/
  order : ∀ d',d.Reordered d' → outcome s d'.events=outcome s d.events
  /-- No band depends on the counters left by the bands before it. -/
  apart : ∀ d',d.Reordered d' → outcome s d'.events=together (d'.bands.map fun band => outcome s (only d' band).events)

/-- No downlink channel has a flag, and no array is moved by what the bands
before it can leave of its counter. -/
structure OrderFree (d : Document) : Prop where
  /-- No flag. -/
  flagless : ∀ band∈d.bands,∀ m∈band.members,m.IsFlagless
  /-- Nothing moves. -/
  moveless : ∀ before band behind,d.bands=before++band::behind → Moveless (carried before) band

section Loading

variable {platform : Platform} {s : RegionalParameterChannelPlanFileJson} {text : Bytes} {events : List Event}

/-- The indexes leave the plans. -/
theorem buildIndex_storage (s : RegionalParameterChannelPlanFileJson) :
    s.buildIndex.1.storage=s.storage ∧
      s.buildIndex.2=if s.storage.bands=[] then ERR_CODE_INIT_REGION_NO_DEFAULT else LORA_OK := by
  obtain ⟨hstorage,-⟩ := ChannelPlanIndex.foldl_addIndex_keeps s.storage.bands.zipIdx
    {s with nameIndex := ∅,idIndex := ∅,defaultRegionBand := none}
  rw [RegionalParameterChannelPlanFileJson.buildIndex]
  generalize s.storage.bands.zipIdx.foldl RegionalParameterChannelPlanFileJson.addIndex
    {s with nameIndex := ∅,idIndex := ∅,defaultRegionBand := none}=filled at hstorage ⊢
  dsimp only at hstorage ⊢
  rw [← hstorage]
  split
  · exact ⟨rfl,rfl⟩
  · exact ⟨rfl,rfl⟩

/-- What the reader of a text makes of its calls. -/
theorem parse_deliver (ht : readEvents platform.tooBig text=(events,true)) :
    parse platform.tooBig step (some (start s)) text=deliver step (some (start s)) events := by
  rw [parse,ht]
  dsimp only
  rw [Bool.and_true]

/-- A text with undefined calls. -/
theorem load_of_undefined (ht : readEvents platform.tooBig text=(events,true)) (h : outcome s events=.undefined) :
    RegionalParameterChannelPlanFileJson.load platform s (some text)=none := by
  have hparse := @parse_deliver platform s text events ht
  rw [outcome] at h
  generalize hdeliver : deliver step (some (start s)) events=out at h
  rw [conclude.eq_def] at h
  split at h
  · next go =>
    rw [hdeliver,start] at hparse
    simp only [RegionalParameterChannelPlanFileJson.load,RegionalParameterChannelPlanFileJson.loadFile,hparse]
    rfl
  · cases h
  · cases h

/-- A text whose calls are refused. -/
theorem load_of_refused (ht : readEvents platform.tooBig text=(events,true)) (h : outcome s events=.refused) :
    ∃ next,RegionalParameterChannelPlanFileJson.load platform s (some text)=some (next,ERR_CODE_INVALID_JSON) := by
  have hparse := @parse_deliver platform s text events ht
  rw [outcome] at h
  generalize hdeliver : deliver step (some (start s)) events=out at h
  rw [conclude.eq_def] at h
  split at h
  · cases h
  · cases h
  · next handler =>
    rw [hdeliver,start] at hparse
    simp only [RegionalParameterChannelPlanFileJson.load,RegionalParameterChannelPlanFileJson.loadFile,hparse]
    exact ⟨_,rfl⟩

/-- A text whose calls are taken. -/
theorem load_of_loaded {bands : List RegionalParameterChannelPlan}
    (ht : readEvents platform.tooBig text=(events,true)) (h : outcome s events=.loaded bands) :
    ∃ next,next.storage.bands=bands ∧ RegionalParameterChannelPlanFileJson.load platform s (some text)=
      some (next,if bands=[] then ERR_CODE_INIT_REGION_NO_DEFAULT else LORA_OK) := by
  have hparse := @parse_deliver platform s text events ht
  rw [outcome] at h
  generalize hdeliver : deliver step (some (start s)) events=out at h
  rw [conclude.eq_def] at h
  split at h
  · cases h
  · next handler =>
    obtain rfl := Outcome.loaded.inj h
    rw [hdeliver,start] at hparse
    obtain ⟨hstorage,hcode⟩ := buildIndex_storage {s.clear with storage := handler.storage,errCode := 0,errDescription := []}
    refine ⟨_,congrArg RegionBands.bands hstorage,?_⟩
    simp only [RegionalParameterChannelPlanFileJson.load,RegionalParameterChannelPlanFileJson.loadFile,hparse]
    exact congrArg some (Prod.ext rfl hcode)
  · cases h

end Loading

section Whole

variable {s : RegionalParameterChannelPlanFileJson} {h : RegionBandsJsonHandler} {version : LorawanVersion}
  {bands : List RegionalParameterChannelPlan}

/-- The calls in front of the bands. -/
def opening (d : Document) : List Event :=
  .startObject::(Document.versionEvents d.leading++[.key (ascii (nameOf .regionBands)),.startArray])

/-- The calls behind them. -/
def closing (d : Document) : List Event := .endArray::(Document.versionEvents d.trailing++[.endObject])

/-- The calls for a document. -/
theorem document_events (d : Document) : d.events=opening d++((d.bands.map Band.events).flatten++closing d) := by
  simp only [Document.events,opening,closing,BandMember.arrayEvents,List.cons_append,List.append_assoc,List.nil_append]

/-- The version of a document. -/
theorem moves_version (text : Option Bytes) :
    ∃ version',Moves {h with state := .root,storage := ⟨version,bands⟩} (Document.versionEvents text)
      {h with state := .root,storage := ⟨version',bands⟩} := by
  cases text with
  | none => exact ⟨version,.refl⟩
  | some text =>
    exact ⟨string2REGIONAL_PARAMETERS_VERSION text,
      Moves.scalar .regionalParametersVersion (@names_nameOf .regionalParametersVersion (by decide)) rfl⟩

/-- The front of a document. -/
theorem moves_opening (s : RegionalParameterChannelPlanFileJson) (d : Document) :
    ∃ version,Moves (start s) (opening d) (outer (start s) version []) := by
  obtain ⟨version,hversion⟩ := @moves_version (start s) s.storage.regionalParametersVersion [] d.leading
  have hroot : Moves (start s) [.startObject]
      {start s with state := .root,storage := ⟨s.storage.regionalParametersVersion,[]⟩} := Moves.single fun _ => rfl
  have hbands : Moves {start s with state := .root,storage := ⟨version,[]⟩}
      [.key (ascii (nameOf .regionBands)),.startArray] (outer (start s) version []) :=
    Moves.scalar .regionBands (@names_nameOf .regionBands (by decide)) rfl
  exact ⟨version,hroot.trans (hversion.trans hbands)⟩

/-- The end of a document. -/
theorem moves_closing (d : Document) :
    ∃ last,last.storage.bands=bands ∧ Moves (outer h version bands) (closing d) last := by
  obtain ⟨version',hversion⟩ := @moves_version h version bands d.trailing
  have harray : Moves (outer h version bands) [.endArray] {h with state := .root,storage := ⟨version,bands⟩} :=
    Moves.single fun _ => rfl
  have hobject : Moves {h with state := .root,storage := ⟨version',bands⟩} [.endObject]
      {h with state := .none,storage := ⟨version',bands⟩} := Moves.single fun _ => rfl
  exact ⟨_,rfl,harray.trans (hversion.trans hobject)⟩

/-- Nothing is counted at the start. -/
theorem countersOf_start (s : RegionalParameterChannelPlanFileJson) : countersOf (start s)=fun _ => 0 := by
  funext key
  cases key <;> rfl

/-- A document without flags is loaded, its arrays from where their counters
stand. -/
theorem outcome_loaded {d : Document} (hflags : ∀ band∈d.bands,∀ m∈band.members,m.IsFlagless)
    (hfit : BandsFit (fun _ => 0) d.bands) : outcome s d.events=.loaded (plansFrom (fun _ => 0) d.bands) := by
  have hcounters := countersOf_start s
  obtain ⟨version,hopening⟩ := moves_opening s d
  obtain ⟨h',hbands⟩ := @moves_bands (start s) version [] d.bands hflags (hcounters ▸ hfit)
  obtain ⟨last,hlast,hclosing⟩ := @moves_closing h' version _ d
  obtain ⟨key,hdeliver⟩ := (hopening.trans (hbands.trans hclosing)) .none
  rw [← document_events] at hdeliver
  have hresult : outcome s d.events=.loaded last.storage.bands := congrArg conclude hdeliver
  rw [hresult,hlast,List.nil_append,hcounters]

/-- A document without flags is refused when some item has no place. -/
theorem outcome_refused {d : Document} (hflags : ∀ band∈d.bands,∀ m∈band.members,m.IsFlagless)
    (hfit : ¬BandsFit (fun _ => 0) d.bands) : outcome s d.events=.refused := by
  have hcounters := countersOf_start s
  obtain ⟨version,hopening⟩ := moves_opening s d
  have hbands := @refuses_bands (start s) version [] d.bands hflags fun hall => hfit (hcounters ▸ hall)
  obtain ⟨last,hdeliver⟩ := Moves.refuses hopening (hbands.append (closing d)) .none
  rw [← document_events] at hdeliver
  exact congrArg conclude hdeliver

/-- A band whose first member is a downlink array with a flag is undefined. -/
theorem outcome_undefined {d : Document} {band : Band} {items : List (Object ChannelMember)} {rest : List BandMember}
    (hm : band.members=.downlinkChannels items::rest) (hflags : ¬ (BandMember.downlinkChannels items).IsFlagless) :
    outcome s (only d band).events=.undefined := by
  obtain ⟨version,hopening⟩ := moves_opening s (only d band)
  have hopen : Moves (outer (start s) version []) [.startObject] (place (start s) .band version [] .new) :=
    Moves.single fun _ => rfl
  have hmember := @fails_downlinksMember (start s) version [] .new items hflags rfl
  have hband : Fails (outer (start s) version []) band.events := by
    rw [Band.events,Band.inner,hm,List.flatMap_cons]
    exact hopen.fails ((hmember.append _).append _)
  have hbands : Fails (outer (start s) version []) ((only d band).bands.map Band.events).flatten := by
    rw [only,List.map_singleton,List.flatten_singleton]
    exact hband
  have hdeliver := hopening.fails (hbands.append (closing (only d band))) .none
  rw [← document_events] at hdeliver
  exact congrArg conclude hdeliver

end Whole

/-- Two members do the same. -/
structure Alike (m m' : BandMember) : Prop where
  /-- Name. -/
  key : m'.key=m.key
  /-- Counted items. -/
  count : m'.count=m.count
  /-- Flags. -/
  flagless : m.IsFlagless → m'.IsFlagless
  /-- Places for the items. -/
  fits : ∀ start,m.Fits start → m'.Fits start
  /-- Starts that change nothing. -/
  stays : ∀ start,m.Stays start → m'.Stays start
  /-- What is written. -/
  write : m'.write=m.write

section Reordering

variable {μ α : Type} [Member μ α]

/-- What holds of the elements of a list holds of those that correspond to them. -/
theorem forall_of_forall₂ {ι κ : Type*} {R : ι → κ → Prop} {p : ι → Prop} {q : κ → Prop} {list : List ι} {list' : List κ}
    (h : List.Forall₂ R list list') (hp : ∀ a b,R a b → p a → q b) (hall : ∀ a∈list,p a) : ∀ b∈list',q b := by
  induction h with
  | nil => exact List.forall_mem_nil _
  | cons hr _ ih =>
    rw [List.forall_mem_cons] at hall ⊢
    exact ⟨hp _ _ hr hall.1,ih hall.2⟩

/-- What corresponding elements share is the same list. -/
theorem map_of_forall₂ {ι β : Type*} {R : ι → ι → Prop} {g : ι → β} {list list' : List ι} (h : List.Forall₂ R list list')
    (hg : ∀ a b,R a b → g b=g a) : list'.map g=list.map g := by
  induction h with
  | nil => rfl
  | cons hr _ ih => rw [List.map_cons,List.map_cons,ih,hg _ _ hr]

/-- Items whose members stand in another order write the same. -/
theorem map_write_reordered {items items' : List (Object μ)} (h : List.Forall₂ Object.Reordered items items') :
    items'.map Object.write=items.map Object.write :=
  map_of_forall₂ h fun _ _ ho => (Object.write_reordered ho).symm

/-- They need the same places. -/
theorem within_reordered {size first : ℕ} {items items' : List (Object μ)}
    (h : List.Forall₂ Object.Reordered items items')
    (hw : BandMember.Within size first items fun o => o.members≠[]) :
    BandMember.Within size first items' fun o => o.members≠[] := by
  induction h generalizing first with
  | nil => exact hw
  | cons ho _ ih =>
    rw [within_cons] at hw ⊢
    refine ⟨fun hne => hw.1 fun hnil => hne ?_,ih hw.2⟩
    have hperm : List.Perm _ _ := ho
    rw [hnil] at hperm
    exact hperm.nil_eq.symm

/-- A member in another order does the same. -/
theorem alike_of_reordered {m m' : BandMember} (h : m.Reordered m') : Alike m m' := by
  cases h with
  | same => exact ⟨rfl,rfl,id,fun _ => id,fun _ => id,rfl⟩
  | bandDefaults ho =>
    refine ⟨rfl,rfl,id,fun _ => id,fun _ => id,?_⟩
    funext first b
    rw [BandMember.write,BandMember.write,Object.write_reordered ho]
  | dataRates hitems =>
    have hwrite := map_write_reordered hitems
    refine ⟨rfl,hitems.length_eq.symm,id,fun _ hw => within_reordered hitems hw,fun _ hs => ?_,?_⟩
    · refine Or.imp_right (fun hall => forall_write_iff.mp ?_) hs
      rw [hwrite]
      exact forall_write_iff.mpr hall
    · funext first b
      rw [BandMember.write,BandMember.write,hwrite]
  | @uplinkChannels items items' hitems =>
    have hwrite := congrArg (List.map fun f : Channel → Channel => f Channel.new) (map_write_reordered hitems)
    rw [List.map_map,List.map_map] at hwrite
    refine ⟨rfl,rfl,id,fun _ => id,fun _ => id,?_⟩
    funext first b
    exact congrArg (fun list => {b with uplinkChannels := b.uplinkChannels++list}) hwrite
  | @downlinkChannels items items' hitems =>
    have hwrite := congrArg (List.map fun f : Channel → Channel => f Channel.new) (map_write_reordered hitems)
    rw [List.map_map,List.map_map] at hwrite
    refine ⟨rfl,rfl,fun hflags => ?_,fun _ => id,fun _ => id,?_⟩
    · have hobject : ∀ o o' : Object ChannelMember,o.Reordered o' → (∀ m∈o.members,¬m.IsFlag) →
          ∀ m∈o'.members,¬m.IsFlag := fun o o' ho hold m hm => hold m (ho.symm.subset hm)
      exact forall_of_forall₂ hitems hobject hflags
    · funext first b
      exact congrArg (fun list => {b with downlinkChannels := b.downlinkChannels++list}) hwrite

/-- Members of different names are written in any order. -/
theorem write_commute {m m' : BandMember} (hkey : m.key≠m'.key) (b : RegionalParameterChannelPlan) :
    m.write 0 (m'.write 0 b)=m'.write 0 (m.write 0 b) := by
  cases m with
  | scalar m =>
    cases m' with
    | scalar m' => exact Member.commute m m' b hkey
    | _ => cases m <;> rfl
  | _ =>
    cases m' with
    | scalar m' => cases m' <;> rfl
    | _ => first | rfl | exact absurd rfl hkey

/-- A band in another order is the same by itself. -/
theorem fresh_reordered {band band' : Band} (h : band.Reordered band') : fresh band'.members=fresh band.members := by
  obtain ⟨members,hinside,hperm⟩ := h
  have hsame : ∀ {list list' : List BandMember} (b : RegionalParameterChannelPlan),
      List.Forall₂ BandMember.Reordered list list' →
        list'.foldl (fun b m => m.write 0 b) b=list.foldl (fun b m => m.write 0 b) b := by
    intro list list' b hlist
    induction hlist generalizing b with
    | nil => rfl
    | cons hm _ ih => rw [List.foldl_cons,List.foldl_cons,ih,(alike_of_reordered hm).write]
  rw [fresh,fresh,← hsame RegionalParameterChannelPlan.new hinside]
  refine hperm.symm.foldl_eq' (fun m hm m' hm' b => ?_) RegionalParameterChannelPlan.new
  by_cases hkey : m.key=m'.key
  · rw [List.inj_on_of_nodup_map band'.distinct hm hm' hkey]
  · exact (write_commute hkey b).symm

/-- The members of a band in another order are alike. -/
theorem forall_members_reordered {band band' : Band} (h : band.Reordered band') {p : BandMember → Prop}
    (hp : ∀ m m',Alike m m' → p m → p m') (hall : ∀ m∈band.members,p m) : ∀ m∈band'.members,p m := by
  obtain ⟨members,hinside,hperm⟩ := h
  have hmembers : ∀ m∈members,p m := forall_of_forall₂ hinside (fun m m' hm => hp m m' (alike_of_reordered hm)) hall
  exact fun m hm => hmembers m (hperm.symm.subset hm)

/-- A band in another order has the same names and counts as much. -/
theorem pairs_reordered {band band' : Band} (h : band.Reordered band') :
    (band'.members.map fun m => (m.key,m.count)).Perm (band.members.map fun m => (m.key,m.count)) := by
  obtain ⟨members,hinside,hperm⟩ := h
  have hsame : (members.map fun m => (m.key,m.count))=band.members.map fun m => (m.key,m.count) :=
    map_of_forall₂ hinside fun m m' hm => Prod.ext (alike_of_reordered hm).key (alike_of_reordered hm).count
  rw [← hsame]
  exact hperm.symm.map _

/-- A band in another order leaves as much. -/
theorem carry_reordered {band band' : Band} (h : band.Reordered band') (c : Counters) : carry c band'=carry c band := by
  have hpairs := pairs_reordered h
  have hkeys : (band'.members.map BandMember.key).Perm (band.members.map BandMember.key) := by
    have hfirst := hpairs.map Prod.fst
    rwa [List.map_map,List.map_map] at hfirst
  have hdefaults : band'.HasDefaults ↔ band.HasDefaults := hkeys.mem_iff
  have hcount : ∀ (list : List BandMember) (key : Key),((list.filter fun m => m.key= key).map BandMember.count).sum=
      (((list.map fun m => (m.key,m.count)).filter fun pair => pair.1= key).map Prod.snd).sum := by
    intro list key
    rw [List.filter_map,List.map_map]
    rfl
  funext key
  rw [carry,carry,Band.count,Band.count,hcount,hcount,((hpairs.filter _).map Prod.snd).sum_eq]
  simp only [hdefaults]

end Reordering

section Orders

variable {s : RegionalParameterChannelPlanFileJson}

/-- Every element has something that corresponds to it, so the list has. -/
theorem exists_forall₂ {ι κ : Type*} {R : ι → κ → Prop} {list : List ι} (h : ∀ a∈list,∃ b,R a b) :
    ∃ list',List.Forall₂ R list list' := by
  induction list with
  | nil => exact ⟨[],.nil⟩
  | cons a rest ih =>
    rw [List.forall_mem_cons] at h
    obtain ⟨b,hb⟩ := h.1
    obtain ⟨rest',hrest⟩ := ih h.2
    exact ⟨b::rest',.cons hb hrest⟩

/-- A member can stand first. -/
theorem exists_first {band : Band} {m : BandMember} (hm : m∈band.members) :
    ∃ band' rest,band'.members=m::rest ∧ band.Reordered band' := by
  obtain ⟨before,behind,hsplit⟩ := List.append_of_mem hm
  have hperm : band.members.Perm (m::(before++behind)) := hsplit ▸ List.perm_middle
  have hrefl : List.Forall₂ BandMember.Reordered band.members band.members :=
    List.forall₂_same.mpr fun m _ => .same m
  exact ⟨⟨m::(before++behind),(hperm.map BandMember.key).nodup_iff.mp band.distinct,
    fun m' hm' => band.sized m' (hperm.symm.subset hm')⟩,_,rfl,band.members,hrefl,hperm⟩

/-- A band is one of its orders. -/
theorem reordered_refl (band : Band) : band.Reordered band :=
  ⟨band.members,List.forall₂_same.mpr fun m _ => .same m,.refl _⟩

/-- Defaults are not counted. -/
theorem count_defaults {m : BandMember} (hkey : m.key=.bandDefaults) : m.count=0 := by
  cases m <;> first | rfl | cases hkey

/-- Some order leaves as much as any. -/
theorem exists_most (band : Band) : ∃ band' : Band,band.Reordered band' ∧ ∀ c,final c band'.members=carry c band := by
  by_cases hdefaults : band.HasDefaults
  · obtain ⟨m,hm,hkey⟩ := List.mem_map.mp hdefaults
    obtain ⟨band',rest,hmembers,hreordered⟩ := exists_first hm
    refine ⟨band',hreordered,fun c => ?_⟩
    have hdistinct := band'.distinct
    rw [hmembers,List.map_cons,List.nodup_cons] at hdistinct
    have hplain : ∀ m'∈rest,m'.key≠.bandDefaults := fun m' hm' heq =>
      hdistinct.1 (hkey.trans heq.symm ▸ List.mem_map_of_mem hm')
    have hfirst : final c (m::rest)=final (fun _ => 0) rest := by
      rw [final,List.foldl_cons,counted,if_pos hkey]
      rfl
    have hhas : band'.HasDefaults := by
      rw [Band.HasDefaults,hmembers,List.map_cons,hkey]
      exact List.mem_cons_self
    funext key
    rw [← carry_reordered hreordered,carry,if_pos hhas,Band.count,hmembers,hfirst,final_plain key hplain,
      List.filter_cons]
    split
    · rw [List.map_cons,List.sum_cons,count_defaults hkey,zero_add,zero_add]
    · rfl
  · refine ⟨band,reordered_refl band,fun c => ?_⟩
    have hplain : ∀ m∈band.members,m.key≠.bandDefaults := fun m hm heq =>
      hdefaults (List.mem_map.mpr ⟨m,hm,heq⟩)
    funext key
    rw [final_plain key hplain,carry,if_neg hdefaults]
    rfl

/-- The counters behind some bands. -/
def finals (c : Counters) (list : List Band) : Counters := list.foldl (fun c band => final c band.members) c

/-- The plans of bands behind others. -/
theorem plansFrom_append (c : Counters) (first second : List Band) :
    plansFrom c (first++second)=plansFrom c first++plansFrom (finals c first) second := by
  induction first generalizing c with
  | nil => rfl
  | cons band rest ih => rw [List.cons_append,plansFrom,ih,plansFrom,List.cons_append,finals,finals,List.foldl_cons]

/-- One plan for every band. -/
theorem plansFrom_length (c : Counters) (list : List Band) : (plansFrom c list).length=list.length := by
  induction list generalizing c with
  | nil => rfl
  | cons band rest ih => rw [plansFrom,List.length_cons,ih,List.length_cons]

/-- Bands behind others have their places. -/
theorem bandsFit_append {c : Counters} {first second : List Band} (h : BandsFit c (first++second)) :
    BandsFit (finals c first) second := by
  induction first generalizing c with
  | nil => exact h
  | cons band rest ih => exact ih h.2

/-- Some order of some bands leaves as much as any. -/
theorem exists_mosts (before : List Band) :
    ∃ before' : List Band,List.Forall₂ Band.Reordered before before' ∧ ∀ c,finals c before'=before.foldl carry c := by
  induction before with
  | nil => exact ⟨[],.nil,fun _ => rfl⟩
  | cons band rest ih =>
    obtain ⟨band',hband,hmost⟩ := exists_most band
    obtain ⟨rest',hrest,hmosts⟩ := ih
    refine ⟨band'::rest',.cons hband hrest,fun c => ?_⟩
    rw [finals,List.foldl_cons,← finals,hmost,hmosts,List.foldl_cons]

/-- A band alone. -/
theorem outcome_only {d : Document} {band : Band} (hflags : ∀ m∈band.members,m.IsFlagless) :
    outcome s (only d band).events=.loaded [fresh band.members] := by
  have hall : ∀ other∈(only d band).bands,∀ m∈other.members,m.IsFlagless := by
    intro other hother
    rw [List.mem_singleton.mp hother]
    exact hflags
  have hplans : plansFrom (fun _ => 0) (only d band).bands=[fresh band.members] := by
    rw [only,plansFrom,plansFrom,fresh_eq]
  rw [outcome_loaded hall ⟨allFit_first band,trivial⟩,hplans]

/-- Bands without flags, each alone. -/
theorem together_only {d : Document} {list : List Band} (hflags : ∀ band∈list,∀ m∈band.members,m.IsFlagless) :
    together (list.map fun band => outcome s (only d band).events)=.loaded (list.map fun band => fresh band.members) := by
  induction list with
  | nil => rfl
  | cons band rest ih =>
    rw [List.forall_mem_cons] at hflags
    rw [List.map_cons,outcome_only hflags.1,together,ih hflags.2]
    rfl

/-- An undefined document among others none of which is refused. -/
theorem together_undefined {list : List Outcome} (hrefused : ∀ out∈list,out≠.refused) (h : .undefined∈list) :
    together list=.undefined := by
  induction list with
  | nil => exact absurd h List.not_mem_nil
  | cons out rest ih =>
    rw [List.forall_mem_cons] at hrefused
    cases out with
    | undefined => rfl
    | refused => exact absurd rfl hrefused.1
    | loaded bands =>
      have hrest := ih hrefused.2 ((List.mem_cons.mp h).resolve_left fun heq => by cases heq)
      rw [together,hrest]

/-- A band with a flag in a downlink channel is undefined in some order; any other
band is loaded. -/
theorem exists_undefined (d : Document) (band : Band) :
    ∃ band' : Band,band.Reordered band' ∧ outcome s (only d band').events≠.refused ∧
      (¬(∀ m∈band.members,m.IsFlagless) → outcome s (only d band').events=.undefined) := by
  by_cases hflags : ∀ m∈band.members,m.IsFlagless
  · refine ⟨band,reordered_refl band,?_,fun hsome => absurd hflags hsome⟩
    rw [outcome_only hflags]
    exact fun heq => by cases heq
  · obtain ⟨m,hm,hflag⟩ : ∃ m∈band.members,¬m.IsFlagless := by
      by_contra hnone
      exact hflags fun m hm => by_contra fun hflag => hnone ⟨m,hm,hflag⟩
    obtain ⟨band',rest,hmembers,hreordered⟩ := exists_first hm
    have hundefined : outcome s (only d band').events=.undefined := by
      cases m with
      | downlinkChannels items => exact outcome_undefined hmembers hflag
      | _ => exact absurd trivial hflag
    refine ⟨band',hreordered,?_,fun _ => hundefined⟩
    rw [hundefined]
    exact fun heq => by cases heq

/-- A document that means the same in any order has no flags. -/
theorem MeansTheSame.flagless {d : Document} (h : MeansTheSame s d) : ∀ band∈d.bands,∀ m∈band.members,m.IsFlagless := by
  by_contra hflags
  obtain ⟨bands',hbands⟩ := exists_forall₂ fun band (_ : band∈d.bands) => @exists_undefined s d band
  have hreordered : d.Reordered {d with bands := bands'} := ⟨rfl,rfl,hbands.imp fun _ _ hb => hb.1⟩
  have hrefused : ∀ out∈bands'.map fun band => outcome s (only d band).events,out≠.refused := by
    rw [List.forall_mem_map]
    exact forall_of_forall₂ hbands (fun _ _ hb _ => hb.2.1) fun _ _ => trivial
  have hundefined : .undefined∈bands'.map fun band => outcome s (only d band).events := by
    by_contra hnone
    have hother : ∀ band'∈bands',outcome s (only d band').events≠.undefined :=
      fun band' hband' heq => hnone (List.mem_map.mpr ⟨band',hband',heq⟩)
    have hback : ∀ band' band : Band,(band.Reordered band' ∧ outcome s (only d band').events≠.refused ∧
        (¬(∀ m∈band.members,m.IsFlagless) → outcome s (only d band').events=.undefined)) →
          outcome s (only d band').events≠.undefined → ∀ m∈band.members,m.IsFlagless :=
      fun band' band hr hne => by_contra fun hsome => hne (hr.2.2 hsome)
    exact hflags (forall_of_forall₂ (List.Forall₂.flip hbands) hback hother)
  have hapart := h.apart _ hreordered
  exact h.defined _ hreordered (hapart.trans (together_undefined hrefused hundefined))

/-- No document is refused or undefined when no order moves an array: it is what
its bands are alone. -/
theorem OrderFree.outcome_eq {d : Document} (h : OrderFree d) :
    outcome s d.events=.loaded (d.bands.map fun band => fresh band.members) := by
  obtain ⟨hfit,hplans⟩ := @plansFrom_fresh (fun _ => 0) (fun _ => 0) d.bands (fun _ => le_rfl) h.moveless
  rw [outcome_loaded h.flagless hfit,hplans]

/-- Another order of the members moves nothing either. -/
theorem moveless_reordered {c : Counters} {list list' : List Band} (h : List.Forall₂ Band.Reordered list list')
    (hall : ∀ before band behind,list=before++band::behind → Moveless (before.foldl carry c) band) :
    ∀ before band behind,list'=before++band::behind → Moveless (before.foldl carry c) band := by
  induction h generalizing c with
  | nil =>
    intro before band behind hsplit
    exact absurd hsplit.symm (List.append_ne_nil_of_right_ne_nil _ (List.cons_ne_nil _ _))
  | @cons first first' rest rest' hfirst _ ih =>
    intro before band behind hsplit
    cases before with
    | nil =>
      obtain ⟨rfl,-⟩ := List.cons.inj hsplit
      refine forall_members_reordered hfirst (fun m m' hm hmove => ?_) (hall [] first rest rfl)
      rw [hm.key]
      exact ⟨hm.fits _ hmove.1,hm.stays _ hmove.2⟩
    | cons other before =>
      obtain ⟨rfl,hrest⟩ := List.cons.inj hsplit
      rw [List.foldl_cons,carry_reordered hfirst]
      exact ih (fun before' band' behind' hsplit' => hall (first::before') band' behind' (by rw [hsplit']; rfl))
        before band behind hrest

/-- What is free of order stays so in any order. -/
theorem OrderFree.reordered {d d' : Document} (h : OrderFree d) (hd : d.Reordered d') : OrderFree d' where
  flagless := forall_of_forall₂ hd.2.2
    (fun _ _ hband => forall_members_reordered hband fun _ _ hm => hm.flagless) h.flagless
  moveless := moveless_reordered hd.2.2 h.moveless

/-- What is free of order means the same in any order. -/
theorem OrderFree.meansTheSame {d : Document} (h : OrderFree d) : MeansTheSame s d where
  defined d' hd := by
    rw [(h.reordered hd).outcome_eq]
    exact fun heq => by cases heq
  order d' hd := by
    have hfresh : (d'.bands.map fun band => fresh band.members)=d.bands.map fun band => fresh band.members :=
      map_of_forall₂ hd.2.2 fun _ _ hband => fresh_reordered hband
    rw [(h.reordered hd).outcome_eq,h.outcome_eq,hfresh]
  apart d' hd := by
    rw [(h.reordered hd).outcome_eq,together_only (h.reordered hd).flagless]

/-- A document that means the same in any order moves nothing. -/
theorem MeansTheSame.moveless {d : Document} (h : MeansTheSame s d) :
    ∀ before band behind,d.bands=before++band::behind → Moveless (carried before) band := by
  intro before band behind hsplit m hm
  -- the bands before leave as much as any order of them, and the member stands in front of the defaults
  obtain ⟨before',hbefore,hmost⟩ := exists_mosts before
  obtain ⟨band',rest,hmembers,hband⟩ := exists_first hm
  have hbehind : List.Forall₂ Band.Reordered behind behind := List.forall₂_same.mpr fun band _ => reordered_refl band
  have hd : d.Reordered {d with bands := before'++band'::behind} := by
    refine ⟨rfl,rfl,?_⟩
    rw [hsplit]
    exact List.rel_append hbefore (.cons hband hbehind)
  have hflags : ∀ other∈before'++band'::behind,∀ m∈other.members,m.IsFlagless :=
    forall_of_forall₂ hd.2.2 (fun _ _ hother => forall_members_reordered hother fun _ _ ha => ha.flagless) h.flagless
  have hapart := h.apart _ hd
  rw [together_only hflags] at hapart
  have hfit : BandsFit (fun _ => 0) (before'++band'::behind) := by
    by_contra hfit
    have hrefused := @outcome_refused s {d with bands := before'++band'::behind} hflags hfit
    rw [hrefused] at hapart
    cases hapart
  have hloaded := @outcome_loaded s {d with bands := before'++band'::behind} hflags hfit
  have hplans := Outcome.loaded.inj (hloaded.symm.trans hapart)
  dsimp only at hplans
  rw [plansFrom_append,List.map_append] at hplans
  have hlength : (plansFrom (fun _ => 0) before').length=(before'.map fun band => fresh band.members).length := by
    rw [plansFrom_length,List.length_map]
  obtain ⟨-,hlater⟩ := List.append_inj hplans hlength
  rw [plansFrom,List.map_cons,hmost] at hlater
  have hwritten := (List.cons.inj hlater).1
  rw [← fresh_eq,hmembers] at hwritten
  have hhere := bandsFit_append hfit
  rw [BandsFit,hmost,hmembers] at hhere
  have hdistinct := band'.distinct
  rw [hmembers] at hdistinct
  have hnone : ∀ m'∈([] : List BandMember),m'.key≠.bandDefaults := List.forall_mem_nil _
  obtain ⟨hcarried,hfits⟩ := @written_at (carried before) .new m [] rest hdistinct (SameAt.refl _ _) hnone
  obtain ⟨hzero,-⟩ := @written_at (fun _ => 0) .new m [] rest hdistinct (SameAt.refl _ _) hnone
  have hplace : m.Fits (carried before m.key) := hfits hhere.1
  refine ⟨hplace,(write_start_iff hplace).mp (hcarried.symm.trans ?_)⟩
  have hsame : written (carried before) (m::rest) .new=written (fun _ => 0) (m::rest) .new := hwritten
  rw [List.nil_append,hsame]
  exact hzero

/-- A document means the same in any order of members exactly when it is free of
order. -/
theorem meansTheSame_iff (s : RegionalParameterChannelPlanFileJson) (d : Document) :
    MeansTheSame s d ↔ OrderFree d := by
  constructor
  · intro h
    exact ⟨h.flagless,h.moveless⟩
  · intro h
    exact h.meansTheSame

end Orders

/-- A data rate with a number of bits per second. -/
def rate (bps : Number) : Object RateMember := ⟨[.bps bps],List.nodup_singleton _⟩

/-- Empty defaults. -/
def noDefaults : Object DefaultsMember := ⟨[],List.nodup_nil⟩

/-- A plan of one data rate. -/
def firstBand : Band where
  members := [.dataRates [rate ⟨1,by decide,by decide⟩]]
  distinct := List.nodup_singleton _
  sized m hm := by
    rw [List.mem_singleton.mp hm]
    exact Nat.le_of_lt (by decide)

/-- A plan of one data rate behind empty defaults or in front of them. -/
def secondBand (defaultsFirst : Bool) : Band where
  members :=
    if defaultsFirst then [.bandDefaults noDefaults,.dataRates [rate ⟨2,by decide,by decide⟩]]
    else [.dataRates [rate ⟨2,by decide,by decide⟩],.bandDefaults noDefaults]
  distinct := by cases defaultsFirst <;> decide
  sized m hm := by
    have hone : (BandMember.dataRates [rate ⟨2,by decide,by decide⟩]).IsSized := Nat.le_of_lt (by decide)
    have hdefaults : (BandMember.bandDefaults noDefaults).IsSized := trivial
    cases defaultsFirst with
    | true =>
      rcases List.mem_pair.mp hm with rfl|rfl
      · exact hdefaults
      · exact hone
    | false =>
      rcases List.mem_pair.mp hm with rfl|rfl
      · exact hone
      · exact hdefaults

/-- Both plans in a document. -/
def twoBands (defaultsFirst : Bool) : Document := ⟨none,[firstBand,secondBand defaultsFirst],none,.inl rfl⟩

/-- With its defaults in front the second data rate is in its place, with its
defaults behind it is one further. -/
theorem twoBands_differ :
    ¬∀ (s : RegionalParameterChannelPlanFileJson) (d : Document),MeansTheSame s d := by
  intro h
  have hsecond : (secondBand true).Reordered (secondBand false) :=
    ⟨_,List.forall₂_same.mpr fun m _ => .same m,List.Perm.swap _ _ _⟩
  have hd : (twoBands true).Reordered (twoBands false) := ⟨rfl,rfl,.cons (reordered_refl firstBand) (.cons hsecond .nil)⟩
  have horder := (h .new (twoBands true)).order _ hd
  exact absurd horder (by decide +kernel)

end LorawanServer.PlanOrder
