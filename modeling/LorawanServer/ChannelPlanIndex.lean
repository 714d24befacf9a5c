import LorawanServer.ChannelPlanFile

/-!
# Pointers to plans over any number of loads

A load that succeeds takes all pointers anew. A load that is refused clears the
plans, the names and the default, but not the numbers: what was found by its
number before is found again, in a storage that is gone.
-/

namespace LorawanServer.ChannelPlanIndex

open CppRuntime Records ChannelPlan ChannelPlanFile RegionalParameterChannelPlanFileJson

/-- The plan behind a pointer, as long as the pointer is valid. -/
def plan? (s : RegionalParameterChannelPlanFileJson) (pointer : Pointer) : Option RegionalParameterChannelPlan :=
  if pointer.generation=s.generation then s.storage.bands[pointer.index]? else none

/-- No lookup gives a pointer out of the storage, and after a load with code
zero every plan is found by its name and by its number. -/
structure Sound (s : RegionalParameterChannelPlanFileJson) (r : Option ℤ) : Prop where
  /-- Lookups by name stay inside. -/
  byName : ∀ name pointer,s.getByName name=some pointer → (plan? s pointer).isSome=true
  /-- So do lookups by number. -/
  byId : ∀ id pointer,s.getById id=some pointer → (plan? s pointer).isSome=true
  /-- So does the default. -/
  default : ∀ pointer,s.defaultRegionBand=some pointer → (plan? s pointer).isSome=true
  /-- A name that is there is found. -/
  nameFound : r=some 0 → ∀ band∈s.storage.bands,
    ∃ pointer plan,s.getByName band.name=some pointer ∧ plan? s pointer=some plan ∧ plan.name=band.name
  /-- So is a number. -/
  idFound : r=some 0 → ∀ band∈s.storage.bands,
    ∃ pointer plan,s.getById band.id.toNat=some pointer ∧ plan? s pointer=some plan ∧ plan.id=band.id

/-- One load after the other, with the code of the last one. -/
def loads (platform : Platform) :
    RegionalParameterChannelPlanFileJson×Option ℤ → List (Option Bytes) →
      Option (RegionalParameterChannelPlanFileJson×Option ℤ)
  | s,[] => some s
  | s,file::files => (load platform s.1 file).bind fun next => loads platform (next.1,some next.2) files

/-- The file is not there, or reader or handler refuse it. -/
def Refused (platform : Platform) (s : RegionalParameterChannelPlanFileJson) (file : Option Bytes) : Prop :=
  ∃ next r,loadFile platform s.clear file=some (next,r) ∧ r≠0

/-- An index of places in a list by a key: every entry is the place of an item
with the key, and every item has an entry. -/
structure Points {α κ : Type*} [Ord κ] (index : Std.TreeMap κ Pointer) (generation : ℕ) (key : α → κ)
    (items : List α) : Prop where
  /-- An entry is the place of an item with the key. -/
  points : ∀ k pointer,index[k]?=some pointer →
    pointer.generation=generation ∧ ∃ item,items[pointer.index]?=some item ∧ key item=k
  /-- Every item has an entry. -/
  covers : ∀ item∈items,key item∈index

section Index

variable {α κ : Type*} [Ord κ] [Std.TransOrd κ] {index : Std.TreeMap κ Pointer} {generation : ℕ}
  {key : α → κ} {items : List α}

/-- The empty index of no items. -/
theorem Points.empty : Points (∅ : Std.TreeMap κ Pointer) generation key [] where
  points := by
    intro k pointer h
    rw [Std.TreeMap.getElem?_emptyc] at h
    cases h
  covers := fun _ h => absurd h List.not_mem_nil

/-- One more item behind the others. -/
theorem Points.insert [Std.LawfulEqOrd κ] (h : Points index generation key items) (item : α) :
    Points (index.insert (key item) ⟨generation,items.length⟩) generation key (items++[item]) where
  points := by
    intro k pointer hp
    rw [Std.TreeMap.getElem?_insert] at hp
    split at hp
    · next hk =>
      obtain rfl := Option.some.inj hp
      exact ⟨rfl,item,List.getElem?_concat_length,Std.compare_eq_iff_eq.mp hk⟩
    · obtain ⟨hg,found,hitem,hkey⟩ := h.points k pointer hp
      have hlt := (List.getElem?_eq_some_iff.mp hitem).1
      exact ⟨hg,found,(List.getElem?_append_left hlt).trans hitem,hkey⟩
  covers := by
    intro found hf
    rw [Std.TreeMap.mem_insert,Std.compare_eq_iff_eq]
    rcases List.mem_append.mp hf with hf|hf
    · exact .inr (h.covers found hf)
    · rw [List.mem_singleton.mp hf]
      exact .inl rfl

/-- An item is found by its key, or another one with the same key. -/
theorem Points.found (h : Points index generation key items) {item : α} (hi : item∈items) :
    ∃ pointer other,index[key item]?=some pointer ∧ pointer.generation=generation ∧
      items[pointer.index]?=some other ∧ key other=key item := by
  have hm := h.covers item hi
  rw [Std.TreeMap.mem_iff_isSome_getElem?,Option.isSome_iff_exists] at hm
  obtain ⟨pointer,hp⟩ := hm
  obtain ⟨hg,other,ho,hkey⟩ := h.points _ pointer hp
  exact ⟨pointer,other,hp,hg,ho,hkey⟩

end Index

/-- The indexes and the default over the plans so far. -/
structure Indexed (s : RegionalParameterChannelPlanFileJson) (bands : List RegionalParameterChannelPlan) : Prop where
  /-- Names. -/
  names : Points s.nameIndex s.generation RegionalParameterChannelPlan.name bands
  /-- Numbers. -/
  ids : Points s.idIndex s.generation (fun band => (band.id.toNat : ℤ)) bands
  /-- The default. -/
  default : ∀ pointer,s.defaultRegionBand=some pointer →
    pointer.generation=s.generation ∧ pointer.index<bands.length

/-- One plan is added. -/
theorem Indexed.addIndex {s : RegionalParameterChannelPlanFileJson} {bands : List RegionalParameterChannelPlan}
    (h : Indexed s bands) (band : RegionalParameterChannelPlan) :
    Indexed (s.addIndex (band,bands.length)) (bands++[band]) where
  names := h.names.insert band
  ids := h.ids.insert band
  default := by
    intro pointer hp
    rw [List.length_append,List.length_singleton]
    simp only [RegionalParameterChannelPlanFileJson.addIndex] at hp ⊢
    split at hp
    · obtain rfl := Option.some.inj hp
      exact ⟨rfl,Nat.lt_succ_self _⟩
    · obtain ⟨hg,hlt⟩ := h.default pointer hp
      exact ⟨hg,Nat.lt_succ_of_lt hlt⟩

/-- Adding plans keeps the storage. -/
theorem foldl_addIndex_keeps (its : List (RegionalParameterChannelPlan×ℕ)) (s : RegionalParameterChannelPlanFileJson) :
    (its.foldl addIndex s).storage=s.storage ∧ (its.foldl addIndex s).generation=s.generation := by
  induction its generalizing s with
  | nil => exact ⟨rfl,rfl⟩
  | cons it its ih => exact ih (s.addIndex it)

/-- All plans are added one after the other. -/
theorem indexed_foldl {s : RegionalParameterChannelPlanFileJson} (h : Indexed s [])
    (bands : List RegionalParameterChannelPlan) : Indexed (bands.zipIdx.foldl addIndex s) bands := by
  induction bands using List.reverseRecOn with
  | nil => exact h
  | append_singleton bands band ih =>
    rw [List.zipIdx_append,List.foldl_append,Nat.zero_add]
    exact ih.addIndex band

/-- A pointer of the present generation inside the plans is valid. -/
theorem plan?_isSome {s : RegionalParameterChannelPlanFileJson} {pointer : Pointer}
    (hg : pointer.generation=s.generation) (hi : pointer.index<s.storage.bands.length) :
    (plan? s pointer).isSome=true := by
  rw [plan?,if_pos hg,List.getElem?_eq_getElem hi]
  rfl

/-- A pointer that an index over all plans holds is valid. -/
theorem Points.valid {κ : Type*} [Ord κ] {index : Std.TreeMap κ Pointer}
    {s : RegionalParameterChannelPlanFileJson} {key : RegionalParameterChannelPlan → κ}
    (h : Points index s.generation key s.storage.bands) {k : κ} {pointer : Pointer} (hfound : index[k]?=some pointer) :
    (plan? s pointer).isSome=true := by
  obtain ⟨hg,band,hband,-⟩ := h.points k pointer hfound
  exact plan?_isSome hg (List.getElem?_eq_some_iff.mp hband).1

/-- Indexes over all plans give what they should. -/
theorem Indexed.sound {s : RegionalParameterChannelPlanFileJson} (h : Indexed s s.storage.bands) (r : Option ℤ) :
    Sound s r := by
  have hdefault : ∀ pointer,s.defaultRegionBand=some pointer → (plan? s pointer).isSome=true := by
    intro pointer hp
    obtain ⟨hg,hlt⟩ := h.default pointer hp
    exact plan?_isSome hg hlt
  refine ⟨?_,?_,hdefault,?_,?_⟩
  · intro name pointer hp
    rw [getByName] at hp
    split at hp
    · exact hdefault pointer hp
    · next hfound =>
      obtain rfl := Option.some.inj hp
      exact h.names.valid hfound
  · intro id pointer hp
    rw [getById] at hp
    split at hp
    · exact hdefault pointer hp
    · next hfound =>
      obtain rfl := Option.some.inj hp
      exact h.ids.valid hfound
  · intro _ band hband
    obtain ⟨pointer,plan,hindex,hg,hplan,hname⟩ := h.names.found hband
    refine ⟨pointer,plan,?_,?_,hname⟩
    · rw [getByName,hindex]
    · rw [plan?,if_pos hg,hplan]
  · intro _ band hband
    obtain ⟨pointer,plan,hindex,hg,hplan,hid⟩ := h.ids.found hband
    refine ⟨pointer,plan,?_,?_,UInt8.toNat_inj.mp (Int.ofNat_inj.mp hid)⟩
    · rw [getById,hindex]
    · rw [plan?,if_pos hg,hplan]

/-- Behind `buildIndex` all plans have their entries. -/
theorem indexed_buildIndex (s : RegionalParameterChannelPlanFileJson) :
    Indexed s.buildIndex.1 s.buildIndex.1.storage.bands := by
  have hempty : Indexed {s with nameIndex := ∅,idIndex := ∅,defaultRegionBand := none} [] :=
    ⟨.empty,.empty,fun _ h => absurd h.symm (Option.some_ne_none _)⟩
  have hfold := indexed_foldl hempty s.storage.bands
  obtain ⟨hstorage,-⟩ := foldl_addIndex_keeps s.storage.bands.zipIdx
    {s with nameIndex := ∅,idIndex := ∅,defaultRegionBand := none}
  rw [buildIndex]
  generalize s.storage.bands.zipIdx.foldl addIndex
    {s with nameIndex := ∅,idIndex := ∅,defaultRegionBand := none}=filled at hfold hstorage ⊢
  dsimp only at hstorage ⊢
  rw [← hstorage] at hfold
  split
  · next hfirst => exact ⟨hfold.names,hfold.ids,fun pointer hp => by
      obtain rfl := Option.some.inj hp
      exact ⟨rfl,List.length_pos_of_ne_nil hfirst.2⟩⟩
  · exact hfold

/-- Reading a file changes no index. -/
theorem loadFile_keeps {platform : Platform} {s next : RegionalParameterChannelPlanFileJson} {file : Option Bytes} {r : ℤ}
    (h : loadFile platform s file=some (next,r)) :
    next.generation=s.generation ∧ next.nameIndex=s.nameIndex ∧ next.idIndex=s.idIndex ∧
      next.defaultRegionBand=s.defaultRegionBand := by
  cases file with
  | none =>
    obtain ⟨rfl,-⟩ := Prod.mk.inj (Option.some.inj h)
    exact ⟨rfl,rfl,rfl,rfl⟩
  | some text =>
    simp only [loadFile,Option.bind_eq_bind,Option.bind_eq_some_iff] at h
    obtain ⟨handler,-,h⟩ := h
    split at h
    · obtain ⟨rfl,-⟩ := Prod.mk.inj (Option.some.inj h)
      exact ⟨rfl,rfl,rfl,rfl⟩
    · obtain ⟨rfl,-⟩ := Prod.mk.inj (Option.some.inj h)
      exact ⟨rfl,rfl,rfl,rfl⟩

/-- A load either takes all pointers anew or is refused. -/
theorem load_cases {platform : Platform} {s next : RegionalParameterChannelPlanFileJson} {file : Option Bytes} {r : ℤ}
    (h : load platform s file=some (next,r)) :
    Indexed next next.storage.bands ∨
      (Refused platform s file ∧ r≠0 ∧ next.generation=s.generation+1 ∧ next.nameIndex=∅ ∧ next.idIndex=s.idIndex ∧
        next.defaultRegionBand=none) := by
  simp only [load,Option.bind_eq_bind,Option.bind_eq_some_iff] at h
  obtain ⟨⟨read,code⟩,hread,h⟩ := h
  dsimp only at h
  split at h
  · obtain ⟨hnext,-⟩ := Prod.mk.inj (Option.some.inj h)
    rw [← hnext]
    exact .inl (indexed_buildIndex read)
  · next hcode =>
    obtain ⟨rfl,rfl⟩ := Prod.mk.inj (Option.some.inj h)
    obtain ⟨hg,hn,hi,hd⟩ := loadFile_keeps hread
    exact .inr ⟨⟨_,_,hread,hcode⟩,hcode,hg,hn,hi,hd⟩

/-- A refused load is one. -/
theorem load_refused {platform : Platform} {s : RegionalParameterChannelPlanFileJson} {file : Option Bytes}
    (h : Refused platform s file) :
    ∃ next r,load platform s file=some (next,r) ∧ next.generation=s.generation+1 ∧ next.idIndex=s.idIndex := by
  obtain ⟨next,r,hread,hr⟩ := h
  obtain ⟨hg,-,hi,-⟩ := loadFile_keeps hread
  refine ⟨next,r,?_,hg,hi⟩
  simp only [load,hread,Option.bind_eq_bind,Option.bind_some,if_neg hr]
  rfl

/-- Without entries nothing is found. -/
theorem sound_of_empty {s : RegionalParameterChannelPlanFileJson} {r : ℤ} (hr : r≠0) (hn : s.nameIndex=∅)
    (hi : s.idIndex.isEmpty=true) (hd : s.defaultRegionBand=none) : Sound s (some r) := by
  have hname : ∀ name,s.getByName name=none := by
    intro name
    rw [getByName,hn,Std.TreeMap.getElem?_emptyc]
    exact hd
  have hid : ∀ id,s.getById id=none := by
    intro id
    have hmiss : s.idIndex[id]?=none := Std.TreeMap.getElem?_eq_none (Std.TreeMap.isEmpty_iff_forall_not_mem.mp hi id)
    rw [getById,hmiss]
    exact hd
  refine ⟨fun name pointer hp => ?_,fun id pointer hp => ?_,fun pointer hp => ?_,fun h => ?_,fun h => ?_⟩
  · rw [hname] at hp
    cases hp
  · rw [hid] at hp
    cases hp
  · rw [hd] at hp
    cases hp
  · exact absurd (Option.some.inj h) hr
  · exact absurd (Option.some.inj h) hr

/-- One load: the lookups stay inside unless it is refused while there are
numbers. -/
theorem load_sound {platform : Platform} {s next : RegionalParameterChannelPlanFileJson} {file : Option Bytes} {r : ℤ}
    (h : load platform s file=some (next,r)) (hempty : Refused platform s file → s.idIndex.isEmpty=true) :
    Sound next (some r) := by
  rcases load_cases h with hindexed|⟨hrefused,hr,-,hn,hi,hd⟩
  · exact hindexed.sound _
  · exact sound_of_empty hr hn (by rw [hi]; exact hempty hrefused) hd

/-- After a refused load the old numbers lead out of the storage. -/
theorem not_sound_of_refused {s next : RegionalParameterChannelPlanFileJson} {code r : Option ℤ} (h : Sound s code)
    (hg : next.generation=s.generation+1) (hi : next.idIndex=s.idIndex) (hne : s.idIndex.isEmpty=false) :
    ¬Sound next r := by
  intro hnext
  obtain ⟨id,hid⟩ := Std.TreeMap.isEmpty_eq_false_iff_exists_mem.mp hne
  rw [Std.TreeMap.mem_iff_isSome_getElem?,Option.isSome_iff_exists] at hid
  obtain ⟨pointer,hp⟩ := hid
  have hnow : s.getById id=some pointer := by rw [getById,hp]
  have hlater : next.getById id=some pointer := by rw [getById,hi,hp]
  have hvalid := h.byId id pointer hnow
  have hdangling := hnext.byId id pointer hlater
  have hold : pointer.generation=s.generation := by
    by_contra hne
    rw [plan?,if_neg hne] at hvalid
    cases hvalid
  rw [plan?,if_neg (by omega)] at hdangling
  cases hdangling

/-- The states of a sequence of loads, one part after the other. -/
theorem loads_append {platform : Platform} (first second : List (Option Bytes))
    (s : RegionalParameterChannelPlanFileJson×Option ℤ) :
    loads platform s (first++second)=(loads platform s first).bind fun next => loads platform next second := by
  induction first generalizing s with
  | nil => rfl
  | cons file first ih =>
    rw [List.cons_append,loads,loads]
    cases load platform s.1 file with
    | none => rfl
    | some next => exact ih _

/-- All states of a sequence are sound when no load is refused while there are
numbers. -/
theorem loads_sound {platform : Platform} {files : List (Option Bytes)}
    {s : RegionalParameterChannelPlanFileJson×Option ℤ} (hs : Sound s.1 s.2)
    (h : ∀ before file after t,files=before++file::after → loads platform s before=some t →
      Refused platform t.1 file → t.1.idIndex.isEmpty=true) :
    ∀ before after t,files=before++after → loads platform s before=some t → Sound t.1 t.2 := by
  induction files generalizing s with
  | nil =>
    intro before after t hsplit ht
    obtain ⟨rfl,-⟩ := List.append_eq_nil_iff.mp hsplit.symm
    obtain rfl := Option.some.inj ht
    exact hs
  | cons file files ih =>
    intro before after t hsplit ht
    cases before with
    | nil =>
      obtain rfl := Option.some.inj ht
      exact hs
    | cons first before =>
      obtain ⟨rfl,hrest⟩ := List.cons.inj hsplit
      rw [loads] at ht
      obtain ⟨⟨next,r⟩,hload,ht⟩ := Option.bind_eq_some_iff.mp ht
      have hnext : Sound next (some r) := load_sound hload (h [] _ files s rfl rfl)
      refine @ih (next,some r) hnext ?_ before after t hrest ht
      intro before' file' after' t' hsplit' ht'
      refine h (_::before') file' after' t' (congrArg (List.cons _) hsplit') ?_
      rw [loads,hload]
      exact ht'

/-- A fresh object has no pointer. -/
theorem new_sound : Sound .new none where
  byName := fun _ _ h => absurd h.symm (Option.some_ne_none _)
  byId := fun _ _ h => absurd h.symm (Option.some_ne_none _)
  default := fun _ h => absurd h.symm (Option.some_ne_none _)
  nameFound := fun h => absurd h.symm (Option.some_ne_none _)
  idFound := fun h => absurd h.symm (Option.some_ne_none _)

/-- Any number of loads: lookups stay inside the storage in every state exactly
when no load is refused while there are numbers in the index. -/
theorem loads_sound_iff (platform : Platform) (files : List (Option Bytes)) :
    (∀ before after t,files=before++after → loads platform (.new,none) before=some t → Sound t.1 t.2) ↔
      ∀ before file after t,files=before++file::after → loads platform (.new,none) before=some t →
        Refused platform t.1 file → t.1.idIndex.isEmpty=true := by
  constructor
  · intro h before file after t hsplit ht hrefused
    by_contra hne
    obtain ⟨next,r,hload,hg,hi⟩ := load_refused hrefused
    have hnext : loads platform (.new,none) (before++[file])=some (next,some r) := by
      rw [loads_append,ht,Option.bind_some,loads,hload]
      rfl
    have hbehind : files=(before++[file])++after := by rw [hsplit,List.append_assoc,List.singleton_append]
    have hsound : Sound t.1 t.2 := h before (file::after) t hsplit ht
    exact not_sound_of_refused hsound hg hi (Bool.eq_false_iff.mpr hne) (h _ _ _ hbehind hnext)
  · exact loads_sound new_sound

/-- A file with one plan, and then no file. -/
def planThenNothing : List (Option Bytes) := [some (ascii "\x7b\"RegionBands\": [\x7b\"id\": 3\x7d]\x7d"),none]

/-- The plan is found by its number in a storage without plans. -/
theorem planThenNothing_dangling :
    ¬∀ platform files,∀ before after t,files=before++after → loads platform (.new,none) before=some t →
      Sound t.1 t.2 := by
  intro h
  have hdangling : (loads ⟨fun _ => false,fun _ => (0,[])⟩ (.new,none) planThenNothing).any
      (fun t => (t.1.getById 3).any fun pointer => (plan? t.1 pointer).isNone)=true := by decide +kernel
  obtain ⟨t,ht,hlost⟩ := (Option.any_eq_true _ _).mp hdangling
  obtain ⟨pointer,hp,hnone⟩ := (Option.any_eq_true _ _).mp hlost
  have hinside := (h _ _ planThenNothing [] t rfl ht).byId 3 pointer hp
  rw [Option.isNone_iff_eq_none.mp hnone] at hinside
  cases hinside

end LorawanServer.ChannelPlanIndex
