import LorawanServer.ChannelPlanArrays
import LorawanServer.PlanPlaces

/-!
# Moves of the handler over a document

The handler takes the members of a document in whatever order they stand. An
array is written from where its counter stands, an item without a place stops
the reader, and the flag of a downlink channel without uplink channels is
undefined.
-/

namespace LorawanServer.PlanDocumentMoves

open CppRuntime Records JsonEvents FloatNumbers ChannelPlan ChannelPlanFile ChannelPlanMoves ChannelPlanArrays
open PlanDocument PlanPlaces
open RegionBandsJsonHandler (step modifyAt)

/-- Some event is refused, whatever the last name was. -/
def Refuses (h : RegionBandsJsonHandler) (events : List Event) : Prop :=
  ∀ key,∃ last,deliver step (some {h with keyIndex := key}) events=(some last,false)

section Moving

variable {h middle : RegionBandsJsonHandler}

/-- A refusal behind events that are taken. -/
theorem Moves.refuses {first second : List Event} (hf : Moves h first middle) (hs : Refuses middle second) :
    Refuses h (first++second) := by
  intro key
  obtain ⟨between,hfirst⟩ := hf key
  obtain ⟨last,hsecond⟩ := hs between
  exact ⟨last,(deliver_append hfirst second).trans hsecond⟩

/-- Whatever comes behind a refusal. -/
theorem Refuses.append {first : List Event} (hf : Refuses h first) (second : List Event) : Refuses h (first++second) := by
  intro key
  obtain ⟨last,hfirst⟩ := hf key
  exact ⟨last,deliver_stop hfirst second⟩

/-- One event that is refused. -/
theorem Refuses.single {event : Event}
    (hcall : ∀ key,∃ last,RegionBandsJsonHandler.call {h with keyIndex := key} event=some (last,false)) :
    Refuses h [event] := by
  intro key
  obtain ⟨last,hc⟩ := hcall key
  have hvalue : step (some {h with keyIndex := key}) event=(some last,false) := by rw [step,hc]
  exact ⟨last,by rw [deliver,hvalue]; rfl⟩

/-- A member with a value that is one event, which is refused. -/
theorem Refuses.scalar {name : String} (key : Key) {event : Event} {last : RegionBandsJsonHandler}
    (hkey : Names name key) (hcall : RegionBandsJsonHandler.call {h with keyIndex := key} event=some (last,false)) :
    Refuses h [.key (ascii name),event] := by
  intro old
  have hvalue : step (some {h with keyIndex := key}) event=(some last,false) := by rw [step,hcall]
  refine ⟨last,?_⟩
  rw [deliver,step_taken (call_name hkey old)]
  dsimp only
  rw [if_pos rfl,deliver,hvalue]
  rfl

section Items

variable {ι σ : Type*} {at' : σ → RegionBandsJsonHandler} {events : ι → List Event} {change : ι → σ → σ} {good : ι → Prop}

/-- Items that are taken one behind another. -/
theorem moves_items {items : List ι} (hitem : ∀ item∈items,∀ v,Moves (at' v) (events item) (at' (change item v)))
    (v : σ) : Moves (at' v) (items.flatMap events) (at' (items.foldl (fun v item => change item v) v)) := by
  induction items generalizing v with
  | nil => exact .refl
  | cons item rest ih =>
    rw [List.forall_mem_cons] at hitem
    exact (hitem.1 v).trans (ih hitem.2 (change item v))

/-- Items up to one that is undefined. -/
theorem fails_items (hgood : ∀ item v,good item → Moves (at' v) (events item) (at' (change item v)))
    (hbad : ∀ item v,¬good item → Fails (at' v) (events item)) {items : List ι} (hsome : ¬∀ item∈items,good item)
    (v : σ) : Fails (at' v) (items.flatMap events) := by
  induction items generalizing v with
  | nil => exact absurd (List.forall_mem_nil _) hsome
  | cons item rest ih =>
    rw [List.flatMap_cons]
    by_cases hitem : good item
    · rw [List.forall_mem_cons,not_and] at hsome
      exact (hgood item v hitem).fails (ih (hsome hitem) (change item v))
    · exact (hbad item v hitem).append _

end Items

/-- The members of an object. -/
theorem moves_inner {μ α : Type} [Member μ α] (at' : α → RegionBandsJsonHandler) (o : Object μ)
    (hm : ∀ m∈o.members,∀ a,RegionBandsJsonHandler.call {at' a with keyIndex := Member.key m} (Member.event m)=
      some ({at' (Member.write m a) with keyIndex := Member.key m},true)) (a : α) :
    Moves (at' a) o.inner (at' (o.write a)) :=
  moves_items (fun m hmem a => Moves.scalar (Member.key m) (names_nameOf (Member.key_ne_none m)) (hm m hmem a)) a

/-- An object whose first member is refused. -/
theorem refuses_inner {μ α : Type} [Member μ α] {o : Object μ} (hne : o.members≠[])
    (hm : ∀ m : μ,∃ last,RegionBandsJsonHandler.call {h with keyIndex := Member.key m} (Member.event m)=
      some (last,false)) : Refuses h o.inner := by
  obtain ⟨m,rest,hmembers⟩ := List.exists_cons_of_ne_nil hne
  obtain ⟨last,hcall⟩ := hm m
  rw [Object.inner,hmembers,List.flatMap_cons]
  exact (Refuses.scalar (Member.key m) (names_nameOf (Member.key_ne_none m)) hcall).append _

/-- An item and those behind it have their places. -/
theorem within_cons {ι : Type*} {size start : ℕ} {item : ι} {rest : List ι} {isWritten : ι → Prop} :
    BandMember.Within size start (item::rest) isWritten ↔
      (isWritten item → start< size) ∧ BandMember.Within size (start+1) rest isWritten := by
  constructor
  · intro hw
    refine ⟨fun hi => hw 0 item rfl hi,fun i other hget hwritten => ?_⟩
    have hplace := hw (i+1) other hget hwritten
    omega
  · intro hw i other hget hwritten
    cases i with
    | zero =>
      obtain rfl := Option.some.inj hget
      exact hw.1 hwritten
    | succ i =>
      have hplace := hw.2 i other hget hwritten
      omega

section Counted

variable {ι : Type} {σ : Type*} {size : ℕ} {at' : ℕ → σ → RegionBandsJsonHandler} {events : ι → List Event}
  {isWritten : ι → Prop} {result : ℕ → List ι → σ → σ} {change : ℕ → ι → σ → σ}

/-- The items of an array whose places are counted, each with a place. -/
theorem moves_counted (hnil : ∀ start v,result start [] v=v)
    (hcons : ∀ start item rest v,result start (item::rest) v=result (start+1) rest (change start item v))
    (hitem : ∀ start item v,(isWritten item → start< size) →
      Moves (at' start v) (events item) (at' (start+1) (change start item v)))
    {start : ℕ} {items : List ι} {v : σ} (hw : BandMember.Within size start items isWritten) :
    Moves (at' start v) (items.map events).flatten (at' (start+items.length) (result start items v)) := by
  induction items generalizing start v with
  | nil =>
    rw [hnil]
    exact .refl
  | cons item rest ih =>
    obtain ⟨hfirst,hrest⟩ := within_cons.mp hw
    have hmoves := @ih (start+1) (change start item v) hrest
    rw [hcons,List.map_cons,List.flatten_cons,List.length_cons,Nat.add_comm rest.length 1,← Nat.add_assoc]
    exact (hitem start item v hfirst).trans hmoves

/-- The items of an array whose places are counted, one of them without a place. -/
theorem refuses_counted
    (hitem : ∀ start item v,(isWritten item → start< size) →
      Moves (at' start v) (events item) (at' (start+1) (change start item v)))
    (hrefuse : ∀ start item v,isWritten item → ¬start< size → Refuses (at' start v) (events item))
    {start : ℕ} {items : List ι} {v : σ} (hw : ¬BandMember.Within size start items isWritten) :
    Refuses (at' start v) (items.map events).flatten := by
  induction items generalizing start v with
  | nil => exact absurd (fun _ _ hget => absurd hget (by simp)) hw
  | cons item rest ih =>
    rw [List.map_cons,List.flatten_cons]
    rw [within_cons] at hw
    by_cases hfirst : isWritten item → start< size
    · exact Moves.refuses (hitem start item v hfirst) (ih fun hrest => hw ⟨hfirst,hrest⟩)
    · obtain ⟨hwritten,hplace⟩ := Classical.not_imp.mp hfirst
      exact (hrefuse start item v hwritten hplace).append _

end Counted

/-- Members of a plan have names. -/
theorem key_ne_none (m : BandMember) : m.key≠.none := by
  intro hnone
  cases m with
  | scalar m => exact Member.key_ne_none m hnone
  | _ => cases hnone

/-- A member that is an array. -/
theorem moves_arrayMember {key : Key} (hkey : key≠.none) {items : List (List Event)}
    {opened closed next : RegionBandsJsonHandler}
    (hstart : RegionBandsJsonHandler.call {h with keyIndex := key} .startArray=some ({opened with keyIndex := key},true))
    (hitems : Moves opened items.flatten closed) (hstop : Moves closed [.endArray] next) :
    Moves h (.key (ascii (nameOf key))::BandMember.arrayEvents items) next :=
  Moves.container key opened closed (names_nameOf hkey) hstart hitems hstop

/-- A member that is an array with an item that is refused. -/
theorem refuses_arrayMember {key : Key} (hkey : key≠.none) {items : List (List Event)} {opened : RegionBandsJsonHandler}
    (hstart : RegionBandsJsonHandler.call {h with keyIndex := key} .startArray=some ({opened with keyIndex := key},true))
    (hitems : Refuses opened items.flatten) : Refuses h (.key (ascii (nameOf key))::BandMember.arrayEvents items) :=
  Moves.refuses (Moves.scalar key (names_nameOf hkey) hstart) (hitems.append [.endArray])

end Moving

section Placed

variable {h : RegionBandsJsonHandler} {version : LorawanVersion} {bands : List RegionalParameterChannelPlan}
  {b : RegionalParameterChannelPlan}

/-- The call of a number. -/
theorem call_number (h : RegionBandsJsonHandler) (n : Number) : h.call n.event=some (h.integer n.value) :=
  call_int h n.low n.high

/-- A number that is refused. -/
theorem refuses_number {n : Number}
    (hinteger : ∀ key,∃ last,RegionBandsJsonHandler.integer {h with keyIndex := key} n.value=(last,false)) :
    Refuses h [n.event] := by
  refine Refuses.single fun key => ?_
  obtain ⟨last,hlast⟩ := hinteger key
  exact ⟨last,(call_number _ n).trans (congrArg some hlast)⟩

/-- A number that comes to a plan when its counter leaves no room. -/
theorem integer_refused {g last : RegionBandsJsonHandler} {n : ℤ} {size start : ℕ}
    {empty taken : RegionBandsJsonHandler × Bool} (hbands : g.storage.bands≠[]) (hp : ¬start< size)
    (hinteger : g.integer n=if g.storage.bands=[] then empty else if size≤ start then (last,false) else taken) :
    ∃ last,g.integer n=(last,false) :=
  ⟨last,by rw [hinteger,if_neg hbands,if_pos (not_lt.mp hp)]⟩

/-- A member of a plan that is no object and no array. -/
theorem moves_scalarMember (m : ScalarMember) :
    Moves (place h .band version bands b) (BandMember.scalar m).events
      (place h .band version bands ((BandMember.scalar m).write 0 b)) := by
  refine Moves.scalar (Member.key m) (names_nameOf (Member.key_ne_none m)) ?_
  have hcall : RegionBandsJsonHandler.call (place {h with keyIndex := Member.key m} .band version bands b) (Member.event m)=
      some ((place {h with keyIndex := Member.key m} .band version bands b).onBack (Member.write m)) := by
    cases m with
    | id n => exact call_number _ n
    | maxUplinkEIRP n => exact call_number _ n
    | defaultDownlinkTXPower n => exact call_number _ n
    | pingSlotFrequency n => exact call_number _ n
    | maxUplinkEIRPDouble text =>
      generalize hd : toDouble (decimalValue text)=d
      have hwrite : Member.write (ScalarMember.maxUplinkEIRPDouble text)=
          fun rb : RegionalParameterChannelPlan => {rb with maxUplinkEIRP := toFloat d} := by
        rw [← hd]
        rfl
      rw [hwrite]
      change some ((place {h with keyIndex := Key.maxUplinkEIRP} .band version bands b).double
        (toDouble (decimalValue text)))=_
      rw [hd]
      rfl
    | _ => rfl
  exact hcall.trans (congrArg some (onBack_place _))

/-- The defaults of a plan. -/
theorem moves_defaultsMember (o : Object DefaultsMember) :
    Moves (place h .band version bands b) (BandMember.bandDefaults o).events
      (place (zeroed h) .band version bands ((BandMember.bandDefaults o).write 0 b)) := by
  have hinner := moves_inner
    (fun d => place (zeroed h) .bandDefaults version bands {b with bandDefaults := d}) o (fun m _ d => ?_) b.bandDefaults
  · exact Moves.container .bandDefaults (place (zeroed h) .bandDefaults version bands b) _
      (@names_nameOf .bandDefaults (by decide)) rfl hinner (Moves.single fun _ => rfl)
  · have hcall : RegionBandsJsonHandler.call
        (place {zeroed h with keyIndex := Member.key m} .bandDefaults version bands {b with bandDefaults := d})
        (Member.event m)=
          some ((place {zeroed h with keyIndex := Member.key m} .bandDefaults version bands
            {b with bandDefaults := d}).onBack fun rb => {rb with bandDefaults := Member.write m rb.bandDefaults}) := by
      cases m <;> exact call_number _ _
    exact hcall.trans (congrArg some (onBack_place _))

/-- The members of an object in a place of a vector. -/
theorem moves_slot {μ α : Type} [Member μ α] {n start : ℕ} (at' : Vector α n → RegionBandsJsonHandler) (o : Object μ)
    (v : Vector α n) (hp : o.members≠[] → start<n)
    (hm : ∀ (m : μ) v,start<n → RegionBandsJsonHandler.call {at' v with keyIndex := Member.key m} (Member.event m)=
      some ({at' (modifyAt v start (Member.write m)) with keyIndex := Member.key m},true)) :
    Moves (at' v) o.inner (at' (modifyAt v start o.write)) := by
  have hwrite : o.write=fun a => o.members.foldl (fun a m => Member.write m a) a := rfl
  rw [Object.inner,hwrite]
  generalize o.members=members at hp
  induction members generalizing v with
  | nil =>
    have hsame : modifyAt v start (fun a => ([] : List μ).foldl (fun a m => Member.write m a) a)=v := modifyAt_id v start
    rw [hsame]
    exact .refl
  | cons m rest ih =>
    have hstart : start<n := hp (List.cons_ne_nil m rest)
    have hfirst := Moves.scalar (Member.key m) (names_nameOf (Member.key_ne_none m)) (hm m v hstart)
    have hrest := ih (modifyAt v start (Member.write m)) fun _ => hstart
    rw [modifyAt_modifyAt] at hrest
    exact hfirst.trans hrest

/-- A member of a data rate. -/
theorem call_rateMember (m : RateMember) :
    RegionBandsJsonHandler.call (place {h with keyIndex := Member.key m} .dataRate version bands b) (Member.event m)=
      some ((place {h with keyIndex := Member.key m} .dataRate version bands b).onDataRate (Member.write m)) := by
  cases m with
  | bandwidth n => exact call_number _ n
  | spreadingFactor n => exact call_number _ n
  | bps n => exact call_number _ n
  | bandwidthDouble text =>
    generalize hd : toDouble (decimalValue text)=d
    have hwrite : Member.write (RateMember.bandwidthDouble text)=
        fun r : DataRate => {r with bandwidth := double2BANDWIDTH d} := by
      rw [← hd]
      rfl
    rw [hwrite]
    change some ((place {h with keyIndex := Key.bandwidth} .dataRate version bands b).double
      (toDouble (decimalValue text)))=_
    rw [hd]
    rfl
  | _ => rfl

/-- A data rate with a place. -/
theorem moves_rateObject (o : Object RateMember) {start : ℕ} (v : Vector DataRate DATA_RATE_SIZE)
    (hp : o.members≠[] → start<DATA_RATE_SIZE) :
    Moves (place {h with dataRateCount := start} .dataRates version bands {b with dataRates := v}) o.events
      (place {h with dataRateCount := start+1} .dataRates version bands
        {b with dataRates := modifyAt v start o.write}) := by
  refine Moves.inside _ _ (fun _ => rfl)
    (moves_slot (fun v => place {h with dataRateCount := start+1} .dataRate version bands {b with dataRates := v}) o v hp
      fun m v hstart => ?_) (Moves.single fun _ => rfl)
  have hcall := @call_rateMember {h with dataRateCount := start+1} version bands {b with dataRates := v} m
  have hplace := @onDataRate_place {h with dataRateCount := start+1,keyIndex := Member.key m} .dataRate version bands
    {b with dataRates := v} (Member.write m) hstart
  exact hcall.trans (congrArg some hplace)

/-- A data rate without a place. -/
theorem refuses_rateObject {o : Object RateMember} {start : ℕ} (hne : o.members≠[]) (hp : ¬start<DATA_RATE_SIZE) :
    Refuses (place {h with dataRateCount := start} .dataRates version bands b) o.events := by
  have hopen : Moves (place {h with dataRateCount := start} .dataRates version bands b) [.startObject]
      (place {h with dataRateCount := start+1} .dataRate version bands b) := Moves.single fun _ => rfl
  refine Moves.refuses hopen ((refuses_inner hne fun m => ?_).append _)
  have hcount : DATA_RATE_SIZE<start+1 := by omega
  have hrefuse : ((place {h with dataRateCount := start+1,keyIndex := Member.key m} .dataRate version bands
      b).onDataRate (Member.write m))=
        (place {h with dataRateCount := start+1,keyIndex := Member.key m} .dataRate version bands b).refuse
          "dataRates array size bigger than 8 elements" := by
    rw [RegionBandsJsonHandler.onDataRate,if_neg place_ne_nil]
    exact if_pos hcount
  exact ⟨_,(@call_rateMember {h with dataRateCount := start+1} version bands b m).trans (congrArg some hrefuse)⟩

/-- The data rates of a plan, where their counter stands. -/
theorem moves_dataRatesMember {items : List (Object RateMember)}
    (hw : (BandMember.dataRates items).Fits h.dataRateCount) :
    Moves (place h .band version bands b) (BandMember.dataRates items).events
      (place {h with dataRateCount := h.dataRateCount+items.length} .band version bands
        ((BandMember.dataRates items).write h.dataRateCount b)) :=
  moves_arrayMember (key_ne_none (.dataRates items)) rfl
    (@moves_counted _ _ _ (fun start v => place {h with dataRateCount := start} .dataRates version bands
        {b with dataRates := v}) _ _ (fun start items v => placeFrom v start (items.map Object.write))
      (fun start o v => modifyAt v start o.write) (fun _ _ => rfl) (fun _ _ _ _ => rfl)
      (fun _ o v hp => moves_rateObject o v hp) _ _ b.dataRates hw) (Moves.single fun _ => rfl)

/-- One of them has no place. -/
theorem refuses_dataRatesMember {items : List (Object RateMember)}
    (hw : ¬(BandMember.dataRates items).Fits h.dataRateCount) :
    Refuses (place h .band version bands b) (BandMember.dataRates items).events :=
  refuses_arrayMember (key_ne_none (.dataRates items)) rfl
    (@refuses_counted _ _ _ (fun start v => place {h with dataRateCount := start} .dataRates version bands
        {b with dataRates := v}) _ _ (fun start o v => modifyAt v start o.write)
      (fun _ o v hp => moves_rateObject o v hp) (fun _ _ _ hne hp => refuses_rateObject hne hp) _ _ b.dataRates hw)

/-- The longest payloads in a place of one of the two arrays. -/
theorem moves_sizeObject {inner outside : State} {next : RegionBandsJsonHandler} (o : Object SizeMember) {start : ℕ}
    (set : Vector MaxPayloadSize DATA_RATE_SIZE → RegionalParameterChannelPlan)
    (v : Vector MaxPayloadSize DATA_RATE_SIZE) (hp : o.members≠[] → start<DATA_RATE_SIZE)
    (hstart : ∀ key,RegionBandsJsonHandler.call {place h outside version bands (set v) with keyIndex := key} .startObject=
      some ({place h inner version bands (set v) with keyIndex := key},true))
    (hinteger : ∀ key n f v,start<DATA_RATE_SIZE → RegionBandsJsonHandler.sizeInteger key n=some f →
      (place {h with keyIndex := key} inner version bands (set v)).integer n=
        (place {h with keyIndex := key} inner version bands (set (modifyAt v start f)),true))
    (hstop : ∀ v,Moves (place h inner version bands (set v)) [.endObject] (place next outside version bands (set v))) :
    Moves (place h outside version bands (set v)) o.events
      (place next outside version bands (set (modifyAt v start o.write))) := by
  refine Moves.inside _ _ hstart
    (moves_slot (fun v => place h inner version bands (set v)) o v hp fun m v hplace => ?_) (hstop _)
  cases m with
  | m n => exact (call_number _ n).trans (congrArg some (hinteger .m n.value _ v hplace rfl))
  | n n => exact (call_number _ n).trans (congrArg some (hinteger .n n.value _ v hplace rfl))

/-- The longest payloads of an array without a place in it. -/
theorem refuses_sizeObject {inner outside : State} {o : Object SizeMember} (hne : o.members≠[])
    (hstart : ∀ key,RegionBandsJsonHandler.call {place h outside version bands b with keyIndex := key} .startObject=
      some ({place h inner version bands b with keyIndex := key},true))
    (hinteger : ∀ key n,∃ last,(place {h with keyIndex := key} inner version bands b).integer n=(last,false)) :
    Refuses (place h outside version bands b) o.events := by
  refine Moves.refuses (Moves.single hstart) ((refuses_inner hne fun m => ?_).append _)
  obtain ⟨n,hn⟩ : ∃ n : Number,Member.event m=n.event := by cases m <;> exact ⟨_,rfl⟩
  obtain ⟨last,hlast⟩ := hinteger (Member.key m) n.value
  rw [hn]
  exact ⟨last,(call_number _ n).trans (congrArg some hlast)⟩

/-- Longest payloads with a place. -/
theorem moves_pSizeObject (o : Object SizeMember) {start : ℕ} (v : Vector MaxPayloadSize DATA_RATE_SIZE)
    (hp : o.members≠[] → start<DATA_RATE_SIZE) :
    Moves (place {h with maxPayloadSizePerDataRateCount := start} .pSizes version bands {b with maxPayloadSizePerDataRate := v})
      o.events
      (place {h with maxPayloadSizePerDataRateCount := start+1} .pSizes version bands
        {b with maxPayloadSizePerDataRate := modifyAt v start o.write}) :=
  @moves_sizeObject {h with maxPayloadSizePerDataRateCount := start} version bands .pSize .pSizes
    {h with maxPayloadSizePerDataRateCount := start+1} o start (fun v => {b with maxPayloadSizePerDataRate := v}) v hp
    (fun _ => rfl)
    (fun _ _ _ _ hc hf => @integer_pSize {h with maxPayloadSizePerDataRateCount := start} _ _ _ _ _ _ hc hf)
    fun _ => Moves.single fun _ => rfl

/-- Longest payloads without a place. -/
theorem refuses_pSizeObject {o : Object SizeMember} {start : ℕ} (hne : o.members≠[]) (hp : ¬start<DATA_RATE_SIZE) :
    Refuses (place {h with maxPayloadSizePerDataRateCount := start} .pSizes version bands b) o.events :=
  @refuses_sizeObject {h with maxPayloadSizePerDataRateCount := start} version bands b .pSize .pSizes o hne
    (fun _ => rfl) fun _ _ => integer_refused place_ne_nil hp rfl

/-- The longest payloads of a plan, where their counter stands. -/
theorem moves_sizesMember {items : List (Object SizeMember)}
    (hw : (BandMember.maxPayloadSizePerDataRate items).Fits h.maxPayloadSizePerDataRateCount) :
    Moves (place h .band version bands b) (BandMember.maxPayloadSizePerDataRate items).events
      (place {h with maxPayloadSizePerDataRateCount := h.maxPayloadSizePerDataRateCount+items.length} .band
        version bands ((BandMember.maxPayloadSizePerDataRate items).write h.maxPayloadSizePerDataRateCount b)) :=
  moves_arrayMember (key_ne_none (.maxPayloadSizePerDataRate items)) rfl
    (@moves_counted _ _ _ (fun start v => place {h with maxPayloadSizePerDataRateCount := start} .pSizes version
        bands {b with maxPayloadSizePerDataRate := v}) _ _
      (fun start items v => placeFrom v start (items.map Object.write)) (fun start o v => modifyAt v start o.write)
      (fun _ _ => rfl) (fun _ _ _ _ => rfl) (fun _ o v hp => moves_pSizeObject o v hp) _ _
      b.maxPayloadSizePerDataRate hw) (Moves.single fun _ => rfl)

/-- One of them has no place. -/
theorem refuses_sizesMember {items : List (Object SizeMember)}
    (hw : ¬ (BandMember.maxPayloadSizePerDataRate items).Fits h.maxPayloadSizePerDataRateCount) :
    Refuses (place h .band version bands b) (BandMember.maxPayloadSizePerDataRate items).events :=
  refuses_arrayMember (key_ne_none (.maxPayloadSizePerDataRate items)) rfl
    (@refuses_counted _ _ _ (fun start v => place {h with maxPayloadSizePerDataRateCount := start} .pSizes version
        bands {b with maxPayloadSizePerDataRate := v}) _ _ (fun start o v => modifyAt v start o.write)
      (fun _ o v hp => moves_pSizeObject o v hp) (fun _ _ _ hne hp => refuses_pSizeObject hne hp) _ _
      b.maxPayloadSizePerDataRate hw)

/-- Longest payloads with a repeater with a place. -/
theorem moves_prptSizeObject (o : Object SizeMember) {start : ℕ} (v : Vector MaxPayloadSize DATA_RATE_SIZE)
    (hp : o.members≠[] → start<DATA_RATE_SIZE) :
    Moves (place {h with maxPayloadSizePerDataRateRepeaterCount := start} .prptSizes version bands {b with maxPayloadSizePerDataRateRepeater := v})
      o.events
      (place {h with maxPayloadSizePerDataRateRepeaterCount := start+1} .prptSizes version bands
        {b with maxPayloadSizePerDataRateRepeater := modifyAt v start o.write}) :=
  @moves_sizeObject {h with maxPayloadSizePerDataRateRepeaterCount := start} version bands .prptSize .prptSizes
    {h with maxPayloadSizePerDataRateRepeaterCount := start+1} o start (fun v => {b with maxPayloadSizePerDataRateRepeater := v}) v hp
    (fun _ => rfl)
    (fun _ _ _ _ hc hf => @integer_prptSize {h with maxPayloadSizePerDataRateRepeaterCount := start} _ _ _ _ _ _ hc hf)
    fun _ => Moves.single fun _ => rfl

/-- Longest payloads with a repeater without a place. -/
theorem refuses_prptSizeObject {o : Object SizeMember} {start : ℕ} (hne : o.members≠[]) (hp : ¬start<DATA_RATE_SIZE) :
    Refuses (place {h with maxPayloadSizePerDataRateRepeaterCount := start} .prptSizes version bands b) o.events :=
  @refuses_sizeObject {h with maxPayloadSizePerDataRateRepeaterCount := start} version bands b .prptSize .prptSizes o hne
    (fun _ => rfl) fun _ _ => integer_refused place_ne_nil hp rfl

/-- The longest payloads with a repeater, where their counter stands. -/
theorem moves_repeaterMember {items : List (Object SizeMember)}
    (hw : (BandMember.maxPayloadSizePerDataRateRepeater items).Fits h.maxPayloadSizePerDataRateRepeaterCount) :
    Moves (place h .band version bands b) (BandMember.maxPayloadSizePerDataRateRepeater items).events
      (place {h with maxPayloadSizePerDataRateRepeaterCount := h.maxPayloadSizePerDataRateRepeaterCount+items.length} .band
        version bands ((BandMember.maxPayloadSizePerDataRateRepeater items).write h.maxPayloadSizePerDataRateRepeaterCount b)) :=
  moves_arrayMember (key_ne_none (.maxPayloadSizePerDataRateRepeater items)) rfl
    (@moves_counted _ _ _ (fun start v => place {h with maxPayloadSizePerDataRateRepeaterCount := start} .prptSizes version
        bands {b with maxPayloadSizePerDataRateRepeater := v}) _ _
      (fun start items v => placeFrom v start (items.map Object.write)) (fun start o v => modifyAt v start o.write)
      (fun _ _ => rfl) (fun _ _ _ _ => rfl) (fun _ o v hp => moves_prptSizeObject o v hp) _ _
      b.maxPayloadSizePerDataRateRepeater hw) (Moves.single fun _ => rfl)

/-- One of them has no place. -/
theorem refuses_repeaterMember {items : List (Object SizeMember)}
    (hw : ¬ (BandMember.maxPayloadSizePerDataRateRepeater items).Fits h.maxPayloadSizePerDataRateRepeaterCount) :
    Refuses (place h .band version bands b) (BandMember.maxPayloadSizePerDataRateRepeater items).events :=
  refuses_arrayMember (key_ne_none (.maxPayloadSizePerDataRateRepeater items)) rfl
    (@refuses_counted _ _ _ (fun start v => place {h with maxPayloadSizePerDataRateRepeaterCount := start} .prptSizes version
        bands {b with maxPayloadSizePerDataRateRepeater := v}) _ _ (fun start o v => modifyAt v start o.write)
      (fun _ o v hp => moves_prptSizeObject o v hp) (fun _ _ _ hne hp => refuses_prptSizeObject hne hp) _ _
      b.maxPayloadSizePerDataRateRepeater hw)

/-- The bytes of numbers. -/
def offsetBytes (list : List Number) : List UInt8 := list.map fun n => UInt8.ofInt n.value

/-- A number of the first window with a place. -/
theorem integer_offset {key : Key} {n : ℤ} (hp : h.rx1DataRateOffsetCount<DATA_RATE_SIZE) :
    (place {h with keyIndex := key} .rx1DrOffset version bands b).integer n=
      (place {h with keyIndex := key} .rx1DrOffset version bands {b with
        rx1DataRateOffsets := modifyAt b.rx1DataRateOffsets h.rx1DataRateOffsetCount (·++[UInt8.ofInt n])},true) := by
  change (if (place {h with keyIndex := key} .rx1DrOffset version bands b).storage.bands=[] then _
    else if DATA_RATE_SIZE≤h.rx1DataRateOffsetCount then _ else _)=_
  rw [if_neg place_ne_nil,if_neg (not_le.mpr hp)]
  exact congrArg (·,true) (setBack_place _)

/-- Data rates of the first window for one place. -/
theorem moves_offsetNumbers (list : List Number) {start : ℕ} (v : Vector (List UInt8) DATA_RATE_SIZE)
    (hp : list≠[] → start<DATA_RATE_SIZE) :
    Moves (place {h with rx1DataRateOffsetCount := start} .rx1DrOffset version bands {b with rx1DataRateOffsets := v})
      (list.map fun n => [n.event]).flatten
      (place {h with rx1DataRateOffsetCount := start} .rx1DrOffset version bands
        {b with rx1DataRateOffsets := modifyAt v start (·++offsetBytes list)}) := by
  induction list generalizing v with
  | nil =>
    have hsame : modifyAt v start (·++offsetBytes [])=v := by
      simp only [offsetBytes,List.map_nil,List.append_nil]
      exact modifyAt_id v start
    rw [hsame]
    exact .refl
  | cons n rest ih =>
    have hstart : start<DATA_RATE_SIZE := hp (List.cons_ne_nil n rest)
    have hfirst : Moves
        (place {h with rx1DataRateOffsetCount := start} .rx1DrOffset version bands {b with rx1DataRateOffsets := v})
        [n.event]
        (place {h with rx1DataRateOffsetCount := start} .rx1DrOffset version bands
          {b with rx1DataRateOffsets := modifyAt v start (·++[UInt8.ofInt n.value])}) := by
      refine Moves.single fun key => (call_number _ n).trans (congrArg some ?_)
      exact @integer_offset {h with rx1DataRateOffsetCount := start} version bands {b with rx1DataRateOffsets := v} key
        n.value hstart
    have hrest := ih (modifyAt v start (·++[UInt8.ofInt n.value])) fun _ => hstart
    rw [modifyAt_modifyAt] at hrest
    simp only [List.append_assoc] at hrest
    exact hfirst.trans hrest

/-- Data rates of the first window with a place. -/
theorem moves_offsetList (list : List Number) {start : ℕ} (v : Vector (List UInt8) DATA_RATE_SIZE)
    (hp : list≠[] → start<DATA_RATE_SIZE) :
    Moves (place {h with rx1DataRateOffsetCount := start} .rx1DrOffsets version bands {b with rx1DataRateOffsets := v})
      (BandMember.arrayEvents (list.map fun n => [n.event]))
      (place {h with rx1DataRateOffsetCount := start+1} .rx1DrOffsets version bands
        {b with rx1DataRateOffsets := modifyAt v start (·++offsetBytes list)}) :=
  Moves.inside _ _ (fun _ => rfl) (moves_offsetNumbers list v hp) (Moves.single fun _ => rfl)

/-- Data rates of the first window without a place. -/
theorem refuses_offsetList {list : List Number} {start : ℕ} (hne : list≠[]) (hp : ¬start<DATA_RATE_SIZE) :
    Refuses (place {h with rx1DataRateOffsetCount := start} .rx1DrOffsets version bands b)
      (BandMember.arrayEvents (list.map fun n => [n.event])) := by
  obtain ⟨n,rest,rfl⟩ := List.exists_cons_of_ne_nil hne
  have hopen : Moves (place {h with rx1DataRateOffsetCount := start} .rx1DrOffsets version bands b) [.startArray]
      (place {h with rx1DataRateOffsetCount := start} .rx1DrOffset version bands b) := Moves.single fun _ => rfl
  have hfirst : Refuses (place {h with rx1DataRateOffsetCount := start} .rx1DrOffset version bands b) [n.event] :=
    refuses_number fun _ =>
      integer_refused (@place_ne_nil {h with rx1DataRateOffsetCount := start} .rx1DrOffset version bands b) hp rfl
  exact Moves.refuses hopen (hfirst.append _)

/-- The data rates of the first window, where their counter stands. -/
theorem moves_offsetsMember {items : List (List Number)}
    (hw : (BandMember.rx1DataRateOffsets items).Fits h.rx1DataRateOffsetCount) :
    Moves (place h .band version bands b) (BandMember.rx1DataRateOffsets items).events
      (place {h with rx1DataRateOffsetCount := h.rx1DataRateOffsetCount+items.length} .band version bands
        ((BandMember.rx1DataRateOffsets items).write h.rx1DataRateOffsetCount b)) :=
  moves_arrayMember (key_ne_none (.rx1DataRateOffsets items)) rfl
    (@moves_counted _ _ _ (fun start v => place {h with rx1DataRateOffsetCount := start} .rx1DrOffsets version bands
        {b with rx1DataRateOffsets := v}) _ _
      (fun start items v => placeFrom v start (items.map fun list old => old++offsetBytes list))
      (fun start list v => modifyAt v start (·++offsetBytes list)) (fun _ _ => rfl) (fun _ _ _ _ => rfl)
      (fun _ list v hp => moves_offsetList list v hp) _ _ b.rx1DataRateOffsets hw) (Moves.single fun _ => rfl)

/-- One of them has no place. -/
theorem refuses_offsetsMember {items : List (List Number)}
    (hw : ¬ (BandMember.rx1DataRateOffsets items).Fits h.rx1DataRateOffsetCount) :
    Refuses (place h .band version bands b) (BandMember.rx1DataRateOffsets items).events :=
  refuses_arrayMember (key_ne_none (.rx1DataRateOffsets items)) rfl
    (@refuses_counted _ _ _ (fun start v => place {h with rx1DataRateOffsetCount := start} .rx1DrOffsets version bands
        {b with rx1DataRateOffsets := v}) _ _ (fun start list v => modifyAt v start (·++offsetBytes list))
      (fun _ list v hp => moves_offsetList list v hp) (fun _ _ _ hne hp => refuses_offsetList hne hp) _ _
      b.rx1DataRateOffsets hw)

/-- A power step with a place. -/
theorem moves_powerNumber (n : Number) {start : ℕ} (done : List Int8) (hp : start<TX_POWER_OFFSET_MAX_SIZE) :
    Moves (place {h with txPowerOffsetCount := start} .txPowerOfs version bands {b with txPowerOffsets := done}) [n.event]
      (place {h with txPowerOffsetCount := start+1} .txPowerOfs version bands
        {b with txPowerOffsets := done++[Int8.ofInt n.value]}) := by
  refine Moves.single fun key => (call_number _ n).trans (congrArg some ?_)
  change (if (place {h with keyIndex := key,txPowerOffsetCount := start} .txPowerOfs version bands _).storage.bands=[]
    then _ else if TX_POWER_OFFSET_MAX_SIZE≤ start then _ else _)=_
  rw [if_neg place_ne_nil,if_neg (not_le.mpr hp)]
  have hset := @setBack_place {h with keyIndex := key,txPowerOffsetCount := start} .txPowerOfs version bands
    {b with txPowerOffsets := done} fun rb => {rb with txPowerOffsets := rb.txPowerOffsets++[Int8.ofInt n.value]}
  exact congrArg (fun g : RegionBandsJsonHandler => ({g with txPowerOffsetCount := start+1},true)) hset

/-- A power step without a place. -/
theorem refuses_powerNumber (n : Number) {start : ℕ} (hp : ¬start<TX_POWER_OFFSET_MAX_SIZE) :
    Refuses (place {h with txPowerOffsetCount := start} .txPowerOfs version bands b) [n.event] :=
  refuses_number fun _ =>
    integer_refused (@place_ne_nil {h with txPowerOffsetCount := start} .txPowerOfs version bands b) hp rfl

/-- The power steps of a plan, as many as their counter leaves room for. -/
theorem moves_powerMember {items : List Number} (hw : (BandMember.txPowerOffsets items).Fits h.txPowerOffsetCount) :
    Moves (place h .band version bands b) (BandMember.txPowerOffsets items).events
      (place {h with txPowerOffsetCount := h.txPowerOffsetCount+items.length} .band version bands
        ((BandMember.txPowerOffsets items).write h.txPowerOffsetCount b)) :=
  moves_arrayMember (key_ne_none (.txPowerOffsets items)) rfl
    (@moves_counted _ _ _ (fun start v => place {h with txPowerOffsetCount := start} .txPowerOfs version bands
        {b with txPowerOffsets := v}) _ _ (fun _ items v => v++items.map fun n => Int8.ofInt n.value)
      (fun _ n v => v++[Int8.ofInt n.value]) (fun _ v => List.append_nil v)
      (fun _ n _ v => (List.append_assoc v [Int8.ofInt n.value] _).symm)
      (fun _ n v hp => moves_powerNumber n v (hp trivial)) _ _ b.txPowerOffsets hw) (Moves.single fun _ => rfl)

/-- One of them has no place. -/
theorem refuses_powerMember {items : List Number}
    (hw : ¬ (BandMember.txPowerOffsets items).Fits h.txPowerOffsetCount) :
    Refuses (place h .band version bands b) (BandMember.txPowerOffsets items).events :=
  refuses_arrayMember (key_ne_none (.txPowerOffsets items)) rfl
    (@refuses_counted _ _ _ (fun start v => place {h with txPowerOffsetCount := start} .txPowerOfs version bands
        {b with txPowerOffsets := v}) _ _ (fun _ n v => v++[Int8.ofInt n.value])
      (fun _ n v hp => moves_powerNumber n v (hp trivial)) (fun _ n _ _ hp => refuses_powerNumber n hp) _ _
      b.txPowerOffsets hw)

/-- A number of the last channel of either array. -/
theorem call_channelNumber {m : ChannelMember} (hm : ¬m.IsFlag) :
    ∃ n : Number,Member.event m=n.event ∧
      RegionBandsJsonHandler.channelInteger (Member.key m) n.value=some (Member.write m) := by
  cases m with
  | frequency n => exact ⟨n,rfl,rfl⟩
  | minDR n => exact ⟨n,rfl,rfl⟩
  | maxDR n => exact ⟨n,rfl,rfl⟩
  | enabled value => exact absurd trivial hm
  | custom value => exact absurd trivial hm

/-- A flag of a channel. -/
theorem call_channelFlag {m : ChannelMember} (hm : m.IsFlag) :
    ∃ value,Member.event m=.bool value ∧ (Member.key m=.enabled ∨ Member.key m=.custom) ∧
      withFlag (Member.key m) value=Member.write m := by
  cases m with
  | enabled value => exact ⟨value,rfl,.inl rfl,rfl⟩
  | custom value => exact ⟨value,rfl,.inr rfl,rfl⟩
  | _ => exact absurd hm id

/-- A member of the last uplink channel. -/
theorem call_uplinkMember (m : ChannelMember) {done : List Channel} (hp : h.prevState=.uplinks) (c : Channel) :
    RegionBandsJsonHandler.call (place {h with keyIndex := Member.key m} .channel version bands
        {b with uplinkChannels := done++[c]}) (Member.event m)=
      some (place {h with keyIndex := Member.key m} .channel version bands
        {b with uplinkChannels := done++[Member.write m c]},true) := by
  have hsome : done++[c]≠[] := List.append_ne_nil_of_right_ne_nil _ (List.cons_ne_nil _ _)
  by_cases hm : m.IsFlag
  · obtain ⟨value,hevent,hkey,hwrite⟩ := call_channelFlag hm
    rw [hevent]
    refine (call_flag hkey (.inl ⟨hp,hsome⟩)).trans ?_
    dsimp only
    rw [if_neg hsome,List.modifyLast_concat,hwrite]
  · obtain ⟨n,hevent,hwrite⟩ := call_channelNumber hm
    rw [hevent,call_number,integer_channel]
    dsimp only
    rw [hp,hwrite]
    dsimp only
    rw [if_neg hsome,List.modifyLast_concat]

/-- A number of the last downlink channel. -/
theorem call_downlinkMember {m : ChannelMember} (hm : ¬m.IsFlag) {done : List Channel} (hp : h.prevState=.downlinks)
    (c : Channel) :
    RegionBandsJsonHandler.call (place {h with keyIndex := Member.key m} .channel version bands
        {b with downlinkChannels := done++[c]}) (Member.event m)=
      some (place {h with keyIndex := Member.key m} .channel version bands
        {b with downlinkChannels := done++[Member.write m c]},true) := by
  have hsome : done++[c]≠[] := List.append_ne_nil_of_right_ne_nil _ (List.cons_ne_nil _ _)
  obtain ⟨n,hevent,hwrite⟩ := call_channelNumber hm
  rw [hevent,call_number,integer_channel]
  dsimp only
  rw [hp,hwrite]
  dsimp only
  rw [if_neg hsome,List.modifyLast_concat]

/-- One uplink channel. -/
theorem moves_uplinkObject (o : Object ChannelMember) {done : List Channel} (hp : h.prevState=.uplinks) :
    Moves (place h .uplinks version bands {b with uplinkChannels := done}) o.events
      (place h .uplinks version bands {b with uplinkChannels := done++[o.write .new]}) := by
  have hinner := moves_inner (fun c => place h .channel version bands {b with uplinkChannels := done++[c]}) o
    (fun m _ c => @call_uplinkMember h version bands b m done hp c) .new
  refine Moves.inside _ _ (fun key => ?_) hinner (moves_channelEnd hp)
  change some (if (place {h with keyIndex := key} .channel version bands _).storage.bands=[] then _ else _)=_
  rw [if_neg place_ne_nil]
  exact congrArg (fun g => some (g,true)) (setBack_place _)

/-- One downlink channel without a flag. -/
theorem moves_downlinkObject {o : Object ChannelMember} (ho : ∀ m∈o.members,¬m.IsFlag) {done : List Channel}
    (hp : h.prevState=.downlinks) :
    Moves (place h .downlinks version bands {b with downlinkChannels := done}) o.events
      (place h .downlinks version bands {b with downlinkChannels := done++[o.write .new]}) := by
  have hinner := moves_inner (fun c => place h .channel version bands {b with downlinkChannels := done++[c]}) o
    (fun m hm c => @call_downlinkMember h version bands b m (ho m hm) done hp c) .new
  exact Moves.inside _ _ call_downlinkStart hinner (moves_channelEnd hp)

/-- The channels of uplinks. -/
theorem moves_uplinksMember (items : List (Object ChannelMember)) (start : ℕ) :
    Moves (place h .band version bands b) (BandMember.uplinkChannels items).events
      (place {h with prevState := .uplinks} .band version bands ((BandMember.uplinkChannels items).write start b)) :=
  moves_arrayMember (key_ne_none (.uplinkChannels items)) rfl
    (@moves_counted _ _ 0 (fun _ v => place {h with prevState := .uplinks} .uplinks version bands
        {b with uplinkChannels := v}) _ (fun _ => False) (fun _ items v => v++items.map fun o => o.write .new)
      (fun _ o v => v++[o.write .new]) (fun _ v => List.append_nil v)
      (fun _ o _ v => (List.append_assoc v [o.write .new] _).symm)
      (fun _ o _ _ => moves_uplinkObject o rfl) 0 items b.uplinkChannels fun _ _ _ hno => hno.elim)
    (Moves.single fun _ => rfl)

/-- The channels of downlinks, none of which has a flag. -/
theorem moves_downlinksMember {items : List (Object ChannelMember)}
    (hflags : (BandMember.downlinkChannels items).IsFlagless) (start : ℕ) :
    Moves (place h .band version bands b) (BandMember.downlinkChannels items).events
      (place {h with prevState := .downlinks} .band version bands
        ((BandMember.downlinkChannels items).write start b)) := by
  have hitems : Moves (place {h with prevState := .downlinks} .downlinks version bands b)
      (items.map Object.events).flatten
      (place {h with prevState := .downlinks} .downlinks version bands
        ((BandMember.downlinkChannels items).write start b)) := by
    have happend : ∀ (rest : List (Object ChannelMember)) (done : List Channel),
        rest.foldl (fun done o => done++[o.write .new]) done=done++rest.map fun o => o.write .new := by
      intro rest
      induction rest with
      | nil => exact fun done => (List.append_nil done).symm
      | cons o rest ih => exact fun done => (ih (done++[o.write .new])).trans (List.append_assoc done [o.write .new] _)
    have hmoves := moves_items (fun o ho done =>
      @moves_downlinkObject {h with prevState := .downlinks} version bands b o (hflags o ho) done rfl) b.downlinkChannels
    rw [happend] at hmoves
    exact hmoves
  exact moves_arrayMember (key_ne_none (.downlinkChannels items)) rfl hitems (Moves.single fun _ => rfl)

/-- The flag of a downlink channel without uplink channels. -/
theorem fails_downlinkObject {o : Object ChannelMember} (ho : ¬∀ m∈o.members,¬m.IsFlag) (hp : h.prevState=.downlinks)
    (hu : b.uplinkChannels=[]) (done : List Channel) :
    Fails (place h .downlinks version bands {b with downlinkChannels := done}) o.events := by
  have hnumber : ∀ (m : ChannelMember) (c : Channel),¬m.IsFlag →
      Moves (place h .channel version bands {b with downlinkChannels := done++[c]})
        [.key (ascii (nameOf (Member.key m))),Member.event m]
        (place h .channel version bands {b with downlinkChannels := done++[Member.write m c]}) :=
    fun m c hm => Moves.scalar (Member.key m) (names_nameOf (Member.key_ne_none m)) (call_downlinkMember hm hp c)
  have hflag : ∀ (m : ChannelMember) (c : Channel),¬¬m.IsFlag →
      Fails (place h .channel version bands {b with downlinkChannels := done++[c]})
        [.key (ascii (nameOf (Member.key m))),Member.event m] := by
    intro m c hm
    obtain ⟨value,hevent,hkey,-⟩ := call_channelFlag (not_not.mp hm)
    have hne : done++[c]≠[] := List.append_ne_nil_of_right_ne_nil _ (List.cons_ne_nil _ _)
    have hcall := @call_flag h version bands {b with downlinkChannels := done++[c]} _ value hkey (.inr ⟨hp,hne⟩)
    rw [hevent]
    exact Fails.scalar (Member.key m) (names_nameOf (Member.key_ne_none m)) (hcall.trans (if_pos hu))
  exact (Moves.single call_downlinkStart).fails ((fails_items hnumber hflag ho .new).append [.endObject])

/-- The channels of downlinks without uplink channels, one of which has a flag. -/
theorem fails_downlinksMember {items : List (Object ChannelMember)}
    (hflags : ¬ (BandMember.downlinkChannels items).IsFlagless) (hu : b.uplinkChannels=[]) :
    Fails (place h .band version bands b) (BandMember.downlinkChannels items).events := by
  have hopen : Moves (place h .band version bands b) [.key (ascii (nameOf .downlinkChannels)),.startArray]
      (place {h with prevState := .downlinks} .downlinks version bands b) :=
    Moves.scalar .downlinkChannels (@names_nameOf .downlinkChannels (by decide)) rfl
  have hitems := fails_items
    (fun o done ho => @moves_downlinkObject {h with prevState := .downlinks} version bands b o ho done rfl)
    (fun o done ho => @fails_downlinkObject {h with prevState := .downlinks} version bands b o ho rfl hu done) hflags
    b.downlinkChannels
  exact hopen.fails (hitems.append [.endArray])

/-- The counters of the handler. -/
def countersOf (h : RegionBandsJsonHandler) : Counters
  | .dataRates => h.dataRateCount
  | .maxPayloadSizePerDataRate => h.maxPayloadSizePerDataRateCount
  | .maxPayloadSizePerDataRateRepeater => h.maxPayloadSizePerDataRateRepeaterCount
  | .rx1DataRateOffsets => h.rx1DataRateOffsetCount
  | .txPowerOffsets => h.txPowerOffsetCount
  | _ => 0

/-- A member that counts nothing leaves the counters. -/
theorem counted_uncounted {m : BandMember} (hkey : m.key≠.bandDefaults) (hcount : m.count=0) (c : Counters) :
    counted m c=c := by
  rw [counted,if_neg hkey,hcount,Nat.add_zero,Function.update_eq_self]

/-- An array moves its own counter. -/
theorem countersOf_counted {h' : RegionBandsJsonHandler} {m : BandMember} (hkey : m.key≠.bandDefaults)
    (hown : countersOf h' m.key=countersOf h m.key+m.count)
    (hother : ∀ key,key≠m.key → countersOf h' key=countersOf h key) : countersOf h'=counted m (countersOf h) := by
  funext key
  rw [counted,if_neg hkey]
  by_cases heq : key=m.key
  · rw [heq,hown,Function.update_self]
  · rw [hother key heq,Function.update_of_ne heq]

/-- A member of a plan is taken, and written from where its counter stands. -/
theorem moves_member {m : BandMember} (hflags : m.IsFlagless) (hfit : m.Fits (countersOf h m.key)) :
    ∃ h',countersOf h'=counted m (countersOf h) ∧
      Moves (place h .band version bands b) m.events
        (place h' .band version bands (m.write (countersOf h m.key) b)) := by
  cases m with
  | scalar m =>
    have hkey : (BandMember.scalar m).key≠.bandDefaults := by
      intro heq
      cases m <;> cases heq
    exact ⟨h,(counted_uncounted hkey rfl _).symm,moves_scalarMember m⟩
  | bandDefaults o =>
    refine ⟨zeroed h,?_,moves_defaultsMember o⟩
    have hdefaults : (BandMember.bandDefaults o).key=.bandDefaults := rfl
    funext key
    rw [counted,if_pos hdefaults]
    cases key <;> rfl
  | uplinkChannels items =>
    refine ⟨{h with prevState := .uplinks},?_,moves_uplinksMember items _⟩
    exact (counted_uncounted (fun heq => by cases heq) rfl _).symm
  | downlinkChannels items =>
    refine ⟨{h with prevState := .downlinks},?_,moves_downlinksMember hflags _⟩
    exact (counted_uncounted (fun heq => by cases heq) rfl _).symm
  | dataRates items =>
    refine ⟨_,countersOf_counted (fun heq => by cases heq) ?_ ?_,moves_dataRatesMember hfit⟩
    · rfl
    · intro key hne
      cases key <;> first | rfl | exact absurd rfl hne
  | maxPayloadSizePerDataRate items =>
    refine ⟨_,countersOf_counted (fun heq => by cases heq) ?_ ?_,moves_sizesMember hfit⟩
    · rfl
    · intro key hne
      cases key <;> first | rfl | exact absurd rfl hne
  | maxPayloadSizePerDataRateRepeater items =>
    refine ⟨_,countersOf_counted (fun heq => by cases heq) ?_ ?_,moves_repeaterMember hfit⟩
    · rfl
    · intro key hne
      cases key <;> first | rfl | exact absurd rfl hne
  | rx1DataRateOffsets items =>
    refine ⟨_,countersOf_counted (fun heq => by cases heq) ?_ ?_,moves_offsetsMember hfit⟩
    · rfl
    · intro key hne
      cases key <;> first | rfl | exact absurd rfl hne
  | txPowerOffsets items =>
    refine ⟨_,countersOf_counted (fun heq => by cases heq) ?_ ?_,moves_powerMember hfit⟩
    · rfl
    · intro key hne
      cases key <;> first | rfl | exact absurd rfl hne

/-- A member without a place for an item is refused. -/
theorem refuses_member {m : BandMember} (hfit : ¬m.Fits (countersOf h m.key)) :
    Refuses (place h .band version bands b) m.events := by
  cases m with
  | dataRates items => exact refuses_dataRatesMember hfit
  | maxPayloadSizePerDataRate items => exact refuses_sizesMember hfit
  | maxPayloadSizePerDataRateRepeater items => exact refuses_repeaterMember hfit
  | rx1DataRateOffsets items => exact refuses_offsetsMember hfit
  | txPowerOffsets items => exact refuses_powerMember hfit
  | _ => exact absurd trivial hfit

/-- Members of a plan are taken one after the other. -/
theorem moves_members {members : List BandMember} (hflags : ∀ m∈members,m.IsFlagless)
    (hfit : AllFit (countersOf h) members) :
    ∃ h',countersOf h'=final (countersOf h) members ∧
      Moves (place h .band version bands b) (members.flatMap BandMember.events)
        (place h' .band version bands (written (countersOf h) members b)) := by
  induction members generalizing h b with
  | nil => exact ⟨h,rfl,.refl⟩
  | cons m rest ih =>
    rw [List.forall_mem_cons] at hflags
    obtain ⟨middle,hcounters,hfirst⟩ := @moves_member h version bands b m hflags.1 hfit.1
    have hnext : AllFit (countersOf middle) rest := hcounters ▸ hfit.2
    obtain ⟨h',hfinal,hrest⟩ := @ih middle (m.write (countersOf h m.key) b) hflags.2 hnext
    rw [hcounters] at hfinal hrest
    exact ⟨h',hfinal,hfirst.trans hrest⟩

/-- One of them is refused. -/
theorem refuses_members {members : List BandMember} (hflags : ∀ m∈members,m.IsFlagless)
    (hfit : ¬AllFit (countersOf h) members) :
    Refuses (place h .band version bands b) (members.flatMap BandMember.events) := by
  induction members generalizing h b with
  | nil => exact absurd trivial hfit
  | cons m rest ih =>
    rw [List.forall_mem_cons] at hflags
    rw [List.flatMap_cons]
    by_cases hfirst : m.Fits (countersOf h m.key)
    · obtain ⟨middle,hcounters,hmoves⟩ := @moves_member h version bands b m hflags.1 hfirst
      exact Moves.refuses hmoves (ih hflags.2 fun hrest => hfit ⟨hfirst,hcounters ▸ hrest⟩)
    · exact (refuses_member hfirst).append _

/-- A plan is taken. -/
theorem moves_band {band : Band} (hflags : ∀ m∈band.members,m.IsFlagless)
    (hfit : AllFit (countersOf h) band.members) :
    ∃ h',countersOf h'=final (countersOf h) band.members ∧
      Moves (outer h version bands) band.events
        (outer h' version (bands++[written (countersOf h) band.members .new])) := by
  obtain ⟨h',hfinal,hmembers⟩ := @moves_members h version bands .new band.members hflags hfit
  exact ⟨h',hfinal,Moves.inside _ _ (fun _ => rfl) hmembers (Moves.single fun _ => rfl)⟩

/-- A plan is refused. -/
theorem refuses_band {band : Band} (hflags : ∀ m∈band.members,m.IsFlagless)
    (hfit : ¬AllFit (countersOf h) band.members) : Refuses (outer h version bands) band.events := by
  have hopen : Moves (outer h version bands) [.startObject] (place h .band version bands .new) :=
    Moves.single fun _ => rfl
  exact Moves.refuses hopen ((refuses_members hflags hfit).append _)

/-- Plans are taken one after the other. -/
theorem moves_bands {list : List Band} (hflags : ∀ band∈list,∀ m∈band.members,m.IsFlagless)
    (hfit : BandsFit (countersOf h) list) :
    ∃ h',Moves (outer h version bands) (list.map Band.events).flatten
      (outer h' version (bands++plansFrom (countersOf h) list)) := by
  induction list generalizing h bands with
  | nil =>
    rw [plansFrom,List.append_nil]
    exact ⟨h,.refl⟩
  | cons band rest ih =>
    rw [List.forall_mem_cons] at hflags
    obtain ⟨middle,hcounters,hfirst⟩ := @moves_band h version bands band hflags.1 hfit.1
    have hnext : BandsFit (countersOf middle) rest := hcounters ▸ hfit.2
    obtain ⟨h',hrest⟩ := @ih middle (bands++[written (countersOf h) band.members .new]) hflags.2 hnext
    rw [hcounters,List.append_assoc] at hrest
    exact ⟨h',hfirst.trans hrest⟩

/-- One of them is refused. -/
theorem refuses_bands {list : List Band} (hflags : ∀ band∈list,∀ m∈band.members,m.IsFlagless)
    (hfit : ¬BandsFit (countersOf h) list) : Refuses (outer h version bands) (list.map Band.events).flatten := by
  induction list generalizing h bands with
  | nil => exact absurd trivial hfit
  | cons band rest ih =>
    rw [List.forall_mem_cons] at hflags
    rw [List.map_cons,List.flatten_cons]
    by_cases hfirst : AllFit (countersOf h) band.members
    · obtain ⟨middle,hcounters,hmoves⟩ := @moves_band h version bands band hflags.1 hfirst
      exact Moves.refuses hmoves (ih hflags.2 fun hrest => hfit ⟨hfirst,hcounters ▸ hrest⟩)
    · exact (refuses_band hflags.1 hfirst).append _

end Placed

end LorawanServer.PlanDocumentMoves
