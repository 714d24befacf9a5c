import LorawanServer.ChannelPlanFile

/-!
# Moves of the handler over members of a plan

What the handler makes of a member does not depend on the name before it. A
move leads from one state to another over some events, and moves are put
together as members, objects and arrays are. The defaults of a plan and its data
rates are read here: the counters start at zero behind the defaults, and the one
of the data rates walks over the eight places of its array.
-/

namespace LorawanServer.ChannelPlanMoves

open CppRuntime Records JsonDocument JsonEvents FloatNumbers ChannelPlan ChannelPlanFile
open RegionBandsJsonHandler (step modifyAt)

/-- A name of a member with its key. -/
def Names (name : String) (key : Key) : Prop := getAttrByName (ascii name)=key ∧ key≠.none

/-- The names of the table, by their numbers in the source. -/
theorem names_at (i : ℕ) (h : 0 < i ∧ i < 39) :
    Names (ATTR_REGION_BAND_NAMES.getD i (.none,"")).2 (ATTR_REGION_BAND_NAMES.getD i (.none,"")).1 := by
  have hall : ∀ attr∈ATTR_REGION_BAND_NAMES.drop 1,getAttrByName (ascii attr.2)=attr.1 ∧ attr.1≠.none := by
    decide +kernel
  have hlength : i<ATTR_REGION_BAND_NAMES.length := h.2
  obtain ⟨j,rfl⟩ := Nat.exists_eq_add_of_lt h.1
  have hmem : ATTR_REGION_BAND_NAMES[0+j+1]∈ATTR_REGION_BAND_NAMES.drop 1 :=
    List.mem_drop_iff_getElem.mpr ⟨j,by omega,by congr 1; omega⟩
  rw [List.getD_eq_getElem _ _ hlength]
  exact hall _ hmem

/-- The handler takes all events, from one state to another, whatever the last
name was. -/
def Moves (h : RegionBandsJsonHandler) (events : List Event) (next : RegionBandsJsonHandler) : Prop :=
  ∀ key,∃ last,deliver step (some {h with keyIndex := key}) events=(some {next with keyIndex := last},true)

section Moving

variable {h middle next : RegionBandsJsonHandler}

/-- No event. -/
theorem Moves.refl : Moves h [] h := fun key => ⟨key,rfl⟩

/-- Events behind others. -/
theorem Moves.trans {first second : List Event} (hf : Moves h first middle) (hs : Moves middle second next) :
    Moves h (first++second) next := by
  intro key
  obtain ⟨between,hfirst⟩ := hf key
  obtain ⟨last,hsecond⟩ := hs between
  exact ⟨last,(deliver_append hfirst second).trans hsecond⟩

/-- One event that is taken. -/
theorem step_taken {event : Event} (hcall : h.call event=some (next,true)) : step (some h) event=(some next,true) := by
  rw [step,hcall]

/-- One event whose effect does not depend on the last name. -/
theorem Moves.single {event : Event}
    (hcall : ∀ key,RegionBandsJsonHandler.call {h with keyIndex := key} event=some ({next with keyIndex := key},true)) :
    Moves h [event] next := fun key => ⟨key,by rw [deliver,step_taken (hcall key)]; rfl⟩

/-- A name that the table has. -/
theorem call_name {name : String} {key : Key} (hkey : Names name key) (old : Key) :
    RegionBandsJsonHandler.call {h with keyIndex := old} (.key (ascii name))=some ({h with keyIndex := key},true) := by
  simp only [RegionBandsJsonHandler.call,RegionBandsJsonHandler.key,hkey.1,if_neg hkey.2]

/-- A member: its name and the events of its value. -/
theorem Moves.field {name : String} (key : Key) {events : List Event} (hkey : Names name key)
    (hv : ∃ last,deliver step (some {h with keyIndex := key}) events=(some {next with keyIndex := last},true)) :
    Moves h (.key (ascii name)::events) next := by
  intro old
  obtain ⟨last,hdeliver⟩ := hv
  refine ⟨last,?_⟩
  rw [deliver,step_taken (call_name hkey old)]
  exact hdeliver

/-- A member with a value that is one event. -/
theorem Moves.scalar {name : String} (key : Key) {event : Event} (hkey : Names name key)
    (hcall : RegionBandsJsonHandler.call {h with keyIndex := key} event=some ({next with keyIndex := key},true)) :
    Moves h [.key (ascii name),event] next :=
  Moves.field key hkey ⟨key,by rw [deliver,step_taken hcall]; rfl⟩

/-- A member that is an object or an array: what opens it, what is inside, and
what closes it. -/
theorem Moves.container {name : String} (key : Key) {start stop : Event} {inside : List Event}
    (opened closed : RegionBandsJsonHandler) (hkey : Names name key)
    (hstart : RegionBandsJsonHandler.call {h with keyIndex := key} start=some ({opened with keyIndex := key},true))
    (hinside : Moves opened inside closed) (hstop : Moves closed [stop] next) :
    Moves h (.key (ascii name)::start::(inside++[stop])) next := by
  refine Moves.field key hkey ?_
  obtain ⟨last,hdeliver⟩ := hinside.trans hstop key
  refine ⟨last,?_⟩
  rw [deliver,step_taken hstart]
  exact hdeliver

/-- One member in front of the others. -/
theorem Moves.cons {m : Bytes×Written} {rest : List (Bytes×Written)} (hf : Moves h (.key m.1::m.2.events) middle)
    (hs : Moves middle (rest.flatMap fun m => .key m.1::m.2.events) next) :
    Moves h ((m::rest).flatMap fun m => .key m.1::m.2.events) next := hf.trans hs

/-- Items of an array, each of which moves from the state of those before it. -/
theorem Moves.items {ι : Type*} {write : ι → List Event} {at' : List ι → RegionBandsJsonHandler} {items : List ι}
    (hitem : ∀ done item rest,items=done++item::rest → Moves (at' done) (write item) (at' (done++[item]))) :
    Moves (at' []) (items.flatMap write) (at' items) := by
  have hfrom : ∀ rest done,items=done++rest → Moves (at' done) (rest.flatMap write) (at' items) := by
    intro rest
    induction rest with
    | nil =>
      intro done hd
      rw [List.append_nil] at hd
      rw [hd]
      exact .refl
    | cons item rest ih =>
      intro done hd
      have hnext : items=(done++[item])++rest := by rw [hd,List.append_assoc,List.singleton_append]
      exact (hitem done item rest hd).trans (ih _ hnext)
  exact hfrom items [] rfl

/-- An object or an array that is no member: what opens it, what is inside, and
what closes it. -/
theorem Moves.inside {start stop : Event} {events : List Event} (opened closed : RegionBandsJsonHandler)
    (hstart : ∀ key,RegionBandsJsonHandler.call {h with keyIndex := key} start=some ({opened with keyIndex := key},true))
    (hinside : Moves opened events closed) (hstop : Moves closed [stop] next) :
    Moves h (start::(events++[stop])) next := (Moves.single hstart).trans (hinside.trans hstop)

/-- A member that is an array, item by item. -/
theorem Moves.array {ι : Type*} {name : String} (key : Key) {write : ι → Written} {items : List ι}
    (at' : List ι → RegionBandsJsonHandler) (hkey : Names name key)
    (hstart : RegionBandsJsonHandler.call {h with keyIndex := key} .startArray=
      some ({at' [] with keyIndex := key},true))
    (hitem : ∀ done item rest,items=done++item::rest → Moves (at' done) (write item).events (at' (done++[item])))
    (hstop : Moves (at' items) [.endArray] next) :
    Moves h (.key (ascii name)::(Written.array (items.map write)).events) next := by
  rw [Written.array,List.flatMap_map]
  exact Moves.container key (at' []) (at' items) hkey hstart (Moves.items hitem) hstop

/-- Some event ends in undefined behaviour, whatever the last name was. -/
def Fails (h : RegionBandsJsonHandler) (events : List Event) : Prop :=
  ∀ key,deliver step (some {h with keyIndex := key}) events=(none,false)

/-- Undefined behaviour behind events that are taken. -/
theorem Moves.fails {first second : List Event} (hf : Moves h first middle) (hs : Fails middle second) :
    Fails h (first++second) := by
  intro key
  obtain ⟨last,hfirst⟩ := hf key
  exact (deliver_append hfirst second).trans (hs last)

/-- Whatever comes behind undefined behaviour. -/
theorem Fails.append {first : List Event} (hf : Fails h first) (second : List Event) : Fails h (first++second) :=
  fun key => deliver_stop (hf key) second

/-- A member with a value that is one event, which is undefined. -/
theorem Fails.scalar {name : String} (key : Key) {event : Event} (hkey : Names name key)
    (hcall : RegionBandsJsonHandler.call {h with keyIndex := key} event=none) :
    Fails h [.key (ascii name),event] := by
  intro old
  have hvalue : step (some {h with keyIndex := key}) event=(none,false) := by rw [step,hcall]
  rw [deliver,step_taken (call_name hkey old)]
  dsimp only
  rw [if_pos rfl,deliver,hvalue]
  rfl

end Moving

section Places

variable {α : Type*} {n : ℕ}

/-- A vector whose first places are taken from a list. -/
def fill (v : Vector α n) (done : List α) : Vector α n := Vector.ofFn fun i => done.getD i (v.get i)

/-- An element of a vector with one changed. -/
theorem getElem_modifyAt (v : Vector α n) (i : ℕ) (f : α → α) {j : ℕ} (hj : j<n) :
    (modifyAt v i f)[j]=if i=j then f v[j] else v[j] := by
  rw [modifyAt]
  split
  · rw [Vector.getElem_set]
    split
    · next hij =>
      subst hij
      rfl
    · rfl
  · next hi => rw [if_neg (by omega)]

/-- Two changes at one place. -/
theorem modifyAt_modifyAt (v : Vector α n) (i : ℕ) (f g : α → α) :
    modifyAt (modifyAt v i f) i g=modifyAt v i fun x => g (f x) := by
  ext j hj
  simp only [getElem_modifyAt]
  split <;> rfl

/-- No change. -/
theorem modifyAt_id (v : Vector α n) (i : ℕ) : modifyAt v i (fun x => x)=v := by
  ext j hj
  rw [getElem_modifyAt,ite_self]

/-- An element of such a vector. -/
theorem getElem_fill (v : Vector α n) (done : List α) {j : ℕ} (hj : j<n) : (fill v done)[j]=done.getD j v[j] := by
  rw [fill,Vector.getElem_ofFn]
  rfl

/-- No place is taken. -/
theorem fill_nil (v : Vector α n) : fill v []=v := by
  ext j hj
  rw [getElem_fill,List.getD_nil]

/-- All places are taken. -/
theorem fill_toList (v w : Vector α n) : fill v w.toList=w := by
  ext j hj
  rw [getElem_fill,List.getD_eq_getElem _ _ (by rwa [Vector.length_toList]),Vector.getElem_toList]

/-- The next place is taken. -/
theorem modifyAt_fill (v : Vector α n) (done : List α) (f : α → α) (item : α)
    (h : ∀ hd : done.length<n,f v[done.length]=item) :
    modifyAt (fill v done) done.length f=fill v (done++[item]) := by
  ext j hj
  rw [getElem_modifyAt,getElem_fill,getElem_fill]
  split
  · next hij =>
    subst hij
    have hitem : (done++[item])[done.length]?=some item := List.getElem?_concat_length
    rw [List.getD_eq_default _ _ le_rfl,List.getD_eq_getElem?_getD,hitem]
    exact h hj
  · next hij =>
    rcases Nat.lt_or_gt_of_ne hij with hlt|hgt
    · rw [List.getD_eq_default _ _ hlt.le,List.getD_eq_default]
      rw [List.length_append,List.length_singleton]
      omega
    · rw [List.getD_append _ _ _ _ hgt]

end Places

/-- The handler inside the last of some plans. -/
def place (h : RegionBandsJsonHandler) (state : State) (version : LorawanVersion)
    (bands : List RegionalParameterChannelPlan) (b : RegionalParameterChannelPlan) : RegionBandsJsonHandler :=
  {h with state := state,storage := ⟨version,bands++[b]⟩}

/-- The handler between plans. -/
def outer (h : RegionBandsJsonHandler) (version : LorawanVersion) (bands : List RegionalParameterChannelPlan) :
    RegionBandsJsonHandler := {h with state := .bands,storage := ⟨version,bands⟩}

section Placed

variable {h : RegionBandsJsonHandler} {state : State} {version : LorawanVersion}
  {bands : List RegionalParameterChannelPlan} {b : RegionalParameterChannelPlan}

/-- A change of the last plan. -/
theorem setBack_place (f : RegionalParameterChannelPlan → RegionalParameterChannelPlan) :
    (place h state version bands b).setBack f=place h state version bands (f b) := by
  simp only [place,RegionBandsJsonHandler.setBack,List.modifyLast_concat]

/-- There is a last plan. -/
theorem place_ne_nil : (place h state version bands b).storage.bands≠[] :=
  List.append_ne_nil_of_right_ne_nil _ (List.cons_ne_nil _ _)

/-- The last plan. -/
theorem place_back : (place h state version bands b).storage.bands.getLastD .new=b := List.getLastD_concat

/-- A checked change of the last plan. -/
theorem onBack_place (f : RegionalParameterChannelPlan → RegionalParameterChannelPlan) :
    (place h state version bands b).onBack f=(place h state version bands (f b),true) := by
  rw [RegionBandsJsonHandler.onBack,if_neg place_ne_nil,setBack_place]

/-- A change of the data rate that has begun last. -/
theorem onDataRate_place (f : DataRate → DataRate) (hc : h.dataRateCount≤DATA_RATE_SIZE) :
    (place h state version bands b).onDataRate f=
      (place h state version bands {b with dataRates := modifyAt b.dataRates (h.dataRateCount-1) f},true) := by
  have hcount : ¬DATA_RATE_SIZE<(place h state version bands b).dataRateCount := Nat.not_lt.mpr hc
  rw [RegionBandsJsonHandler.onDataRate,if_neg place_ne_nil,if_neg hcount,setBack_place]
  rfl

/-- An integer of 32 bits goes to `Integer`. -/
theorem call_int (h : RegionBandsJsonHandler) {n : ℤ} (hlow : -2^31≤n) (hhigh : n<2^32) :
    h.call (.number (decide (n<0)) n.natAbs)=some (h.integer n) := by
  by_cases hneg : n<0
  · have hsize : n.natAbs≤2^31 := by omega
    have hvalue : -(n.natAbs : ℤ)=n := by omega
    rw [decide_eq_true hneg,RegionBandsJsonHandler.call,if_pos hsize,hvalue]
  · have hsize : n.natAbs<2^32 := by omega
    have hvalue : (n.natAbs : ℤ)=n := by omega
    rw [decide_eq_false hneg,RegionBandsJsonHandler.call,if_pos hsize,hvalue]

/-- A member of the last plan that is a number. -/
theorem moves_int {name : String} (key : Key) {n : ℤ} {changed : RegionalParameterChannelPlan}
    (hkey : Names name key) (hlow : -2^31≤n) (hhigh : n<2^32)
    (hcall : (place {h with keyIndex := key} state version bands b).integer n=
      (place {h with keyIndex := key} state version bands changed,true)) :
    Moves (place h state version bands b) [.key (ascii name),.number (decide (n<0)) n.natAbs]
      (place h state version bands changed) :=
  Moves.scalar key hkey ((call_int _ hlow hhigh).trans (congrArg some hcall))

/-- A member that is an `int`. -/
theorem moves_int32 {name : String} (key : Key) (n : Int32) {changed : RegionalParameterChannelPlan}
    (hkey : Names name key)
    (hcall : (place {h with keyIndex := key} state version bands b).integer n.toInt=
      (place {h with keyIndex := key} state version bands changed,true)) :
    Moves (place h state version bands b) [.key (ascii name),.number (decide (n.toInt<0)) n.toInt.natAbs]
      (place h state version bands changed) := by
  have hhigh := n.toInt_lt
  exact moves_int key hkey n.le_toInt (by omega) hcall

/-- The handler with all its counters at zero. -/
def zeroed (h : RegionBandsJsonHandler) : RegionBandsJsonHandler :=
  {h with
    dataRateCount := 0
    maxPayloadSizePerDataRateCount := 0
    maxPayloadSizePerDataRateRepeaterCount := 0
    rx1DataRateOffsetCount := 0
    txPowerOffsetCount := 0}

/-- A member of the defaults. -/
theorem moves_default {name : String} {d : BandDefaults} (key : Key) (n : Int32) (f : Int32 → BandDefaults → BandDefaults)
    (hkey : Names name key) (hf : ∀ n,RegionBandsJsonHandler.defaultsInteger key n=some (f (Int32.ofInt n))) :
    Moves (place h .bandDefaults version bands {b with bandDefaults := d})
      (.key (ascii name)::(Written.int n.toInt).events)
      (place h .bandDefaults version bands {b with bandDefaults := f n d}) := by
  refine moves_int32 key n hkey ?_
  have hn := hf n.toInt
  rw [Int32.ofInt_toInt] at hn
  generalize hb : {b with bandDefaults := d}=old
  have hinteger : (place {h with keyIndex := key} .bandDefaults version bands old).integer n.toInt=
      (place {h with keyIndex := key} .bandDefaults version bands old).onBack
        fun rb => {rb with bandDefaults := f n rb.bandDefaults} := by
    simp only [RegionBandsJsonHandler.integer,place,hn]
  rw [hinteger,← hb]
  exact onBack_place _

/-- The defaults of a plan. All counters start again. -/
theorem moves_bandDefaults (d : BandDefaults) :
    Moves (place h .band version bands b) (.key (ascii "bandDefaults")::d.written.events)
      (place (zeroed h) .band version bands {b with bandDefaults := d}) := by
  refine Moves.container .bandDefaults (place (zeroed h) .bandDefaults version bands b)
    (place (zeroed h) .bandDefaults version bands {b with bandDefaults := d}) (names_at 12 (by decide)) rfl ?_
    (Moves.single fun _ => rfl)
  refine (moves_default .rx2Frequency d.RX2Frequency (fun n d => {d with RX2Frequency := n}) (names_at 20 (by decide))
    fun _ => rfl).cons ?_
  refine (moves_default .rx2DataRate d.RX2DataRate (fun n d => {d with RX2DataRate := n}) (names_at 21 (by decide))
    fun _ => rfl).cons ?_
  refine (moves_default .receiveDelay1 d.ReceiveDelay1 (fun n d => {d with ReceiveDelay1 := n}) (names_at 22 (by decide))
    fun _ => rfl).cons ?_
  refine (moves_default .receiveDelay2 d.ReceiveDelay2 (fun n d => {d with ReceiveDelay2 := n}) (names_at 23 (by decide))
    fun _ => rfl).cons ?_
  refine (moves_default .joinAcceptDelay1 d.JoinAcceptDelay1 (fun n d => {d with JoinAcceptDelay1 := n})
    (names_at 24 (by decide)) fun _ => rfl).cons ?_
  refine (moves_default .joinAcceptDelay2 d.JoinAcceptDelay2 (fun n d => {d with JoinAcceptDelay2 := n})
    (names_at 25 (by decide)) fun _ => rfl).cons ?_
  exact .refl

/-- A member of a data rate. -/
theorem moves_rate {name : String} {event : Event} {i : ℕ} (key : Key) {rates : Vector DataRate DATA_RATE_SIZE}
    (f g : DataRate → DataRate) (hkey : Names name key) (hi : h.dataRateCount=i+1) (hc : i<DATA_RATE_SIZE)
    (hcall : ∀ b,RegionBandsJsonHandler.call (place {h with keyIndex := key} .dataRate version bands b) event=
      some ((place {h with keyIndex := key} .dataRate version bands b).onDataRate f)) :
    Moves (place h .dataRate version bands {b with dataRates := modifyAt rates i g}) [.key (ascii name),event]
      (place h .dataRate version bands {b with dataRates := modifyAt rates i fun r => f (g r)}) := by
  refine Moves.scalar key hkey ((hcall _).trans (congrArg some ?_))
  have hplace := @onDataRate_place {h with keyIndex := key} .dataRate version bands
    {b with dataRates := modifyAt rates i g} f (by dsimp only; omega)
  have hindex : h.dataRateCount-1=i := by omega
  refine hplace.trans ?_
  dsimp only
  rw [hindex,modifyAt_modifyAt]
  rfl

/-- The bandwidth of a data rate. -/
theorem call_bandwidth (value : Bandwidth) :
    ∃ event,(bandwidthWritten value).events=[event] ∧
      ∀ b,RegionBandsJsonHandler.call (place {h with keyIndex := .bandwidth} .dataRate version bands b) event=
        some ((place {h with keyIndex := .bandwidth} .dataRate version bands b).onDataRate
          fun r => {r with bandwidth := value}) := by
  have hdouble : ∀ text,double2BANDWIDTH (toDouble (decimalValue text))=value →
      ∀ b,RegionBandsJsonHandler.call (place {h with keyIndex := .bandwidth} .dataRate version bands b) (.double text)=
        some ((place {h with keyIndex := .bandwidth} .dataRate version bands b).onDataRate
          fun r => {r with bandwidth := value}) := by
    intro text htext b
    rw [← htext]
    rfl
  have hint : ∀ n : ℕ,n<2^31 → int2BANDWIDTH (Int32.ofInt n).toInt=value →
      ∀ b,RegionBandsJsonHandler.call (place {h with keyIndex := .bandwidth} .dataRate version bands b)
        (.number (decide ((n : ℤ)<0)) (n : ℤ).natAbs)=
          some ((place {h with keyIndex := .bandwidth} .dataRate version bands b).onDataRate
            fun r => {r with bandwidth := value}) := by
    intro n hn hvalue b
    rw [call_int _ (by omega) (by omega),← hvalue]
    rfl
  cases value
  · exact ⟨_,rfl,hdouble (ascii "7.8") (by decide +kernel)⟩
  · exact ⟨_,rfl,hdouble (ascii "10.4") (by decide +kernel)⟩
  · exact ⟨_,rfl,hdouble (ascii "15.6") (by decide +kernel)⟩
  · exact ⟨_,rfl,hdouble (ascii "20.8") (by decide +kernel)⟩
  · exact ⟨_,rfl,hdouble (ascii "31.2") (by decide +kernel)⟩
  · exact ⟨_,rfl,hdouble (ascii "41.6") (by decide +kernel)⟩
  · exact ⟨_,rfl,hdouble (ascii "62.5") (by decide +kernel)⟩
  · exact ⟨_,rfl,hint 125 (by decide) (by decide +kernel)⟩
  · exact ⟨_,rfl,hint 250 (by decide) (by decide +kernel)⟩
  · exact ⟨_,rfl,hint 500 (by decide) (by decide +kernel)⟩

/-- An unsigned number through its value. -/
theorem ofInt_toNat (n : UInt32) : UInt32.ofInt n.toNat=n := by
  have h := n.toNat_lt
  have hmod : ((n.toNat : ℤ)%2^32).toNat=n.toNat := by omega
  rw [UInt32.ofInt,hmod,UInt32.ofNat_toNat]

/-- A byte through its value. -/
theorem byte_ofInt_toNat (n : UInt8) : UInt8.ofInt n.toNat=n := by
  have h := n.toNat_lt
  have hmod : ((n.toNat : ℤ)%2^8).toNat=n.toNat := by omega
  rw [UInt8.ofInt,hmod,UInt8.ofNat_toNat]

/-- A modulation is read as it is written. -/
theorem string2MODULATION_print (value : Modulation) : string2MODULATION (MODULATION2String value)=value := by
  cases value <;> decide +kernel

/-- The members of a data rate. -/
theorem moves_rateMembers (r : DataRate) {i : ℕ} {rates : Vector DataRate DATA_RATE_SIZE} (hi : h.dataRateCount=i+1)
    (hc : i<DATA_RATE_SIZE) :
    Moves (place h .dataRate version bands {b with dataRates := modifyAt rates i fun d => d})
      ([(ascii "uplink",.bool r.uplink),(ascii "downlink",.bool r.downlink),
        (ascii "modulation",.string (MODULATION2String r.modulation)),(ascii "bandwidth",bandwidthWritten r.bandwidth),
        (ascii "spreadingFactor",.int r.spreadingFactor.toNat),(ascii "bps",.int r.bps.toNat)].flatMap
          fun m : Bytes×Written => .key m.1::m.2.events)
      (place h .dataRate version bands {b with dataRates := modifyAt rates i fun _ => r}) := by
  have hmodulation : ∀ b,RegionBandsJsonHandler.call (place {h with keyIndex := .modulation} .dataRate version bands b)
      (.string (MODULATION2String r.modulation))=
        some ((place {h with keyIndex := .modulation} .dataRate version bands b).onDataRate
          fun d => {d with modulation := string2MODULATION (MODULATION2String r.modulation)}) := fun _ => rfl
  rw [string2MODULATION_print] at hmodulation
  obtain ⟨event,hevents,hbandwidth⟩ := @call_bandwidth h version bands r.bandwidth
  have hband : ∀ g : DataRate → DataRate,Moves (place h .dataRate version bands {b with dataRates := modifyAt rates i g})
      (.key (ascii "bandwidth")::(bandwidthWritten r.bandwidth).events)
      (place h .dataRate version bands
        {b with dataRates := modifyAt rates i fun d => {g d with bandwidth := r.bandwidth}}) := by
    intro g
    rw [hevents]
    exact moves_rate .bandwidth (fun d => {d with bandwidth := r.bandwidth}) g (names_at 29 (by decide)) hi hc hbandwidth
  have hsf : ∀ b,RegionBandsJsonHandler.call (place {h with keyIndex := .spreadingFactor} .dataRate version bands b)
      (.number (decide ((r.spreadingFactor.toNat : ℤ)<0)) (r.spreadingFactor.toNat : ℤ).natAbs)=
        some ((place {h with keyIndex := .spreadingFactor} .dataRate version bands b).onDataRate
          fun d => {d with spreadingFactor := UInt32.ofInt r.spreadingFactor.toNat}) := by
    have hlt := r.spreadingFactor.toNat_lt
    exact fun b => call_int _ (by omega) (by omega)
  have hbps : ∀ b,RegionBandsJsonHandler.call (place {h with keyIndex := .bps} .dataRate version bands b)
      (.number (decide ((r.bps.toNat : ℤ)<0)) (r.bps.toNat : ℤ).natAbs)=
        some ((place {h with keyIndex := .bps} .dataRate version bands b).onDataRate
          fun d => {d with bps := UInt32.ofInt r.bps.toNat}) := by
    have hlt := r.bps.toNat_lt
    exact fun b => call_int _ (by omega) (by omega)
  rw [ofInt_toNat] at hsf hbps
  refine (moves_rate .uplink (fun d => {d with uplink := r.uplink}) _ (names_at 26 (by decide)) hi hc fun _ => rfl).cons ?_
  refine (moves_rate .downlink (fun d => {d with downlink := r.downlink}) _ (names_at 27 (by decide)) hi hc
    fun _ => rfl).cons ?_
  refine (moves_rate .modulation (fun d => {d with modulation := r.modulation}) _ (names_at 28 (by decide)) hi hc
    hmodulation).cons ?_
  refine (hband _).cons ?_
  refine (moves_rate .spreadingFactor (fun d => {d with spreadingFactor := r.spreadingFactor}) _ (names_at 30 (by decide))
    hi hc hsf).cons ?_
  refine (moves_rate .bps (fun d => {d with bps := r.bps}) _ (names_at 31 (by decide)) hi hc hbps).cons ?_
  exact .refl

/-- One data rate. -/
theorem moves_dataRate (r : DataRate) {rates : Vector DataRate DATA_RATE_SIZE} (hc : h.dataRateCount<DATA_RATE_SIZE) :
    Moves (place h .dataRates version bands {b with dataRates := rates}) r.written.events
      (place {h with dataRateCount := h.dataRateCount+1} .dataRates version bands
        {b with dataRates := modifyAt rates h.dataRateCount fun _ => r}) := by
  have hmembers := @moves_rateMembers {h with dataRateCount := h.dataRateCount+1} version bands b r _ rates rfl hc
  rw [modifyAt_id] at hmembers
  exact Moves.inside _ _ (fun _ => rfl) hmembers (Moves.single fun _ => rfl)

/-- The data rates of a plan. -/
theorem moves_dataRates (rates : Vector DataRate DATA_RATE_SIZE) (hz : h.dataRateCount=0) :
    Moves (place h .band version bands b)
      (.key (ascii "dataRates")::(Written.array (rates.toList.map DataRate.written)).events)
      (place {h with dataRateCount := DATA_RATE_SIZE} .band version bands {b with dataRates := rates}) := by
  refine Moves.array .dataRates
    (fun done => place {h with dataRateCount := done.length} .dataRates version bands
      {b with dataRates := fill b.dataRates done}) (names_at 13 (by decide)) ?_ ?_ ?_
  · dsimp only [List.length_nil]
    rw [fill_nil,← hz]
    rfl
  · intro done r rest hsplit
    have hlength := congrArg List.length hsplit
    rw [Vector.length_toList,List.length_append,List.length_cons] at hlength
    have hrate := @moves_dataRate {h with dataRateCount := done.length} version bands b r (fill b.dataRates done)
      (by dsimp only; omega)
    rw [List.length_append,List.length_singleton]
    rwa [modifyAt_fill b.dataRates done (fun _ => r) r fun _ => rfl] at hrate
  · rw [fill_toList,Vector.length_toList]
    exact Moves.single fun _ => rfl

end Placed

end LorawanServer.ChannelPlanMoves
