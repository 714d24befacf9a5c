import LorawanServer.ChannelPlanArrays

/-!
# Loading a written file of channel plans

A plan comes back with the flags of a new channel in every downlink channel, the
flags of its last downlink channel in its last uplink channel, and its power
rounded to the six digits of its text. A plan with downlink channels and without
uplink channels ends in undefined behaviour.
-/

namespace LorawanServer.ChannelPlanRoundTrip

open CppRuntime Records JsonDocument JsonEvents FloatNumbers ChannelPlan ChannelPlanFile ChannelPlanMoves ChannelPlanArrays
open RegionBandsJsonHandler (step)
open SimulatedUplink (floatText)
open IdentityText (string2LORAWAN_VERSION_print)

/-- A written file is read into a fresh object without an error, and the storage
is as it was. -/
def RoundTrips (platform : Platform) (rb : RegionBands) : Prop :=
  (RegionalParameterChannelPlanFileJson.loadFile platform .new (some rb.toJsonString)).map
    (fun out => (out.1.storage,out.2))=some (rb,0)

instance (platform : Platform) (rb : RegionBands) : Decidable (RoundTrips platform rb) :=
  inferInstanceAs (Decidable (_=_))

/-- Nobody can see where the flags go: there is no downlink channel, or all of
them and the last uplink channel have the flags of a new channel. -/
def KeepsFlags (b : RegionalParameterChannelPlan) : Prop :=
  b.downlinkChannels=[] ∨
    (∀ c∈b.downlinkChannels,c.enabled=true ∧ c.custom=false) ∧
      ∃ last,b.uplinkChannels.getLast?=some last ∧ last.enabled=true ∧ last.custom=false

/-- The flags of downlink channels have an uplink channel to go to. -/
def IsDefined (b : RegionalParameterChannelPlan) : Prop := b.downlinkChannels=[] ∨ b.uplinkChannels≠[]

/-- The plan that a written one is read as. -/
def readBack (b : RegionalParameterChannelPlan) : RegionalParameterChannelPlan :=
  {b with
    maxUplinkEIRP := toFloat (toDouble (decimalValue (floatText b.maxUplinkEIRP)))
    uplinkChannels := b.uplinkChannels.modifyLast (lastFlags b.downlinkChannels)
    downlinkChannels := b.downlinkChannels.map unflagged}

/-- The flags of a new channel are kept. -/
theorem unflagged_eq_iff (c : Channel) : unflagged c=c ↔ c.enabled=true ∧ c.custom=false := by
  constructor
  · intro h
    rw [← h]
    exact ⟨rfl,rfl⟩
  · rintro ⟨he,hc⟩
    rw [unflagged,← he,← hc]

/-- The last uplink channel is kept when it has the flags of the last downlink
channel. -/
theorem modifyLast_lastFlags_iff {ups downs : List Channel} (hall : ∀ c∈downs,c.enabled=true ∧ c.custom=false)
    (h : downs=[] ∨ ups≠[]) :
    ups.modifyLast (lastFlags downs)=ups ↔
      downs=[] ∨ ∃ last,ups.getLast?=some last ∧ last.enabled=true ∧ last.custom=false := by
  rcases List.eq_nil_or_concat downs with rfl|⟨before,d,rfl⟩
  · refine iff_of_true ?_ (.inl rfl)
    rcases List.eq_nil_or_concat ups with rfl|⟨init,u,rfl⟩
    · rfl
    · rw [List.concat_eq_append,List.modifyLast_concat]
      rfl
  · rw [List.concat_eq_append] at h hall ⊢
    have hsome : before++[d]≠[] := List.append_ne_nil_of_right_ne_nil _ (List.cons_ne_nil _ _)
    obtain ⟨he,hc⟩ := hall d List.mem_concat_self
    rcases List.eq_nil_or_concat ups with rfl|⟨init,u,rfl⟩
    · exact absurd rfl (h.resolve_left hsome)
    · have hlast : lastFlags (before++[d]) u=unflagged u := by
        rw [lastFlags,List.getLast?_concat,unflagged,← he,← hc]
      rw [List.concat_eq_append,List.modifyLast_concat,hlast,List.append_cancel_left_eq,List.singleton_inj,
        unflagged_eq_iff,or_iff_right hsome,List.getLast?_concat]
      refine ⟨fun hu => ⟨u,rfl,hu⟩,?_⟩
      rintro ⟨last,hu,hflags⟩
      rwa [Option.some.inj hu]

/-- A plan is as it was exactly when its flags are and six digits are enough. -/
theorem readBack_eq_iff {b : RegionalParameterChannelPlan} (h : IsDefined b) :
    readBack b=b ↔ KeepsFlags b ∧ SixDigits b.maxUplinkEIRP := by
  have hfields : readBack b=b ↔ SixDigits b.maxUplinkEIRP ∧
      b.uplinkChannels.modifyLast (lastFlags b.downlinkChannels)=b.uplinkChannels ∧
        b.downlinkChannels.map unflagged=b.downlinkChannels := by
    cases b
    simp only [readBack,RegionalParameterChannelPlan.mk.injEq,SixDigits,true_and]
  have hdowns : b.downlinkChannels.map unflagged=b.downlinkChannels ↔
      ∀ c∈b.downlinkChannels,c.enabled=true ∧ c.custom=false := by
    have hsame := @List.map_inj_left _ _ b.downlinkChannels unflagged id
    rw [List.map_id] at hsame
    exact hsame.trans (forall₂_congr fun c _ => unflagged_eq_iff c)
  rw [hfields,hdowns,and_comm]
  refine and_congr_left fun _ => ?_
  constructor
  · rintro ⟨hups,hall⟩
    exact ((modifyLast_lastFlags_iff hall h).mp hups).imp_right fun hlast => ⟨hall,hlast⟩
  · intro hkeeps
    have hall : ∀ c∈b.downlinkChannels,c.enabled=true ∧ c.custom=false := by
      rcases hkeeps with hnil|⟨hall,-⟩
      · rw [hnil]
        exact List.forall_mem_nil _
      · exact hall
    exact ⟨(modifyLast_lastFlags_iff hall h).mpr (hkeeps.imp_right And.right),hall⟩

/-- A plan that keeps its flags is read without undefined behaviour. -/
theorem KeepsFlags.isDefined {b : RegionalParameterChannelPlan} (h : KeepsFlags b) : IsDefined b := by
  refine h.imp_right fun ⟨_,last,hlast,_⟩ hnil => ?_
  rw [hnil,List.getLast?_nil] at hlast
  cases hlast

/-- The members of a plan up to its uplink channels. -/
def membersBefore (b : RegionalParameterChannelPlan) : List (Bytes×Written) :=
  [(ascii "id",.int b.id.toNat),(ascii "name",.string b.name),(ascii "cn",.string b.cn),
    (ascii "implementsTXParamSetup",.bool b.implementsTXParamSetup),
    (ascii "maxUplinkEIRP",floatWritten b.maxUplinkEIRP),
    (ascii "pingSlotFrequency",.int b.pingSlotFrequency.toInt),
    (ascii "defaultDownlinkTXPower",.int b.defaultDownlinkTXPower.toInt),
    (ascii "supportsExtraChannels",.bool b.supportsExtraChannels),
    (ascii "defaultRegion",.bool b.defaultRegion),(ascii "bandDefaults",b.bandDefaults.written),
    (ascii "dataRates",.array (b.dataRates.toList.map DataRate.written)),
    (ascii "uplinkChannels",.array (b.uplinkChannels.map Channel.written))]

/-- The members of a plan behind its downlink channels. -/
def membersBehind (b : RegionalParameterChannelPlan) : List (Bytes×Written) :=
  [(ascii "maxPayloadSizePerDataRate",.array (b.maxPayloadSizePerDataRate.toList.map MaxPayloadSize.written)),
    (ascii "maxPayloadSizePerDataRateRepeater",
      .array (b.maxPayloadSizePerDataRateRepeater.toList.map MaxPayloadSize.written)),
    (ascii "rx1DataRateOffsets",.array (b.rx1DataRateOffsets.toList.map offsetsWritten)),
    (ascii "txPowerOffsets",.array (b.txPowerOffsets.map fun offset => .int offset.toInt))]

/-- The calls for some members. -/
def memberEvents (members : List (Bytes×Written)) : List Event := members.flatMap fun m => .key m.1::m.2.events

/-- The calls for a plan. -/
theorem written_events (b : RegionalParameterChannelPlan) :
    b.written.events=.startObject::((memberEvents (membersBefore b)++
      ((.key (ascii "downlinkChannels")::(Written.array (b.downlinkChannels.map Channel.written)).events)++
        memberEvents (membersBehind b)))++[.endObject]) := by
  have hmembers : b.written=.object (membersBefore b++
      ((ascii "downlinkChannels",.array (b.downlinkChannels.map Channel.written))::membersBehind b)) := rfl
  rw [hmembers,Written.object,List.flatMap_append,List.flatMap_cons]
  rfl

section Placed

variable {h : RegionBandsJsonHandler} {version : LorawanVersion} {bands : List RegionalParameterChannelPlan}
  {b : RegionalParameterChannelPlan}

/-- A power that is an integer. -/
theorem integer_power (n : ℤ) :
    (place {h with keyIndex := .maxUplinkEIRP} .band version bands b).integer n=
      (place {h with keyIndex := .maxUplinkEIRP} .band version bands {b with maxUplinkEIRP := toFloat n},true) :=
  onBack_place _

/-- A power with an exponent. -/
theorem call_power (text : Bytes) :
    RegionBandsJsonHandler.call (place {h with keyIndex := .maxUplinkEIRP} .band version bands b) (.double text)=
      some (place {h with keyIndex := .maxUplinkEIRP} .band version bands
        {b with maxUplinkEIRP := toFloat (toDouble (decimalValue text))},true) := by
  generalize hd : toDouble (decimalValue text)=d
  rw [RegionBandsJsonHandler.call,hd]
  exact congrArg some (onBack_place _)

/-- A power is read as the `float` that its six digits stand for. -/
theorem moves_float {value : ℚ} (hvalue : ∃ n : ℤ,value=n) :
    Moves (place h .band version bands b) (.key (ascii "maxUplinkEIRP")::(floatWritten value).events)
      (place h .band version bands {b with maxUplinkEIRP := toFloat (toDouble (decimalValue (floatText value)))}) := by
  obtain ⟨n,rfl⟩ := hvalue
  rw [floatWritten]
  split
  · next hsmall =>
    have hn : abs n<10^6 := by exact_mod_cast hsmall
    obtain ⟨hlow,hhigh⟩ := abs_lt.mp hn
    rw [Int.floor_intCast,floatText_int hn,decimalValue_int,toDouble_int (hn.trans (by decide))]
    exact moves_int .maxUplinkEIRP (names_at 6 (by decide)) (by omega) (by omega) (integer_power n)
  · exact Moves.scalar .maxUplinkEIRP (names_at 6 (by decide)) (call_power _)

/-- A member of a plan that is one value. -/
theorem moves_set {name : String} {event : Event} (key : Key)
    (f : RegionalParameterChannelPlan → RegionalParameterChannelPlan) (hkey : Names name key)
    (hcall : ∀ b,RegionBandsJsonHandler.call (place {h with keyIndex := key} .band version bands b) event=
      some ((place {h with keyIndex := key} .band version bands b).onBack f)) :
    Moves (place h .band version bands b) [.key (ascii name),event] (place h .band version bands (f b)) :=
  Moves.scalar key hkey ((hcall b).trans (congrArg some (onBack_place f)))

/-- A member of a plan that is an `int`. -/
theorem moves_setInt32 {name : String} (key : Key) (n : Int32)
    (f : Int32 → RegionalParameterChannelPlan → RegionalParameterChannelPlan) (hkey : Names name key)
    (hcall : ∀ (b : RegionalParameterChannelPlan) (n : ℤ),(place {h with keyIndex := key} .band version bands b).integer n=
      (place {h with keyIndex := key} .band version bands b).onBack (f (Int32.ofInt n))) :
    Moves (place h .band version bands b) (.key (ascii name)::(Written.int n.toInt).events)
      (place h .band version bands (f n b)) := by
  refine moves_int32 key n hkey ((hcall b n.toInt).trans ?_)
  rw [Int32.ofInt_toInt]
  exact onBack_place _

/-- The number of a plan. -/
theorem moves_id (id : UInt8) :
    Moves (place h .band version bands b) (.key (ascii "id")::(Written.int id.toNat).events)
      (place h .band version bands {b with id := id}) := by
  have hlt := id.toNat_lt
  have hset := @moves_set h version bands b "id" (.number (decide ((id.toNat : ℤ)<0)) (id.toNat : ℤ).natAbs) .id
    (fun rb => {rb with id := UInt8.ofInt id.toNat}) (names_at 3 (by decide)) fun b => call_int _ (by omega) (by omega)
  rwa [byte_ofInt_toNat] at hset

/-- The handler behind the uplink channels of a plan. -/
def behindUplinks (h : RegionBandsJsonHandler) : RegionBandsJsonHandler :=
  {zeroed h with dataRateCount := DATA_RATE_SIZE,prevState := .uplinks}

/-- A plan whose members behind the uplink channels are those of a new one. -/
def untilUplinks (b : RegionalParameterChannelPlan) : RegionalParameterChannelPlan :=
  {b with
    maxUplinkEIRP := toFloat (toDouble (decimalValue (floatText b.maxUplinkEIRP)))
    downlinkChannels := []
    maxPayloadSizePerDataRate := Vector.replicate _ .new
    maxPayloadSizePerDataRateRepeater := Vector.replicate _ .new
    rx1DataRateOffsets := Vector.replicate _ []
    txPowerOffsets := []}

/-- The members up to the uplink channels. -/
theorem moves_before (hb : b.IsWritable) :
    Moves (place h .band version bands .new) (memberEvents (membersBefore b))
      (place (behindUplinks h) .band version bands (untilUplinks b)) := by
  obtain ⟨n,hn,-⟩ := hb.power
  refine (moves_id b.id).cons ?_
  refine (moves_set .name (fun rb => {rb with name := b.name}) (names_at 4 (by decide)) fun _ => rfl).cons ?_
  refine (moves_set .cn (fun rb => {rb with cn := b.cn}) (names_at 5 (by decide)) fun _ => rfl).cons ?_
  refine (moves_set .implementsTXParamSetup (fun rb => {rb with implementsTXParamSetup := b.implementsTXParamSetup})
    (names_at 9 (by decide)) fun _ => rfl).cons ?_
  refine (moves_float ⟨n,hn⟩).cons ?_
  refine (moves_setInt32 .pingSlotFrequency b.pingSlotFrequency (fun n rb => {rb with pingSlotFrequency := n})
    (names_at 8 (by decide)) fun _ _ => rfl).cons ?_
  refine (moves_setInt32 .defaultDownlinkTXPower b.defaultDownlinkTXPower
    (fun n rb => {rb with defaultDownlinkTXPower := n}) (names_at 7 (by decide)) fun _ _ => rfl).cons ?_
  refine (moves_set .supportsExtraChannels (fun rb => {rb with supportsExtraChannels := b.supportsExtraChannels})
    (names_at 10 (by decide)) fun _ => rfl).cons ?_
  refine (moves_set .defaultRegion (fun rb => {rb with defaultRegion := b.defaultRegion}) (names_at 11 (by decide))
    fun _ => rfl).cons ?_
  refine (moves_bandDefaults b.bandDefaults).cons ?_
  refine (moves_dataRates b.dataRates rfl).cons ?_
  exact (moves_uplinkChannels b.uplinkChannels rfl).cons .refl

/-- The handler behind the last member of a plan. -/
def behindPower (h : RegionBandsJsonHandler) (b : RegionalParameterChannelPlan) : RegionBandsJsonHandler :=
  {h with
    maxPayloadSizePerDataRateCount := DATA_RATE_SIZE
    maxPayloadSizePerDataRateRepeaterCount := DATA_RATE_SIZE
    rx1DataRateOffsetCount := DATA_RATE_SIZE
    txPowerOffsetCount := b.txPowerOffsets.length}

/-- The members behind the downlink channels. -/
theorem moves_behind {b' : RegionalParameterChannelPlan} (hb : b.IsWritable)
    (hoffsets : b'.rx1DataRateOffsets=Vector.replicate _ []) (hsteps : b'.txPowerOffsets=[])
    (hsizes : h.maxPayloadSizePerDataRateCount=0) (hrepeater : h.maxPayloadSizePerDataRateRepeaterCount=0)
    (hlists : h.rx1DataRateOffsetCount=0) (hpower : h.txPowerOffsetCount=0) :
    Moves (place h .band version bands b') (memberEvents (membersBehind b))
      (place (behindPower h b) .band version bands {b' with
        maxPayloadSizePerDataRate := b.maxPayloadSizePerDataRate
        maxPayloadSizePerDataRateRepeater := b.maxPayloadSizePerDataRateRepeater
        rx1DataRateOffsets := b.rx1DataRateOffsets
        txPowerOffsets := b.txPowerOffsets}) := by
  refine (moves_maxPayloadSizes b.maxPayloadSizePerDataRate hsizes).cons ?_
  refine (moves_maxPayloadSizesRepeater b.maxPayloadSizePerDataRateRepeater ?_).cons ?_
  · exact hrepeater
  refine (moves_rx1DataRateOffsets b.rx1DataRateOffsets ?_ ?_).cons ?_
  · exact hlists
  · exact hoffsets
  refine (moves_txPowerOffsets b.txPowerOffsets ?_ ?_ hb.offsets).cons .refl
  · exact hpower
  · exact hsteps

/-- What opens a plan. -/
theorem moves_planStart :
    Moves (outer h version bands) [.startObject] (place h .band version bands .new) := Moves.single fun _ => rfl

/-- The channels of downlinks, when they are defined. -/
theorem moves_downlinks (hdefined : IsDefined b) :
    Moves (place (behindUplinks h) .band version bands (untilUplinks b))
      (.key (ascii "downlinkChannels")::(Written.array (b.downlinkChannels.map Channel.written)).events)
      (place {behindUplinks h with prevState := .downlinks} .band version bands {untilUplinks b with
        uplinkChannels := b.uplinkChannels.modifyLast (lastFlags b.downlinkChannels)
        downlinkChannels := b.downlinkChannels.map unflagged}) := by
  rcases List.eq_nil_or_concat b.uplinkChannels with hups|⟨init,u,hups⟩
  · have hdowns : b.downlinkChannels=[] := hdefined.resolve_right fun hne => hne hups
    have hsame : {untilUplinks b with
        uplinkChannels := b.uplinkChannels.modifyLast (lastFlags b.downlinkChannels)
        downlinkChannels := b.downlinkChannels.map unflagged}=untilUplinks b := by
      rw [hdowns,hups,untilUplinks,hups]
      rfl
    rw [hsame,hdowns]
    exact moves_noDownlinkChannels
  · rw [List.concat_eq_append] at hups
    have hmoves := @moves_downlinkChannels (behindUplinks h) version bands (untilUplinks b) b.downlinkChannels init u
      hups rfl
    rwa [hups,List.modifyLast_concat]

/-- A plan is read, when it is defined. -/
theorem moves_plan (hb : b.IsWritable) (hdefined : IsDefined b) :
    ∃ h',Moves (outer h version bands) b.written.events (outer h' version (bands++[readBack b])) := by
  have hbehind := @moves_behind {behindUplinks h with prevState := .downlinks} version bands b
    {untilUplinks b with
      uplinkChannels := b.uplinkChannels.modifyLast (lastFlags b.downlinkChannels)
      downlinkChannels := b.downlinkChannels.map unflagged} hb rfl rfl rfl rfl rfl rfl
  refine ⟨behindPower {behindUplinks h with prevState := .downlinks} b,?_⟩
  rw [written_events]
  exact moves_planStart.trans (((moves_before hb).trans ((moves_downlinks hdefined).trans hbehind)).trans
    (Moves.single fun _ => rfl))

/-- A plan with downlink channels and without uplink channels. -/
theorem fails_plan (hb : b.IsWritable) (hdefined : ¬IsDefined b) : Fails (outer h version bands) b.written.events := by
  obtain ⟨hdowns,hups⟩ := not_or.mp hdefined
  obtain ⟨c,rest,hc⟩ := List.exists_cons_of_ne_nil hdowns
  have hfails := @fails_downlinkChannels (behindUplinks h) version bands (untilUplinks b) c rest (not_not.mp hups)
  rw [← hc] at hfails
  rw [written_events]
  exact moves_planStart.fails (((moves_before hb).fails (hfails.append _)).append _)

/-- All plans are read, when they are defined. -/
theorem moves_plans {plans : List RegionalParameterChannelPlan} (hw : ∀ b∈plans,b.IsWritable)
    (hdefined : ∀ b∈plans,IsDefined b) :
    ∃ h',Moves (outer h version bands) (plans.flatMap fun b => b.written.events)
      (outer h' version (bands++plans.map readBack)) := by
  induction plans generalizing h bands with
  | nil =>
    rw [List.map_nil,List.append_nil]
    exact ⟨h,.refl⟩
  | cons b rest ih =>
    rw [List.forall_mem_cons] at hw hdefined
    obtain ⟨middle,hfirst⟩ := @moves_plan h version bands b hw.1 hdefined.1
    obtain ⟨h',hrest⟩ := @ih middle (bands++[readBack b]) hw.2 hdefined.2
    rw [List.append_assoc] at hrest
    exact ⟨h',hfirst.trans hrest⟩

/-- Some plan is undefined. -/
theorem fails_plans {plans : List RegionalParameterChannelPlan} (hw : ∀ b∈plans,b.IsWritable)
    (hdefined : ¬∀ b∈plans,IsDefined b) : Fails (outer h version bands) (plans.flatMap fun b => b.written.events) := by
  induction plans generalizing h bands with
  | nil => exact absurd (List.forall_mem_nil _) hdefined
  | cons b rest ih =>
    rw [List.forall_mem_cons] at hw hdefined
    by_cases hb : IsDefined b
    · obtain ⟨middle,hfirst⟩ := @moves_plan h version bands b hw.1 hb
      exact hfirst.fails (ih hw.2 fun hrest => hdefined ⟨hb,hrest⟩)
    · exact (fails_plan hw.1 hb).append _

/-- The calls for a file up to its plans. -/
theorem moves_fileStart (rb : RegionBands) (hs : h.state=.none) (hstorage : h.storage.bands=[]) :
    Moves h [.startObject,.key (ascii "regionalParametersVersion"),
        .string (REGIONAL_PARAMETERS_VERSION2string rb.regionalParametersVersion),.key (ascii "RegionBands"),.startArray]
      (outer h rb.regionalParametersVersion []) := by
  have hversion : string2REGIONAL_PARAMETERS_VERSION (REGIONAL_PARAMETERS_VERSION2string rb.regionalParametersVersion)=
      rb.regionalParametersVersion := string2LORAWAN_VERSION_print _
  have hroot : Moves h [.startObject] {h with state := .root} := by
    refine Moves.single fun key => ?_
    rw [RegionBandsJsonHandler.call,RegionBandsJsonHandler.startObject]
    dsimp only
    rw [hs]
  have hstring : Moves {h with state := .root} [.key (ascii "regionalParametersVersion"),
      .string (REGIONAL_PARAMETERS_VERSION2string rb.regionalParametersVersion)]
      {h with state := .root,storage := ⟨rb.regionalParametersVersion,[]⟩} := by
    refine Moves.scalar .regionalParametersVersion (names_at 1 (by decide)) ?_
    change some (({h with
      keyIndex := .regionalParametersVersion
      state := .root
      storage := ⟨string2REGIONAL_PARAMETERS_VERSION _,h.storage.bands⟩} : RegionBandsJsonHandler),true)=_
    rw [hversion,hstorage]
  exact hroot.trans (hstring.trans (Moves.scalar .regionBands (names_at 2 (by decide)) rfl))

end Placed

/-- The calls for a file. -/
theorem file_events (rb : RegionBands) :
    rb.written.events=([.startObject,.key (ascii "regionalParametersVersion"),
        .string (REGIONAL_PARAMETERS_VERSION2string rb.regionalParametersVersion),.key (ascii "RegionBands"),
        .startArray] : List Event)++((rb.bands.flatMap fun b => b.written.events)++[.endArray,.endObject]) := by
  have hplans : rb.written=.object
      [(ascii "regionalParametersVersion",.string (REGIONAL_PARAMETERS_VERSION2string rb.regionalParametersVersion)),
        (ascii "RegionBands",.array (rb.bands.map RegionalParameterChannelPlan.written))] := rfl
  simp only [hplans,Written.object,Written.array,Written.string,List.flatMap_cons,List.flatMap_nil,List.flatMap_map,
    List.append_assoc,List.cons_append,List.nil_append,List.append_nil]

section Loading

variable {platform : Platform} {rb : RegionBands} (hw : ∀ b∈rb.bands,b.IsWritable)
  (hbig : ∀ value : ℚ,abs value<2^128 → platform.tooBig (floatText value)=false)
include hw hbig

/-- Parsing a file delivers its calls to a fresh handler. -/
theorem parse_written : parse platform.tooBig RegionBandsJsonHandler.step
      (some (.new RegionalParameterChannelPlanFileJson.new.storage RegionalParameterChannelPlanFileJson.new.errDescription))
      rb.toJsonString=
    deliver RegionBandsJsonHandler.step (some {RegionBandsJsonHandler.new .new [] with keyIndex := .none})
      rb.written.events := by
  simp only [parse,readEvents_bands hbig hw,Bool.and_true]
  rfl

/-- A file without undefined plans. -/
theorem loadFile_defined (hdefined : ∀ b∈rb.bands,IsDefined b) :
    (RegionalParameterChannelPlanFileJson.loadFile platform .new (some rb.toJsonString)).map
      (fun out => (out.1.storage,out.2))=some ({rb with bands := rb.bands.map readBack},0) := by
  have hstart := @moves_fileStart (.new .new []) rb rfl rfl
  obtain ⟨h',hplans⟩ := @moves_plans (.new .new []) rb.regionalParametersVersion [] _ hw hdefined
  have hstop : Moves (outer h' rb.regionalParametersVersion ([]++rb.bands.map readBack)) [.endArray,.endObject]
      {h' with state := .none,storage := ⟨rb.regionalParametersVersion,[]++rb.bands.map readBack⟩} :=
    @Moves.trans _ {h' with state := .root,storage := ⟨rb.regionalParametersVersion,[]++rb.bands.map readBack⟩} _
      [.endArray] [.endObject] (Moves.single fun _ => rfl) (Moves.single fun _ => rfl)
  obtain ⟨last,hdeliver⟩ := (hstart.trans (hplans.trans hstop)) .none
  rw [← file_events,List.nil_append] at hdeliver
  simp only [RegionalParameterChannelPlanFileJson.loadFile]
  rw [parse_written hw hbig,hdeliver]
  rfl

/-- A file with an undefined plan. -/
theorem loadFile_undefined (hdefined : ¬∀ b∈rb.bands,IsDefined b) :
    RegionalParameterChannelPlanFileJson.loadFile platform .new (some rb.toJsonString)=none := by
  have hstart := @moves_fileStart (.new .new []) rb rfl rfl
  have hplans := @fails_plans (.new .new []) rb.regionalParametersVersion [] _ hw hdefined
  have hdeliver := hstart.fails (hplans.append [.endArray,.endObject]) .none
  rw [← file_events] at hdeliver
  simp only [RegionalParameterChannelPlanFileJson.loadFile]
  rw [parse_written hw hbig,hdeliver]
  rfl

/-- A written file comes back exactly when every plan keeps its flags and its
power has at most six digits. -/
theorem plansRoundTrip_iff :
    RoundTrips platform rb ↔ ∀ b∈rb.bands,KeepsFlags b ∧ SixDigits b.maxUplinkEIRP := by
  by_cases hdefined : ∀ b∈rb.bands,IsDefined b
  · have hsame : ({rb with bands := rb.bands.map readBack},(0 : ℤ))=(rb,0) ↔ ∀ b∈rb.bands,readBack b=b := by
      have hmap := @List.map_inj_left _ _ rb.bands readBack id
      rw [List.map_id] at hmap
      cases rb
      rw [Prod.mk.injEq,RegionBands.mk.injEq]
      exact ⟨fun h => hmap.mp h.1.2,fun h => ⟨⟨rfl,hmap.mpr h⟩,rfl⟩⟩
    rw [RoundTrips,loadFile_defined hw hbig hdefined,Option.some_inj,hsame]
    exact forall₂_congr fun b hb => readBack_eq_iff (hdefined b hb)
  · rw [RoundTrips,loadFile_undefined hw hbig hdefined]
    exact iff_of_false (Option.some_ne_none _).symm fun h => hdefined fun b hb => (h b hb).1.isDefined

end Loading

/-- A plan with one uplink and one downlink channel. -/
def twoChannels (enabled : Bool) : RegionalParameterChannelPlan :=
  {RegionalParameterChannelPlan.new with
    uplinkChannels := [.new]
    downlinkChannels := [{Channel.new with enabled := enabled}]}

/-- Such a plan is written as JSON. -/
theorem isWritable_twoChannels (enabled : Bool) : (twoChannels enabled).IsWritable where
  name := List.forall_mem_nil _
  cn := List.forall_mem_nil _
  power := ⟨0,Int.cast_zero.symm,by decide⟩
  offsets := Nat.zero_le _

/-- Enabled channels come back. -/
theorem plansRoundTrip_enabled :
    RoundTrips ⟨fun _ => false,fun _ => (0,[])⟩ ⟨⟨1,0,3⟩,[twoChannels true]⟩ :=
  (@plansRoundTrip_iff ⟨fun _ => false,fun _ => (0,[])⟩ ⟨⟨1,0,3⟩,[twoChannels true]⟩
    (fun b hb => List.mem_singleton.mp hb ▸ isWritable_twoChannels true) fun _ _ => rfl).mpr
    fun b hb => by
      rw [List.mem_singleton.mp hb]
      refine ⟨.inr ⟨fun c hc => ?_,.new,rfl,rfl,rfl⟩,sixDigits_int (n := 0) (by decide)⟩
      rw [List.mem_singleton.mp hc]
      exact ⟨rfl,rfl⟩

/-- A disabled downlink channel does not. -/
theorem not_plansRoundTrip_disabled :
    ¬∀ (platform : Platform) (rb : RegionBands),(∀ b∈rb.bands,b.IsWritable) →
      (∀ value : ℚ,abs value<2^128 → platform.tooBig (floatText value)=false) → RoundTrips platform rb := by
  intro h
  have hread := h ⟨fun _ => false,fun _ => (0,[])⟩ ⟨⟨1,0,3⟩,[twoChannels false]⟩
    (fun b hb => List.mem_singleton.mp hb ▸ isWritable_twoChannels false) fun _ _ => rfl
  rw [RoundTrips,@loadFile_defined _ ⟨⟨1,0,3⟩,[twoChannels false]⟩
    (fun b hb => List.mem_singleton.mp hb ▸ isWritable_twoChannels false) (fun _ _ => rfl)
    (fun b hb => List.mem_singleton.mp hb ▸ .inr (List.cons_ne_nil _ _)),Option.some_inj] at hread
  have hflags := congrArg (fun out => out.1.bands.map fun b => b.downlinkChannels.map Channel.enabled) hread
  exact absurd hflags (by decide)

end LorawanServer.ChannelPlanRoundTrip
