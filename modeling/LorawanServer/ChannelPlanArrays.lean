import LorawanServer.ChannelPlanMoves

/-!
# Moves of the handler over the arrays of a plan

Longest payloads, data rates of the first window, power steps and channels. The
numbers of a channel go to the last channel of its own array, but its flags go
to the last uplink channel: a downlink channel keeps the flags of a new one, and
without uplink channels its first flag ends in undefined behaviour.
-/

namespace LorawanServer.ChannelPlanArrays

open CppRuntime Records JsonDocument JsonEvents FloatNumbers ChannelPlan ChannelPlanFile ChannelPlanMoves
open RegionBandsJsonHandler (step modifyAt)

section Placed

variable {h : RegionBandsJsonHandler} {version : LorawanVersion} {bands : List RegionalParameterChannelPlan}
  {b : RegionalParameterChannelPlan}

/-- One item of an array of longest payloads, for either of the two arrays. -/
theorem moves_size {inner outside : State} {next : RegionBandsJsonHandler} {i : ℕ}
    (set : Vector MaxPayloadSize DATA_RATE_SIZE → RegionalParameterChannelPlan) (p : MaxPayloadSize)
    {sizes : Vector MaxPayloadSize DATA_RATE_SIZE}
    (hstart : ∀ key,RegionBandsJsonHandler.call {place h outside version bands (set sizes) with keyIndex := key} .startObject=
      some ({place h inner version bands (set sizes) with keyIndex := key},true))
    (hinteger : ∀ key n f sizes,RegionBandsJsonHandler.sizeInteger key n=some f →
      (place {h with keyIndex := key} inner version bands (set sizes)).integer n=
        (place {h with keyIndex := key} inner version bands (set (modifyAt sizes i f)),true))
    (hstop : ∀ sizes,Moves (place h inner version bands (set sizes)) [.endObject]
      (place next outside version bands (set sizes))) :
    Moves (place h outside version bands (set sizes)) p.written.events
      (place next outside version bands (set (modifyAt sizes i fun _ => p))) := by
  have hm := p.m.toNat_lt
  have hn := p.n.toNat_lt
  refine Moves.inside _ (place h inner version bands (set (modifyAt sizes i fun _ => p))) hstart ?_ (hstop _)
  refine (@moves_int _ _ _ _ _ _ .m _ (set (modifyAt sizes i fun old => {old with m := UInt8.ofInt p.m.toNat}))
    (names_at 32 (by decide)) (by omega) (by omega) (hinteger _ _ _ _ rfl)).cons ?_
  refine (@moves_int _ _ _ _ _ _ .n _ (set (modifyAt sizes i fun _ => p))
    (names_at 33 (by decide)) (by omega) (by omega) ?_).cons .refl
  rw [hinteger _ _ _ _ rfl,modifyAt_modifyAt,byte_ofInt_toNat,byte_ofInt_toNat]

/-- A number of the longest payloads. -/
theorem integer_pSize {key : Key} {n : ℤ} {f : MaxPayloadSize → MaxPayloadSize}
    (hc : h.maxPayloadSizePerDataRateCount<DATA_RATE_SIZE) (hf : RegionBandsJsonHandler.sizeInteger key n=some f) :
    (place {h with keyIndex := key} .pSize version bands b).integer n=
      (place {h with keyIndex := key} .pSize version bands {b with
        maxPayloadSizePerDataRate := modifyAt b.maxPayloadSizePerDataRate h.maxPayloadSizePerDataRateCount f},true) := by
  have hchange : RegionBandsJsonHandler.sizeInteger (place {h with keyIndex := key} .pSize version bands b).keyIndex n=
      some f := hf
  change (if (place {h with keyIndex := key} .pSize version bands b).storage.bands=[] then _
    else if DATA_RATE_SIZE≤h.maxPayloadSizePerDataRateCount then _ else _)=_
  rw [if_neg place_ne_nil,if_neg (Nat.not_le.mpr hc),hchange]
  exact congrArg (·,true) (setBack_place _)

/-- A number of the longest payloads with a repeater. -/
theorem integer_prptSize {key : Key} {n : ℤ} {f : MaxPayloadSize → MaxPayloadSize}
    (hc : h.maxPayloadSizePerDataRateRepeaterCount<DATA_RATE_SIZE)
    (hf : RegionBandsJsonHandler.sizeInteger key n=some f) :
    (place {h with keyIndex := key} .prptSize version bands b).integer n=
      (place {h with keyIndex := key} .prptSize version bands {b with
        maxPayloadSizePerDataRateRepeater :=
          modifyAt b.maxPayloadSizePerDataRateRepeater h.maxPayloadSizePerDataRateRepeaterCount f},true) := by
  have hchange : RegionBandsJsonHandler.sizeInteger (place {h with keyIndex := key} .prptSize version bands b).keyIndex n=
      some f := hf
  change (if (place {h with keyIndex := key} .prptSize version bands b).storage.bands=[] then _
    else if DATA_RATE_SIZE≤h.maxPayloadSizePerDataRateRepeaterCount then _ else _)=_
  rw [if_neg place_ne_nil,if_neg (Nat.not_le.mpr hc),hchange]
  exact congrArg (·,true) (setBack_place _)

/-- The longest payloads. -/
theorem moves_maxPayloadSizes (sizes : Vector MaxPayloadSize DATA_RATE_SIZE) (hz : h.maxPayloadSizePerDataRateCount=0) :
    Moves (place h .band version bands b)
      (.key (ascii "maxPayloadSizePerDataRate")::(Written.array (sizes.toList.map MaxPayloadSize.written)).events)
      (place {h with maxPayloadSizePerDataRateCount := DATA_RATE_SIZE} .band version bands
        {b with maxPayloadSizePerDataRate := sizes}) := by
  refine Moves.array .maxPayloadSizePerDataRate
    (fun done => place {h with maxPayloadSizePerDataRateCount := done.length} .pSizes version bands
      {b with maxPayloadSizePerDataRate := fill b.maxPayloadSizePerDataRate done}) (names_at 16 (by decide)) ?_ ?_ ?_
  · dsimp only [List.length_nil]
    rw [fill_nil,← hz]
    rfl
  · intro done p rest hsplit
    have hlength := congrArg List.length hsplit
    rw [Vector.length_toList,List.length_append,List.length_cons] at hlength
    have hsize := @moves_size {h with maxPayloadSizePerDataRateCount := done.length} version bands .pSize .pSizes
      {h with maxPayloadSizePerDataRateCount := done.length+1} done.length
      (fun sizes => {b with maxPayloadSizePerDataRate := sizes}) p (fill b.maxPayloadSizePerDataRate done)
      (fun _ => rfl) ?_ (fun _ => Moves.single fun _ => rfl)
    · rw [List.length_append,List.length_singleton]
      rwa [modifyAt_fill b.maxPayloadSizePerDataRate done (fun _ => p) p fun _ => rfl] at hsize
    · exact fun key n f sizes hf => @integer_pSize {h with maxPayloadSizePerDataRateCount := done.length} _ _ _ _ _ _
        (by dsimp only; omega) hf
  · rw [fill_toList,Vector.length_toList]
    exact Moves.single fun _ => rfl

/-- The longest payloads with a repeater. -/
theorem moves_maxPayloadSizesRepeater (sizes : Vector MaxPayloadSize DATA_RATE_SIZE)
    (hz : h.maxPayloadSizePerDataRateRepeaterCount=0) :
    Moves (place h .band version bands b)
      (.key (ascii "maxPayloadSizePerDataRateRepeater")::
        (Written.array (sizes.toList.map MaxPayloadSize.written)).events)
      (place {h with maxPayloadSizePerDataRateRepeaterCount := DATA_RATE_SIZE} .band version bands
        {b with maxPayloadSizePerDataRateRepeater := sizes}) := by
  refine Moves.array .maxPayloadSizePerDataRateRepeater
    (fun done => place {h with maxPayloadSizePerDataRateRepeaterCount := done.length} .prptSizes version bands
      {b with maxPayloadSizePerDataRateRepeater := fill b.maxPayloadSizePerDataRateRepeater done})
    (names_at 17 (by decide)) ?_ ?_ ?_
  · dsimp only [List.length_nil]
    rw [fill_nil,← hz]
    rfl
  · intro done p rest hsplit
    have hlength := congrArg List.length hsplit
    rw [Vector.length_toList,List.length_append,List.length_cons] at hlength
    have hsize := @moves_size {h with maxPayloadSizePerDataRateRepeaterCount := done.length} version bands .prptSize
      .prptSizes {h with maxPayloadSizePerDataRateRepeaterCount := done.length+1} done.length
      (fun sizes => {b with maxPayloadSizePerDataRateRepeater := sizes}) p
      (fill b.maxPayloadSizePerDataRateRepeater done) (fun _ => rfl) ?_ (fun _ => Moves.single fun _ => rfl)
    · rw [List.length_append,List.length_singleton]
      rwa [modifyAt_fill b.maxPayloadSizePerDataRateRepeater done (fun _ => p) p fun _ => rfl] at hsize
    · exact fun key n f sizes hf =>
        @integer_prptSize {h with maxPayloadSizePerDataRateRepeaterCount := done.length} _ _ _ _ _ _
          (by dsimp only; omega) hf
  · rw [fill_toList,Vector.length_toList]
    exact Moves.single fun _ => rfl

/-- A byte behind the list of the place that is read. -/
theorem moves_offset {i : ℕ} {offsets : Vector (List UInt8) DATA_RATE_SIZE} {done : List UInt8} (offset : UInt8)
    (hi : h.rx1DataRateOffsetCount=i) (hc : i<DATA_RATE_SIZE) :
    Moves (place h .rx1DrOffset version bands {b with rx1DataRateOffsets := modifyAt offsets i (·++done)})
      (Written.int offset.toNat).events
      (place h .rx1DrOffset version bands {b with rx1DataRateOffsets := modifyAt offsets i (·++(done++[offset]))}) := by
  subst hi
  have hlt := offset.toNat_lt
  refine Moves.single fun key => (call_int _ (by omega) (by omega)).trans (congrArg some ?_)
  change (if (place {h with keyIndex := key} .rx1DrOffset version bands _).storage.bands=[] then _
    else if DATA_RATE_SIZE≤h.rx1DataRateOffsetCount then _ else _)=_
  rw [if_neg place_ne_nil,if_neg (by omega)]
  have hset := @setBack_place {h with keyIndex := key} .rx1DrOffset version bands
    {b with rx1DataRateOffsets := modifyAt offsets h.rx1DataRateOffsetCount (·++done)} fun rb => {rb with
      rx1DataRateOffsets := modifyAt rb.rx1DataRateOffsets h.rx1DataRateOffsetCount (·++[UInt8.ofInt offset.toNat])}
  refine (congrArg (·,true) hset).trans ?_
  dsimp only
  rw [byte_ofInt_toNat,modifyAt_modifyAt]
  simp only [List.append_assoc]
  rfl

/-- The data rates of the first window. -/
theorem moves_rx1DataRateOffsets (offsets : Vector (List UInt8) DATA_RATE_SIZE) (hz : h.rx1DataRateOffsetCount=0)
    (hb : b.rx1DataRateOffsets=Vector.replicate _ []) :
    Moves (place h .band version bands b)
      (.key (ascii "rx1DataRateOffsets")::(Written.array (offsets.toList.map offsetsWritten)).events)
      (place {h with rx1DataRateOffsetCount := DATA_RATE_SIZE} .band version bands
        {b with rx1DataRateOffsets := offsets}) := by
  refine Moves.array .rx1DataRateOffsets
    (fun done => place {h with rx1DataRateOffsetCount := done.length} .rx1DrOffsets version bands
      {b with rx1DataRateOffsets := fill b.rx1DataRateOffsets done}) (names_at 18 (by decide)) ?_ ?_ ?_
  · dsimp only [List.length_nil]
    rw [fill_nil,← hz]
    rfl
  · intro done list rest hsplit
    have hlength := congrArg List.length hsplit
    rw [Vector.length_toList,List.length_append,List.length_cons] at hlength
    have hnext : modifyAt (fill b.rx1DataRateOffsets done) done.length (·++list)=
        fill b.rx1DataRateOffsets (done++[list]) := by
      refine modifyAt_fill _ _ _ _ fun hd => ?_
      rw [hb,Vector.getElem_replicate,List.nil_append]
    have hsame : modifyAt (fill b.rx1DataRateOffsets done) done.length (·++[])=fill b.rx1DataRateOffsets done := by
      simp only [List.append_nil]
      exact modifyAt_id _ _
    have hinside := @Moves.items _ (fun offset : UInt8 => (Written.int offset.toNat).events)
      (fun read => place {h with rx1DataRateOffsetCount := done.length} .rx1DrOffset version bands
        {b with rx1DataRateOffsets := modifyAt (fill b.rx1DataRateOffsets done) done.length (·++read)}) list
      fun read offset _ _ => moves_offset offset rfl (by omega)
    rw [hsame,hnext] at hinside
    rw [offsetsWritten,Written.array,List.flatMap_map,List.length_append,List.length_singleton]
    exact Moves.inside _ _ (fun _ => rfl) hinside (Moves.single fun _ => rfl)
  · rw [fill_toList,Vector.length_toList]
    exact Moves.single fun _ => rfl

/-- The power steps. -/
theorem moves_txPowerOffsets (offsets : List Int8) (hz : h.txPowerOffsetCount=0) (hb : b.txPowerOffsets=[])
    (hfit : offsets.length≤TX_POWER_OFFSET_MAX_SIZE) :
    Moves (place h .band version bands b)
      (.key (ascii "txPowerOffsets")::(Written.array (offsets.map fun offset => .int offset.toInt)).events)
      (place {h with txPowerOffsetCount := offsets.length} .band version bands {b with txPowerOffsets := offsets}) := by
  refine Moves.array .txPowerOffsets
    (fun done => place {h with txPowerOffsetCount := done.length} .txPowerOfs version bands
      {b with txPowerOffsets := done}) (names_at 19 (by decide)) ?_ ?_ (Moves.single fun _ => rfl)
  · dsimp only [List.length_nil]
    rw [← hb,← hz]
    rfl
  · intro done offset rest hsplit
    have hlength := congrArg List.length hsplit
    rw [List.length_append,List.length_cons] at hlength
    have hlow := offset.le_toInt
    have hhigh := offset.toInt_lt
    refine Moves.single fun key => (call_int _ (by omega) (by omega)).trans (congrArg some ?_)
    change (if (place {h with keyIndex := key,txPowerOffsetCount := done.length} .txPowerOfs version bands _).storage.bands=[]
      then _ else if TX_POWER_OFFSET_MAX_SIZE≤done.length then _ else _)=_
    rw [if_neg place_ne_nil,if_neg (by omega)]
    have hset := @setBack_place {h with keyIndex := key,txPowerOffsetCount := done.length} .txPowerOfs version bands
      {b with txPowerOffsets := done} fun rb => {rb with txPowerOffsets := rb.txPowerOffsets++[Int8.ofInt offset.toInt]}
    refine (congrArg (fun g : RegionBandsJsonHandler => ({g with txPowerOffsetCount := done.length+1},true)) hset).trans ?_
    rw [Int8.ofInt_toInt,List.length_append,List.length_singleton]
    rfl

/-- A number of a channel goes to the last channel of its array. -/
theorem integer_channel (n : ℤ) :
    (place h .channel version bands b).integer n=
      match h.prevState,RegionBandsJsonHandler.channelInteger h.keyIndex n with
      | .uplinks,some f =>
        if b.uplinkChannels=[] then (place h .channel version bands b).refuse ERR_REGION_BAND_EMPTY
        else (place h .channel version bands {b with uplinkChannels := b.uplinkChannels.modifyLast f},true)
      | .downlinks,some f =>
        if b.downlinkChannels=[] then (place h .channel version bands b).refuse ERR_REGION_BAND_EMPTY
        else (place h .channel version bands {b with downlinkChannels := b.downlinkChannels.modifyLast f},true)
      | _,_ => (place h .channel version bands b).refuse ERR_REGION_BAND_EMPTY := by
  have hstep : (place h .channel version bands b).integer n=
      match h.prevState,RegionBandsJsonHandler.channelInteger h.keyIndex n with
      | .uplinks,some f =>
        if ((place h .channel version bands b).storage.bands.getLastD .new).uplinkChannels=[] then
          (place h .channel version bands b).refuse ERR_REGION_BAND_EMPTY
        else (place h .channel version bands b).onBack
          fun rb => {rb with uplinkChannels := rb.uplinkChannels.modifyLast f}
      | .downlinks,some f =>
        if ((place h .channel version bands b).storage.bands.getLastD .new).downlinkChannels=[] then
          (place h .channel version bands b).refuse ERR_REGION_BAND_EMPTY
        else (place h .channel version bands b).onBack
          fun rb => {rb with downlinkChannels := rb.downlinkChannels.modifyLast f}
      | _,_ => (place h .channel version bands b).refuse ERR_REGION_BAND_EMPTY := rfl
  rw [hstep]
  simp only [place_back,onBack_place]

/-- A flag of a channel goes to the last uplink channel. -/
theorem channelFlag_place (f : Channel → Channel) :
    RegionBandsJsonHandler.bool.channelFlag (place h .channel version bands b) b f=
      if h.prevState=.uplinks ∧ b.uplinkChannels=[] then
        some ((place h .channel version bands b).refuse "uplinkChannels array element disappeared ")
      else if h.prevState=.downlinks ∧ b.downlinkChannels=[] then
        some ((place h .channel version bands b).refuse "downlinkChannels array element disappeared")
      else if b.uplinkChannels=[] then none
      else some (place h .channel version bands {b with uplinkChannels := b.uplinkChannels.modifyLast f},true) := by
  have hhere : ¬((place h .channel version bands b).state≠.channel ∨ (place h .channel version bands b).storage.bands=[]) :=
    not_or.mpr ⟨not_not.mpr rfl,place_ne_nil⟩
  rw [RegionBandsJsonHandler.bool.channelFlag,if_neg hhere,setBack_place]
  rfl

/-- The change that a flag makes. -/
def withFlag (key : Key) (value : Bool) (c : Channel) : Channel :=
  if key=.enabled then {c with enabled := value} else {c with custom := value}

/-- A flag goes to the last uplink channel, and without one the call is
undefined. -/
theorem call_flag {key : Key} {value : Bool} (hkey : key=.enabled ∨ key=.custom)
    (hp : h.prevState=.uplinks ∧ b.uplinkChannels≠[] ∨ h.prevState=.downlinks ∧ b.downlinkChannels≠[]) :
    RegionBandsJsonHandler.call (place {h with keyIndex := key} .channel version bands b) (.bool value)=
      if b.uplinkChannels=[] then none
      else some (place {h with keyIndex := key} .channel version bands
        {b with uplinkChannels := b.uplinkChannels.modifyLast (withFlag key value)},true) := by
  have hfirst : ¬(h.prevState=.uplinks ∧ b.uplinkChannels=[]) := by
    rintro ⟨hup,hnil⟩
    rcases hp with ⟨-,hne⟩|⟨hdown,-⟩
    · exact hne hnil
    · rw [hup] at hdown
      cases hdown
  have hsecond : ¬(h.prevState=.downlinks ∧ b.downlinkChannels=[]) := by
    rintro ⟨hdown,hnil⟩
    rcases hp with ⟨hup,-⟩|⟨-,hne⟩
    · rw [hup] at hdown
      cases hdown
    · exact hne hnil
  have hflag : ∀ f : Channel → Channel,
      RegionBandsJsonHandler.bool.channelFlag (place {h with keyIndex := key} .channel version bands b)
        ((place {h with keyIndex := key} .channel version bands b).storage.bands.getLastD .new) f=
          if b.uplinkChannels=[] then none
          else some (place {h with keyIndex := key} .channel version bands
            {b with uplinkChannels := b.uplinkChannels.modifyLast f},true) := by
    intro f
    rw [place_back,channelFlag_place,if_neg hfirst,if_neg hsecond]
  rcases hkey with rfl|rfl
  · exact hflag (withFlag .enabled value)
  · exact hflag (withFlag .custom value)

/-- A number of the last uplink channel. -/
theorem moves_uplinkInt {name : String} {done : List Channel} {c : Channel} (key : Key) (n : Int32)
    (f : Int32 → Channel → Channel) (hkey : Names name key) (hp : h.prevState=.uplinks)
    (hf : ∀ n,RegionBandsJsonHandler.channelInteger key n=some (f (Int32.ofInt n))) :
    Moves (place h .channel version bands {b with uplinkChannels := done++[c]})
      (.key (ascii name)::(Written.int n.toInt).events)
      (place h .channel version bands {b with uplinkChannels := done++[f n c]}) := by
  refine moves_int32 key n hkey ?_
  have hn := hf n.toInt
  rw [Int32.ofInt_toInt] at hn
  have hsome : done++[c]≠[] := List.append_ne_nil_of_right_ne_nil _ (List.cons_ne_nil _ _)
  rw [integer_channel]
  dsimp only
  rw [hp,hn]
  dsimp only
  rw [if_neg hsome,List.modifyLast_concat]

/-- A flag of the last uplink channel. -/
theorem moves_uplinkFlag {name : String} {done : List Channel} {c : Channel} (key : Key) (value : Bool)
    (hkey : Names name key) (hflag : key=.enabled ∨ key=.custom) (hp : h.prevState=.uplinks) :
    Moves (place h .channel version bands {b with uplinkChannels := done++[c]})
      (.key (ascii name)::(Written.bool value).events)
      (place h .channel version bands {b with uplinkChannels := done++[withFlag key value c]}) := by
  have hsome : done++[c]≠[] := List.append_ne_nil_of_right_ne_nil _ (List.cons_ne_nil _ _)
  refine Moves.scalar key hkey ((call_flag hflag (.inl ⟨hp,hsome⟩)).trans ?_)
  dsimp only
  rw [if_neg hsome,List.modifyLast_concat]
  rfl

/-- A channel ends where its array began. -/
theorem moves_channelEnd {around : State} (hp : h.prevState=around) :
    Moves (place h .channel version bands b) [.endObject] (place h around version bands b) := by
  subst hp
  exact Moves.single fun _ => rfl

/-- One uplink channel. -/
theorem moves_uplink (c : Channel) {done : List Channel} (hp : h.prevState=.uplinks) :
    Moves (place h .uplinks version bands {b with uplinkChannels := done}) c.written.events
      (place h .uplinks version bands {b with uplinkChannels := done++[c]}) := by
  refine Moves.inside (place h .channel version bands {b with uplinkChannels := done++[.new]})
    (place h .channel version bands {b with uplinkChannels := done++[c]}) ?_ ?_ (moves_channelEnd hp)
  · intro key
    change some (if (place {h with keyIndex := key} .channel version bands _).storage.bands=[] then _ else _)=_
    rw [if_neg place_ne_nil]
    exact congrArg (fun g => some (g,true)) (setBack_place _)
  · refine (moves_uplinkInt .frequency c.frequency (fun n c => {c with frequency := n}) (names_at 34 (by decide)) hp
      fun _ => rfl).cons ?_
    refine (moves_uplinkInt .minDR c.minDR (fun n c => {c with minDR := n}) (names_at 35 (by decide)) hp
      fun _ => rfl).cons ?_
    refine (moves_uplinkInt .maxDR c.maxDR (fun n c => {c with maxDR := n}) (names_at 36 (by decide)) hp
      fun _ => rfl).cons ?_
    refine (moves_uplinkFlag .enabled c.enabled (names_at 37 (by decide)) (.inl rfl) hp).cons ?_
    refine (moves_uplinkFlag .custom c.custom (names_at 38 (by decide)) (.inr rfl) hp).cons ?_
    exact .refl

/-- The channels of uplinks. -/
theorem moves_uplinkChannels (channels : List Channel) (hb : b.uplinkChannels=[]) :
    Moves (place h .band version bands b)
      (.key (ascii "uplinkChannels")::(Written.array (channels.map Channel.written)).events)
      (place {h with prevState := .uplinks} .band version bands {b with uplinkChannels := channels}) := by
  refine Moves.array .uplinkChannels
    (fun done => place {h with prevState := .uplinks} .uplinks version bands {b with uplinkChannels := done})
    (names_at 14 (by decide)) ?_ (fun done c _ _ => moves_uplink c rfl) (Moves.single fun _ => rfl)
  dsimp only
  rw [← hb]
  rfl

/-- A channel with the flags of a new one. -/
def unflagged (c : Channel) : Channel := {c with enabled := true,custom := false}

/-- A channel with the flags of the last of some others. -/
def lastFlags (done : List Channel) (u : Channel) : Channel :=
  match done.getLast? with
  | none => u
  | some c => {u with enabled := c.enabled,custom := c.custom}

/-- Both flags of one more channel. -/
theorem lastFlags_concat (done : List Channel) (c u : Channel) :
    lastFlags (done++[c]) u=withFlag .custom c.custom (withFlag .enabled c.enabled (lastFlags done u)) := by
  rw [lastFlags,List.getLast?_concat,lastFlags]
  cases done.getLast? <;> rfl

/-- A number of the last downlink channel. -/
theorem moves_downlinkInt {name : String} {ups done : List Channel} {c : Channel} (key : Key) (n : Int32)
    (f : Int32 → Channel → Channel) (hkey : Names name key) (hp : h.prevState=.downlinks)
    (hf : ∀ n,RegionBandsJsonHandler.channelInteger key n=some (f (Int32.ofInt n))) :
    Moves (place h .channel version bands {b with uplinkChannels := ups,downlinkChannels := done++[c]})
      (.key (ascii name)::(Written.int n.toInt).events)
      (place h .channel version bands {b with uplinkChannels := ups,downlinkChannels := done++[f n c]}) := by
  refine moves_int32 key n hkey ?_
  have hn := hf n.toInt
  rw [Int32.ofInt_toInt] at hn
  have hsome : done++[c]≠[] := List.append_ne_nil_of_right_ne_nil _ (List.cons_ne_nil _ _)
  rw [integer_channel]
  dsimp only
  rw [hp,hn]
  dsimp only
  rw [if_neg hsome,List.modifyLast_concat]

/-- A flag of a downlink channel goes to the last uplink channel. -/
theorem moves_downlinkFlag {name : String} {init downs : List Channel} {u : Channel} (key : Key) (value : Bool)
    (hkey : Names name key) (hflag : key=.enabled ∨ key=.custom) (hp : h.prevState=.downlinks) (hd : downs≠[]) :
    Moves (place h .channel version bands {b with uplinkChannels := init++[u],downlinkChannels := downs})
      (.key (ascii name)::(Written.bool value).events)
      (place h .channel version bands
        {b with uplinkChannels := init++[withFlag key value u],downlinkChannels := downs}) := by
  have hsome : init++[u]≠[] := List.append_ne_nil_of_right_ne_nil _ (List.cons_ne_nil _ _)
  refine Moves.scalar key hkey ((call_flag hflag (.inr ⟨hp,hd⟩)).trans ?_)
  dsimp only
  rw [if_neg hsome,List.modifyLast_concat]
  rfl

/-- What opens a downlink channel. -/
theorem call_downlinkStart (key : Key) :
    RegionBandsJsonHandler.call {place h .downlinks version bands b with keyIndex := key} .startObject=
      some ({place h .channel version bands {b with downlinkChannels := b.downlinkChannels++[.new]} with
        keyIndex := key},true) := by
  change some (if (place {h with keyIndex := key} .channel version bands _).storage.bands=[] then _ else _)=_
  rw [if_neg place_ne_nil]
  exact congrArg (fun g => some (g,true)) (setBack_place _)

/-- The numbers of a downlink channel. -/
theorem moves_downlinkNumbers (c : Channel) {ups done : List Channel} (hp : h.prevState=.downlinks) :
    Moves (place h .channel version bands {b with uplinkChannels := ups,downlinkChannels := done++[.new]})
      ([(ascii "frequency",Written.int c.frequency.toInt),(ascii "minDR",.int c.minDR.toInt),
        (ascii "maxDR",.int c.maxDR.toInt)].flatMap fun m : Bytes×Written => .key m.1::m.2.events)
      (place h .channel version bands {b with uplinkChannels := ups,downlinkChannels := done++[unflagged c]}) := by
  refine (moves_downlinkInt .frequency c.frequency (fun n c => {c with frequency := n}) (names_at 34 (by decide)) hp
    fun _ => rfl).cons ?_
  refine (moves_downlinkInt .minDR c.minDR (fun n c => {c with minDR := n}) (names_at 35 (by decide)) hp
    fun _ => rfl).cons ?_
  refine (moves_downlinkInt .maxDR c.maxDR (fun n c => {c with maxDR := n}) (names_at 36 (by decide)) hp
    fun _ => rfl).cons ?_
  exact .refl

/-- One downlink channel. -/
theorem moves_downlink (c : Channel) {init done : List Channel} {u : Channel} (hp : h.prevState=.downlinks) :
    Moves
      (place h .downlinks version bands
        {b with uplinkChannels := init++[lastFlags done u],downlinkChannels := done.map unflagged}) c.written.events
      (place h .downlinks version bands
        {b with uplinkChannels := init++[lastFlags (done++[c]) u],downlinkChannels := (done++[c]).map unflagged}) := by
  have hsome : done.map unflagged++[unflagged c]≠[] := List.append_ne_nil_of_right_ne_nil _ (List.cons_ne_nil _ _)
  rw [lastFlags_concat,List.map_append,List.map_singleton]
  refine Moves.inside _ _ call_downlinkStart ((moves_downlinkNumbers c hp).trans ?_) (moves_channelEnd hp)
  refine (moves_downlinkFlag .enabled c.enabled (names_at 37 (by decide)) (.inl rfl) hp hsome).trans ?_
  exact moves_downlinkFlag .custom c.custom (names_at 38 (by decide)) (.inr rfl) hp hsome

/-- The channels of downlinks behind at least one of uplinks. -/
theorem moves_downlinkChannels (channels : List Channel) {init : List Channel} {u : Channel}
    (hu : b.uplinkChannels=init++[u]) (hd : b.downlinkChannels=[]) :
    Moves (place h .band version bands b)
      (.key (ascii "downlinkChannels")::(Written.array (channels.map Channel.written)).events)
      (place {h with prevState := .downlinks} .band version bands
        {b with uplinkChannels := init++[lastFlags channels u],downlinkChannels := channels.map unflagged}) := by
  refine Moves.array .downlinkChannels
    (fun done => place {h with prevState := .downlinks} .downlinks version bands
      {b with uplinkChannels := init++[lastFlags done u],downlinkChannels := done.map unflagged})
    (names_at 15 (by decide)) ?_ (fun done c _ _ => moves_downlink c rfl) (Moves.single fun _ => rfl)
  have hsame : {b with uplinkChannels := init++[lastFlags [] u],downlinkChannels := [].map unflagged}=b := by
    rw [lastFlags,List.getLast?_nil,← hu,List.map_nil,← hd]
  dsimp only
  rw [hsame]
  rfl

/-- A downlink channel without any of uplinks. -/
theorem fails_downlinkChannels (c : Channel) (rest : List Channel) (hu : b.uplinkChannels=[]) :
    Fails (place h .band version bands b)
      (.key (ascii "downlinkChannels")::(Written.array ((c::rest).map Channel.written)).events) := by
  have hopen : Moves (place h .band version bands b) [.key (ascii "downlinkChannels"),.startArray]
      (place {h with prevState := .downlinks} .downlinks version bands b) :=
    Moves.scalar .downlinkChannels (names_at 15 (by decide)) rfl
  have hstart := @Moves.single _ _ _ (@call_downlinkStart {h with prevState := .downlinks} version bands b)
  have hnumbers := @moves_downlinkNumbers {h with prevState := .downlinks} version bands b c b.uplinkChannels
    b.downlinkChannels rfl
  have hflag := @Fails.scalar
    (place {h with prevState := .downlinks} .channel version bands
      {b with downlinkChannels := b.downlinkChannels++[unflagged c]}) "enabled" .enabled (.bool c.enabled)
    (names_at 37 (by decide))
    ((call_flag (.inl rfl) (.inr ⟨rfl,List.append_ne_nil_of_right_ne_nil _ (List.cons_ne_nil _ _)⟩)).trans
      (if_pos hu))
  exact ((hopen.trans (hstart.trans hnumbers)).fails hflag).append _

/-- No channels of downlinks. -/
theorem moves_noDownlinkChannels :
    Moves (place h .band version bands b) (.key (ascii "downlinkChannels")::(Written.array []).events)
      (place {h with prevState := .downlinks} .band version bands b) :=
  Moves.container .downlinkChannels (place {h with prevState := .downlinks} .downlinks version bands b) _
    (names_at 15 (by decide)) rfl .refl (Moves.single fun _ => rfl)

end Placed

end LorawanServer.ChannelPlanArrays
