import LorawanServer.Records
import LorawanServer.StepRun

/-!
# Packets from the concentrator

`upstreamRunner` fetches the received packets and goes over them with one variable
for the metadata and one for the payload. The callback stands behind the loop, so
a fetch brings one packet to the server at most: the payload of the last packet
that passes all tests, with radio data that a later one may have left. The
variables live as long as the thread.
-/

namespace LorawanServer.UpstreamBatches

open CppRuntime Records StepRun

/-- `lgw_pkt_rx_s`, as far as the runner reads it. -/
structure LgwPktRx where
  freqHz : UInt32
  ifChain : UInt8
  status : UInt8
  countUs : UInt32
  rfChain : UInt8
  modulation : UInt8
  bandwidth : UInt8
  datarate : UInt32
  coderate : UInt8
  /-- The strength of the signal, converted to `int16_t`. -/
  rssis : Int16
  snr : ℚ
  /-- The first `size` bytes of the buffer. -/
  payload : Bytes

/-- The settings of the gateway that select packets. -/
structure ForwardSettings where
  forwardCRCValid : Bool
  forwardCRCError : Bool
  forwardCRCDisabled : Bool

/-- A copy of the time reference: seconds of the two clocks, when they convert. -/
structure TimeReference where
  cnt2utc : UInt32 → Option ℤ
  cnt2gps : UInt32 → Option ℤ

/-- A received packet with what the system clock shows when its turn comes. -/
structure Reception where
  packet : LgwPktRx
  now : ℤ

/-- The variables of the loop. -/
structure Variables where
  metadata : RfmMetaData
  payload : Bytes
  /-- `pkt_in_dgram`. -/
  pktInDgram : ℕ

/-- The filter on the checksum: the status of a packet that passes. -/
def crcStat (settings : ForwardSettings) (status : UInt8) : Option Int8 :=
  if status=0x10 then if settings.forwardCRCValid then some 1 else none
  else if status=0x11 then if settings.forwardCRCError then some (-1) else none
  else if status=0x01 then if settings.forwardCRCDisabled then some 0 else none
  else none

/-- The switch over the data rate. -/
def spreadingFactorOf (datarate : UInt32) : Option ℤ :=
  if 5 ≤ datarate ∧ datarate ≤ 12 then some datarate.toNat else none

/-- The switch over the bandwidth. -/
def bandwidthOf (bandwidth : UInt8) : Option Bandwidth :=
  if bandwidth=4 then some .khz125
  else if bandwidth=5 then some .khz250
  else if bandwidth=6 then some .khz500
  else none

/-- The switch over the coding rate. -/
def codingRateOf (coderate : UInt8) : Option CodingRate :=
  if coderate=1 then some .cr45
  else if coderate=2 then some .cr46
  else if coderate=3 then some .cr47
  else if coderate=4 then some .cr48
  else if coderate=0 then some .off
  else none

/-- The members that are written before the modulation is looked at. With a time
reference that converts, the timestamp is replaced by the seconds of the GPS. -/
def writeTimes (reference : Option TimeReference) (r : Reception) (stat : Int8) (metadata : RfmMetaData) :
    RfmMetaData :=
  let (tmst,t) := match reference with
    | none => (r.packet.countUs,r.now)
    | some clocks =>
      (match clocks.cnt2gps r.packet.countUs with
        | some seconds => UInt32.ofInt seconds
        | none => r.packet.countUs,
      (clocks.cnt2utc r.packet.countUs).getD 0)
  {metadata with tmst,t,stat,rfch := r.packet.rfChain,chan := r.packet.ifChain,freq := r.packet.freqHz}

/-- The members of a LoRa packet, and whether all its switches pass. -/
def writeLora (p : LgwPktRx) (metadata : RfmMetaData) : RfmMetaData×Bool :=
  match spreadingFactorOf p.datarate with
  | none => ({metadata with modu := .lora,spreadingFactor := 5},false)
  | some spreadingFactor =>
    match bandwidthOf p.bandwidth with
    | none => ({metadata with modu := .lora,spreadingFactor,bandwith := .khz125},false)
    | some bandwith =>
      match codingRateOf p.coderate with
      | none => ({metadata with modu := .lora,spreadingFactor,bandwith},false)
      | some codingRate =>
        ({metadata with modu := .lora,spreadingFactor,bandwith,codingRate,rssi := p.rssis,lsnr := p.snr},true)

/-- The members of a packet by its modulation, and whether all tests pass. -/
def writeModulation (p : LgwPktRx) (metadata : RfmMetaData) : RfmMetaData×Bool :=
  if p.modulation=0x10 then writeLora p metadata
  else if p.modulation=0x20 then ({metadata with modu := .fsk,bps := p.datarate},true)
  else (metadata,false)

/-- The round of the loop for a packet. -/
def packetRound (settings : ForwardSettings) (reference : Option TimeReference) (s : Variables) (r : Reception) :
    Variables :=
  match crcStat settings r.packet.status with
  | none => s
  | some stat =>
    match writeModulation r.packet (writeTimes reference r stat s.metadata) with
    | (metadata,true) => ⟨metadata,r.packet.payload,s.pktInDgram+1⟩
    | (metadata,false) => {s with metadata}

/-- A fetch: the copy of the time reference, if it is used, and the packets. -/
structure Fetch where
  reference : Option TimeReference
  receptions : List Reception

/-- What lives as long as the thread, and what the callback was given. -/
structure Upstream where
  metadata : RfmMetaData
  payload : Bytes
  /-- Arguments of the calls of `onUpstream`, oldest first. -/
  calls : List (RfmMetaData×Bytes)

/-- The loop over the packets of a fetch. -/
def packetLoop (settings : ForwardSettings) (u : Upstream) (fetch : Fetch) : Variables :=
  fetch.receptions.foldl (packetRound settings fetch.reference) ⟨u.metadata,u.payload,0⟩

/-- A round of `upstreamRunner`. -/
def upstreamStep (settings : ForwardSettings) (u : Upstream) (fetch : Fetch) : Upstream :=
  let s := packetLoop settings u fetch
  ⟨s.metadata,s.payload,if s.pktInDgram=0 then u.calls else u.calls++[(s.metadata,s.payload)]⟩

/-- The packet passes the filter on its checksum. -/
def Filtered (settings : ForwardSettings) (r : Reception) : Prop := (crcStat settings r.packet.status).isSome

/-- The packet passes the switches of its modulation. -/
def Understood (p : LgwPktRx) : Prop :=
  (p.modulation=0x10 ∧ (spreadingFactorOf p.datarate).isSome ∧ (bandwidthOf p.bandwidth).isSome ∧
    (codingRateOf p.coderate).isSome) ∨ p.modulation=0x20

instance (settings : ForwardSettings) (r : Reception) : Decidable (Filtered settings r) :=
  inferInstanceAs (Decidable (_=true))

instance (p : LgwPktRx) : Decidable (Understood p) :=
  inferInstanceAs (Decidable ((_ ∧ _=true ∧ _=true ∧ _=true) ∨ _))

/-- The test of the filter. -/
def passes (settings : ForwardSettings) (r : Reception) : Bool := Filtered settings r

/-- All tests. -/
def forwards (settings : ForwardSettings) (r : Reception) : Bool := Filtered settings r ∧ Understood r.packet

/-- The packets of a fetch that are meant for the server. -/
def forwardable (settings : ForwardSettings) (fetch : Fetch) : List Reception :=
  fetch.receptions.filter (forwards settings)

/-- The metadata are what the packet writes over some earlier ones. -/
def Describes (settings : ForwardSettings) (reference : Option TimeReference) (r : Reception)
    (metadata : RfmMetaData) : Prop :=
  ∃ before stat,crcStat settings r.packet.status=some stat ∧
    metadata=(writeModulation r.packet (writeTimes reference r stat before)).1

/-- The radio data of the metadata are those of the packet. -/
structure HeardAs (settings : ForwardSettings) (r : Reception) (metadata : RfmMetaData) : Prop where
  freq : metadata.freq=r.packet.freqHz
  rfch : metadata.rfch=r.packet.rfChain
  chan : metadata.chan=r.packet.ifChain
  stat : some metadata.stat=crcStat settings r.packet.status

/-- The switches of the modulation pass exactly for what is understood. -/
theorem writeModulation_snd (p : LgwPktRx) (metadata : RfmMetaData) :
    (writeModulation p metadata).2=true ↔ Understood p := by
  unfold writeModulation Understood
  by_cases hl : p.modulation=0x10
  · have hf : ¬ p.modulation=0x20 := by rw [hl]; decide
    rw [if_pos hl]
    unfold writeLora
    cases spreadingFactorOf p.datarate <;> cases bandwidthOf p.bandwidth <;> cases codingRateOf p.coderate <;>
      simp [hl]
  · rw [if_neg hl]
    by_cases hf : p.modulation=0x20
    · simp [hf]
    · simp [hl,hf]

/-- The switches leave the radio data alone. -/
theorem writeModulation_radio (p : LgwPktRx) (metadata : RfmMetaData) :
    (writeModulation p metadata).1.freq=metadata.freq ∧ (writeModulation p metadata).1.rfch=metadata.rfch ∧
      (writeModulation p metadata).1.chan=metadata.chan ∧ (writeModulation p metadata).1.stat=metadata.stat := by
  unfold writeModulation writeLora
  split_ifs
  · split
    · exact ⟨rfl,rfl,rfl,rfl⟩
    · split
      · exact ⟨rfl,rfl,rfl,rfl⟩
      · split <;> exact ⟨rfl,rfl,rfl,rfl⟩
  · exact ⟨rfl,rfl,rfl,rfl⟩
  · exact ⟨rfl,rfl,rfl,rfl⟩

/-- What a round writes for a packet that passes the filter. -/
theorem heardAs_written (settings : ForwardSettings) (reference : Option TimeReference) {r : Reception} {stat : Int8}
    (h : crcStat settings r.packet.status=some stat) (metadata : RfmMetaData) :
    HeardAs settings r (writeModulation r.packet (writeTimes reference r stat metadata)).1 := by
  obtain ⟨hfreq,hrfch,hchan,hstat⟩ := writeModulation_radio r.packet (writeTimes reference r stat metadata)
  exact ⟨hfreq,hrfch,hchan,by rw [hstat,h]; rfl⟩

/-- A packet that is filtered out changes nothing. -/
theorem packetRound_skipped {settings : ForwardSettings} (reference : Option TimeReference) (s : Variables)
    {r : Reception} (h : ¬ Filtered settings r) : packetRound settings reference s r=s := by
  have hn : crcStat settings r.packet.status=none := by
    cases hc : crcStat settings r.packet.status with
    | none => rfl
    | some stat => exact absurd (by rw [Filtered,hc]; rfl) h
  rw [packetRound,hn]

/-- A packet that passes the filter writes its metadata; one that is understood is
counted with its payload. -/
theorem packetRound_filtered {settings : ForwardSettings} (reference : Option TimeReference) (s : Variables)
    {r : Reception} (h : Filtered settings r) :
    HeardAs settings r (packetRound settings reference s r).metadata ∧
      Describes settings reference r (packetRound settings reference s r).metadata ∧
      (packetRound settings reference s r).payload=(if Understood r.packet then r.packet.payload else s.payload) ∧
      (packetRound settings reference s r).pktInDgram=
        (if Understood r.packet then s.pktInDgram+1 else s.pktInDgram) := by
  obtain ⟨stat,hstat⟩ := Option.isSome_iff_exists.mp h
  have hheard := heardAs_written settings reference hstat s.metadata
  have hdescribes : Describes settings reference r (writeModulation r.packet (writeTimes reference r stat s.metadata)).1 :=
    ⟨s.metadata,stat,hstat,rfl⟩
  have hunderstood := writeModulation_snd r.packet (writeTimes reference r stat s.metadata)
  rw [packetRound,hstat]
  dsimp only
  generalize writeModulation r.packet (writeTimes reference r stat s.metadata)=written at hheard hdescribes hunderstood
  obtain ⟨metadata,passed⟩ := written
  cases passed with
  | true =>
    have hu := hunderstood.mp rfl
    exact ⟨hheard,hdescribes,(if_pos hu).symm,(if_pos hu).symm⟩
  | false =>
    have hu : ¬ Understood r.packet := fun hc => Bool.false_ne_true (hunderstood.mpr hc)
    exact ⟨hheard,hdescribes,(if_neg hu).symm,(if_neg hu).symm⟩

/-- What the variables hold behind some packets of a fetch. -/
structure Looped (settings : ForwardSettings) (reference : Option TimeReference) (before : Bytes)
    (receptions : List Reception) (s : Variables) : Prop where
  count : s.pktInDgram=(receptions.filter (forwards settings)).length
  payload : s.payload=(((receptions.filter (forwards settings)).getLast?).map
    fun r => r.packet.payload).getD before
  heard : ∀ q,(receptions.filter (passes settings)).getLast?=some q →
    HeardAs settings q s.metadata ∧ Describes settings reference q s.metadata

/-- The loop over the packets, one packet after the other. -/
theorem looped (settings : ForwardSettings) (reference : Option TimeReference) (metadata : RfmMetaData)
    (before : Bytes) (receptions : List Reception) :
    Looped settings reference before receptions
      (receptions.foldl (packetRound settings reference) ⟨metadata,before,0⟩) := by
  induction receptions using List.reverseRecOn with
  | nil => exact ⟨rfl,rfl,fun q hq => (Option.some_ne_none q hq.symm).elim⟩
  | append_singleton front r ih =>
    rw [List.foldl_append,List.foldl_cons,List.foldl_nil]
    generalize front.foldl (packetRound settings reference) ⟨metadata,before,0⟩=s at ih
    by_cases hf : Filtered settings r
    · obtain ⟨hheard,hdescribes,hpayload,hcount⟩ := packetRound_filtered reference s hf
      have hpass : passes settings r=true := decide_eq_true hf
      have hlast : ∀ q,((front++[r]).filter (passes settings)).getLast?=some q → r=q := by
        intro q hq
        rw [List.filter_append,List.filter_cons_of_pos hpass,List.filter_nil,List.getLast?_concat] at hq
        exact Option.some.inj hq
      by_cases hu : Understood r.packet
      · have hforward : forwards settings r=true := decide_eq_true ⟨hf,hu⟩
        have hkept : (front++[r]).filter (forwards settings)=front.filter (forwards settings)++[r] := by
          rw [List.filter_append,List.filter_cons_of_pos hforward,List.filter_nil]
        refine ⟨?_,?_,fun q hq => hlast q hq ▸ ⟨hheard,hdescribes⟩⟩
        · rw [hcount,if_pos hu,hkept,List.length_append,List.length_singleton,ih.count]
        · rw [hpayload,if_pos hu,hkept,List.getLast?_concat]
          rfl
      · have hforward : ¬ forwards settings r=true := fun hc => hu (of_decide_eq_true hc).2
        have hkept : (front++[r]).filter (forwards settings)=front.filter (forwards settings) := by
          rw [List.filter_append,List.filter_cons_of_neg hforward,List.filter_nil,List.append_nil]
        refine ⟨?_,?_,fun q hq => hlast q hq ▸ ⟨hheard,hdescribes⟩⟩
        · rw [hcount,if_neg hu,hkept,ih.count]
        · rw [hpayload,if_neg hu,hkept,ih.payload]
    · rw [packetRound_skipped reference s hf]
      have hforward : ¬ forwards settings r=true := fun hc => hf (of_decide_eq_true hc).1
      have hpass : ¬ passes settings r=true := fun hc => hf (of_decide_eq_true hc)
      have hkept : (front++[r]).filter (forwards settings)=front.filter (forwards settings) := by
        rw [List.filter_append,List.filter_cons_of_neg hforward,List.filter_nil,List.append_nil]
      have hpassed : (front++[r]).filter (passes settings)=front.filter (passes settings) := by
        rw [List.filter_append,List.filter_cons_of_neg hpass,List.filter_nil,List.append_nil]
      exact ⟨by rw [hkept]; exact ih.count,by rw [hkept]; exact ih.payload,by rw [hpassed]; exact ih.heard⟩

/-- The callback gets the payload of the last packet that is meant for the server,
with the radio data of the last one that passed the filter. -/
structure Delivers (settings : ForwardSettings) (fetch : Fetch) (call : RfmMetaData×Bytes) : Prop where
  payload : ∃ r,(forwardable settings fetch).getLast?=some r ∧ call.2=r.packet.payload
  heard : ∃ q,(fetch.receptions.filter (passes settings)).getLast?=some q ∧
    HeardAs settings q call.1 ∧ Describes settings fetch.reference q call.1

/-- A fetch without a packet for the server calls nothing, another one calls once. -/
theorem upstreamStep_cases (settings : ForwardSettings) (u : Upstream) (fetch : Fetch) :
    (forwardable settings fetch=[] ∧ (upstreamStep settings u fetch).calls=u.calls) ∨
      (forwardable settings fetch≠[] ∧ ∃ call,Delivers settings fetch call ∧
        (upstreamStep settings u fetch).calls=u.calls++[call]) := by
  have h := looped settings fetch.reference u.metadata u.payload fetch.receptions
  unfold upstreamStep packetLoop
  dsimp only
  generalize fetch.receptions.foldl (packetRound settings fetch.reference) ⟨u.metadata,u.payload,0⟩=s at h
  have hcount : s.pktInDgram=(forwardable settings fetch).length := h.count
  by_cases he : forwardable settings fetch=[]
  · rw [he,List.length_nil] at hcount
    exact .inl ⟨he,by rw [if_pos hcount]⟩
  · have hpos : s.pktInDgram≠0 := by
      rw [hcount]
      exact fun hz => he (List.length_eq_zero_iff.mp hz)
    obtain ⟨r,hr⟩ := Option.isSome_iff_exists.mp (List.getLast?_isSome.mpr he)
    have hmem : r∈fetch.receptions.filter (passes settings) := by
      have hm := List.mem_filter.mp (List.mem_of_getLast? hr)
      exact List.mem_filter.mpr ⟨hm.1,decide_eq_true (of_decide_eq_true hm.2).1⟩
    obtain ⟨q,hq⟩ := Option.isSome_iff_exists.mp (List.getLast?_isSome.mpr (List.ne_nil_of_mem hmem))
    refine .inr ⟨he,(s.metadata,s.payload),⟨⟨r,hr,?_⟩,q,hq,h.heard q hq⟩,by rw [if_neg hpos]⟩
    have hpayload := h.payload
    rw [show (fetch.receptions.filter (forwards settings)).getLast?=some r from hr] at hpayload
    exact hpayload

/-- The fetch has a packet for the server. -/
def brings (settings : ForwardSettings) (fetch : Fetch) : Bool := forwardable settings fetch≠[]

/-- The calls of the callback match the fetches that bring something. -/
theorem run_delivers (settings : ForwardSettings) (u : Upstream) (fetches : List Fetch) :
    ∃ calls,(run (upstreamStep settings) u fetches).calls=u.calls++calls ∧
      List.Forall₂ (Delivers settings) (fetches.filter (brings settings)) calls := by
  induction fetches generalizing u with
  | nil => exact ⟨[],(List.append_nil _).symm,List.Forall₂.nil⟩
  | cons fetch fetches ih =>
    obtain ⟨calls,hrun,hall⟩ := ih (upstreamStep settings u fetch)
    rw [run_cons,hrun]
    rcases upstreamStep_cases settings u fetch with ⟨hnone,hcalls⟩ | ⟨hsome,call,hcall,hcalls⟩
    · have hb : ¬ brings settings fetch=true := fun hc => of_decide_eq_true hc hnone
      exact ⟨calls,by rw [hcalls],by rw [List.filter_cons_of_neg hb]; exact hall⟩
    · have hb : brings settings fetch=true := decide_eq_true hsome
      refine ⟨call::calls,by rw [hcalls,List.append_assoc,List.singleton_append],?_⟩
      rw [List.filter_cons_of_pos hb]
      exact List.Forall₂.cons hcall hall

/-- There are at least as many packets for the server as fetches that bring some,
and not more only if each brings one. -/
theorem length_brings (settings : ForwardSettings) (fetches : List Fetch) :
    (fetches.filter (brings settings)).length ≤ (fetches.flatMap (forwardable settings)).length ∧
      ((fetches.filter (brings settings)).length=(fetches.flatMap (forwardable settings)).length →
        ∀ fetch∈fetches,(forwardable settings fetch).length ≤ 1) := by
  induction fetches with
  | nil => exact ⟨le_rfl,fun _ fetch hm => absurd hm List.not_mem_nil⟩
  | cons fetch fetches ih =>
    obtain ⟨hle,heq⟩ := ih
    rw [List.flatMap_cons,List.length_append]
    by_cases hnone : forwardable settings fetch=[]
    · have hb : ¬ brings settings fetch=true := fun hc => of_decide_eq_true hc hnone
      rw [List.filter_cons_of_neg hb,hnone,List.length_nil,Nat.zero_add]
      refine ⟨hle,fun h other hm => ?_⟩
      rcases List.mem_cons.mp hm with rfl | hm
      · rw [hnone]
        exact Nat.zero_le 1
      · exact heq h other hm
    · have hb : brings settings fetch=true := decide_eq_true hnone
      have hpos := List.length_pos_iff.mpr hnone
      rw [List.filter_cons_of_pos hb,List.length_cons]
      refine ⟨by omega,fun h other hm => ?_⟩
      rcases List.mem_cons.mp hm with rfl | hm
      · omega
      · exact heq (by omega) other hm

/-- With one packet for the server in a fetch at most, its payload is delivered. -/
theorem payloads_delivered {settings : ForwardSettings} {fetches : List Fetch} {calls : List (RfmMetaData×Bytes)}
    (h : List.Forall₂ (Delivers settings) (fetches.filter (brings settings)) calls)
    (hone : ∀ fetch∈fetches,(forwardable settings fetch).length ≤ 1) :
    calls.map Prod.snd=(fetches.flatMap (forwardable settings)).map fun r => r.packet.payload := by
  induction fetches generalizing calls with
  | nil =>
    obtain rfl := List.forall₂_nil_left_iff.mp h
    rfl
  | cons fetch fetches ih =>
    have hrest := fun other hm => hone other (List.mem_cons_of_mem fetch hm)
    rw [List.flatMap_cons,List.map_append]
    by_cases hnone : forwardable settings fetch=[]
    · have hb : ¬ brings settings fetch=true := fun hc => of_decide_eq_true hc hnone
      rw [List.filter_cons_of_neg hb] at h
      rw [hnone,ih h hrest]
      rfl
    · have hb : brings settings fetch=true := decide_eq_true hnone
      rw [List.filter_cons_of_pos hb] at h
      obtain ⟨call,calls,hcall,hall,rfl⟩ := List.forall₂_cons_left_iff.mp h
      obtain ⟨r,hr,hpayload⟩ := hcall.payload
      have hlength := hone fetch List.mem_cons_self
      obtain ⟨only,honly⟩ : ∃ only,forwardable settings fetch=[only] := by
        cases hf : forwardable settings fetch with
        | nil => exact absurd hf hnone
        | cons first rest =>
          rw [hf,List.length_cons] at hlength
          exact ⟨first,by rw [List.length_eq_zero_iff.mp (by omega : rest.length=0)]⟩
      rw [honly] at hr ⊢
      obtain rfl := Option.some.inj hr
      rw [List.map_cons,hpayload,ih hall hrest]
      rfl

/-- Over any sequence of fetches the callback is called once for each fetch that has
a packet for the server, with the payload of the last such packet and the radio data
of the last packet that passed the filter. So the payloads for the server are all
delivered, in order, exactly when no fetch has two of them. -/
theorem run_upstream (settings : ForwardSettings) (metadata : RfmMetaData) (payload : Bytes) (fetches : List Fetch) :
    List.Forall₂ (Delivers settings) (fetches.filter (brings settings))
      (run (upstreamStep settings) ⟨metadata,payload,[]⟩ fetches).calls ∧
    ((run (upstreamStep settings) ⟨metadata,payload,[]⟩ fetches).calls.map Prod.snd=
        (fetches.flatMap (forwardable settings)).map (fun r => r.packet.payload) ↔
      ∀ fetch∈fetches,(forwardable settings fetch).length ≤ 1) := by
  obtain ⟨calls,hrun,hall⟩ := run_delivers settings ⟨metadata,payload,[]⟩ fetches
  rw [List.nil_append] at hrun
  rw [hrun]
  refine ⟨hall,fun heq => ?_,payloads_delivered hall⟩
  have hlength := congrArg List.length heq
  rw [List.length_map,List.length_map,←hall.length_eq] at hlength
  exact (length_brings settings fetches).2 hlength

end LorawanServer.UpstreamBatches
