import LorawanServer.CppRuntime
import LorawanServer.JitRuns

/-!
# Downlinks that the gateway accepts

`enqueueTxPacket` tests a downlink against the settings of the concentrator,
corrects its power and its preamble and hands it to the transmission queue of
its antenna. Packets for a GPS time are converted and then refused, because the
branch goes on into the default one. The runs are those of both antennas, with
downlinks, beacons and the calls of the transmitting thread in any order.
-/

namespace LorawanServer.TxPackets

open CppRuntime JustInTime StepRun

/-- The transmission mode is none of the switch, or it is that of a GPS time. -/
abbrev ERR_CODE_LORA_GATEWAY_UNKNOWN_TX_MODE : ℤ := -656
/-- There is no valid time reference. -/
abbrev ERR_CODE_LORA_GATEWAY_SEND_AT_GPS_TIME : ℤ := -657
/-- There is no receiver for a time reference. -/
abbrev ERR_CODE_LORA_GATEWAY_SEND_AT_GPS_TIME_DISABLED : ℤ := -658
/-- The time does not convert. -/
abbrev ERR_CODE_LORA_GATEWAY_SEND_AT_GPS_TIME_INVALID : ℤ := -659
/-- The antenna does not transmit. -/
abbrev ERR_CODE_LORA_GATEWAY_TX_CHAIN_DISABLED : ℤ := -660
/-- The frequency is outside the limits, or the queue refuses the packet. -/
abbrev ERR_CODE_LORA_GATEWAY_TX_UNSUPPORTED_FREQUENCY : ℤ := -661
/-- The modulation is none of the switch. -/
abbrev ERR_CODE_LORA_GATEWAY_UNKNOWN_MODULATION : ℤ := -652

/-- `MOD_LORA`. -/
def modLora : UInt8 := 0x10

/-- `MOD_FSK`. -/
def modFsk : UInt8 := 0x20

/-- `MIN_LORA_PREAMBLE_LEN`. -/
def minLoraPreambleLen : UInt16 := 6

/-- `MIN_FSK_PREAMBBLE_LEN`. -/
def minFskPreambleLen : UInt16 := 3

/-- `lgw_tx_gain_lut_s`, with the power of each entry. -/
structure TxGainLut where
  rfPower : Vector Int8 16
  size : UInt8
  /-- The array has `TX_GAIN_LUT_SIZE_MAX` entries. -/
  size_le : size.toNat ≤ 16

/-- What the configuration says about an antenna. -/
structure RfChain where
  txEnable : Bool
  txFreqMin : UInt32
  txFreqMax : UInt32
  txLut : TxGainLut

/-- The configuration as far as it is read for downlinks. -/
structure TxSettings where
  antennaGain : Int8
  chains : Vector RfChain 2
  gpsEnabled : Bool

/-- `lut[i].rf_power`. -/
def TxGainLut.power (lut : TxGainLut) (i : ℕ) : Int8 := lut.rfPower.toList.getD i 0

/-- A round of the loop of `getTxGainLutIndex` over the best index and its
difference so far. -/
def lutRound (lut : TxGainLut) (rfPower : Int8) (best : Option ℕ×ℤ) (powIndex : ℕ) : Option ℕ×ℤ :=
  let diff := rfPower.toInt-(lut.power powIndex).toInt
  if diff<0 then best
  else if best.1=none ∨ diff<best.2 then (some powIndex,diff)
  else best

/-- `getTxGainLutIndex`: the index and whether one was found. A difference that
is not negative fits into its byte. -/
def getTxGainLutIndex (lut : TxGainLut) (rfPower : Int8) : ℕ×Bool :=
  match ((List.range lut.size.toNat).foldl (lutRound lut rfPower) (none,255)).1 with
  | some index => (index,true)
  | none => (0,false)

/-- The first switch of `enqueueTxPacket`, with the time reference that converts a
time when it is valid: the class or the error, and the packet afterwards. -/
def txClass (settings : TxSettings) (gpsTimeReference : Option (UInt32 → Option UInt32)) (packet : LgwPktTx) :
    Except ℤ JitPktType×LgwPktTx :=
  if packet.txMode=immediate then (.ok .downlinkClassC,packet)
  else if packet.txMode=timestamped then (.ok .downlinkClassA,packet)
  else if packet.txMode=onGps then
    if settings.gpsEnabled=false then (.error ERR_CODE_LORA_GATEWAY_SEND_AT_GPS_TIME_DISABLED,packet)
    else match gpsTimeReference with
      | none => (.error ERR_CODE_LORA_GATEWAY_SEND_AT_GPS_TIME,packet)
      | some gps2cnt =>
        match gps2cnt packet.countUs with
        | none => (.error ERR_CODE_LORA_GATEWAY_SEND_AT_GPS_TIME_INVALID,packet)
        -- there is no break behind the assignment of the class
        | some countUs => (.error ERR_CODE_LORA_GATEWAY_UNKNOWN_TX_MODE,{packet with countUs})
  else (.error ERR_CODE_LORA_GATEWAY_UNKNOWN_TX_MODE,packet)

/-- The arrays of the configuration are read at the antenna of the packet. -/
def rfChainOf (packet : LgwPktTx) : Except Fault (Fin 2) :=
  if h : packet.rfChain.toNat<2 then .ok ⟨packet.rfChain.toNat,h⟩ else .error .readOutside

/-- The second switch: the preamble, none for an unknown modulation. -/
def checkedPreamble (packet : LgwPktTx) : Option UInt16 :=
  if packet.modulation=modLora then
    some (if packet.preamble < minLoraPreambleLen then minLoraPreambleLen else packet.preamble)
  else if packet.modulation=modFsk then
    some (if packet.preamble < minFskPreambleLen then minFskPreambleLen else packet.preamble)
  else none

/-- The power of the entry that is chosen. -/
def chosenPower (lut : TxGainLut) (rfPower : Int8) : Int8 := lut.power (getTxGainLutIndex lut rfPower).1

/-- A power that is not the one of the packet is written to it, with a warning. -/
def correctPower (packet : LgwPktTx) (power : Int8) : LgwPktTx :=
  if power≠packet.rfPower then {packet with rfPower := power} else packet

/-- What `enqueueTxPacket` does in front of the queue: the packet with its changes
and an error, or the antenna and the class. -/
def admitTxPacket (settings : TxSettings) (gpsTimeReference : Option (UInt32 → Option UInt32)) (packet : LgwPktTx) :
    Except Fault (LgwPktTx×Except ℤ (Fin 2×JitPktType)) :=
  match txClass settings gpsTimeReference packet with
  | (.error code,packet) => .ok (packet,.error code)
  | (.ok pktType,packet) => do
    let i ← rfChainOf packet
    let chain := settings.chains.get i
    if chain.txEnable=false then return (packet,.error ERR_CODE_LORA_GATEWAY_TX_CHAIN_DISABLED)
    else
      let packet := {packet with rfPower := packet.rfPower-settings.antennaGain}
      match checkedPreamble packet with
      | none => return (packet,.error ERR_CODE_LORA_GATEWAY_UNKNOWN_MODULATION)
      | some preamble =>
        let packet := {packet with preamble}
        if packet.freqHz<chain.txFreqMin ∨ chain.txFreqMax<packet.freqHz then
          return (packet,.error ERR_CODE_LORA_GATEWAY_TX_UNSUPPORTED_FREQUENCY)
        else
          return (correctPower packet (chosenPower chain.txLut packet.rfPower),.ok (i,pktType))

/-- `enqueueTxPacket`: the queues of the antennas, the packet and the code. -/
def enqueueTxPacket (sort : Qsort) (timeOnAir : LgwPktTx → UInt32) (settings : TxSettings)
    (gpsTimeReference : Option (UInt32 → Option UInt32)) (queues : Fin 2 → JitQueue) (timeUs : UInt32)
    (packet : LgwPktTx) : Except Fault ((Fin 2 → JitQueue)×LgwPktTx×ℤ) := do
  match ← admitTxPacket settings gpsTimeReference packet with
  | (packet,.error code) => return (queues,packet,code)
  | (packet,.ok (i,pktType)) =>
    let r := jitEnqueue sort timeOnAir (queues i) timeUs packet pktType
    let packet := if jitQueueIsFull (queues i) then packet else stampPacket timeOnAir (queues i) timeUs packet pktType
    return (Function.update queues i r.2,packet,
      if r.1=.ok then 0 else ERR_CODE_LORA_GATEWAY_TX_UNSUPPORTED_FREQUENCY)

/-- What the loop knows about the entries in front of an index. -/
structure BestSoFar (lut : TxGainLut) (rfPower : Int8) (n : ℕ) (best : Option ℕ×ℤ) : Prop where
  none : best.1=none → ∀ i<n,rfPower.toInt<(lut.power i).toInt
  some : ∀ b,best.1=some b → b<n ∧ (lut.power b).toInt ≤ rfPower.toInt ∧
    best.2=rfPower.toInt-(lut.power b).toInt ∧
    ∀ i<n,(lut.power i).toInt ≤ rfPower.toInt → (lut.power i).toInt ≤ (lut.power b).toInt

/-- A round extends the knowledge by one entry. -/
theorem BestSoFar.round {lut : TxGainLut} {rfPower : Int8} {n : ℕ} {best : Option ℕ×ℤ}
    (h : BestSoFar lut rfPower n best) : BestSoFar lut rfPower (n+1) (lutRound lut rfPower best n) := by
  unfold lutRound
  dsimp only
  split_ifs with hneg hbetter
  · refine ⟨fun hn i hi => ?_,fun b hb => ?_⟩
    · rcases Nat.lt_succ_iff_lt_or_eq.mp hi with hi | rfl
      · exact h.none hn i hi
      · omega
    · obtain ⟨hlt,hle,hdiff,hbest⟩ := h.some b hb
      refine ⟨by omega,hle,hdiff,fun i hi hp => ?_⟩
      rcases Nat.lt_succ_iff_lt_or_eq.mp hi with hi | rfl
      · exact hbest i hi hp
      · omega
  · refine ⟨fun hn => (Option.some_ne_none n hn).elim,fun b hb => ?_⟩
    obtain rfl := Option.some.inj hb
    refine ⟨Nat.lt_succ_self _,by omega,rfl,fun i hi hp => ?_⟩
    rcases Nat.lt_succ_iff_lt_or_eq.mp hi with hi | rfl
    · cases hbest : best.1 with
      | none => exact absurd hp (by have hlt := h.none hbest i hi; omega)
      | some b' =>
        obtain ⟨-,-,hdiff,hmax⟩ := h.some b' hbest
        have hm := hmax i hi hp
        rw [hbest,hdiff] at hbetter
        rcases hbetter with hc | hc
        · exact (Option.some_ne_none b' hc).elim
        · omega
    · exact le_rfl
  · obtain ⟨hsome,hworse⟩ := not_or.mp hbetter
    refine ⟨fun hn => absurd hn hsome,fun b hb => ?_⟩
    obtain ⟨hlt,hle,hdiff,hbest⟩ := h.some b hb
    refine ⟨by omega,hle,hdiff,fun i hi hp => ?_⟩
    rcases Nat.lt_succ_iff_lt_or_eq.mp hi with hi | rfl
    · exact hbest i hi hp
    · rw [hdiff] at hworse
      omega

/-- What the loop knows at its end. -/
theorem bestSoFar_fold (lut : TxGainLut) (rfPower : Int8) (n : ℕ) :
    BestSoFar lut rfPower n ((List.range n).foldl (lutRound lut rfPower) (none,255)) := by
  induction n with
  | zero => exact ⟨fun _ i hi => absurd hi (Nat.not_lt_zero i),fun b hb => (Option.some_ne_none b hb.symm).elim⟩
  | succ n ih =>
    rw [List.range_succ,List.foldl_append]
    exact ih.round

/-- The greatest power of the table that is not above the wanted one is chosen; when
all are above it the first entry is. -/
theorem chosenPower_spec (lut : TxGainLut) (rfPower : Int8) :
    (∃ i<lut.size.toNat,chosenPower lut rfPower=lut.power i ∧ (lut.power i).toInt ≤ rfPower.toInt ∧
      ∀ j<lut.size.toNat,(lut.power j).toInt ≤ rfPower.toInt → (lut.power j).toInt ≤ (lut.power i).toInt) ∨
    (chosenPower lut rfPower=lut.power 0 ∧ ∀ i<lut.size.toNat,rfPower.toInt<(lut.power i).toInt) := by
  have h := bestSoFar_fold lut rfPower lut.size.toNat
  unfold chosenPower getTxGainLutIndex
  cases hbest : ((List.range lut.size.toNat).foldl (lutRound lut rfPower) (none,255)).1 with
  | none => exact .inr ⟨rfl,h.none hbest⟩
  | some b =>
    obtain ⟨hlt,hle,-,hmax⟩ := h.some b hbest
    exact .inl ⟨b,hlt,rfl,hle,hmax⟩

/-- What the configuration allows on an antenna. -/
structure Permitted (settings : TxSettings) (i : Fin 2) (packet : LgwPktTx) : Prop where
  chain : packet.rfChain.toNat=i
  enabled : (settings.chains.get i).txEnable=true
  frequency : (settings.chains.get i).txFreqMin ≤ packet.freqHz ∧ packet.freqHz ≤ (settings.chains.get i).txFreqMax
  preamble : (packet.modulation=modLora ∧ minLoraPreambleLen ≤ packet.preamble) ∨
    (packet.modulation=modFsk ∧ minFskPreambleLen ≤ packet.preamble)
  power : ∃ j,(j=0 ∨ j<(settings.chains.get i).txLut.size.toNat) ∧
    packet.rfPower=(settings.chains.get i).txLut.power j

/-- An immediate downlink, or one for a timestamp. -/
def Downlink (packet : LgwPktTx) (pktType : JitPktType) : Prop :=
  (pktType=.downlinkClassC ∧ packet.txMode=immediate) ∨ (pktType=.downlinkClassA ∧ packet.txMode=timestamped)

/-- The chosen power is one of the table. -/
theorem chosenPower_mem (lut : TxGainLut) (rfPower : Int8) :
    ∃ j,(j=0 ∨ j<lut.size.toNat) ∧ chosenPower lut rfPower=lut.power j := by
  rcases chosenPower_spec lut rfPower with ⟨i,hi,hp,-,-⟩ | ⟨hp,-⟩
  · exact ⟨i,.inr hi,hp⟩
  · exact ⟨0,.inl rfl,hp⟩

/-- The checked preamble is long enough. -/
theorem checkedPreamble_spec {packet : LgwPktTx} {preamble : UInt16} (h : checkedPreamble packet=some preamble) :
    (packet.modulation=modLora ∧ minLoraPreambleLen ≤ preamble) ∨
      (packet.modulation=modFsk ∧ minFskPreambleLen ≤ preamble) := by
  unfold checkedPreamble at h
  split_ifs at h with hl hs hf hs
  · exact .inl ⟨hl,UInt16.le_of_eq (Option.some.inj h)⟩
  · exact .inl ⟨hl,(Option.some.inj h) ▸ UInt16.not_lt.mp hs⟩
  · exact .inr ⟨hf,UInt16.le_of_eq (Option.some.inj h)⟩
  · exact .inr ⟨hf,(Option.some.inj h) ▸ UInt16.not_lt.mp hs⟩

/-- A class is given to the packets of the two modes only, which stay as they are. -/
theorem txClass_ok {settings : TxSettings} {gpsTimeReference : Option (UInt32 → Option UInt32)}
    {packet packet' : LgwPktTx} {pktType : JitPktType}
    (h : txClass settings gpsTimeReference packet=(.ok pktType,packet')) :
    packet'=packet ∧ Downlink packet pktType := by
  unfold txClass at h
  split_ifs at h with hi ht hg hd
  · obtain ⟨ht,hp⟩ := Prod.mk.inj h
    exact ⟨hp.symm,.inl ⟨(Except.ok.inj ht).symm,hi⟩⟩
  · obtain ⟨hc,hp⟩ := Prod.mk.inj h
    exact ⟨hp.symm,.inr ⟨(Except.ok.inj hc).symm,ht⟩⟩
  · cases h
  · split at h
    · cases h
    · split at h <;> cases h
  · cases h

/-- The packet has the power afterwards, and nothing else changed. -/
theorem correctPower_eq (packet : LgwPktTx) (power : Int8) :
    correctPower packet power={packet with rfPower := power} := by
  unfold correctPower
  split_ifs with h
  · rfl
  · rw [not_not.mp h]

/-- Everything a downlink passes in front of the queue. -/
theorem admitTxPacket_ok {settings : TxSettings} {gpsTimeReference : Option (UInt32 → Option UInt32)}
    {packet packet' : LgwPktTx} {i : Fin 2} {pktType : JitPktType}
    (h : admitTxPacket settings gpsTimeReference packet=.ok (packet',.ok (i,pktType))) :
    Permitted settings i packet' ∧ Downlink packet' pktType ∧
      packet'.rfPower=chosenPower (settings.chains.get i).txLut (packet.rfPower-settings.antennaGain) := by
  unfold admitTxPacket at h
  split at h
  · cases h
  · next found classified hclass =>
    obtain ⟨rfl,hdown⟩ := txClass_ok hclass
    obtain ⟨j,hj,h⟩ := bind_eq_ok.mp h
    dsimp only at h
    split_ifs at h with henable hfreq
    · cases h
    · split at h <;> cases h
    · split at h
      · cases h
      · next preamble hpreamble =>
        obtain ⟨hp,ho⟩ := Prod.mk.inj (Except.ok.inj h)
        obtain ⟨rfl,rfl⟩ := Prod.mk.inj (Except.ok.inj ho)
        have hchain : classified.rfChain.toNat=j := by
          unfold rfChainOf at hj
          split_ifs at hj with hlt
          exact congrArg Fin.val (Except.ok.inj hj)
        obtain ⟨hmin,hmax⟩ := not_or.mp hfreq
        have hpre := checkedPreamble_spec hpreamble
        rw [correctPower_eq] at hp
        subst hp
        exact ⟨⟨hchain,Bool.eq_true_of_not_eq_false henable,⟨UInt32.not_lt.mp hmin,UInt32.not_lt.mp hmax⟩,hpre,
          chosenPower_mem _ _⟩,hdown,rfl⟩

/-- The queues of the antennas with what happened to their nodes. -/
abbrev Antennas := Fin 2 → System

/-- A downlink for `enqueueTxPacket`, or another call to the queue of an antenna. -/
inductive TxAction where
  | tx (gpsTimeReference : Option (UInt32 → Option UInt32)) (timeUs : UInt32) (packet : LgwPktTx)
  | call (i : Fin 2) (action : Action)

/-- The call to a queue that an action leads to. -/
def callOf (settings : TxSettings) : TxAction → Option (Fin 2×Action)
  | .tx gpsTimeReference timeUs packet =>
    match admitTxPacket settings gpsTimeReference packet with
    | .ok (packet,.ok (i,pktType)) => some (i,.enqueue timeUs packet pktType)
    | _ => none
  | .call i action => some (i,action)

/-- The antennas after an action. -/
def txStep (sort : Qsort) (timeOnAir : LgwPktTx → UInt32) (settings : TxSettings) (g : Antennas)
    (action : TxAction) : Antennas :=
  match callOf settings action with
  | some (i,called) => Function.update g i (step sort timeOnAir (g i) called)
  | none => g

/-- The other calls are those of the transmitting thread and the beacons. -/
def OwnCalls (g : Antennas) : TxAction → Prop
  | .tx _ _ _ => True
  | .call i action => Named (g i) action ∧ ∀ timeUs packet pktType,action=.enqueue timeUs packet pktType → pktType=.beacon

/-- A beacon, or a downlink that the configuration allows on the antenna and that
has a timestamp. -/
def Lawful (settings : TxSettings) (i : Fin 2) (node : JitNode) : Prop :=
  isBeacon node=true ∨ (Permitted settings i node.pkt ∧ node.pkt.txMode=timestamped)

/-- The queues of a run are those that `enqueueTxPacket` leaves. -/
theorem txStep_queues {sort : Qsort} {timeOnAir : LgwPktTx → UInt32} {settings : TxSettings} {g : Antennas}
    {gpsTimeReference : Option (UInt32 → Option UInt32)} {timeUs : UInt32} {packet packet' : LgwPktTx}
    {queues : Fin 2 → JitQueue} {code : ℤ}
    (h : enqueueTxPacket sort timeOnAir settings gpsTimeReference (fun i => (g i).queue) timeUs packet=
      .ok (queues,packet',code)) (i : Fin 2) :
    (txStep sort timeOnAir settings g (.tx gpsTimeReference timeUs packet) i).queue=queues i := by
  unfold enqueueTxPacket at h
  obtain ⟨⟨admitted,outcome⟩,ha,h⟩ := bind_eq_ok.mp h
  cases outcome with
  | error code =>
    obtain ⟨rfl,-⟩ := Prod.mk.inj (Except.ok.inj h)
    simp only [txStep,callOf,ha]
  | ok found =>
    obtain ⟨j,pktType⟩ := found
    obtain ⟨rfl,-⟩ := Prod.mk.inj (Except.ok.inj h)
    simp only [txStep,callOf,ha]
    by_cases hij : i=j
    · subst hij
      rw [Function.update_self,Function.update_self]
      rfl
    · rw [Function.update_of_ne hij,Function.update_of_ne hij]

/-- A node of a permitted downlink is lawful. -/
theorem lawful_enqueuedNode {settings : TxSettings} {i : Fin 2} {packet : LgwPktTx} {pktType : JitPktType}
    (h : Permitted settings i packet) (hd : Downlink packet pktType) (timeOnAir : LgwPktTx → UInt32)
    (queue : JitQueue) (timeUs : UInt32) :
    Lawful settings i (enqueuedNode timeOnAir queue timeUs packet pktType) := by
  right
  rcases hd with ⟨rfl,-⟩ | ⟨rfl,hm⟩
  · exact ⟨⟨h.chain,h.enabled,h.frequency,h.preamble,h.power⟩,rfl⟩
  · exact ⟨h,hm⟩

/-- A call that enqueues lawful nodes keeps an antenna lawful. -/
theorem step_lawful (sort : Qsort) (timeOnAir : LgwPktTx → UInt32) {settings : TxSettings} {i : Fin 2} {s : System}
    (h : Accounted s ∧ ∀ node∈s.accepted,Lawful settings i node) {action : Action} (hnamed : Named s action)
    (hnew : ∀ timeUs packet pktType,action=.enqueue timeUs packet pktType →
      Lawful settings i (enqueuedNode timeOnAir s.queue timeUs packet pktType)) :
    Accounted (step sort timeOnAir s action) ∧ ∀ node∈(step sort timeOnAir s action).accepted,Lawful settings i node := by
  refine ⟨step_accounted sort timeOnAir h.1 hnamed,?_⟩
  rcases step_cases sort timeOnAir h.1.1 hnamed with
    ⟨timeUs,packet,pktType,new,haction,hnode,-,-,ha,-,-⟩ | ⟨_,_,_,-,-,ha,-,-⟩
  · intro node hm
    rw [ha] at hm
    rcases List.mem_append.mp hm with hm | hm
    · exact h.2 node hm
    · rw [List.mem_singleton.mp hm,hnode]
      exact hnew timeUs packet pktType haction
  · rw [ha]
    exact h.2

/-- An action leads to a call that enqueues lawful nodes only. -/
theorem callOf_spec {settings : TxSettings} {g : Antennas} {action : TxAction} (ho : OwnCalls g action) {i : Fin 2}
    {called : Action} (h : callOf settings action=some (i,called)) (timeOnAir : LgwPktTx → UInt32) :
    Named (g i) called ∧ ∀ timeUs packet pktType,called=.enqueue timeUs packet pktType →
      Lawful settings i (enqueuedNode timeOnAir (g i).queue timeUs packet pktType) := by
  cases action with
  | tx gpsTimeReference timeUs packet =>
    unfold callOf at h
    dsimp only at h
    split at h
    · next packet' j pktType ha =>
      obtain ⟨rfl,rfl⟩ := Prod.mk.inj (Option.some.inj h)
      obtain ⟨hp,hd,-⟩ := admitTxPacket_ok ha
      refine ⟨trivial,fun timeUs' packet'' pktType' he => ?_⟩
      obtain ⟨rfl,rfl,rfl⟩ := Action.enqueue.inj he
      exact lawful_enqueuedNode hp hd timeOnAir _ _
    · cases h
  | call j own =>
    obtain ⟨rfl,rfl⟩ := Prod.mk.inj (Option.some.inj h)
    refine ⟨ho.1,fun timeUs packet pktType he => .inl ?_⟩
    rw [ho.2 timeUs packet pktType he]
    rfl

/-- Every action keeps both antennas lawful. -/
theorem txStep_lawful (sort : Qsort) (timeOnAir : LgwPktTx → UInt32) {settings : TxSettings} {g : Antennas}
    (h : ∀ i,Accounted (g i) ∧ ∀ node∈(g i).accepted,Lawful settings i node) {action : TxAction}
    (ho : OwnCalls g action) (i : Fin 2) :
    Accounted (txStep sort timeOnAir settings g action i) ∧
      ∀ node∈(txStep sort timeOnAir settings g action i).accepted,Lawful settings i node := by
  unfold txStep
  cases hc : callOf settings action with
  | none => exact h i
  | some found =>
    obtain ⟨j,called⟩ := found
    obtain ⟨hnamed,hnew⟩ := callOf_spec ho hc timeOnAir
    dsimp only
    by_cases hij : i=j
    · subst hij
      rw [Function.update_self]
      exact step_lawful sort timeOnAir (h i) hnamed hnew
    · rw [Function.update_of_ne hij]
      exact h i

/-- In every order of downlinks, beacons and calls of the transmitting thread, what
is queued, sent or dropped on an antenna is a beacon, or a downlink for that
antenna inside its limits of frequency, with a preamble that is long enough and a
power of its table. -/
theorem run_lawful (sort : Qsort) (timeOnAir : LgwPktTx → UInt32) (settings : TxSettings) (actions : List TxAction)
    (ho : Along (txStep sort timeOnAir settings) OwnCalls (fun _ => System.init) actions) (i : Fin 2)
    {node : JitNode}
    (hnode : node∈(run (txStep sort timeOnAir settings) (fun _ => System.init) actions i).queue.live ∨
      node∈(run (txStep sort timeOnAir settings) (fun _ => System.init) actions i).sent ∨
      node∈(run (txStep sort timeOnAir settings) (fun _ => System.init) actions i).dropped) :
    Lawful settings i node := by
  have hinit : ∀ i : Fin 2,Accounted System.init ∧ ∀ node∈System.init.accepted,Lawful settings i node := fun i =>
    ⟨accounted_of_represents represents_init (List.Perm.refl _),fun node hm => absurd hm List.not_mem_nil⟩
  obtain ⟨⟨-,hperm⟩,hlawful⟩ := ho.run_invariant hinit (fun _ _ h => txStep_lawful sort timeOnAir h) i
  refine hlawful node (hperm.subset ?_)
  rcases hnode with hm | hm | hm
  · exact List.mem_append_left _ (List.mem_append_left _ hm)
  · exact List.mem_append_left _ (List.mem_append_right _ hm)
  · exact List.mem_append_right _ hm

/-- A table of three powers. -/
def plainLut : TxGainLut := ⟨Vector.ofFn fun i => [12,14,20].getD i.1 0,3,by decide⟩

/-- Both antennas transmit in one band. -/
def plainSettings : TxSettings := ⟨2,Vector.replicate 2 ⟨true,863000000,870000000,plainLut⟩,false⟩

/-- A downlink for a timestamp, at 18 dBm in front of the correction. -/
def plainPacket : LgwPktTx :=
  {LgwPktTx.zero with freqHz := 868100000,txMode := timestamped,countUs := 1000000,rfPower := 18,modulation := modLora}

/-- The packet that was queued. -/
def plainNode : JitNode :=
  ⟨{plainPacket with rfPower := 14,preamble := 6},.downlinkClassA,41500,50000⟩

/-- A downlink whose preamble and power are corrected. -/
theorem run_lawful_queued : Lawful plainSettings 0 plainNode := by
  refine run_lawful Qsort.merge (fun _ => 50) plainSettings [.tx none 0 plainPacket]
    ((along_cons_iff _ _ _ _ _).mpr ⟨trivial,along_nil _ _ _⟩) 0 (.inl ?_)
  decide +kernel

end LorawanServer.TxPackets
