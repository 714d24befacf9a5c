import LorawanServer.PacketQueue

/-!
# The best and the strongest reception

Both loops keep a running maximum and what belongs to it. Started from a value
below all others such a scan ends at the first maximum of its list. The loop
over the signal levels looks at the first entry in every round, so it finds the
maximum only where that entry holds it.
-/

namespace LorawanServer.BestReception

open Records PacketQueue
open PacketReplies (lowestFloat)

section Scan

variable {α β γ : Type*} [LinearOrder β] (f : α → β) (value : α → γ)

/-- One round of a running maximum. -/
def scanStep (best : β×γ) (a : α) : β×γ := if best.1<f a then (f a,value a) else best

/-- A running maximum ends at the first maximum of the list, if that one
exceeds the start. -/
theorem foldl_scanStep (start : β×γ) (l : List α) :
    l.foldl (scanStep f value) start=
      match l.argmax f with
      | none => start
      | some m => if start.1<f m then (f m,value m) else start := by
  induction l using List.reverseRecOn with
  | nil => rfl
  | append_singleton l a ih =>
    rw [List.foldl_append,ih,List.argmax_concat]
    cases hbest : l.argmax f with
    | none => rfl
    | some m =>
      simp only [List.foldl_cons,List.foldl_nil,scanStep]
      by_cases hm : start.1<f m
      · simp only [if_pos hm]
        by_cases ha : f m<f a
        · simp only [if_pos ha,if_pos (hm.trans ha)]
        · simp only [if_neg ha,if_pos hm]
      · simp only [if_neg hm]
        by_cases ha : f m<f a
        · simp only [if_pos ha]
        · have hstart : ¬ start.1<f a := fun h => ha ((not_lt.mp hm).trans_lt h)
          simp only [if_neg ha,if_neg hm,if_neg hstart]

end Scan

/-- `SemtechUDPPacket::getBestGatewayAddress`: the address, and what the pointer
points at afterwards, if there is one. -/
def getBestGatewayAddress (packet : SemtechUDPPacket) (retvalLsnr : Option ℚ) : UInt64×Option ℚ :=
  (packet.metadata.foldl (fun (best : ℚ×UInt64×Option ℚ) entry =>
    if best.1<entry.lsnr then (entry.lsnr,entry.gatewayId,retvalLsnr.map fun _ => entry.lsnr) else best)
    (lowestFloat,0,retvalLsnr)).2

/-- `SemtechUDPPacket::getStrongesSignalLevel`: the level and the index. The
loop compares the first entry in every round. -/
def getStrongesSignalLevel (packet : SemtechUDPPacket) : Int16×ℤ :=
  let rssi := (packet.metadata.map RfmMetaData.rssi).getD 0 0
  (List.range packet.metadata.length).foldl (fun (best : Int16×ℤ) (i : ℕ) => if best.1<rssi then (rssi,(i : ℤ)) else best)
    (Int16.minValue,-1)

/-- The gateway of the first entry with the largest ratio is returned and that
ratio is reported. -/
def BestGateway (packet : SemtechUDPPacket) (retvalLsnr : Option ℚ) : Prop :=
  getBestGatewayAddress packet retvalLsnr=
    match packet.metadata.argmax RfmMetaData.lsnr with
    | none => (0,retvalLsnr)
    | some m => (m.gatewayId,retvalLsnr.map fun _ => m.lsnr)

/-- The largest level is returned with an index where it stands. -/
def StrongestSignal (packet : SemtechUDPPacket) : Prop :=
  let result := getStrongesSignalLevel packet
  if packet.metadata=[] then result=(Int16.minValue,-1)
  else (∃ i : ℕ,result.2=i ∧ (packet.metadata.map RfmMetaData.rssi)[i]?=some result.1) ∧
    ∀ m∈packet.metadata,m.rssi≤ result.1

/-- The largest ratio is above the lowest `float`, or what it would give is
there already. -/
def RatioCounts (packet : SemtechUDPPacket) (retvalLsnr : Option ℚ) : Prop :=
  ∀ m∈packet.metadata.argmax RfmMetaData.lsnr,
    lowestFloat < m.lsnr ∨ m.gatewayId=0 ∧ (retvalLsnr.map fun _ => m.lsnr)=retvalLsnr

/-- The first entry has the largest level, and it is above the lowest one. -/
def FirstIsStrongest (packet : SemtechUDPPacket) : Prop :=
  ∀ first∈packet.metadata.head?,Int16.minValue<first.rssi ∧ ∀ m∈packet.metadata,m.rssi≤first.rssi

/-- What the scan over the receptions ends with. -/
theorem getBestGatewayAddress_eq (packet : SemtechUDPPacket) (retvalLsnr : Option ℚ) :
    getBestGatewayAddress packet retvalLsnr=
      match packet.metadata.argmax RfmMetaData.lsnr with
      | none => (0,retvalLsnr)
      | some m =>
        if lowestFloat < m.lsnr then (m.gatewayId,retvalLsnr.map fun _ => m.lsnr) else (0,retvalLsnr) := by
  have hscan := foldl_scanStep RfmMetaData.lsnr (fun entry => (entry.gatewayId,retvalLsnr.map fun _ => entry.lsnr))
    (lowestFloat,0,retvalLsnr) packet.metadata
  have hcode : getBestGatewayAddress packet retvalLsnr=_ := congrArg Prod.snd hscan
  rw [hcode]
  cases packet.metadata.argmax RfmMetaData.lsnr with
  | none => rfl
  | some m => exact apply_ite Prod.snd _ _ _

/-- The address is the one that the answers go to, whether there is a pointer
or not. -/
theorem getBestGatewayAddress_fst (packet : SemtechUDPPacket) (retvalLsnr : Option ℚ) :
    (getBestGatewayAddress packet retvalLsnr).1=PacketReplies.getBestGatewayAddress packet := by
  have hscan := foldl_scanStep RfmMetaData.lsnr RfmMetaData.gatewayId (lowestFloat,0) packet.metadata
  have hcode : PacketReplies.getBestGatewayAddress packet=_ := congrArg Prod.snd hscan
  rw [hcode,getBestGatewayAddress_eq]
  cases packet.metadata.argmax RfmMetaData.lsnr with
  | none => rfl
  | some m =>
    dsimp only
    split <;> rfl

/-- The best gateway is found exactly when its ratio counts. -/
theorem bestGateway_iff (packet : SemtechUDPPacket) (retvalLsnr : Option ℚ) :
    BestGateway packet retvalLsnr ↔ RatioCounts packet retvalLsnr := by
  rw [BestGateway,RatioCounts,getBestGatewayAddress_eq]
  cases packet.metadata.argmax RfmMetaData.lsnr with
  | none => exact iff_of_true rfl fun _ hm => nomatch hm
  | some m =>
    simp only [Option.mem_def,Option.some.injEq,forall_eq']
    by_cases hm : lowestFloat < m.lsnr
    · simp only [hm,if_true,true_or]
    · simp only [hm,if_false,false_or,Prod.mk.injEq]
      exact and_congr eq_comm eq_comm

/-- Rounds that all compare the same level change nothing once it is reached. -/
theorem foldl_sameLevel {rssi level : Int16} (h : ¬ level<rssi) (idx : ℤ) (l : List ℕ) :
    l.foldl (fun (best : Int16×ℤ) (i : ℕ) => if best.1<rssi then (rssi,(i : ℤ)) else best) (level,idx)=(level,idx) := by
  induction l with
  | nil => rfl
  | cons i l ih => rwa [List.foldl_cons,if_neg h]

/-- The loop over the levels ends with the first entry, or with nothing. -/
theorem getStrongesSignalLevel_cons {packet : SemtechUDPPacket} {first : RfmMetaData} {others : List RfmMetaData}
    (h : packet.metadata=first::others) :
    getStrongesSignalLevel packet=if Int16.minValue<first.rssi then (first.rssi,0) else (Int16.minValue,-1) := by
  have hrssi : (packet.metadata.map RfmMetaData.rssi).getD 0 0=first.rssi := by rw [h]; rfl
  simp only [getStrongesSignalLevel,hrssi]
  rw [h,List.length_cons,List.range_succ_eq_map,List.foldl_cons]
  by_cases hmin : Int16.minValue<first.rssi
  · rw [if_pos hmin,if_pos hmin]
    exact foldl_sameLevel (fun h => Int16.lt_irrefl h) 0 _
  · rw [if_neg hmin,if_neg hmin]
    exact foldl_sameLevel hmin (-1) _

/-- The strongest signal is found exactly when it is the first one. -/
theorem strongestSignal_iff (packet : SemtechUDPPacket) : StrongestSignal packet ↔ FirstIsStrongest packet := by
  rw [StrongestSignal,FirstIsStrongest]
  cases hm : packet.metadata with
  | nil =>
    have hnone : getStrongesSignalLevel packet=(Int16.minValue,-1) := by
      rw [getStrongesSignalLevel,hm]
      rfl
    exact iff_of_true hnone fun _ hfirst => nomatch hfirst
  | cons first others =>
    have hcode := getStrongesSignalLevel_cons hm
    simp only [if_neg (List.cons_ne_nil first others),List.head?_cons,Option.mem_def,Option.some.injEq,forall_eq']
    by_cases hmin : Int16.minValue<first.rssi
    · rw [hcode,if_pos hmin]
      constructor
      · exact fun h => ⟨hmin,h.2⟩
      · exact fun h => ⟨⟨0,rfl,rfl⟩,h.2⟩
    · rw [hcode,if_neg hmin]
      refine iff_of_false ?_ fun h => hmin h.1
      rintro ⟨⟨i,hi,-⟩,-⟩
      have hneg : (-1 : ℤ)=i := hi
      omega

/-- Both selections, each exactly on its receptions. -/
theorem selections_iff (packet : SemtechUDPPacket) (retvalLsnr : Option ℚ) :
    (BestGateway packet retvalLsnr ↔ RatioCounts packet retvalLsnr) ∧
      (StrongestSignal packet ↔ FirstIsStrongest packet) :=
  ⟨bestGateway_iff packet retvalLsnr,strongestSignal_iff packet⟩

/-- Of the levels -100 and -50 the first one is returned. -/
theorem not_strongestSignal_second :
    ¬ StrongestSignal {SemtechUDPPacket.empty with metadata :=
      [{RfmMetaData.initial 0 0 with rssi := -100},{RfmMetaData.initial 0 0 with rssi := -50}]} := by
  rw [strongestSignal_iff]
  intro h
  exact absurd ((h _ rfl).2 _ (List.mem_cons_of_mem _ List.mem_cons_self)) (by decide)

end LorawanServer.BestReception
