import LorawanServer.IdentityStore

/-!
# What the allocation of addresses guarantees

Whatever calls built the store, the search ends, an address it gives belongs to
the network and is free, and it fails only when every address of the network is
taken. The documented code of that failure is never returned, and in the one
network that contains the address of all zeros the walk can give this address,
which stands for no address elsewhere.
-/

namespace LorawanServer.AddressAllocation

open Records DeviceAddress FreeSearch StepRun IdentityStore

/-- The two ways in which `next` ends: with a free address of the network, or
with the code of a failed increment when all are taken. -/
theorem next_cases (s : JsonFileIdentityService) (stale : DEVADDR) (retval : NetworkIdentity) :
    (∃ found<size s.netid,next s stale retval=some ({retval with devaddr := address s.netid found},0) ∧
        address s.netid found∉s.storage) ∨
      (next s stale retval=some (retval,ERR_CODE_ADDR_OUT_OF_RANGE) ∧
        ∀ i<size s.netid,address s.netid i∈s.storage) := by
  rw [next_eq]
  split_ifs with hc
  · left
    obtain ⟨found,hlt,he⟩ := nextCandidate_address hc.1
    have hfree := hc.2
    rw [he] at hfree ⊢
    exact ⟨found+1,hlt,rfl,hfree⟩
  · rcases nextBruteForce_cases s stale retval with ⟨found,hlt,he,hfree,-⟩|hfull
    · exact .inl ⟨found,hlt,he,hfree⟩
    · exact .inr hfull

/-- After any calls `next` ends; an address it gives is a free one of the
network, and otherwise every address of the network is taken. -/
theorem next_sound_complete (calls : List StoreCall) (stale low high : DEVADDR) (retval : NetworkIdentity) :
    ∃ result code,next (run apply .fresh calls) stale retval=some (result,code) ∧
      (code=0 → ofNetIdBound low (run apply .fresh calls).netid false≤result.devaddr ∧
        result.devaddr≤ofNetIdBound high (run apply .fresh calls).netid true ∧
        result.devaddr∉(run apply .fresh calls).storage) ∧
      (code≠0 → ∀ devaddr,ofNetIdBound low (run apply .fresh calls).netid false≤devaddr →
        devaddr≤ofNetIdBound high (run apply .fresh calls).netid true →
        devaddr∈(run apply .fresh calls).storage) := by
  generalize run apply .fresh calls=s
  have hbounds : ∀ devaddr,(ofNetIdBound low s.netid false≤devaddr ∧ devaddr≤ofNetIdBound high s.netid true) ↔
      ∃ nwkAddr<size s.netid,devaddr=address s.netid nwkAddr := by
    intro devaddr
    rw [←inRange_iff,InRange,ofNetIdBound_min,ofNetIdBound_max,ofNetIdBound_min,ofNetIdBound_max]
  rcases next_cases s stale retval with ⟨found,hlt,he,hfree⟩|⟨he,hall⟩
  · refine ⟨_,_,he,fun _ => ?_,fun h => absurd rfl h⟩
    obtain ⟨hlow,hhigh⟩ := (hbounds (address s.netid found)).mpr ⟨found,hlt,rfl⟩
    exact ⟨hlow,hhigh,hfree⟩
  · refine ⟨_,_,he,fun h => absurd h (by decide),fun _ devaddr hlow hhigh => ?_⟩
    obtain ⟨nwkAddr,hn,rfl⟩ := (hbounds devaddr).mp ⟨hlow,hhigh⟩
    exact hall nwkAddr hn

/-- What callers rely on: the address that stands for no address is never given,
and a full network is reported by its own code without touching the identity. -/
def KeepsSentinel (s : JsonFileIdentityService) (stale : DEVADDR) (retval : NetworkIdentity) : Prop :=
  ∀ result code,next s stale retval=some (result,code) →
    (code=0 → result.devaddr≠0) ∧
    ((∀ devaddr,InRange s.netid devaddr → devaddr∈s.storage) →
      code=ERR_CODE_ADDR_SPACE_FULL ∧ result=retval)

/-- Behind the first address of a network there is no address of all zeros. -/
theorem address_ne_zero {netid : NETID} {nwkAddr : ℕ} (h : nwkAddr<size netid) (hpos : 0<nwkAddr) :
    address netid nwkAddr≠0 := by
  intro hz
  have ht := congrArg UInt32.toNat hz
  rw [address_toNat h] at ht
  change first netid+nwkAddr=0 at ht
  omega

/-- The address of all zeros can only be the first one of a network. -/
theorem inRange_zero_iff (netid : NETID) : InRange netid 0 ↔ address netid 0=0 := by
  rw [inRange_iff]
  constructor
  · rintro ⟨nwkAddr,hlt,hz⟩
    cases nwkAddr with
    | zero => exact hz.symm
    | succ nwkAddr => exact absurd hz.symm (address_ne_zero hlt (by omega))
  · intro h
    exact ⟨0,size_pos netid,h.symm⟩

/-- A free address of the network excludes the report of a full one. -/
theorem not_full_iff (s : JsonFileIdentityService) :
    (∃ devaddr,InRange s.netid devaddr ∧ devaddr∉s.storage) ↔
      ¬ ∀ i<size s.netid,address s.netid i∈s.storage := by
  simp only [inRange_iff]
  push Not
  constructor
  · rintro ⟨devaddr,⟨nwkAddr,hlt,rfl⟩,hfree⟩
    exact ⟨nwkAddr,hlt,hfree⟩
  · rintro ⟨nwkAddr,hlt,hfree⟩
    exact ⟨address s.netid nwkAddr,⟨nwkAddr,hlt,rfl⟩,hfree⟩

/-- The first free address of a network is the address of all zeros exactly when
this one is free and belongs to the network. -/
theorem firstFree_zero_iff {s : JsonFileIdentityService} {found : ℕ}
    (hlt : found<size s.netid) (hfree : address s.netid found∉s.storage)
    (hbefore : ∀ i<found,address s.netid i∈s.storage) :
    address s.netid found=0 ↔ 0∉s.storage ∧ InRange s.netid 0 := by
  rw [inRange_zero_iff]
  constructor
  · intro hz
    cases found with
    | zero => exact ⟨hz ▸ hfree,hz⟩
    | succ found => exact absurd hz (address_ne_zero hlt (by omega))
  · rintro ⟨hzero,hfirst⟩
    cases found with
    | zero => exact hfirst
    | succ found => exact absurd (hfirst ▸ hbefore 0 (by omega)) hzero

/-- A network that keeps to this has a free address: the code of a full one is the
increment itself. -/
theorem KeepsSentinel.not_full {s : JsonFileIdentityService} {stale : DEVADDR} {retval : NetworkIdentity}
    (h : KeepsSentinel s stale retval) : ¬ ∀ i<size s.netid,address s.netid i∈s.storage := by
  intro hall
  rcases next_cases s stale retval with ⟨found,hlt,-,hfree⟩|⟨he,-⟩
  · exact hfree (hall found hlt)
  · have hcode := ((h _ _ he).2 fun devaddr hr => by
      obtain ⟨nwkAddr,hn,rfl⟩ := (inRange_iff _ _).mp hr
      exact hall nwkAddr hn).1
    exact absurd hcode (by decide)

/-- A network that keeps to this does not walk over a free address of all zeros. -/
theorem KeepsSentinel.zero_out_of_reach {s : JsonFileIdentityService} {stale : DEVADDR} {retval : NetworkIdentity}
    (h : KeepsSentinel s stale retval) : CandidateFree s stale ∨ 0∈s.storage ∨ ¬ InRange s.netid 0 := by
  by_contra hneither
  obtain ⟨hc,hz⟩ := not_or.mp hneither
  obtain ⟨hz,hr⟩ := not_or.mp hz
  rw [KeepsSentinel,next_eq,if_neg hc] at h
  rcases nextBruteForce_cases s stale retval with ⟨found,hlt,he,hfree,hbefore⟩|⟨he,hall⟩
  · exact (h _ _ he).1 rfl ((firstFree_zero_iff hlt hfree hbefore).mpr ⟨hz,not_not.mp hr⟩)
  · obtain ⟨nwkAddr,hn,hzero⟩ := (inRange_iff _ _).mp (not_not.mp hr)
    exact hz (hzero ▸ hall nwkAddr hn)

/-- With a free address and the address of all zeros out of reach, a call that
succeeds gives another one. -/
theorem next_devaddr_ne_zero {s : JsonFileIdentityService} {stale : DEVADDR} {retval result : NetworkIdentity}
    (hnotfull : ¬ ∀ i<size s.netid,address s.netid i∈s.storage)
    (hway : CandidateFree s stale ∨ 0∈s.storage ∨ ¬ InRange s.netid 0)
    (he : next s stale retval=some (result,0)) : result.devaddr≠0 := by
  rw [next_eq] at he
  split_ifs at he with hc
  · obtain ⟨found,hlt,hcand⟩ := nextCandidate_address hc.1
    obtain ⟨rfl,-⟩ := Prod.mk.inj (Option.some.inj he)
    change (nextCandidate s stale).1≠0
    rw [hcand]
    exact address_ne_zero hlt (by omega)
  · rcases nextBruteForce_cases s stale retval with ⟨found,hlt,hf,hfree,hbefore⟩|⟨-,hall⟩
    · obtain ⟨rfl,-⟩ := Prod.mk.inj (Option.some.inj (hf.symm.trans he))
      intro hzero
      obtain ⟨hz,hr⟩ := (firstFree_zero_iff hlt hfree hbefore).mp hzero
      rcases hway with hcand|hstored|hout
      · exact hc hcand
      · exact hz hstored
      · exact hout hr
    · exact absurd hall hnotfull

/-- After any calls `next` keeps to this exactly when the network has a free
address and the walk is not needed or cannot reach the address of all zeros. -/
theorem keepsSentinel_iff (calls : List StoreCall) (stale : DEVADDR) (retval : NetworkIdentity) :
    KeepsSentinel (run apply .fresh calls) stale retval ↔
      (∃ devaddr,InRange (run apply .fresh calls).netid devaddr ∧
        devaddr∉(run apply .fresh calls).storage) ∧
      (CandidateFree (run apply .fresh calls) stale ∨ 0∈(run apply .fresh calls).storage ∨
        ¬ InRange (run apply .fresh calls).netid 0) := by
  generalize run apply .fresh calls=s
  rw [not_full_iff]
  constructor
  · intro h
    exact ⟨h.not_full,h.zero_out_of_reach⟩
  · rintro ⟨hnotfull,hway⟩ result code he
    constructor
    · rintro rfl
      exact next_devaddr_ne_zero hnotfull hway he
    · intro hfull
      exact absurd (fun i hi => hfull _ ((inRange_iff _ _).mpr ⟨i,hi,rfl⟩)) hnotfull

/-- One device at the last address of the network of all zeros is enough for
the walk to give the address of all zeros. -/
theorem next_gives_zero :
    ¬ KeepsSentinel (run apply .fresh [.put 0x01ffffff DeviceId.empty]) 0 ⟨DeviceId.empty,7⟩ := by
  intro h
  have hn : next (run apply .fresh [.put 0x01ffffff DeviceId.empty]) 0 ⟨DeviceId.empty,7⟩=
      some (⟨DeviceId.empty,0⟩,0) := by decide +kernel
  exact (h _ _ hn).1 rfl rfl

end LorawanServer.AddressAllocation
