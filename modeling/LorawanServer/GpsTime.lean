import LorawanServer.ReceptionText
import LorawanServer.SkippedNumbers

/-!
# Seconds of two clocks

`gps2utc` and `utc2gps`. The clock of the satellites counts the leap seconds, the
universal one skips them, and the table has them as the first one counts them. The
sums wrap at 32 bits, and what a wrapped sum loses comes back with the difference.
-/

namespace LorawanServer.GpsTime

open CppRuntime ReceptionText SkippedNumbers

/-- `gps2utc`. -/
def gps2utc (value : UInt32) : ℤ :=
  let r := value+UInt32.ofInt gpsUnixEpochDiff
  (r-UInt32.ofNat (countLeaps value false)).toNat

/-- The leap seconds as numbers. -/
def leaps : List ℕ := gpsLeap.map UInt32.toNat

/-- They are sorted. -/
theorem leaps_sorted : leaps.Pairwise (· < ·) := by decide

/-- The leap seconds up to a second of the satellites are those it passes. -/
theorem countLeaps_false (gps : UInt32) : countLeaps gps false=passed leaps gps.toNat := by
  have hfst : (gpsLeap.zipIdx.map Prod.fst).countP (fun leap => leap.toNat≤gps.toNat)=
      gpsLeap.zipIdx.countP fun leap => leap.1.toNat≤gps.toNat := List.countP_map
  rw [passed,leaps,List.countP_map,countLeaps,← List.zipIdx_map_fst 0 gpsLeap]
  exact hfst.symm

/-- The leap seconds up to a second of the universal clock are those ahead of it. -/
theorem countLeaps_true (gps : UInt32) : countLeaps gps true=ahead 0 leaps gps.toNat := by
  have hsub : ∀ leap∈gpsLeap.zipIdx,(leap.1-UInt32.ofNat leap.2).toNat=leap.1.toNat-leap.2 := by decide
  rw [ahead,leaps,List.zipIdx_map,List.countP_map,countLeaps]
  refine List.countP_congr fun leap hleap => ?_
  rw [shouldAddLeap,if_pos rfl,decide_eq_true_iff,UInt32.le_iff_toNat_le,hsub leap hleap]
  exact decide_eq_true_iff.symm

/-- A second of the universal clock from the epoch of the satellites on. -/
def InRange (u : ℤ) : Prop := gpsUnixEpochDiff≤u ∧ u<2^32

/-- Such a second is a number of seconds behind the epoch. -/
theorem InRange.exists_seconds {u : ℤ} (h : InRange u) : ∃ x : ℕ,u=gpsUnixEpochDiff+x ∧ x+315964800<2^32 := by
  obtain ⟨hlow,hhigh⟩ := h
  have hdiff : gpsUnixEpochDiff=315964800 := rfl
  exact ⟨(u-gpsUnixEpochDiff).toNat,by omega,by omega⟩

/-- What a second behind the epoch is turned into. -/
theorem utc2gps_toNat {x : ℕ} (h : x+315964800<2^32) :
    (utc2gps (gpsUnixEpochDiff+x)).toNat=x+ahead 0 leaps x := by
  have hahead := ahead_le_length 0 leaps x
  have hlength : leaps.length=18 := rfl
  have hseconds : UInt32.ofInt (x : ℤ)=UInt32.ofNat x := by
    have hm : ((x : ℤ)%2^32).toNat=x := by omega
    rw [UInt32.ofInt,hm]
  have hx : (UInt32.ofNat x).toNat=x := by
    rw [UInt32.toNat_ofNat']
    omega
  rw [utc2gps,add_sub_cancel_left,hseconds,countLeaps_true,hx,UInt32.ofInt,UInt32.toNat_ofNat']
  omega

/-- What a second of the satellites is turned into, where the universal clock has
32 bits. The sum may have more. -/
theorem gps2utc_eq {g : UInt32} (h : g.toNat+315964800<2^32+passed leaps g.toNat) :
    gps2utc g=gpsUnixEpochDiff+g.toNat-passed leaps g.toNat := by
  have hpassed := passed_le_length leaps g.toNat
  have hlength : leaps.length=18 := rfl
  have hdiff : (UInt32.ofInt gpsUnixEpochDiff).toNat=315964800 := rfl
  have hepoch : gpsUnixEpochDiff=315964800 := rfl
  have hlt := g.toNat_lt
  have hcount : (UInt32.ofNat (passed leaps g.toNat)).toNat=passed leaps g.toNat := by
    rw [UInt32.toNat_ofNat']
    omega
  rw [gps2utc,countLeaps_false,UInt32.toNat_sub,UInt32.toNat_add,hdiff,hcount,hepoch]
  omega

/-- A second of the universal clock comes back. -/
theorem gps2utc_utc2gps {u : ℤ} (h : InRange u) : gps2utc (utc2gps u)=u := by
  obtain ⟨x,rfl,hx⟩ := h.exists_seconds
  have hpassed : passed leaps (x+ahead 0 leaps x)=ahead 0 leaps x := passed_ahead (k := 0) leaps_sorted
  have hgps := utc2gps_toNat hx
  rw [gps2utc_eq (by rw [hgps,hpassed]; omega),hgps,hpassed]
  omega

/-- A later second is a later second. -/
theorem utc2gps_lt {u v : ℤ} (hu : InRange u) (hv : InRange v) (h : u<v) : utc2gps u<utc2gps v := by
  obtain ⟨x,rfl,hx⟩ := hu.exists_seconds
  obtain ⟨y,rfl,hy⟩ := hv.exists_seconds
  have hmono := ahead_mono 0 leaps (x := x) (y := y) (by omega)
  rw [UInt32.lt_iff_toNat_lt,utc2gps_toNat hx,utc2gps_toNat hy]
  omega

/-- A second of the satellites that is no leap second comes back. -/
theorem utc2gps_gps2utc {g : UInt32} (h : g.toNat+315964800<2^32) (hleap : g∉gpsLeap) : utc2gps (gps2utc g)=g := by
  have hnot : g.toNat∉leaps := by
    intro hmem
    obtain ⟨leap,hl,heq⟩ := List.mem_map.mp hmem
    exact hleap (UInt32.toNat_inj.mp heq ▸ hl)
  have hback := ahead_passed leaps_sorted (fun skipped _ => Nat.zero_le skipped) (Nat.zero_le g.toNat) hnot
  have hle : passed leaps g.toNat≤g.toNat := by
    rcases Nat.lt_or_ge g.toNat 46828800 with hearly|hlate
    · have hfirst : ∀ skipped∈leaps,46828800≤ skipped := by decide
      rw [passed_eq_zero fun skipped hs => hearly.trans_le (hfirst skipped hs)]
      exact Nat.zero_le _
    · have hpassed := passed_le_length leaps g.toNat
      have hlength : leaps.length=18 := rfl
      omega
  have hseconds : gps2utc g=gpsUnixEpochDiff+(g.toNat-passed leaps g.toNat : ℕ) := by
    rw [gps2utc_eq (by omega)]
    omega
  rw [Nat.sub_zero] at hback
  rw [← UInt32.toNat_inj,hseconds,utc2gps_toNat (by omega),hback]
  omega

/-- The two clocks: seconds of the universal one come back and keep their order,
and so do those of the other one that are no leap seconds. -/
theorem clocks_agree :
    (∀ u : ℤ,InRange u → gps2utc (utc2gps u)=u) ∧
    (∀ u v : ℤ,InRange u → InRange v → u<v → utc2gps u<utc2gps v) ∧
    ∀ g : UInt32,g.toNat+315964800<2^32 → g∉gpsLeap → utc2gps (gps2utc g)=g :=
  ⟨fun _ h => gps2utc_utc2gps h,fun _ _ hu hv h => utc2gps_lt hu hv h,fun _ h hleap => utc2gps_gps2utc h hleap⟩

/-- The seconds around the last leap second. -/
theorem clocks_lastLeap : gps2utc (utc2gps 1483228800)=1483228800 ∧ utc2gps 1483228799<utc2gps 1483228800 ∧
    utc2gps (gps2utc 1167264018)=1167264018 :=
  ⟨clocks_agree.1 1483228800 ⟨by decide,by decide⟩,
    clocks_agree.2.1 1483228799 1483228800 ⟨by decide,by decide⟩ ⟨by decide,by decide⟩ (by decide),
    clocks_agree.2.2 1167264018 (by decide) (by decide)⟩

end LorawanServer.GpsTime
