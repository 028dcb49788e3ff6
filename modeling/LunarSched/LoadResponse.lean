import LunarSched.FreqClamp
import LunarSched.TargetLoad

/-!
The frequency of a policy as a function of its load. The load is multiplied with the
current frequency and divided by the target load, which goes up with the load in steps; a
step of the target load makes the frequency fall. So more load asks for no less frequency
while the target load stays, and otherwise for no less than the ratio of the two target
loads allows (`more_load_kept`). The fallback to the lowest frequency and the limits are
one clamp of the quotient (`requestedFreq_eq`).
-/
namespace LunarSched.LoadResponse
open LunarSched.Machine LunarSched.Kernel LunarSched.Governor LunarSched.Clamp LunarSched.FreqClamp LunarSched.ClusterLoad
  LunarSched.TargetLoad

/-- The settings of a policy since its start. -/
structure Started (p : CpufreqPolicy) (lg : LseGovPolicy) : Prop where
  target : lg.targetLoadBase = 90 ∧ lg.targetLoadMin = 70 ∧ lg.targetLoadMax = 95 ∧ lg.targetLoadStep = 2
  capMax : lg.clusterFreqCapMax = p.cpuinfoMaxFreq
  capMin : lg.clusterFreqCapMin = p.cpuinfoMinFreq

theorem startedPolicy_started (w : World) (p : CpufreqPolicy) (clusterId : ℕ) (lg : LseGovPolicy) :
    Started p (startedPolicy w p clusterId lg) := ⟨⟨rfl,rfl,rfl,rfl⟩,rfl,rfl⟩

/-- `get_next_freq` and `soft_freq_clamp` after it. -/
def requestedFreq (w : World) (y : GovSysctl) (tun : LseGovTunables) (p : CpufreqPolicy) (lg : LseGovPolicy) (sum : ℕ) : ℕ :=
  let (nextF,lg) := getNextFreq w y p lg sum
  (softFreqClamp y tun lg nextF).1

/-- The target load that `get_next_freq` uses for a sum. -/
def targetFor (w : World) (y : GovSysctl) (p : CpufreqPolicy) (lg : LseGovPolicy) (sum : ℕ) : ℕ :=
  (lseDynamicTargetLoad y p lg (aggUtilOf y w.track lg sum)).1

/-- The frequency over the target load. -/
def quotient (w : World) (y : GovSysctl) (p : CpufreqPolicy) (lg : LseGovPolicy) (sum : ℕ) : ℕ :=
  currFreq p * aggUtilOf y w.track lg sum / targetFor w y p lg sum

/-- What a sum and one that is not lower ask for: the target load does not go down, and
    goes up by at most two steps; while it stays, as it does when it is not dynamic, the
    frequency does not go down; otherwise it falls by no more than the target load rises. -/
structure MoreLoad (w : World) (y : GovSysctl) (tun : LseGovTunables) (p : CpufreqPolicy) (lg : LseGovPolicy)
    (sum higher : ℕ) : Prop where
  target : targetFor w y p lg sum ≤ targetFor w y p lg higher ∧
    targetFor w y p lg higher ≤ targetFor w y p lg sum + 2 * lg.targetLoadStep
  fixed : y.clusterTlDynEnable = 0 → targetFor w y p lg sum = targetFor w y p lg higher
  kept : targetFor w y p lg sum = targetFor w y p lg higher →
    requestedFreq w y tun p lg sum ≤ requestedFreq w y tun p lg higher
  ratio : requestedFreq w y tun p lg sum * targetFor w y p lg sum <
    (requestedFreq w y tun p lg higher + 1) * targetFor w y p lg higher

section
variable {w : World} {y : GovSysctl} {tun : LseGovTunables} {p : CpufreqPolicy} {lg : LseGovPolicy} {sum higher : ℕ}

theorem utilOf_mono {window : ℕ} (le : sum ≤ higher) (small : higher < 18014398509481984) :
    utilOf window sum ≤ utilOf window higher := by
  unfold utilOf
  rw [u64_of_lt (by omega),u64_of_lt (by omega)]
  exact min_le_min_right 1024 (Nat.div_le_div_right (Nat.mul_le_mul_right 1024 le))

theorem targetAt_mono (cur maxFreq : ℕ) {load load' : ℕ} (le : load ≤ load') :
    targetAt cur maxFreq load ≤ targetAt cur maxFreq load' := by
  simp only [targetAt]
  split_ifs <;> omega

theorem targetAt_range (cur maxFreq load : ℕ) : 88 ≤ targetAt cur maxFreq load ∧ targetAt cur maxFreq load ≤ 92 := by
  simp only [targetAt]
  split_ifs <;> omega

theorem targetFor_eq (started : Started p lg) (within : p.cur ≤ p.cpuinfoMaxFreq) :
    targetFor w y p lg sum =
      if y.clusterTlDynEnable = 0 then 90 else targetAt p.cur p.cpuinfoMaxFreq (aggUtilOf y w.track lg sum) :=
  startedTarget_eq y within started.target (utilOf_le _ _)

theorem targetFor_range (w : World) (y : GovSysctl) (sum : ℕ) (started : Started p lg) (within : p.cur ≤ p.cpuinfoMaxFreq) :
    88 ≤ targetFor w y p lg sum ∧ targetFor w y p lg sum ≤ 92 := by
  have range := targetAt_range p.cur p.cpuinfoMaxFreq (aggUtilOf y w.track lg sum)
  rw [targetFor_eq started within]
  split_ifs <;> omega

theorem targetFor_mono (started : Started p lg) (within : p.cur ≤ p.cpuinfoMaxFreq) (le : sum ≤ higher)
    (small : higher < 18014398509481984) : targetFor w y p lg sum ≤ targetFor w y p lg higher := by
  rw [targetFor_eq started within,targetFor_eq started within]
  have util : aggUtilOf y w.track lg sum ≤ aggUtilOf y w.track lg higher := utilOf_mono le small
  have dynamic := targetAt_mono p.cur p.cpuinfoMaxFreq util
  split_ifs
  · exact le_rfl
  · exact dynamic

theorem currFreq_le (lower : p.cpuinfoMinFreq ≤ p.cur) : currFreq p ≤ p.cur := by
  unfold currFreq
  split_ifs <;> omega

/-- A quotient that fits a word is what the formula divides to, and the fallback replaces 0. -/
theorem nextFreq_eq (started : Started p lg) (lower : p.cpuinfoMinFreq ≤ p.cur) (upper : p.cur ≤ p.cpuinfoMaxFreq)
    (word : p.cpuinfoMaxFreq < 4294967296) (formula : y.govLegacyFormulaEnable = 0)
    (fits : quotient w y p lg sum < 4294967296) :
    (getNextFreq w y p lg sum).1 = if quotient w y p lg sum = 0 then p.cpuinfoMinFreq else quotient w y p lg sum := by
  have range := targetFor_range w y sum started upper
  have base := currFreq_le lower
  have util : aggUtilOf y w.track lg sum ≤ 1024 := utilOf_le _ _
  have product : currFreq p * aggUtilOf y w.track lg sum ≤ currFreq p * 1024 := Nat.mul_le_mul_left _ util
  have word64 : u64 (currFreq p * aggUtilOf y w.track lg sum) = currFreq p * aggUtilOf y w.track lg sum :=
    u64_of_lt (by omega)
  have positive : max (targetFor w y p lg sum) 1 = targetFor w y p lg sum := max_eq_left (by omega)
  have next : (getNextFreq w y p lg sum).1 =
      scaledFreq p (currFreq p) (aggUtilOf y w.track lg sum) (targetFor w y p lg sum) := by
    simp [getNextFreq,formula,targetFor]
  rw [next,scaledFreq,word64,positive]
  change (if u32 (quotient w y p lg sum) = 0 then p.cpuinfoMinFreq else u32 (quotient w y p lg sum)) = _
  rw [u32_of_lt fits]

/-- `get_next_freq` leaves the caps alone. -/
theorem getNextFreq_clamped (w : World) (y : GovSysctl) (tun : LseGovTunables) (p : CpufreqPolicy) (lg : LseGovPolicy)
    (sum target : ℕ) :
    (softFreqClamp y tun (getNextFreq w y p lg sum).2 target).1 = (softFreqClamp y tun lg target).1 := by
  simp only [getNextFreq,lseDynamicTargetLoad]
  split_ifs <;> rfl

theorem started_capped (started : Started p lg) (lower : p.cpuinfoMinFreq ≤ p.cur) (upper : p.cur ≤ p.cpuinfoMaxFreq)
    (caps : y.clusterFreqCapEnable ≠ 0) (positive : 0 < p.cpuinfoMaxFreq) : Capped y lg := by
  obtain ⟨_,capMax,capMin⟩ := started
  exact ⟨caps,by omega,by omega⟩

/-- The frequency is the clamped quotient: the lower limit is no lower than the frequency
    that the fallback gives. -/
theorem requestedFreq_eq (started : Started p lg) (lower : p.cpuinfoMinFreq ≤ p.cur) (upper : p.cur ≤ p.cpuinfoMaxFreq)
    (word : p.cpuinfoMaxFreq < 4294967296) (formula : y.govLegacyFormulaEnable = 0) (caps : y.clusterFreqCapEnable ≠ 0)
    (positive : 0 < p.cpuinfoMaxFreq) (fits : quotient w y p lg sum < 4294967296) :
    requestedFreq w y tun p lg sum = clamp (lowerLimit tun lg) (upperLimit tun lg) (quotient w y p lg sum) := by
  have least : p.cpuinfoMinFreq ≤ lowerLimit tun lg := started.capMin ▸ le_max_right _ _
  calc requestedFreq w y tun p lg sum
      = (softFreqClamp y tun lg (getNextFreq w y p lg sum).1).1 := getNextFreq_clamped w y tun p lg sum _
    _ = clamp (lowerLimit tun lg) (upperLimit tun lg) (getNextFreq w y p lg sum).1 :=
        softFreqClamp_eq (started_capped started lower upper caps positive) tun _
    _ = clamp (lowerLimit tun lg) (upperLimit tun lg) (quotient w y p lg sum) := by
        rw [nextFreq_eq started lower upper word formula fits]
        split_ifs with zero
        · rw [clamp_of_le least,zero,clamp_of_le (Nat.zero_le _)]
        · rfl

/-- A policy without a frequency asks for the same at every load. -/
theorem requestedFreq_idle (started : Started p lg) (lower : p.cpuinfoMinFreq ≤ p.cur) (upper : p.cur ≤ p.cpuinfoMaxFreq)
    (formula : y.govLegacyFormulaEnable = 0) (none : p.cpuinfoMaxFreq = 0) :
    requestedFreq w y tun p lg sum = (softFreqClamp y tun lg 0).1 := by
  have base : currFreq p = 0 := by
    have le := currFreq_le lower
    omega
  have zero : quotient w y p lg sum = 0 := by simp [quotient,base]
  have next : (getNextFreq w y p lg sum).1 = _ := nextFreq_eq started lower upper (by omega) formula (by omega)
  rw [if_pos zero] at next
  calc requestedFreq w y tun p lg sum
      = (softFreqClamp y tun lg (getNextFreq w y p lg sum).1).1 := getNextFreq_clamped w y tun p lg sum _
    _ = (softFreqClamp y tun lg 0).1 := by rw [next,show p.cpuinfoMinFreq = 0 by omega]

end

/-- On every started policy more load asks for no less frequency, but for the steps of the
    target load. -/
theorem more_load_kept (w : World) (y : GovSysctl) (tun : LseGovTunables) (p : CpufreqPolicy) (lg : LseGovPolicy)
    (sum higher : ℕ) (started : Started p lg) (lower : p.cpuinfoMinFreq ≤ p.cur) (upper : p.cur ≤ p.cpuinfoMaxFreq)
    (word : p.cpuinfoMaxFreq < 4294967296) (formula : y.govLegacyFormulaEnable = 0) (caps : y.clusterFreqCapEnable ≠ 0)
    (le : sum ≤ higher) (small : higher < 2 ^ 54) (fits : quotient w y p lg sum < 4294967296)
    (fits_higher : quotient w y p lg higher < 4294967296) : MoreLoad w y tun p lg sum higher := by
  have util : aggUtilOf y w.track lg sum ≤ aggUtilOf y w.track lg higher := utilOf_mono le small
  have range := targetFor_range w y sum started upper
  have range_higher := targetFor_range w y higher started upper
  have rises : targetFor w y p lg sum ≤ targetFor w y p lg higher := targetFor_mono started upper le small
  have dividend : currFreq p * aggUtilOf y w.track lg sum ≤ currFreq p * aggUtilOf y w.track lg higher :=
    Nat.mul_le_mul_left _ util
  have requested : requestedFreq w y tun p lg sum ≤ requestedFreq w y tun p lg higher ∨
      (quotient w y p lg higher ≤ requestedFreq w y tun p lg higher ∧
        requestedFreq w y tun p lg sum ≤ quotient w y p lg sum) := by
    rcases Nat.eq_zero_or_pos p.cpuinfoMaxFreq with none | positive
    · left
      rw [requestedFreq_idle started lower upper formula none,requestedFreq_idle started lower upper formula none]
    · rw [requestedFreq_eq started lower upper word formula caps positive fits,
        requestedFreq_eq started lower upper word formula caps positive fits_higher]
      exact (le_or_gt _ _).imp_right clamp_lt_clamp
  refine ⟨⟨rises,?_⟩,?_,?_,?_⟩
  · rw [started.target.2.2.2]
    omega
  · intro off
    rw [targetFor_eq started upper,targetFor_eq started upper,if_pos off,if_pos off]
  · intro same
    rcases requested with kept | ⟨bottom,top⟩
    · exact kept
    · calc requestedFreq w y tun p lg sum ≤ quotient w y p lg sum := top
        _ ≤ quotient w y p lg higher := by
            rw [quotient,quotient,same]
            exact Nat.div_le_div_right dividend
        _ ≤ requestedFreq w y tun p lg higher := bottom
  · rcases requested with kept | ⟨bottom,top⟩
    · calc requestedFreq w y tun p lg sum * targetFor w y p lg sum
          ≤ requestedFreq w y tun p lg higher * targetFor w y p lg higher := Nat.mul_le_mul kept rises
        _ < (requestedFreq w y tun p lg higher + 1) * targetFor w y p lg higher := by
            rw [Nat.succ_mul]
            omega
    · calc requestedFreq w y tun p lg sum * targetFor w y p lg sum
          ≤ quotient w y p lg sum * targetFor w y p lg sum := Nat.mul_le_mul_right _ top
        _ ≤ currFreq p * aggUtilOf y w.track lg sum := Nat.div_mul_le_self _ _
        _ ≤ currFreq p * aggUtilOf y w.track lg higher := dividend
        _ < (quotient w y p lg higher + 1) * targetFor w y p lg higher := (Nat.div_lt_iff_lt_mul (by omega)).mp (Nat.lt_succ_self _)
        _ ≤ (requestedFreq w y tun p lg higher + 1) * targetFor w y p lg higher :=
            Nat.mul_le_mul_right _ (Nat.succ_le_succ bottom)

/-- A policy at a tenth of its highest frequency. -/
def tenthPolicy : CpufreqPolicy :=
  { fullPolicy with min := 100000, cur := 200000, cpuinfoMinFreq := 100000 }

def tenthRecord : LseGovPolicy := startedPolicy (loaded 0) tenthPolicy 0 lseGovPolicyAlloc

def noLimits : LseGovTunables := ⟨90,-1,-1,true⟩

/-- One more part of load takes the target load from 88 to 90 and the frequency from
    1811363 to 1773333. -/
theorem more_load_lowers :
    Started tenthPolicy tenthRecord ∧
      (tenthPolicy.cpuinfoMinFreq ≤ tenthPolicy.cur ∧ tenthPolicy.cur ≤ tenthPolicy.cpuinfoMaxFreq) ∧
      govSysctlDefaults.clusterFreqCapEnable ≠ 0 ∧ govSysctlDefaults.govLegacyFormulaEnable = 0 ∧
      ¬ requestedFreq (loaded 0) govSysctlDefaults noLimits tenthPolicy tenthRecord 6226563 ≤
        requestedFreq (loaded 0) govSysctlDefaults noLimits tenthPolicy tenthRecord 6234375 :=
  ⟨startedPolicy_started _ _ _ _,by decide,by decide,rfl,by decide +kernel⟩

theorem more_load_kept_tenth : MoreLoad (loaded 0) govSysctlDefaults noLimits tenthPolicy tenthRecord 6226563 6234375 :=
  more_load_kept _ _ _ _ _ _ _ (startedPolicy_started _ _ _ _) (by decide) (by decide) (by decide) rfl (by decide)
    (by decide) (by decide) (by decide +kernel) (by decide +kernel)

end LunarSched.LoadResponse
