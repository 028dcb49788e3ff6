import LunarSched.TargetLoad

/-!
The power pressure of a policy. The share of the current frequency in the highest one is
taken by `mult_frac` on unsigned ints, whose product with 1024 no longer fits from 2²² kHz
on unless the frequency is the highest. A product that does not fit loses at least one of
the 1024 parts, and the pressure is right exactly where it does fit, or loses one part that
the halving drops (`pressure_right_iff`).
-/
namespace LunarSched.PowerPressure
open LunarSched.Machine LunarSched.Kernel LunarSched.Governor LunarSched.TargetLoad

/-- The pressure over the integers. -/
def integerPressure (cur maxFreq aggUtil : ℕ) : ℕ := min 1024 ((1024 * cur / maxFreq + aggUtil) / 2)

/-- The dynamic target load goes up a step. -/
def Raises (y : GovSysctl) (p : CpufreqPolicy) (lg : LseGovPolicy) (aggUtil : ℕ) : Prop :=
  y.clusterTlDynEnable ≠ 0 ∧ 850 < lseComputePowerPressure p aggUtil ∧
    u32 (baseTargetLoad lg + lg.targetLoadStep) ≤ lg.targetLoadMax

/-- It goes down a step. -/
def Lowers (y : GovSysctl) (p : CpufreqPolicy) (lg : LseGovPolicy) (aggUtil : ℕ) : Prop :=
  y.clusterTlDynEnable ≠ 0 ∧ ¬ Raises y p lg aggUtil ∧ lseComputePowerPressure p aggUtil < 450 ∧
    u32 (lg.targetLoadMin + lg.targetLoadStep) < baseTargetLoad lg

instance (y : GovSysctl) (p : CpufreqPolicy) (lg : LseGovPolicy) (aggUtil : ℕ) : Decidable (Raises y p lg aggUtil) :=
  inferInstanceAs (Decidable (_ ∧ _ ∧ _))
instance (y : GovSysctl) (p : CpufreqPolicy) (lg : LseGovPolicy) (aggUtil : ℕ) : Decidable (Lowers y p lg aggUtil) :=
  inferInstanceAs (Decidable (_ ∧ _ ∧ _))

/-- The pressure is right at two frequencies of a policy, of which the second one is not
    lower, for two loads of which the second one is not lower; it does not go down, and
    neither does the direction in which the target load is adapted. -/
structure PressureRight (y : GovSysctl) (lg : LseGovPolicy) (p q : CpufreqPolicy) (aggUtil aggUtil' : ℕ) : Prop where
  first : lseComputePowerPressure p aggUtil = integerPressure p.cur p.cpuinfoMaxFreq aggUtil
  second : lseComputePowerPressure q aggUtil' = integerPressure q.cur q.cpuinfoMaxFreq aggUtil'
  mono : lseComputePowerPressure p aggUtil ≤ lseComputePowerPressure q aggUtil'
  direction : ¬ (Raises y p lg aggUtil ∧ Lowers y q lg aggUtil')

/-- The product with 1024 fits 32 bits or is not taken, or it loses one part of an odd sum. -/
def ShareFits (p : CpufreqPolicy) (aggUtil : ℕ) : Prop :=
  p.cur = p.cpuinfoMaxFreq ∨ p.cur < 4194304 ∨
    (1024 * p.cur / p.cpuinfoMaxFreq = u32 (1024 * p.cur) / p.cpuinfoMaxFreq + 1 ∧
      (1024 * p.cur / p.cpuinfoMaxFreq + aggUtil) % 2 = 1)

instance (p : CpufreqPolicy) (aggUtil : ℕ) : Decidable (ShareFits p aggUtil) :=
  inferInstanceAs (Decidable (_ ∨ _ ∨ _))

section
variable {y : GovSysctl} {p : CpufreqPolicy} {lg : LseGovPolicy} {aggUtil : ℕ}

/-- The branches that the dynamic target load takes are the two directions. -/
theorem lseDynamicTargetLoad_branches (y : GovSysctl) (p : CpufreqPolicy) (lg : LseGovPolicy) (aggUtil : ℕ) :
    (lseDynamicTargetLoad y p lg aggUtil).1 =
      if Raises y p lg aggUtil then
        clampT (u32 (baseTargetLoad lg + lg.targetLoadStep)) lg.targetLoadMin lg.targetLoadMax
      else if Lowers y p lg aggUtil then
        clampT (u32Sub (baseTargetLoad lg) lg.targetLoadStep) lg.targetLoadMin lg.targetLoadMax
      else baseTargetLoad lg := by
  have base : clampT (baseTargetLoad lg) lg.targetLoadMin lg.targetLoadMax = baseTargetLoad lg := clampT_idem _ _ _
  by_cases off : y.clusterTlDynEnable = 0
  · simp [lseDynamicTargetLoad,Raises,Lowers,off]
  · simp only [lseDynamicTargetLoad,off,if_false,Raises,Lowers,ne_eq,not_false_eq_true,true_and]
    split_ifs with up low lowers lowers
    · rfl
    · rfl
    · exact absurd ⟨up,low⟩ lowers
    · exact absurd lowers.2 low
    · exact base

/-- Below the highest frequency the share is that of the wrapped product. -/
theorem multFrac_below {cur maxFreq : ℕ} (below : cur < maxFreq) :
    multFrac cur 1024 maxFreq = u32 (1024 * cur) / maxFreq := by
  have small : u32 (1024 * cur) / maxFreq < 4294967296 :=
    (Nat.div_le_self _ _).trans_lt (Nat.mod_lt _ (by decide))
  simp only [multFrac,Nat.div_eq_of_lt below,Nat.mod_eq_of_lt below,Nat.zero_mul,u32_of_lt (show 0 < 4294967296 by decide),
    Nat.zero_add,Nat.mul_comm cur 1024,u32_of_lt small]

theorem share_le {cur maxFreq : ℕ} (within : cur ≤ maxFreq) : 1024 * cur / maxFreq ≤ 1024 := by
  rcases Nat.eq_zero_or_pos maxFreq with rfl | positive
  · simp
  · calc 1024 * cur / maxFreq ≤ 1024 * maxFreq / maxFreq := Nat.div_le_div_right (Nat.mul_le_mul_left _ within)
      _ = 1024 := Nat.mul_div_cancel _ positive

/-- Neither the sum nor the cut at 1024 changes anything for a load of at most 1024. -/
theorem pressure_eq (positive : 0 < p.cpuinfoMaxFreq) (within : p.cur ≤ p.cpuinfoMaxFreq) (bounded : aggUtil ≤ 1024) :
    lseComputePowerPressure p aggUtil = (multFrac p.cur 1024 p.cpuinfoMaxFreq + aggUtil) / 2 := by
  have share := multFrac_le within
  simp only [lseComputePowerPressure,ne_eq,positive.ne',not_false_eq_true,if_true]
  rw [u32_of_lt (by omega)]
  omega

theorem pressure_exact_iff (positive : 0 < p.cpuinfoMaxFreq) (word : p.cpuinfoMaxFreq < 4294967296)
    (within : p.cur ≤ p.cpuinfoMaxFreq) (bounded : aggUtil ≤ 1024) :
    lseComputePowerPressure p aggUtil = integerPressure p.cur p.cpuinfoMaxFreq aggUtil ↔ ShareFits p aggUtil := by
  have share := share_le within
  rw [pressure_eq positive within bounded,integerPressure,ShareFits]
  rcases within.lt_or_eq with below | full
  · rw [multFrac_below below]
    by_cases fits : p.cur < 4194304
    · rw [u32_of_lt (by omega)]
      omega
    · have lost := u32_div_lt (x := 1024 * p.cur) positive word (by omega)
      omega
  · have whole : multFrac p.cur 1024 p.cpuinfoMaxFreq = 1024 := by
      rw [full,multFrac,Nat.div_self positive,Nat.mod_self]
      simp [u32]
    rw [whole,full,Nat.mul_div_cancel _ positive]
    omega

theorem integerPressure_mono {cur cur' maxFreq aggUtil' : ℕ} (freq : cur ≤ cur') (load : aggUtil ≤ aggUtil') :
    integerPressure cur maxFreq aggUtil ≤ integerPressure cur' maxFreq aggUtil' := by
  have share : 1024 * cur / maxFreq ≤ 1024 * cur' / maxFreq := Nat.div_le_div_right (Nat.mul_le_mul_left _ freq)
  unfold integerPressure
  omega

end

/-- On every policy, at every two frequencies and loads, the pressure is right and does not
    go down exactly when both products fit. -/
theorem pressure_right_iff (y : GovSysctl) (lg : LseGovPolicy) (p q : CpufreqPolicy) (aggUtil aggUtil' : ℕ)
    (same : p.cpuinfoMaxFreq = q.cpuinfoMaxFreq) (positive : 0 < q.cpuinfoMaxFreq) (word : q.cpuinfoMaxFreq < 4294967296)
    (freq : p.cur ≤ q.cur) (within : q.cur ≤ q.cpuinfoMaxFreq) (load : aggUtil ≤ aggUtil') (bounded : aggUtil' ≤ 1024) :
    PressureRight y lg p q aggUtil aggUtil' ↔ ShareFits p aggUtil ∧ ShareFits q aggUtil' := by
  have lower : lseComputePowerPressure p aggUtil = integerPressure p.cur p.cpuinfoMaxFreq aggUtil ↔ ShareFits p aggUtil :=
    pressure_exact_iff (by omega) (by omega) (by omega) (by omega)
  have higher : lseComputePowerPressure q aggUtil' = integerPressure q.cur q.cpuinfoMaxFreq aggUtil' ↔ ShareFits q aggUtil' :=
    pressure_exact_iff positive word within bounded
  constructor
  · exact fun right => ⟨lower.mp right.first,higher.mp right.second⟩
  · rintro ⟨first,second⟩
    have mono : lseComputePowerPressure p aggUtil ≤ lseComputePowerPressure q aggUtil' := by
      rw [lower.mpr first,higher.mpr second,same]
      exact integerPressure_mono freq load
    refine ⟨lower.mpr first,higher.mpr second,mono,?_⟩
    rintro ⟨⟨_,high,_⟩,_,_,low,_⟩
    omega

/-- A policy up to 4.5 GHz at the given frequency. -/
def highPolicy (cur : ℕ) : CpufreqPolicy := { fullPolicy with max := 4500000, cur := cur, cpuinfoMaxFreq := 4500000 }

/-- From 4.19 to 4.2 GHz the pressure falls from 876 to 400, and the target load that was
    raised is lowered. -/
theorem pressure_wraps :
    (highPolicy 4190000).cpuinfoMaxFreq = (highPolicy 4200000).cpuinfoMaxFreq ∧
      (highPolicy 4190000).cur ≤ (highPolicy 4200000).cur ∧
      (highPolicy 4200000).cur ≤ (highPolicy 4200000).cpuinfoMaxFreq ∧
      ¬ PressureRight govSysctlDefaults ClusterLoad.ownRecord (highPolicy 4190000) (highPolicy 4200000) 800 800 ∧
      Raises govSysctlDefaults (highPolicy 4190000) ClusterLoad.ownRecord 800 ∧
      Lowers govSysctlDefaults (highPolicy 4200000) ClusterLoad.ownRecord 800 :=
  ⟨rfl,by decide,by decide,fun right => absurd right.second (by decide +kernel),by decide +kernel,by decide +kernel⟩

/-- At the highest frequency the product is not taken. -/
theorem pressure_right_highest :
    PressureRight govSysctlDefaults ClusterLoad.ownRecord (highPolicy 1000000) (highPolicy 4500000) 300 800 ↔
      ShareFits (highPolicy 1000000) 300 ∧ ShareFits (highPolicy 4500000) 800 :=
  pressure_right_iff govSysctlDefaults ClusterLoad.ownRecord (highPolicy 1000000) (highPolicy 4500000) 300 800
    rfl (by decide) (by decide) (by decide) (by decide) (by decide) (by decide)

end LunarSched.PowerPressure
