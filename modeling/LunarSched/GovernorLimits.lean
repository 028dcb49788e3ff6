import LunarSched.GovernorCache
import LunarSched.RolloverPolicies
import LunarSched.ClusterLoad

/-!
The limits callback after a start. cpufreq calls `limits` right after it has started the
governor. Without fast switch the callback leaves a frequency within the limits alone; with
it, it switches to the cached `next_freq`, which the start has just reset to 0 and which
resolves to the minimum. So a start keeps the frequency exactly when there is no fast
switch or the policy is at its minimum (`start_keeps_iff`).
-/
namespace LunarSched.GovernorLimits
open LunarSched.Machine LunarSched.Kernel LunarSched.Governor LunarSched.ClusterLoad
open LunarSched.GovernorCache (clampingCore)

/-- What the callback relies on in cpufreq: a frequency resolves to itself within the limits
    when the table has it, a fast switch gets to a frequency of the table, and limits that
    hold are not applied. -/
structure Driver (core : Core) (table : List ℕ) : Prop where
  resolve : ∀ p freq, clampT freq p.min p.max ∈ table → core.driverResolveFreq p freq = clampT freq p.min p.max
  fastSwitch : ∀ p, ∀ freq ∈ table, p.min ≤ freq → freq ≤ p.max → (core.driverFastSwitch p freq).cur = freq
  applyLimits : ∀ p, p.min ≤ p.cur → p.cur ≤ p.max → (core.policyApplyLimits p).cur = p.cur

/-- A policy whose frequency and limits are in the table and in order. -/
structure InTable (p : CpufreqPolicy) (table : List ℕ) : Prop where
  lower : p.min ≤ p.cur
  upper : p.cur ≤ p.max
  min : p.min ∈ table
  cur : p.cur ∈ table
  max : p.max ∈ table

/-- `lse_gov_start` on a policy, and `lse_gov_limits` after it. -/
def startThenLimits (core : Core) (w : World) (c : Cpufreq) (policy : ℕ) (lg : LseGovPolicy) : Cpufreq :=
  let c := lseGovStart w c policy lg
  match c.governorData policy with
  | .lse lg _ => { c with policy := Function.update c.policy policy (lseGovLimits core (c.policy policy) lg) }
  | _ => c

section
variable {core : Core} {table : List ℕ} {p : CpufreqPolicy} {lg : LseGovPolicy}

theorem limits_slow (driver : Driver core table) (within : InTable p table) (slow : p.fastSwitchEnabled = false) :
    (lseGovLimits core p lg).cur = p.cur := by
  rw [lseGovLimits,if_pos slow]
  exact driver.applyLimits p within.lower within.upper

/-- The fast path goes to the cached frequency, not to where the hardware is. -/
theorem limits_fast (driver : Driver core table) (ordered : p.min ≤ p.max) (fast : p.fastSwitchEnabled = true)
    (known : clampT lg.nextFreq p.min p.max ∈ table) :
    (lseGovLimits core p lg).cur = clampT lg.nextFreq p.min p.max := by
  have low : p.min ≤ clampT lg.nextFreq p.min p.max := le_min (le_max_right _ _) ordered
  have high : clampT lg.nextFreq p.min p.max ≤ p.max := min_le_right _ _
  rw [lseGovLimits,if_neg (by simp [fast]),driver.resolve p _ known]
  exact driver.fastSwitch p _ known low high

/-- The cached frequency that a start leaves is no limit above the minimum. -/
theorem limits_started (driver : Driver core table) (within : InTable p table) (w : World) (clusterId : ℕ)
    (lg : LseGovPolicy) :
    (lseGovLimits core p (startedPolicy w p clusterId lg)).cur = if p.fastSwitchEnabled then p.min else p.cur := by
  by_cases fast : p.fastSwitchEnabled = true
  · have ordered := within.lower.trans within.upper
    have bottom : clampT (startedPolicy w p clusterId lg).nextFreq p.min p.max = p.min := by
      change min (max 0 p.min) p.max = p.min
      rw [Nat.zero_max,min_eq_left ordered]
    rw [limits_fast driver ordered fast (by rw [bottom]; exact within.min),bottom,if_pos fast]
  · rw [limits_slow driver within (by simpa using fast),if_neg fast]

theorem lseGovStart_policy (w : World) (c : Cpufreq) (policy : ℕ) (lg : LseGovPolicy) :
    (lseGovStart w c policy lg).policy = c.policy ∧ (lseGovStart w c policy lg).governorData policy =
      .lse (startedPolicy w (c.policy policy) (policyClusterId w c policy) lg) true := by
  simp [lseGovStart]

theorem startThenLimits_policy (core : Core) (w : World) (c : Cpufreq) (policy : ℕ) (lg : LseGovPolicy) :
    (startThenLimits core w c policy lg).policy = Function.update c.policy policy
      (lseGovLimits core (c.policy policy) (startedPolicy w (c.policy policy) (policyClusterId w c policy) lg)) := by
  obtain ⟨policies,data⟩ := lseGovStart_policy w c policy lg
  simp only [startThenLimits,data,policies]

end

/-- On every machine, starting the governor on a policy and applying its limits keeps all
    frequencies exactly without fast switch or at the policy's minimum. -/
theorem start_keeps_iff (core : Core) (table : List ℕ) (w : World) (c : Cpufreq) (policy : ℕ) (lg : LseGovPolicy)
    (driver : Driver core table) (within : InTable (c.policy policy) table) :
    (∀ other, ((startThenLimits core w c policy lg).policy other).cur = (c.policy other).cur) ↔
      (c.policy policy).fastSwitchEnabled = false ∨ (c.policy policy).cur = (c.policy policy).min := by
  have started := limits_started driver within w (policyClusterId w c policy) lg
  have after : ∀ other, ((startThenLimits core w c policy lg).policy other).cur =
      if other = policy then (if (c.policy policy).fastSwitchEnabled then (c.policy policy).min else (c.policy policy).cur)
      else (c.policy other).cur := by
    intro other
    rw [startThenLimits_policy,← started]
    by_cases same : other = policy
    · rw [if_pos same,same,Function.update_self]
    · rw [if_neg same,Function.update_of_ne same]
  constructor
  · intro kept
    have own := kept policy
    rw [after,if_pos rfl] at own
    by_cases fast : (c.policy policy).fastSwitchEnabled = true
    · rw [if_pos fast] at own
      exact Or.inr own.symm
    · exact Or.inl (by simpa using fast)
  · intro still other
    rw [after]
    by_cases same : other = policy
    · subst same
      rcases still with slow | bottom
      · simp [slow]
      · simp [bottom]
    · rw [if_neg same]

/-- A machine whose policy can switch fast and is at its highest frequency. -/
def fastCpufreq : Cpufreq := { ownCpufreq with policy := fun _ => { fullPolicy with fastSwitchEnabled := true } }

theorem clampingCore_driver : Driver clampingCore [500000,1000000,2000000] where
  resolve _ _ _ := rfl
  fastSwitch p freq _ low high := by
    change min (max freq p.min) p.max = freq
    omega
  applyLimits p low high := by
    change (if p.max < p.cur then p.max else if p.cur < p.min then p.min else p.cur) = p.cur
    split_ifs <;> omega

/-- The policy falls from its highest frequency to its lowest one. -/
theorem start_lowers :
    Driver clampingCore [500000,1000000,2000000] ∧ InTable (fastCpufreq.policy 0) [500000,1000000,2000000] ∧
      (fastCpufreq.policy 0).cur = 2000000 ∧
      ((startThenLimits clampingCore (loaded 0) fastCpufreq 0 lseGovPolicyAlloc).policy 0).cur = 500000 :=
  ⟨clampingCore_driver,⟨by decide,by decide,by decide,by decide,by decide⟩,rfl,by decide +kernel⟩

theorem start_keeps_slow :
    (∀ other, ((startThenLimits clampingCore (loaded 0) ownCpufreq 0 lseGovPolicyAlloc).policy other).cur =
        (ownCpufreq.policy other).cur) ↔
      (ownCpufreq.policy 0).fastSwitchEnabled = false ∨ (ownCpufreq.policy 0).cur = (ownCpufreq.policy 0).min :=
  start_keeps_iff clampingCore [500000,1000000,2000000] (loaded 0) ownCpufreq 0 lseGovPolicyAlloc clampingCore_driver
    ⟨by decide,by decide,by decide,by decide,by decide⟩

end LunarSched.GovernorLimits
