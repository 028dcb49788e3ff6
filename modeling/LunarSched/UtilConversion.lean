import LunarSched.FullLoad
import LunarSched.TopTwoUtil

/-!
Utilisations and sums of running time. A rollover in the averaging mode turns the mean
utilisation of a cluster into a sum over the policy's window, and `get_next_freq` turns
the sum back: what it records is the mean utilisation or one less (`returnedUtil_eq`,
`rollover_near`). `lse_cpu_util` counts whole 1024ths of the window instead, which gives
at most one more than the share of the window (`lseCpuUtil_bounds`).
-/
namespace LunarSched.UtilConversion
open LunarSched.Machine LunarSched.Kernel LunarSched.UtilTrack LunarSched.Governor LunarSched.Scale LunarSched.ClusterLoad
open LunarSched.FullLoad (lseCpuUtil_eq)
open LunarSched.TopTwoUtil (lseTop2AvgUtil_le)

/-- The sum into which `lsegov_update_freq` turns a utilisation. -/
def aggUtilSum (windowNs aggUtil : ℕ) : ℕ := u64 (aggUtil * windowNs) / 1024

/-- The utilisation that `get_next_freq` records for that sum. -/
def returnedUtil (w : World) (y : GovSysctl) (p : CpufreqPolicy) (lg : LseGovPolicy) (aggUtil : ℕ) : ℕ :=
  (getNextFreq w y p lg (aggUtilSum (lseGetPolicyWindowNs y w.track lg) aggUtil)).2.lastAggUtil

/-- The conversions over a window: there and back again between the two functions of the
    governor, and `lse_cpu_util` against the share of the window. -/
structure TightOver (window : ℕ) : Prop where
  returned : ∀ w y p lg, lseGetPolicyWindowNs y w.track lg = window → Tight 1024 (returnedUtil w y p lg)
  cpuUtil : 1048576 ≤ window → ∀ w cpu, (w.lrq cpu).prevWindowSize = window → (w.lrq cpu).prevRunnableSum ≤ window →
    (w.lrq cpu).prevRunnableSum * 1024 / window ≤ lseCpuUtil w cpu ∧
      lseCpuUtil w cpu ≤ (w.lrq cpu).prevRunnableSum * 1024 / window + 1

section
variable {w : World} {y : GovSysctl} {p : CpufreqPolicy} {lg : LseGovPolicy}

/-- What comes back is the share of the portion of the window. -/
theorem returnedUtil_eq (fine : 1024 ≤ lseGetPolicyWindowNs y w.track lg)
    (word : lseGetPolicyWindowNs y w.track lg < 4294967296) (util : ℕ) (le : util ≤ 1024) :
    returnedUtil w y p lg util =
      share 1024 (lseGetPolicyWindowNs y w.track lg) (portion 1024 (lseGetPolicyWindowNs y w.track lg) util) := by
  rw [returnedUtil,getNextFreq_recorded,aggUtilOf,aggUtilSum]
  generalize lseGetPolicyWindowNs y w.track lg = window at fine word ⊢
  have positive : 0 < window := by omega
  rw [sum_eq_portion word le,max_eq_left (show 1 ≤ window from positive)]
  exact utilOf_eq_share positive word (portion_le (by decide) le)

theorem returnedUtil_tight (fine : 1024 ≤ lseGetPolicyWindowNs y w.track lg)
    (word : lseGetPolicyWindowNs y w.track lg < 4294967296) : Tight 1024 (returnedUtil w y p lg) :=
  (share_portion_tight (by decide) fine).congr (returnedUtil_eq fine word)

theorem lseCpuUtil_bounds {cpu : ℕ} (large : 1048576 ≤ (w.lrq cpu).prevWindowSize)
    (within : (w.lrq cpu).prevRunnableSum ≤ (w.lrq cpu).prevWindowSize) :
    share 1024 (w.lrq cpu).prevWindowSize (w.lrq cpu).prevRunnableSum ≤ lseCpuUtil w cpu ∧
      lseCpuUtil w cpu ≤ share 1024 (w.lrq cpu).prevWindowSize (w.lrq cpu).prevRunnableSum + 1 := by
  rw [lseCpuUtil_eq large within]
  exact ⟨share_le_div_divisor (by decide) (by omega) _,div_divisor_le_share (by decide) large within⟩

end

section
variable {w : World} {y : GovSysctl} {c : Cpufreq} {cluster : LseSchedCluster} {policy : ℕ} {lg : LseGovPolicy}
  {started : Bool}

/-- A rollover in the averaging mode updates a policy of the governor with the sum of the
    cluster's mean utilisation over the policy's own window. -/
theorem rolloverUtil_returned (mode : y.clusterAggMode = lseAggTop2Avg)
    (owner : cpufreqCpuGetRaw c (cpumaskFirst w.nrCpuIds (clusterOnline w cluster)) = some policy)
    (data : c.governorData policy = .lse lg started) :
    rolloverUtil w y c cluster policy lg =
      returnedUtil w y (c.policy policy) lg (lseTop2AvgUtil w (clusterOnline w cluster)) := by
  simp only [rolloverUtil,returnedUtil,aggUtilSum,rolloverCall,clusterSum,owner,rolloverWindow,Option.map_some,data,mode,
    if_true]

/-- On every machine the governor works with the mean utilisation of the cluster, or with
    one less. -/
theorem rollover_near (mode : y.clusterAggMode = lseAggTop2Avg)
    (owner : cpufreqCpuGetRaw c (cpumaskFirst w.nrCpuIds (clusterOnline w cluster)) = some policy)
    (data : c.governorData policy = .lse lg started) (fine : 1024 ≤ lseGetPolicyWindowNs y w.track lg)
    (word : lseGetPolicyWindowNs y w.track lg < 4294967296) :
    rolloverUtil w y c cluster policy lg = lseTop2AvgUtil w (clusterOnline w cluster) ∨
      rolloverUtil w y c cluster policy lg + 1 = lseTop2AvgUtil w (clusterOnline w cluster) := by
  rw [rolloverUtil_returned mode owner data]
  exact (returnedUtil_tight fine word).near _ (lseTop2AvgUtil_le w (clusterOnline w cluster))

end

/-- Over every window of at least 1024 ns the conversions lose or add at most one. -/
theorem conversions_tight (window : ℕ) (fine : 1024 ≤ window) (word : window < 4294967296) : TightOver window := by
  constructor
  · rintro w y p lg rfl
    exact returnedUtil_tight fine word
  · rintro large w cpu rfl within
    exact lseCpuUtil_bounds large within

/-- Over the default window every odd utilisation loses one on its way through the sum, and
    7812 ns, which are less than a 1024th, count as one. -/
theorem conversions_tight_default :
    TightOver 8000000 ∧ Tight 1024 (returnedUtil (loaded 7812) govSysctlDefaults fullPolicy ownRecord) ∧
      returnedUtil (loaded 7812) govSysctlDefaults fullPolicy ownRecord 513 = 512 ∧
        7812 * 1024 / 8000000 = 0 ∧ lseCpuUtil (loaded 7812) 0 = 1 :=
  ⟨conversions_tight 8000000 (by decide) (by decide),
    (conversions_tight 8000000 (by decide) (by decide)).returned _ _ _ _ rfl,by decide,by decide,by decide⟩

end LunarSched.UtilConversion
