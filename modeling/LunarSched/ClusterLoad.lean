import LunarSched.Governor
import LunarSched.Scale
import LunarSched.TopTwo
import Mathlib.Tactic.IntervalCases

/-!
The load of a cluster as the tick and as the rollover see it. The tick takes the mean
of the two largest sums and turns it into a utilisation; the rollover turns every
sum into a utilisation, takes the mean of the two largest, and goes through a sum of
running time back to a utilisation. The roundings differ by at most two
(`top2_close`), but for a single CPU only the rollover leaves out the missing second
sum, so there the two agree only at a negligible load (`loads_agree_iff`).
-/
namespace LunarSched.ClusterLoad
open LunarSched.Machine LunarSched.Kernel LunarSched.Governor LunarSched.Scale LunarSched.TopTwo

/-- A cluster whose online CPUs are in one policy on which the governor is started, with
    one window everywhere that no CPU's load exceeds. -/
structure OneWindow (w : World) (c : Cpufreq) (cluster : LseSchedCluster) (policy : ℕ) (lg : LseGovPolicy)
    (window : ℕ) : Prop where
  fine : 1048576 ≤ window
  word : window < 4294967296
  nonempty : forEachCpu w.nrCpuIds (clusterOnline w cluster) ≠ []
  inside : ∀ cpu, clusterOnline w cluster cpu = true →
    c.cpuData cpu = some policy ∧ (c.policy policy).cpus cpu = true
  data : c.governorData policy = .lse lg true
  ravg : w.track.ravgWindow = window
  clusterWindow : lg.clusterWindowNs = window
  prev : ∀ cpu ∈ forEachCpu w.nrCpuIds (clusterOnline w cluster), (w.lrq cpu).prevWindowSize = window
  sums : ∀ cpu ∈ forEachCpu w.nrCpuIds (clusterOnline w cluster), (w.lrq cpu).prevRunnableSum ≤ window

/-- The cluster is the whole policy. -/
structure OnePolicy (w : World) (c : Cpufreq) (cluster : LseSchedCluster) (policy : ℕ) (lg : LseGovPolicy)
    (window : ℕ) : Prop extends OneWindow w c cluster policy lg window where
  together : (c.policy policy).cpus = clusterOnline w cluster

/-- The sums of a cluster's online CPUs. -/
def loads (w : World) (cluster : LseSchedCluster) : List ℕ :=
  (forEachCpu w.nrCpuIds (clusterOnline w cluster)).map (fun cpu => (w.lrq cpu).prevRunnableSum)

/-- The utilisation that `get_next_freq` computes after a rollover of the cluster. -/
def rolloverUtil (w : World) (y : GovSysctl) (c : Cpufreq) (cluster : LseSchedCluster) (policy : ℕ)
    (lg : LseGovPolicy) : ℕ :=
  (getNextFreq w y (c.policy policy) lg (rolloverCall w y c cluster).2).2.lastAggUtil

/-- Tick and rollover see the same load, up to two. -/
def LoadsAgree (w : World) (y : GovSysctl) (c : Cpufreq) (cluster : LseSchedCluster) (policy : ℕ)
    (lg : LseGovPolicy) : Prop :=
  traverseUtil w y (c.policy policy).cpus ≤ rolloverUtil w y c cluster policy lg + 2 ∧
    rolloverUtil w y c cluster policy lg ≤ traverseUtil w y (c.policy policy).cpus + 2

/-- A load that changes by at most two when it is halved. -/
def Negligible (window sum : ℕ) : Prop :=
  let util := sum * 1024 / window
  util ≤ 3 ∨ (util = 4 ∧ (¬ 256 ∣ window ∨ 2 * window ≤ 1024 * (sum / 2))) ∨ (util = 5 ∧ ¬ 1024 ∣ 5 * window) ∨
    (util = 6 ∧ ¬ 1024 ∣ 6 * window ∧ 3 * window ≤ 1024 * (sum / 2))

instance (w : World) (y : GovSysctl) (c : Cpufreq) (cluster : LseSchedCluster) (policy : ℕ) (lg : LseGovPolicy) :
    Decidable (LoadsAgree w y c cluster policy lg) := inferInstanceAs (Decidable (_ ∧ _))
instance (window sum : ℕ) : Decidable (Negligible window sum) := inferInstanceAs (Decidable (_ ∨ _ ∨ _ ∨ _))

/-- The body of the loop pushes a value into a pair that is in order. -/
theorem top2_push (t : TopPair ℕ) (value : ℕ) : top2 (t.first,t.second) value = ((t.push value).first,(t.push value).second) := by
  have ordered := t.ordered
  simp only [top2,push_first,push_second,Prod.ext_iff]
  split_ifs <;> omega

theorem foldl_top2 (values : List ℕ) (t : TopPair ℕ) :
    values.foldl top2 (t.first,t.second) = ((values.foldl TopPair.push t).first,(values.foldl TopPair.push t).second) := by
  induction values generalizing t with
  | nil => rfl
  | cons value rest ih => rw [List.foldl_cons,List.foldl_cons,top2_push,ih]

/-- The loop finds the two largest. -/
theorem foldl_top2_eq (values : List ℕ) : values.foldl top2 (0,0) = ((ofList values).first,(ofList values).second) :=
  foldl_top2 values TopPair.none

/-- A monotone function that keeps 0 can be applied before or after the loop. -/
theorem foldl_top2_map {f : ℕ → ℕ} (mono : Monotone f) (zero : f 0 = 0) (values : List ℕ) :
    (values.map f).foldl top2 (0,0) = (f (values.foldl top2 (0,0)).1,f (values.foldl top2 (0,0)).2) := by
  have none : TopPair.none.map f mono = TopPair.none := TopPair.ext zero zero
  have mapped := foldl_push_map mono values TopPair.none
  rw [none] at mapped
  rw [foldl_top2_eq,foldl_top2_eq,ofList,mapped]
  rfl

section
variable {window : ℕ}

/-- Up to a whole window the utilisation is the share of the window. -/
theorem utilOf_eq_share (positive : 0 < window) (word : window < 4294967296) {sum : ℕ} (le : sum ≤ window) :
    utilOf window sum = share 1024 window sum := by
  have small : sum * 1024 < 18446744073709551616 := by omega
  unfold utilOf
  rw [u64_of_lt small]
  exact min_eq_left (share_le_unit 1024 positive le)

/-- The sum that a rollover passes on for a utilisation is its portion of the window. -/
theorem sum_eq_portion (word : window < 4294967296) {util : ℕ} (le : util ≤ 1024) :
    u64 (util * window) / 1024 = portion 1024 window util := by
  have product : util * window ≤ 1024 * window := Nat.mul_le_mul_right window le
  have small : util * window < 18446744073709551616 := by omega
  rw [u64_of_lt small]
  rfl

end

section
variable {w : World} {y : GovSysctl} {c : Cpufreq} {cluster : LseSchedCluster} {policy : ℕ} {lg : LseGovPolicy}
  {window : ℕ}

theorem OneWindow.positive (one : OneWindow w c cluster policy lg window) : 0 < window :=
  Nat.lt_of_lt_of_le (by decide) one.fine

theorem rollover_policy (y : GovSysctl) (one : OneWindow w c cluster policy lg window) :
    (rolloverCall w y c cluster).1 = some policy := by
  obtain ⟨first,rest,found⟩ := List.exists_cons_of_ne_nil one.nonempty
  have member : first ∈ forEachCpu w.nrCpuIds (clusterOnline w cluster) := by simp [found]
  obtain ⟨owner,inside⟩ := one.inside first (mem_forEachCpu.mp member).2
  have here : cpumaskFirst w.nrCpuIds (clusterOnline w cluster) = first := by
    simp [cpumaskFirst,found]
  simp [rolloverCall,here,cpufreqCpuGetRaw,owner,inside]

theorem policyWindow (one : OneWindow w c cluster policy lg window) : lseGetPolicyWindowNs y w.track lg = window := by
  unfold lseGetPolicyWindowNs
  split_ifs
  · exact one.ravg
  · exact one.ravg
  · exact one.clusterWindow

/-- The sum of the rollover call is made with the one window. -/
theorem rollover_sum (one : OneWindow w c cluster policy lg window) :
    (rolloverCall w y c cluster).2 = clusterSum w y (clusterOnline w cluster) window := by
  have owner := rollover_policy y one
  simp only [rolloverCall] at owner
  simp only [rolloverCall,owner,rolloverWindow,Option.map_some,one.data,policyWindow one]

/-- The utilisation is recorded as it is computed. -/
theorem getNextFreq_recorded (w : World) (y : GovSysctl) (p : CpufreqPolicy) (lg : LseGovPolicy) (sum : ℕ) :
    (getNextFreq w y p lg sum).2.lastAggUtil = aggUtilOf y w.track lg sum := by
  unfold getNextFreq
  by_cases legacy : y.govLegacyFormulaEnable ≠ 0 <;> simp [legacy]

theorem rolloverUtil_recorded (w : World) (y : GovSysctl) (c : Cpufreq) (cluster : LseSchedCluster) (policy : ℕ)
    (lg : LseGovPolicy) :
    rolloverUtil w y c cluster policy lg = aggUtilOf y w.track lg (rolloverCall w y c cluster).2 :=
  getNextFreq_recorded w y (c.policy policy) lg _

theorem rolloverUtil_eq (one : OneWindow w c cluster policy lg window) :
    rolloverUtil w y c cluster policy lg = utilOf window (clusterSum w y (clusterOnline w cluster) window) := by
  have positive : max window 1 = window := max_eq_left one.positive
  rw [rolloverUtil_recorded,aggUtilOf,policyWindow one,positive,rollover_sum one]

theorem traverse_eq (one : OnePolicy w c cluster policy lg window) :
    traverseUtil w y (c.policy policy).cpus = utilOf window
      (if y.clusterAggMode = lseAggTop2Avg then
        u64 (((loads w cluster).foldl top2 (0,0)).1 +
          ((loads w cluster).foldl top2 (0,0)).2) / 2
      else (loads w cluster).foldl max 0) := by
  have positive : max window 1 = window := max_eq_left one.positive
  simp only [traverseUtil,one.ravg,positive,one.together]
  rfl

/-- Without averaging the two paths compute the same. -/
theorem max_equal (one : OnePolicy w c cluster policy lg window) (mode : y.clusterAggMode ≠ lseAggTop2Avg) :
    traverseUtil w y (c.policy policy).cpus = rolloverUtil w y c cluster policy lg := by
  rw [traverse_eq one,rolloverUtil_eq one.toOneWindow]
  simp [mode,clusterSum,loads]

theorem loads_le (one : OneWindow w c cluster policy lg window) :
    ∀ sum ∈ loads w cluster, sum ≤ window := by
  intro sum member
  obtain ⟨cpu,inside,rfl⟩ := List.mem_map.mp member
  exact one.sums cpu inside

theorem top2_le (one : OneWindow w c cluster policy lg window) :
    ((loads w cluster).foldl top2 (0,0)).1 ≤ window ∧
      ((loads w cluster).foldl top2 (0,0)).2 ≤ window := by
  have first : (ofList (loads w cluster)).first ≤ window := foldl_push_le _ (Nat.zero_le _) (loads_le one)
  have second := (ofList (loads w cluster)).ordered
  rw [foldl_top2_eq]
  exact ⟨first,second.trans first⟩

/-- The mean utilisation of a rollover, from the two largest sums. -/
theorem top2Avg_eq (one : OneWindow w c cluster policy lg window) :
    lseTop2AvgUtil w (clusterOnline w cluster) =
      if (loads w cluster).length = 1 then
        share 1024 window ((loads w cluster).foldl top2 (0,0)).1
      else (share 1024 window ((loads w cluster).foldl top2 (0,0)).1 +
        share 1024 window ((loads w cluster).foldl top2 (0,0)).2) / 2 := by
  have positive := one.positive
  have size : ∀ cpu ∈ forEachCpu w.nrCpuIds (clusterOnline w cluster), utilWindow w cpu = window := by
    intro cpu inside
    have prev := one.prev cpu inside
    simp only [utilWindow,prev]
    rw [if_pos positive.ne']
  have all : (forEachCpu w.nrCpuIds (clusterOnline w cluster)).filter (fun cpu => utilWindow w cpu ≠ 0) =
      forEachCpu w.nrCpuIds (clusterOnline w cluster) := by
    refine List.filter_eq_self.mpr ?_
    intro cpu inside
    simpa [size cpu inside] using positive.ne'
  have utils : (forEachCpu w.nrCpuIds (clusterOnline w cluster)).map
      (fun cpu => utilOf (utilWindow w cpu) (w.lrq cpu).prevRunnableSum) =
        (loads w cluster).map (share 1024 window) := by
    simp only [loads,List.map_map]
    refine List.map_congr_left ?_
    intro cpu inside
    rw [size cpu inside]
    exact utilOf_eq_share positive one.word (one.sums cpu inside)
  have nothing : share 1024 window 0 = 0 := by simp [share]
  have folded := foldl_top2_map (share_mono 1024 window) nothing (loads w cluster)
  have some_cpu : (forEachCpu w.nrCpuIds (clusterOnline w cluster)).length ≠ 0 :=
    fun zero => one.nonempty (List.length_eq_zero_iff.mp zero)
  have sum_small : share 1024 window ((loads w cluster).foldl top2 (0,0)).1 +
      share 1024 window ((loads w cluster).foldl top2 (0,0)).2 < 4294967296 := by
    have first := share_le_unit 1024 positive (top2_le one).1
    have second := share_le_unit 1024 positive (top2_le one).2
    omega
  simp only [lseTop2AvgUtil,all,utils,folded,some_cpu,if_false,u32_of_lt sum_small]
  simp [loads]

/-- CPUs with one load have the utilisation of that load, however many they are. -/
theorem top2Avg_const (one : OneWindow w c cluster policy lg window) {sum : ℕ}
    (all : ∀ other ∈ loads w cluster, other = sum) :
    lseTop2AvgUtil w (clusterOnline w cluster) = share 1024 window sum := by
  have nonempty : loads w cluster ≠ [] := by
    simpa [loads] using one.nonempty
  have settled : ∀ n, (List.replicate n sum).foldl top2 (sum,sum) = (sum,sum) := by
    intro n
    induction n with
    | zero => rfl
    | succ n ih => simpa [List.replicate_succ,top2] using ih
  rw [top2Avg_eq one,List.eq_replicate_of_mem all]
  rcases count : (loads w cluster).length with _ | _ | n
  · exact absurd (List.length_eq_zero_iff.mp count) nonempty
  · simp [top2]
  · have both : (List.replicate (n + 1 + 1) sum).foldl top2 (0,0) = (sum,sum) := by
      simpa [List.replicate_succ,top2] using settled n
    rw [both,List.length_replicate,if_neg (by omega),← Nat.two_mul]
    exact Nat.mul_div_cancel_left _ (by decide)

/-- What a rollover in the averaging mode comes back to. -/
theorem rolloverUtil_top2 (one : OneWindow w c cluster policy lg window) (mode : y.clusterAggMode = lseAggTop2Avg) :
    rolloverUtil w y c cluster policy lg =
      share 1024 window (portion 1024 window (lseTop2AvgUtil w (clusterOnline w cluster))) := by
  have positive := one.positive
  have util : lseTop2AvgUtil w (clusterOnline w cluster) ≤ 1024 := by
    have first := share_le_unit 1024 positive (top2_le one).1
    have second := share_le_unit 1024 positive (top2_le one).2
    rw [top2Avg_eq one]
    split_ifs <;> omega
  rw [rolloverUtil_eq one,clusterSum,if_pos mode,sum_eq_portion one.word util]
  exact utilOf_eq_share positive one.word (portion_le (by decide) util)

theorem traverse_top2 (one : OnePolicy w c cluster policy lg window) (mode : y.clusterAggMode = lseAggTop2Avg) :
    traverseUtil w y (c.policy policy).cpus =
      share 1024 window ((((loads w cluster).foldl top2 (0,0)).1 +
        ((loads w cluster).foldl top2 (0,0)).2) / 2) := by
  obtain ⟨first,second⟩ := top2_le one.toOneWindow
  have fine := one.fine
  have word := one.word
  have small : ((loads w cluster).foldl top2 (0,0)).1 +
      ((loads w cluster).foldl top2 (0,0)).2 < 18446744073709551616 := by omega
  rw [traverse_eq one,if_pos mode,u64_of_lt small]
  exact utilOf_eq_share (by omega) word (by omega)

end

/-! ### One CPU and several -/

section
variable {window : ℕ}

/-- With the mean taken on both sides, the roundings differ by at most two. -/
theorem top2_close (fine : 1048576 ≤ window) (a b : ℕ) :
    share 1024 window ((a + b) / 2) ≤
        share 1024 window (portion 1024 window ((share 1024 window a + share 1024 window b) / 2)) + 2 ∧
      share 1024 window (portion 1024 window ((share 1024 window a + share 1024 window b) / 2)) ≤
        share 1024 window ((a + b) / 2) + 2 := by
  have positive : 0 < window := by omega
  have above := share_half_le 1024 positive a b
  have below := half_le_share positive (show 1024 ≤ window by omega) a b
  rw [share_portion (by decide) (by omega)]
  split_ifs <;> omega

/-- With one sum, which only the tick halves, they differ by more unless it is negligible. -/
theorem single_close_iff (fine : 1048576 ≤ window) (sum : ℕ) :
    (share 1024 window (sum / 2) ≤ share 1024 window (portion 1024 window (share 1024 window sum)) + 2 ∧
      share 1024 window (portion 1024 window (share 1024 window sum)) ≤ share 1024 window (sum / 2) + 2) ↔
      Negligible window sum := by
  have positive : 0 < window := by omega
  have halved : 2 * share 1024 window (sum / 2) ≤ share 1024 window sum := by
    have low := (share_bounds 1024 positive (sum / 2)).1
    rw [le_share_iff positive,Nat.mul_assoc]
    omega
  have lost : share 1024 window sum ≤ 2 * share 1024 window (sum / 2) + 2 := by
    have high := (share_bounds 1024 positive (sum / 2)).2
    by_contra more
    have above := (le_share_iff positive).mp (not_le.mp more)
    have split : (2 * share 1024 window (sum / 2) + 2).succ * window =
        2 * ((share 1024 window (sum / 2) + 1) * window) + window := by
      rw [Nat.succ_mul]
      ring
    rw [split] at above
    omega
  have reached : ∀ k, k ≤ share 1024 window (sum / 2) ↔ k * window ≤ sum / 2 * 1024 := fun k => le_share_iff positive
  have two := reached 2
  have three := reached 3
  rw [share_portion (by decide) (by omega)]
  have util : sum * 1024 / window = share 1024 window sum := rfl
  simp only [Negligible,util]
  generalize share 1024 window (sum / 2) = tick at *
  generalize share 1024 window sum = u at *
  by_cases small : u ≤ 6
  · interval_cases u <;> split_ifs <;> omega
  · split_ifs <;> omega

end

/-- On every cluster that is one policy, tick and rollover see the same load, up to two,
    exactly in the mode without averaging, with two CPUs or more, or at a negligible load. -/
theorem loads_agree_iff (w : World) (y : GovSysctl) (c : Cpufreq) (cluster : LseSchedCluster) (policy : ℕ)
    (lg : LseGovPolicy) (window : ℕ) (one : OnePolicy w c cluster policy lg window) :
    LoadsAgree w y c cluster policy lg ↔
      y.clusterAggMode ≠ lseAggTop2Avg ∨ 2 ≤ (loads w cluster).length ∨
        ∀ sum ∈ loads w cluster, Negligible window sum := by
  by_cases mode : y.clusterAggMode = lseAggTop2Avg
  · have fine := one.fine
    simp only [LoadsAgree,rolloverUtil_top2 one.toOneWindow mode,traverse_top2 one mode,top2Avg_eq one.toOneWindow,
      mode,ne_eq,not_true_eq_false,false_or]
    have nonempty : loads w cluster ≠ [] := by
      simpa [loads] using one.nonempty
    rcases found : loads w cluster with _ | ⟨sum,_ | ⟨next,rest⟩⟩
    · exact absurd found nonempty
    · have single : [sum].foldl top2 (0,0) = (sum,0) := by simp [top2]
      simpa [single] using single_close_iff fine sum
    · refine iff_of_true ?_ (Or.inl (by simp))
      rw [if_neg (by simp)]
      exact top2_close fine _ _
  · refine iff_of_true ?_ (Or.inl mode)
    rw [LoadsAgree,max_equal one mode]
    omega

/-- A machine with one CPU, in one cluster and one policy, that had the given load. -/
def loaded (sum : ℕ) : World :=
  { World.boot 1 (fun _ => plainTask) with
    lrq := fun _ =>
      { windowStart := 0, latestClock := 0, prevWindowSize := 8000000, taskExecScale := 1024
        prevRunnableSum := sum, currRunnableSum := 0 } }

def ownRecord : LseGovPolicy := startedPolicy (loaded 0) fullPolicy 0 lseGovPolicyAlloc

def ownCpufreq : Cpufreq where
  clusters := [⟨0,fun cpu => cpu == 0⟩]
  topologyClusterId := fun _ => 0
  govFlag := fun _ => 1
  cpuData := fun _ => some 0
  policy := fun _ => fullPolicy
  governorData := fun _ => .lse ownRecord true
  updateUtilHook := fun cpu => cpu == 0

theorem loaded_onePolicy {sum : ℕ} (le : sum ≤ 8000000) :
    OnePolicy (loaded sum) ownCpufreq ⟨0,fun cpu => cpu == 0⟩ 0 ownRecord 8000000 := by
  have online : clusterOnline (loaded sum) ⟨0,fun cpu => cpu == 0⟩ = fun cpu => cpu == 0 := by
    funext cpu
    simp only [clusterOnline,loaded,World.boot]
    by_cases here : cpu = 0 <;> simp [here]
  refine ⟨⟨by decide,by decide,?_,?_,rfl,rfl,rfl,fun _ _ => rfl,fun _ _ => le⟩,online.symm⟩
  · rw [online]
    exact show forEachCpu 1 (fun cpu => cpu == 0) ≠ [] by decide
  · intro cpu here
    rw [online] at here
    exact ⟨rfl,here⟩

/-- At full load the tick sees half of what the rollover sees. -/
theorem loads_differ :
    OnePolicy (loaded 8000000) ownCpufreq ⟨0,fun cpu => cpu == 0⟩ 0 ownRecord 8000000 ∧
      ¬ LoadsAgree (loaded 8000000) govSysctlDefaults ownCpufreq ⟨0,fun cpu => cpu == 0⟩ 0 ownRecord :=
  ⟨loaded_onePolicy le_rfl,by decide +kernel⟩

theorem loads_agree_full :
    LoadsAgree (loaded 8000000) govSysctlDefaults ownCpufreq ⟨0,fun cpu => cpu == 0⟩ 0 ownRecord ↔
      govSysctlDefaults.clusterAggMode ≠ lseAggTop2Avg ∨ 2 ≤ (loads (loaded 8000000) ⟨0,fun cpu => cpu == 0⟩).length ∨
        ∀ sum ∈ loads (loaded 8000000) ⟨0,fun cpu => cpu == 0⟩, Negligible 8000000 sum :=
  loads_agree_iff _ _ _ _ _ _ _ (loaded_onePolicy le_rfl)

end LunarSched.ClusterLoad
