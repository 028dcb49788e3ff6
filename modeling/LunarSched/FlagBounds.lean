import LunarSched.ClusterTopology
import LunarSched.FreqDomain
import LunarSched.RolloverReach

/-!
The indices of `gov_flag`. The array has an entry for each of at most four clusters, but
its index is the id that the topology gives the cluster, which can be any number. A start
and a stop do not use an id from 4 on; a rollover reads the flag of every cluster that it
gets to. So the accesses stay in bounds on a topology, over every history, exactly when all
its ids are below 4 or the discovery has fallen back to the one cluster with id 0
(`accesses_in_bounds_iff`).
-/
namespace LunarSched.FlagBounds
open LunarSched.Machine LunarSched.Kernel LunarSched.Governor LunarSched.Runs
open LunarSched.RolloverPolicies (Machine PolicyEvent policyStep isStarted Admitted firstOnline setMember_frame)
open LunarSched.RolloverReach (upTo returns irqWorkCalls firstPolicy)
open LunarSched.SchedCluster (CpuTopology Clusters ClusterPtr lseSchedClusterInit forEachLseCluster addCluster discover
  getPossibleSiblings cleanupClusters cleanupClusters_cleanedUp initClusterStatic mem_possibleSiblings)
open LunarSched.ClusterTopology

section
variable {t : CpuTopology}

/-- A fifth cluster is a `BUG`. -/
theorem addCluster_bug {k : ℕ} {cpus : Cpumask} {s : Clusters} {ys : List ClusterPtr} (building : Building t k cpus s ys)
    (full : 4 ≤ (leaders t k).length) (cluster : Cpumask) (head : ClusterPtr) : addCluster t s cluster head = none := by
  obtain ⟨all,each⟩ := building_length building
  refine if_pos ?_
  simp only [SchedCluster.maxLseClusters,building.count]
  omega

/-- The loop comes to the fifth leader. -/
theorem discover_bug : ∀ {m k : ℕ} {cpus : Cpumask} {s : Clusters} {ys : List ClusterPtr} (rest : List ℕ),
    Building t k cpus s ys → (∀ cpu < k + m, t.possible cpu = true → t.clusterId cpu ≠ -1) →
    (leaders t k).length ≤ 4 → 4 < (leaders t (k + m)).length →
      discover t (List.range' k m ++ rest) cpus s = none := by
  intro m
  induction m with
  | zero =>
    intro k cpus s ys rest _ _ few many
    exact absurd many (not_lt.mpr few)
  | succ m ih =>
    intro k cpus s ys rest building known few many
    have shift : k + 1 + m = k + (m + 1) := by omega
    rw [List.range'_succ,List.cons_append,discover]
    by_cases remains : cpus k = true
    · obtain ⟨possible,leads⟩ := (building_next building).mp remains
      have set := known k (by omega) possible
      have sibling : k ∈ forEachCpu t.nrCpuIds (getPossibleSiblings t k) :=
        mem_forEachCpu.mpr ⟨t.bounded k possible,(mem_possibleSiblings set).mpr ⟨possible,rfl⟩⟩
      have filled : (forEachCpu t.nrCpuIds (getPossibleSiblings t k)).isEmpty = false :=
        List.isEmpty_eq_false_iff.mpr (List.ne_nil_of_mem sibling)
      rw [if_pos remains]
      simp only [filled,Bool.false_eq_true,if_false]
      by_cases room : (leaders t (k + 1)).length ≤ 4
      · obtain ⟨s',ys',added,next⟩ := building_add building remains set room
        rw [added,Option.bind_some]
        exact ih rest next (shift ▸ known) room (shift ▸ many)
      · rw [leaders_succ_of_leads ⟨possible,leads⟩,List.length_append,List.length_singleton] at room
        rw [addCluster_bug building (by omega),Option.bind_none]
    · have skipped : cpus k = false := Bool.eq_false_iff.mpr remains
      have not : ¬ Leads t k := fun leads => remains ((building_next building).mpr leads)
      rw [if_neg remains]
      exact ih rest (building_skip building skipped) (shift ▸ known) (leaders_succ_of_not not ▸ few) (shift ▸ many)

/-- No possible CPU below this one is without an id. -/
def Known (t : CpuTopology) (k : ℕ) : Prop := ∀ cpu < k, t.possible cpu = true → t.clusterId cpu ≠ -1

theorem leaders_few {s : Clusters} (accepted : lseSchedClusterInit t = some s) {k : ℕ} (le : k ≤ t.nrCpuIds)
    (known : Known t k) : (leaders t k).length ≤ 4 := by
  by_contra many
  have split : List.range t.nrCpuIds = List.range' 0 k ++ List.range' k (t.nrCpuIds - k) := by
    rw [List.range_eq_range']
    have joined := List.range'_append_1 (s := 0) (m := k) (n := t.nrCpuIds - k)
    rw [Nat.zero_add,Nat.add_sub_cancel' le] at joined
    exact joined.symm
  have bug : discover t (List.range t.nrCpuIds) t.possible (prepared t) = none := by
    rw [split]
    refine discover_bug _ (prepared_building t) ?_ ?_ ?_
    · rw [Nat.zero_add]
      exact known
    · simp [leaders]
    · rw [Nat.zero_add]
      exact not_le.mp many
  have same : (discover t (List.range t.nrCpuIds) t.possible (prepared t)).map _ = some s := accepted
  rw [bug] at same
  cases same

/-- There are no more ids than leaders. -/
theorem idsBelow_length_le (t : CpuTopology) (k : ℕ) : (idsBelow t k).length ≤ (leaders t k).length := by
  have inside : idsBelow t k ⊆ (leaders t k).map t.clusterId := by
    intro id member
    simp only [idsBelow,List.mem_dedup,List.mem_filter,List.mem_map,mem_forEachCpu] at member
    obtain ⟨⟨cpu,⟨below,possible⟩,rfl⟩,_⟩ := member
    obtain ⟨i,le,leads,same⟩ := leads_of_least possible
    exact List.mem_map.mpr ⟨i,mem_leaders.mpr ⟨le.trans_lt below,leads⟩,same⟩
  have count := (List.Nodup.subperm (List.nodup_dedup _) inside).length_le
  rwa [List.length_map] at count

/-- What an accepted topology has given: the classes of the CPUs, or the one cluster with
    the id 0. -/
theorem accepted_cases {s : Clusters} (accepted : lseSchedClusterInit t = some s) :
    ((∀ cpu, t.possible cpu = true → t.clusterId cpu ≠ -1) ∧ TopologyCorrect t s) ∨
      ((∃ cpu, t.possible cpu = true ∧ t.clusterId cpu = -1) ∧ FallbackIntact t s ∧ (s.cluster .initCluster).id = 0) := by
  by_cases found : ∃ f, t.possible f = true ∧ t.clusterId f = -1
  · obtain ⟨possible,missing⟩ := Nat.find_spec found
    have known : Known t (Nat.find found) :=
      fun cpu less possibleCpu missingCpu => Nat.find_min found less ⟨possibleCpu,missingCpu⟩
    have few := leaders_few accepted (t.bounded _ possible).le known
    obtain ⟨cpus,b,ys,building,same⟩ := discovery_gives_up possible missing known ((idsBelow_length_le t _).trans few)
    obtain rfl : cleanupClusters b .newHead = s := Option.some.inj (same.symm.trans accepted)
    refine Or.inr ⟨found,cleaned_fallback building,?_⟩
    rw [(cleanupClusters_cleanedUp building.ring (building_length building).1.le).cluster,building.static]
    rfl
  · have known : ∀ cpu, t.possible cpu = true → t.clusterId cpu ≠ -1 :=
      fun cpu possible missing => found ⟨cpu,possible,missing⟩
    have valid : ∀ cpu, t.possible cpu = true → 0 ≤ t.clusterId cpu := by
      intro cpu possible
      have set := known cpu possible
      have low := t.known cpu
      omega
    have few := leaders_few accepted le_rfl (fun cpu _ => known cpu)
    obtain ⟨cpus,b,ys,building,same⟩ := discovery_completes valid ((idsBelow_length_le t _).trans few)
    obtain rfl : SchedCluster.publish t b = s := Option.some.inj (same.symm.trans accepted)
    exact Or.inl ⟨known,published_correct building (publish_published building) known⟩

end

/-! ### Accesses -/

/-- The clusters as the governor finds them. No cluster that the discovery leaves has a
    negative id. -/
def clustersOf (s : Clusters) : List LseSchedCluster :=
  (forEachLseCluster s).map (fun c => ⟨(s.cluster c).id.toNat,(s.cluster c).cpus⟩)

/-- A machine on which the clusters have been discovered and the governor has not been
    started. -/
structure Boots (t : CpuTopology) (s : Clusters) (m : Machine) : Prop where
  fresh : RolloverReach.Fresh m
  cpus : m.world.nrCpuIds = t.nrCpuIds
  clusters : m.cpufreq.clusters = clustersOf s
  topology : m.cpufreq.topologyClusterId = fun cpu => u32OfInt (t.clusterId cpu)

/-- The indices at which starting or stopping the governor on a policy writes. -/
def startStopIndices (m : Machine) (policy : ℕ) : List ℕ :=
  if policyClusterId m.world m.cpufreq policy < maxLseClusters then [policyClusterId m.world m.cpufreq policy] else []

/-- The clusters that a rollover gets to: it does not get past one that is flagged and for
    which the update does not return. -/
def visitedClusters (m : Machine) : List LseSchedCluster :=
  upTo (fun cluster => decide (m.cpufreq.govFlag cluster.id ≠ 0) && !returns m.cpufreq (firstPolicy m cluster))
    m.cpufreq.clusters

/-- The indices at which a rollover on the CPU reads. -/
def updateFreqIndices (m : Machine) (cpu : ℕ) : List ℕ :=
  if m.cpufreq.updateUtilHook cpu = true then (visitedClusters m).map LseSchedCluster.id else []

/-- Whatever is done next accesses only entries of the array. -/
structure AccessesInBounds (m : Machine) : Prop where
  startStop : ∀ policy, ∀ i ∈ startStopIndices m policy, i < maxLseClusters
  updateFreq : ∀ cpu, ∀ i ∈ updateFreqIndices m cpu, i < maxLseClusters

/-- Every id of a possible CPU has an entry, or the ids are not used. -/
def IdsFit (t : CpuTopology) : Prop :=
  (∃ cpu, t.possible cpu = true ∧ t.clusterId cpu = -1) ∨ ∀ cpu, t.possible cpu = true → t.clusterId cpu < maxLseClusters

section
variable {α : Type*}

theorem mem_upTo {stops : α → Bool} {a : α} {l : List α} (member : a ∈ upTo stops l) : a ∈ l := by
  induction l with
  | nil => exact member
  | cons b rest ih =>
    rcases List.mem_cons.mp member with rfl | later
    · exact List.mem_cons_self
    · split_ifs at later
      · cases later
      · exact List.mem_cons_of_mem _ (ih later)

theorem upTo_all {stops : α → Bool} {l : List α} (goes_on : ∀ a ∈ l, stops a = false) : upTo stops l = l := by
  induction l with
  | nil => rfl
  | cons b rest ih =>
    obtain ⟨first,later⟩ := List.forall_mem_cons.mp goes_on
    rw [upTo,first,ih later]
    rfl

end

section
variable {m : Machine}

theorem returns_of_started {c : Cpufreq} {policy : ℕ} (started : isStarted (c.governorData policy) = true) :
    returns c (some policy) = true := by
  cases data : c.governorData policy with
  | lse lg on => simp [returns,data]
  | none => simp [isStarted,data] at started
  | other windowWord => simp [isStarted,data] at started

/-- Nothing that is done changes the clusters. -/
theorem policyStep_clusters (m : Machine) (e : PolicyEvent) :
    (policyStep m e).cpufreq.clusters = m.cpufreq.clusters := by
  cases e with
  | start policy =>
    simp only [policyStep]
    split <;> simp [lseGovStart]
  | stop policy =>
    simp only [policyStep]
    split <;> simp [lseGovStop]
  | leave cpu => exact (setMember_frame _ _ _).1
  | join cpu => exact (setMember_frame _ _ _).1
  | assign policy data => rfl
  | offline cpu => rfl
  | online cpu => rfl

theorem inBounds_of_ids (ids : ∀ cluster ∈ m.cpufreq.clusters, cluster.id < maxLseClusters) : AccessesInBounds m := by
  refine ⟨fun policy i member => ?_,fun cpu i member => ?_⟩
  · unfold startStopIndices at member
    split_ifs at member with inside
    · rw [List.mem_singleton.mp member]
      exact inside
    · cases member
  · unfold updateFreqIndices at member
    split_ifs at member
    · obtain ⟨cluster,visited,rfl⟩ := List.mem_map.mp member
      exact ids cluster (mem_upTo visited)
    · cases member

end

section
variable {t : CpuTopology} {s : Clusters}

/-- The ids that a rollover can read are those of the topology, or 0. -/
theorem clustersOf_fits (accepted : lseSchedClusterInit t = some s) (fits : IdsFit t) :
    ∀ cluster ∈ clustersOf s, cluster.id < maxLseClusters := by
  intro cluster member
  obtain ⟨c,listed,rfl⟩ := List.mem_map.mp member
  rcases accepted_cases accepted with ⟨known,correct⟩ | ⟨_,fallback,zero⟩
  · obtain ⟨cpu,inside⟩ := correct.nonempty c listed
    have possible := (correct.covering cpu).mp ⟨c,listed,inside⟩
    have id := correct.ids c listed cpu inside
    rcases fits with ⟨other,isPossible,missing⟩ | below
    · exact absurd missing (known other isPossible)
    · have small := below cpu possible
      simp only [maxLseClusters] at small ⊢
      omega
  · rw [fallback.visited,List.mem_singleton] at listed
    subst listed
    simp [zero,maxLseClusters]

/-- A machine whose possible CPUs are all online and in one policy. -/
def onePolicy (t : CpuTopology) (s : Clusters) : Machine where
  world := { World.boot t.nrCpuIds (fun _ => plainTask) with possible := t.possible, online := t.possible }
  cpufreq :=
    { clusters := clustersOf s
      topologyClusterId := fun cpu => u32OfInt (t.clusterId cpu)
      govFlag := fun _ => 0
      cpuData := fun cpu => if t.possible cpu then some 0 else none
      policy := fun policy => { fullPolicy with
        cpus := fun cpu => decide (policy = 0) && t.possible cpu
        relatedCpus := fun cpu => decide (policy = 0) && t.possible cpu }
      governorData := fun _ => .lse lseGovPolicyAlloc false
      updateUtilHook := fun _ => false }

theorem onePolicy_boots (t : CpuTopology) (s : Clusters) : Boots t s (onePolicy t s) := by
  refine ⟨⟨?_,fun _ => rfl,fun _ => rfl,fun _ _ => rfl⟩,rfl,rfl,rfl⟩
  intro policy cpu inside
  simp only [onePolicy,Bool.and_eq_true,decide_eq_true_eq] at inside
  simp [onePolicy,inside.1,inside.2]

theorem onePolicy_admitted (t : CpuTopology) (s : Clusters) : Along policyStep Admitted (onePolicy t s) [.start 0] :=
  ⟨⟨lseGovPolicyAlloc,rfl⟩,trivial⟩

/-- The first CPU of a cluster is in the policy. -/
theorem onePolicy_first (correct : TopologyCorrect t s) {c : ClusterPtr} (listed : c ∈ forEachLseCluster s) {cpu : ℕ}
    (inside : (s.cluster c).cpus cpu = true) :
    cpufreqCpuGetRaw (onePolicy t s).cpufreq (firstOnline (onePolicy t s) ⟨(s.cluster c).id.toNat,(s.cluster c).cpus⟩) =
      some 0 := by
  have possible := (correct.covering cpu).mp ⟨c,listed,inside⟩
  obtain ⟨_,member,lower⟩ := cpumaskFirst_spec (onePolicy t s).world.nrCpuIds
    (clusterOnline (onePolicy t s).world ⟨(s.cluster c).id.toNat,(s.cluster c).cpus⟩)
  have below := t.bounded cpu possible
  have found : firstOnline (onePolicy t s) ⟨(s.cluster c).id.toNat,(s.cluster c).cpus⟩ ≤ cpu := by
    by_contra above
    have outside := lower cpu (not_le.mp above)
    simp [clusterOnline,onePolicy,inside,possible] at outside
  have online := member (found.trans_lt below)
  simp only [clusterOnline,onePolicy,Bool.and_eq_true] at online
  simp [cpufreqCpuGetRaw,onePolicy,firstOnline,online.2]

/-- Once the governor is started on the policy, a rollover on each of its CPUs reads the
    flag of every cluster. -/
theorem onePolicy_reads (correct : TopologyCorrect t s) {cpu : ℕ} (possible : t.possible cpu = true) :
    (t.clusterId cpu).toNat ∈ updateFreqIndices (exec policyStep (onePolicy t s) [.start 0]) cpu := by
  have switched := RolloverPolicies.start_switched (onePolicy_admitted t s).1
  rw [exec_cons,exec_nil]
  have hooked : (policyStep (onePolicy t s) (.start 0)).cpufreq.updateUtilHook cpu = true := by
    simp only [policyStep,onePolicy,lseGovStart,setGovFlag]
    split_ifs <;> simp [possible]
  have all : visitedClusters (policyStep (onePolicy t s) (.start 0)) = clustersOf s := by
    rw [visitedClusters,switched.clusters]
    refine upTo_all (fun cluster member => ?_)
    obtain ⟨c,listed,rfl⟩ := List.mem_map.mp member
    obtain ⟨other,inside⟩ := correct.nonempty c listed
    have first := onePolicy_first correct listed inside
    rw [firstPolicy,switched.raw,RolloverPolicies.switched_first switched,first,
      returns_of_started (by rw [switched.data,if_pos rfl])]
    simp
  obtain ⟨c,listed,inside⟩ := (correct.covering cpu).mpr possible
  rw [updateFreqIndices,if_pos hooked,all]
  refine List.mem_map.mpr ⟨_,List.mem_map_of_mem listed,?_⟩
  rw [correct.ids c listed cpu inside]

end

/-- On every topology that discovery accepts, whatever is started and stopped and whatever
    is plugged, all accesses to the flags are in bounds exactly when the ids fit. -/
theorem accesses_in_bounds_iff (t : CpuTopology) (s : Clusters) (accepted : lseSchedClusterInit t = some s) :
    (∀ m, Boots t s m → ∀ history, Along policyStep Admitted m history →
        AccessesInBounds (exec policyStep m history)) ↔ IdsFit t := by
  constructor
  · intro bounded
    rcases accepted_cases accepted with ⟨known,correct⟩ | ⟨unknown,_⟩
    · refine Or.inr (fun cpu possible => ?_)
      have read := (bounded _ (onePolicy_boots t s) _ (onePolicy_admitted t s)).updateFreq cpu _
        (onePolicy_reads correct possible)
      simp only [maxLseClusters] at read ⊢
      omega
    · exact Or.inl unknown
  · intro fits m boots history _
    have clusters : (exec policyStep m history).cpufreq.clusters = clustersOf s :=
      exec_invariant (fun m => m.cpufreq.clusters = clustersOf s)
        (fun m e held (_ : True) => (policyStep_clusters m e).trans held) boots.clusters along_true
    refine inBounds_of_ids ?_
    rw [clusters]
    exact clustersOf_fits accepted fits

theorem valid_accepted {t : CpuTopology} (valid : ∀ cpu, t.possible cpu = true → 0 ≤ t.clusterId cpu)
    (few : (idsBelow t t.nrCpuIds).length ≤ 4) : ∃ s, lseSchedClusterInit t = some s ∧ TopologyCorrect t s := by
  obtain ⟨_,s,_,building,same⟩ := discovery_completes valid few
  exact ⟨_,same,published_correct building (publish_published building) (fun _ => known_of_valid valid)⟩

/-- Two CPUs in one cluster, whose id is 7. -/
def sevens : CpuTopology := FreqDomain.twoCpus (fun _ => 7) (fun _ => by decide)

theorem sevens_accepted : ∃ s, lseSchedClusterInit sevens = some s ∧ TopologyCorrect sevens s :=
  valid_accepted (fun _ _ => Int.natCast_nonneg 7) (by decide +kernel)

/-- The governor is started on the two CPUs; the next rollover reads `gov_flag[7]`. -/
theorem flag_out_of_bounds :
    ∃ s, lseSchedClusterInit sevens = some s ∧ Boots sevens s (onePolicy sevens s) ∧
      Along policyStep Admitted (onePolicy sevens s) [.start 0] ∧
      7 ∈ updateFreqIndices (exec policyStep (onePolicy sevens s) [.start 0]) 0 ∧
      ¬ AccessesInBounds (exec policyStep (onePolicy sevens s) [.start 0]) := by
  obtain ⟨s,accepted,correct⟩ := sevens_accepted
  have read : 7 ∈ updateFreqIndices (exec policyStep (onePolicy sevens s) [.start 0]) 0 := onePolicy_reads correct rfl
  refine ⟨s,accepted,onePolicy_boots _ _,onePolicy_admitted _ _,read,fun bounded => ?_⟩
  exact absurd (bounded.updateFreq 0 7 read) (by decide)

/-- Two CPUs in one cluster with the highest id that has a flag. -/
def threes : CpuTopology := FreqDomain.twoCpus (fun _ => 3) (fun _ => by decide)

theorem accesses_in_bounds_threes :
    ∃ s, lseSchedClusterInit threes = some s ∧ ∀ m, Boots threes s m → ∀ history, Along policyStep Admitted m history →
      AccessesInBounds (exec policyStep m history) := by
  obtain ⟨s,accepted,_⟩ := valid_accepted (t := threes) (fun _ _ => Int.natCast_nonneg 3) (by decide +kernel)
  exact ⟨s,accepted,(accesses_in_bounds_iff threes s accepted).mpr (Or.inr (fun _ _ => show (3 : ℤ) < maxLseClusters by decide))⟩

end LunarSched.FlagBounds
