import LunarSched.ClusterTopology
import LunarSched.Governor
import Mathlib.Data.List.Pairwise

/-!
The cpufreq notifiers of `lse_sched_cluster.c`: what they do with the clusters and with
the blocks that they register with a policy's frequency constraints. Both walk the CPUs
of a mask, and take the CPUs of a cluster out of it once they have come to it.
-/
namespace LunarSched.CpufreqNotifier
open LunarSched.Kernel LunarSched.ListHead LunarSched.SchedCluster LunarSched.Governor

/-- `enum freq_qos_req_type`. -/
inductive FreqQosReqType where
  | min
  | max
  deriving DecidableEq, Repr

/-- `nb_min` or `nb_max` of a cluster. -/
structure NotifierBlock where
  cluster : ClusterPtr
  kind : FreqQosReqType
  deriving DecidableEq, Repr

inductive PolicyNotification where
  | createPolicy
  | removePolicy
  | other
  deriving DecidableEq, Repr

inductive TransitionNotification where
  | prechange
  | postchange
  deriving DecidableEq, Repr

/-- The clusters, and the blocks on the notifier lists of every policy's constraints. -/
structure Notified where
  clusters : Clusters
  registered : ℕ → FreqQosReqType → List NotifierBlock

def freqQosAddNotifier (s : Notified) (policy : ℕ) (type : FreqQosReqType) (nb : NotifierBlock) : Notified :=
  { s with registered := fun p k => if p = policy ∧ k = type then nb :: s.registered p k else s.registered p k }

def freqQosRemoveNotifier (s : Notified) (policy : ℕ) (type : FreqQosReqType) (nb : NotifierBlock) : Notified :=
  { s with registered := fun p k => if p = policy ∧ k = type then (s.registered p k).erase nb else s.registered p k }

/-- `cpufreq_update_min`, called through a cluster's block with an `unsigned long`. -/
def cpufreqUpdateMin (s : Clusters) (nb : NotifierBlock) (freq : ℕ) : Clusters :=
  s.setCluster nb.cluster (fun c => { c with minFreq := Machine.u32 freq })
def cpufreqUpdateMax (s : Clusters) (nb : NotifierBlock) (freq : ℕ) : Clusters :=
  s.setCluster nb.cluster (fun c => { c with maxFreq := Machine.u32 freq })

/-- The `notifier_call` of a block. -/
def notifierCall (freq : ℕ) (s : Clusters) (nb : NotifierBlock) : Clusters :=
  match nb.kind with
  | .min => cpufreqUpdateMin s nb freq
  | .max => cpufreqUpdateMax s nb freq

/-- A constraint of a policy changes: the kernel calls the blocks on its notifier list. -/
def freqQosNotify (s : Notified) (policy : ℕ) (type : FreqQosReqType) (freq : ℕ) : Notified :=
  { s with clusters := (s.registered policy type).foldl (notifierCall freq) s.clusters }

/-- The loop of both notifiers over the CPUs of a mask. `lookup` is how a CPU's cluster is
    read, and the result has what the variable `cluster` holds at the end. -/
def forEachCluster (lookup : Clusters → ℕ → ClusterPtr) (body : Clusters → ClusterPtr → Clusters) :
    List ℕ → Cpumask → ClusterPtr → Clusters → ClusterPtr × Clusters
  | [], _, cluster, s => (cluster,s)
  | i :: rest, mask, cluster, s =>
    if mask i then
      let cluster := lookup s i
      forEachCluster lookup body rest (fun cpu => mask cpu && !(s.cluster cluster).cpus cpu) cluster (body s cluster)
    else forEachCluster lookup body rest mask cluster s

/-- What the notifier of a new policy does with a cluster that it comes to first. -/
def initFreqDomain (policy : CpufreqPolicy) (s : Clusters) (cluster : ClusterPtr) : Clusters :=
  if (s.cluster cluster).freqInitDone then s
  else
    let s := { s with
      freqDomain := fun j => if (s.cluster cluster).cpus j then policy.relatedCpus else s.freqDomain j }
    s.setCluster cluster (fun c => { c with minFreq := policy.min, maxFreq := policy.max, freqInitDone := true })

def einval : ℤ := -22

/-- `cpufreq_notifier_policy`, when the notifier lists take every block. -/
def cpufreqNotifierPolicy (nrCpuIds : ℕ) (s : Notified) (val : PolicyNotification) (policy : ℕ) (data : CpufreqPolicy) :
    Notified × ℤ :=
  match val with
  | .createPolicy =>
    let (cluster,clusters) := forEachCluster (fun s i => s.rqCluster i) (initFreqDomain data) (List.range nrCpuIds)
      data.relatedCpus .null s.clusters
    let s := freqQosAddNotifier { s with clusters } policy .min ⟨cluster,.min⟩
    (freqQosAddNotifier s policy .max ⟨cluster,.max⟩,0)
  | .removePolicy =>
    -- `cluster` is still NULL here.
    let s := freqQosRemoveNotifier s policy .max ⟨.null,.max⟩
    (freqQosRemoveNotifier s policy .min ⟨.null,.min⟩,0)
  | .other => (s,einval)

def setCurFreq (newFreq : ℕ) (s : Clusters) (cluster : ClusterPtr) : Clusters :=
  s.setCluster cluster (fun c => { c with curFreq := newFreq })

/-- `cpufreq_notifier_trans` for a policy on the CPU. `lrq` is that CPU's in the whole loop. -/
def cpufreqNotifierTrans (nrCpuIds : ℕ) (s : Clusters) (val : TransitionNotification) (cpu newFreq : ℕ) : Option Clusters :=
  if val ≠ .postchange then some s
  else if newFreq = 0 then none
  else some (forEachCluster (fun s _ => s.rqCluster cpu) (setCurFreq newFreq) (List.range nrCpuIds) (s.freqDomain cpu)
    .null s).2

/-- Every possible CPU is in its cluster, and with it are those whose cluster it is, too. -/
structure Clustered (t : CpuTopology) (s : Clusters) : Prop where
  owned : ∀ cpu, t.possible cpu = true → (s.cluster (s.rqCluster cpu)).cpus cpu = true
  mask : ∀ cpu other, t.possible cpu = true → (s.cluster (s.rqCluster cpu)).cpus other = true →
    t.possible other = true ∧ s.rqCluster other = s.rqCluster cpu
  real : ∀ cpu, t.possible cpu = true → s.rqCluster cpu ≠ .null

/-- No policy has been created: every CPU is a frequency domain of its own. -/
structure Fresh (t : CpuTopology) (s : Clusters) : Prop where
  domain : ∀ cpu, t.possible cpu = true → s.freqDomain cpu = fun other => other == cpu
  undone : ∀ cpu, t.possible cpu = true → (s.cluster (s.rqCluster cpu)).freqInitDone = false

/-- What the loops read is the same. -/
structure SameClustering (s s' : Clusters) : Prop where
  rqCluster : s'.rqCluster = s.rqCluster
  cpus : ∀ c, (s'.cluster c).cpus = (s.cluster c).cpus

theorem SameClustering.refl (s : Clusters) : SameClustering s s := ⟨rfl,fun _ => rfl⟩

theorem SameClustering.trans {s s' s'' : Clusters} (first : SameClustering s s') (second : SameClustering s' s'') :
    SameClustering s s'' :=
  ⟨second.rqCluster.trans first.rqCluster,fun c => (second.cpus c).trans (first.cpus c)⟩

theorem Clustered.same {t : CpuTopology} {s s' : Clusters} (clustered : Clustered t s) (same : SameClustering s s') :
    Clustered t s' := by
  refine ⟨fun cpu possible => ?_,fun cpu other possible => ?_,fun cpu possible => ?_⟩
  · rw [same.rqCluster,same.cpus]
    exact clustered.owned cpu possible
  · rw [same.rqCluster,same.cpus]
    exact clustered.mask cpu other possible
  · rw [same.rqCluster]
    exact clustered.real cpu possible

/-! ### The loop -/

/-- The clusters to which the loop comes, in order. -/
def visited (lookup : ℕ → ClusterPtr) (cpusOf : ClusterPtr → Cpumask) : List ℕ → Cpumask → List ClusterPtr
  | [], _ => []
  | i :: rest, mask =>
    if mask i then lookup i :: visited lookup cpusOf rest (fun cpu => mask cpu && !cpusOf (lookup i) cpu)
    else visited lookup cpusOf rest mask

/-- The loop is a fold over the clusters to which it comes, when its body leaves alone
    what the loop itself reads. -/
theorem forEachCluster_eq (lookup : Clusters → ℕ → ClusterPtr) (body : Clusters → ClusterPtr → Clusters)
    (reads : ∀ s s', SameClustering s s' → lookup s' = lookup s) (keeps : ∀ s c, SameClustering s (body s c)) :
    ∀ (cpus : List ℕ) (mask : Cpumask) (cluster : ClusterPtr) (s : Clusters),
      forEachCluster lookup body cpus mask cluster s =
        ((visited (lookup s) (fun c => (s.cluster c).cpus) cpus mask).getLastD cluster,
          (visited (lookup s) (fun c => (s.cluster c).cpus) cpus mask).foldl body s) := by
  intro cpus
  induction cpus with
  | nil => exact fun _ _ _ => rfl
  | cons i rest ih =>
    intro mask cluster s
    rw [forEachCluster,visited]
    by_cases member : mask i = true
    · have same := keeps s (lookup s i)
      have cpus : (fun c => ((body s (lookup s i)).cluster c).cpus) = fun c => (s.cluster c).cpus := funext same.cpus
      rw [if_pos member,if_pos member,ih,reads _ _ same,cpus,List.foldl_cons,List.getLastD_cons]
    · rw [if_neg member,if_neg member,ih]

theorem foldl_same {body : Clusters → ClusterPtr → Clusters} (keeps : ∀ s c, SameClustering s (body s c))
    (cs : List ClusterPtr) (s : Clusters) : SameClustering s (cs.foldl body s) := by
  induction cs generalizing s with
  | nil => exact .refl s
  | cons c cs ih => exact (keeps s c).trans (ih _)

/-- The CPU is the lowest one of the mask in its cluster. -/
def Opens (s : Clusters) (mask : Cpumask) (i : ℕ) : Prop :=
  mask i = true ∧ ∀ j < i, mask j = true → s.rqCluster j ≠ s.rqCluster i

instance {s : Clusters} {mask : Cpumask} {i : ℕ} : Decidable (Opens s mask i) := inferInstanceAs (Decidable (_ ∧ ∀ j < i, _))

theorem exists_opens {s : Clusters} {mask : Cpumask} {i : ℕ} (member : mask i = true) :
    ∃ j ≤ i, Opens s mask j ∧ s.rqCluster j = s.rqCluster i := by
  exact FirstMembers.exists_first member

section
variable {t : CpuTopology} {s : Clusters} {mask : Cpumask}

theorem visited_from (clustered : Clustered t s) (inside : ∀ cpu, mask cpu = true → t.possible cpu = true) :
    ∀ {m k : ℕ} {left : Cpumask},
      (∀ cpu, left cpu = true ↔ mask cpu = true ∧ ∀ j < k, mask j = true → s.rqCluster j ≠ s.rqCluster cpu) →
      visited s.rqCluster (fun c => (s.cluster c).cpus) (List.range' k m) left =
        ((List.range' k m).filter (fun i => decide (Opens s mask i))).map s.rqCluster := by
  intro m
  induction m with
  | zero => exact fun _ => rfl
  | succ m ih =>
    intro k left spec
    have opens : left k = true ↔ Opens s mask k := spec k
    rw [List.range'_succ,visited,List.filter_cons]
    by_cases remains : left k = true
    · have opened := opens.mp remains
      rw [if_pos remains,if_pos (decide_eq_true opened),List.map_cons]
      refine congrArg (s.rqCluster k :: ·) (ih (fun cpu => ?_))
      rw [Bool.and_eq_true,spec cpu,Bool.not_eq_true',Bool.eq_false_iff]
      refine FirstMembers.left_take (fun i => mask i = true) s.rqCluster opened.1
        (fun member => ⟨fun into => ?_,fun same => ?_⟩)
      · exact (clustered.mask k cpu (inside k opened.1) into).2.symm
      · rw [same]
        exact clustered.owned cpu (inside cpu member)
    · have closed : ¬ Opens s mask k := fun opened => remains (opens.mpr opened)
      rw [if_neg remains,if_neg (by simpa using closed)]
      exact ih (fun cpu => (spec cpu).trans (FirstMembers.left_skip (fun i => mask i = true) s.rqCluster closed))

/-- The clusters to which the loop comes are those of the CPUs that open them. -/
theorem visited_eq (clustered : Clustered t s) (inside : ∀ cpu, mask cpu = true → t.possible cpu = true) (n : ℕ) :
    visited s.rqCluster (fun c => (s.cluster c).cpus) (List.range n) mask =
      ((List.range n).filter (fun i => decide (Opens s mask i))).map s.rqCluster := by
  rw [List.range_eq_range']
  exact visited_from clustered inside (fun _ => (FirstMembers.left_zero (fun i => mask i = true) s.rqCluster).symm)

theorem mem_visited (clustered : Clustered t s) (inside : ∀ cpu, mask cpu = true → t.possible cpu = true)
    {c : ClusterPtr} : c ∈ visited s.rqCluster (fun c => (s.cluster c).cpus) (List.range t.nrCpuIds) mask ↔
      ∃ cpu, mask cpu = true ∧ s.rqCluster cpu = c := by
  rw [visited_eq clustered inside,List.mem_map]
  simp only [List.mem_filter,List.mem_range,decide_eq_true_eq]
  constructor
  · rintro ⟨i,⟨_,opens⟩,same⟩
    exact ⟨i,opens.1,same⟩
  · rintro ⟨cpu,member,rfl⟩
    obtain ⟨i,le,opens,same⟩ := exists_opens (s := s) member
    exact ⟨i,⟨le.trans_lt (t.bounded cpu (inside cpu member)),opens⟩,same⟩

end

theorem initFreqDomain_same (policy : CpufreqPolicy) (s : Clusters) (c : ClusterPtr) :
    SameClustering s (initFreqDomain policy s c) := by
  unfold initFreqDomain
  split
  · exact .refl s
  · refine ⟨rfl,fun d => ?_⟩
    by_cases same : d = c
    · subst same
      simp [Clusters.setCluster]
    · simp [Clusters.setCluster,same]

theorem initFreqDomain_done (policy : CpufreqPolicy) (s : Clusters) (c d : ClusterPtr) :
    ((initFreqDomain policy s c).cluster d).freqInitDone = ((s.cluster d).freqInitDone || decide (d = c)) := by
  unfold initFreqDomain
  by_cases same : d = c
  · subst same
    split
    · rename_i done
      simp [done]
    · simp [Clusters.setCluster]
  · split
    · simp [same]
    · simp [Clusters.setCluster,same]

theorem initFreqDomain_domain (policy : CpufreqPolicy) (s : Clusters) (c : ClusterPtr) (cpu : ℕ) :
    (initFreqDomain policy s c).freqDomain cpu =
      if (s.cluster c).freqInitDone = false ∧ (s.cluster c).cpus cpu = true then policy.relatedCpus
      else s.freqDomain cpu := by
  unfold initFreqDomain
  split
  · rename_i done
    rw [if_neg (by simp [done])]
  · rename_i undone
    simp [Clusters.setCluster,Bool.eq_false_iff.mpr undone]

/-- What the notifier of a new policy leaves behind: the policy's CPUs are the domain of
    the clusters that had not been initialised, and now they are. -/
theorem initFreqDomains (policy : CpufreqPolicy) (cs : List ClusterPtr) (s : Clusters) :
    (∀ cpu, (cs.foldl (initFreqDomain policy) s).freqDomain cpu =
      if ∃ c ∈ cs, (s.cluster c).freqInitDone = false ∧ (s.cluster c).cpus cpu = true then policy.relatedCpus
      else s.freqDomain cpu) ∧
    ∀ c, ((cs.foldl (initFreqDomain policy) s).cluster c).freqInitDone =
      ((s.cluster c).freqInitDone || decide (c ∈ cs)) := by
  induction cs generalizing s with
  | nil => simp
  | cons c cs ih =>
    obtain ⟨domain,done⟩ := ih (initFreqDomain policy s c)
    refine ⟨fun cpu => ?_,fun d => ?_⟩
    · rw [List.foldl_cons,domain,initFreqDomain_domain]
      simp only [initFreqDomain_done,(initFreqDomain_same policy s c).cpus,Bool.or_eq_false_iff,decide_eq_false_iff_not]
      by_cases first : (s.cluster c).freqInitDone = false ∧ (s.cluster c).cpus cpu = true
      · rw [if_pos first,ite_self,if_pos ⟨c,List.mem_cons_self,first⟩]
      · rw [if_neg first]
        refine if_congr ⟨?_,?_⟩ rfl rfl
        · rintro ⟨d,member,⟨undone,_⟩,into⟩
          exact ⟨d,List.mem_cons_of_mem _ member,undone,into⟩
        · rintro ⟨d,member,undone,into⟩
          have other : d ≠ c := fun same => first (same ▸ ⟨undone,into⟩)
          exact ⟨d,(List.mem_cons.mp member).resolve_left other,⟨undone,other⟩,into⟩
    · rw [List.foldl_cons,done,initFreqDomain_done,Bool.or_assoc]
      simp [Bool.decide_or]

section
variable {t : CpuTopology}

theorem topology_clustered {s : Clusters} (correct : ClusterTopology.TopologyCorrect t s)
    (real : ∀ cpu, t.possible cpu = true → s.rqCluster cpu ≠ .null) : Clustered t s := by
  refine ⟨fun cpu possible => (correct.owned cpu possible).2,fun cpu other possible into => ?_,real⟩
  obtain ⟨member,_⟩ := correct.owned cpu possible
  have possibleOther := (correct.covering other).mp ⟨_,member,into⟩
  obtain ⟨memberOther,intoOther⟩ := correct.owned other possibleOther
  refine ⟨possibleOther,?_⟩
  by_contra different
  have : Std.Symm (fun c d => ∀ cpu, ¬ ((s.cluster c).cpus cpu = true ∧ (s.cluster d).cpus cpu = true)) :=
    ⟨fun c d away cpu both => away cpu both.symm⟩
  exact correct.disjoint.forall memberOther member different other ⟨intoOther,into⟩

theorem published_fresh {cpus : Cpumask} {s s' : Clusters} {ys : List ClusterPtr}
    (building : ClusterTopology.Building t t.nrCpuIds cpus s ys) (published : ClusterTopology.Published t s ys s') :
    Fresh t s' := by
  refine ⟨fun cpu possible => ?_,fun cpu possible => ?_⟩
  · rw [published.freqDomain]
    exact building.domain cpu possible
  · obtain ⟨member,_⟩ := ClusterTopology.building_owned building possible
    obtain ⟨i,_,same⟩ := ClusterTopology.building_leader building member
    rw [published.rqCluster,published.unpublished,same]
    rfl

/-- The clusters are ready for the notifiers when they have been discovered. -/
theorem discovered_ready (valid : ∀ cpu, t.possible cpu = true → 0 ≤ t.clusterId cpu)
    (few : (ClusterTopology.idsBelow t t.nrCpuIds).length ≤ 4) :
    ∃ s, lseSchedClusterInit t = some s ∧ Clustered t s ∧ Fresh t s := by
  obtain ⟨cpus,s,ys,building,same⟩ := ClusterTopology.discovery_completes valid few
  have published := ClusterTopology.publish_published building
  have correct := ClusterTopology.published_correct building published (fun _ => ClusterTopology.known_of_valid valid)
  refine ⟨_,same,topology_clustered correct (fun cpu possible => ?_),published_fresh building published⟩
  obtain ⟨n,_,alloc⟩ := ClusterTopology.building_alloc building (ClusterTopology.building_owned building possible).1
  rw [published.rqCluster,alloc]
  simp

end

end LunarSched.CpufreqNotifier
