import LunarSched.Governor
import LunarSched.Runs

/-!
The policies that a rollover updates. For every cluster whose flag is set a rollover
takes the policy of the cluster's first online CPU. Starting the governor on one
policy sets the flag; hotplug and other governors change what that first CPU and its
policy are without touching it. Along a run every rollover updates only policies on
which this governor is started exactly when no start, stop or hotplug step leaves a
flagged cluster without such a policy at its first online CPU
(`rollover_policies_iff`).
-/
namespace LunarSched.RolloverPolicies
open LunarSched.Kernel LunarSched.Governor LunarSched.Runs

/-- The CPUs that are online, and the policies. -/
structure Machine where
  world : World
  cpufreq : Cpufreq

def isStarted : GovernorData → Bool
  | .lse _ started => started
  | _ => false

inductive PolicyEvent where
  | start (policy : ℕ)
  | stop (policy : ℕ)
  /-- Another governor or none is set for the policy, or this governor is initialised for it. -/
  | assign (policy : ℕ) (data : GovernorData)
  /-- The CPU leaves its policy's `cpus`. -/
  | leave (cpu : ℕ)
  | join (cpu : ℕ)
  | offline (cpu : ℕ)
  | online (cpu : ℕ)

def setCpus (c : Cpufreq) (policy : ℕ) (cpus : Cpumask) : Cpufreq :=
  { c with policy := Function.update c.policy policy { c.policy policy with cpus := cpus } }

/-- The CPU enters or leaves the `cpus` of its policy. -/
def setMember (c : Cpufreq) (cpu : ℕ) (member : Bool) : Cpufreq :=
  match c.cpuData cpu with
  | some policy => setCpus c policy (Function.update (c.policy policy).cpus cpu member)
  | none => c

def setOnline (w : World) (cpu : ℕ) (online : Bool) : World :=
  { w with online := Function.update w.online cpu online }

def policyStep (s : Machine) : PolicyEvent → Machine
  | .start policy =>
    match s.cpufreq.governorData policy with
    | .lse lg _ => { s with cpufreq := lseGovStart s.world s.cpufreq policy lg }
    | _ => s
  | .stop policy =>
    match s.cpufreq.governorData policy with
    | .lse lg _ => { s with cpufreq := lseGovStop s.world s.cpufreq policy lg }
    | _ => s
  | .assign policy data =>
    { s with cpufreq := { s.cpufreq with governorData := Function.update s.cpufreq.governorData policy data } }
  | .leave cpu => { s with cpufreq := setMember s.cpufreq cpu false }
  | .join cpu => { s with cpufreq := setMember s.cpufreq cpu true }
  | .offline cpu => { s with world := setOnline s.world cpu false }
  | .online cpu => { s with world := setOnline s.world cpu true }

/-- cpufreq starts what is initialised and stops what is started, changes the governor
    of a policy only while this one is not started on it, and takes a CPU out of its
    policy before it goes offline. -/
def Admitted (s : Machine) : PolicyEvent → Prop
  | .start policy => ∃ lg, s.cpufreq.governorData policy = .lse lg false
  | .stop policy => ∃ lg, s.cpufreq.governorData policy = .lse lg true
  | .assign policy data => isStarted (s.cpufreq.governorData policy) = false ∧ isStarted data = false
  | .offline cpu => cpufreqCpuGetRaw s.cpufreq cpu = none
  | _ => True

def firstOnline (s : Machine) (cluster : LseSchedCluster) : ℕ :=
  cpumaskFirst s.world.nrCpuIds (clusterOnline s.world cluster)

/-- The CPU has a policy on which the governor is started. -/
def Served (s : Machine) (cpu : ℕ) : Prop :=
  ∃ policy, cpufreqCpuGetRaw s.cpufreq cpu = some policy ∧ isStarted (s.cpufreq.governorData policy) = true

/-- Every update that a rollover would make now is of a policy on which the governor is
    started. -/
def Owned (s : Machine) : Prop :=
  ∀ y, ∀ call ∈ lsegovUpdateFreq s.world y s.cpufreq,
    ∃ policy, call.1 = some policy ∧ isStarted (s.cpufreq.governorData policy) = true

/-- What each event must meet: a start sets the flag only of clusters whose first online
    CPU is in the policy or served already; a stop leaves no flagged cluster behind at
    whose first online CPU the policy is; no first online CPU of a flagged cluster leaves
    its policy; a CPU that comes online before all others of a flagged cluster is served. -/
def Covers (s : Machine) : PolicyEvent → Prop
  | .start policy =>
    policyClusterId s.world s.cpufreq policy < maxLseClusters →
      ∀ cluster ∈ s.cpufreq.clusters, cluster.id = policyClusterId s.world s.cpufreq policy →
        cpufreqCpuGetRaw s.cpufreq (firstOnline s cluster) = some policy ∨ Served s (firstOnline s cluster)
  | .stop policy =>
    ∀ cluster ∈ s.cpufreq.clusters, s.cpufreq.govFlag cluster.id ≠ 0 →
      (policyClusterId s.world s.cpufreq policy < maxLseClusters →
        cluster.id ≠ policyClusterId s.world s.cpufreq policy) →
      cpufreqCpuGetRaw s.cpufreq (firstOnline s cluster) ≠ some policy
  | .leave cpu =>
    ∀ cluster ∈ s.cpufreq.clusters, s.cpufreq.govFlag cluster.id ≠ 0 → firstOnline s cluster ≠ cpu
  | .online cpu =>
    ∀ cluster ∈ s.cpufreq.clusters, s.cpufreq.govFlag cluster.id ≠ 0 → cluster.cpus cpu = true →
      cpu < firstOnline s cluster → Served s cpu
  | _ => True

/-- Before the governor is first started no flag is set. -/
def Unflagged (s : Machine) : Prop := ∀ cluster ∈ s.cpufreq.clusters, s.cpufreq.govFlag cluster.id = 0

theorem owned_iff (s : Machine) :
    Owned s ↔ ∀ cluster ∈ s.cpufreq.clusters, s.cpufreq.govFlag cluster.id ≠ 0 → Served s (firstOnline s cluster) := by
  constructor
  · intro owned cluster listed flagged
    have called : rolloverCall s.world govSysctlDefaults s.cpufreq cluster ∈
        lsegovUpdateFreq s.world govSysctlDefaults s.cpufreq :=
      List.mem_map_of_mem (List.mem_filter.mpr ⟨listed,by simpa using flagged⟩)
    exact owned govSysctlDefaults _ called
  · intro served y call called
    obtain ⟨cluster,member,rfl⟩ := List.mem_map.mp called
    obtain ⟨listed,flagged⟩ := List.mem_filter.mp member
    exact served cluster listed (by simpa using flagged)

theorem unflagged_owned {s : Machine} (unflagged : Unflagged s) : Owned s :=
  (owned_iff s).mpr (fun cluster listed flagged => absurd (unflagged cluster listed) flagged)

@[simp] theorem setGovFlag_frame (c : Cpufreq) (clusterId : ℕ) (value : ℤ) :
    (setGovFlag c clusterId value).clusters = c.clusters ∧ (setGovFlag c clusterId value).cpuData = c.cpuData ∧
      (setGovFlag c clusterId value).policy = c.policy ∧
      (setGovFlag c clusterId value).governorData = c.governorData := by
  unfold setGovFlag
  split_ifs <;> simp

theorem setGovFlag_flag (c : Cpufreq) (clusterId k : ℕ) (value : ℤ) :
    (setGovFlag c clusterId value).govFlag k =
      if clusterId < maxLseClusters ∧ k = clusterId then value else c.govFlag k := by
  unfold setGovFlag
  by_cases inside : clusterId < maxLseClusters
  · by_cases here : k = clusterId <;> simp [inside,here]
  · simp [inside]

/-- What a start or a stop does: the policy's data and the flags of its clusters. -/
structure Switched (s after : Machine) (policy : ℕ) (on : Bool) : Prop where
  world : after.world = s.world
  clusters : after.cpufreq.clusters = s.cpufreq.clusters
  raw : ∀ cpu, cpufreqCpuGetRaw after.cpufreq cpu = cpufreqCpuGetRaw s.cpufreq cpu
  data : ∀ q, isStarted (after.cpufreq.governorData q) =
    if q = policy then on else isStarted (s.cpufreq.governorData q)
  flag : ∀ k, after.cpufreq.govFlag k =
    if policyClusterId s.world s.cpufreq policy < maxLseClusters ∧ k = policyClusterId s.world s.cpufreq policy
    then (if on then 1 else 0) else s.cpufreq.govFlag k

theorem start_switched {s : Machine} {policy : ℕ} (admitted : Admitted s (.start policy)) :
    Switched s (policyStep s (.start policy)) policy true := by
  obtain ⟨lg,data⟩ := admitted
  constructor
  · simp [policyStep,data]
  · simp [policyStep,data,lseGovStart]
  · intro cpu
    simp [policyStep,data,lseGovStart,cpufreqCpuGetRaw]
  · intro q
    by_cases here : q = policy <;> simp [policyStep,data,lseGovStart,here,isStarted]
  · intro k
    simp [policyStep,data,lseGovStart,setGovFlag_flag]

theorem stop_switched {s : Machine} {policy : ℕ} (admitted : Admitted s (.stop policy)) :
    Switched s (policyStep s (.stop policy)) policy false := by
  obtain ⟨lg,data⟩ := admitted
  constructor
  · simp [policyStep,data]
  · simp [policyStep,data,lseGovStop]
  · intro cpu
    simp [policyStep,data,lseGovStop,cpufreqCpuGetRaw]
  · intro q
    by_cases here : q = policy <;> simp [policyStep,data,lseGovStop,here,isStarted]
  · intro k
    simp [policyStep,data,lseGovStop,setGovFlag_flag]

section
variable {s : Machine}

theorem switched_served {after : Machine} {policy cpu : ℕ} {on : Bool} (switched : Switched s after policy on) :
    Served after cpu ↔ ∃ q, cpufreqCpuGetRaw s.cpufreq cpu = some q ∧
      (if q = policy then on else isStarted (s.cpufreq.governorData q)) = true := by
  simp only [Served,switched.raw,switched.data]

theorem switched_first {after : Machine} {policy : ℕ} {on : Bool} (switched : Switched s after policy on)
    (cluster : LseSchedCluster) : firstOnline after cluster = firstOnline s cluster := by
  simp only [firstOnline,switched.world]

theorem start_owned_iff {policy : ℕ} (owned : Owned s) (admitted : Admitted s (.start policy)) :
    Owned (policyStep s (.start policy)) ↔ Covers s (.start policy) := by
  have switched := start_switched admitted
  have served : ∀ cpu, Served (policyStep s (.start policy)) cpu ↔
      (cpufreqCpuGetRaw s.cpufreq cpu = some policy ∨ Served s cpu) := by
    intro cpu
    rw [switched_served switched]
    constructor
    · rintro ⟨q,raw,started⟩
      by_cases here : q = policy
      · exact Or.inl (here ▸ raw)
      · exact Or.inr ⟨q,raw,by simpa [here] using started⟩
    · rintro (raw | ⟨q,raw,started⟩)
      · exact ⟨policy,raw,by simp⟩
      · exact ⟨q,raw,by simp [started]⟩
  rw [owned_iff]
  simp only [switched.clusters,switched.flag,switched_first switched,served,if_true]
  constructor
  · intro held inside cluster listed here
    exact held cluster listed (by simp [inside,here])
  · intro covers cluster listed flagged
    by_cases here : policyClusterId s.world s.cpufreq policy < maxLseClusters ∧
        cluster.id = policyClusterId s.world s.cpufreq policy
    · exact covers here.1 cluster listed here.2
    · rw [if_neg here] at flagged
      exact Or.inr ((owned_iff s).mp owned cluster listed flagged)

theorem stop_owned_iff {policy : ℕ} (owned : Owned s) (admitted : Admitted s (.stop policy)) :
    Owned (policyStep s (.stop policy)) ↔ Covers s (.stop policy) := by
  have switched := stop_switched admitted
  rw [owned_iff]
  simp only [switched.clusters,switched.flag,switched_first switched,switched_served switched,Bool.false_eq_true,
    if_false]
  constructor
  · intro held cluster listed flagged elsewhere raw
    have still : ¬ (policyClusterId s.world s.cpufreq policy < maxLseClusters ∧
        cluster.id = policyClusterId s.world s.cpufreq policy) := fun here => elsewhere here.1 here.2
    obtain ⟨q,raw',started⟩ := held cluster listed (by simpa [still] using flagged)
    rw [raw,Option.some.injEq] at raw'
    simp [raw'] at started
  · intro covers cluster listed flagged
    by_cases here : policyClusterId s.world s.cpufreq policy < maxLseClusters ∧
        cluster.id = policyClusterId s.world s.cpufreq policy
    · simp [here] at flagged
    · rw [if_neg here] at flagged
      obtain ⟨q,raw,started⟩ := (owned_iff s).mp owned cluster listed flagged
      have other : q ≠ policy := by
        rintro rfl
        exact covers cluster listed flagged (fun inside same => here ⟨inside,same⟩) raw
      exact ⟨q,raw,by simpa [other] using started⟩

/-! ### Hotplug -/

@[simp] theorem setMember_frame (c : Cpufreq) (cpu : ℕ) (member : Bool) :
    (setMember c cpu member).clusters = c.clusters ∧ (setMember c cpu member).govFlag = c.govFlag ∧
      (setMember c cpu member).governorData = c.governorData := by
  unfold setMember
  cases c.cpuData cpu <;> simp [setCpus]

theorem setMember_raw (c : Cpufreq) (x cpu : ℕ) (member : Bool) :
    cpufreqCpuGetRaw (setMember c x member) cpu =
      if cpu = x then (if member then c.cpuData x else none) else cpufreqCpuGetRaw c cpu := by
  unfold setMember
  cases data : c.cpuData x with
  | none =>
    by_cases here : cpu = x
    · subst here
      simp [cpufreqCpuGetRaw,data]
    · simp [here]
  | some policy =>
    by_cases here : cpu = x
    · subst here
      cases member <;> simp [cpufreqCpuGetRaw,setCpus,data]
    · have others : ∀ q, ((setCpus c policy (Function.update (c.policy policy).cpus x member)).policy q).cpus cpu =
          (c.policy q).cpus cpu := by
        intro q
        by_cases same : q = policy <;> simp [setCpus,same,here]
      simp only [cpufreqCpuGetRaw,others,here,if_false]
      rfl

theorem assign_owned {policy : ℕ} {data : GovernorData} (owned : Owned s) (admitted : Admitted s (.assign policy data)) :
    Owned (policyStep s (.assign policy data)) := by
  obtain ⟨unstarted,_⟩ := admitted
  rw [owned_iff] at owned ⊢
  intro cluster listed flagged
  obtain ⟨q,raw,started⟩ := owned cluster listed flagged
  have other : q ≠ policy := by
    rintro rfl
    exact Bool.false_ne_true (unstarted.symm.trans started)
  exact ⟨q,raw,by simpa [policyStep,other] using started⟩

theorem leave_owned_iff {cpu : ℕ} (owned : Owned s) : Owned (policyStep s (.leave cpu)) ↔ Covers s (.leave cpu) := by
  have served : ∀ other, Served (policyStep s (.leave cpu)) other ↔ other ≠ cpu ∧ Served s other := by
    intro other
    by_cases here : other = cpu <;> simp [Served,policyStep,setMember_raw,here]
  rw [owned_iff] at owned ⊢
  simp only [served]
  constructor
  · intro held cluster listed flagged
    exact (held cluster (by simpa [policyStep] using listed) (by simpa [policyStep] using flagged)).1
  · intro covers cluster listed flagged
    have listed' : cluster ∈ s.cpufreq.clusters := by simpa [policyStep] using listed
    have flagged' : s.cpufreq.govFlag cluster.id ≠ 0 := by simpa [policyStep] using flagged
    exact ⟨covers cluster listed' flagged',owned cluster listed' flagged'⟩

theorem join_owned {cpu : ℕ} (owned : Owned s) : Owned (policyStep s (.join cpu)) := by
  rw [owned_iff] at owned ⊢
  intro cluster listed flagged
  obtain ⟨q,raw,started⟩ := owned cluster (by simpa [policyStep] using listed) (by simpa [policyStep] using flagged)
  refine ⟨q,?_,by simpa [policyStep] using started⟩
  simp only [policyStep,setMember_raw]
  split_ifs with here
  · have found : cpufreqCpuGetRaw s.cpufreq cpu = some q := here ▸ raw
    exact (Option.filter_eq_some_iff.mp found).1
  · exact raw

theorem firstOnline_spec (s : Machine) (cluster : LseSchedCluster) :
    firstOnline s cluster ≤ s.world.nrCpuIds ∧
      (firstOnline s cluster < s.world.nrCpuIds → clusterOnline s.world cluster (firstOnline s cluster) = true) ∧
      ∀ cpu < firstOnline s cluster, clusterOnline s.world cluster cpu = false :=
  cpumaskFirst_spec s.world.nrCpuIds (clusterOnline s.world cluster)

theorem offline_owned {cpu : ℕ} (owned : Owned s) (admitted : Admitted s (.offline cpu)) :
    Owned (policyStep s (.offline cpu)) := by
  rw [owned_iff] at owned ⊢
  intro cluster listed flagged
  obtain ⟨q,raw,started⟩ := owned cluster listed flagged
  have other : firstOnline s cluster ≠ cpu := by
    rintro same
    rw [same,show cpufreqCpuGetRaw s.cpufreq cpu = none from admitted] at raw
    cases raw
  -- the CPU that goes offline has no policy, so the first one of the cluster stays
  have first : firstOnline (policyStep s (.offline cpu)) cluster = firstOnline s cluster := by
    obtain ⟨bound,member,lower⟩ := firstOnline_spec s cluster
    refine cpumaskFirst_eq bound ?_ ?_
    · intro below
      simpa [policyStep,setOnline,clusterOnline,other] using member below
    · intro x lt
      have out := lower x lt
      by_cases here : x = cpu
      · simp [policyStep,setOnline,clusterOnline,here]
      · simpa [policyStep,setOnline,clusterOnline,here] using out
  rw [first]
  exact ⟨q,raw,started⟩

/-- A CPU that comes online becomes the first one of its cluster if it is the lowest. -/
theorem online_first (s : Machine) (cpu : ℕ) (cluster : LseSchedCluster) :
    firstOnline (policyStep s (.online cpu)) cluster =
      if cluster.cpus cpu = true ∧ cpu < firstOnline s cluster then cpu else firstOnline s cluster := by
  obtain ⟨bound,member,lower⟩ := firstOnline_spec s cluster
  by_cases lowest : cluster.cpus cpu = true ∧ cpu < firstOnline s cluster
  · rw [if_pos lowest]
    refine cpumaskFirst_eq (lowest.2.le.trans bound) ?_ ?_
    · intro _
      simp [policyStep,setOnline,clusterOnline,lowest.1]
    · intro x lt
      have out := lower x (lt.trans lowest.2)
      simpa [policyStep,setOnline,clusterOnline,lt.ne] using out
  · rw [if_neg lowest]
    refine cpumaskFirst_eq bound ?_ ?_
    · intro below
      have inside := member below
      by_cases here : firstOnline s cluster = cpu
      · simp only [clusterOnline,Bool.and_eq_true] at inside
        simp [policyStep,setOnline,clusterOnline,here,show cluster.cpus cpu = true from here ▸ inside.1]
      · simpa [policyStep,setOnline,clusterOnline,here] using inside
    · intro x lt
      have out := lower x lt
      by_cases here : x = cpu
      · subst here
        have outside : cluster.cpus x = false := by
          by_contra inside
          exact lowest ⟨by simpa using inside,lt⟩
        simp [policyStep,setOnline,clusterOnline,outside]
      · simpa [policyStep,setOnline,clusterOnline,here] using out

theorem online_owned_iff {cpu : ℕ} (owned : Owned s) : Owned (policyStep s (.online cpu)) ↔ Covers s (.online cpu) := by
  have served : ∀ other, Served (policyStep s (.online cpu)) other ↔ Served s other := fun _ => Iff.rfl
  rw [owned_iff] at owned ⊢
  simp only [served,online_first]
  constructor
  · intro held cluster listed flagged inside below
    have first := held cluster listed flagged
    rwa [if_pos ⟨inside,below⟩] at first
  · intro covers cluster listed flagged
    split_ifs with lowest
    · exact covers cluster listed flagged lowest.1 lowest.2
    · exact owned cluster listed flagged

/-- A step from a state whose rollovers are safe leads to one exactly when it covers
    the flagged clusters. -/
theorem policyStep_owned_iff {e : PolicyEvent} (owned : Owned s) (admitted : Admitted s e) :
    Owned (policyStep s e) ↔ Covers s e := by
  cases e with
  | start policy => exact start_owned_iff owned admitted
  | stop policy => exact stop_owned_iff owned admitted
  | assign policy data => exact iff_of_true (assign_owned owned admitted) trivial
  | leave cpu => exact leave_owned_iff owned
  | join cpu => exact iff_of_true (join_owned owned) trivial
  | offline cpu => exact iff_of_true (offline_owned owned admitted) trivial
  | online cpu => exact online_owned_iff owned

end

/-- Along every run from a state without flags, every rollover updates only policies on
    which the governor is started exactly when every step covers the flagged clusters. -/
theorem rollover_policies_iff (s : Machine) (unflagged : Unflagged s) (run : List PolicyEvent)
    (admitted : Along policyStep Admitted s run) :
    Along policyStep (fun v e => Owned (policyStep v e)) s run ↔ Along policyStep Covers s run :=
  along_iff Owned (fun _ _ owned admitted => policyStep_owned_iff owned admitted) (fun _ _ _ _ owned => owned)
    (unflagged_owned unflagged) admitted

/-- Two CPUs in one cluster and one policy, for which the governor is initialised. -/
def onePolicy : Machine where
  world := World.boot 2 (fun _ => plainTask)
  cpufreq :=
    { clusters := [⟨0,fun cpu => cpu < 2⟩], topologyClusterId := fun _ => 0, govFlag := fun _ => 0
      cpuData := fun cpu => if cpu < 2 then some 0 else none
      policy := fun _ => ⟨fun cpu => cpu < 2,fun cpu => cpu < 2,500000,2000000,2000000,500000,2000000,false⟩
      governorData := fun _ => .lse lseGovPolicyAlloc false, updateUtilHook := fun _ => false }

/-- CPU 0 is unplugged: cpufreq stops the governor, takes the CPU out of the policy and
    starts the governor again before the CPU goes offline. -/
def unplug : List PolicyEvent := [.start 0,.stop 0,.leave 0,.start 0]

theorem unplug_admitted : Along policyStep Admitted onePolicy unplug :=
  ⟨⟨_,rfl⟩,⟨_,rfl⟩,trivial,⟨_,rfl⟩,trivial⟩

/-- A rollover right after this updates a policy that is not there. -/
theorem rollover_without_policy :
    Unflagged onePolicy ∧ Along policyStep Admitted onePolicy unplug ∧
      ¬ Along policyStep (fun v e => Owned (policyStep v e)) onePolicy unplug := by
  refine ⟨fun _ _ => rfl,unplug_admitted,?_⟩
  rintro ⟨_,_,_,owned,_⟩
  obtain ⟨policy,raw,_⟩ := (owned_iff _).mp owned ⟨0,fun cpu => cpu < 2⟩ (List.mem_singleton.mpr rfl) (by decide)
  have missing : cpufreqCpuGetRaw (exec policyStep onePolicy unplug).cpufreq
      (firstOnline (exec policyStep onePolicy unplug) ⟨0,fun cpu => cpu < 2⟩) = none := by decide +kernel
  exact absurd (missing.symm.trans raw) (by simp)

theorem rollover_policies_unplug :
    Along policyStep (fun v e => Owned (policyStep v e)) onePolicy unplug ↔ Along policyStep Covers onePolicy unplug :=
  rollover_policies_iff onePolicy (fun _ _ => rfl) unplug unplug_admitted

end LunarSched.RolloverPolicies
