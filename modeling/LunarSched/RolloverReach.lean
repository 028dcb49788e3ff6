import LunarSched.RolloverPolicies

/-!
The policies that a rollover leaves out. The hook of the CPU on which `lse_irq_work`
runs is there only when this governor runs that CPU's policy, a cluster is looked at
only while its flag is set, which policies of one cluster set and clear for each other,
and of each cluster only the policy of its first online CPU is updated. After a run of
starts, stops and hotplug a rollover updates every policy in use exactly once when
its CPU is served, and each policy in use is that of the first online CPU of exactly one
cluster that was last switched on (`rollover_reaches_iff`).
-/
namespace LunarSched.RolloverReach
open LunarSched.Kernel LunarSched.Governor LunarSched.Runs
open LunarSched.RolloverPolicies (Machine PolicyEvent policyStep isStarted firstOnline Served setMember setCpus
  Switched start_switched stop_switched switched_served setMember_frame setMember_raw)

section
variable {α β : Type*}

/-- A list up to the first element at which a loop over it does not go on. -/
def upTo (stops : α → Bool) : List α → List α
  | [] => []
  | a :: rest => a :: if stops a then [] else upTo stops rest

theorem upTo_map (stops : β → Bool) (f : α → β) (values : List α) :
    upTo stops (values.map f) = (upTo (fun a => stops (f a)) values).map f := by
  induction values with
  | nil => rfl
  | cons a rest ih =>
    simp only [List.map_cons,upTo]
    split_ifs
    · rfl
    · rw [ih]

end

/-- `lse_gov_update_cpufreq` takes the lock in the policy's `governor_data`; it does not
    return when there is no policy, or another governor's data. -/
def returns (c : Cpufreq) : Option ℕ → Bool
  | none => false
  | some policy => match c.governorData policy with
    | .lse _ _ => true
    | .none | .other _ => false

/-- The calls of `lse_gov_update_cpufreq` that an `lse_irq_work` on the CPU makes. -/
def irqWorkCalls (s : Machine) (y : GovSysctl) (cpu : ℕ) : List (Option ℕ × ℕ) :=
  if s.cpufreq.updateUtilHook cpu = true then
    upTo (fun call => !returns s.cpufreq call.1) (lsegovUpdateFreq s.world y s.cpufreq)
  else []

/-- The governor is started on the policy, and one of its CPUs is online. -/
def InUse (s : Machine) (policy : ℕ) : Prop :=
  isStarted (s.cpufreq.governorData policy) = true ∧
    ∃ cpu < s.world.nrCpuIds, s.world.online cpu = true ∧ (s.cpufreq.policy policy).cpus cpu = true

instance (s : Machine) (policy : ℕ) : Decidable (InUse s policy) :=
  inferInstanceAs (Decidable (_ ∧ ∃ cpu < s.world.nrCpuIds, _))

/-- Every policy in use is updated exactly once. -/
def ReachesEvery (s : Machine) (y : GovSysctl) (cpu : ℕ) : Prop :=
  ∀ policy, InUse s policy → (irqWorkCalls s y cpu).countP (fun call => call.1 = some policy) = 1

/-- The machine in a run, and for each cluster id whether the last start or stop of a
    policy with that id was a start. -/
structure Recorded extends Machine where
  lastOn : ℕ → Bool

def recordStep (s : Recorded) (e : PolicyEvent) : Recorded where
  toMachine := policyStep s.toMachine e
  lastOn := match e with
    | .start policy => Function.update s.lastOn (policyClusterId s.world s.cpufreq policy) true
    | .stop policy => Function.update s.lastOn (policyClusterId s.world s.cpufreq policy) false
    | _ => s.lastOn

/-- In addition cpufreq changes the CPUs of a policy only while this governor is not
    started on it. -/
def Admitted (s : Recorded) (e : PolicyEvent) : Prop :=
  RolloverPolicies.Admitted s.toMachine e ∧
    match e with
    | .leave cpu | .join cpu => ∀ policy, s.cpufreq.cpuData cpu = some policy →
        isStarted (s.cpufreq.governorData policy) = false
    | _ => True

/-- The machine before the governor is first started. Every CPU is in its own policy, if
    in any. -/
structure Fresh (s : Machine) : Prop where
  own : ∀ policy cpu, (s.cpufreq.policy policy).cpus cpu = true → s.cpufreq.cpuData cpu = some policy
  stopped : ∀ policy, isStarted (s.cpufreq.governorData policy) = false
  unhooked : ∀ cpu, s.cpufreq.updateUtilHook cpu = false
  unflagged : ∀ id < maxLseClusters, s.cpufreq.govFlag id = 0

def recorded (s : Machine) : Recorded := ⟨s,fun _ => false⟩

/-- What a rollover finds as the flag of a cluster: whether the last start or stop with
    its id was a start. Ids from 4 on have no flag, and find what lies behind the flags. -/
def switchedOn (s : Recorded) (cluster : LseSchedCluster) : Bool :=
  if cluster.id < maxLseClusters then s.lastOn cluster.id else decide (s.cpufreq.govFlag cluster.id ≠ 0)

/-- The policy of the first online CPU of a cluster. -/
def firstPolicy (s : Machine) (cluster : LseSchedCluster) : Option ℕ :=
  cpufreqCpuGetRaw s.cpufreq (firstOnline s cluster)

/-- The clusters that were last switched on, up to one whose first online CPU has no
    policy with data of this governor. -/
def visited (s : Recorded) : List LseSchedCluster :=
  upTo (fun cluster => !returns s.cpufreq (firstPolicy s.toMachine cluster)) (s.cpufreq.clusters.filter (switchedOn s))

/-- The CPU is in a policy on which the governor is started, and every policy in use is
    that of the first online CPU of exactly one cluster that is visited. -/
def Represented (s : Recorded) (cpu : ℕ) : Prop :=
  ∀ policy, InUse s.toMachine policy → Served s.toMachine cpu ∧
    (visited s).countP (fun cluster => firstPolicy s.toMachine cluster = some policy) = 1

/-! ### The history -/

/-- Hooks and flags say what the history does. -/
structure Faithful (s : Recorded) : Prop where
  own : ∀ policy cpu, (s.cpufreq.policy policy).cpus cpu = true → s.cpufreq.cpuData cpu = some policy
  hooks : ∀ cpu, s.cpufreq.updateUtilHook cpu = true ↔ Served s.toMachine cpu
  flags : ∀ id < maxLseClusters, s.cpufreq.govFlag id ≠ 0 ↔ s.lastOn id = true

theorem raw_iff {c : Cpufreq} {cpu policy : ℕ} :
    cpufreqCpuGetRaw c cpu = some policy ↔ c.cpuData cpu = some policy ∧ (c.policy policy).cpus cpu = true := by
  simp [cpufreqCpuGetRaw,Option.filter_eq_some_iff]

theorem recorded_faithful {s : Machine} (fresh : Fresh s) : Faithful (recorded s) := by
  refine ⟨fresh.own,fun cpu => ?_,fun id inside => ?_⟩
  · constructor
    · intro hooked
      exact absurd ((fresh.unhooked cpu).symm.trans hooked) Bool.false_ne_true
    · rintro ⟨policy,_,started⟩
      exact absurd ((fresh.stopped policy).symm.trans started) Bool.false_ne_true
  · simp [recorded,fresh.unflagged id inside]

section
variable {s : Recorded}

/-- A start or stop leaves in the flag of its cluster what it records. -/
theorem switched_flags {after : Machine} {policy : ℕ} {on : Bool} (faithful : Faithful s)
    (switched : Switched s.toMachine after policy on) {id : ℕ} (inside : id < maxLseClusters) :
    after.cpufreq.govFlag id ≠ 0 ↔ Function.update s.lastOn (policyClusterId s.world s.cpufreq policy) on id = true := by
  rw [switched.flag,Function.update_apply]
  by_cases here : id = policyClusterId s.world s.cpufreq policy
  · cases on <;> simp [← here,inside]
  · simpa [here] using faithful.flags id inside

theorem start_faithful {policy : ℕ} (faithful : Faithful s) (admitted : RolloverPolicies.Admitted s.toMachine (.start policy)) :
    Faithful (recordStep s (.start policy)) := by
  have switched := start_switched admitted
  obtain ⟨lg,data⟩ := admitted
  have cpus : (policyStep s.toMachine (.start policy)).cpufreq.policy = s.cpufreq.policy ∧
      (policyStep s.toMachine (.start policy)).cpufreq.cpuData = s.cpufreq.cpuData := by
    simp [policyStep,data,lseGovStart]
  have hook : ∀ cpu, (policyStep s.toMachine (.start policy)).cpufreq.updateUtilHook cpu =
      ((s.cpufreq.policy policy).cpus cpu || s.cpufreq.updateUtilHook cpu) := by
    intro cpu
    simp only [policyStep,data,lseGovStart,setGovFlag]
    split_ifs <;> rfl
  refine ⟨?_,fun cpu => ?_,fun id inside => ?_⟩
  · simp only [recordStep,cpus.1,cpus.2]
    exact faithful.own
  · simp only [recordStep,hook,switched_served switched,Bool.or_eq_true,faithful.hooks]
    constructor
    · rintro (member | ⟨q,raw,started⟩)
      · exact ⟨policy,raw_iff.mpr ⟨faithful.own policy cpu member,member⟩,if_pos rfl⟩
      · exact ⟨q,raw,by simp [started]⟩
    · rintro ⟨q,raw,started⟩
      by_cases here : q = policy
      · exact Or.inl (here ▸ (raw_iff.mp raw).2)
      · exact Or.inr ⟨q,raw,by simpa [here] using started⟩
  · exact switched_flags faithful switched inside

theorem stop_faithful {policy : ℕ} (faithful : Faithful s) (admitted : RolloverPolicies.Admitted s.toMachine (.stop policy)) :
    Faithful (recordStep s (.stop policy)) := by
  have switched := stop_switched admitted
  obtain ⟨lg,data⟩ := admitted
  have cpus : (policyStep s.toMachine (.stop policy)).cpufreq.policy = s.cpufreq.policy ∧
      (policyStep s.toMachine (.stop policy)).cpufreq.cpuData = s.cpufreq.cpuData := by
    simp [policyStep,data,lseGovStop]
  have hook : ∀ cpu, (policyStep s.toMachine (.stop policy)).cpufreq.updateUtilHook cpu =
      (!(s.cpufreq.policy policy).cpus cpu && s.cpufreq.updateUtilHook cpu) := by
    intro cpu
    simp only [policyStep,data,lseGovStop,setGovFlag]
    split_ifs <;> rfl
  refine ⟨?_,fun cpu => ?_,fun id inside => ?_⟩
  · simp only [recordStep,cpus.1,cpus.2]
    exact faithful.own
  · simp only [recordStep,hook,switched_served switched,Bool.and_eq_true,Bool.not_eq_true',faithful.hooks]
    constructor
    · rintro ⟨outside,q,raw,started⟩
      have other : q ≠ policy := by
        rintro rfl
        rw [(raw_iff.mp raw).2] at outside
        cases outside
      exact ⟨q,raw,by simpa [other] using started⟩
    · rintro ⟨q,raw,started⟩
      have other : q ≠ policy := by
        rintro rfl
        simp at started
      refine ⟨?_,q,raw,by simpa [other] using started⟩
      -- the CPU has one policy only
      by_contra inside
      have both := (faithful.own policy cpu (by simpa using inside)).symm.trans (raw_iff.mp raw).1
      exact other (Option.some.inj both).symm
  · exact switched_flags faithful switched inside

/-- A change of the data of a policy on which the governor is not started before or after. -/
theorem assign_faithful {policy : ℕ} {data : GovernorData} (faithful : Faithful s)
    (admitted : RolloverPolicies.Admitted s.toMachine (.assign policy data)) :
    Faithful (recordStep s (.assign policy data)) := by
  obtain ⟨before,after⟩ := admitted
  refine ⟨faithful.own,fun cpu => (faithful.hooks cpu).trans ?_,faithful.flags⟩
  have same : ∀ q, isStarted ((recordStep s (.assign policy data)).cpufreq.governorData q) =
      isStarted (s.cpufreq.governorData q) := by
    intro q
    by_cases here : q = policy
    · simp [recordStep,policyStep,here,before,after]
    · simp [recordStep,policyStep,here]
  simp only [Served,same]
  rfl

/-- A CPU enters or leaves a policy on which the governor is not started. -/
theorem setMember_faithful {cpu : ℕ} (member : Bool) (faithful : Faithful s)
    (stopped : ∀ policy, s.cpufreq.cpuData cpu = some policy → isStarted (s.cpufreq.governorData policy) = false) :
    Faithful { s with cpufreq := setMember s.cpufreq cpu member } := by
  obtain ⟨_,flags,data⟩ := setMember_frame s.cpufreq cpu member
  have hook : (setMember s.cpufreq cpu member).updateUtilHook = s.cpufreq.updateUtilHook ∧
      (setMember s.cpufreq cpu member).cpuData = s.cpufreq.cpuData := by
    unfold setMember
    cases s.cpufreq.cpuData cpu <;> exact ⟨rfl,rfl⟩
  refine ⟨?_,fun c => ?_,?_⟩
  · intro policy c inside
    show (setMember s.cpufreq cpu member).cpuData c = some policy
    change ((setMember s.cpufreq cpu member).policy policy).cpus c = true at inside
    rw [hook.2]
    cases known : s.cpufreq.cpuData cpu with
    | none =>
      simp only [setMember,known] at inside
      exact faithful.own policy c inside
    | some home =>
      simp only [setMember,known,setCpus] at inside
      by_cases here : policy = home
      · subst here
        by_cases same : c = cpu
        · exact same ▸ known
        · exact faithful.own policy c (by simpa [same] using inside)
      · exact faithful.own policy c (by simpa [here] using inside)
  · show (setMember s.cpufreq cpu member).updateUtilHook c = true ↔ _
    rw [hook.1,faithful.hooks]
    simp only [Served,data,setMember_raw]
    by_cases here : c = cpu
    · subst here
      -- neither before nor after is the CPU in a started policy
      constructor
      · rintro ⟨q,raw,started⟩
        exact absurd ((stopped q (raw_iff.mp raw).1).symm.trans started) Bool.false_ne_true
      · rintro ⟨q,raw,started⟩
        cases member with
        | false => simp at raw
        | true => exact absurd ((stopped q (by simpa using raw)).symm.trans started) Bool.false_ne_true
    · simp only [here,if_false]
  · show ∀ id < maxLseClusters, (setMember s.cpufreq cpu member).govFlag id ≠ 0 ↔ _
    rw [flags]
    exact faithful.flags

theorem recordStep_faithful {e : PolicyEvent} (faithful : Faithful s) (admitted : Admitted s e) :
    Faithful (recordStep s e) := by
  obtain ⟨admitted,managed⟩ := admitted
  cases e with
  | start policy => exact start_faithful faithful admitted
  | stop policy => exact stop_faithful faithful admitted
  | assign policy data => exact assign_faithful faithful admitted
  | leave cpu => exact setMember_faithful false faithful managed
  | join cpu => exact setMember_faithful true faithful managed
  | offline cpu => exact ⟨faithful.own,faithful.hooks,faithful.flags⟩
  | online cpu => exact ⟨faithful.own,faithful.hooks,faithful.flags⟩

/-- The policies that are updated are those of the first online CPUs of the clusters visited. -/
theorem calls_visited (faithful : Faithful s) (y : GovSysctl) {cpu : ℕ} (served : Served s.toMachine cpu) (policy : ℕ) :
    (irqWorkCalls s.toMachine y cpu).countP (fun call => call.1 = some policy) =
      (visited s).countP (fun cluster => firstPolicy s.toMachine cluster = some policy) := by
  have flagged : s.cpufreq.clusters.filter (fun cluster => s.cpufreq.govFlag cluster.id ≠ 0) =
      s.cpufreq.clusters.filter (switchedOn s) := by
    refine List.filter_congr fun cluster _ => ?_
    unfold switchedOn
    split_ifs with inside
    · exact Bool.eq_iff_iff.mpr (by simpa using faithful.flags cluster.id inside)
    · rfl
  rw [irqWorkCalls,if_pos ((faithful.hooks cpu).mpr served),lsegovUpdateFreq,flagged,upTo_map,List.countP_map]
  rfl

theorem reaches_iff (faithful : Faithful s) (y : GovSysctl) (cpu : ℕ) :
    ReachesEvery s.toMachine y cpu ↔ Represented s cpu := by
  refine forall_congr' fun policy => imp_congr_right fun _ => ?_
  by_cases served : Served s.toMachine cpu
  · rw [calls_visited faithful y served]
    exact ⟨fun once => ⟨served,once⟩,And.right⟩
  · have unhooked : ¬ s.cpufreq.updateUtilHook cpu = true := fun hooked => served ((faithful.hooks cpu).mp hooked)
    rw [irqWorkCalls,if_neg unhooked]
    exact iff_of_false (by simp) (fun both => served both.1)

end

/-- After every run of starts, stops and hotplug, a rollover on a CPU updates every policy
    in use exactly once when the CPU is served and every policy in use is represented by
    exactly one of the clusters visited. -/
theorem rollover_reaches_iff (s : Machine) (fresh : Fresh s) (run : List PolicyEvent)
    (admitted : Along recordStep Admitted (recorded s) run) (y : GovSysctl) (cpu : ℕ) :
    ReachesEvery (exec recordStep (recorded s) run).toMachine y cpu ↔
      Represented (exec recordStep (recorded s) run) cpu :=
  reaches_iff (exec_invariant Faithful (fun _ _ faithful ok => recordStep_faithful faithful ok)
    (recorded_faithful fresh) admitted) y cpu

/-- Two CPUs in one cluster, each with its own policy. -/
def ownPolicies : Machine where
  world := World.boot 2 (fun _ => plainTask)
  cpufreq :=
    { clusters := [⟨0,fun cpu => cpu < 2⟩], topologyClusterId := fun _ => 0, govFlag := fun _ => 0
      cpuData := fun cpu => if cpu < 2 then some cpu else none
      policy := fun policy => { fullPolicy with
        cpus := fun cpu => decide (cpu < 2) && cpu == policy, relatedCpus := fun cpu => cpu == policy }
      governorData := fun _ => .lse lseGovPolicyAlloc false, updateUtilHook := fun _ => false }

theorem ownPolicies_fresh : Fresh ownPolicies := by
  refine ⟨?_,fun _ => rfl,fun _ => rfl,fun _ _ => rfl⟩
  intro policy cpu inside
  simp only [ownPolicies,Bool.and_eq_true,decide_eq_true_eq,beq_iff_eq] at inside
  obtain ⟨low,rfl⟩ := inside
  exact if_pos low

/-- The governor is started on both policies, and a rollover on CPU 0 leaves out the
    policy of CPU 1. -/
theorem second_policy_missed :
    Fresh ownPolicies ∧ Along recordStep Admitted (recorded ownPolicies) [.start 0,.start 1] ∧
      ¬ ReachesEvery (exec recordStep (recorded ownPolicies) [.start 0,.start 1]).toMachine govSysctlDefaults 0 := by
  refine ⟨ownPolicies_fresh,⟨⟨⟨_,rfl⟩,trivial⟩,⟨⟨_,rfl⟩,trivial⟩,trivial⟩,?_⟩
  intro reaches
  exact absurd (reaches 1 (by decide +kernel)) (by decide +kernel)

/-- With the governor on the policy of CPU 0 only, the rollover there reaches it once. -/
theorem rollover_reaches_first :
    ReachesEvery (exec recordStep (recorded ownPolicies) [.start 0]).toMachine govSysctlDefaults 0 := by
  refine (rollover_reaches_iff ownPolicies ownPolicies_fresh [.start 0] ⟨⟨⟨_,rfl⟩,trivial⟩,trivial⟩ _ _).mpr ?_
  rintro policy ⟨started,_⟩
  have switched : Switched ownPolicies (policyStep ownPolicies (.start 0)) 0 true := start_switched ⟨_,rfl⟩
  have only : policy = 0 := by
    by_contra other
    have stopped := switched.data policy
    rw [if_neg other] at stopped
    exact Bool.false_ne_true (stopped.symm.trans started)
  subst only
  exact ⟨⟨0,by decide +kernel,by decide +kernel⟩,by decide +kernel⟩

end LunarSched.RolloverReach
