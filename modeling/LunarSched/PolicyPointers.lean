import LunarSched.DecimalText
import LunarSched.SoftLimits

/-!
The pointers that the CPUs keep to the data of their policy (`lse_gov_cpu`). A start
sets them for the CPUs of the policy, an exit clears those of the CPUs that the policy
has then, and frees what they point to. In between CPUs leave their policy, and the
readers of the tasks file follow the pointers whenever the CPU is online. No reader
ever follows a pointer to freed data exactly when every exit finds in the policy all
the CPUs on which it was started since its init (`never_dangling_iff`); then what is
read is what looking up the policy would have found (`reads_own_policy`).
-/
namespace LunarSched.PolicyPointers
open LunarSched.Kernel LunarSched.Dsq LunarSched.Governor LunarSched.GovernorInit LunarSched.GovernorLifetime LunarSched.Runs
open LunarSched.DecimalText (printNat printInt)
open LunarSched.SoftLimits (SameOwners sameOwners_refl sameOwners_lifecycle)

/-- What is fixed besides the `Setup`: the topology, and the policy of each CPU (`cpufreq_cpu_data`). -/
structure Platform where
  setup : Setup
  topologyClusterId : ℕ → ℕ
  cpuData : ℕ → Option ℕ

section
variable (plat : Platform)

/-- `lse_gov_start` of a policy with this data. -/
def lseGovStart (w : World) (s : Gov) (p lg : ℕ) : Gov :=
  let clusterId := plat.topologyClusterId (cpumaskFirst plat.setup.nrCpuIds (s.policy p).relatedCpus)
  { s.setLgPolicy lg (fun l => { l with record := startedPolicy w (s.policy p) clusterId l.record }) with
    govCpu := fun cpu => if (s.policy p).cpus cpu then some lg else s.govCpu cpu }

/-- `lse_gov_stop`, which leaves the pointers; on the slow path it cancels the queued work. -/
def lseGovStop (s : Gov) (p lg : ℕ) : Gov :=
  if (s.policy p).fastSwitchEnabled then s
  else s.setLgPolicy lg (fun l => { l with record := { l.record with workQueued := false } })

/-- The CPU enters or leaves the `cpus` of its policy. -/
def setMember (s : Gov) (cpu : ℕ) (member : Bool) : Gov :=
  match plat.cpuData cpu with
  | some p => s.setPolicy p (fun policy => { policy with cpus := Function.update policy.cpus cpu member })
  | none => s

/-! ### Readers -/

def lseGovPolicyFromCpu (s : Gov) (cpu : ℤ) : Option ℕ :=
  if cpu < 0 ∨ plat.setup.nrCpuIds ≤ cpu then none else s.govCpu cpu.toNat

/-- What the five readers share: a default without a pointer, and a field of the policy's
    data otherwise, of which nothing is known once it is freed. -/
def readPolicy (s : Gov) (cpu : ℤ) (default : ℕ) (field : LseGovPolicy → ℕ) : Option ℕ :=
  match lseGovPolicyFromCpu plat s cpu with
  | none => some default
  | some lg => if GovObject.lgPolicy lg ∈ s.freed then none else some (field (s.lgPolicy lg).record)

def lseGovClusterWindowNs (g : Track) (s : Gov) (cpu : ℤ) : Option ℕ :=
  readPolicy plat s cpu g.ravgWindow LseGovPolicy.clusterWindowNs

def lseGovClusterTargetLoadDyn (s : Gov) (cpu : ℤ) : Option ℕ :=
  readPolicy plat s cpu defaultTargetLoad
    (fun lg => if lg.lastTargetLoadDyn ≠ 0 then lg.lastTargetLoadDyn else lg.targetLoadBase)

def lseGovClusterAggUtil (s : Gov) (cpu : ℤ) : Option ℕ := readPolicy plat s cpu 0 LseGovPolicy.lastAggUtil
def lseGovClusterFreqCapApplied (s : Gov) (cpu : ℤ) : Option ℕ := readPolicy plat s cpu 0 LseGovPolicy.lastFreqCapApplied
def lseGovClusterPowerPressure (s : Gov) (cpu : ℤ) : Option ℕ := readPolicy plat s cpu 0 LseGovPolicy.lastPowerPressure

/-- What a line of `lse_proc_tasks_read` shows. -/
structure TaskLine where
  cpu : ℕ
  task : ℕ
  taskClass : LseTaskClass
  boost : ℕ
  prio : ℕ
  demand : ℕ
  scaled : ℕ
  dsqDepth : ℤ
  cwNs : ℕ
  tlDyn : ℕ
  aggUtil : ℕ
  freqCap : ℕ
  powerPressure : ℕ

/-- The line of a CPU whose current task has the record. -/
def taskLine (w : World) (s : Gov) (cpu : ℕ) (lts : LseTaskStruct) : Option TaskLine := do
  let cwNs ← lseGovClusterWindowNs plat w.track s cpu
  let tlDyn ← lseGovClusterTargetLoadDyn plat s cpu
  let aggUtil ← lseGovClusterAggUtil plat s cpu
  let freqCap ← lseGovClusterFreqCapApplied plat s cpu
  let powerPressure ← lseGovClusterPowerPressure plat s cpu
  return {
    cpu := cpu
    task := (w.rq cpu).curr
    taskClass := lts.taskClass
    boost := lts.boostPct
    prio := lts.priorityHint
    demand := lts.demand
    scaled := lts.demandScaled
    dsqDepth := lseDsqDepthCpu w cpu
    cwNs := cwNs
    tlDyn := tlDyn
    aggUtil := aggUtil
    freqCap := freqCap
    powerPressure := powerPressure }

def lseTaskClassName : LseTaskClass → List Char
  | .idle => "idle".toList
  | .background => "background".toList
  | .normal => "normal".toList
  | .foreground => "foreground".toList
  | .rt => "rt".toList
  | .deadline => "deadline".toList

/-- `pid` and `comm` of a task. -/
structure TaskName where
  pid : ℕ
  comm : List Char

/-- The text of a line. -/
def lineText (names : ℕ → TaskName) (line : TaskLine) : List Char :=
  [' '].intercalate [printNat line.cpu,printNat (names line.task).pid,(names line.task).comm,lseTaskClassName line.taskClass,
    printNat line.boost,printNat line.prio,printNat line.demand,printNat line.scaled,printInt line.dsqDepth,
    printNat line.cwNs,printNat line.tlDyn,printNat line.aggUtil,printNat line.freqCap,printNat line.powerPressure] ++ ['\n']

def tasksHeader : List Char :=
  "cpu pid comm class boost prio demand scaled dsq_depth cw_ns tl_dyn agg_util freq_cap power_pressure\n".toList

/-- `scnprintf` at the end of the text in the buffer of 1024 bytes, with a 0 behind it. -/
def scnprintf (tmp text : List Char) : List Char := tmp ++ text.take (1024 - tmp.length - 1)

/-- The loop of `lse_proc_tasks_read`, which ends early in a full buffer. -/
def printTasks (names : ℕ → TaskName) (w : World) (s : Gov) : List Char → List ℕ → Option (List Char)
  | tmp, [] => some tmp
  | tmp, cpu :: rest =>
    match w.lts (w.rq cpu).curr with
    | none => printTasks names w s tmp rest
    | some lts => do
      let line ← taskLine plat w s cpu lts
      let tmp := scnprintf tmp (lineText names line)
      if 1024 - 96 ≤ tmp.length then return tmp else printTasks names w s tmp rest

/-- The text of the tasks file, or nothing when a line reads freed memory. -/
def lseProcTasksRead (names : ℕ → TaskName) (w : World) (s : Gov) : Option (List Char) :=
  printTasks plat names w s (scnprintf [] tasksHeader) (forEachCpu w.nrCpuIds w.online)

/-- The governor's variables and the policies on which it is started. `servedSince` is for
    the statements only: the CPUs on which a policy was started since its last init. -/
structure Pointers where
  gov : Gov
  started : ℕ → Bool
  servedSince : ℕ → Cpumask

inductive PointerEvent where
  | init (p : ℕ) (o : InitOutcome)
  | exit (p : ℕ) (memory : Bool)
  | start (p : ℕ) (w : World)
  | stop (p : ℕ)
  /-- One of the update paths writes the record of the policy. -/
  | write (p : ℕ) (record : LseGovPolicy)
  | leave (cpu : ℕ)
  | join (cpu : ℕ)

def pointerStep (s : Pointers) : PointerEvent → Pointers
  | .init p o =>
    let (ret,gov) := lseGovInit plat.setup s.gov p o
    { s with gov := gov, servedSince := if ret = 0 then Function.update s.servedSince p (fun _ => false) else s.servedSince }
  | .exit p memory => { s with gov := (lseGovExit plat.setup s.gov p memory).getD s.gov }
  | .start p w =>
    match s.gov.governorData p with
    | some lg =>
      { gov := lseGovStart plat w s.gov p lg
        started := Function.update s.started p true
        servedSince := Function.update s.servedSince p (fun cpu => (s.gov.policy p).cpus cpu || s.servedSince p cpu) }
    | none => s
  | .stop p =>
    match s.gov.governorData p with
    | some lg => { s with gov := lseGovStop s.gov p lg, started := Function.update s.started p false }
    | none => s
  | .write p record =>
    match s.gov.governorData p with
    | some lg => { s with gov := s.gov.setLgPolicy lg (fun l => { l with record := record }) }
    | none => s
  | .leave cpu => { s with gov := setMember plat s.gov cpu false }
  | .join cpu => { s with gov := setMember plat s.gov cpu true }

/-- cpufreq starts what is initialised and stops what is started, and exits a policy and
    changes its `cpus` only while it is stopped. -/
def Admitted (s : Pointers) : PointerEvent → Prop
  | .init _ _ => True
  | .exit p _ => (s.gov.governorData p).isSome = true ∧ s.started p = false
  | .start p _ => (s.gov.governorData p).isSome = true ∧ s.started p = false
  | .stop p => s.started p = true
  | .write p _ => (s.gov.governorData p).isSome = true
  | .leave cpu => ∀ p, plat.cpuData cpu = some p → s.started p = false
  | .join cpu => ∀ p, plat.cpuData cpu = some p → s.started p = false

/-- Every CPU on which the policy was started since its init is in it when it exits. -/
def CleanExit (s : Pointers) : PointerEvent → Prop
  | .exit p _ => ∀ cpu < plat.setup.nrCpuIds, s.servedSince p cpu = true → (s.gov.policy p).cpus cpu = true
  | _ => True

/-- No reader follows a pointer to freed data, for any CPU. -/
def NeverDangling (s : Pointers) : Prop :=
  ∀ cpu lg, lseGovPolicyFromCpu plat s.gov cpu = some lg → GovObject.lgPolicy lg ∉ s.gov.freed

/-- The CPUs start in their own policies, and nothing is initialised. -/
def pointersStart (policy : ℕ → CpufreqPolicy) : Pointers := ⟨(start policy).gov,fun _ => false,fun _ _ => false⟩

end

/-- Neither a pointer of a CPU nor the CPUs of a policy differ. -/
structure SamePointers (s s' : Gov) : Prop where
  govCpu : s'.govCpu = s.govCpu
  cpus : ∀ q, (s'.policy q).cpus = (s.policy q).cpus

theorem samePointers_trans {r s t : Gov} (first : SamePointers r s) (second : SamePointers s t) : SamePointers r t :=
  ⟨second.govCpu.trans first.govCpu,fun q => (second.cpus q).trans (first.cpus q)⟩

section
variable {setup : Setup} {s x : Gov} {p lg tun : ℕ} {ret : ℤ}

theorem setPolicy_cpus (f : CpufreqPolicy → CpufreqPolicy) (cpus : ∀ policy, (f policy).cpus = policy.cpus) (q : ℕ) :
    ((s.setPolicy p f).policy q).cpus = (s.policy q).cpus := by
  by_cases same : q = p
  · rw [same,Gov.setPolicy]
    simp [cpus]
  · simp [Gov.setPolicy,same]

theorem enabled_same (s : Gov) (p : ℕ) (fast : Bool) : SamePointers s (cpufreqEnableFastSwitch s p fast) := by
  cases fast with
  | false => exact ⟨rfl,fun _ => rfl⟩
  | true => exact ⟨rfl,setPolicy_cpus (fun policy => { policy with fastSwitchEnabled := true }) (fun _ => rfl)⟩

theorem started_same (s : Gov) (p : ℕ) (fast : Bool) (thread : Option ℕ) (threads : List ℕ) (created : ℕ) :
    SamePointers s (started s p fast thread threads created) :=
  ⟨rfl,(enabled_same s p fast).cpus⟩

/-- Turning fast switching off again is the last thing that an unwound init and an exit do. -/
theorem disabled_same (same : SamePointers s x) : SamePointers s (cpufreqDisableFastSwitch x p) :=
  samePointers_trans same ⟨rfl,setPolicy_cpus _ (fun _ => rfl)⟩

theorem stopKthread_same (same : SamePointers s x) : SamePointers s (stopKthread x p lg ret).2 := by
  rw [stopKthread,lseGovKthreadStop_eq]
  exact disabled_same ⟨same.govCpu,same.cpus⟩

theorem initTunables_same {o : InitOutcome} (same : SamePointers s x) : SamePointers s (initTunables setup x p lg o).2 := by
  unfold initTunables
  by_cases memory : ¬ o.tunablesAlloc
  · rw [if_pos memory]
    exact stopKthread_same same
  · rw [if_neg memory]
    by_cases failed : o.kobjectAdd ≠ 0
    · simp only [if_pos failed]
      exact stopKthread_same ⟨same.govCpu,same.cpus⟩
    · simp only [if_neg failed]
      exact ⟨same.govCpu,same.cpus⟩

theorem joinTunables_same (same : SamePointers s x) : SamePointers s (joinTunables setup x p lg tun).2 := by
  unfold joinTunables
  by_cases perPolicy : setup.perPolicy = true
  · rw [if_pos perPolicy]
    exact stopKthread_same same
  · rw [if_neg perPolicy]
    exact ⟨same.govCpu,same.cpus⟩

/-- An init neither sets a pointer nor changes the CPUs of a policy. -/
theorem init_same (setup : Setup) (s : Gov) (p : ℕ) (o : InitOutcome) : SamePointers s (lseGovInit setup s p o).2 := by
  rcases lseGovInit_cases setup s p o with
    ⟨_,refused⟩ | ⟨_,noMemory | ⟨ret,created,_,_,same⟩ | ⟨thread,threads,created,_,same⟩⟩
  · rw [refused]
    exact ⟨rfl,fun _ => rfl⟩
  · rw [noMemory]
    exact disabled_same (enabled_same s p o.fastSwitch)
  · rw [same]
    have before := started_same s p o.fastSwitch none s.threads created
    exact disabled_same ⟨before.govCpu,before.cpus⟩
  · rw [same]
    have before := started_same s p o.fastSwitch thread threads created
    cases s.globalTunables with
    | some tun => exact joinTunables_same ⟨before.govCpu,before.cpus⟩
    | none => exact initTunables_same ⟨before.govCpu,before.cpus⟩

/-- An exit clears the pointers of the CPUs that the policy has. -/
theorem detach_pointers (setup : Setup) (s : Gov) (p lg tun : ℕ) (memory : Bool) :
    (∀ cpu, (detach setup s p lg tun memory).govCpu cpu =
        if (s.policy (s.lgPolicy lg).policy).cpus cpu then none else s.govCpu cpu) ∧
      ∀ q, ((detach setup s p lg tun memory).policy q).cpus = (s.policy q).cpus := by
  simp only [detach,lseGovKthreadStop_eq]
  by_cases last : (govAttrSetPut (mutexLock s) tun lg).1 = 0
  · obtain ⟨cached,allocated,saved⟩ := lseGovTunablesSave_eq setup
      ((govAttrSetPut (mutexLock s) tun lg).2.setGovernorData p none) p memory
    rw [if_pos last,saved]
    exact ⟨fun _ => rfl,setPolicy_cpus _ (fun _ => rfl)⟩
  · rw [if_neg last]
    exact ⟨fun _ => rfl,setPolicy_cpus _ (fun _ => rfl)⟩

/-- Writing the record of an object changes no owner. -/
theorem record_sameOwners (s : Gov) (lg : ℕ) (f : LgPolicy → LseGovPolicy) :
    SameOwners s (s.setLgPolicy lg (fun l => { l with record := f l })) := by
  refine { sameOwners_refl s with lgPolicy := fun other => ?_ }
  by_cases same : other = lg
  · simp [Gov.setLgPolicy,same]
  · simp [Gov.setLgPolicy,same]

theorem cpus_sameOwners (s : Gov) (p : ℕ) (cpus : Cpumask) :
    SameOwners s (s.setPolicy p (fun policy => { policy with cpus := cpus })) := by
  refine { sameOwners_refl s with fastSwitch := fun q off => ?_ }
  by_cases same : q = p
  · simpa [Gov.setPolicy,same] using same ▸ off
  · simpa [Gov.setPolicy,same] using off

end

section
variable {plat : Platform} {s s' : Pointers} {p lg : ℕ}

/-- While no exit has left a CPU behind: a CPU points to the data of the policy that was
    last started on it as long as that policy has it, and to nothing else. -/
structure Pointing (plat : Platform) (s : Pointers) : Prop where
  lifecycle : Lifecycle plat.setup s.gov
  members : ∀ p cpu, (s.gov.policy p).cpus cpu = true → plat.cpuData cpu = some p
  served : ∀ p cpu, s.servedSince p cpu = true → plat.cpuData cpu = some p
  holds : ∀ p lg cpu, s.gov.governorData p = some lg → s.servedSince p cpu = true → s.gov.govCpu cpu = some lg
  held : ∀ cpu < plat.setup.nrCpuIds, ∀ lg, s.gov.govCpu cpu = some lg →
    ∃ p, s.gov.governorData p = some lg ∧ s.servedSince p cpu = true

theorem policyFromCpu_some {s : Gov} {cpu : ℤ} (found : lseGovPolicyFromCpu plat s cpu = some lg) :
    cpu.toNat < plat.setup.nrCpuIds ∧ s.govCpu cpu.toNat = some lg := by
  unfold lseGovPolicyFromCpu at found
  split at found
  · cases found
  · exact ⟨by omega,found⟩

theorem policyFromCpu_nat {s : Gov} {cpu : ℕ} (bound : cpu < plat.setup.nrCpuIds) :
    lseGovPolicyFromCpu plat s cpu = s.govCpu cpu := by
  rw [lseGovPolicyFromCpu,if_neg (by omega),Int.toNat_natCast]

theorem pointing_neverDangling (inv : Pointing plat s) : NeverDangling plat s := by
  intro cpu lg found
  obtain ⟨bound,points⟩ := policyFromCpu_some found
  obtain ⟨p,data,_⟩ := inv.held _ bound lg points
  exact (inv.lifecycle.attached p lg data).2.1

theorem pointing_start (policy : ℕ → CpufreqPolicy)
    (own : ∀ p cpu, (policy p).cpus cpu = true → plat.cpuData cpu = some p) : Pointing plat (pointersStart policy) where
  lifecycle := (tracked_start plat.setup policy).lifecycle
  members := own
  served := fun _ _ served => by cases served
  holds := fun _ _ _ data => by cases data
  held := fun _ _ _ points => by cases points

/-- A step that changes neither the pointers nor what is attached or served keeps the invariant. -/
theorem pointing_frame (inv : Pointing plat s) (lifecycle : Lifecycle plat.setup s'.gov)
    (members : ∀ q cpu, (s'.gov.policy q).cpus cpu = true → plat.cpuData cpu = some q)
    (govCpu : s'.gov.govCpu = s.gov.govCpu) (governorData : s'.gov.governorData = s.gov.governorData)
    (servedSince : s'.servedSince = s.servedSince) : Pointing plat s' where
  lifecycle := lifecycle
  members := members
  served := by
    rw [servedSince]
    exact inv.served
  holds := by
    rw [govCpu,governorData,servedSince]
    exact inv.holds
  held := by
    rw [govCpu,governorData,servedSince]
    exact inv.held

theorem init_pointing (inv : Pointing plat s) (p : ℕ) (o : InitOutcome) : Pointing plat (pointerStep plat s (.init p o)) := by
  have same := init_same plat.setup s.gov p o
  have lifecycle := (init_lifecycle inv.lifecycle p o).1
  have members : ∀ q cpu, ((lseGovInit plat.setup s.gov p o).2.policy q).cpus cpu = true → plat.cpuData cpu = some q := by
    intro q cpu member
    rw [same.cpus] at member
    exact inv.members q cpu member
  -- A successful init attaches new data that no CPU points to yet.
  have success : ∀ tun, (lseGovInit plat.setup s.gov p o).1 = 0 → s.gov.governorData p = none →
      Attaches s.gov p tun (lseGovInit plat.setup s.gov p o).2 → Pointing plat (pointerStep plat s (.init p o)) := by
    intro tun ret free attaches
    simp only [pointerStep,if_pos ret]
    refine ⟨lifecycle,members,fun q cpu => ?_,fun q lg cpu data => ?_,fun cpu bound lg points => ?_⟩
    · by_cases own : q = p
      · simp [own]
      · simpa [own] using inv.served q cpu
    · by_cases own : q = p
      · simp [own]
      · rw [attaches.governorData,Function.update_of_ne own] at data
        simpa [own,same.govCpu] using inv.holds q lg cpu data
    · rw [same.govCpu] at points
      obtain ⟨q,data,served⟩ := inv.held cpu bound lg points
      have own : q ≠ p := by
        rintro rfl
        simp [free] at data
      exact ⟨q,by simpa [attaches.governorData,own] using data,by simpa [own] using served⟩
  rcases lseGovInit_spec plat.setup s.gov p o inv.lifecycle.unlocked with
    ⟨_,refused⟩ | ⟨free,⟨ret,failed⟩ | ⟨ret,_,tun,_,joins⟩ | ⟨ret,_,founds⟩⟩
  · simp only [pointerStep,refused]
    exact inv
  · simp only [pointerStep,if_neg ret]
    exact pointing_frame inv lifecycle members failed.govCpu failed.governorData rfl
  · exact success tun ret free joins.toAttaches
  · exact success _ ret free founds.toAttaches

/-- What an exit does to an attached policy. -/
theorem exit_detaches (inv : Pointing plat s) (data : s.gov.governorData p = some lg) (memory : Bool) :
    ∃ tun s', (pointerStep plat s (.exit p memory)) = { s with gov := s' } ∧ Lifecycle plat.setup s' ∧
      Detaches plat.setup s.gov p lg tun s' ∧
      (∀ cpu, s'.govCpu cpu = if (s.gov.policy p).cpus cpu then none else s.gov.govCpu cpu) ∧
      ∀ q, (s'.policy q).cpus = (s.gov.policy q).cpus := by
  obtain ⟨_,_,own,tun,has,_⟩ := inv.lifecycle.attached p lg data
  have detaches := detached plat.setup s.gov p lg tun memory
  obtain ⟨govCpu,cpus⟩ := detach_pointers plat.setup s.gov p lg tun memory
  refine ⟨tun,_,?_,detaches_lifecycle inv.lifecycle data has detaches,detaches,?_,cpus⟩
  · simp [pointerStep,lseGovExit,data,has]
  · intro cpu
    rw [govCpu,own]

theorem exit_pointing (inv : Pointing plat s) (data : s.gov.governorData p = some lg) (memory : Bool)
    (clean : CleanExit plat s (.exit p memory)) : Pointing plat (pointerStep plat s (.exit p memory)) := by
  obtain ⟨tun,s',same,lifecycle,detaches,govCpu,cpus⟩ := exit_detaches inv data memory
  have remain := detaches_data inv.lifecycle data detaches
  rw [same]
  refine ⟨lifecycle,fun q cpu member => ?_,inv.served,fun q other cpu dataQ served => ?_,fun cpu bound other points => ?_⟩
  · change (s'.policy q).cpus cpu = true at member
    rw [cpus] at member
    exact inv.members q cpu member
  · obtain ⟨before,away⟩ := (remain q other).mp dataQ
    have apart : (s.gov.policy p).cpus cpu ≠ true := by
      intro member
      have one : q = p := Option.some.inj ((inv.served q cpu served).symm.trans (inv.members p cpu member))
      exact away (Option.some.inj (before.symm.trans (one ▸ data)))
    change s'.govCpu cpu = some other
    rw [govCpu,if_neg apart]
    exact inv.holds q other cpu before served
  · change s'.govCpu cpu = some other at points
    rw [govCpu] at points
    split at points
    · cases points
    · rename_i apart
      obtain ⟨q,before,served⟩ := inv.held cpu bound other points
      refine ⟨q,(remain q other).mpr ⟨before,?_⟩,served⟩
      -- A CPU of this policy's data would have been in the policy.
      rintro rfl
      have one : q = p :=
        (inv.lifecycle.attached q other before).2.2.1.symm.trans (inv.lifecycle.attached p other data).2.2.1
      exact apart (clean cpu bound (one ▸ served))

/-- An exit that leaves a CPU behind leaves it with a pointer to what it frees. -/
theorem exit_dangling (inv : Pointing plat s) (data : s.gov.governorData p = some lg) (memory : Bool)
    (never : NeverDangling plat (pointerStep plat s (.exit p memory))) : CleanExit plat s (.exit p memory) := by
  obtain ⟨tun,s',same,_,detaches,govCpu,_⟩ := exit_detaches inv data memory
  rw [same] at never
  intro cpu bound served
  by_contra apart
  refine never cpu lg ?_ ?_
  · rw [policyFromCpu_nat bound]
    change s'.govCpu cpu = some lg
    rw [govCpu,if_neg apart]
    exact inv.holds p lg cpu data served
  · change _ ∈ s'.freed
    rw [detaches.freed]
    exact List.mem_cons_self

theorem start_pointing (inv : Pointing plat s) (data : s.gov.governorData p = some lg) (w : World) :
    Pointing plat (pointerStep plat s (.start p w)) := by
  have points : ∀ cpu, (pointerStep plat s (.start p w)).gov.govCpu cpu =
      if (s.gov.policy p).cpus cpu then some lg else s.gov.govCpu cpu := by
    intro cpu
    simp [pointerStep,data,lseGovStart]
  have serves : ∀ q cpu, (pointerStep plat s (.start p w)).servedSince q cpu = true ↔
      q = p ∧ (s.gov.policy p).cpus cpu = true ∨ s.servedSince q cpu = true := by
    intro q cpu
    by_cases own : q = p
    · simp [pointerStep,data,own]
    · simp [pointerStep,data,own]
  have governorData : (pointerStep plat s (.start p w)).gov.governorData = s.gov.governorData := by
    simp [pointerStep,data,lseGovStart,Gov.setLgPolicy]
  have policy : (pointerStep plat s (.start p w)).gov.policy = s.gov.policy := by
    simp [pointerStep,data,lseGovStart,Gov.setLgPolicy]
  refine ⟨?_,?_,?_,?_,?_⟩
  · simp only [pointerStep,data]
    have same := record_sameOwners s.gov lg (fun l => startedPolicy w (s.gov.policy p)
      (plat.topologyClusterId (cpumaskFirst plat.setup.nrCpuIds (s.gov.policy p).relatedCpus)) l.record)
    exact sameOwners_lifecycle { same with } inv.lifecycle
  · rw [policy]
    exact inv.members
  · intro q cpu served
    rcases (serves q cpu).mp served with ⟨rfl,member⟩ | before
    · exact inv.members q cpu member
    · exact inv.served q cpu before
  · intro q other cpu dataQ served
    rw [governorData] at dataQ
    rw [points]
    by_cases member : (s.gov.policy p).cpus cpu = true
    · -- The CPU belongs to one policy only, so it is this one that has it.
      have one : q = p := by
        rcases (serves q cpu).mp served with ⟨own,_⟩ | before
        · exact own
        · exact Option.some.inj ((inv.served q cpu before).symm.trans (inv.members p cpu member))
      rw [if_pos member,← data,← one,dataQ]
    · rw [if_neg member]
      exact inv.holds q other cpu dataQ (((serves q cpu).mp served).resolve_left (fun both => member both.2))
  · intro cpu bound other found
    rw [points] at found
    rw [governorData]
    split at found
    · rename_i member
      exact ⟨p,data.trans found,(serves p cpu).mpr (.inl ⟨rfl,member⟩)⟩
    · obtain ⟨q,dataQ,served⟩ := inv.held cpu bound other found
      exact ⟨q,dataQ,(serves q cpu).mpr (.inr served)⟩

theorem member_pointing (inv : Pointing plat s) (cpu : ℕ) (member : Bool) :
    Pointing plat { s with gov := setMember plat s.gov cpu member } := by
  unfold setMember
  cases own : plat.cpuData cpu with
  | none => exact inv
  | some p =>
    refine pointing_frame inv (sameOwners_lifecycle (cpus_sameOwners s.gov p _) inv.lifecycle) (fun q other inside => ?_) rfl rfl rfl
    by_cases here : q = p
    · subst here
      by_cases same : other = cpu
      · rw [same,own]
      · exact inv.members q other (by simpa [Gov.setPolicy,same] using inside)
    · exact inv.members q other (by simpa [Gov.setPolicy,here] using inside)

theorem record_pointing (inv : Pointing plat s) (lg : ℕ) (f : LgPolicy → LseGovPolicy) (started : ℕ → Bool) :
    Pointing plat { s with gov := s.gov.setLgPolicy lg (fun l => { l with record := f l }), started := started } :=
  pointing_frame inv (sameOwners_lifecycle (record_sameOwners s.gov lg f) inv.lifecycle) inv.members rfl rfl rfl

theorem pointing_step (inv : Pointing plat s) {e : PointerEvent} (admitted : Admitted plat s e)
    (clean : CleanExit plat s e) : Pointing plat (pointerStep plat s e) := by
  cases e with
  | init p o => exact init_pointing inv p o
  | exit p memory =>
    obtain ⟨lg,data⟩ := Option.isSome_iff_exists.mp admitted.1
    exact exit_pointing inv data memory clean
  | start p w =>
    obtain ⟨lg,data⟩ := Option.isSome_iff_exists.mp admitted.1
    exact start_pointing inv data w
  | stop p =>
    simp only [pointerStep]
    split
    · unfold lseGovStop
      split
      · exact pointing_frame inv inv.lifecycle inv.members rfl rfl rfl
      · exact record_pointing inv _ _ _
    · exact inv
  | write p record =>
    simp only [pointerStep]
    split
    · exact record_pointing inv _ (fun _ => record) s.started
    · exact inv
  | leave cpu => exact member_pointing inv cpu false
  | join cpu => exact member_pointing inv cpu true

/-- In every run of the governor's calls and of CPUs that leave and join their policies, no
    CPU ever has a pointer to freed data exactly when every exit finds all CPUs on which the
    policy was started since its init in the policy. -/
theorem never_dangling_iff (plat : Platform) (policy : ℕ → CpufreqPolicy) (events : List PointerEvent)
    (own : ∀ p cpu, (policy p).cpus cpu = true → plat.cpuData cpu = some p)
    (admitted : Along (pointerStep plat) (Admitted plat) (pointersStart policy) events) :
    Along (pointerStep plat) (fun s e => NeverDangling plat (pointerStep plat s e)) (pointersStart policy) events ↔
      Along (pointerStep plat) (CleanExit plat) (pointersStart policy) events := by
  have agree : ∀ s e, Pointing plat s → Admitted plat s e →
      (NeverDangling plat (pointerStep plat s e) ↔ CleanExit plat s e) := by
    intro s e inv admitted
    refine ⟨fun never => ?_,fun clean => pointing_neverDangling (pointing_step inv admitted clean)⟩
    cases e with
    | exit p memory =>
      obtain ⟨lg,data⟩ := Option.isSome_iff_exists.mp admitted.1
      exact exit_dangling inv data memory never
    | _ => trivial
  refine along_iff (Pointing plat) agree ?_ (pointing_start policy own) admitted
  exact fun s e inv admitted never => pointing_step inv admitted ((agree s e inv admitted).mp never)

/-! ### What is read -/

/-- The data of a CPU's policy, looked up in the policy, when it was started on the CPU. -/
def ownPolicy (plat : Platform) (s : Pointers) (cpu : ℕ) : Option ℕ :=
  ((plat.cpuData cpu).filter (fun p => s.servedSince p cpu)).bind s.gov.governorData

def ownReading (plat : Platform) (s : Pointers) (cpu default : ℕ) (field : LseGovPolicy → ℕ) : ℕ :=
  ((ownPolicy plat s cpu).map (fun lg => field (s.gov.lgPolicy lg).record)).getD default

/-- The line with what the lookups give. -/
def ownLine (plat : Platform) (w : World) (s : Pointers) (cpu : ℕ) (lts : LseTaskStruct) : TaskLine where
  cpu := cpu
  task := (w.rq cpu).curr
  taskClass := lts.taskClass
  boost := lts.boostPct
  prio := lts.priorityHint
  demand := lts.demand
  scaled := lts.demandScaled
  dsqDepth := lseDsqDepthCpu w cpu
  cwNs := ownReading plat s cpu w.track.ravgWindow LseGovPolicy.clusterWindowNs
  tlDyn := ownReading plat s cpu defaultTargetLoad
    (fun lg => if lg.lastTargetLoadDyn ≠ 0 then lg.lastTargetLoadDyn else lg.targetLoadBase)
  aggUtil := ownReading plat s cpu 0 LseGovPolicy.lastAggUtil
  freqCap := ownReading plat s cpu 0 LseGovPolicy.lastFreqCapApplied
  powerPressure := ownReading plat s cpu 0 LseGovPolicy.lastPowerPressure

theorem govCpu_eq (inv : Pointing plat s) {cpu : ℕ} (bound : cpu < plat.setup.nrCpuIds) :
    s.gov.govCpu cpu = ownPolicy plat s cpu := by
  cases points : s.gov.govCpu cpu with
  | some lg =>
    obtain ⟨p,data,served⟩ := inv.held cpu bound lg points
    rw [ownPolicy,inv.served p cpu served,Option.filter_some,if_pos served]
    exact data.symm
  | none =>
    symm
    rw [ownPolicy,Option.bind_eq_none_iff]
    intro p own
    obtain ⟨_,served⟩ := Option.filter_eq_some_iff.mp own
    cases data : s.gov.governorData p with
    | none => rfl
    | some lg =>
      have := inv.holds p lg cpu data served
      rw [points] at this
      cases this

theorem readPolicy_eq (inv : Pointing plat s) {cpu : ℕ} (bound : cpu < plat.setup.nrCpuIds) (default : ℕ)
    (field : LseGovPolicy → ℕ) : readPolicy plat s.gov cpu default field = some (ownReading plat s cpu default field) := by
  have never := pointing_neverDangling inv cpu
  rw [readPolicy,ownReading,← govCpu_eq inv bound,← policyFromCpu_nat bound]
  cases found : lseGovPolicyFromCpu plat s.gov cpu with
  | none => rfl
  | some lg => exact if_neg (never lg found)

theorem taskLine_eq (inv : Pointing plat s) (w : World) {cpu : ℕ} (bound : cpu < plat.setup.nrCpuIds) (lts : LseTaskStruct) :
    taskLine plat w s.gov cpu lts = some (ownLine plat w s cpu lts) := by
  simp [taskLine,lseGovClusterWindowNs,lseGovClusterTargetLoadDyn,lseGovClusterAggUtil,lseGovClusterFreqCapApplied,
    lseGovClusterPowerPressure,readPolicy_eq inv bound,ownLine]

/-- The CPUs whose current task has a record, with it. -/
def shownCpus (w : World) (cpus : List ℕ) : List (ℕ × LseTaskStruct) :=
  cpus.filterMap (fun cpu => (w.lts (w.rq cpu).curr).map (fun lts => (cpu,lts)))

/-- The text in the buffer after these lines. -/
def printed (names : ℕ → TaskName) (tmp : List Char) (lines : List TaskLine) : List Char :=
  lines.foldl (fun tmp line => scnprintf tmp (lineText names line)) tmp

/-- The loop prints the lines in their order, up to the end or to the one that fills the buffer. -/
theorem printTasks_eq {names : ℕ → TaskName} {w : World} {line : ℕ → LseTaskStruct → TaskLine} :
    ∀ {cpus : List ℕ} {tmp : List Char},
      (∀ shown ∈ shownCpus w cpus, taskLine plat w s.gov shown.1 shown.2 = some (line shown.1 shown.2)) →
      ∃ lines, lines <+: (shownCpus w cpus).map (fun shown => line shown.1 shown.2) ∧
        (lines = (shownCpus w cpus).map (fun shown => line shown.1 shown.2) ∨ 1024 - 96 ≤ (printed names tmp lines).length) ∧
        printTasks plat names w s.gov tmp cpus = some (printed names tmp lines) := by
  intro cpus
  induction cpus with
  | nil => exact fun {_} _ => ⟨[],List.prefix_rfl,Or.inl rfl,rfl⟩
  | cons cpu rest ih =>
    intro tmp reads
    cases record : w.lts (w.rq cpu).curr with
    | none =>
      have skipped : shownCpus w (cpu :: rest) = shownCpus w rest := by simp [shownCpus,record]
      rw [skipped] at reads ⊢
      simpa only [printTasks,record] using ih reads
    | some lts =>
      have shown : shownCpus w (cpu :: rest) = (cpu,lts) :: shownCpus w rest := by simp [shownCpus,record]
      rw [shown] at reads ⊢
      obtain ⟨here,later⟩ := List.forall_mem_cons.mp reads
      simp only [printTasks,record,here,Option.bind_eq_bind,Option.bind_some]
      split_ifs with full
      · exact ⟨[line cpu lts],⟨_,rfl⟩,Or.inr full,rfl⟩
      · obtain ⟨lines,start,whole,text⟩ := @ih (scnprintf tmp (lineText names (line cpu lts))) later
        refine ⟨line cpu lts :: lines,(List.prefix_cons_inj _).mpr start,?_,text⟩
        exact whole.imp (congrArg _) id

/-- After every run with clean exits every line that the tasks file can have is what looking
    up the policy of the CPU gives; the file has them in their order, all of them or, in a
    full buffer, the first. -/
theorem reads_own_policy (plat : Platform) (policy : ℕ → CpufreqPolicy) (events : List PointerEvent) (w : World)
    (names : ℕ → TaskName)
    (own : ∀ p cpu, (policy p).cpus cpu = true → plat.cpuData cpu = some p) (cpus : w.nrCpuIds = plat.setup.nrCpuIds)
    (admitted : Along (pointerStep plat) (Admitted plat) (pointersStart policy) events)
    (clean : Along (pointerStep plat) (CleanExit plat) (pointersStart policy) events) :
    let s := exec (pointerStep plat) (pointersStart policy) events
    let shown := shownCpus w (forEachCpu w.nrCpuIds w.online)
    (∀ line ∈ shown, taskLine plat w s.gov line.1 line.2 = some (ownLine plat w s line.1 line.2)) ∧
      ∃ lines, lines <+: shown.map (fun line => ownLine plat w s line.1 line.2) ∧
        (lines = shown.map (fun line => ownLine plat w s line.1 line.2) ∨
          1024 - 96 ≤ (printed names tasksHeader lines).length) ∧
        lseProcTasksRead plat names w s.gov = some (printed names tasksHeader lines) := by
  intro s shown
  have inv : Pointing plat s := exec_invariant (Pointing plat) (fun s e inv both => pointing_step inv both.1 both.2)
    (pointing_start policy own) (along_and.mpr ⟨admitted,clean⟩)
  have reads : ∀ line ∈ shown, taskLine plat w s.gov line.1 line.2 = some (ownLine plat w s line.1 line.2) := by
    intro line member
    obtain ⟨cpu,visited,has⟩ := List.mem_filterMap.mp member
    obtain ⟨lts,_,rfl⟩ := Option.map_eq_some_iff.mp has
    exact taskLine_eq inv w (cpus ▸ (mem_forEachCpu.mp visited).1) lts
  have header : scnprintf [] tasksHeader = tasksHeader := by decide
  refine ⟨reads,?_⟩
  rw [lseProcTasksRead,header]
  exact printTasks_eq reads

end

def twoCpus : Platform := ⟨⟨2,false,fun p => p⟩,fun _ => 0,fun _ => some 0⟩

/-- Policy 0 has both CPUs. -/
def twoCpuPolicies (p : ℕ) : CpufreqPolicy := { fullPolicy with cpus := fun cpu => decide (p = 0 ∧ cpu < 2) }

theorem twoCpuPolicies_own (p cpu : ℕ) (member : (twoCpuPolicies p).cpus cpu = true) : twoCpus.cpuData cpu = some p := by
  obtain ⟨rfl,_⟩ := of_decide_eq_true member
  rfl

/-- CPU 1 goes offline and online again while the governor runs. -/
def replugged : List PointerEvent :=
  [.init 0 succeeds,.start 0 (World.boot 2 (fun _ => plainTask)),.stop 0,.leave 1,
    .start 0 (World.boot 2 (fun _ => plainTask)),.stop 0,.join 1,.start 0 (World.boot 2 (fun _ => plainTask))]

/-- Another governor is chosen while CPU 1 is offline. -/
def unplugged : List PointerEvent :=
  [.init 0 succeeds,.start 0 (World.boot 2 (fun _ => plainTask)),.stop 0,.leave 1,
    .start 0 (World.boot 2 (fun _ => plainTask)),.stop 0,.exit 0 true,.join 1]

theorem unplugged_admitted :
    Along (pointerStep twoCpus) (Admitted twoCpus) (pointersStart twoCpuPolicies) unplugged := by
  refine ⟨trivial,⟨rfl,rfl⟩,rfl,?_,⟨rfl,rfl⟩,rfl,⟨rfl,rfl⟩,?_,trivial⟩
  all_goals
    rintro p ⟨⟩
    rfl

theorem replugged_admitted :
    Along (pointerStep twoCpus) (Admitted twoCpus) (pointersStart twoCpuPolicies) replugged := by
  refine ⟨trivial,⟨rfl,rfl⟩,rfl,?_,⟨rfl,rfl⟩,rfl,?_,⟨rfl,rfl⟩,trivial⟩
  all_goals
    rintro p ⟨⟩
    rfl

theorem replugged_clean : Along (pointerStep twoCpus) (CleanExit twoCpus) (pointersStart twoCpuPolicies) replugged :=
  ⟨trivial,trivial,trivial,trivial,trivial,trivial,trivial,trivial,trivial⟩

/-- While CPU 1 is replugged no pointer dangles; the exit without it leaves it with one. -/
theorem never_dangling_iff_replugged :
    Along (pointerStep twoCpus) (fun s e => NeverDangling twoCpus (pointerStep twoCpus s e))
        (pointersStart twoCpuPolicies) replugged ∧
      ¬ Along (pointerStep twoCpus) (fun s e => NeverDangling twoCpus (pointerStep twoCpus s e))
        (pointersStart twoCpuPolicies) unplugged := by
  constructor
  · exact (never_dangling_iff twoCpus twoCpuPolicies replugged twoCpuPolicies_own replugged_admitted).mpr replugged_clean
  · intro never
    have clean := (never_dangling_iff twoCpus twoCpuPolicies unplugged twoCpuPolicies_own unplugged_admitted).mp never
    exact absurd (clean.2.2.2.2.2.2.1 1 (by decide) rfl) Bool.false_ne_true

theorem reads_own_policy_replugged :
    let w := World.boot 2 (fun _ => plainTask)
    let names := fun task => TaskName.mk task "task".toList
    let s := exec (pointerStep twoCpus) (pointersStart twoCpuPolicies) replugged
    let shown := shownCpus w (forEachCpu w.nrCpuIds w.online)
    (∀ line ∈ shown, taskLine twoCpus w s.gov line.1 line.2 = some (ownLine twoCpus w s line.1 line.2)) ∧
      ∃ lines, lines <+: shown.map (fun line => ownLine twoCpus w s line.1 line.2) ∧
        (lines = shown.map (fun line => ownLine twoCpus w s line.1 line.2) ∨
          1024 - 96 ≤ (printed names tasksHeader lines).length) ∧
        lseProcTasksRead twoCpus names w s.gov = some (printed names tasksHeader lines) :=
  reads_own_policy twoCpus twoCpuPolicies replugged (World.boot 2 (fun _ => plainTask)) _ twoCpuPolicies_own rfl
    replugged_admitted replugged_clean

end LunarSched.PolicyPointers
