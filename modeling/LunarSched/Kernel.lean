import LunarSched.Machine
import Mathlib.Logic.Function.Basic

/-!
The data the scheduler extension works on: what it reads of a `task_struct`, its
own per-task and per-CPU records, the file-scope variables of the load tracker,
the dispatch queues and the shadow-tick timers. Tasks and CPUs are numbered.
Pointers to records of a task or a CPU are the number of their owner, and a linked
list of tasks is the list of their numbers.
-/
namespace LunarSched.Kernel

/-- A set of CPUs. -/
abbrev Cpumask := ℕ → Bool

/-- The CPUs that `for_each_cpu` visits, in its order. -/
def forEachCpu (nrCpuIds : ℕ) (mask : Cpumask) : List ℕ := (List.range nrCpuIds).filter mask
/-- The lowest CPU of a mask, or `nr_cpu_ids` for an empty one. -/
def cpumaskFirst (nrCpuIds : ℕ) (mask : Cpumask) : ℕ := (forEachCpu nrCpuIds mask).head?.getD nrCpuIds

theorem mem_forEachCpu {nrCpuIds cpu : ℕ} {mask : Cpumask} :
    cpu ∈ forEachCpu nrCpuIds mask ↔ cpu < nrCpuIds ∧ mask cpu = true := by
  simp [forEachCpu]

/-- The first CPU of a mask is in it, unless there is none, and no lower CPU is. -/
theorem cpumaskFirst_spec (nrCpuIds : ℕ) (mask : Cpumask) :
    cpumaskFirst nrCpuIds mask ≤ nrCpuIds ∧
      (cpumaskFirst nrCpuIds mask < nrCpuIds → mask (cpumaskFirst nrCpuIds mask) = true) ∧
      ∀ cpu < cpumaskFirst nrCpuIds mask, mask cpu = false := by
  cases found : (List.range nrCpuIds).find? mask with
  | some cpu =>
    have first : cpumaskFirst nrCpuIds mask = cpu := by
      simp [cpumaskFirst,forEachCpu,List.head?_filter,found]
    obtain ⟨member,range,lower⟩ := List.find?_range_eq_some.mp found
    rw [first]
    exact ⟨(List.mem_range.mp range).le,fun _ => member,fun other lt => by simpa using lower other lt⟩
  | none =>
    have first : cpumaskFirst nrCpuIds mask = nrCpuIds := by
      simp [cpumaskFirst,forEachCpu,List.head?_filter,found]
    have empty := List.find?_range_eq_none.mp found
    rw [first]
    exact ⟨le_rfl,fun lt => absurd lt (lt_irrefl _),fun cpu lt => by simpa using empty cpu lt⟩

theorem cpumaskFirst_eq {nrCpuIds first : ℕ} {mask : Cpumask} (bound : first ≤ nrCpuIds)
    (member : first < nrCpuIds → mask first = true) (lower : ∀ cpu < first, mask cpu = false) :
    cpumaskFirst nrCpuIds mask = first := by
  obtain ⟨bound',member',lower'⟩ := cpumaskFirst_spec nrCpuIds mask
  rcases Nat.lt_trichotomy (cpumaskFirst nrCpuIds mask) first with below | same | above
  · exact absurd ((lower _ below).symm.trans (member' (by omega))) Bool.false_ne_true
  · exact same
  · exact absurd ((lower' _ above).symm.trans (member (by omega))) Bool.false_ne_true

/-- `p->policy`; the policies that no code here tells apart are `normal`. -/
inductive SchedPolicy where
  | normal
  | fifo
  | rr
  | deadline
deriving DecidableEq

inductive TaskEvent where
  | putPrevTask
  | pickNextTask
  | taskWake
  | taskMigrate
  | taskUpdate
  | irqUpdate
deriving DecidableEq

inductive LseTaskClass where
  | idle
  | background
  | normal
  | foreground
  | rt
  | deadline
deriving DecidableEq

def defaultPrio : ℤ := 120
def ravgHistSize : ℕ := 5

/-- What the extension reads of a `struct task_struct`. -/
structure TaskStruct where
  isIdle : Bool
  policy : SchedPolicy
  prio : ℤ
  /-- `task_nice(p)`. -/
  nice : ℤ
  /-- `task_on_rq_queued(p)`. -/
  onRq : Bool
  /-- `task_cpu(p)`. -/
  cpu : ℕ
  nrCpusAllowed : ℕ
  migrationDisabled : Bool
  /-- `cpumask_any(p->cpus_ptr)`. -/
  cpusAny : ℕ

/-- `struct lse_task_struct`. The node `dsq_node` is the task's place in the
    queues of `DsqState`. -/
structure LseTaskStruct where
  markStart : ℕ
  windowStart : ℕ
  sum : ℕ
  sumHistory : List ℕ
  cidx : ℕ
  demand : ℕ
  demandScaled : ℕ
  taskClass : LseTaskClass
  boostPct : ℕ
  priorityHint : ℕ
  onDsq : Bool
deriving DecidableEq

def initLseTaskStruct (p : TaskStruct) : LseTaskStruct where
  markStart := 0
  windowStart := 0
  sum := 0
  sumHistory := List.replicate ravgHistSize 0
  cidx := 0
  demand := 0
  demandScaled := 0
  taskClass := .normal
  boostPct := 1024
  priorityHint := (p.prio % 256).toNat
  onDsq := false

/-- What the extension reads of a `struct rq`. -/
structure Rq where
  curr : ℕ
  idle : ℕ

/-- The load accounting of a `struct lse_rq`. -/
structure LseRq where
  windowStart : ℕ
  latestClock : ℕ
  prevWindowSize : ℕ
  taskExecScale : ℕ
  prevRunnableSum : ℕ
  currRunnableSum : ℕ
deriving DecidableEq

/-- What the load tracker reads of cpufreq and the topology about a CPU: the
    maximum and the current frequency of the policy that `cpufreq_cpu_get_raw`
    returns (0 when it returns none) and `arch_scale_cpu_capacity`. -/
structure FreqView where
  maxFreq : ℕ
  curFreq : ℕ
  capacity : ℕ

/-- The time-related conditions under which the load tracker calls `LSE_BUG`. -/
inductive LseBug where
  | wallclockBeforeLatestClock
  | wallclockBeforeWindowStart
  | markStartAheadOfWindow
deriving DecidableEq

/-- The file-scope variables behind the load tracker, and what it did that is
    visible outside: `rollovers` are the window starts for which the rollover
    `irq_work` was queued and `bugs` the `LSE_BUG` calls, both newest first. -/
structure Track where
  slimWaltCtrl : ℤ
  ravgWindow : ℕ
  newRavgWindow : ℕ
  scaleDemandDivisor : ℕ
  rolloverLastqWs : ℕ
  tickSchedClock : ℕ
  windowStatsPolicy : ℤ
  fgPrioThreshold : ℤ
  boostBgPct : ℤ
  boostFgPct : ℤ
  boostRtPct : ℤ
  clockSuspended : Bool
  clockLast : ℕ
  rollovers : List ℕ
  bugs : List LseBug

/-- A dispatch queue: `lse_gdsqs[idx]` or `per_cpu(lse_pcp_dsq, cpu)`. -/
inductive DsqRef where
  | gdsq (idx : ℕ)
  | pcp (cpu : ℕ)
deriving DecidableEq

structure LseDispatchQ where
  fifo : List ℕ
  nr : ℤ
  id : ℕ
  lastConsumeAt : ℕ
  isTimeout : Bool
deriving DecidableEq

structure LsePcpDsqInfo where
  rtime : ℤ
  pcpRound : Bool
deriving DecidableEq

/-- The file-scope variables of the dispatch queues, with `jiffies` and the
    switch `slim_stats` of the monitor that guards their hook. -/
structure DsqState where
  slimStats : ℤ
  enable : ℤ
  jiffies : ℕ
  queue : DsqRef → LseDispatchQ
  currIdxBig : ℕ
  currIdxLittle : ℕ
  rtime : ℕ → ℤ
  pcpInfo : ℕ → LsePcpDsqInfo
  lastScanJf : ℕ → ℕ

/-- The shadow-tick timers: `armed` is `lse_shadow_tick_armed` and `queuedOn` the
    CPU on which a CPU's timer is queued, if it is. -/
structure ShadowTick where
  inited : Bool
  highresTickCtrl : ℕ
  armed : ℕ → Bool
  queuedOn : ℕ → Option ℕ

/-- The state of the extension on one machine. `lts` is what
    `get_lse_task_struct` finds, and `msecsToJiffies` the kernel's conversion. -/
structure World where
  nrCpuIds : ℕ
  possible : Cpumask
  online : Cpumask
  msecsToJiffies : ℕ → ℕ
  track : Track
  rq : ℕ → Rq
  lrq : ℕ → LseRq
  freq : ℕ → FreqView
  task : ℕ → TaskStruct
  lts : ℕ → Option LseTaskStruct
  dsq : DsqState
  shadow : ShadowTick

/-- Store a task's record. -/
def World.setLts (w : World) (t : ℕ) (lts : LseTaskStruct) : World :=
  { w with lts := Function.update w.lts t (some lts) }

/-- What holds of the record that is stored for a task, if one is, and of the records of all
    other tasks, holds of every record. -/
theorem stored_records {records : ℕ → Option LseTaskStruct} {t : ℕ} {record : Option LseTaskStruct}
    {holds : ℕ → LseTaskStruct → Prop} (own : ∀ lts, record = some lts → holds t lts)
    (others : ∀ u, u ≠ t → ∀ lts, records u = some lts → holds u lts) :
    ∀ u lts, Function.update records t record u = some lts → holds u lts :=
  (Function.forall_update_iff records (fun u record => ∀ lts, record = some lts → holds u lts)).mpr ⟨own,others⟩

/-- A task of no special kind: class normal, allowed on every CPU, on a run queue. -/
def plainTask : TaskStruct where
  isIdle := false
  policy := .normal
  prio := defaultPrio
  nice := 0
  onRq := true
  cpu := 0
  nrCpusAllowed := 8
  migrationDisabled := false
  cpusAny := 0

/-- The state right after the module is loaded with its default settings, on a
    machine with the given number of CPUs that run at their full capacity. Each CPU
    runs its idle task, which has its number; every task has a fresh record. -/
def World.boot (nrCpuIds : ℕ) (task : ℕ → TaskStruct) : World where
  nrCpuIds := nrCpuIds
  possible := fun cpu => cpu < nrCpuIds
  online := fun cpu => cpu < nrCpuIds
  msecsToJiffies := fun ms => (ms + 3) / 4
  track :=
    { slimWaltCtrl := 1, ravgWindow := 8000000, newRavgWindow := 8000000, scaleDemandDivisor := 7812
      rolloverLastqWs := 0, tickSchedClock := 0, windowStatsPolicy := 2, fgPrioThreshold := defaultPrio - 2
      boostBgPct := 1024, boostFgPct := 1280, boostRtPct := 1536, clockSuspended := false, clockLast := 0
      rollovers := [], bugs := [] }
  rq := fun cpu => ⟨cpu,cpu⟩
  lrq := fun _ =>
    { windowStart := 0, latestClock := 0, prevWindowSize := 8000000, taskExecScale := 1024
      prevRunnableSum := 0, currRunnableSum := 0 }
  freq := fun _ => ⟨1,1,1024⟩
  task := task
  lts := fun t => some (initLseTaskStruct (task t))
  dsq :=
    { slimStats := 0, enable := 1, jiffies := 0, queue := fun _ => ⟨[],0,0,0,false⟩, currIdxBig := 5
      currIdxLittle := 8, rtime := fun _ => 0, pcpInfo := fun _ => ⟨0,false⟩, lastScanJf := fun _ => 0 }
  shadow := ⟨true,0,fun _ => false,fun _ => none⟩

end LunarSched.Kernel
