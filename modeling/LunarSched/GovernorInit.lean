import LunarSched.Governor

/-!
How the governor is attached to a policy and taken off it (`lse_gov_init` and
`lse_gov_exit`), in either mode for the tunables and with every failure on the way. The
policies are numbered, and so are the objects and threads, in the order in which they are
made. The labels of the source are functions that fall through to each other.
-/
namespace LunarSched.GovernorInit
open LunarSched.Kernel LunarSched.Governor

/-- What is fixed for a run: `have_governor_per_policy()`, and `policy->cpu`. -/
structure Setup where
  nrCpuIds : ℕ
  perPolicy : Bool
  policyCpu : ℕ → ℕ

/-- `struct lse_gov_policy` with its pointers. -/
structure LgPolicy where
  policy : ℕ
  tunables : Option ℕ
  thread : Option ℕ
  record : LseGovPolicy

/-- `struct lse_gov_tunables` with its `attr_set`; the hooks are listed by their policies. -/
structure TunablesObject where
  usageCount : ℤ
  policyList : List ℕ
  tunables : LseGovTunables

/-- What `kfree` is called for. -/
inductive GovObject where
  | lgPolicy (n : ℕ)
  | tunables (n : ℕ)
  deriving DecidableEq, Repr

/-- The variables of the file and what the objects and policies hold. -/
structure Gov where
  policy : ℕ → CpufreqPolicy
  governorData : ℕ → Option ℕ
  dvfsPossibleFromAnyCpu : ℕ → Bool
  globalTunables : Option ℕ
  tunablesLock : Bool
  lgPolicy : ℕ → LgPolicy
  lgAllocated : ℕ
  tunables : ℕ → TunablesObject
  tunablesAllocated : ℕ
  freed : List GovObject
  threads : List ℕ
  threadsCreated : ℕ
  cachedTunables : ℕ → Option ℕ
  cachedAllocated : ℕ
  govCpu : ℕ → Option ℕ

/-- What the kernel answers to an init: whether fast switching is turned on, whether
    memory is there, and the error codes, 0 for none. -/
structure InitOutcome where
  fastSwitch : Bool
  policyAlloc : Bool
  kthreadCreate : ℤ
  setscheduler : ℤ
  tunablesAlloc : Bool
  kobjectAdd : ℤ

def ebusy : ℤ := -16
def enomem : ℤ := -12
def einval : ℤ := -22

def Gov.setPolicy (s : Gov) (p : ℕ) (f : CpufreqPolicy → CpufreqPolicy) : Gov :=
  { s with policy := Function.update s.policy p (f (s.policy p)) }
def Gov.setLgPolicy (s : Gov) (lg : ℕ) (f : LgPolicy → LgPolicy) : Gov :=
  { s with lgPolicy := Function.update s.lgPolicy lg (f (s.lgPolicy lg)) }
def Gov.setTunables (s : Gov) (tun : ℕ) (f : TunablesObject → TunablesObject) : Gov :=
  { s with tunables := Function.update s.tunables tun (f (s.tunables tun)) }
def Gov.setGovernorData (s : Gov) (p : ℕ) (data : Option ℕ) : Gov :=
  { s with governorData := Function.update s.governorData p data }

/-- `cpufreq_enable_fast_switch`. -/
def cpufreqEnableFastSwitch (s : Gov) (p : ℕ) (possible : Bool) : Gov :=
  if possible then s.setPolicy p (fun policy => { policy with fastSwitchEnabled := true }) else s

def cpufreqDisableFastSwitch (s : Gov) (p : ℕ) : Gov :=
  s.setPolicy p (fun policy => { policy with fastSwitchEnabled := false })

def kthreadStop (s : Gov) (thread : ℕ) : Gov := { s with threads := s.threads.erase thread }

def mutexLock (s : Gov) : Gov := { s with tunablesLock := true }
def mutexUnlock (s : Gov) : Gov := { s with tunablesLock := false }

/-- `gov_attr_set_get`. -/
def govAttrSetGet (s : Gov) (tun lg : ℕ) : Gov :=
  s.setTunables tun (fun o => { o with usageCount := o.usageCount + 1, policyList := lg :: o.policyList })

/-- `gov_attr_set_put`, and the count that it returns. -/
def govAttrSetPut (s : Gov) (tun lg : ℕ) : ℤ × Gov :=
  ((s.tunables tun).usageCount - 1,
    s.setTunables tun (fun o => { o with usageCount := o.usageCount - 1, policyList := o.policyList.erase lg }))

def lseGovPolicyAlloc (s : Gov) (p : ℕ) : ℕ × Gov :=
  (s.lgAllocated,{ s with
    lgPolicy := Function.update s.lgPolicy s.lgAllocated ⟨p,none,none,Governor.lseGovPolicyAlloc⟩
    lgAllocated := s.lgAllocated + 1 })

def lseGovPolicyFree (s : Gov) (lg : ℕ) : Gov := { s with freed := .lgPolicy lg :: s.freed }

def fastSwitchEnabled (s : Gov) (lg : ℕ) : Bool := (s.policy (s.lgPolicy lg).policy).fastSwitchEnabled

def lseGovKthreadCreate (s : Gov) (lg : ℕ) (o : InitOutcome) : ℤ × Gov :=
  if fastSwitchEnabled s lg then (0,s)
  else if o.kthreadCreate ≠ 0 then (o.kthreadCreate,s)
  else
    let thread := s.threadsCreated
    let s := { s with threads := thread :: s.threads, threadsCreated := s.threadsCreated + 1 }
    if o.setscheduler ≠ 0 then (o.setscheduler,kthreadStop s thread)
    else (0,s.setLgPolicy lg (fun l => { l with thread := some thread }))

def lseGovKthreadStop (s : Gov) (lg : ℕ) : Gov :=
  if fastSwitchEnabled s lg then s
  else ((s.lgPolicy lg).thread.map (kthreadStop s)).getD s

/-- `lse_gov_tunables_alloc` when there is memory, with `gov_attr_set_init`. -/
def lseGovTunablesAlloc (setup : Setup) (s : Gov) (lg : ℕ) : ℕ × Gov :=
  let tun := s.tunablesAllocated
  (tun,{ s with
    tunables := Function.update s.tunables tun ⟨1,[lg],⟨0,0,0,false⟩⟩
    tunablesAllocated := s.tunablesAllocated + 1
    globalTunables := if setup.perPolicy then s.globalTunables else some tun })

def lseGovTunablesFree (setup : Setup) (s : Gov) (tun : ℕ) : Gov :=
  { s with
    globalTunables := if setup.perPolicy then s.globalTunables else none
    freed := .tunables tun :: s.freed }

/-- `lse_gov_tunables_save`. Nothing is copied. -/
def lseGovTunablesSave (setup : Setup) (s : Gov) (p : ℕ) (memory : Bool) : Gov :=
  if (s.cachedTunables (setup.policyCpu p)).isSome ∨ ¬ memory then s
  else { s with
    cachedTunables := fun cpu => if (s.policy p).relatedCpus cpu then some s.cachedAllocated else s.cachedTunables cpu
    cachedAllocated := s.cachedAllocated + 1 }

def lseGovCpuReset (s : Gov) (lg : ℕ) : Gov :=
  { s with govCpu := fun cpu => if (s.policy (s.lgPolicy lg).policy).cpus cpu then none else s.govCpu cpu }

def defaultTunables : LseGovTunables := ⟨defaultTargetLoad,-1,-1,true⟩

/-- The label `disable_fast_switch` of `lse_gov_init`. -/
def disableFastSwitch (s : Gov) (p : ℕ) (ret : ℤ) : ℤ × Gov := (ret,cpufreqDisableFastSwitch s p)

def freeLgPolicy (s : Gov) (p lg : ℕ) (ret : ℤ) : ℤ × Gov := disableFastSwitch (lseGovPolicyFree s lg) p ret

def stopKthread (s : Gov) (p lg : ℕ) (ret : ℤ) : ℤ × Gov := freeLgPolicy (mutexUnlock (lseGovKthreadStop s lg)) p lg ret

/-- The label `fail`. The kobject of the tunables has no release function. -/
def fail (setup : Setup) (s : Gov) (p lg tun : ℕ) (ret : ℤ) : ℤ × Gov :=
  stopKthread (lseGovTunablesFree setup (s.setGovernorData p none) tun) p lg ret

/-- `policy->governor_data` and `lg_policy->tunables` are set. -/
def linkTunables (s : Gov) (p lg tun : ℕ) : Gov :=
  (s.setGovernorData p (some lg)).setLgPolicy lg (fun l => { l with tunables := some tun })

def newTunables (setup : Setup) (s : Gov) (p lg : ℕ) : Gov :=
  let (tun,s) := lseGovTunablesAlloc setup s lg
  linkTunables (s.setTunables tun (fun t => { t with tunables := defaultTunables })) p lg tun

/-- The part of `lse_gov_init` without `global_tunables`. -/
def initTunables (setup : Setup) (s : Gov) (p lg : ℕ) (o : InitOutcome) : ℤ × Gov :=
  if ¬ o.tunablesAlloc then stopKthread s p lg enomem
  else
    let tun := s.tunablesAllocated
    let s := newTunables setup s p lg
    if o.kobjectAdd ≠ 0 then fail setup s p lg tun o.kobjectAdd
    else (0,mutexUnlock { s with dvfsPossibleFromAnyCpu := Function.update s.dvfsPossibleFromAnyCpu p true })

/-- The part that shares them. -/
def joinTunables (setup : Setup) (s : Gov) (p lg tun : ℕ) : ℤ × Gov :=
  if setup.perPolicy then stopKthread s p lg einval
  else
    (0,mutexUnlock (govAttrSetGet (linkTunables s p lg tun) tun lg))

def lseGovInit (setup : Setup) (s : Gov) (p : ℕ) (o : InitOutcome) : ℤ × Gov :=
  if (s.governorData p).isSome then (ebusy,s)
  else
    let s := cpufreqEnableFastSwitch s p o.fastSwitch
    if ¬ o.policyAlloc then disableFastSwitch s p enomem
    else
      let (lg,s) := lseGovPolicyAlloc s p
      let (ret,s) := lseGovKthreadCreate s lg o
      if ret ≠ 0 then freeLgPolicy s p lg ret
      else
        let s := mutexLock s
        match s.globalTunables with
        | some tun => joinTunables setup s p lg tun
        | none => initTunables setup s p lg o

/-- `lse_gov_exit` of a policy with this data; `memory` is for the cached tunables. -/
def detach (setup : Setup) (s : Gov) (p lg tun : ℕ) (memory : Bool) : Gov :=
  let s := mutexLock s
  let (count,s) := govAttrSetPut s tun lg
  let s := s.setGovernorData p none
  let s := if count = 0 then lseGovTunablesFree setup (lseGovTunablesSave setup s p memory) tun else s
  let s := lseGovKthreadStop (mutexUnlock s) lg
  cpufreqDisableFastSwitch (lseGovPolicyFree (lseGovCpuReset s lg) lg) p

/-- `lse_gov_exit`, which reads the policy's data and its tunables without a check. -/
def lseGovExit (setup : Setup) (s : Gov) (p : ℕ) (memory : Bool) : Option Gov :=
  (s.governorData p).bind (fun lg => (s.lgPolicy lg).tunables.map (fun tun => detach setup s p lg tun memory))

/-! ### What init does -/

/-- The running threads when that of the policy has been stopped. -/
def stoppedThreads (s : Gov) (lg : ℕ) : List ℕ :=
  if fastSwitchEnabled s lg then s.threads else ((s.lgPolicy lg).thread.map s.threads.erase).getD s.threads

theorem lseGovKthreadStop_eq (s : Gov) (lg : ℕ) : lseGovKthreadStop s lg = { s with threads := stoppedThreads s lg } := by
  unfold lseGovKthreadStop stoppedThreads
  split
  · rfl
  · cases (s.lgPolicy lg).thread with
    | none => rfl
    | some thread => rfl

/-- The state with a new object for the policy, and with its thread. -/
def started (s : Gov) (p : ℕ) (fast : Bool) (thread : Option ℕ) (threads : List ℕ) (created : ℕ) : Gov :=
  { s with
    policy := (cpufreqEnableFastSwitch s p fast).policy
    lgPolicy := Function.update s.lgPolicy s.lgAllocated ⟨p,none,thread,Governor.lseGovPolicyAlloc⟩
    lgAllocated := s.lgAllocated + 1
    threads := threads
    threadsCreated := created }

theorem started_alloc (s : Gov) (p : ℕ) (fast : Bool) :
    lseGovPolicyAlloc (cpufreqEnableFastSwitch s p fast) p =
      (s.lgAllocated,started s p fast none s.threads s.threadsCreated) := by
  cases fast with
  | false => rfl
  | true => rfl

/-- The policy has its thread, or needs none. -/
def Threaded (s : Gov) (p : ℕ) (fast : Bool) (thread : Option ℕ) (threads : List ℕ) (created : ℕ) : Prop :=
  (((cpufreqEnableFastSwitch s p fast).policy p).fastSwitchEnabled = true ∧
    thread = none ∧ threads = s.threads ∧ created = s.threadsCreated) ∨
  (((cpufreqEnableFastSwitch s p fast).policy p).fastSwitchEnabled = false ∧
    thread = some s.threadsCreated ∧ threads = s.threadsCreated :: s.threads ∧ created = s.threadsCreated + 1)

theorem started_fastSwitch (s : Gov) (p : ℕ) (fast : Bool) (thread : Option ℕ) (threads : List ℕ) (created : ℕ) :
    fastSwitchEnabled (started s p fast thread threads created) s.lgAllocated =
      ((cpufreqEnableFastSwitch s p fast).policy p).fastSwitchEnabled := by
  simp [started,fastSwitchEnabled]

theorem threaded_stops {s : Gov} {p : ℕ} {fast : Bool} {thread : Option ℕ} {threads : List ℕ} {created : ℕ}
    (threaded : Threaded s p fast thread threads created) :
    stoppedThreads (started s p fast thread threads created) s.lgAllocated = s.threads := by
  rw [stoppedThreads,started_fastSwitch]
  rcases threaded with ⟨on,_,rfl,_⟩ | ⟨off,rfl,rfl,_⟩
  · rw [if_pos on]
    rfl
  · simp [off,started]

theorem threaded_created {s : Gov} {p : ℕ} {fast : Bool} {thread : Option ℕ} {threads : List ℕ} {created : ℕ}
    (threaded : Threaded s p fast thread threads created) : s.threadsCreated ≤ created := by
  rcases threaded with ⟨_,_,_,rfl⟩ | ⟨_,_,_,rfl⟩
  · exact le_rfl
  · exact Nat.le_succ _

/-- Creating the thread fails and leaves none, or the policy has what it needs. -/
theorem lseGovKthreadCreate_cases (s : Gov) (p : ℕ) (fast : Bool) (o : InitOutcome) :
    (∃ ret created, ret ≠ 0 ∧ s.threadsCreated ≤ created ∧
      lseGovKthreadCreate (started s p fast none s.threads s.threadsCreated) s.lgAllocated o =
        (ret,started s p fast none s.threads created)) ∨
    ∃ thread threads created, Threaded s p fast thread threads created ∧
      lseGovKthreadCreate (started s p fast none s.threads s.threadsCreated) s.lgAllocated o =
        (0,started s p fast thread threads created) := by
  rw [lseGovKthreadCreate,started_fastSwitch]
  by_cases on : ((cpufreqEnableFastSwitch s p fast).policy p).fastSwitchEnabled = true
  · exact .inr ⟨none,s.threads,s.threadsCreated,.inl ⟨on,rfl,rfl,rfl⟩,if_pos on⟩
  · rw [if_neg on]
    by_cases create : o.kthreadCreate ≠ 0
    · rw [if_pos create]
      exact .inl ⟨_,_,create,le_rfl,rfl⟩
    · rw [if_neg create]
      by_cases scheduler : o.setscheduler ≠ 0
      · rw [if_pos scheduler]
        refine .inl ⟨_,s.threadsCreated + 1,scheduler,Nat.le_succ _,?_⟩
        simp [started,kthreadStop]
      · rw [if_neg scheduler]
        refine .inr ⟨_,_,_,.inr ⟨Bool.eq_false_iff.mpr on,rfl,rfl,rfl⟩,?_⟩
        simp [started,Gov.setLgPolicy]

/-- The ways that an init can go. -/
theorem lseGovInit_cases (setup : Setup) (s : Gov) (p : ℕ) (o : InitOutcome) :
    ((s.governorData p).isSome = true ∧ lseGovInit setup s p o = (ebusy,s)) ∨
    s.governorData p = none ∧
      (lseGovInit setup s p o = disableFastSwitch (cpufreqEnableFastSwitch s p o.fastSwitch) p enomem ∨
      (∃ ret created, ret ≠ 0 ∧ s.threadsCreated ≤ created ∧ lseGovInit setup s p o =
        freeLgPolicy (started s p o.fastSwitch none s.threads created) p s.lgAllocated ret) ∨
      ∃ thread threads created, Threaded s p o.fastSwitch thread threads created ∧
        lseGovInit setup s p o = match s.globalTunables with
          | some tun => joinTunables setup (mutexLock (started s p o.fastSwitch thread threads created)) p s.lgAllocated tun
          | none => initTunables setup (mutexLock (started s p o.fastSwitch thread threads created)) p s.lgAllocated o) := by
  by_cases attached : (s.governorData p).isSome = true
  · exact .inl ⟨attached,if_pos attached⟩
  · refine .inr ⟨by simpa using attached,?_⟩
    rw [lseGovInit,if_neg attached]
    by_cases memory : ¬ o.policyAlloc
    · exact .inl (if_pos memory)
    · rw [if_neg memory,started_alloc]
      rcases lseGovKthreadCreate_cases s p o.fastSwitch o with
        ⟨ret,created,failed,more,same⟩ | ⟨thread,threads,created,threaded,same⟩
      · refine .inr (.inl ⟨ret,created,failed,more,?_⟩)
        simp only [same]
        exact if_pos failed
      · refine .inr (.inr ⟨thread,threads,created,threaded,?_⟩)
        simp only [same,ne_eq,not_true_eq_false,if_false]
        rfl

/-- The object has been allocated. -/
def Made (s : Gov) : GovObject → Prop
  | .lgPolicy n => n < s.lgAllocated
  | .tunables n => n < s.tunablesAllocated

/-- What has been allocated stays so. -/
theorem made_of_le {s s' : Gov} (lgPolicies : s.lgAllocated ≤ s'.lgAllocated)
    (tunables : s.tunablesAllocated ≤ s'.tunablesAllocated) {o : GovObject} (made : Made s o) : Made s' o := by
  cases o with
  | lgPolicy n => exact Nat.lt_of_lt_of_le made lgPolicies
  | tunables n => exact Nat.lt_of_lt_of_le made tunables

/-- What a failed init leaves behind: the policy has fast switching turned off, what was
    allocated is freed, and nothing else has changed. -/
structure Failed (s : Gov) (p : ℕ) (s' : Gov) : Prop where
  governorData : s'.governorData = s.governorData
  globalTunables : s'.globalTunables = s.globalTunables
  unlocked : s'.tunablesLock = false
  threads : s'.threads = s.threads
  threadsCreated : s.threadsCreated ≤ s'.threadsCreated
  fastSwitch : (s'.policy p).fastSwitchEnabled = false
  policy : ∀ q ≠ p, s'.policy q = s.policy q
  dvfsPossibleFromAnyCpu : s'.dvfsPossibleFromAnyCpu = s.dvfsPossibleFromAnyCpu
  cachedTunables : s'.cachedTunables = s.cachedTunables
  govCpu : s'.govCpu = s.govCpu
  lgPolicy : ∀ lg < s.lgAllocated, s'.lgPolicy lg = s.lgPolicy lg
  tunables : ∀ tun < s.tunablesAllocated, s'.tunables tun = s.tunables tun
  allocated : ∀ o, Made s o → Made s' o
  freed : ∃ new, s'.freed = new ++ s.freed ∧ new.Nodup ∧ ∀ o, o ∈ new ↔ Made s' o ∧ ¬ Made s o

/-- What holds at the labels `stop_kthread` and `free_lg_policy`, with the new object still
    to be freed. -/
structure Unwinding (s : Gov) (p : ℕ) (x : Gov) : Prop where
  governorData : x.governorData = s.governorData
  globalTunables : x.globalTunables = s.globalTunables
  threadsCreated : s.threadsCreated ≤ x.threadsCreated
  policy : ∀ q ≠ p, x.policy q = s.policy q
  dvfsPossibleFromAnyCpu : x.dvfsPossibleFromAnyCpu = s.dvfsPossibleFromAnyCpu
  cachedTunables : x.cachedTunables = s.cachedTunables
  govCpu : x.govCpu = s.govCpu
  lgPolicy : ∀ lg < s.lgAllocated, x.lgPolicy lg = s.lgPolicy lg
  tunables : ∀ tun < s.tunablesAllocated, x.tunables tun = s.tunables tun
  lgAllocated : x.lgAllocated = s.lgAllocated + 1
  freed : ∃ n, x.tunablesAllocated = s.tunablesAllocated + n ∧ n ≤ 1 ∧
    x.freed = (if n = 1 then [.tunables s.tunablesAllocated] else []) ++ s.freed

section
variable {setup : Setup} {s x : Gov} {p : ℕ} {ret : ℤ} {fast : Bool} {thread : Option ℕ} {threads : List ℕ} {created : ℕ}

theorem disabled_policy (x : Gov) (p : ℕ) :
    ((cpufreqDisableFastSwitch x p).policy p).fastSwitchEnabled = false ∧
      ∀ q ≠ p, (cpufreqDisableFastSwitch x p).policy q = x.policy q := by
  constructor
  · simp [cpufreqDisableFastSwitch,Gov.setPolicy]
  · intro q other
    simp [cpufreqDisableFastSwitch,Gov.setPolicy,other]

theorem enabled_policy (s : Gov) (p : ℕ) (fast : Bool) :
    ∀ q ≠ p, (cpufreqEnableFastSwitch s p fast).policy q = s.policy q := by
  intro q other
  cases fast with
  | false => rfl
  | true => simp [cpufreqEnableFastSwitch,Gov.setPolicy,other]

/-- Turning fast switching on changes the policy only. -/
theorem enable_eq (s : Gov) (p : ℕ) (fast : Bool) :
    ∃ policy, cpufreqEnableFastSwitch s p fast = { s with policy := policy } ∧ ∀ q ≠ p, policy q = s.policy q := by
  cases fast with
  | false => exact ⟨s.policy,rfl,fun _ _ => rfl⟩
  | true => exact ⟨_,rfl,enabled_policy s p true⟩

theorem disableFastSwitch_failed (unlocked : s.tunablesLock = false) :
    Failed s p (disableFastSwitch (cpufreqEnableFastSwitch s p fast) p ret).2 := by
  obtain ⟨policy,same,others⟩ := enable_eq s p fast
  obtain ⟨off,kept⟩ := disabled_policy { s with policy := policy } p
  rw [same]
  exact { governorData := rfl, globalTunables := rfl, unlocked := unlocked, threads := rfl
          threadsCreated := le_rfl, fastSwitch := off
          policy := fun q other => (kept q other).trans (others q other), dvfsPossibleFromAnyCpu := rfl
          cachedTunables := rfl, govCpu := rfl, lgPolicy := fun _ _ => rfl, tunables := fun _ _ => rfl
          allocated := fun o made => made_of_le le_rfl le_rfl made
          freed := ⟨[],rfl,.nil,fun o => by cases o <;> simp [Made,disableFastSwitch,cpufreqDisableFastSwitch,Gov.setPolicy]⟩ }

theorem started_unwinding (more : s.threadsCreated ≤ created) : Unwinding s p (started s p fast thread threads created) := by
  refine { governorData := rfl, globalTunables := rfl, threadsCreated := more, policy := enabled_policy s p fast
           dvfsPossibleFromAnyCpu := rfl, cachedTunables := rfl, govCpu := rfl, lgPolicy := ?_, tunables := fun _ _ => rfl, lgAllocated := rfl
           freed := ⟨0,rfl,by simp,rfl⟩ }
  intro lg below
  exact Function.update_of_ne below.ne _ _

theorem freeLgPolicy_failed (unwinding : Unwinding s p x) (running : x.threads = s.threads)
    (unlocked : x.tunablesLock = false) : Failed s p (freeLgPolicy x p s.lgAllocated ret).2 := by
  obtain ⟨n,tunablesAllocated,small,freed⟩ := unwinding.freed
  obtain ⟨off,kept⟩ := disabled_policy (lseGovPolicyFree x s.lgAllocated) p
  refine { governorData := unwinding.governorData, globalTunables := unwinding.globalTunables, unlocked := unlocked
           threads := running, threadsCreated := unwinding.threadsCreated, fastSwitch := off
           policy := fun q other => (kept q other).trans (unwinding.policy q other)
           dvfsPossibleFromAnyCpu := unwinding.dvfsPossibleFromAnyCpu, cachedTunables := unwinding.cachedTunables
           govCpu := unwinding.govCpu, lgPolicy := unwinding.lgPolicy, tunables := unwinding.tunables
           allocated := fun o made => made_of_le ?_ ?_ made
           freed := ⟨.lgPolicy s.lgAllocated :: if n = 1 then [.tunables s.tunablesAllocated] else [],?_,?_,?_⟩ }
  · exact unwinding.lgAllocated ▸ Nat.le_succ _
  · exact tunablesAllocated ▸ Nat.le_add_right _ _
  · exact congrArg (GovObject.lgPolicy s.lgAllocated :: ·) freed
  · split <;> simp
  · intro o
    cases o with
    | lgPolicy m =>
      change _ ↔ m < x.lgAllocated ∧ ¬ m < s.lgAllocated
      rw [unwinding.lgAllocated]
      split <;> simp <;> omega
    | tunables m =>
      change _ ↔ m < x.tunablesAllocated ∧ ¬ m < s.tunablesAllocated
      rw [tunablesAllocated]
      split <;> simp <;> omega

/-- The label before it stops the thread and releases the lock. -/
theorem stopKthread_failed (unwinding : Unwinding s p x) (stops : stoppedThreads x s.lgAllocated = s.threads) :
    Failed s p (stopKthread x p s.lgAllocated ret).2 := by
  rw [stopKthread,lseGovKthreadStop_eq,stops]
  exact freeLgPolicy_failed { unwinding with } rfl rfl

/-- Tunables that could not be added to sysfs are taken back. -/
theorem fail_failed (free : s.governorData p = none) (empty : s.globalTunables = none)
    (threaded : Threaded s p fast thread threads created) :
    Failed s p (fail setup (newTunables setup (mutexLock (started s p fast thread threads created)) p s.lgAllocated) p
      s.lgAllocated s.tunablesAllocated ret).2 := by
  refine stopKthread_failed ?_ ?_
  · refine { governorData := ?_, globalTunables := ?_, threadsCreated := threaded_created threaded
             policy := enabled_policy s p fast, dvfsPossibleFromAnyCpu := rfl, cachedTunables := rfl, govCpu := rfl, lgPolicy := ?_, tunables := ?_, lgAllocated := rfl
             freed := ⟨1,rfl,le_rfl,rfl⟩ }
    all_goals simp only [lseGovTunablesFree,newTunables,linkTunables,lseGovTunablesAlloc,Gov.setGovernorData,
      Gov.setLgPolicy,Gov.setTunables,mutexLock,started]
    · rw [Function.update_idem,← free,Function.update_eq_self]
    · split <;> simp [empty]
    · intro lg below
      simp [below.ne]
    · intro tun below
      simp [below.ne]
  · rw [← threaded_stops threaded]
    simp [stoppedThreads,fastSwitchEnabled,lseGovTunablesFree,newTunables,linkTunables,lseGovTunablesAlloc,
      Gov.setGovernorData,Gov.setLgPolicy,Gov.setTunables,mutexLock,started]

/-- What a successful init makes of the policy: it has the new object, and this has the tunables. -/
structure Attaches (s : Gov) (p tun : ℕ) (s' : Gov) : Prop where
  governorData : s'.governorData = Function.update s.governorData p (some s.lgAllocated)
  unlocked : s'.tunablesLock = false
  own : (s'.lgPolicy s.lgAllocated).policy = p ∧ (s'.lgPolicy s.lgAllocated).tunables = some tun
  lgPolicy : ∀ lg < s.lgAllocated, s'.lgPolicy lg = s.lgPolicy lg
  lgAllocated : s'.lgAllocated = s.lgAllocated + 1
  freed : s'.freed = s.freed
  policy : ∀ q ≠ p, s'.policy q = s.policy q
  thread : (s'.threads = s.threads ∧ s'.threadsCreated = s.threadsCreated) ∨
    ((s'.policy p).fastSwitchEnabled = false ∧ (s'.lgPolicy s.lgAllocated).thread = some s.threadsCreated ∧
      s'.threads = s.threadsCreated :: s.threads ∧ s'.threadsCreated = s.threadsCreated + 1)

/-- The policy shares the tunables that there are. -/
structure Joins (s : Gov) (p tun : ℕ) (s' : Gov) : Prop extends Attaches s p tun s' where
  globalTunables : s'.globalTunables = s.globalTunables
  hook : (s'.tunables tun).usageCount = (s.tunables tun).usageCount + 1 ∧
    (s'.tunables tun).policyList = s.lgAllocated :: (s.tunables tun).policyList
  tunables : ∀ other ≠ tun, s'.tunables other = s.tunables other
  tunablesAllocated : s'.tunablesAllocated = s.tunablesAllocated

/-- The policy has new tunables, which are the global ones when these are shared. -/
structure Founds (setup : Setup) (s : Gov) (p : ℕ) (s' : Gov) : Prop extends Attaches s p s.tunablesAllocated s' where
  globalTunables : s'.globalTunables = if setup.perPolicy then none else some s.tunablesAllocated
  hook : (s'.tunables s.tunablesAllocated).usageCount = 1 ∧ (s'.tunables s.tunablesAllocated).policyList = [s.lgAllocated]
  tunables : ∀ other ≠ s.tunablesAllocated, s'.tunables other = s.tunables other
  tunablesAllocated : s'.tunablesAllocated = s.tunablesAllocated + 1

theorem joined (threaded : Threaded s p fast thread threads created) {tun : ℕ} : Joins s p tun (mutexUnlock (govAttrSetGet
    (linkTunables (mutexLock (started s p fast thread threads created)) p s.lgAllocated tun) tun s.lgAllocated)) := by
  refine { governorData := rfl, unlocked := rfl, own := ?_, lgPolicy := ?_, lgAllocated := rfl, freed := rfl
           policy := enabled_policy s p fast, thread := ?_, globalTunables := rfl, hook := ?_, tunables := ?_
           tunablesAllocated := rfl }
  all_goals simp only [mutexUnlock,govAttrSetGet,linkTunables,Gov.setTunables,Gov.setLgPolicy,Gov.setGovernorData,mutexLock,
    started]
  · simp
  · intro lg below
    simp [below.ne]
  · rcases threaded with ⟨_,_,same,none⟩ | ⟨off,own,more,next⟩
    · exact .inl ⟨same,none⟩
    · exact .inr ⟨off,by simpa using own,more,next⟩
  · simp
  · intro other away
    simp [away]

theorem founded (threaded : Threaded s p fast thread threads created) (empty : s.globalTunables = none) :
    Founds setup s p (mutexUnlock { newTunables setup (mutexLock (started s p fast thread threads created)) p s.lgAllocated with
      dvfsPossibleFromAnyCpu := Function.update s.dvfsPossibleFromAnyCpu p true }) := by
  refine { governorData := rfl, unlocked := rfl, own := ?_, lgPolicy := ?_, lgAllocated := rfl, freed := rfl
           policy := enabled_policy s p fast, thread := ?_, globalTunables := ?_, hook := ?_, tunables := ?_
           tunablesAllocated := rfl }
  all_goals simp only [mutexUnlock,newTunables,linkTunables,lseGovTunablesAlloc,Gov.setTunables,Gov.setLgPolicy,
    Gov.setGovernorData,mutexLock,started]
  · simp
  · intro lg below
    simp [below.ne]
  · rcases threaded with ⟨_,_,same,none⟩ | ⟨off,own,more,next⟩
    · exact .inl ⟨same,none⟩
    · exact .inr ⟨off,by simpa using own,more,next⟩
  · rw [empty]
  · simp
  · intro other away
    simp [away]

/-- Every init is refused, fails, or attaches the policy in one of two ways. -/
theorem lseGovInit_spec (setup : Setup) (s : Gov) (p : ℕ) (o : InitOutcome) (unlocked : s.tunablesLock = false) :
    ((s.governorData p).isSome = true ∧ lseGovInit setup s p o = (ebusy,s)) ∨
    s.governorData p = none ∧
      (((lseGovInit setup s p o).1 ≠ 0 ∧ Failed s p (lseGovInit setup s p o).2) ∨
      ((lseGovInit setup s p o).1 = 0 ∧ setup.perPolicy = false ∧ ∃ tun, s.globalTunables = some tun ∧
        Joins s p tun (lseGovInit setup s p o).2) ∨
      ((lseGovInit setup s p o).1 = 0 ∧ s.globalTunables = none ∧ Founds setup s p (lseGovInit setup s p o).2)) := by
  rcases lseGovInit_cases setup s p o with
    refused | ⟨free,noMemory | ⟨ret,created,failed,more,same⟩ | ⟨thread,threads,created,threaded,same⟩⟩
  · exact .inl refused
  · refine .inr ⟨free,.inl ?_⟩
    rw [noMemory]
    exact ⟨by simp [disableFastSwitch,enomem],disableFastSwitch_failed unlocked⟩
  · refine .inr ⟨free,.inl ?_⟩
    rw [same]
    exact ⟨failed,freeLgPolicy_failed (started_unwinding more) rfl unlocked⟩
  · refine .inr ⟨free,?_⟩
    rw [same]
    have before : Unwinding s p (started s p o.fastSwitch thread threads created) :=
      started_unwinding (threaded_created threaded)
    have unwinding : Unwinding s p (mutexLock (started s p o.fastSwitch thread threads created)) := { before with }
    cases shared : s.globalTunables with
    | some tun =>
      simp only [joinTunables]
      by_cases perPolicy : setup.perPolicy = true
      · rw [if_pos perPolicy]
        refine .inl ⟨?_,stopKthread_failed unwinding (threaded_stops threaded)⟩
        simp [stopKthread,freeLgPolicy,disableFastSwitch,einval]
      · rw [if_neg perPolicy]
        exact .inr (.inl ⟨rfl,Bool.eq_false_iff.mpr perPolicy,tun,rfl,joined threaded⟩)
    | none =>
      simp only [initTunables]
      by_cases memory : ¬ o.tunablesAlloc
      · rw [if_pos memory]
        refine .inl ⟨?_,stopKthread_failed unwinding (threaded_stops threaded)⟩
        simp [stopKthread,freeLgPolicy,disableFastSwitch,enomem]
      · rw [if_neg memory]
        by_cases failed : o.kobjectAdd ≠ 0
        · rw [if_pos failed]
          exact .inl ⟨failed,fail_failed free shared threaded⟩
        · rw [if_neg failed]
          exact .inr (.inr ⟨rfl,trivial,founded threaded shared⟩)

/-! ### What exit does -/

theorem lseGovTunablesSave_eq (setup : Setup) (s : Gov) (p : ℕ) (memory : Bool) :
    ∃ cached allocated, lseGovTunablesSave setup s p memory =
      { s with cachedTunables := cached, cachedAllocated := allocated } := by
  unfold lseGovTunablesSave
  split
  · exact ⟨s.cachedTunables,s.cachedAllocated,rfl⟩
  · exact ⟨_,_,rfl⟩

/-- The policy's object is gone, and with the last policy the tunables are. -/
structure Detaches (setup : Setup) (s : Gov) (p lg tun : ℕ) (s' : Gov) : Prop where
  governorData : s'.governorData = Function.update s.governorData p none
  unlocked : s'.tunablesLock = false
  lgPolicy : s'.lgPolicy = s.lgPolicy
  lgAllocated : s'.lgAllocated = s.lgAllocated
  policy : ∀ q ≠ p, s'.policy q = s.policy q
  threads : s'.threads = stoppedThreads s lg ∧ s'.threadsCreated = s.threadsCreated
  hook : (s'.tunables tun).usageCount = (s.tunables tun).usageCount - 1 ∧
    (s'.tunables tun).policyList = (s.tunables tun).policyList.erase lg
  tunables : ∀ other ≠ tun, s'.tunables other = s.tunables other
  tunablesAllocated : s'.tunablesAllocated = s.tunablesAllocated
  globalTunables : s'.globalTunables =
    if (s.tunables tun).usageCount - 1 = 0 ∧ setup.perPolicy = false then none else s.globalTunables
  freed : s'.freed = .lgPolicy lg :: ((if (s.tunables tun).usageCount - 1 = 0 then [.tunables tun] else []) ++ s.freed)

theorem detached (setup : Setup) (s : Gov) (p lg tun : ℕ) (memory : Bool) :
    Detaches setup s p lg tun (detach setup s p lg tun memory) := by
  by_cases last : (s.tunables tun).usageCount - 1 = 0
  · obtain ⟨cached,allocated,saved⟩ := lseGovTunablesSave_eq setup
      ((govAttrSetPut (mutexLock s) tun lg).2.setGovernorData p none) p memory
    simp only [detach,lseGovKthreadStop_eq]
    rw [show (govAttrSetPut (mutexLock s) tun lg).1 = 0 from last,if_pos rfl,saved]
    refine { governorData := rfl, unlocked := rfl, lgPolicy := rfl, lgAllocated := rfl
             policy := (disabled_policy _ p).2, threads := ⟨rfl,rfl⟩, hook := ?_, tunables := ?_
             tunablesAllocated := rfl, globalTunables := ?_, freed := ?_ }
    all_goals simp only [cpufreqDisableFastSwitch,lseGovPolicyFree,lseGovCpuReset,mutexUnlock,lseGovTunablesFree,
      govAttrSetPut,mutexLock,Gov.setPolicy,Gov.setTunables,Gov.setGovernorData]
    · simp
    · intro other away
      simp [away]
    · cases setup.perPolicy <;> simp [last]
    · rw [if_pos last]
      rfl
  · simp only [detach,lseGovKthreadStop_eq]
    rw [if_neg (show ¬ (govAttrSetPut (mutexLock s) tun lg).1 = 0 from last)]
    refine { governorData := rfl, unlocked := rfl, lgPolicy := rfl, lgAllocated := rfl
             policy := (disabled_policy _ p).2, threads := ⟨rfl,rfl⟩, hook := ?_, tunables := ?_
             tunablesAllocated := rfl, globalTunables := ?_, freed := ?_ }
    all_goals simp only [cpufreqDisableFastSwitch,lseGovPolicyFree,lseGovCpuReset,mutexUnlock,
      govAttrSetPut,mutexLock,Gov.setPolicy,Gov.setTunables,Gov.setGovernorData]
    · simp
    · intro other away
      simp [away]
    · rw [if_neg (fun both => last both.1)]
    · rw [if_neg last]
      rfl

end

end LunarSched.GovernorInit
