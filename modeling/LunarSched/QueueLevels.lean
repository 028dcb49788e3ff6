import LunarSched.Accounts
import LunarSched.DsqDepth

/-!
Which of the ten global queues are used. The layout in the header gives every queue its
tasks, but the classification knows seven of them, and six for tasks with a record. So
in every run the queues 1, 4, 5 and 7 stay empty, a timeout is seen on the queues 6, 8 and
9 at most, and the urgency never gets to its fourth level (`urgency_levels`). The running
time is charged to the queue of a task, and the accounts are of type `int`: each holds the
time charged since the last drain exactly as long as that is below 2147483648 ns
(`runtimes_exact_iff`).
-/
namespace LunarSched.QueueLevels
open LunarSched.Machine LunarSched.Kernel LunarSched.Dsq LunarSched.DsqDepth LunarSched.Runs
open LunarSched.Accounts (lseDsqOnSchedule_keeps)

/-- The global queues that the classification selects for a task with a record. -/
def classifiedLevels : List ℕ := [0,2,3,6,8,9]
/-- Those of them that the scan looks at. -/
def scannedLevels : List ℕ := [6,8,9]

/-- The calls on the queues and the schedule hook; in `others` everything but the queues and
    the accounts is taken from another state, the records of the tasks included. -/
inductive LevelEvent where
  | enqueue (t cpu : ℕ)
  | dequeue (t : ℕ)
  | scan (cpu : ℕ)
  | schedule (cpu prev next : ℕ)
  | sync
  | runtime (t execNs : ℕ)
  | others (v : World)

def levelStep (w : World) : LevelEvent → World
  | .enqueue t cpu => lseDsqEnqueueTask w t cpu
  | .dequeue t => lseDsqDequeueTask w t
  | .scan cpu => lseDsqScanTimeout w cpu
  | .schedule cpu prev next => lseDsqOnSchedule w cpu prev next
  | .sync => lseDsqSync w
  | .runtime t execNs => lseDsqAddRuntime w t execNs
  | .others v =>
    { v with dsq := { v.dsq with queue := w.dsq.queue, rtime := w.dsq.rtime, pcpInfo := w.dsq.pcpInfo } }

/-- Tasks wait on classified levels only, and timeouts are on scanned ones. -/
structure Levels (w : World) : Prop where
  tasks : ∀ idx < lseMaxGlobalDsqs, idx ∉ classifiedLevels → (w.dsq.queue (.gdsq idx)).fifo = []
  timeouts : ∀ idx < lseMaxGlobalDsqs, idx ∉ scannedLevels → (w.dsq.queue (.gdsq idx)).isTimeout = false

/-- The queue to whose account the running time of a task goes: that of its classification,
    from 5 on. -/
def chargedTo (w : World) (t : ℕ) : Option DsqRef :=
  if w.dsq.enable ≠ 0 ∧ lseDsqNonPeriodStart ≤ classified w t ∧ classified w t < lseDsqPcpBase + w.nrCpuIds then
    some (dsqOf (classified w t))
  else none

/-- The account of running time of a queue. -/
def account (w : World) : DsqRef → ℤ
  | .gdsq idx => w.dsq.rtime idx
  | .pcp cpu => (w.dsq.pcpInfo cpu).rtime

def setAccount (w : World) (rtime : ℤ) : DsqRef → World
  | .gdsq idx => { w with dsq := { w.dsq with rtime := Function.update w.dsq.rtime idx rtime } }
  | .pcp cpu =>
    let info := { w.dsq.pcpInfo cpu with rtime := rtime }
    { w with dsq := { w.dsq with pcpInfo := Function.update w.dsq.pcpInfo cpu info } }

section
variable {w : World}

theorem levels_congr {v : World} (levels : Levels w) (queue : v.dsq.queue = w.dsq.queue) : Levels v := by
  refine ⟨?_,?_⟩
  · rw [queue]
    exact levels.tasks
  · rw [queue]
    exact levels.timeouts

theorem classified_level {t : ℕ} {lts : LseTaskStruct} (present : w.lts t = some lts) :
    classified w t ∈ classifiedLevels ∨ lseDsqPcpBase ≤ classified w t := by
  rw [classified,present]
  simp only [lseDsqClassifyLts]
  by_cases pinned : (w.task t).nrCpusAllowed = 1 ∨ (w.task t).migrationDisabled = true
  · exact Or.inr ((if_pos pinned).symm ▸ Nat.le_add_right _ _)
  · refine Or.inl ?_
    rw [if_neg pinned]
    cases lts.taskClass with
    | foreground => split_ifs <;> decide
    | _ => split_ifs <;> decide

/-- From 5 on, a task without a record is classified as one with a record may be. -/
theorem classified_scanned {t : ℕ} (late : lseDsqNonPeriodStart ≤ classified w t) :
    classified w t ∈ scannedLevels ∨ lseDsqPcpBase ≤ classified w t := by
  cases present : w.lts t with
  | none =>
    left
    revert late
    rw [classified,present]
    simp only [lseDsqClassifyLts]
    split_ifs <;> decide
  | some lts =>
    refine (classified_level present).imp_left fun level => ?_
    revert late
    generalize classified w t = idx at level ⊢
    revert idx
    decide

theorem enqueue_levels (levels : Levels w) (t cpu : ℕ) : Levels (lseDsqEnqueueTask w t cpu) := by
  rcases enqueue_cases w t cpu with same | ⟨lts,present,_,_,queued⟩
  · rwa [same]
  · rw [queued]
    have away : ∀ idx < lseMaxGlobalDsqs, idx ∉ classifiedLevels → DsqRef.gdsq idx ≠ dsqOf (classified w t) := by
      intro idx low other here
      rcases classified_level present with level | pcp
      · have small : classified w t < lseDsqPcpBase := by
          revert level
          generalize classified w t = level
          intro member
          simp only [classifiedLevels,List.mem_cons,List.not_mem_nil,or_false] at member
          unfold lseDsqPcpBase lseMaxGlobalDsqs
          omega
        rw [dsqOf,if_neg (not_le.mpr small),DsqRef.gdsq.injEq] at here
        exact other (here ▸ level)
      · rw [dsqOf,if_pos pcp] at here
        cases here
    refine ⟨fun idx low other => ?_,fun idx low other => ?_⟩
    · rw [dsqEnqueue_at,if_neg (away idx low other)]
      exact levels.tasks idx low other
    · rw [dsqEnqueue_at]
      by_cases here : DsqRef.gdsq idx = dsqOf (classified w t)
      · rw [if_pos here,← here]
        exact levels.timeouts idx low other
      · rw [if_neg here]
        exact levels.timeouts idx low other

theorem clearTimeout_off (q : LseDispatchQ) (off : q.isTimeout = false) : (clearTimeout w q).isTimeout = false := by
  unfold clearTimeout
  split_ifs
  · rfl
  · exact off

theorem dequeue_levels (levels : Levels w) (t : ℕ) : Levels (lseDsqDequeueTask w t) := by
  rcases dequeue_cases w t with ⟨same,_⟩ | ⟨_,_,lts,_,_,unlinked⟩
  · rwa [same]
  · rw [unlinked]
    refine ⟨fun idx low other => ?_,fun idx low other => ?_⟩
    · rw [(dsqDequeue_queue _).1,levels.tasks idx low other,List.erase_nil]
    · rw [dsqDequeue_at]
      by_cases here : DsqRef.gdsq idx = dsqOf (classified w t)
      · rw [if_pos here]
        exact clearTimeout_off _ (here ▸ levels.timeouts idx low other)
      · rw [if_neg here]
        exact levels.timeouts idx low other

/-- A scan finds nobody waiting on the levels that are not classified, and leaves those
    below 5 alone. -/
theorem scan_levels (levels : Levels w) (cpu : ℕ) : Levels (lseDsqScanTimeout w cpu) := by
  by_cases off : w.dsq.enable = 0
  · rwa [lseDsqScanTimeout,if_pos off]
  · refine ⟨fun idx low other => ((scan_same w cpu).fifo _).trans (levels.tasks idx low other),fun idx low other => ?_⟩
    have before := levels.timeouts idx low other
    simp only [lseDsqScanTimeout,off,if_false]
    split_ifs with scanned
    · have empty : (w.dsq.queue (.gdsq idx)).fifo = [] := by
        refine levels.tasks idx low ?_
        simp only [classifiedLevels,scannedLevels,List.mem_cons,List.not_mem_nil,or_false,lseDsqNonPeriodStart] at *
        omega
      refine clearTimeout_off _ ?_
      rw [scanQueue,if_neg (fun waits => waits.1 empty)]
      exact before
    · exact before

theorem schedule_levels (levels : Levels w) (cpu prev next : ℕ) : Levels (lseDsqOnSchedule w cpu prev next) := by
  apply lseDsqOnSchedule_keeps Levels cpu prev next levels
  · exact fun v t held => enqueue_levels held t cpu
  · exact fun v t held => dequeue_levels held t
  · intro v lastScanJf held
    have noted : Levels { v with dsq := { v.dsq with lastScanJf := lastScanJf } } := levels_congr held rfl
    exact scan_levels noted cpu

theorem addRuntime_eq (t execNs : ℕ) : lseDsqAddRuntime w t execNs =
    (chargedTo w t).elim w (fun ref => setAccount w (addRuntime (account w ref) execNs) ref) := by
  unfold lseDsqAddRuntime
  by_cases off : w.dsq.enable = 0
  · rw [if_pos off,chargedTo,if_neg (fun due => due.1 off),Option.elim_none]
  · rw [if_neg off]
    by_cases pcp : lseDsqPcpBase ≤ classified w t
    · rw [if_pos pcp]
      by_cases beyond : w.nrCpuIds ≤ classified w t - lseDsqPcpBase
      · have free : chargedTo w t = none := if_neg (fun due => by omega)
        rw [free,Option.elim_none]
        exact if_pos beyond
      · have charged : chargedTo w t = some (.pcp (classified w t - lseDsqPcpBase)) := by
          rw [chargedTo,if_pos ⟨off,le_trans (by decide) pcp,by omega⟩,dsqOf,if_pos pcp]
        rw [charged,Option.elim_some]
        exact if_neg beyond
    · rw [if_neg pcp]
      by_cases late : lseDsqNonPeriodStart ≤ classified w t
      · have charged : chargedTo w t = some (.gdsq (classified w t)) := by
          rw [chargedTo,if_pos ⟨off,late,by omega⟩,dsqOf,if_neg pcp]
        rw [charged,Option.elim_some]
        exact if_pos ⟨late,not_le.mp pcp⟩
      · have free : chargedTo w t = none := if_neg (fun due => late due.2.1)
        rw [free,Option.elim_none]
        exact if_neg (fun due => late due.1)

theorem setAccount_queue (rtime : ℤ) (ref : DsqRef) : (setAccount w rtime ref).dsq.queue = w.dsq.queue := by
  cases ref with
  | gdsq idx => rfl
  | pcp cpu => rfl

theorem addRuntime_queue (t execNs : ℕ) : (lseDsqAddRuntime w t execNs).dsq.queue = w.dsq.queue := by
  rw [addRuntime_eq]
  cases chargedTo w t with
  | none => rfl
  | some ref => exact setAccount_queue _ ref

theorem sync_levels (levels : Levels w) : Levels (lseDsqSync w) := by
  by_cases off : w.dsq.enable = 0
  · refine ⟨fun idx low other => ?_,fun idx low other => ?_⟩
    · rw [sync_queue off,if_pos (by simpa [drained] using low)]
    · rw [sync_queue off,if_pos (by simpa [drained] using low)]
  · rwa [sync_on off]

theorem init_levels : Levels (lseDsqInit w) := by
  have started : ∀ idx < lseMaxGlobalDsqs,
      (lseDsqInit w).dsq.queue (.gdsq idx) = initOneDsq w.dsq.jiffies (lseDsqFlagBuiltin + idx) :=
    fun idx low => if_pos low
  refine ⟨fun idx low _ => ?_,fun idx low _ => ?_⟩
  · rw [started idx low,initOneDsq]
  · rw [started idx low,initOneDsq]

/-- One lemma for each call; what is not a call leaves the queues alone. -/
theorem levelStep_levels (w : World) (event : LevelEvent) (levels : Levels w) : Levels (levelStep w event) := by
  cases event with
  | enqueue t cpu => exact enqueue_levels levels t cpu
  | dequeue t => exact dequeue_levels levels t
  | scan cpu => exact scan_levels levels cpu
  | schedule cpu prev next => exact schedule_levels levels cpu prev next
  | sync => exact sync_levels levels
  | runtime t execNs => exact levels_congr levels (addRuntime_queue t execNs)
  | others v => exact levels_congr levels rfl

theorem run_levels (w : World) (events : List LevelEvent) : Levels (exec levelStep (lseDsqInit w) events) :=
  exec_always Levels levelStep_levels init_levels events

theorem countP_scannedLevels (p : ℕ → Bool) : scannedLevels.countP p ≤ 3 := List.countP_le_length

/-- The count over all ten queues is the one over the three that can time out. -/
theorem levels_urgency (levels : Levels w) : lseDsqUrgencySignal w = if w.dsq.enable = 0 then 0
    else 256 * scannedLevels.countP (fun idx => (w.dsq.queue (.gdsq idx)).isTimeout) := by
  have off : ∀ idx < lseMaxGlobalDsqs, idx ∉ scannedLevels → (lseDsqHasTimeout w idx = true ↔ False) := by
    intro idx low other
    simp [lseDsqHasTimeout,levels.timeouts idx low other]
  have seen : ∀ idx ∈ scannedLevels, lseDsqHasTimeout w idx = (w.dsq.queue (.gdsq idx)).isTimeout := by
    intro idx scanned
    have low : idx < lseMaxGlobalDsqs := (by decide : ∀ idx ∈ scannedLevels, idx < lseMaxGlobalDsqs) idx scanned
    rw [lseDsqHasTimeout,decide_eq_true low,Bool.true_and]
  have counted : (List.range lseMaxGlobalDsqs).countP (lseDsqHasTimeout w) =
      scannedLevels.countP (fun idx => (w.dsq.queue (.gdsq idx)).isTimeout) := by
    calc (List.range lseMaxGlobalDsqs).countP (lseDsqHasTimeout w)
        = (List.range lseMaxGlobalDsqs).countP (fun idx => lseDsqHasTimeout w idx && decide (idx ∈ scannedLevels)) := by
          refine List.countP_congr fun idx member => ?_
          by_cases scanned : idx ∈ scannedLevels
          · simp [scanned]
          · simp [off idx (List.mem_range.mp member) scanned,scanned]
      _ = scannedLevels.countP (lseDsqHasTimeout w) := by
          rw [← List.countP_filter]
          rfl
      _ = scannedLevels.countP (fun idx => (w.dsq.queue (.gdsq idx)).isTimeout) :=
          List.countP_congr fun idx scanned => by rw [seen idx scanned]
  have few := countP_scannedLevels (fun idx => (w.dsq.queue (.gdsq idx)).isTimeout)
  rw [lseDsqUrgencySignal,counted]
  split_ifs
  · rfl
  · omega

/-- In every run after the initialisation, whatever happens to the tasks, their records and
    the clock, nobody waits on the queues 1, 4, 5 and 7, and the urgency is a quarter of the
    scale for each of the queues 6, 8 and 9 that timed out: three quarters at most. -/
theorem urgency_levels (w : World) (events : List LevelEvent) :
    let v := exec levelStep (lseDsqInit w) events
    (∀ idx ∈ [1,4,5,7], (v.dsq.queue (.gdsq idx)).fifo = []) ∧
      (lseDsqUrgencySignal v = if v.dsq.enable = 0 then 0
        else 256 * [6,8,9].countP (fun idx => (v.dsq.queue (.gdsq idx)).isTimeout)) ∧
      lseDsqUrgencySignal v ≤ 768 := by
  intro v
  have levels : Levels v := run_levels w events
  have urgency := levels_urgency levels
  have few := countP_scannedLevels (fun idx => (v.dsq.queue (.gdsq idx)).isTimeout)
  refine ⟨fun idx unused => ?_,urgency,?_⟩
  · have spare : idx < lseMaxGlobalDsqs ∧ idx ∉ classifiedLevels :=
      (by decide : ∀ idx ∈ [1,4,5,7], idx < lseMaxGlobalDsqs ∧ idx ∉ classifiedLevels) idx unused
    exact levels.tasks idx spare.1 spare.2
  · rw [urgency]
    split_ifs
    · omega
    · omega

end

/-! ### Running time -/

/-- A run with the time that was charged to each queue since its account was cleared. -/
structure Ledger where
  world : World
  charged : DsqRef → ℕ

def ledgerStep (s : Ledger) (e : LevelEvent) : Ledger where
  world := levelStep s.world e
  charged := fun ref => match e with
    | .runtime t execNs => if chargedTo s.world t = some ref then s.charged ref + execNs else s.charged ref
    | .sync => if s.world.dsq.enable = 0 ∧ drained s.world ref = true then 0 else s.charged ref
    | _ => s.charged ref

/-- The accounts hold what was charged, as an `int` can hold it, and the queues that nothing
    is charged to stay at 0. -/
structure Charged (s : Ledger) : Prop where
  holds : ∀ ref, account s.world ref = s32 (s.charged ref)
  levels : ∀ idx < lseMaxGlobalDsqs, idx ∉ scannedLevels → s.charged (.gdsq idx) = 0

section
variable {w : World}

theorem addRuntime_s32 (n execNs : ℕ) : addRuntime (s32 n) execNs = s32 (n + execNs) := by
  unfold addRuntime s32 u64 u64OfInt u32
  split_ifs <;> omega

theorem setAccount_account (rtime : ℤ) (ref : DsqRef) :
    account (setAccount w rtime ref) = Function.update (account w) ref rtime := by
  funext r
  cases ref with
  | gdsq idx =>
    cases r with
    | gdsq i => by_cases here : i = idx <;> simp [setAccount,account,here]
    | pcp c => simp [setAccount,account]
  | pcp cpu =>
    cases r with
    | gdsq i => simp [setAccount,account]
    | pcp c => by_cases here : c = cpu <;> simp [setAccount,account,here]

theorem account_addRuntime (t execNs : ℕ) (ref : DsqRef) : account (lseDsqAddRuntime w t execNs) ref =
    if chargedTo w t = some ref then addRuntime (account w ref) execNs else account w ref := by
  rw [addRuntime_eq]
  cases chargedTo w t with
  | none => simp
  | some r =>
    rw [Option.elim_some,setAccount_account]
    by_cases here : r = ref
    · simp [here]
    · simp [here,Ne.symm here]

theorem chargedTo_level {t idx : ℕ} (charged : chargedTo w t = some (.gdsq idx)) : idx ∈ scannedLevels := by
  unfold chargedTo dsqOf at charged
  split_ifs at charged with due pcp
  · cases charged
  · have level := (classified_scanned due.2.1).resolve_right pcp
    cases charged
    exact level

theorem account_congr {v : World} (rtime : v.dsq.rtime = w.dsq.rtime) (pcpInfo : v.dsq.pcpInfo = w.dsq.pcpInfo) :
    account v = account w := by
  funext ref
  cases ref with
  | gdsq idx => exact congrFun rtime idx
  | pcp c => exact congrArg LsePcpDsqInfo.rtime (congrFun pcpInfo c)

theorem account_enqueue (t cpu : ℕ) : account (lseDsqEnqueueTask w t cpu) = account w := by
  rcases enqueue_cases w t cpu with same | ⟨lts,_,_,_,queued⟩
  · rw [same]
  · rw [queued]
    exact account_congr rfl rfl

theorem account_dequeue (t : ℕ) : account (lseDsqDequeueTask w t) = account w := by
  rcases dequeue_cases w t with ⟨same,_⟩ | ⟨_,_,lts,_,_,unlinked⟩
  · rw [same]
  · rw [unlinked]
    exact account_congr rfl rfl

theorem account_scan (cpu : ℕ) : account (lseDsqScanTimeout w cpu) = account w := by
  unfold lseDsqScanTimeout
  split_ifs
  · rfl
  · exact account_congr rfl rfl

theorem account_schedule (cpu prev next : ℕ) : account (lseDsqOnSchedule w cpu prev next) = account w := by
  apply lseDsqOnSchedule_keeps (fun v => account v = account w) cpu prev next rfl
  · exact fun v t held => (account_enqueue t cpu).trans held
  · exact fun v t held => (account_dequeue t).trans held
  · exact fun v _ held => (account_scan cpu).trans ((account_congr rfl rfl).trans held)

theorem account_sync (ref : DsqRef) : account (lseDsqSync w) ref =
    if w.dsq.enable = 0 ∧ drained w ref = true then 0 else account w ref := by
  by_cases off : w.dsq.enable = 0
  · cases ref with
    | gdsq idx => simp [lseDsqSync,account,off,drained]
    | pcp cpu => by_cases cleared : drained w (.pcp cpu) = true <;> simp [lseDsqSync,account,off,cleared]
  · rw [sync_on off,if_neg (fun cleared => off cleared.1)]

theorem init_charged (zeroed : ∀ ref, account w ref = 0) : Charged ⟨lseDsqInit w,fun _ => 0⟩ := by
  refine ⟨fun ref => ?_,fun _ _ _ => rfl⟩
  cases ref with
  | gdsq idx => exact zeroed (.gdsq idx)
  | pcp cpu =>
    have cleared : account (lseDsqInit w) (.pcp cpu) = if w.possible cpu = true then 0 else account w (.pcp cpu) := by
      by_cases possible : w.possible cpu = true <;> simp [account,lseDsqInit,possible]
    rw [cleared,zeroed,ite_self]
    rfl

/-- A call on the queues leaves the accounts alone, and what was charged. -/
theorem charged_congr {s t : Ledger} (held : Charged s) (same : account t.world = account s.world)
    (charged : t.charged = s.charged) : Charged t := by
  refine ⟨fun ref => ?_,fun idx low other => ?_⟩
  · rw [same,charged,held.holds ref]
  · rw [charged,held.levels idx low other]

theorem ledgerStep_charged (s : Ledger) (e : LevelEvent) (held : Charged s) : Charged (ledgerStep s e) := by
  cases e with
  | enqueue t cpu => exact charged_congr held (account_enqueue t cpu) rfl
  | dequeue t => exact charged_congr held (account_dequeue t) rfl
  | scan cpu => exact charged_congr held (account_scan cpu) rfl
  | schedule cpu prev next => exact charged_congr held (account_schedule cpu prev next) rfl
  | others v => exact charged_congr held (account_congr rfl rfl) rfl
  | sync =>
    refine ⟨fun ref => ?_,fun idx low other => ?_⟩
    · simp only [ledgerStep,levelStep,account_sync,held.holds ref]
      split_ifs
      · rfl
      · rfl
    · simp only [ledgerStep,held.levels idx low other,ite_self]
  | runtime t execNs =>
    refine ⟨fun ref => ?_,fun idx low other => ?_⟩
    · simp only [ledgerStep,levelStep,account_addRuntime,held.holds ref,addRuntime_s32]
      split_ifs
      · rfl
      · rfl
    · have elsewhere : chargedTo s.world t ≠ some (.gdsq idx) := fun charged => other (chargedTo_level charged)
      simp only [ledgerStep,if_neg elsewhere,held.levels idx low other]

/-- In every run after the initialisation each account holds the time charged to its queue
    since it was last cleared exactly when that is less than 2147483648 ns, and wraps
    otherwise; nothing is ever charged to a queue other than 6, 8, 9 and those of the CPUs. -/
theorem runtimes_exact_iff (w : World) (events : List LevelEvent) (zeroed : ∀ ref, account w ref = 0) :
    let s := exec ledgerStep ⟨lseDsqInit w,fun _ => 0⟩ events
    (∀ ref, account s.world ref = s32 (s.charged ref) ∧
      (account s.world ref = s.charged ref ↔ s.charged ref < 2147483648)) ∧
    ∀ idx < lseMaxGlobalDsqs, idx ∉ [6,8,9] → s.charged (.gdsq idx) = 0 := by
  intro s
  have charged : Charged s := exec_always Charged ledgerStep_charged (init_charged zeroed) events
  refine ⟨fun ref => ⟨charged.holds ref,?_⟩,charged.levels⟩
  rw [charged.holds ref]
  refine ⟨fun exactly => ?_,s32_of_lt⟩
  unfold s32 u32 at exactly
  split_ifs at exactly with low
  · omega
  · omega

/-- Two times one and a half seconds of a task of the normal class are more than its account
    can hold. -/
theorem runtimes_exact_iff_wrapped :
    let s := exec ledgerStep ⟨lseDsqInit (watched 1),fun _ => 0⟩ [.runtime 0 1500000000,.runtime 0 1500000000]
    s.charged (.gdsq 8) = 3000000000 ∧ account s.world (.gdsq 8) = -1294967296 ∧
      account s.world (.gdsq 8) ≠ s.charged (.gdsq 8) := by
  intro s
  have charged : s.charged (.gdsq 8) = 3000000000 := by decide
  have exactly := (runtimes_exact_iff (watched 1) [.runtime 0 1500000000,.runtime 0 1500000000]
    (fun ref => by cases ref <;> rfl)).1 (.gdsq 8)
  refine ⟨charged,?_,fun same => ?_⟩
  · rw [exactly.1]
    exact (congrArg s32 charged).trans (by decide)
  · exact absurd (exactly.2.mp same) (by rw [charged]; decide)

end

end LunarSched.QueueLevels
