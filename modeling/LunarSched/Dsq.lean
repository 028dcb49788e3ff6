import LunarSched.Kernel

/-!
The dispatch queues (`lse_dsq.c`): classification of a task, enqueue and dequeue, the
accounts of running time, the timeout scan, the drain when the layer is switched off,
and the schedule hook.
A queue is a FIFO of task numbers with a separate counter; unlinking a task's node
takes it out of whatever FIFO it is on, while the counter that goes down is that of
the queue the task's classification selects at that moment.
-/
namespace LunarSched.Dsq
open LunarSched.Machine LunarSched.Kernel

def lseMaxGlobalDsqs : ℕ := 10
def lseDsqPcpBase : ℕ := lseMaxGlobalDsqs
def lseDsqNonPeriodStart : ℕ := 5
def lseDsqNonPeriodEnd : ℕ := 10
def lseDsqBigLower : ℕ := lseDsqNonPeriodStart
def lseDsqLittleLower : ℕ := 8
/-- `lse_dsq_deadlines`, in milliseconds. -/
def lseDsqDeadlines : List ℕ := [0,1,2,4,6,8,16,32,64,128]
def lsePcpDsqDeadlineMs : ℕ := 20
def lseDsqFlagBuiltin : ℕ := 9223372036854775808

/-- `time_after` on 64-bit jiffies. -/
def timeAfter (a b : ℕ) : Bool := s64 (u64Sub b a) < 0
/-- `time_before` on 64-bit jiffies. -/
def timeBefore (a b : ℕ) : Bool := timeAfter b a

def dsqIdxValid (nrCpuIds idx : ℕ) : Prop :=
  idx < lseMaxGlobalDsqs ∨ (lseDsqPcpBase ≤ idx ∧ idx < lseDsqPcpBase + nrCpuIds)

instance (nrCpuIds idx : ℕ) : Decidable (dsqIdxValid nrCpuIds idx) :=
  inferInstanceAs (Decidable (_ ∨ _))

/-- The queue an index stands for. -/
def dsqOf (idx : ℕ) : DsqRef := if lseDsqPcpBase ≤ idx then .pcp (idx - lseDsqPcpBase) else .gdsq idx

def lseDsqClassifyLts (lts : Option LseTaskStruct) (p : TaskStruct) : ℕ :=
  match lts with
  | none =>
    if p.nice < -5 ∨ p.prio < defaultPrio - 10 then 0
    else if p.prio < defaultPrio - 5 then 1
    else if p.prio ≤ defaultPrio then 6
    else if p.prio ≤ defaultPrio + 4 then 8
    else 9
  | some lts =>
    if p.nrCpusAllowed = 1 ∨ p.migrationDisabled = true then lseDsqPcpBase + p.cpusAny
    else if p.prio < 0 then 0
    else if p.prio < 100 then 2
    else match lts.taskClass with
      | .rt | .deadline => 0
      | .foreground => if 1280 < lts.boostPct then 3 else 6
      | .normal => 8
      | .idle | .background => 9

/-- The queue that the classification of a task with a record selects. -/
def classified (w : World) (t : ℕ) : ℕ := lseDsqClassifyLts (w.lts t) (w.task t)

/-- Store one queue. -/
def setQueue (w : World) (ref : DsqRef) (q : LseDispatchQ) : World :=
  { w with dsq := { w.dsq with queue := Function.update w.dsq.queue ref q } }

/-- `__dsq_enqueue`, for a task whose record is `lts`. -/
def dsqEnqueue (w : World) (ref : DsqRef) (t : ℕ) (lts : LseTaskStruct) : World :=
  let q := w.dsq.queue ref
  let consumed := if q.fifo = [] then w.dsq.jiffies else q.lastConsumeAt
  (setQueue w ref { q with fifo := q.fifo ++ [t], nr := q.nr + 1, lastConsumeAt := consumed }).setLts t
    { lts with onDsq := true }

def lseDsqEnqueueTask (w : World) (t cpu : ℕ) : World :=
  if w.dsq.enable = 0 then w
  else match w.lts t with
    | none => w
    | some lts =>
      if lts.onDsq = true then w
      else if (w.task t).onRq = false ∨ t = (w.rq cpu).curr then w
      else if dsqIdxValid w.nrCpuIds (classified w t) then dsqEnqueue w (dsqOf (classified w t)) t lts
      else w

/-- `list_del_init` on a task's node: it leaves whatever FIFO it is linked on. -/
def listDelInit (queue : DsqRef → LseDispatchQ) (t : ℕ) : DsqRef → LseDispatchQ :=
  fun ref => { queue ref with fifo := (queue ref).fifo.erase t }

/-- An empty queue that had timed out stops doing so and counts as just consumed. -/
def clearTimeout (w : World) (q : LseDispatchQ) : LseDispatchQ :=
  if q.fifo = [] ∧ q.isTimeout = true then { q with isTimeout := false, lastConsumeAt := w.dsq.jiffies } else q

/-- `__dsq_dequeue`, for a task whose record `lts` says it is queued. -/
def dsqDequeue (w : World) (ref : DsqRef) (t : ℕ) (lts : LseTaskStruct) : World :=
  let queue := listDelInit w.dsq.queue t
  let q := clearTimeout w { queue ref with nr := max 0 ((queue ref).nr - 1) }
  (setQueue { w with dsq := { w.dsq with queue := queue } } ref q).setLts t { lts with onDsq := false }

def lseDsqDequeueTask (w : World) (t : ℕ) : World :=
  if w.dsq.enable = 0 then w
  else match w.lts t with
    | none => w
    | some lts =>
      if lts.onDsq = false then w
      else if lseDsqPcpBase + w.nrCpuIds ≤ classified w t then w
      else dsqDequeue w (dsqOf (classified w t)) t lts

/-- `rtime += exec_ns`, of an `unsigned long` to an `int`. -/
def addRuntime (rtime : ℤ) (execNs : ℕ) : ℤ := s32 (u64 (u64OfInt rtime + execNs))

def lseDsqAddRuntime (w : World) (t execNs : ℕ) : World :=
  if w.dsq.enable = 0 then w
  else if lseDsqPcpBase ≤ classified w t then
    let cpu := classified w t - lseDsqPcpBase
    if w.nrCpuIds ≤ cpu then w
    else
      let info := { w.dsq.pcpInfo cpu with rtime := addRuntime (w.dsq.pcpInfo cpu).rtime execNs }
      { w with dsq := { w.dsq with pcpInfo := Function.update w.dsq.pcpInfo cpu info } }
  else if lseDsqNonPeriodStart ≤ classified w t ∧ classified w t < lseDsqNonPeriodEnd then
    let rtime := addRuntime (w.dsq.rtime (classified w t)) execNs
    { w with dsq := { w.dsq with rtime := Function.update w.dsq.rtime (classified w t) rtime } }
  else w

/-! ### Timeouts -/

/-- The scan of one queue: a non-empty one that was not consumed from within its
    deadline times out. -/
def scanQueue (w : World) (deadlineMs : ℕ) (q : LseDispatchQ) : LseDispatchQ :=
  if q.fifo ≠ [] ∧ q.isTimeout = false ∧
      timeAfter w.dsq.jiffies (u64 (q.lastConsumeAt + w.msecsToJiffies deadlineMs)) = true then
    { q with isTimeout := true }
  else q

/-- The scan of a global queue also clears the timeout of an empty one. -/
def scanGlobalQueue (w : World) (deadlineMs : ℕ) (q : LseDispatchQ) : LseDispatchQ :=
  clearTimeout w (scanQueue w deadlineMs q)

def lseDsqScanTimeout (w : World) (cpu : ℕ) : World :=
  if w.dsq.enable = 0 then w
  else
    let queue := fun ref => match ref with
      | .pcp c => if c = cpu then scanQueue w lsePcpDsqDeadlineMs (w.dsq.queue ref) else w.dsq.queue ref
      | .gdsq i =>
        if lseDsqNonPeriodStart ≤ i ∧ i < lseDsqNonPeriodEnd then
          scanGlobalQueue w (lseDsqDeadlines.getD i 0) (w.dsq.queue ref)
        else w.dsq.queue ref
    { w with dsq := { w.dsq with queue := queue } }

def lseDsqHasTimeout (w : World) (idx : ℕ) : Bool :=
  decide (idx < lseMaxGlobalDsqs) && (w.dsq.queue (.gdsq idx)).isTimeout

/-- `lse_dsq_urgency_signal`, the same for every CPU: the backlog it adds up is not used. -/
def lseDsqUrgencySignal (w : World) : ℕ :=
  if w.dsq.enable = 0 then 0
  else min (((List.range lseMaxGlobalDsqs).countP (lseDsqHasTimeout w)) * 256) 1024

def lseDsqDepthGlobal (w : World) (idx : ℤ) : ℤ :=
  if idx < 0 ∨ lseMaxGlobalDsqs ≤ idx then 0 else (w.dsq.queue (.gdsq idx.toNat)).nr

def lseDsqDepthPcp (w : World) (cpu : ℤ) : ℤ :=
  if cpu < 0 ∨ w.nrCpuIds ≤ cpu then 0 else (w.dsq.queue (.pcp cpu.toNat)).nr

def lseDsqDepthCpu (w : World) (cpu : ℤ) : ℤ := lseDsqDepthPcp w cpu

def lseDsqTotalBacklog (w : World) : ℤ :=
  ((List.range lseMaxGlobalDsqs).map (fun idx : ℕ => lseDsqDepthGlobal w idx)).sum +
    ((forEachCpu w.nrCpuIds w.online).map (fun cpu : ℕ => lseDsqDepthPcp w cpu)).sum

/-- `lse_dsq_on_schedule` on the run queue of `cpu`. -/
def lseDsqOnSchedule (w : World) (cpu prev next : ℕ) : World :=
  if w.dsq.slimStats = 0 ∨ w.dsq.enable = 0 then w
  else
    let w :=
      if prev ≠ next then
        let w :=
          if (w.task prev).isIdle = false ∧ (w.task prev).onRq = true ∧ (w.task prev).cpu = cpu then
            lseDsqEnqueueTask w prev cpu
          else w
        if (w.task next).isIdle = false then lseDsqDequeueTask w next else w
      else w
    if timeBefore (u64 (w.dsq.lastScanJf cpu + 4)) w.dsq.jiffies = true then
      lseDsqScanTimeout
        { w with dsq := { w.dsq with lastScanJf := Function.update w.dsq.lastScanJf cpu w.dsq.jiffies } } cpu
    else w

/-- The queues that `lse_dsq_sync` drains: the global ones and those of online CPUs. -/
def drained (w : World) : DsqRef → Bool
  | .gdsq idx => idx < lseMaxGlobalDsqs
  | .pcp cpu => decide (cpu < w.nrCpuIds) && w.online cpu

/-- The task's node is on a queue that is drained. -/
def drainedTask (w : World) (t : ℕ) : Bool :=
  (List.range lseMaxGlobalDsqs).any (fun idx => t ∈ (w.dsq.queue (.gdsq idx)).fifo) ||
    (forEachCpu w.nrCpuIds w.online).any (fun cpu => t ∈ (w.dsq.queue (.pcp cpu)).fifo)

def lseDsqSync (w : World) : World :=
  if w.dsq.enable ≠ 0 then w
  else
    { w with
      lts := fun t => if drainedTask w t then (w.lts t).map (fun lts => { lts with onDsq := false }) else w.lts t
      dsq := { w.dsq with
        queue := fun ref =>
          if drained w ref then { w.dsq.queue ref with fifo := [], nr := 0, isTimeout := false } else w.dsq.queue ref
        currIdxBig := lseDsqBigLower
        currIdxLittle := lseDsqLittleLower
        rtime := fun idx => if idx < lseMaxGlobalDsqs then 0 else w.dsq.rtime idx
        pcpInfo := fun cpu => if drained w (.pcp cpu) then ⟨0,false⟩ else w.dsq.pcpInfo cpu } }

def initOneDsq (jiffies id : ℕ) : LseDispatchQ where
  fifo := []
  nr := 0
  id := id
  lastConsumeAt := jiffies
  isTimeout := false

def lseDsqInit (w : World) : World :=
  { w with
    dsq := { w.dsq with
      queue := fun ref => match ref with
        | .gdsq idx =>
          if idx < lseMaxGlobalDsqs then initOneDsq w.dsq.jiffies (lseDsqFlagBuiltin + idx) else w.dsq.queue ref
        | .pcp cpu =>
          if w.possible cpu then initOneDsq w.dsq.jiffies (lseDsqFlagBuiltin + (lseDsqPcpBase + cpu))
          else w.dsq.queue ref
      currIdxBig := lseDsqBigLower
      currIdxLittle := lseDsqLittleLower
      pcpInfo := fun cpu => if w.possible cpu then ⟨0,false⟩ else w.dsq.pcpInfo cpu } }

end LunarSched.Dsq
