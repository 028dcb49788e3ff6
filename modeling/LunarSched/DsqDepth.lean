import LunarSched.Dsq
import LunarSched.Runs

/-!
The depth counters of the dispatch queues. A dequeue takes the task's node off the
queue it is linked on, but counts down the queue that the task's classification
selects at that moment, and between enqueue and dequeue a task may be reniced,
moved or reclassified. Along a run every counter stays the length of its FIFO
exactly when every dequeue finds the task on the queue it is still classified for
(`depth_exact_iff`). The schedule hook queues nothing at all: when it runs, the
previous task is still current, and the enqueue refuses the current task
(`on_schedule_never_queues`).
-/
namespace LunarSched.DsqDepth
open LunarSched.Kernel LunarSched.Dsq LunarSched.Runs

/-- The calls on the queues, and the changes between them: a task's attributes, the
    class and boost in its record, and in `others` what runs, the clock, the CPUs
    that are online and the switches, taken from another state. -/
inductive DsqEvent where
  | enqueue (t cpu : ℕ)
  | dequeue (t : ℕ)
  | scan (cpu : ℕ)
  | sync
  | task (t : ℕ) (p : TaskStruct)
  | hint (t : ℕ) (taskClass : LseTaskClass) (boostPct : ℕ)
  | others (e : World)

def dsqStep (w : World) : DsqEvent → World
  | .enqueue t cpu => lseDsqEnqueueTask w t cpu
  | .dequeue t => lseDsqDequeueTask w t
  | .scan cpu => lseDsqScanTimeout w cpu
  | .sync => lseDsqSync w
  | .task t p => { w with task := Function.update w.task t p }
  | .hint t taskClass boostPct =>
    let hinted := (w.lts t).map (fun lts => { lts with taskClass := taskClass, boostPct := boostPct })
    { w with lts := Function.update w.lts t hinted }
  | .others e =>
    { w with
      online := e.online
      msecsToJiffies := e.msecsToJiffies
      rq := e.rq
      dsq := { w.dsq with slimStats := e.dsq.slimStats, enable := e.dsq.enable, jiffies := e.dsq.jiffies } }

/-- A task that is enqueued is on a run queue and not the current one of the CPU. -/
def Called (w : World) : DsqEvent → Prop
  | .enqueue t cpu => (w.task t).onRq = true ∧ t ≠ (w.rq cpu).curr
  | _ => True

/-- The counter of every queue is the length of its FIFO. -/
def Exact (w : World) : Prop := ∀ ref, (w.dsq.queue ref).nr = (w.dsq.queue ref).fifo.length

/-- A dequeue that unlinks the task finds it on the queue that it is classified for. -/
def Remembered (w : World) : DsqEvent → Prop
  | .dequeue t =>
    w.dsq.enable ≠ 0 → (∃ lts, w.lts t = some lts ∧ lts.onDsq = true) →
      classified w t < lseDsqPcpBase + w.nrCpuIds → t ∈ (w.dsq.queue (dsqOf (classified w t))).fifo
  | _ => True

/-- The state after initialisation: nothing is queued. -/
def Empty (w : World) : Prop :=
  (∀ ref, (w.dsq.queue ref).fifo = [] ∧ (w.dsq.queue ref).nr = 0) ∧
    ∀ t lts, w.lts t = some lts → lts.onDsq = false

/-- A task is on a FIFO, one of them and once, exactly when its record says so. -/
structure Linked (w : World) : Prop where
  flagged : ∀ ref t, t ∈ (w.dsq.queue ref).fifo → ∃ lts, w.lts t = some lts ∧ lts.onDsq = true
  placed : ∀ t lts, w.lts t = some lts → lts.onDsq = true → ∃ ref, t ∈ (w.dsq.queue ref).fifo
  once : ∀ ref, (w.dsq.queue ref).fifo.Nodup
  one : ∀ ref ref' t, t ∈ (w.dsq.queue ref).fifo → t ∈ (w.dsq.queue ref').fifo → ref = ref'

theorem empty_linked {w : World} (empty : Empty w) : Linked w ∧ Exact w := by
  obtain ⟨queues,records⟩ := empty
  refine ⟨⟨?_,?_,?_,?_⟩,?_⟩
  · intro ref t member
    simp [(queues ref).1] at member
  · intro t lts present queued
    simp [records t lts present] at queued
  · intro ref
    simp [(queues ref).1]
  · intro ref ref' t member
    simp [(queues ref).1] at member
  · intro ref
    simp [queues ref]

/-- Neither a FIFO, a counter nor a queued flag differs. -/
structure SameQueues (w v : World) : Prop where
  fifo : ∀ ref, (v.dsq.queue ref).fifo = (w.dsq.queue ref).fifo
  nr : ∀ ref, (v.dsq.queue ref).nr = (w.dsq.queue ref).nr
  queued : ∀ t, (v.lts t).map LseTaskStruct.onDsq = (w.lts t).map LseTaskStruct.onDsq

theorem sameQueues_refl (w : World) : SameQueues w w := ⟨fun _ => rfl,fun _ => rfl,fun _ => rfl⟩

/-- What a record says about being queued. -/
theorem queued_iff {w : World} {t : ℕ} {queued : Bool} :
    (w.lts t).map LseTaskStruct.onDsq = some queued ↔ ∃ lts, w.lts t = some lts ∧ lts.onDsq = queued := by
  simp

theorem sameQueues_trans {u v w : World} (first : SameQueues u v) (second : SameQueues v w) : SameQueues u w :=
  ⟨fun ref => (second.fifo ref).trans (first.fifo ref),fun ref => (second.nr ref).trans (first.nr ref),
    fun t => (second.queued t).trans (first.queued t)⟩

theorem sameQueues_linked {w v : World} (same : SameQueues w v) (linked : Linked w) : Linked v := by
  obtain ⟨fifo,_,queued⟩ := same
  obtain ⟨flagged,placed,once,one⟩ := linked
  refine ⟨?_,?_,?_,?_⟩
  · intro ref t member
    rw [fifo] at member
    rw [← queued_iff,queued,queued_iff]
    exact flagged ref t member
  · intro t lts present on
    obtain ⟨lts',present',on'⟩ := queued_iff.mp ((queued t).symm.trans (queued_iff.mpr ⟨lts,present,on⟩))
    obtain ⟨ref,member⟩ := placed t lts' present' on'
    exact ⟨ref,by rwa [fifo]⟩
  · intro ref
    rw [fifo]
    exact once ref
  · intro ref ref' t
    rw [fifo,fifo]
    exact one ref ref' t

theorem sameQueues_keep {w v : World} (same : SameQueues w v) (linked : Linked w) (exact : Exact w) :
    Linked v ∧ Exact v := by
  refine ⟨sameQueues_linked same linked,?_⟩
  intro ref
  rw [same.fifo,same.nr]
  exact exact ref

theorem scanQueue_same (w : World) (deadlineMs : ℕ) (q : LseDispatchQ) :
    (scanQueue w deadlineMs q).fifo = q.fifo ∧ (scanQueue w deadlineMs q).nr = q.nr := by
  unfold scanQueue
  split_ifs <;> exact ⟨rfl,rfl⟩

theorem clearTimeout_same (w : World) (q : LseDispatchQ) :
    (clearTimeout w q).fifo = q.fifo ∧ (clearTimeout w q).nr = q.nr := by
  unfold clearTimeout
  split_ifs <;> exact ⟨rfl,rfl⟩

theorem scanGlobalQueue_same (w : World) (deadlineMs : ℕ) (q : LseDispatchQ) :
    (scanGlobalQueue w deadlineMs q).fifo = q.fifo ∧ (scanGlobalQueue w deadlineMs q).nr = q.nr := by
  obtain ⟨cleared,count⟩ := clearTimeout_same w (scanQueue w deadlineMs q)
  obtain ⟨scanned,number⟩ := scanQueue_same w deadlineMs q
  exact ⟨cleared.trans scanned,count.trans number⟩

theorem scan_same (w : World) (cpu : ℕ) : SameQueues w (lseDsqScanTimeout w cpu) := by
  by_cases off : w.dsq.enable = 0
  · rw [lseDsqScanTimeout,if_pos off]
    exact sameQueues_refl w
  · have queues : ∀ ref, ((lseDsqScanTimeout w cpu).dsq.queue ref).fifo = (w.dsq.queue ref).fifo ∧
        ((lseDsqScanTimeout w cpu).dsq.queue ref).nr = (w.dsq.queue ref).nr := by
      intro ref
      simp only [lseDsqScanTimeout,off,if_false]
      cases ref with
      | pcp c =>
        by_cases here : c = cpu
        · simpa [here] using scanQueue_same w _ _
        · simp [here]
      | gdsq i =>
        by_cases shared : lseDsqNonPeriodStart ≤ i ∧ i < lseDsqNonPeriodEnd
        · simpa [shared] using scanGlobalQueue_same w _ _
        · simp [shared]
    refine ⟨fun ref => (queues ref).1,fun ref => (queues ref).2,?_⟩
    intro t
    simp [lseDsqScanTimeout,off]

/-- An enqueue appends the task to the queue it is classified for, or does nothing. -/
theorem enqueue_cases (w : World) (t cpu : ℕ) :
    lseDsqEnqueueTask w t cpu = w ∨ ∃ lts, w.lts t = some lts ∧ lts.onDsq = false ∧
      dsqIdxValid w.nrCpuIds (classified w t) ∧
      lseDsqEnqueueTask w t cpu = dsqEnqueue w (dsqOf (classified w t)) t lts := by
  by_cases off : w.dsq.enable = 0
  · exact Or.inl (by simp [lseDsqEnqueueTask,off])
  · cases present : w.lts t with
    | none => exact Or.inl (by simp [lseDsqEnqueueTask,off,present])
    | some lts =>
      simp only [lseDsqEnqueueTask,off,if_false,present]
      split_ifs with queued runs valid
      · exact Or.inl rfl
      · exact Or.inl rfl
      · exact Or.inr ⟨lts,rfl,by simpa using queued,valid,rfl⟩
      · exact Or.inl rfl

theorem dequeue_cases (w : World) (t : ℕ) :
    (lseDsqDequeueTask w t = w ∧ (w.dsq.enable = 0 ∨ ¬ (∃ lts, w.lts t = some lts ∧ lts.onDsq = true) ∨
      lseDsqPcpBase + w.nrCpuIds ≤ classified w t)) ∨
    (w.dsq.enable ≠ 0 ∧ classified w t < lseDsqPcpBase + w.nrCpuIds ∧ ∃ lts, w.lts t = some lts ∧ lts.onDsq = true ∧
      lseDsqDequeueTask w t = dsqDequeue w (dsqOf (classified w t)) t lts) := by
  by_cases off : w.dsq.enable = 0
  · exact Or.inl ⟨by simp [lseDsqDequeueTask,off],Or.inl off⟩
  · cases present : w.lts t with
    | none => exact Or.inl ⟨by simp [lseDsqDequeueTask,off,present],Or.inr (Or.inl (by simp))⟩
    | some lts =>
      simp only [lseDsqDequeueTask,off,if_false,present]
      split_ifs with idle beyond
      · exact Or.inl ⟨rfl,Or.inr (Or.inl (by simp [idle]))⟩
      · exact Or.inl ⟨rfl,Or.inr (Or.inr beyond)⟩
      · exact Or.inr ⟨off,not_le.mp beyond,lts,rfl,by simpa using idle,rfl⟩

section
variable {w : World} {ref : DsqRef} {t : ℕ} {lts : LseTaskStruct}

theorem dsqEnqueue_at (r : DsqRef) : (dsqEnqueue w ref t lts).dsq.queue r = if r = ref then
    { w.dsq.queue ref with
      fifo := (w.dsq.queue ref).fifo ++ [t]
      nr := (w.dsq.queue ref).nr + 1
      lastConsumeAt := if (w.dsq.queue ref).fifo = [] then w.dsq.jiffies else (w.dsq.queue ref).lastConsumeAt }
    else w.dsq.queue r := by
  simp only [dsqEnqueue,setQueue,World.setLts,Function.update_apply]

theorem dsqDequeue_at (r : DsqRef) : (dsqDequeue w ref t lts).dsq.queue r = if r = ref then
    clearTimeout w { w.dsq.queue ref with
      fifo := (w.dsq.queue ref).fifo.erase t, nr := max 0 ((w.dsq.queue ref).nr - 1) }
    else { w.dsq.queue r with fifo := (w.dsq.queue r).fifo.erase t } := by
  simp only [dsqDequeue,setQueue,World.setLts,Function.update_apply,listDelInit]

theorem dsqEnqueue_queue (r : DsqRef) :
    ((dsqEnqueue w ref t lts).dsq.queue r).fifo =
        (if r = ref then (w.dsq.queue ref).fifo ++ [t] else (w.dsq.queue r).fifo) ∧
      ((dsqEnqueue w ref t lts).dsq.queue r).nr =
        (if r = ref then (w.dsq.queue ref).nr + 1 else (w.dsq.queue r).nr) := by
  rw [dsqEnqueue_at]
  by_cases here : r = ref
  · simp only [if_pos here]
    exact ⟨trivial,trivial⟩
  · simp only [if_neg here]
    exact ⟨trivial,trivial⟩

theorem dsqDequeue_queue (r : DsqRef) :
    ((dsqDequeue w ref t lts).dsq.queue r).fifo = (w.dsq.queue r).fifo.erase t ∧
      ((dsqDequeue w ref t lts).dsq.queue r).nr =
        (if r = ref then max 0 ((w.dsq.queue ref).nr - 1) else (w.dsq.queue r).nr) := by
  rw [dsqDequeue_at]
  by_cases here : r = ref
  · subst here
    simp only [if_true]
    exact clearTimeout_same w _
  · simp only [if_neg here]
    exact ⟨trivial,trivial⟩

theorem dsqEnqueue_lts (u : ℕ) :
    (dsqEnqueue w ref t lts).lts u = if u = t then some { lts with onDsq := true } else w.lts u := by
  simp [dsqEnqueue,setQueue,World.setLts,Function.update_apply]

theorem dsqDequeue_lts (u : ℕ) :
    (dsqDequeue w ref t lts).lts u = if u = t then some { lts with onDsq := false } else w.lts u := by
  simp [dsqDequeue,setQueue,World.setLts,Function.update_apply]

/-- A task that is marked as off the queues is on none. -/
theorem nowhere_of_off (linked : Linked w) (present : w.lts t = some lts) (off : lts.onDsq = false) (r : DsqRef) :
    t ∉ (w.dsq.queue r).fifo := by
  intro member
  obtain ⟨lts',present',on⟩ := linked.flagged r t member
  rw [present,Option.some.injEq] at present'
  rw [← present',off] at on
  exact Bool.false_ne_true on

variable (ref lts) in
theorem mem_dsqEnqueue (nowhere : ∀ r, t ∉ (w.dsq.queue r).fifo) (r : DsqRef) (u : ℕ) :
    u ∈ ((dsqEnqueue w ref t lts).dsq.queue r).fifo ↔
      (u = t ∧ r = ref) ∨ (u ≠ t ∧ u ∈ (w.dsq.queue r).fifo) := by
  rw [(dsqEnqueue_queue r).1]
  by_cases here : r = ref
  · by_cases same : u = t
    · subst same
      simp [here]
    · simp [here,same]
  · by_cases same : u = t
    · subst same
      simp [here,nowhere]
    · simp [here,same]

/-- An enqueue of a task that was on no queue puts it on one. -/
theorem enqueue_linked (linked : Linked w) (present : w.lts t = some lts) (off : lts.onDsq = false) :
    Linked (dsqEnqueue w ref t lts) := by
  have nowhere := nowhere_of_off linked present off
  have member := mem_dsqEnqueue ref lts nowhere
  refine ⟨?_,?_,?_,?_⟩
  · intro r u queued
    rw [dsqEnqueue_lts]
    rcases (member r u).mp queued with ⟨rfl,_⟩ | ⟨other,queued⟩
    · exact ⟨_,if_pos rfl,rfl⟩
    · rw [if_neg other]
      exact linked.flagged r u queued
  · intro u lts' present' on
    rw [dsqEnqueue_lts] at present'
    by_cases same : u = t
    · exact ⟨ref,(member ref u).mpr (Or.inl ⟨same,rfl⟩)⟩
    · rw [if_neg same] at present'
      obtain ⟨r,queued⟩ := linked.placed u lts' present' on
      exact ⟨r,(member r u).mpr (Or.inr ⟨same,queued⟩)⟩
  · intro r
    rw [(dsqEnqueue_queue r).1]
    split_ifs
    · refine List.nodup_append.mpr ⟨linked.once ref,by simp,?_⟩
      intro u there v here same
      rw [List.mem_singleton.mp here] at same
      exact nowhere ref (same ▸ there)
    · exact linked.once r
  · intro r r' u queued queued'
    rcases (member r u).mp queued with ⟨rfl,here⟩ | ⟨other,queued⟩
    · rcases (member r' u).mp queued' with ⟨_,there⟩ | ⟨other,_⟩
      · exact here.trans there.symm
      · exact absurd rfl other
    · rcases (member r' u).mp queued' with ⟨same,_⟩ | ⟨_,queued'⟩
      · exact absurd same other
      · exact linked.one r r' u queued queued'

/-- An enqueue counts up the queue that it puts the task on. -/
theorem enqueue_exact (exact : Exact w) : Exact (dsqEnqueue w ref t lts) := by
  intro r
  rw [(dsqEnqueue_queue r).1,(dsqEnqueue_queue r).2]
  split_ifs
  · simp [exact ref]
  · exact exact r

/-- A dequeue takes the task off its queue, whichever it counts down. -/
theorem dequeue_linked (linked : Linked w) : Linked (dsqDequeue w ref t lts) := by
  have member : ∀ r u, u ∈ ((dsqDequeue w ref t lts).dsq.queue r).fifo ↔ u ≠ t ∧ u ∈ (w.dsq.queue r).fifo := by
    intro r u
    rw [(dsqDequeue_queue r).1]
    exact (linked.once r).mem_erase_iff
  refine ⟨?_,?_,?_,?_⟩
  · intro r u queued
    obtain ⟨other,queued⟩ := (member r u).mp queued
    rw [dsqDequeue_lts,if_neg other]
    exact linked.flagged r u queued
  · intro u lts' present on
    rw [dsqDequeue_lts] at present
    by_cases same : u = t
    · rw [if_pos same,Option.some.injEq] at present
      rw [← present] at on
      exact absurd on Bool.false_ne_true
    · rw [if_neg same] at present
      obtain ⟨r,queued⟩ := linked.placed u lts' present on
      exact ⟨r,(member r u).mpr ⟨same,queued⟩⟩
  · intro r
    rw [(dsqDequeue_queue r).1]
    exact (linked.once r).erase t
  · intro r r' u queued queued'
    exact linked.one r r' u ((member r u).mp queued).2 ((member r' u).mp queued').2

/-- The counters stay exact when the queue counted down is the one the task was on. -/
theorem dequeue_exact_iff (linked : Linked w) (exact : Exact w) (present : w.lts t = some lts)
    (on : lts.onDsq = true) : Exact (dsqDequeue w ref t lts) ↔ t ∈ (w.dsq.queue ref).fifo := by
  obtain ⟨home,queued⟩ := linked.placed t lts present on
  have positive : 0 < (w.dsq.queue home).fifo.length := List.length_pos_of_mem queued
  constructor
  · intro still
    by_cases same : home = ref
    · rwa [← same]
    · have count := still home
      rw [(dsqDequeue_queue home).1,(dsqDequeue_queue home).2,if_neg same,exact home,
        List.length_erase_of_mem queued] at count
      omega
  · intro here r
    rw [(dsqDequeue_queue r).1,(dsqDequeue_queue r).2]
    split_ifs with same
    · subst same
      have some_queued : 0 < (w.dsq.queue r).fifo.length := List.length_pos_of_mem here
      rw [List.length_erase_of_mem here,exact r]
      omega
    · have away : t ∉ (w.dsq.queue r).fifo := fun there => same (linked.one r ref t there here)
      rw [List.erase_of_not_mem away]
      exact exact r

end

theorem drainedTask_iff {w : World} {t : ℕ} :
    drainedTask w t = true ↔ ∃ ref, drained w ref = true ∧ t ∈ (w.dsq.queue ref).fifo := by
  simp only [drainedTask,Bool.or_eq_true,List.any_eq_true,decide_eq_true_eq]
  constructor
  · rintro (⟨idx,low,member⟩ | ⟨cpu,online,member⟩)
    · exact ⟨.gdsq idx,by simpa [drained] using low,member⟩
    · exact ⟨.pcp cpu,by simpa [drained] using mem_forEachCpu.mp online,member⟩
  · rintro ⟨ref,low,member⟩
    cases ref with
    | gdsq idx => exact Or.inl ⟨idx,by simpa [drained] using low,member⟩
    | pcp cpu => exact Or.inr ⟨cpu,mem_forEachCpu.mpr (by simpa [drained] using low),member⟩

section
variable {w : World}

theorem sync_queue (off : w.dsq.enable = 0) (ref : DsqRef) :
    (lseDsqSync w).dsq.queue ref = if drained w ref = true then
      { w.dsq.queue ref with fifo := [], nr := 0, isTimeout := false } else w.dsq.queue ref := by
  simp [lseDsqSync,off]

theorem sync_lts (off : w.dsq.enable = 0) (t : ℕ) :
    (lseDsqSync w).lts t = if drainedTask w t = true then
      (w.lts t).map (fun lts => { lts with onDsq := false }) else w.lts t := by
  simp [lseDsqSync,off]

/-- While the queues are switched on there is no drain. -/
theorem sync_on (on : w.dsq.enable ≠ 0) : lseDsqSync w = w := by
  rw [lseDsqSync,if_pos on]

/-- Switched off, the queues that are drained lose all their tasks, which are unmarked. -/
theorem sync_linked (linked : Linked w) (off : w.dsq.enable = 0) : Linked (lseDsqSync w) := by
  have member : ∀ ref t, t ∈ ((lseDsqSync w).dsq.queue ref).fifo ↔
      drained w ref = false ∧ t ∈ (w.dsq.queue ref).fifo := by
    intro ref t
    rw [sync_queue off]
    cases drained w ref <;> simp
  refine ⟨?_,?_,?_,?_⟩
  · intro ref t queued
    obtain ⟨kept,queued⟩ := (member ref t).mp queued
    have stays : drainedTask w t ≠ true := by
      intro drops
      obtain ⟨ref',drops,queued'⟩ := drainedTask_iff.mp drops
      rw [linked.one ref' ref t queued' queued,kept] at drops
      exact Bool.false_ne_true drops
    rw [sync_lts off,if_neg stays]
    exact linked.flagged ref t queued
  · intro t lts present queued
    rw [sync_lts off] at present
    split_ifs at present with drops
    · obtain ⟨before,_,same⟩ := Option.map_eq_some_iff.mp present
      rw [← same] at queued
      exact absurd queued Bool.false_ne_true
    · obtain ⟨ref,on_fifo⟩ := linked.placed t lts present queued
      refine ⟨ref,(member ref t).mpr ⟨?_,on_fifo⟩⟩
      by_contra low
      exact drops (drainedTask_iff.mpr ⟨ref,by simpa using low,on_fifo⟩)
  · intro ref
    rw [sync_queue off]
    split_ifs
    · exact List.nodup_nil
    · exact linked.once ref
  · intro ref ref' t queued queued'
    exact linked.one ref ref' t ((member ref t).mp queued).2 ((member ref' t).mp queued').2

theorem sync_exact (exact : Exact w) (off : w.dsq.enable = 0) : Exact (lseDsqSync w) := by
  intro ref
  rw [sync_queue off]
  split_ifs
  · rfl
  · exact exact ref

theorem sync_keeps (linked : Linked w) (exact : Exact w) : Linked (lseDsqSync w) ∧ Exact (lseDsqSync w) := by
  by_cases off : w.dsq.enable = 0
  · exact ⟨sync_linked linked off,sync_exact exact off⟩
  · rw [sync_on off]
    exact ⟨linked,exact⟩

end

/-! ### Runs -/

/-- What one step of a run does to the FIFOs: nothing, an enqueue, a dequeue or a drain. -/
theorem dsqStep_cases (w : World) (e : DsqEvent) :
    SameQueues w (dsqStep w e) ∨
      (∃ t cpu lts, e = .enqueue t cpu ∧ w.lts t = some lts ∧ lts.onDsq = false ∧
        dsqIdxValid w.nrCpuIds (classified w t) ∧ dsqStep w e = dsqEnqueue w (dsqOf (classified w t)) t lts) ∨
      (∃ t lts, e = .dequeue t ∧ w.dsq.enable ≠ 0 ∧ classified w t < lseDsqPcpBase + w.nrCpuIds ∧
        w.lts t = some lts ∧ lts.onDsq = true ∧ dsqStep w e = dsqDequeue w (dsqOf (classified w t)) t lts) ∨
      (e = .sync ∧ w.dsq.enable = 0) := by
  cases e with
  | enqueue t cpu =>
    rcases enqueue_cases w t cpu with same | ⟨lts,present,off,valid,queued⟩
    · refine Or.inl ?_
      rw [dsqStep,same]
      exact sameQueues_refl w
    · exact Or.inr (Or.inl ⟨t,cpu,lts,rfl,present,off,valid,queued⟩)
  | dequeue t =>
    rcases dequeue_cases w t with ⟨same,_⟩ | ⟨on,low,lts,present,queued,taken⟩
    · refine Or.inl ?_
      rw [dsqStep,same]
      exact sameQueues_refl w
    · exact Or.inr (Or.inr (Or.inl ⟨t,lts,rfl,on,low,present,queued,taken⟩))
  | scan cpu => exact Or.inl (scan_same w cpu)
  | sync =>
    by_cases off : w.dsq.enable = 0
    · exact Or.inr (Or.inr (Or.inr ⟨rfl,off⟩))
    · rw [dsqStep,sync_on off]
      exact Or.inl (sameQueues_refl w)
  | task t p => exact Or.inl ⟨fun _ => rfl,fun _ => rfl,fun _ => rfl⟩
  | hint t taskClass boostPct =>
    refine Or.inl ⟨fun _ => rfl,fun _ => rfl,?_⟩
    intro u
    by_cases here : u = t
    · subst here
      cases present : w.lts u <;> simp [dsqStep,present]
    · simp [dsqStep,here]
  | others e => exact Or.inl ⟨fun _ => rfl,fun _ => rfl,fun _ => rfl⟩

/-- A call moves the queues and the records, and nothing else. -/
theorem dsqStep_rest (w : World) (e : DsqEvent) :
    (∃ t p, e = .task t p) ∨ (∃ v, e = .others v) ∨
      (dsqStep w e = { w with dsq := (dsqStep w e).dsq, lts := (dsqStep w e).lts } ∧
        (dsqStep w e).dsq.jiffies = w.dsq.jiffies) := by
  cases e with
  | task t p => exact Or.inl ⟨t,p,rfl⟩
  | others v => exact Or.inr (Or.inl ⟨v,rfl⟩)
  | enqueue t cpu =>
    refine Or.inr (Or.inr ?_)
    rcases enqueue_cases w t cpu with same | ⟨lts,_,_,_,queued⟩
    · rw [dsqStep,same]
      exact ⟨rfl,rfl⟩
    · rw [dsqStep,queued]
      exact ⟨rfl,rfl⟩
  | dequeue t =>
    refine Or.inr (Or.inr ?_)
    rcases dequeue_cases w t with ⟨same,_⟩ | ⟨_,_,lts,_,_,taken⟩
    · rw [dsqStep,same]
      exact ⟨rfl,rfl⟩
    · rw [dsqStep,taken]
      exact ⟨rfl,rfl⟩
  | scan cpu =>
    refine Or.inr (Or.inr ?_)
    rw [dsqStep,lseDsqScanTimeout]
    split_ifs <;> exact ⟨rfl,rfl⟩
  | sync =>
    refine Or.inr (Or.inr ?_)
    rw [dsqStep,lseDsqSync]
    split_ifs <;> exact ⟨rfl,rfl⟩
  | hint t taskClass boostPct => exact Or.inr (Or.inr ⟨rfl,rfl⟩)

theorem dsqStep_linked {w : World} (linked : Linked w) (e : DsqEvent) : Linked (dsqStep w e) := by
  rcases dsqStep_cases w e with same | ⟨t,_,lts,_,present,off,_,queued⟩ | ⟨t,lts,_,_,_,_,_,taken⟩ | ⟨rfl,off⟩
  · exact sameQueues_linked same linked
  · rw [queued]
    exact enqueue_linked linked present off
  · rw [taken]
    exact dequeue_linked linked
  · exact sync_linked linked off

/-- One step of a run keeps the links, and the counters exactly when it remembers
    the queue of a task that it takes off. -/
theorem dsqStep_keeps {w : World} (linked : Linked w) (exact : Exact w) (e : DsqEvent) :
    Linked (dsqStep w e) ∧ (Exact (dsqStep w e) ↔ Remembered w e) := by
  refine ⟨dsqStep_linked linked e,?_⟩
  cases e with
  | dequeue t =>
    rcases dequeue_cases w t with ⟨same,why⟩ | ⟨on,low,lts,present,queued,taken⟩
    · rw [dsqStep,same]
      refine iff_of_true exact ?_
      intro on queued low
      rcases why with off | idle | beyond
      · exact absurd off on
      · exact absurd queued idle
      · exact absurd low (not_lt.mpr beyond)
    · rw [dsqStep,taken]
      refine (dequeue_exact_iff linked exact present queued).trans ?_
      exact ⟨fun here _ _ _ => here,fun remembered => remembered on ⟨lts,present,queued⟩ low⟩
  | enqueue t cpu =>
    refine iff_of_true ?_ trivial
    rcases enqueue_cases w t cpu with same | ⟨lts,_,_,_,queued⟩
    · rwa [dsqStep,same]
    · rw [dsqStep,queued]
      exact enqueue_exact exact
  | scan cpu => exact iff_of_true (sameQueues_keep (scan_same w cpu) linked exact).2 trivial
  | sync => exact iff_of_true (sync_keeps linked exact).2 trivial
  | task t p => exact iff_of_true exact trivial
  | hint t taskClass boostPct => exact iff_of_true exact trivial
  | others e => exact iff_of_true exact trivial

/-- Along every run from empty queues, every queue's counter stays the length of its
    FIFO exactly when every dequeue finds its task on the queue it is classified for. -/
theorem depth_exact_iff (w : World) (empty : Empty w) (run : List DsqEvent) (called : Along dsqStep Called w run) :
    Along dsqStep (fun v e => Exact (dsqStep v e)) w run ↔ Along dsqStep Remembered w run :=
  along_iff (fun v => Linked v ∧ Exact v) (fun _ e held _ => (dsqStep_keeps held.1 held.2 e).2)
    (fun _ e held _ exact => ⟨(dsqStep_keeps held.1 held.2 e).1,exact⟩) (empty_linked empty) called

theorem boot_empty (nrCpuIds : ℕ) (task : ℕ → TaskStruct) : Empty (World.boot nrCpuIds task) := by
  refine ⟨fun _ => ⟨rfl,rfl⟩,?_⟩
  intro t lts present
  simp only [World.boot,Option.some.injEq] at present
  rw [← present]
  rfl

/-- A normal task is enqueued, becomes a foreground task and is dequeued: queue 8 is
    empty and still counts one. -/
theorem depth_lost :
    Empty (World.boot 1 (fun _ => plainTask)) ∧
      Along dsqStep Called (World.boot 1 (fun _ => plainTask))
        [.enqueue 1 0,.hint 1 .foreground 1280,.dequeue 1] ∧
      ¬ Along dsqStep (fun v e => Exact (dsqStep v e)) (World.boot 1 (fun _ => plainTask))
        [.enqueue 1 0,.hint 1 .foreground 1280,.dequeue 1] := by
  refine ⟨boot_empty 1 _,⟨?_,trivial,trivial,trivial⟩,?_⟩
  · exact ⟨rfl,by decide⟩
  · rintro ⟨_,_,exact,_⟩
    exact absurd (exact (.gdsq 8)) (by decide +kernel)

/-- A task that keeps its class is counted exactly. -/
theorem depth_exact_same_class :
    Along dsqStep (fun v e => Exact (dsqStep v e)) (World.boot 1 (fun _ => plainTask)) [.enqueue 1 0,.dequeue 1] ↔
      Along dsqStep Remembered (World.boot 1 (fun _ => plainTask)) [.enqueue 1 0,.dequeue 1] :=
  depth_exact_iff _ (boot_empty 1 _) _ ⟨⟨rfl,by decide⟩,trivial,trivial⟩

/-- What a switch from `prev` to `next` should leave behind: `prev` is the last one on
    the queue it is classified for, and `next`, unless it is an idle task, on none. -/
def Requeued (w : World) (prev next : ℕ) : Prop :=
  (∃ lts, w.lts prev = some lts ∧ lts.onDsq = true) ∧
    (w.dsq.queue (dsqOf (classified w prev))).fifo.getLast? = some prev ∧
    ((w.task next).isIdle = false → ∀ ref, next ∉ (w.dsq.queue ref).fifo)

/-- A switch on `cpu` as `__schedule()` announces it: `prev` is still current, and
    could be queued. -/
structure Switch (w : World) (cpu prev next : ℕ) : Prop where
  stats : w.dsq.slimStats ≠ 0
  enabled : w.dsq.enable ≠ 0
  other : prev ≠ next
  current : (w.rq cpu).curr = prev
  busy : (w.task prev).isIdle = false
  tracked : ∃ lts, w.lts prev = some lts ∧ lts.onDsq = false
  runnable : (w.task prev).onRq = true
  here : (w.task prev).cpu = cpu

theorem enqueue_current {w : World} {t cpu : ℕ} (current : (w.rq cpu).curr = t) : lseDsqEnqueueTask w t cpu = w := by
  cases present : w.lts t <;> simp [lseDsqEnqueueTask,present,current]

theorem dequeue_lts (w : World) {t u : ℕ} (other : u ≠ t) : (lseDsqDequeueTask w t).lts u = w.lts u := by
  rcases dequeue_cases w t with ⟨same,_⟩ | ⟨_,_,lts,_,_,taken⟩
  · rw [same]
  · rw [taken]
    simp [dsqDequeue,setQueue,World.setLts,other]

theorem scan_lts (w : World) (cpu : ℕ) : (lseDsqScanTimeout w cpu).lts = w.lts := by
  unfold lseDsqScanTimeout
  split_ifs <;> rfl

/-- The hook does not touch the record of the task that is current. -/
theorem hook_lts (w : World) {cpu prev next : ℕ} (other : prev ≠ next) (current : (w.rq cpu).curr = prev) :
    (lseDsqOnSchedule w cpu prev next).lts prev = w.lts prev := by
  have arrived : (if (w.task next).isIdle = false then lseDsqDequeueTask w next else w).lts prev = w.lts prev := by
    split_ifs
    · exact dequeue_lts w other
    · rfl
  simp only [lseDsqOnSchedule,ne_eq,other,not_false_eq_true,if_true,enqueue_current current,ite_self]
  generalize (if (w.task next).isIdle = false then lseDsqDequeueTask w next else w) = v at arrived
  split_ifs
  · rfl
  · rw [scan_lts]
    exact arrived
  · exact arrived

/-- No switch requeues the task that it preempts. -/
theorem on_schedule_never_queues (w : World) (cpu prev next : ℕ) (switch : Switch w cpu prev next) :
    ¬ Requeued (lseDsqOnSchedule w cpu prev next) prev next := by
  rintro ⟨⟨lts,after,on⟩,_,_⟩
  obtain ⟨before,present,off⟩ := switch.tracked
  rw [hook_lts w switch.other switch.current,present,Option.some.injEq] at after
  rw [← after,off] at on
  exact Bool.false_ne_true on

/-- The machine of `World.boot` with the statistics on. -/
def watched (nrCpuIds : ℕ) : World :=
  { World.boot nrCpuIds (fun _ => plainTask) with
    dsq := { (World.boot nrCpuIds (fun _ => plainTask)).dsq with slimStats := 1 } }

theorem watched_switch : Switch (watched 1) 0 0 1 := by
  constructor <;> simp [watched,World.boot,plainTask,initLseTaskStruct]

/-- On a machine with one CPU a switch from task 0 to task 1 leaves task 0 off the queues. -/
theorem preempted_not_queued : Switch (watched 1) 0 0 1 ∧ ¬ Requeued (lseDsqOnSchedule (watched 1) 0 0 1) 0 1 := by
  refine ⟨watched_switch,?_⟩
  rintro ⟨_,last,_⟩
  exact absurd last (by decide +kernel)

theorem on_schedule_never_queues_watched : ¬ Requeued (lseDsqOnSchedule (watched 1) 0 0 1) 0 1 :=
  on_schedule_never_queues (watched 1) 0 0 1 watched_switch

end LunarSched.DsqDepth
