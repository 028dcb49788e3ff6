import LunarSched.DsqDepth
import LunarSched.Occupancy

/-!
What becomes of the queue nodes of tasks that are released. A node leaves its queue
in the schedule hook when its task is switched in, and the hook does that only while
`slim_walt_ctrl`, `slim_stats` and `dsq_enable` are all set; `free_lse_task_struct`
does not look. Along a run no queue holds the node of a released task when no queued
task is switched in while one of the three is off (`no_freed_node`).
-/
namespace LunarSched.FreedTasks
open LunarSched.Machine LunarSched.Kernel LunarSched.UtilTrack LunarSched.Dsq LunarSched.ShadowTick LunarSched.Hooks
open LunarSched.Accounts LunarSched.Runs
open LunarSched.Occupancy (Elsewhere NotCurrent)
open LunarSched.DsqDepth

/-- Where a task is in its life: it waits since it was last enqueued or has not run
    yet, it was switched in since then, or it was then switched out for good. -/
inductive Phase where
  | waiting
  | running
  | dead
deriving DecidableEq

/-- The machine in a run, with `lse_dsq_rescue_enable`, where each task is in its life,
    and the tasks whose records were released. -/
structure Lived where
  world : World
  rescueEnable : ℤ
  phase : ℕ → Phase
  freed : ℕ → Bool

/-- The calls on the queues, the writes to the switches, and the life of tasks. A
    switch says whether the previous task is dead. `others` is what ticks, irq work
    and other code do meanwhile, taken from another state. -/
inductive LifeEvent where
  | enqueue (t cpu : ℕ)
  | schedule (cpu next clock : ℕ) (dead : Bool)
  | slimStats (val : ℤ)
  | slimWaltCtrl (val : ℤ)
  | dsqEnable (val : ℤ)
  | dsqRescueEnable (val : ℤ)
  | alloc (t : ℕ)
  | free (t : ℕ)
  | task (t : ℕ) (p : TaskStruct)
  | others (e : World)

/-- `lse_proc_dsq_toggle_update`, a write of `val` to the switch that the table entry
    reads with `data` and stores with `store`. -/
def lseProcDsqToggleUpdate (data : Lived → ℤ) (store : ℤ → Lived → Lived) (s : Lived) (val : ℤ) : Lived :=
  if val = data s then s else { store val s with world := lseDsqSync (store val s).world }

def storeDsqEnable (val : ℤ) (s : Lived) : Lived :=
  { s with world := { s.world with dsq := { s.world.dsq with enable := val } } }

def storeDsqRescueEnable (val : ℤ) (s : Lived) : Lived := { s with rescueEnable := val }

/-- One state with the surroundings of another: the queues, the queued flags, who runs
    where, the tasks and the switch of the tracker stay. -/
def meanwhile (w e : World) : World :=
  { w with
    online := e.online
    msecsToJiffies := e.msecsToJiffies
    lrq := e.lrq
    freq := e.freq
    shadow := e.shadow
    track := { e.track with slimWaltCtrl := w.track.slimWaltCtrl }
    lts := fun t => (w.lts t).map (fun lts => { (e.lts t).getD lts with onDsq := lts.onDsq })
    dsq := { w.dsq with jiffies := e.dsq.jiffies } }

/-- The phases after a switch from `prev` to another task. -/
def switchPhase (phase : ℕ → Phase) (prev next : ℕ) (dead : Bool) : ℕ → Phase :=
  fun t => if t = next then .running else if t = prev ∧ dead = true ∧ phase t = .running then .dead else phase t

def lifeStep (s : Lived) : LifeEvent → Lived
  | .enqueue t cpu =>
    { s with world := lseDsqEnqueueTask s.world t cpu, phase := Function.update s.phase t .waiting }
  | .schedule cpu next clock dead =>
    let prev := (s.world.rq cpu).curr
    { s with
      world := switchTo (lseSchedule s.world cpu prev next clock) cpu next
      phase := if next = prev then s.phase else switchPhase s.phase prev next dead }
  | .slimStats val => { s with world := { s.world with dsq := { s.world.dsq with slimStats := val } } }
  | .slimWaltCtrl val => { s with world := { s.world with track := { s.world.track with slimWaltCtrl := val } } }
  | .dsqEnable val => lseProcDsqToggleUpdate (fun s => s.world.dsq.enable) storeDsqEnable s val
  | .dsqRescueEnable val => lseProcDsqToggleUpdate Lived.rescueEnable storeDsqRescueEnable s val
  | .alloc t => { s with world := allocLseTaskStruct s.world t }
  | .free t => { s with world := freeLseTaskStruct s.world t, freed := Function.update s.freed t true }
  | .task t p => { s with world := { s.world with task := Function.update s.world.task t p } }
  | .others e => { s with world := meanwhile s.world e }

/-- A task that may run on one CPU only has a CPU to run on. -/
def Placeable (nrCpuIds : ℕ) (p : TaskStruct) : Prop :=
  p.nrCpusAllowed = 1 ∨ p.migrationDisabled = true → p.cpusAny < nrCpuIds

instance (nrCpuIds : ℕ) (p : TaskStruct) : Decidable (Placeable nrCpuIds p) := inferInstanceAs (Decidable (_ → _))

/-- What the kernel promises: tasks that are enqueued are runnable and not current, a
    task that is picked runs nowhere else, a dead task is off the run queue, a task's
    number is not used again after its release, and a task is released only when it is
    dead. Idle tasks stay idle and are never released. -/
def Admitted (s : Lived) : LifeEvent → Prop
  | .enqueue t _ => (s.world.task t).onRq = true ∧ NotCurrent s.world t
  | .schedule cpu next _ dead =>
    Elsewhere s.world next cpu ∧ (dead = true → (s.world.task (s.world.rq cpu).curr).onRq = false)
  | .alloc t => s.freed t = false
  | .free t => s.phase t = .dead ∧ (s.world.task t).isIdle = false
  | .task t p => p.isIdle = (s.world.task t).isIdle ∧ Placeable s.world.nrCpuIds p
  | _ => True

instance (s : Lived) : (e : LifeEvent) → Decidable (Admitted s e)
  | .enqueue t _ => inferInstanceAs (Decidable (_ ∧ NotCurrent s.world t))
  | .schedule cpu next _ _ => inferInstanceAs (Decidable (Elsewhere s.world next cpu ∧ (_ → _)))
  | .alloc _ => inferInstanceAs (Decidable (_ = _))
  | .free _ => inferInstanceAs (Decidable (_ ∧ _))
  | .task _ p => inferInstanceAs (Decidable (_ ∧ Placeable s.world.nrCpuIds p))
  | .slimStats _ | .slimWaltCtrl _ | .dsqEnable _ | .dsqRescueEnable _ | .others _ => isTrue trivial

/-- The task's record, if it has one, says that it is on no queue. -/
def OffQueues (w : World) (t : ℕ) : Prop := ∀ lts, w.lts t = some lts → lts.onDsq = false

instance (w : World) (t : ℕ) : Decidable (OffQueues w t) :=
  match present : w.lts t with
  | none => isTrue (fun lts same => by simp [present] at same)
  | some lts => decidable_of_iff (lts.onDsq = false)
      ⟨fun off other same => by rw [present,Option.some.injEq] at same; exact same ▸ off,fun all => all lts present⟩

/-- No queued task is switched in while a switch is off that guards the hook. -/
def Unlinks (s : Lived) : LifeEvent → Prop
  | .schedule cpu next _ _ =>
    next ≠ (s.world.rq cpu).curr → (s.world.task next).isIdle = false → ¬ OffQueues s.world next →
      s.world.track.slimWaltCtrl ≠ 0 ∧ s.world.dsq.slimStats ≠ 0 ∧ s.world.dsq.enable ≠ 0
  | _ => True

instance (s : Lived) : (e : LifeEvent) → Decidable (Unlinks s e)
  | .schedule _ next _ _ => inferInstanceAs (Decidable (_ → _ → ¬ OffQueues s.world next → _))
  | .slimStats _ | .slimWaltCtrl _ | .dsqEnable _ | .dsqRescueEnable _ => isTrue trivial
  | .enqueue .. | .alloc _ | .free _ | .task .. | .others _ => isTrue trivial

/-- No queue holds the node of a task whose record was released. -/
def NoFreedNode (s : Lived) : Prop := ∀ t, s.freed t = true → ∀ ref, t ∉ (s.world.dsq.queue ref).fifo

/-- The machine before the run: no task has run, and none is released. -/
def lived (w : World) : Lived := ⟨w,1,fun _ => .waiting,fun _ => false⟩

theorem updateHistory_onDsq (g : Track) (p : TaskStruct) (lts : LseTaskStruct) (runtime : ℕ) (samples : ℤ) :
    (updateHistory g p lts runtime samples).onDsq = lts.onDsq := by
  simp only [updateHistory]
  split_ifs <;> rfl

theorem updateTaskDemand_onDsq (g : Track) (rq : Rq) (lrq : LseRq) (t : ℕ) (p : TaskStruct) (lts : LseTaskStruct)
    (event : TaskEvent) (wallclock : ℕ) : (updateTaskDemand g rq lrq t p lts event wallclock).2.onDsq = lts.onDsq := by
  simp only [updateTaskDemand]
  split_ifs <;> simp [updateHistory_onDsq,addToTaskDemand]

theorem ravgUpdate_onDsq (w : World) (lts : LseTaskStruct) (t cpu : ℕ) (event : TaskEvent) (wallclock : ℕ) :
    (ravgUpdate w lts t cpu event wallclock).1.onDsq = lts.onDsq := by
  simp only [ravgUpdate]
  split_ifs <;> simp [accountTask,updateTaskDemand_onDsq]

theorem records_onDsq (w : World) (lts : LseTaskStruct) (t cpu : ℕ) (event : TaskEvent) (wallclock : ℕ) :
    (records w lts t cpu event wallclock).1.onDsq = lts.onDsq := by
  simp only [records]
  split_ifs
  · rfl
  · exact ravgUpdate_onDsq w _ t cpu event wallclock

/-- Neither the queues with their switches, nor who runs where, nor a queued flag differs. -/
structure SameDispatch (w v : World) : Prop where
  cpus : v.nrCpuIds = w.nrCpuIds
  dsq : v.dsq = w.dsq
  rq : v.rq = w.rq
  task : v.task = w.task
  queued : ∀ t, (v.lts t).map LseTaskStruct.onDsq = (w.lts t).map LseTaskStruct.onDsq

theorem SameDispatch.trans {u v w : World} (first : SameDispatch u v) (second : SameDispatch v w) : SameDispatch u w :=
  ⟨second.cpus.trans first.cpus,second.dsq.trans first.dsq,second.rq.trans first.rq,second.task.trans first.task,
    fun t => (second.queued t).trans (first.queued t)⟩

theorem SameDispatch.queues {w v : World} (same : SameDispatch w v) : SameQueues w v :=
  ⟨fun _ => by rw [same.dsq],fun _ => by rw [same.dsq],same.queued⟩

theorem updateIfTracked_dispatch (w : World) (t cpu : ℕ) (event : TaskEvent) (wallclock : ℕ) :
    SameDispatch w (updateIfTracked w t cpu event wallclock) := by
  rcases updateIfTracked_outcome w t cpu event wallclock with same | ⟨lts,_,_,present,_,stored⟩
  · rw [same]
    exact ⟨rfl,rfl,rfl,rfl,fun _ => rfl⟩
  · rw [stored]
    refine ⟨rfl,rfl,rfl,rfl,fun u => ?_⟩
    by_cases here : u = t
    · subst here
      simp [present,records_onDsq]
    · simp [here]

theorem scheduleRavg_dispatch (w : World) (cpu prev next clock : ℕ) :
    SameDispatch w (scheduleRavg w cpu prev next clock) := by
  unfold scheduleRavg
  split_ifs
  · exact (updateIfTracked_dispatch w prev cpu .putPrevTask _).trans (updateIfTracked_dispatch _ next cpu .pickNextTask _)
  · exact updateIfTracked_dispatch w prev cpu .taskUpdate _

section
variable {w v : World} {t cpu next : ℕ}

theorem off_same (same : SameQueues w v) (off : OffQueues w t) : OffQueues v t := by
  intro lts present
  obtain ⟨before,there,queued⟩ := queued_iff.mp ((same.queued t).symm.trans (queued_iff.mpr ⟨lts,present,rfl⟩))
  exact queued.symm.trans (off before there)

/-- The classification selects a global queue, or the queue of the CPU a task is bound to. -/
theorem classified_cases (w : World) (t : ℕ) :
    classified w t < lseDsqPcpBase ∨
      (((w.task t).nrCpusAllowed = 1 ∨ (w.task t).migrationDisabled = true) ∧
        classified w t = lseDsqPcpBase + (w.task t).cpusAny) := by
  have base : lseDsqPcpBase = 10 := rfl
  cases present : w.lts t with
  | none =>
    left
    simp only [classified,present,lseDsqClassifyLts]
    split_ifs <;> omega
  | some lts =>
    simp only [classified,present,lseDsqClassifyLts]
    split_ifs with pinned
    · exact Or.inr ⟨pinned,rfl⟩
    · exact Or.inl (by omega)
    · exact Or.inl (by omega)
    all_goals
      left
      cases lts.taskClass <;> simp only <;> omega

/-- The classification of a task that may run somewhere selects a queue. -/
theorem classified_valid (placeable : Placeable w.nrCpuIds (w.task t)) :
    classified w t < lseDsqPcpBase + w.nrCpuIds := by
  rcases classified_cases w t with global | ⟨pinned,own⟩
  · exact global.trans_le (Nat.le_add_right _ _)
  · rw [own]
    exact Nat.add_lt_add_left (placeable pinned) _

theorem dequeue_offs {u : ℕ} (off : OffQueues w u) : OffQueues (lseDsqDequeueTask w t) u := by
  rcases dequeue_cases w t with ⟨same,_⟩ | ⟨_,_,lts,_,_,taken⟩
  · rwa [same]
  · intro after present
    rw [taken,dsqDequeue_lts] at present
    split_ifs at present with here
    · rw [Option.some.injEq] at present
      rw [← present]
    · exact off after present

/-- With the queues switched on, a dequeue takes any task off the queues. -/
theorem dequeue_off (on : w.dsq.enable ≠ 0) (placeable : Placeable w.nrCpuIds (w.task t)) :
    OffQueues (lseDsqDequeueTask w t) t := by
  rcases dequeue_cases w t with ⟨same,why⟩ | ⟨_,_,lts,_,_,taken⟩
  · rw [same]
    intro lts present
    rcases why with off | idle | beyond
    · exact absurd off on
    · by_contra queued
      exact idle ⟨lts,present,by simpa using queued⟩
    · exact absurd beyond (not_le.mpr (classified_valid placeable))
  · intro after present
    rw [taken,dsqDequeue_lts,if_pos rfl,Option.some.injEq] at present
    rw [← present]

theorem dequeue_keeps_linked (linked : Linked w) : Linked (lseDsqDequeueTask w t) := by
  rcases dequeue_cases w t with ⟨same,_⟩ | ⟨_,_,lts,_,_,taken⟩
  · rwa [same]
  · rw [taken]
    exact dequeue_linked linked

/-- The hook dequeues the next task, if it does anything for it; the previous task is
    still current and stays off the queues. -/
theorem lseDsqOnSchedule_dequeues (w : World) (cpu next : ℕ) :
    SameQueues (if w.dsq.slimStats ≠ 0 ∧ w.dsq.enable ≠ 0 ∧ next ≠ (w.rq cpu).curr ∧ (w.task next).isIdle = false then
      lseDsqDequeueTask w next else w) (lseDsqOnSchedule w cpu (w.rq cpu).curr next) := by
  have scanned : ∀ u, SameQueues u (if timeBefore (u64 (u.dsq.lastScanJf cpu + 4)) u.dsq.jiffies = true then
      lseDsqScanTimeout
        { u with dsq := { u.dsq with lastScanJf := Function.update u.dsq.lastScanJf cpu u.dsq.jiffies } } cpu
      else u) := by
    intro u
    split_ifs
    · obtain ⟨fifo,nr,queued⟩ := scan_same
        { u with dsq := { u.dsq with lastScanJf := Function.update u.dsq.lastScanJf cpu u.dsq.jiffies } } cpu
      exact ⟨fifo,nr,queued⟩
    · exact sameQueues_refl u
  by_cases off : w.dsq.slimStats = 0 ∨ w.dsq.enable = 0
  · have idle : ¬ (w.dsq.slimStats ≠ 0 ∧ w.dsq.enable ≠ 0 ∧ next ≠ (w.rq cpu).curr ∧ (w.task next).isIdle = false) :=
      fun on => off.elim on.1 on.2.1
    rw [if_neg idle,lseDsqOnSchedule,if_pos off]
    exact sameQueues_refl w
  · have stats : w.dsq.slimStats ≠ 0 := fun none => off (Or.inl none)
    have on : w.dsq.enable ≠ 0 := fun none => off (Or.inr none)
    by_cases other : next = (w.rq cpu).curr
    · simp only [lseDsqOnSchedule,if_false,stats,on,other,or_self,ne_eq,not_true_eq_false,not_false_eq_true,false_and,and_false]
      exact scanned w
    · have different : (w.rq cpu).curr ≠ next := fun same => other same.symm
      simp only [lseDsqOnSchedule,if_false,stats,on,other,different,or_self,ne_eq,not_false_eq_true,true_and,if_true,
        enqueue_current rfl,ite_self]
      exact scanned _

/-- The shadow ticks leave the queues alone. -/
theorem lseShadowTickUpdateCpu_same (w : World) (here cpu : ℕ) : SameQueues w (lseShadowTickUpdateCpu w here cpu) := by
  have stops : SameQueues w (lseShadowTickStopCpu w cpu) := by
    unfold lseShadowTickStopCpu
    split_ifs <;> exact ⟨fun _ => rfl,fun _ => rfl,fun _ => rfl⟩
  have starts : SameQueues w (lseShadowTickStartCpu w here cpu) := by
    unfold lseShadowTickStartCpu
    split_ifs
    · exact stops
    · exact sameQueues_refl w
    · exact ⟨fun _ => rfl,fun _ => rfl,fun _ => rfl⟩
  unfold lseShadowTickUpdateCpu
  split_ifs
  · exact sameQueues_refl w
  · exact stops
  · exact stops
  · exact starts

/-- What the hook does to the queues: it may dequeue the next task, which it does when
    no switch is off. -/
theorem lseSchedule_dequeues (w : World) (cpu next clock : ℕ) (placeable : Placeable w.nrCpuIds (w.task next)) :
    (Linked w → Linked (lseSchedule w cpu (w.rq cpu).curr next clock)) ∧
      (∀ u, OffQueues w u → OffQueues (lseSchedule w cpu (w.rq cpu).curr next clock) u) ∧
      (w.track.slimWaltCtrl ≠ 0 → w.dsq.slimStats ≠ 0 → w.dsq.enable ≠ 0 → next ≠ (w.rq cpu).curr →
        (w.task next).isIdle = false → OffQueues (lseSchedule w cpu (w.rq cpu).curr next clock) next) := by
  by_cases off : w.track.slimWaltCtrl = 0
  · rw [lseSchedule,if_pos off]
    exact ⟨id,fun _ same => same,fun on => absurd off on⟩
  · have tracker := scheduleRavg_dispatch w cpu (w.rq cpu).curr next clock
    have hook := lseDsqOnSchedule_dequeues (scheduleRavg w cpu (w.rq cpu).curr next clock) cpu next
    rw [tracker.dsq,tracker.rq,tracker.task] at hook
    have after := sameQueues_trans hook (lseShadowTickUpdateCpu_same _ cpu cpu)
    rw [lseSchedule,if_neg off]
    refine ⟨fun linked => ?_,fun u same => ?_,fun _ stats on other busy => ?_⟩
    · refine sameQueues_linked after ?_
      split_ifs
      · exact dequeue_keeps_linked (sameQueues_linked tracker.queues linked)
      · exact sameQueues_linked tracker.queues linked
    · refine off_same after ?_
      split_ifs
      · exact dequeue_offs (off_same tracker.queues same)
      · exact off_same tracker.queues same
    · refine off_same after ?_
      rw [if_pos ⟨stats,on,other,busy⟩]
      refine dequeue_off ?_ ?_
      · rwa [tracker.dsq]
      · rwa [tracker.cpus,tracker.task]

end

/-! ### The invariant -/

/-- The state of a run: the nodes on the queues are those of the tasks whose records
    say so, a task that ran since its last enqueue is on none, and a released task has
    no record. -/
structure Sound (s : Lived) : Prop extends Linked s.world where
  placeable : ∀ t, Placeable s.world.nrCpuIds (s.world.task t)
  unlinked : ∀ t, (s.world.task t).isIdle = false → s.phase t ≠ .waiting → OffQueues s.world t
  gone : ∀ t, s.freed t = true → s.world.lts t = none

/-- A task without a record is on no queue. -/
theorem Sound.nothing {s : Lived} (sound : Sound s) : NoFreedNode s := by
  intro t freed ref queued
  obtain ⟨lts,present,_⟩ := sound.flagged ref t queued
  rw [sound.gone t freed] at present
  cases present

section
variable {s : Lived}

/-- A step that changes no queue, no flag and no task's kind, and moves nobody's phase. -/
theorem sound_same (sound : Sound s) {v : World} (same : SameQueues s.world v) (cpus : v.nrCpuIds = s.world.nrCpuIds)
    (placeable : ∀ t, Placeable s.world.nrCpuIds (v.task t)) (idle : ∀ t, (v.task t).isIdle = (s.world.task t).isIdle) :
    Sound { s with world := v } := by
  refine ⟨sameQueues_linked same sound.toLinked,fun t => ?_,fun t busy moved => ?_,fun t freed => ?_⟩
  · rw [cpus]
    exact placeable t
  · exact off_same same (sound.unlinked t ((idle t).symm.trans busy) moved)
  · have missing := same.queued t
    rw [sound.gone t freed] at missing
    simpa using missing

/-- A drain takes tasks off the queues. -/
theorem sync_sound (sound : Sound s) : Sound { s with world := lseDsqSync s.world } := by
  by_cases off : s.world.dsq.enable = 0
  · have cpus : (lseDsqSync s.world).nrCpuIds = s.world.nrCpuIds := by simp [lseDsqSync,off]
    have task : (lseDsqSync s.world).task = s.world.task := by simp [lseDsqSync,off]
    refine ⟨sync_linked sound.toLinked off,?_,?_,?_⟩
    · intro t
      show Placeable (lseDsqSync s.world).nrCpuIds ((lseDsqSync s.world).task t)
      rw [cpus,task]
      exact sound.placeable t
    · intro t busy moved lts present
      change (lseDsqSync s.world).lts t = some lts at present
      change ((lseDsqSync s.world).task t).isIdle = false at busy
      rw [task] at busy
      rw [sync_lts off] at present
      split_ifs at present
      · obtain ⟨before,_,same⟩ := Option.map_eq_some_iff.mp present
        rw [← same]
      · exact sound.unlinked t busy moved lts present
    · intro t freed
      show (lseDsqSync s.world).lts t = none
      rw [sync_lts off,sound.gone t freed]
      simp
  · rwa [sync_on off]

theorem toggle_sound (data : Lived → ℤ) {store : ℤ → Lived → Lived} {val : ℤ} (sound : Sound s)
    (stored : Sound (store val s)) : Sound (lseProcDsqToggleUpdate data store s val) := by
  unfold lseProcDsqToggleUpdate
  split_ifs
  · exact sound
  · exact sync_sound stored

/-- Whoever is enqueued waits. -/
theorem enqueue_sound (sound : Sound s) (t cpu : ℕ) : Sound (lifeStep s (.enqueue t cpu)) := by
  have waits : ∀ {u}, Function.update s.phase t .waiting u ≠ .waiting → u ≠ t ∧ s.phase u ≠ .waiting := by
    intro u moved
    by_cases here : u = t
    · subst here
      exact absurd (Function.update_self _ _ _) moved
    · rw [Function.update_of_ne here] at moved
      exact ⟨here,moved⟩
  simp only [lifeStep]
  rcases enqueue_cases s.world t cpu with same | ⟨lts,present,off,_,queued⟩
  · rw [same]
    exact ⟨sound.toLinked,sound.placeable,fun u busy moved => sound.unlinked u busy (waits moved).2,sound.gone⟩
  · rw [queued]
    refine ⟨enqueue_linked sound.toLinked present off,sound.placeable,?_,?_⟩
    · intro u busy moved after found
      obtain ⟨other,ran⟩ := waits moved
      rw [dsqEnqueue_lts,if_neg other] at found
      exact sound.unlinked u busy ran after found
    · intro u freed
      show (dsqEnqueue s.world (dsqOf (classified s.world t)) t lts).lts u = none
      have missing := sound.gone u freed
      rw [dsqEnqueue_lts]
      split_ifs with here
      · rw [here,present] at missing
        cases missing
      · exact missing

/-- The hook makes no task, no CPU and no record. -/
theorem lseSchedule_kept (w : World) (cpu prev next clock : ℕ) :
    (lseSchedule w cpu prev next clock).nrCpuIds = w.nrCpuIds ∧ (lseSchedule w cpu prev next clock).task = w.task ∧
      ∀ t, w.lts t = none → (lseSchedule w cpu prev next clock).lts t = none := by
  unfold lseSchedule
  split_ifs with off
  · exact ⟨rfl,rfl,fun _ missing => missing⟩
  · have tracker := scheduleRavg_dispatch w cpu prev next clock
    obtain ⟨rest,records⟩ := afterRavg_queues (scheduleRavg w cpu prev next clock) cpu prev next
    refine ⟨?_,?_,?_⟩
    · rw [rest]
      exact tracker.cpus
    · rw [rest]
      exact tracker.task
    · intro t missing
      have before := tracker.queued t
      obtain ⟨queued,after⟩ := records t
      rw [missing,Option.map_none,Option.map_eq_none_iff] at before
      rw [after,before]
      rfl

/-- A task that moved on to running or to its end was switched in just now, or ran already. -/
theorem switchPhase_cases {phase : ℕ → Phase} {prev next t : ℕ} {dead : Bool}
    (moved : switchPhase phase prev next dead t ≠ .waiting) : t = next ∨ phase t ≠ .waiting := by
  by_cases here : t = next
  · exact Or.inl here
  · right
    intro waits
    simp [switchPhase,here,waits] at moved

theorem schedule_sound (sound : Sound s) {cpu next clock : ℕ} {dead : Bool}
    (unlinks : Unlinks s (.schedule cpu next clock dead)) : Sound (lifeStep s (.schedule cpu next clock dead)) := by
  obtain ⟨linked,stays,leaves⟩ := lseSchedule_dequeues s.world cpu next clock (sound.placeable next)
  obtain ⟨cpus,task,missing⟩ := lseSchedule_kept s.world cpu (s.world.rq cpu).curr next clock
  have arrives : next ≠ (s.world.rq cpu).curr → (s.world.task next).isIdle = false →
      OffQueues (lseSchedule s.world cpu (s.world.rq cpu).curr next clock) next := by
    intro other busy
    by_cases off : OffQueues s.world next
    · exact stays next off
    · obtain ⟨on,stats,enabled⟩ := unlinks other busy off
      exact leaves on stats enabled other busy
  refine ⟨?_,?_,?_,fun t freed => missing t (sound.gone t freed)⟩
  · obtain ⟨flagged,placed,once,one⟩ := linked sound.toLinked
    exact ⟨flagged,placed,once,one⟩
  · intro t
    show Placeable (lseSchedule s.world cpu _ next clock).nrCpuIds ((lseSchedule s.world cpu _ next clock).task t)
    rw [cpus,task]
    exact sound.placeable t
  · intro t busy moved
    change ((lseSchedule s.world cpu _ next clock).task t).isIdle = false at busy
    rw [task] at busy
    simp only [lifeStep] at moved
    split_ifs at moved with same
    · exact stays t (sound.unlinked t busy moved)
    · rcases switchPhase_cases moved with rfl | ran
      · exact arrives same busy
      · exact stays t (sound.unlinked t busy ran)

/-- Queues stay linked when a task that is on none loses its record or gets one that says so. -/
theorem record_linked {w : World} (linked : Linked w) {t : ℕ} (off : OffQueues w t) {record : Option LseTaskStruct}
    (blank : ∀ lts, record = some lts → lts.onDsq = false) :
    Linked { w with lts := Function.update w.lts t record } := by
  refine ⟨?_,?_,linked.once,linked.one⟩
  · intro ref u queued
    obtain ⟨lts,found,on⟩ := linked.flagged ref u queued
    have other : u ≠ t := by
      rintro rfl
      rw [off lts found] at on
      cases on
    exact ⟨lts,(Function.update_of_ne other _ _).trans found,on⟩
  · refine stored_records ?_ (fun u _ => linked.placed u)
    intro lts stored on
    rw [blank lts stored] at on
    cases on

theorem record_sound (sound : Sound s) {t : ℕ} (off : OffQueues s.world t) {record : Option LseTaskStruct}
    (blank : ∀ lts, record = some lts → lts.onDsq = false) {freed : ℕ → Bool}
    (others : ∀ u, u ≠ t → freed u = s.freed u) (own : freed t = true → record = none) :
    Sound { s with world := { s.world with lts := Function.update s.world.lts t record }, freed := freed } := by
  refine { toLinked := record_linked sound.toLinked off blank
           placeable := sound.placeable
           unlinked := ?_
           gone := ?_ }
  · intro u busy moved lts found
    exact stored_records (fun lts stored _ _ => blank lts stored)
      (fun u _ lts found busy moved => sound.unlinked u busy moved lts found) u lts found busy moved
  · intro u gone
    by_cases here : u = t
    · subst here
      simpa using own gone
    · simpa [here] using sound.gone u ((others u here).symm.trans gone)

theorem alloc_sound (sound : Sound s) {t : ℕ} (fresh : s.freed t = false) : Sound (lifeStep s (.alloc t)) := by
  rcases allocLseTaskStruct_cases s.world t with same | ⟨none,stored⟩
  · simpa only [lifeStep,same] using sound
  · have off : OffQueues s.world t := fun lts present => by simp [none] at present
    simp only [lifeStep,stored]
    refine record_sound sound off ?_ (fun _ _ => rfl) (fun gone => by simp [fresh] at gone)
    rintro lts ⟨⟩
    rfl

/-- A dead task that is released is on no queue. -/
theorem free_sound (sound : Sound s) {t : ℕ} (dead : s.phase t = .dead) (busy : (s.world.task t).isIdle = false) :
    Sound (lifeStep s (.free t)) := by
  have off : OffQueues s.world t := sound.unlinked t busy (by rw [dead]; decide)
  exact record_sound sound off (fun _ absent => by cases absent) (fun u away => Function.update_of_ne away _ _)
    (fun _ => rfl)

theorem lifeStep_sound (sound : Sound s) {e : LifeEvent} (admitted : Admitted s e) (unlinks : Unlinks s e) :
    Sound (lifeStep s e) := by
  have around : ∀ v : World, SameQueues s.world v → v.nrCpuIds = s.world.nrCpuIds → v.task = s.world.task →
      Sound { s with world := v } := by
    intro v same cpus task
    refine sound_same sound same cpus ?_ ?_
    · rw [task]
      exact sound.placeable
    · rw [task]
      exact fun _ => rfl
  have alone : ∀ v : World, v.dsq.queue = s.world.dsq.queue → v.lts = s.world.lts → SameQueues s.world v :=
    fun v queue lts => ⟨fun _ => by rw [queue],fun _ => by rw [queue],fun _ => by rw [lts]⟩
  cases e with
  | enqueue t cpu => exact enqueue_sound sound t cpu
  | schedule cpu next clock dead => exact schedule_sound sound unlinks
  | slimStats val => exact around _ (alone _ rfl rfl) rfl rfl
  | slimWaltCtrl val => exact around _ (alone _ rfl rfl) rfl rfl
  | dsqEnable val =>
    have stored : Sound (storeDsqEnable val s) := around _ (alone _ rfl rfl) rfl rfl
    exact toggle_sound (fun s => s.world.dsq.enable) sound stored
  | dsqRescueEnable val =>
    exact toggle_sound Lived.rescueEnable sound ⟨sound.toLinked,sound.placeable,sound.unlinked,sound.gone⟩
  | alloc t => exact alloc_sound sound admitted
  | free t => exact free_sound sound admitted.1 admitted.2
  | task t p =>
    refine sound_same sound (alone _ rfl rfl) rfl ?_ ?_
    · intro u
      by_cases here : u = t
      · subst here
        simpa using admitted.2
      · simpa [here] using sound.placeable u
    · intro u
      by_cases here : u = t
      · subst here
        simpa using admitted.1
      · simp [here]
  | others e =>
    refine around _ ⟨fun _ => rfl,fun _ => rfl,fun t => ?_⟩ rfl rfl
    cases present : s.world.lts t <;> simp [meanwhile,present]

end

/-- After every run in which no queued task is switched in while one of the switches is
    off, no queue holds the node of a released task. -/
theorem no_freed_node (w : World) (empty : Empty w) (placeable : ∀ t, Placeable w.nrCpuIds (w.task t))
    (run : List LifeEvent) (admitted : Along lifeStep Admitted (lived w) run)
    (unlinks : Along lifeStep Unlinks (lived w) run) : NoFreedNode (exec lifeStep (lived w) run) := by
  have start : Sound (lived w) :=
    ⟨(empty_linked empty).1,placeable,fun _ _ moved => absurd rfl moved,fun _ freed => by cases freed⟩
  exact (exec_invariant Sound (fun _ _ sound (ok : Admitted _ _ ∧ Unlinks _ _) => lifeStep_sound sound ok.1 ok.2) start
    (along_and.mpr ⟨admitted,unlinks⟩)).nothing

/-- Task 1 is enqueued, and while the statistics are off it runs and dies. -/
def diesUnwatched : List LifeEvent :=
  [.slimStats 1,.enqueue 1 0,.slimStats 0,.schedule 0 1 1000000 false,.task 1 { plainTask with onRq := false },
    .schedule 0 0 2000000 true,.free 1]

/-- The node of task 1 is still on queue 8 when its record is released. -/
theorem freed_node_left :
    Empty (World.boot 1 (Occupancy.idleBelow 1)) ∧
      Along lifeStep Admitted (lived (World.boot 1 (Occupancy.idleBelow 1))) diesUnwatched ∧
      ¬ NoFreedNode (exec lifeStep (lived (World.boot 1 (Occupancy.idleBelow 1))) diesUnwatched) :=
  ⟨boot_empty 1 _,by decide +kernel,fun clean => clean 1 (by decide +kernel) (.gdsq 8) (by decide +kernel)⟩

/-- With the statistics on, the node is gone before the record is. -/
theorem no_freed_node_watched :
    NoFreedNode (exec lifeStep (lived (World.boot 1 (Occupancy.idleBelow 1)))
      [.slimStats 1,.enqueue 1 0,.schedule 0 1 1000000 false,.task 1 { plainTask with onRq := false },
        .schedule 0 0 2000000 true,.free 1]) :=
  no_freed_node (World.boot 1 (Occupancy.idleBelow 1)) (boot_empty 1 _) (fun _ _ => Nat.zero_lt_one) _
    (by decide +kernel) (by decide +kernel)

end LunarSched.FreedTasks
