import LunarSched.FreedTasks
import LunarSched.Governor
import LunarSched.MonitoredHooks

/-!
The dispatch queues of the whole system. The only code that queues a task is the
schedule hook, which passes the previous task while it is still the current one of its
CPU, and the enqueue refuses a current task. So no queue ever holds a task, none times
out, the urgency stays 0, and the governor does on every tick what it would do with
the queues switched off (`queues_stay_empty`).
-/
namespace LunarSched.EmptyQueues
open LunarSched.Machine LunarSched.Kernel LunarSched.UtilTrack LunarSched.Dsq LunarSched.ShadowTick LunarSched.Hooks
open LunarSched.Governor LunarSched.Accounts LunarSched.Runs LunarSched.MonitoredHooks
open LunarSched.DsqDepth (enqueue_current SameQueues)
open LunarSched.FreedTasks (OffQueues SameDispatch updateIfTracked_dispatch scheduleRavg_dispatch)

/-- The hooks, or any other code meanwhile, the drain, and the life of the records. -/
inductive QueueEvent where
  | hook (e : SystemEvent)
  | sync
  | alloc (tsk : ℕ)
  | free (tsk : ℕ)

/-- One state with the surroundings of another. Only the queues and the queued flags stay:
    no other code touches them. -/
def surroundings (w v : World) : World :=
  { v with
    lts := fun t => (w.lts t).map (fun lts => { (v.lts t).getD lts with onDsq := lts.onDsq })
    dsq := { v.dsq with queue := w.dsq.queue } }

def queueStep (w : World) : QueueEvent → World
  | .hook (.others v) => surroundings w v
  | .hook e => hook w e
  | .sync => lseDsqSync w
  | .alloc tsk => allocLseTaskStruct w tsk
  | .free tsk => freeLseTaskStruct w tsk

/-- No task is on a queue, no queue counts one and none has timed out. -/
structure Quiet (w : World) : Prop where
  queues : ∀ ref, (w.dsq.queue ref).fifo = [] ∧ (w.dsq.queue ref).nr = 0 ∧ (w.dsq.queue ref).isTimeout = false
  off : ∀ t, OffQueues w t

section
variable {w v : World}

theorem quiet_same (quiet : Quiet w) (queue : v.dsq.queue = w.dsq.queue)
    (queued : ∀ t, (v.lts t).map LseTaskStruct.onDsq = (w.lts t).map LseTaskStruct.onDsq) : Quiet v := by
  refine ⟨fun ref => ?_,fun t lts present => ?_⟩
  · rw [queue]
    exact quiet.queues ref
  · have before := queued t
    rw [present] at before
    obtain ⟨old,there,same⟩ := Option.map_eq_some_iff.mp before.symm
    exact same.symm.trans (quiet.off t old there)

theorem quiet_dispatch (quiet : Quiet w) (same : SameDispatch w v) : Quiet v :=
  quiet_same quiet (by rw [same.dsq]) same.queued

theorem dequeue_off_same {t : ℕ} (off : OffQueues w t) : lseDsqDequeueTask w t = w := by
  cases present : w.lts t with
  | none => simp [lseDsqDequeueTask,present]
  | some lts => simp [lseDsqDequeueTask,present,off lts present]

theorem scan_same {q : LseDispatchQ} (deadlineMs : ℕ) (empty : q.fifo = []) (none : q.isTimeout = false) :
    scanQueue w deadlineMs q = q ∧ scanGlobalQueue w deadlineMs q = q := by
  have same : scanQueue w deadlineMs q = q := by simp [scanQueue,empty]
  refine ⟨same,?_⟩
  rw [scanGlobalQueue,same]
  simp [clearTimeout,none]

/-- A scan finds nothing that could have timed out. -/
theorem scanTimeout_same (quiet : Quiet w) (cpu : ℕ) : lseDsqScanTimeout w cpu = w := by
  by_cases off : w.dsq.enable = 0
  · exact if_pos off
  · have queue : (lseDsqScanTimeout w cpu).dsq.queue = w.dsq.queue := by
      funext ref
      obtain ⟨empty,_,none⟩ := quiet.queues ref
      rw [lseDsqScanTimeout,if_neg off]
      cases ref with
      | pcp c => simp only [(scan_same lsePcpDsqDeadlineMs empty none).1,ite_self]
      | gdsq i => simp only [(scan_same (lseDsqDeadlines.getD i 0) empty none).2,ite_self]
    have rest : lseDsqScanTimeout w cpu = { w with dsq := { w.dsq with queue := (lseDsqScanTimeout w cpu).dsq.queue } } := by
      rw [lseDsqScanTimeout,if_neg off]
    rw [rest,queue]

/-- The hook only notes when it has scanned: the previous task is refused, and the next
    one is on no queue. -/
theorem lseDsqOnSchedule_eq (quiet : Quiet w) (cpu next : ℕ) :
    ∃ lastScanJf, lseDsqOnSchedule w cpu (w.rq cpu).curr next = { w with dsq := { w.dsq with lastScanJf := lastScanJf } } := by
  by_cases off : w.dsq.slimStats = 0 ∨ w.dsq.enable = 0
  · exact ⟨w.dsq.lastScanJf,if_pos off⟩
  · simp only [lseDsqOnSchedule,if_neg off,enqueue_current rfl,dequeue_off_same (quiet.off next),ite_self]
    split_ifs
    · refine ⟨_,scanTimeout_same ?_ cpu⟩
      exact ⟨quiet.queues,quiet.off⟩
    · exact ⟨w.dsq.lastScanJf,rfl⟩

theorem lseShadowTickUpdateCpu_eq (w : World) (here cpu : ℕ) :
    ∃ shadow, lseShadowTickUpdateCpu w here cpu = { w with shadow := shadow } := by
  have stops : ∃ shadow, lseShadowTickStopCpu w cpu = { w with shadow := shadow } := by
    unfold lseShadowTickStopCpu
    split_ifs
    · exact ⟨w.shadow,rfl⟩
    · exact ⟨_,rfl⟩
  have starts : ∃ shadow, lseShadowTickStartCpu w here cpu = { w with shadow := shadow } := by
    unfold lseShadowTickStartCpu
    split_ifs
    · exact stops
    · exact ⟨w.shadow,rfl⟩
    · exact ⟨_,rfl⟩
  unfold lseShadowTickUpdateCpu
  split_ifs
  · exact ⟨w.shadow,rfl⟩
  · exact stops
  · exact stops
  · exact starts

theorem lseSchedule_quiet (quiet : Quiet w) (cpu next clock : ℕ) :
    Quiet (lseSchedule w cpu (w.rq cpu).curr next clock) := by
  by_cases off : w.track.slimWaltCtrl = 0
  · rw [lseSchedule,if_pos off]
    exact quiet
  · have tracked := scheduleRavg_dispatch w cpu (w.rq cpu).curr next clock
    have before := quiet_dispatch quiet tracked
    obtain ⟨lastScanJf,hooked⟩ := lseDsqOnSchedule_eq before cpu next
    rw [tracked.rq] at hooked
    obtain ⟨shadow,updated⟩ := lseShadowTickUpdateCpu_eq
      (lseDsqOnSchedule (scheduleRavg w cpu (w.rq cpu).curr next clock) cpu (w.rq cpu).curr next) cpu cpu
    rw [lseSchedule,if_neg off,updated,hooked]
    exact ⟨before.queues,before.off⟩

theorem surroundings_quiet (quiet : Quiet w) (v : World) : Quiet (surroundings w v) := by
  refine quiet_same quiet rfl (fun t => ?_)
  simp [surroundings,Option.map_map,Function.comp_def]

theorem sync_quiet (quiet : Quiet w) : Quiet (lseDsqSync w) := by
  by_cases off : w.dsq.enable = 0
  · rw [lseDsqSync,if_neg (not_not_intro off)]
    refine ⟨fun ref => ?_,fun t lts present => ?_⟩
    · by_cases emptied : drained w ref = true
      · simp [emptied]
      · simpa [emptied] using quiet.queues ref
    · by_cases linked : drainedTask w t = true
      · simp only [if_pos linked,Option.map_eq_some_iff] at present
        obtain ⟨_,_,rfl⟩ := present
        rfl
      · simp only [if_neg linked] at present
        exact quiet.off t lts present
  · rw [lseDsqSync,if_pos off]
    exact quiet

theorem hook_quiet (quiet : Quiet w) (e : SystemEvent) : Quiet (queueStep w (.hook e)) := by
  have updates : ∀ t cpu event wallclock, Quiet (updateIfTracked w t cpu event wallclock) :=
    fun t cpu event wallclock => quiet_dispatch quiet (updateIfTracked_dispatch w t cpu event wallclock)
  cases e with
  | schedulerTick clock =>
    change Quiet (lseSchedulerTick w clock)
    have dsq : (lseSchedulerTick w clock).dsq = w.dsq := by simp only [lseSchedulerTick,apply_ite World.dsq,ite_self]
    have lts : (lseSchedulerTick w clock).lts = w.lts := by simp only [lseSchedulerTick,apply_ite World.lts,ite_self]
    exact quiet_same quiet (by rw [dsq]) (fun t => by rw [lts])
  | schedule cpu next clock =>
    have scheduled := lseSchedule_quiet quiet cpu next clock
    exact ⟨scheduled.queues,scheduled.off⟩
  | tickEntry cpu clock =>
    change Quiet (lseTickEntry w cpu clock)
    unfold lseTickEntry
    split_ifs
    · exact quiet
    · exact updates _ _ _ _
  | shadowTick timer cpu clock =>
    change Quiet (lseShadowTickCb w timer cpu clock)
    unfold lseShadowTickCb
    split_ifs
    · exact ⟨quiet.queues,quiet.off⟩
    · exact updates _ _ _ _
    · exact quiet
  | irqWork cpu clock =>
    have updated := updates (w.rq cpu).curr cpu .taskUpdate (lseSchedClock w clock)
    change Quiet (lseIrqWork w cpu clock)
    unfold lseIrqWork commitWindow
    split_ifs
    · exact ⟨updated.queues,updated.off⟩
    · exact updated
  | monitor e => exact quiet
  | others v => exact surroundings_quiet quiet v

theorem queueStep_quiet (quiet : Quiet w) (e : QueueEvent) : Quiet (queueStep w e) := by
  cases e with
  | hook e => exact hook_quiet quiet e
  | sync => exact sync_quiet quiet
  | alloc tsk =>
    rcases allocLseTaskStruct_cases w tsk with same | ⟨_,made⟩
    · rw [queueStep,same]
      exact quiet
    · rw [queueStep,made]
      refine ⟨quiet.queues,stored_records ?_ (fun u _ => quiet.off u)⟩
      rintro lts ⟨⟩
      rfl
  | free tsk =>
    refine ⟨quiet.queues,stored_records ?_ (fun u _ => quiet.off u)⟩
    rintro lts ⟨⟩

theorem quiet_backlog (quiet : Quiet w) : lseDsqTotalBacklog w = 0 := by
  have global : ∀ idx : ℕ, lseDsqDepthGlobal w idx = 0 := by
    intro idx
    unfold lseDsqDepthGlobal
    split_ifs
    · rfl
    · exact (quiet.queues _).2.1
  have pcp : ∀ cpu : ℕ, lseDsqDepthPcp w cpu = 0 := by
    intro cpu
    unfold lseDsqDepthPcp
    split_ifs
    · rfl
    · exact (quiet.queues _).2.1
  simp [lseDsqTotalBacklog,global,pcp]

theorem quiet_urgency (quiet : Quiet w) : lseDsqUrgencySignal w = 0 := by
  have none : ∀ idx, lseDsqHasTimeout w idx = false := fun idx => by simp [lseDsqHasTimeout,(quiet.queues (.gdsq idx)).2.2]
  unfold lseDsqUrgencySignal
  split_ifs
  · rfl
  · simp [none]

/-- The state with the dispatch queues switched off. -/
def switchedOff (w : World) : World := { w with dsq := { w.dsq with enable := 0 } }

theorem quiet_tick (quiet : Quiet w) (core : Core) (y : GovSysctl) (tun : LseGovTunables) (p : CpufreqPolicy)
    (lg : LseGovPolicy) (grq : LseGovRq) (cpu now : ℕ) :
    lseGovTickUpdate core w y tun p lg grq cpu now = lseGovTickUpdate core (switchedOff w) y tun p lg grq cpu now := by
  have none : lseDsqUrgencySignal (switchedOff w) = 0 := if_pos rfl
  have request : tickRequest core w y tun p lg grq cpu now = tickRequest core (switchedOff w) y tun p lg grq cpu now := by
    simp only [tickRequest,quiet_urgency quiet,none]
    rfl
  rw [lseGovTickUpdate,lseGovTickUpdate,request]

end

/-- From the initialisation of the queues on, in every order of hooks, drains, allocations
    and releases and whatever else happens, the backlog is 0, the urgency is 0, and a tick
    of the governor does what it would do with the queues switched off. -/
theorem queues_stay_empty (w : World) (events : List QueueEvent)
    (zeroed : ∀ ref, (w.dsq.queue ref).fifo = [] ∧ (w.dsq.queue ref).nr = 0 ∧ (w.dsq.queue ref).isTimeout = false)
    (fresh : ∀ t, OffQueues w t) :
    let v := exec queueStep (lseDsqInit w) events
    lseDsqTotalBacklog v = 0 ∧ lseDsqUrgencySignal v = 0 ∧ ∀ core y tun p lg grq cpu now,
      lseGovTickUpdate core v y tun p lg grq cpu now = lseGovTickUpdate core (switchedOff v) y tun p lg grq cpu now := by
  have started : Quiet (lseDsqInit w) := by
    refine ⟨fun ref => ?_,fresh⟩
    cases ref with
    | gdsq idx =>
      by_cases made : idx < lseMaxGlobalDsqs
      · simp [lseDsqInit,made,initOneDsq]
      · simpa [lseDsqInit,made] using zeroed (.gdsq idx)
    | pcp cpu =>
      by_cases made : w.possible cpu = true
      · simp [lseDsqInit,made,initOneDsq]
      · simpa [lseDsqInit,made] using zeroed (.pcp cpu)
  have quiet := exec_always Quiet (fun w e held => queueStep_quiet held e) started events
  exact ⟨quiet_backlog quiet,quiet_urgency quiet,quiet_tick quiet⟩

/-- On a machine with one CPU and the statistics on, the tasks 0 and 1 take turns. -/
theorem queues_stay_empty_watched :
    let v := exec queueStep (lseDsqInit (DsqDepth.watched 1)) [.hook (.schedule 0 1 5),.hook (.schedule 0 0 9),.sync]
    lseDsqTotalBacklog v = 0 ∧ lseDsqUrgencySignal v = 0 ∧ ∀ core y tun p lg grq cpu now,
      lseGovTickUpdate core v y tun p lg grq cpu now = lseGovTickUpdate core (switchedOff v) y tun p lg grq cpu now := by
  refine queues_stay_empty (DsqDepth.watched 1) _ (fun _ => ⟨rfl,rfl,rfl⟩) ?_
  intro t lts present
  cases present
  rfl

end LunarSched.EmptyQueues
