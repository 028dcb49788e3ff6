import LunarSched.UtilTrack
import LunarSched.Dsq
import LunarSched.ShadowTick

/-!
The entry points of the load tracker (`lse_cfs.c`, the callback of
`lse_shadow_tick.c` and the `irq_work` of `lse_util_track.c`) and the clocks they
read, with suspend and resume (`lse_main.c`) and the allocation and release of the
tasks' records (`lse_task_struct_ext.c`). A context switch is `lseSchedule` followed by the kernel's own step that
makes the next task current. What the entry points do for the governor and the
monitor is no part of the state here.
-/
namespace LunarSched.Hooks
open LunarSched.Machine LunarSched.Kernel LunarSched.UtilTrack LunarSched.Dsq LunarSched.ShadowTick

/-- `lse_sched_clock`, where `clock` is what `sched_clock` returns. -/
def lseSchedClock (w : World) (clock : ℕ) : ℕ := if w.track.clockSuspended then w.track.clockLast else clock
/-- `lse_rq_clock`, where `clock` is what `rq_clock` returns. -/
def lseRqClock (w : World) (cpu clock : ℕ) : ℕ :=
  if w.track.clockSuspended then w.track.clockLast else max clock (w.lrq cpu).latestClock

/-- A second reading of the clock in one event, after the CPU's clock was left alone or
    set to the first reading, is the first one. -/
theorem lseRqClock_again {w v : World} {cpu clock : ℕ} (suspended : v.track.clockSuspended = w.track.clockSuspended)
    (last : v.track.clockLast = w.track.clockLast) (latest : (v.lrq cpu).latestClock = (w.lrq cpu).latestClock ∨
      (v.lrq cpu).latestClock = lseRqClock w cpu clock) : lseRqClock v cpu clock = lseRqClock w cpu clock := by
  by_cases frozen : w.track.clockSuspended = true
  · simp [lseRqClock,suspended,last,frozen]
  · simp only [lseRqClock,suspended,frozen,Bool.false_eq_true,if_false] at latest ⊢
    rcases latest with kept | set
    · rw [kept]
    · rw [set]
      exact max_eq_right (le_max_left _ _)

/-- A call of `lse_update_task_ravg` that is made only for a task with a record. -/
def updateIfTracked (w : World) (t cpu : ℕ) (event : TaskEvent) (wallclock : ℕ) : World :=
  match w.lts t with
  | none => w
  | some lts => lseUpdateTaskRavg w lts t cpu event wallclock

/-- `lse_scheduler_tick` on a CPU whose `rq->clock` is `clock`. -/
def lseSchedulerTick (w : World) (clock : ℕ) : World :=
  if w.track.slimWaltCtrl = 0 ∨ w.track.tickSchedClock ≠ 0 then w
  else
    let start := u64Sub clock 20000
    { w with
      lrq := fun cpu => if w.possible cpu then { w.lrq cpu with windowStart := start } else w.lrq cpu
      track := { w.track with tickSchedClock := start, rolloverLastqWs := start } }

/-- The load-tracking half of `lse_schedule`. -/
def scheduleRavg (w : World) (cpu prev next clock : ℕ) : World :=
  if prev ≠ next then
    let w := updateIfTracked w prev cpu .putPrevTask (lseRqClock w cpu clock)
    updateIfTracked w next cpu .pickNextTask (lseRqClock w cpu clock)
  else updateIfTracked w prev cpu .taskUpdate (lseRqClock w cpu clock)

/-- `lse_schedule` on the run queue of `cpu`, with `clock` from `rq_clock`. -/
def lseSchedule (w : World) (cpu prev next clock : ℕ) : World :=
  if w.track.slimWaltCtrl = 0 then w
  else lseShadowTickUpdateCpu (lseDsqOnSchedule (scheduleRavg w cpu prev next clock) cpu prev next) cpu cpu

/-- The kernel's context switch after the hook: `next` becomes current. -/
def switchTo (w : World) (cpu next : ℕ) : World :=
  { w with rq := Function.update w.rq cpu { w.rq cpu with curr := next } }

/-- The load-tracking half of `lse_tick_entry`. -/
def lseTickEntry (w : World) (cpu clock : ℕ) : World :=
  if w.track.slimWaltCtrl = 0 then w
  else updateIfTracked w (w.rq cpu).curr cpu .taskUpdate (lseRqClock w cpu clock)

/-- `lse_shadow_tick_cb` for the timer of CPU `timer`, executed on CPU `cpu` with
    `clock` from `sched_clock`. A timer that is not restarted is no longer queued. -/
def lseShadowTickCb (w : World) (timer cpu clock : ℕ) : World :=
  if lseShadowTickEnabled w = false ∨ w.track.slimWaltCtrl = 0 then
    { w with shadow := { w.shadow with
        queuedOn := Function.update w.shadow.queuedOn timer none
        armed := Function.update w.shadow.armed cpu false } }
  else if (w.rq cpu).curr ≠ (w.rq cpu).idle then
    updateIfTracked w (w.rq cpu).curr cpu .taskUpdate (lseSchedClock w clock)
  else w

/-- The commit of a requested window size at the end of `lse_irq_work`. -/
def commitWindow (w : World) (cpu wallclock : ℕ) : World :=
  if w.track.newRavgWindow ≠ w.track.ravgWindow ∧
      wallclock < u64 ((w.lrq cpu).windowStart + w.track.newRavgWindow) then
    { w with track := { w.track with ravgWindow := w.track.newRavgWindow } }
  else w

/-- `lse_irq_work` on CPU `cpu`, with `clock` from `sched_clock`. -/
def lseIrqWork (w : World) (cpu clock : ℕ) : World :=
  commitWindow (updateIfTracked w (w.rq cpu).curr cpu .taskUpdate (lseSchedClock w clock)) cpu (lseSchedClock w clock)

/-! ### Suspend and resume, and the life of a task -/

/-- `lse_suspend`, with `clock` from `sched_clock`. -/
def lseSuspend (w : World) (clock : ℕ) : World :=
  { w with track := { w.track with clockLast := clock, clockSuspended := true } }

def lseResume (w : World) : World := { w with track := { w.track with clockSuspended := false } }

/-- `alloc_lse_task_struct`, when there is memory for a record. -/
def allocLseTaskStruct (w : World) (tsk : ℕ) : World :=
  match w.lts tsk with
  | some _ => w
  | none => w.setLts tsk (initLseTaskStruct (w.task tsk))

theorem allocLseTaskStruct_cases (w : World) (t : ℕ) :
    allocLseTaskStruct w t = w ∨ (w.lts t = none ∧ allocLseTaskStruct w t =
      { w with lts := Function.update w.lts t (some (initLseTaskStruct (w.task t))) }) := by
  cases present : w.lts t with
  | none => exact Or.inr ⟨rfl,by simp [allocLseTaskStruct,present,World.setLts]⟩
  | some lts => exact Or.inl (by simp [allocLseTaskStruct,present])

/-- `free_lse_task_struct`. A node that is linked on a queue stays there. -/
def freeLseTaskStruct (w : World) (tsk : ℕ) : World := { w with lts := Function.update w.lts tsk none }

end LunarSched.Hooks
