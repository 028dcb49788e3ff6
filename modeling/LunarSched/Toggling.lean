import LunarSched.Occupancy
import LunarSched.WindowChange
import Mathlib.Algebra.Order.BigOperators.Group.List

/-!
Time charged to tasks while `slim_walt_ctrl` is switched off and on. While tracking is
off the marks stand still, and the first event that charges a task afterwards charges
all the time since its mark. Along a run no task is charged for more than the time for
which it was current, when tracking is switched on only while the current task of every
CPU has been current there since before its mark, or has none (`charged_within`).
-/
namespace LunarSched.Toggling
open LunarSched.Machine LunarSched.Kernel LunarSched.UtilTrack LunarSched.Dsq LunarSched.ShadowTick LunarSched.Hooks
open LunarSched.Accounts LunarSched.Runs
open LunarSched.Occupancy (SchedEvent Elsewhere NotCurrent switchTo_current switchTo_distinct switchTo_curr switchTo_same
  silent_same shadowTick_silent)
open LunarSched.WindowChange (Behind Timely updateIfTracked_called called_behind updateIfTracked_around
  updateIfTracked_track forward_of_behind called_grid call_outcome)

/-- The runtime that `update_task_demand` accounts in a call of `lse_update_task_ravg`. -/
def runtimeOf (w : World) (t cpu : ℕ) (event : TaskEvent) (wallclock : ℕ) : ℕ :=
  match w.lts t with
  | none => 0
  | some lts =>
    if Skipped w lts cpu wallclock ∨ lts.markStart = 0 then 0
    else
      let lrq := updateTaskRqCpuCycles (w.freq cpu) (updateWindowStart w.track (w.lrq cpu) wallclock).2.1
      (updateTaskDemand w.track (w.rq cpu) lrq t (w.task t) (lseRefreshTaskHint w.track lts (w.task t)) event wallclock).1

/-- What an event charges to a task: the runtimes of its calls for the task. -/
def charges (w : World) (t : ℕ) : SchedEvent → ℕ
  | .schedule cpu next clock =>
    let prev := (w.rq cpu).curr
    if prev ≠ next then
      let v := updateIfTracked w prev cpu .putPrevTask (lseRqClock w cpu clock)
      (if t = prev then runtimeOf w prev cpu .putPrevTask (lseRqClock w cpu clock) else 0) +
        (if t = next then runtimeOf v next cpu .pickNextTask (lseRqClock v cpu clock) else 0)
    else if t = prev then runtimeOf w prev cpu .taskUpdate (lseRqClock w cpu clock) else 0
  | .tickEntry cpu clock =>
    if t = (w.rq cpu).curr then runtimeOf w t cpu .taskUpdate (lseRqClock w cpu clock) else 0
  | .shadowTick _ cpu clock =>
    if lseShadowTickEnabled w = true ∧ (w.rq cpu).curr ≠ (w.rq cpu).idle ∧ t = (w.rq cpu).curr then
      runtimeOf w t cpu .taskUpdate (lseSchedClock w clock) else 0
  | .irqWork cpu clock =>
    if t = (w.rq cpu).curr then runtimeOf w t cpu .taskUpdate (lseSchedClock w clock) else 0
  | .schedulerTick _ | .task _ _ | .freq _ _ | .others _ => 0

section
variable {g : Track} {rq : Rq} {lrq : LseRq} {t wallclock : ℕ} {p : TaskStruct} {lts : LseTaskStruct} {event : TaskEvent}

/-- A busy stretch is accounted whole, over however many windows it goes. -/
theorem demand_runtime (full : lrq.taskExecScale = 1024) (positive : 0 < g.ravgWindow) (word : g.ravgWindow < 4294967296)
    (few : lrq.windowStart < lts.markStart + 2147483648 * g.ravgWindow) (later : lts.markStart ≤ wallclock)
    (started : lrq.windowStart ≤ wallclock) (inside : wallclock < lrq.windowStart + g.ravgWindow)
    (small : wallclock < 18446744073709551616) :
    (updateTaskDemand g rq lrq t p lts event wallclock).1 =
      if accountBusyForTaskDemand rq t p event = true then wallclock - lts.markStart else 0 := by
  cases runs : accountBusyForTaskDemand rq t p event with
  | false => simp [updateTaskDemand,runs]
  | true =>
    by_cases older : lts.markStart < lrq.windowStart
    · rw [updateTaskDemand_across runs full positive word older few started inside small]
      exact (if_pos rfl).symm
    · have within : scaleExecTime (wallclock - lts.markStart) lrq = wallclock - lts.markStart :=
        scaleExecTime_full full (by omega)
      simp only [updateTaskDemand,runs,Bool.true_eq_false,if_false,older,not_false_eq_true,if_true,addToTaskDemand,
        u64Sub_of_le later small,within]

end

/-! ### Runs with the switch -/

/-- The machine in a run: the last wallclock of the run, since when the current task of
    each CPU has been current there, and for each task the time for which it was current
    before that and the time charged to it, both since its record was allocated. -/
structure Toggled where
  world : World
  now : ℕ
  since : ℕ → ℕ
  spent : ℕ → ℕ
  charged : ℕ → ℕ

inductive ToggleEvent where
  | sched (e : SchedEvent)
  /-- `slim_walt_ctrl` is written. -/
  | control (value : ℤ)
  | alloc (t : ℕ)
  | free (t : ℕ)

/-- The CPU on which an event makes another task current. -/
def leaves (w : World) : SchedEvent → Option ℕ
  | .schedule cpu next _ => if next = (w.rq cpu).curr then none else some cpu
  | _ => none

def schedStep (s : Toggled) (e : SchedEvent) : Toggled :=
  match e.observed s.world with
  | none => { s with world := e.run s.world }
  | some (_,wallclock) =>
    { world := e.run s.world
      now := wallclock
      since := match leaves s.world e with
        | none => s.since
        | some cpu => Function.update s.since cpu wallclock
      spent := match leaves s.world e with
        | none => s.spent
        | some cpu => Function.update s.spent (s.world.rq cpu).curr
            (s.spent (s.world.rq cpu).curr + (wallclock - s.since cpu))
      charged := fun t => s.charged t + charges s.world t e }

def setControl (w : World) (value : ℤ) : World := { w with track := { w.track with slimWaltCtrl := value } }

def toggleStep (s : Toggled) : ToggleEvent → Toggled
  | .sched e => schedStep s e
  | .control value => { s with world := setControl s.world value }
  | .alloc t =>
    if (s.world.lts t).isSome = true then s
    else
      { s with
        world := allocLseTaskStruct s.world t
        spent := Function.update s.spent t 0
        charged := Function.update s.charged t 0 }
  | .free t => { s with world := freeLseTaskStruct s.world t }

/-- What the kernel promises: wallclocks do not go back, a task that is picked runs on
    no other CPU, idle tasks stay so, CPUs run at full scale, and a task gets a record
    before it first runs and loses it after it last ran. -/
def Admitted (s : Toggled) : ToggleEvent → Prop
  | .sched e =>
    (∀ place ∈ e.observed s.world, s.world.possible place.1 = true ∧ s.now ≤ place.2 ∧
      place.2 < 18446744073709551616) ∧
      match e with
      | .schedule cpu next _ => Elsewhere s.world next cpu
      | .task t p => p.isIdle = (s.world.task t).isIdle
      | .freq _ f => FullScale f
      | _ => True
  | .control _ => True
  | .alloc t | .free t => NotCurrent s.world t

instance (s : Toggled) : (e : ToggleEvent) → Decidable (Admitted s e)
  | .sched (.schedule cpu next _) => inferInstanceAs (Decidable (_ ∧ Elsewhere s.world next cpu))
  | .sched (.task ..) => inferInstanceAs (Decidable (_ ∧ _ = _))
  | .sched (.freq _ f) => inferInstanceAs (Decidable (_ ∧ FullScale f))
  | .sched (.tickEntry ..) | .sched (.schedulerTick _) | .sched (.shadowTick ..) | .sched (.irqWork ..)
  | .sched (.others _) => inferInstanceAs (Decidable (_ ∧ True))
  | .control _ => isTrue trivial
  | .alloc t | .free t => inferInstanceAs (Decidable (NotCurrent s.world t))

/-- The current task of every CPU has no mark, or has been current there since then. -/
def Continuous (s : Toggled) : Prop :=
  ∀ cpu < s.world.nrCpuIds, s.world.possible cpu = true →
    mark s.world (s.world.rq cpu).curr = 0 ∨ s.since cpu ≤ mark s.world (s.world.rq cpu).curr

instance (s : Toggled) : Decidable (Continuous s) := inferInstanceAs (Decidable (∀ cpu < s.world.nrCpuIds, _ → _))

/-- Tracking is switched on only while the current tasks have been current since their
    marks, and no event comes 2³¹ windows or more after its CPU's window started. -/
def SafeToggle (s : Toggled) : ToggleEvent → Prop
  | .sched e => ∀ place ∈ e.observed s.world, s.world.track.slimWaltCtrl ≠ 0 →
      place.2 < (s.world.lrq place.1).windowStart + 2147483648 * s.world.track.ravgWindow
  | .control value => s.world.track.slimWaltCtrl = 0 → value ≠ 0 → Continuous s
  | _ => True

instance (s : Toggled) : (e : ToggleEvent) → Decidable (SafeToggle s e)
  | .sched e => inferInstanceAs (Decidable (∀ place ∈ e.observed s.world, _ → _))
  | .control _ => inferInstanceAs (Decidable (_ → _ → Continuous s))
  | .alloc _ | .free _ => isTrue trivial

/-- How long the task has been current on some CPU. -/
def ran (s : Toggled) (t : ℕ) : ℕ :=
  s.spent t + ((forEachCpu s.world.nrCpuIds s.world.possible).map
    (fun cpu => if (s.world.rq cpu).curr = t then s.now - s.since cpu else 0)).sum

/-- No task is charged for more time than it was current. -/
def NothingInvented (s : Toggled) : Prop := ∀ t, s.charged t ≤ ran s t

/-- The seeded machine: the current tasks are current from here on. -/
def toggled (w : World) (clock : ℕ) : Toggled :=
  ⟨lseSchedulerTick w clock,clock,fun _ => clock,fun _ => 0,fun _ => 0⟩

/-- The state of a run. A task is charged for no more than the time it was current
    before its mark; while tracking is on, the mark of a current task is not from before
    it became current. -/
structure Tracked (s : Toggled) : Prop extends Behind s.world s.now where
  ticked : s.world.track.tickSchedClock ≠ 0
  constant : s.world.track.newRavgWindow = s.world.track.ravgWindow
  bounded : ∀ cpu, s.world.possible cpu = true → cpu < s.world.nrCpuIds
  seeded : ∀ cpu, s.world.possible cpu = true → (s.world.lrq cpu).windowStart ≠ 0
  distinct : ∀ a b, s.world.possible a = true → s.world.possible b = true →
    (s.world.rq a).curr = (s.world.rq b).curr → a = b
  full : ∀ cpu, FullScale (s.world.freq cpu)
  marks : ∀ t, mark s.world t ≤ s.now
  begun : ∀ cpu, s.since cpu ≤ s.now
  continuous : s.world.track.slimWaltCtrl ≠ 0 → ∀ cpu, s.world.possible cpu = true →
    mark s.world (s.world.rq cpu).curr = 0 ∨ s.since cpu ≤ mark s.world (s.world.rq cpu).curr
  inside : ∀ cpu, s.world.possible cpu = true → mark s.world (s.world.rq cpu).curr ≠ 0 →
    s.since cpu ≤ mark s.world (s.world.rq cpu).curr → (s.world.lrq cpu).windowStart ≤ mark s.world (s.world.rq cpu).curr
  waiting : ∀ t, (∀ cpu, s.world.possible cpu = true → (s.world.rq cpu).curr ≠ t) → s.charged t ≤ s.spent t
  current : ∀ cpu, s.world.possible cpu = true →
    s.charged (s.world.rq cpu).curr ≤ s.spent (s.world.rq cpu).curr + (mark s.world (s.world.rq cpu).curr - s.since cpu)

/-- What a call for a task does to the marks: it sets the task's mark, or leaves marks
    and CPUs alone, which it does while tracking is on only at the mark or without a record. -/
structure Stamped (w v : World) (t wallclock : ℕ) : Prop where
  others : ∀ u, u ≠ t → mark v u = mark w u
  own : mark v t = wallclock ∨ (mark v t = mark w t ∧ v.lrq = w.lrq)
  on : w.track.slimWaltCtrl ≠ 0 → mark v t = 0 ∨ mark v t = wallclock

/-- A task that is picked is charged nothing. -/
theorem runtimeOf_pick (w : World) (t cpu wallclock : ℕ) : runtimeOf w t cpu .pickNextTask wallclock = 0 := by
  unfold runtimeOf
  split
  · rfl
  · split_ifs
    · rfl
    · simp [updateTaskDemand,accountBusyForTaskDemand]

/-- Every mark stays, or is the wallclock. -/
theorem Stamped.marks {w v : World} {t wallclock : ℕ} (stamped : Stamped w v t wallclock) (u : ℕ) :
    mark v u = mark w u ∨ mark v u = wallclock := by
  by_cases here : u = t
  · subst here
    exact stamped.own.symm.imp And.left id
  · exact Or.inl (stamped.others u here)

section
variable {s : Toggled} {cpu wallclock : ℕ}

/-- An event in time on a CPU: while tracking is on, fewer than 2³¹ windows past the
    CPU's window. -/
structure InTime (w : World) (now cpu wallclock : ℕ) : Prop where
  possible : w.possible cpu = true
  later : now ≤ wallclock
  small : wallclock < 18446744073709551616
  gap : w.track.slimWaltCtrl ≠ 0 → wallclock < (w.lrq cpu).windowStart + 2147483648 * w.track.ravgWindow

theorem InTime.timely {w : World} {now : ℕ} (inTime : InTime w now cpu wallclock) (on : w.track.slimWaltCtrl ≠ 0) :
    Timely w now cpu wallclock :=
  ⟨inTime.later,inTime.small,fun _ => inTime.gap on⟩

/-- Without tracking or without a record a call does nothing. -/
theorem call_absent {w : World} {t : ℕ} (event : TaskEvent) (wallclock : ℕ)
    (absent : w.track.slimWaltCtrl = 0 ∨ w.lts t = none) :
    updateIfTracked w t cpu event wallclock = w ∧ runtimeOf w t cpu event wallclock = 0 := by
  refine ⟨updateIfTracked_absent event cpu wallclock absent,?_⟩
  cases present : w.lts t with
  | none => simp [runtimeOf,present]
  | some lts =>
    have off : w.track.slimWaltCtrl = 0 := absent.resolve_right (by simp [present])
    simp [runtimeOf,present,Skipped,off]

theorem call_stamped {w : World} {now : ℕ} (behind : Behind w now) (seeded : (w.lrq cpu).windowStart ≠ 0)
    (inTime : InTime w now cpu wallclock) (t : ℕ) (event : TaskEvent) :
    Stamped w (updateIfTracked w t cpu event wallclock) t wallclock := by
  rcases call_outcome behind seeded inTime.timely t event with ⟨missed,lrqs,marks⟩ | ⟨_,_,_,_,marks,_⟩
  · refine ⟨fun u _ => marks u,Or.inr ⟨marks t,lrqs⟩,fun on => ?_⟩
    rw [marks]
    rcases missed with off | none | same
    · exact absurd off on
    · exact Or.inl (by simp [mark,account,none])
    · exact Or.inr same
  · have stamped := (marks t).trans (if_pos rfl)
    exact ⟨fun u away => (marks u).trans (if_neg away),Or.inl stamped,fun _ => Or.inr stamped⟩

/-- The current task is charged nothing, or exactly the time since its mark. -/
theorem runtimeOf_current (tracked : Tracked s) (inTime : InTime s.world s.now cpu wallclock) (event : TaskEvent) :
    let t := (s.world.rq cpu).curr
    runtimeOf s.world t cpu event wallclock = 0 ∨
      (s.world.track.slimWaltCtrl ≠ 0 ∧ mark s.world t ≠ 0 ∧
        mark (updateIfTracked s.world t cpu event wallclock) t = wallclock ∧
        runtimeOf s.world t cpu event wallclock = wallclock - mark s.world t) := by
  intro t
  by_cases absent : s.world.track.slimWaltCtrl = 0 ∨ s.world.lts t = none
  · exact Or.inl (call_absent event wallclock absent).2
  · obtain ⟨on,some_record⟩ := not_or.mp absent
    obtain ⟨lts,present⟩ := Option.ne_none_iff_exists'.mp some_record
    have marked : mark s.world t = lts.markStart := mark_of_lts present
    by_cases nothing : Skipped s.world lts cpu wallclock ∨ lts.markStart = 0
    · exact Or.inl (by simp [runtimeOf,present,nothing])
    · obtain ⟨taken,first⟩ := not_or.mp nothing
      have timely := inTime.timely on
      have forward := forward_of_behind tracked.toBehind timely (tracked.seeded cpu inTime.possible)
      obtain ⟨started,inside⟩ := advance_contains forward
      have stamped : mark (updateIfTracked s.world t cpu event wallclock) t = wallclock :=
        ((updateIfTracked_effect event cpu wallclock on present).mark_eq t).trans
          ((if_pos rfl).trans (records_taken (t := t) event taken forward).1)
      let lrq := updateTaskRqCpuCycles (s.world.freq cpu) (advance s.world.track.ravgWindow (s.world.lrq cpu) wallclock)
      let hinted := lseRefreshTaskHint s.world.track lts (s.world.task t)
      -- the window of the CPU started before the mark, so the gap bounds the time since the mark
      have since := (tracked.continuous on cpu inTime.possible).resolve_left (marked ▸ first)
      have window : (s.world.lrq cpu).windowStart ≤ lts.markStart :=
        marked ▸ tracked.inside cpu inTime.possible (marked ▸ first) since
      have gap := inTime.gap on
      have few : (advance s.world.track.ravgWindow (s.world.lrq cpu) wallclock).windowStart <
          lts.markStart + 2147483648 * s.world.track.ravgWindow := by omega
      have later : lts.markStart ≤ wallclock := marked ▸ (tracked.marks t).trans inTime.later
      have accounted : (updateTaskDemand s.world.track (s.world.rq cpu) lrq t (s.world.task t) hinted event wallclock).1 =
          if accountBusyForTaskDemand (s.world.rq cpu) t (s.world.task t) event = true then wallclock - lts.markStart
          else 0 :=
        demand_runtime (tracked.full cpu) tracked.positive tracked.word few later started inside inTime.small
      have computed : runtimeOf s.world t cpu event wallclock =
          (updateTaskDemand s.world.track (s.world.rq cpu) lrq t (s.world.task t) hinted event wallclock).1 := by
        simp only [runtimeOf,present,nothing,if_false,updateWindowStart_forward forward,lrq,hinted]
      rw [computed,accounted]
      split_ifs with busy
      · exact Or.inr ⟨on,marked ▸ first,stamped,marked ▸ rfl⟩
      · exact Or.inl rfl

theorem behind_later {w : World} {now : ℕ} (behind : Behind w now) (later : now ≤ wallclock) : Behind w wallclock :=
  ⟨behind.positive,behind.word,behind.requested,fun other => (behind.latest other).trans later,
    fun other => (behind.started other).trans later⟩

/-- What a call leaves of windows and CPUs, with tracking on or off. -/
theorem call_called {w : World} {now : ℕ} (behind : Behind w now) (inTime : InTime w now cpu wallclock) (t : ℕ)
    (event : TaskEvent) :
    WindowChange.Called w (updateIfTracked w t cpu event wallclock) cpu wallclock ∧
      Behind (updateIfTracked w t cpu event wallclock) wallclock := by
  by_cases off : w.track.slimWaltCtrl = 0
  · rw [(call_absent event wallclock (Or.inl off)).1]
    exact ⟨⟨rfl,rfl,SameWindows.refl _,fun _ _ => rfl,Or.inl rfl⟩,behind_later behind inTime.later⟩
  · have called := updateIfTracked_called behind (inTime.timely off) t event
    exact ⟨called,called_behind behind (inTime.timely off) called⟩

/-- After a call in time another one at the same wallclock is in time. -/
theorem call_inTime {w v : World} {now : ℕ} (inTime : InTime w now cpu wallclock)
    (called : WindowChange.Called w v cpu wallclock) : InTime v wallclock cpu wallclock := by
  have onward := (called_grid called cpu).2.1
  refine ⟨(congrFun called.possible cpu).trans inTime.possible,le_rfl,inTime.small,fun on => ?_⟩
  have gap := inTime.gap (called.windows.switch ▸ on)
  rw [called.windows.size]
  omega

/-- The call for the current task of the CPU. -/
def charge (s : Toggled) (cpu : ℕ) (event : TaskEvent) (wallclock : ℕ) : Toggled :=
  { s with
    world := updateIfTracked s.world (s.world.rq cpu).curr cpu event wallclock
    now := wallclock
    charged := fun t => s.charged t +
      if t = (s.world.rq cpu).curr then runtimeOf s.world t cpu event wallclock else 0 }

/-- The call for the next task of the CPU, which then becomes current. -/
def hand (s : Toggled) (cpu next : ℕ) : Toggled where
  world := switchTo (updateIfTracked s.world next cpu .pickNextTask s.now) cpu next
  now := s.now
  since := Function.update s.since cpu s.now
  spent := Function.update s.spent (s.world.rq cpu).curr (s.spent (s.world.rq cpu).curr + (s.now - s.since cpu))
  charged := s.charged

/-- The current task is charged for time since it became current, up to its new mark. -/
theorem charge_balance (tracked : Tracked s) (inTime : InTime s.world s.now cpu wallclock) (event : TaskEvent) :
    s.charged (s.world.rq cpu).curr + runtimeOf s.world (s.world.rq cpu).curr cpu event wallclock ≤
      s.spent (s.world.rq cpu).curr +
        (mark (updateIfTracked s.world (s.world.rq cpu).curr cpu event wallclock) (s.world.rq cpu).curr - s.since cpu) := by
  have before := tracked.current cpu inTime.possible
  have begun := tracked.begun cpu
  have marked := tracked.marks (s.world.rq cpu).curr
  have later := inTime.later
  have stamps := call_stamped tracked.toBehind (tracked.seeded cpu inTime.possible) inTime (s.world.rq cpu).curr event
  rcases runtimeOf_current tracked inTime event with nothing | ⟨tracking,first,stamped,time⟩
  · rw [nothing]
    rcases stamps.own with stamped | ⟨kept,_⟩
    · omega
    · omega
  · have since := (tracked.continuous tracking cpu inTime.possible).resolve_left first
    omega

theorem charge_tracked (tracked : Tracked s) (inTime : InTime s.world s.now cpu wallclock) (event : TaskEvent) :
    Tracked (charge s cpu event wallclock) := by
  obtain ⟨called,behind⟩ := call_called tracked.toBehind inTime (s.world.rq cpu).curr event
  obtain ⟨rq,freq,_,_⟩ := updateIfTracked_around s.world (s.world.rq cpu).curr cpu event wallclock
  have stamps := call_stamped tracked.toBehind (tracked.seeded cpu inTime.possible) inTime (s.world.rq cpu).curr event
  have balance := charge_balance tracked inTime event
  have windows := called.windows
  have later := inTime.later
  have elsewhere : ∀ other, s.world.possible other = true → other ≠ cpu →
      (s.world.rq other).curr ≠ (s.world.rq cpu).curr :=
    fun other known away same => away (tracked.distinct other cpu known inTime.possible same)
  refine { toBehind := behind
           ticked := windows.seeded ▸ tracked.ticked
           constant := (windows.requested.trans tracked.constant).trans windows.size.symm
           bounded := called.bounded tracked.bounded
           seeded := called.seeded tracked.seeded
           distinct := ?_
           full := freq ▸ tracked.full
           marks := ?_
           begun := fun other => (tracked.begun other).trans later
           continuous := ?_
           inside := ?_
           waiting := ?_
           current := ?_ }
  · intro a b here there
    simp only [charge,rq]
    exact tracked.distinct a b (called.known here) (called.known there)
  · intro u
    rcases stamps.marks u with kept | stamped
    · exact kept.le.trans ((tracked.marks u).trans later)
    · exact stamped.le
  · intro still other there
    have known : s.world.possible other = true := called.known there
    have tracking : s.world.track.slimWaltCtrl ≠ 0 := windows.switch ▸ still
    simp only [charge,rq]
    by_cases here : other = cpu
    · subst here
      exact (stamps.on tracking).imp id (fun stamped => ((tracked.begun other).trans later).trans stamped.ge)
    · rw [stamps.others _ (elsewhere other known here)]
      exact tracked.continuous tracking other known
  · intro other there
    have known : s.world.possible other = true := called.known there
    simp only [charge,rq]
    by_cases here : other = cpu
    · subst here
      rcases stamps.own with stamped | ⟨kept,same⟩
      · exact fun _ _ => (behind.started other).trans stamped.ge
      · rw [kept,same]
        exact tracked.inside other known
    · rw [stamps.others _ (elsewhere other known here),called.others other here]
      exact tracked.inside other known
  · intro t absent
    change ∀ other, (updateIfTracked s.world _ cpu event wallclock).possible other = true → _ at absent
    simp only [charge,rq,called.possible] at absent ⊢
    have away : t ≠ (s.world.rq cpu).curr := (absent cpu inTime.possible).symm
    rw [if_neg away]
    exact tracked.waiting t absent
  · intro other there
    have known : s.world.possible other = true := called.known there
    simp only [charge,rq]
    by_cases here : other = cpu
    · subst here
      rw [if_pos rfl]
      exact balance
    · rw [if_neg (elsewhere other known here),stamps.others _ (elsewhere other known here)]
      exact tracked.current other known

/-- The task that leaves a CPU takes the time since it became current with it. -/
theorem hand_left (tracked : Tracked s) (possible : s.world.possible cpu = true) (next : ℕ) :
    s.charged (s.world.rq cpu).curr ≤ (hand s cpu next).spent (s.world.rq cpu).curr := by
  have before := tracked.current cpu possible
  have marked := tracked.marks (s.world.rq cpu).curr
  simp only [hand,Function.update_self]
  omega

theorem hand_spent (s : Toggled) (cpu next : ℕ) {t : ℕ} (away : t ≠ (s.world.rq cpu).curr) :
    (hand s cpu next).spent t = s.spent t := Function.update_of_ne away _ _

theorem hand_since (s : Toggled) (cpu next c : ℕ) :
    (hand s cpu next).since c = if c = cpu then s.now else s.since c := Function.update_apply _ _ _ _

theorem hand_curr (s : Toggled) (cpu next c : ℕ) :
    ((hand s cpu next).world.rq c).curr = if c = cpu then next else (s.world.rq c).curr :=
  switchTo_current (updateIfTracked_around s.world next cpu .pickNextTask s.now).1 cpu next c

/-- A task that is current nowhere after a change of the current task was current nowhere
    before it, or is the one that left. -/
theorem hand_waiting (tracked : Tracked s) (possible : s.world.possible cpu = true) {next t : ℕ}
    (idle : ∀ c, s.world.possible c = true → ((hand s cpu next).world.rq c).curr ≠ t) :
    s.charged t ≤ (hand s cpu next).spent t := by
  by_cases left : t = (s.world.rq cpu).curr
  · subst left
    exact hand_left tracked possible next
  · rw [hand_spent s cpu next left]
    refine tracked.waiting t (fun c there same => ?_)
    by_cases here : c = cpu
    · exact left (here ▸ same.symm)
    · exact idle c there ((hand_curr s cpu next c).trans ((if_neg here).trans same))

theorem hand_tracked (tracked : Tracked s) (inTime : InTime s.world s.now cpu s.now) {next : ℕ}
    (other : next ≠ (s.world.rq cpu).curr)
    (elsewhere : ∀ other, s.world.possible other = true → other ≠ cpu → (s.world.rq other).curr ≠ next) :
    Tracked (hand s cpu next) := by
  obtain ⟨called,behind⟩ := call_called tracked.toBehind inTime next .pickNextTask
  obtain ⟨rq,freq,_,_⟩ := updateIfTracked_around s.world next cpu .pickNextTask s.now
  obtain ⟨others,own,on⟩ := call_stamped tracked.toBehind (tracked.seeded cpu inTime.possible) inTime next .pickNextTask
  have windows := called.windows
  have kept : ∀ u, u ≠ next → mark (hand s cpu next).world u = mark s.world u := others
  have now : mark (hand s cpu next).world next = s.now ∨ (mark (hand s cpu next).world next = mark s.world next ∧
      (hand s cpu next).world.lrq = s.world.lrq) := own
  have lrqs : ∀ c, c ≠ cpu → (hand s cpu next).world.lrq c = s.world.lrq c := called.others
  have known : ∀ c, (hand s cpu next).world.possible c = true → s.world.possible c = true := fun _ => called.known
  have absent : ∀ c, s.world.possible c = true → (s.world.rq c).curr ≠ next := by
    intro c there
    by_cases here : c = cpu
    · exact here ▸ other.symm
    · exact elsewhere c there here
  have started : ∀ c, ((hand s cpu next).world.lrq c).windowStart ≤ s.now := behind.started
  refine { toBehind := ⟨behind.positive,behind.word,behind.requested,behind.latest,started⟩
           ticked := windows.seeded ▸ tracked.ticked
           constant := (windows.requested.trans tracked.constant).trans windows.size.symm
           bounded := called.bounded tracked.bounded
           seeded := called.seeded tracked.seeded
           distinct := switchTo_distinct rq called.possible tracked.distinct elsewhere
           full := freq ▸ tracked.full
           marks := ?_
           begun := ?_
           continuous := ?_
           inside := ?_
           waiting := ?_
           current := ?_ }
  · intro u
    by_cases here : u = next
    · subst here
      exact now.elim le_of_eq (fun same => same.1.le.trans (tracked.marks u))
    · exact (kept u here).le.trans (tracked.marks u)
  · intro c
    rw [hand_since]
    split_ifs
    · exact le_rfl
    · exact tracked.begun c
  · intro still c there
    have tracking : s.world.track.slimWaltCtrl ≠ 0 := windows.switch ▸ still
    rw [hand_curr,hand_since]
    split_ifs with here
    · exact (on tracking).imp id ge_of_eq
    · rw [kept _ (absent c (known c there))]
      exact tracked.continuous tracking c (known c there)
  · intro c there
    rw [hand_curr,hand_since]
    split_ifs with here
    · exact fun _ after => (started c).trans after
    · rw [kept _ (absent c (known c there)),lrqs c here]
      exact tracked.inside c (known c there)
  · intro t idle
    exact hand_waiting tracked inTime.possible (fun c there => idle c ((congrFun called.possible c).trans there))
  · intro c there
    rw [hand_curr,hand_since]
    split_ifs with here
    · rw [hand_spent s cpu next other]
      exact (tracked.waiting next absent).trans (Nat.le_add_right _ _)
    · have away : (s.world.rq c).curr ≠ (s.world.rq cpu).curr :=
        fun same => here (tracked.distinct c cpu (known c there) inTime.possible same)
      rw [hand_spent s cpu next away,kept _ (absent c (known c there))]
      exact tracked.current c (known c there)

/-- A step that leaves the tracker alone. -/
theorem frame_tracked (tracked : Tracked s) {v : World} (same : SameTracker s.world v) :
    Tracked { s with world := v } := by
  have marks := same.mark_eq
  have behind := tracked.toBehind.same same
  obtain ⟨cpus,possible,⟨switch,size,requested,seeded⟩,rq,lrq,full,_,_⟩ := same
  refine { toBehind := behind
           ticked := seeded ▸ tracked.ticked
           constant := (requested.trans tracked.constant).trans size.symm
           bounded := ?_
           seeded := ?_
           distinct := ?_
           full := full tracked.full
           marks := ?_
           begun := tracked.begun
           continuous := ?_
           inside := ?_
           waiting := ?_
           current := ?_ }
  · rw [possible,cpus]; exact tracked.bounded
  · rw [possible,lrq]; exact tracked.seeded
  · rw [possible,rq]; exact tracked.distinct
  · intro t; rw [marks]; exact tracked.marks t
  · intro on c there
    rw [marks,rq]
    exact tracked.continuous (switch ▸ on) c (possible ▸ there)
  · intro c there
    rw [marks,rq,lrq]
    exact tracked.inside c (possible ▸ there)
  · rw [possible,rq]; exact tracked.waiting
  · intro c there
    rw [marks,rq]
    exact tracked.current c (possible ▸ there)

theorem setControl_tracked (tracked : Tracked s) {value : ℤ}
    (safe : s.world.track.slimWaltCtrl = 0 → value ≠ 0 → Continuous s) :
    Tracked { s with world := setControl s.world value } := by
  have behind := tracked.toBehind
  have switched : value ≠ 0 → ∀ cpu, s.world.possible cpu = true →
      mark s.world (s.world.rq cpu).curr = 0 ∨ s.since cpu ≤ mark s.world (s.world.rq cpu).curr := by
    intro on c there
    by_cases off : s.world.track.slimWaltCtrl = 0
    · exact safe off on c (tracked.bounded c there) there
    · exact tracked.continuous off c there
  exact { tracked with
          toBehind := ⟨behind.positive,behind.word,behind.requested,behind.latest,behind.started⟩
          continuous := switched }

/-- The marks after a task lost its record or got one without a mark. -/
theorem mark_unmarked (w : World) (t : ℕ) {record : Option LseTaskStruct}
    (unmarked : ∀ lts, record = some lts → lts.markStart = 0) (u : ℕ) :
    mark { w with lts := Function.update w.lts t record } u = if u = t then 0 else mark w u := by
  by_cases here : u = t
  · subst here
    cases present : record with
    | none => simp [mark,account]
    | some lts => simp [mark,account,accountOf,unmarked lts present]
  · simp [mark,account,here]

/-- A change of the record of a task that is current nowhere, to none or one without a mark. -/
theorem unmarked_tracked (tracked : Tracked s) {t : ℕ} (idle : NotCurrent s.world t) (record : Option LseTaskStruct)
    (unmarked : ∀ lts, record = some lts → lts.markStart = 0) {spent charged : ℕ → ℕ}
    (same : ∀ u, u ≠ t → spent u = s.spent u ∧ charged u = s.charged u) (own : charged t ≤ spent t) :
    Tracked { s with
      world := { s.world with lts := Function.update s.world.lts t record }, spent := spent, charged := charged } := by
  let v := { s.world with lts := Function.update s.world.lts t record }
  have absent : ∀ c, s.world.possible c = true → (s.world.rq c).curr ≠ t :=
    fun c there => idle c (tracked.bounded c there) there
  have changed : ∀ u, mark v u = if u = t then 0 else mark s.world u := mark_unmarked s.world t unmarked
  have others : ∀ u, u ≠ t → mark v u = mark s.world u := fun u away => (changed u).trans (if_neg away)
  have none : mark v t = 0 := (changed t).trans (if_pos rfl)
  have kept : ∀ c, s.world.possible c = true → mark v (s.world.rq c).curr = mark s.world (s.world.rq c).curr :=
    fun c there => others _ (absent c there)
  have behind := tracked.toBehind
  have now : ∀ u, mark v u ≤ s.now := by
    intro u
    by_cases here : u = t
    · exact here ▸ none.le.trans (Nat.zero_le _)
    · exact (others u here).le.trans (tracked.marks u)
  refine { tracked with
           toBehind := ⟨behind.positive,behind.word,behind.requested,behind.latest,behind.started⟩
           marks := now
           continuous := ?_
           inside := ?_
           waiting := ?_
           current := ?_ }
  · intro on c there
    show mark v _ = 0 ∨ s.since c ≤ mark v _
    rw [kept c there]
    exact tracked.continuous on c there
  · intro c there
    show mark v _ ≠ 0 → s.since c ≤ mark v _ → _ ≤ mark v _
    rw [kept c there]
    exact tracked.inside c there
  · intro u waits
    show charged u ≤ spent u
    by_cases here : u = t
    · exact here ▸ own
    · rw [(same u here).1,(same u here).2]
      exact tracked.waiting u waits
  · intro c there
    show charged _ ≤ spent _ + (mark v _ - _)
    obtain ⟨time,charges⟩ := same _ (absent c there)
    rw [kept c there,time,charges]
    exact tracked.current c there

theorem alloc_tracked (tracked : Tracked s) {t : ℕ} (idle : NotCurrent s.world t) :
    Tracked (toggleStep s (.alloc t)) := by
  by_cases present : (s.world.lts t).isSome = true
  · have same : toggleStep s (.alloc t) = s := if_pos present
    rwa [same]
  · have none : s.world.lts t = none := by simpa using present
    simp only [toggleStep,allocLseTaskStruct,none,World.setLts]
    refine unmarked_tracked tracked idle _ ?_ ?_ (by simp)
    · rintro lts stored
      cases stored
      rfl
    · intro u away
      simp [away]

theorem free_tracked (tracked : Tracked s) {t : ℕ} (idle : NotCurrent s.world t) :
    Tracked (toggleStep s (.free t)) :=
  unmarked_tracked tracked idle none (fun _ absent => by cases absent) (fun _ _ => ⟨rfl,rfl⟩)
    (tracked.waiting t (fun c there => idle c (tracked.bounded c there) there))

/-! ### Events -/

/-- The calls of `lse_schedule`, before what leaves the tracker alone. -/
theorem lseSchedule_same (w : World) (cpu prev next clock : ℕ) :
    SameTracker (scheduleRavg w cpu prev next clock) (lseSchedule w cpu prev next clock) := by
  unfold lseSchedule
  split_ifs with off
  · have calls : ∀ v t event wallclock, v.track.slimWaltCtrl = 0 → updateIfTracked v t cpu event wallclock = v :=
      fun v t event wallclock none => (call_absent event wallclock (Or.inl none)).1
    have nothing : scheduleRavg w cpu prev next clock = w := by
      unfold scheduleRavg
      simp only [calls w _ _ _ off,ite_self]
    rw [nothing]
    exact SameTracker.refl w
  · exact (afterRavg_queues _ cpu prev next).same

/-- The second reading of the clock in `lse_schedule` is the first one. -/
theorem lseRqClock_called {w v : World} {clock : ℕ} (track : ∃ lastq rollovers bugs, v.track =
    { w.track with rolloverLastqWs := lastq, rollovers := rollovers, bugs := bugs })
    (called : WindowChange.Called w v cpu (lseRqClock w cpu clock)) : lseRqClock v cpu clock = lseRqClock w cpu clock := by
  obtain ⟨_,_,_,track⟩ := track
  refine lseRqClock_again (by rw [track]) (by rw [track]) ?_
  rcases called.here with kept | ⟨_,now,_⟩
  · exact Or.inl (congrArg LseRq.latestClock kept)
  · exact Or.inr now

/-- A switch of a CPU to its current task is a call for that task. -/
theorem schedule_stays (w : World) (cpu clock : ℕ) :
    let e := SchedEvent.schedule cpu (w.rq cpu).curr clock
    (∀ t, charges w t e =
      if t = (w.rq cpu).curr then runtimeOf w t cpu .taskUpdate (lseRqClock w cpu clock) else 0) ∧
    SameTracker (updateIfTracked w (w.rq cpu).curr cpu .taskUpdate (lseRqClock w cpu clock)) (e.run w) := by
  intro e
  constructor
  · intro t
    simp only [e,charges,ne_eq,not_true_eq_false,if_false]
    split_ifs with own
    · rw [own]
    · rfl
  · have calls := lseSchedule_same w cpu (w.rq cpu).curr (w.rq cpu).curr clock
    simp only [scheduleRavg,ne_eq,not_true_eq_false,if_false] at calls
    have rq := calls.rq.trans (updateIfTracked_around w _ cpu .taskUpdate _).1
    simp only [e,SchedEvent.run,switchTo_curr rq]
    exact calls

/-- A switch to another task is a call for the current one, which is charged, and one for
    the next, which is not. -/
theorem schedule_switches {w : World} {cpu next clock : ℕ} (away : next ≠ (w.rq cpu).curr)
    (called : WindowChange.Called w (updateIfTracked w (w.rq cpu).curr cpu .putPrevTask (lseRqClock w cpu clock)) cpu
      (lseRqClock w cpu clock)) :
    (∀ t, charges w t (.schedule cpu next clock) =
      if t = (w.rq cpu).curr then runtimeOf w t cpu .putPrevTask (lseRqClock w cpu clock) else 0) ∧
    SameTracker (switchTo (updateIfTracked (updateIfTracked w (w.rq cpu).curr cpu .putPrevTask (lseRqClock w cpu clock))
      next cpu .pickNextTask (lseRqClock w cpu clock)) cpu next) ((SchedEvent.schedule cpu next clock).run w) := by
  constructor
  · intro t
    simp only [charges,ne_eq,Ne.symm away,not_false_eq_true,if_true,runtimeOf_pick,ite_self,Nat.add_zero]
    split_ifs with here
    · rw [here]
    · rfl
  · have again := lseRqClock_called (updateIfTracked_track w (w.rq cpu).curr cpu .putPrevTask _) called
    have calls := lseSchedule_same w cpu (w.rq cpu).curr next clock
    simp only [scheduleRavg,ne_eq,Ne.symm away,not_false_eq_true,if_true,again] at calls
    exact switchTo_same calls next

/-- An event calls the tracker not at all, for the current task of its CPU, or for that
    task and the next one, which becomes current; the rest leaves the tracker alone. -/
theorem event_cases {w : World} {e : SchedEvent} (ticked : w.track.tickSchedClock ≠ 0)
    (constant : w.track.newRavgWindow = w.track.ravgWindow)
    (called : ∀ place ∈ e.observed w, ∀ t event,
      WindowChange.Called w (updateIfTracked w t place.1 event place.2) place.1 place.2)
    (idle : ∀ t p, e = .task t p → p.isIdle = (w.task t).isIdle) (full : ∀ c f, e = .freq c f → FullScale f) :
    (e.observed w = none ∧ SameTracker w (e.run w)) ∨
    (∃ cpu wallclock, e.observed w = some (cpu,wallclock) ∧ leaves w e = none ∧
      (∀ t, charges w t e = if t = (w.rq cpu).curr then runtimeOf w t cpu .taskUpdate wallclock else 0) ∧
      SameTracker (updateIfTracked w (w.rq cpu).curr cpu .taskUpdate wallclock) (e.run w)) ∨
    ∃ cpu next clock wallclock, e = .schedule cpu next clock ∧ e.observed w = some (cpu,wallclock) ∧
      leaves w e = some cpu ∧ next ≠ (w.rq cpu).curr ∧
      (∀ t, charges w t e = if t = (w.rq cpu).curr then runtimeOf w t cpu .putPrevTask wallclock else 0) ∧
      SameTracker (switchTo (updateIfTracked (updateIfTracked w (w.rq cpu).curr cpu .putPrevTask wallclock) next cpu
        .pickNextTask wallclock) cpu next) (e.run w) := by
  cases e with
  | schedule cpu next clock =>
    refine Or.inr ?_
    by_cases stays : next = (w.rq cpu).curr
    · subst stays
      exact Or.inl ⟨cpu,_,rfl,if_pos rfl,schedule_stays w cpu clock⟩
    · exact Or.inr ⟨cpu,next,clock,_,rfl,rfl,if_neg stays,stays,
        schedule_switches stays (called _ rfl (w.rq cpu).curr .putPrevTask)⟩
  | tickEntry cpu clock =>
    refine Or.inr (Or.inl ⟨cpu,_,rfl,rfl,fun _ => rfl,?_⟩)
    simp only [SchedEvent.run,lseTickEntry]
    split_ifs with off
    · rw [(call_absent _ _ (Or.inl off)).1]
      exact SameTracker.refl _
    · exact SameTracker.refl _
  | shadowTick timer cpu clock =>
    by_cases ticks : lseShadowTickEnabled w = true ∧ (w.rq cpu).curr ≠ (w.rq cpu).idle
    · refine Or.inr (Or.inl ⟨cpu,_,if_pos ticks,rfl,?_,?_⟩)
      · intro t
        simp only [charges,ticks,true_and,ne_eq,not_false_eq_true]
      · simp only [SchedEvent.run,lseShadowTickCb,ticks,Bool.true_eq_false,false_or,ne_eq,not_false_eq_true,if_true]
        split_ifs with off
        · rw [(call_absent _ _ (Or.inl off)).1]
          exact around_same w w.dsq _
        · exact SameTracker.refl _
    · exact Or.inl ⟨if_neg ticks,shadowTick_silent ticks timer clock⟩
  | irqWork cpu clock =>
    refine Or.inr (Or.inl ⟨cpu,_,rfl,rfl,fun _ => rfl,?_⟩)
    obtain ⟨_,_,_,track⟩ := updateIfTracked_track w (w.rq cpu).curr cpu .taskUpdate (lseSchedClock w clock)
    simp only [SchedEvent.run,lseIrqWork,commitWindow,track,constant,ne_eq,not_true_eq_false,false_and,if_false]
    exact SameTracker.refl _
  | schedulerTick clock => exact Or.inl ⟨rfl,silent_same ticked rfl idle full⟩
  | task t p => exact Or.inl ⟨rfl,silent_same ticked rfl idle full⟩
  | freq c f => exact Or.inl ⟨rfl,silent_same ticked rfl idle full⟩
  | others e => exact Or.inl ⟨rfl,silent_same ticked rfl idle full⟩

/-- A switch is a charge of the current task, and the next one becomes current. -/
theorem switch_tracked (tracked : Tracked s) (inTime : InTime s.world s.now cpu wallclock) {next : ℕ}
    (other : next ≠ (s.world.rq cpu).curr)
    (elsewhere : ∀ c, s.world.possible c = true → c ≠ cpu → (s.world.rq c).curr ≠ next) :
    Tracked (hand (charge s cpu .putPrevTask wallclock) cpu next) := by
  have rq := (updateIfTracked_around s.world (s.world.rq cpu).curr cpu .putPrevTask wallclock).1
  have called := (call_called tracked.toBehind inTime (s.world.rq cpu).curr .putPrevTask).1
  refine hand_tracked (charge_tracked tracked inTime .putPrevTask) (call_inTime inTime called) ?_ ?_
  · simpa only [charge,rq] using other
  · intro c there away
    simpa only [charge,rq] using elsewhere c ((congrFun called.possible c).symm.trans there) away

theorem schedStep_tracked (tracked : Tracked s) {e : SchedEvent} (admitted : Admitted s (.sched e))
    (safe : SafeToggle s (.sched e)) : Tracked (schedStep s e) := by
  obtain ⟨timely,kernel⟩ := admitted
  have inTime : ∀ place ∈ e.observed s.world, InTime s.world s.now place.1 place.2 := fun place seen =>
    ⟨(timely place seen).1,(timely place seen).2.1,(timely place seen).2.2,safe place seen⟩
  have idle : ∀ t p, e = .task t p → p.isIdle = (s.world.task t).isIdle := by
    rintro t p rfl
    exact kernel
  have full : ∀ c f, e = .freq c f → FullScale f := by
    rintro c f rfl
    exact kernel
  rcases event_cases tracked.ticked tracked.constant (fun place seen t event => (call_called tracked.toBehind
    (inTime place seen) t event).1) idle full with ⟨unseen,same⟩ | ⟨cpu,wallclock,seen,stays,charged,same⟩ |
      ⟨cpu,next,clock,wallclock,rfl,seen,leaving,other,charged,same⟩
  · have framed := frame_tracked tracked same
    simpa only [schedStep,unseen] using framed
  · have charging := frame_tracked (charge_tracked tracked (inTime _ seen) .taskUpdate) same
    simpa only [schedStep,seen,stays,charged,charge] using charging
  · have switching := frame_tracked (switch_tracked tracked (inTime _ seen) other
      (fun c there => kernel c (tracked.bounded c there) there)) same
    have rq := (updateIfTracked_around s.world (s.world.rq cpu).curr cpu .putPrevTask wallclock).1
    simpa only [schedStep,seen,leaving,charged,hand,charge,rq] using switching

theorem toggleStep_tracked (tracked : Tracked s) {e : ToggleEvent} (admitted : Admitted s e) (safe : SafeToggle s e) :
    Tracked (toggleStep s e) := by
  cases e with
  | sched e => exact schedStep_tracked tracked admitted safe
  | control value => exact setControl_tracked tracked safe
  | alloc t => exact alloc_tracked tracked admitted
  | free t => exact free_tracked tracked admitted

end

/-- What is charged was spent. -/
theorem tracked_nothing {s : Toggled} (tracked : Tracked s) : NothingInvented s := by
  intro t
  by_cases current : ∃ cpu, s.world.possible cpu = true ∧ (s.world.rq cpu).curr = t
  · obtain ⟨cpu,possible,rfl⟩ := current
    have within := tracked.current cpu possible
    have marked := tracked.marks (s.world.rq cpu).curr
    have member : cpu ∈ forEachCpu s.world.nrCpuIds s.world.possible :=
      mem_forEachCpu.mpr ⟨tracked.bounded cpu possible,possible⟩
    have counted := List.le_sum_of_mem (List.mem_map_of_mem (f := fun c =>
      if (s.world.rq c).curr = (s.world.rq cpu).curr then s.now - s.since c else 0) member)
    simp only [if_true] at counted
    unfold ran
    omega
  · exact (tracked.waiting t (fun cpu possible same => current ⟨cpu,possible,same⟩)).trans (Nat.le_add_right _ _)

/-- The state before the seeding tick, with one window size and no time accounted. -/
structure ToggleStart (w : World) : Prop extends WindowChange.Seedable w where
  constant : w.track.newRavgWindow = w.track.ravgWindow
  distinct : ∀ a b, w.possible a = true → w.possible b = true → (w.rq a).curr = (w.rq b).curr → a = b
  full : ∀ cpu, FullScale (w.freq cpu)
  marks : ∀ t, mark w t = 0

theorem boot_toggleStart (nrCpuIds : ℕ) (task : ℕ → TaskStruct) : ToggleStart (World.boot nrCpuIds task) :=
  ⟨WindowChange.boot_seedable nrCpuIds task,rfl,fun _ _ _ _ same => same,(Occupancy.boot_fresh nrCpuIds task).full,
    fun _ => rfl⟩

theorem toggled_tracked {w : World} (start : ToggleStart w) {clock : ℕ} (late : 20000 < clock)
    (small : clock < 18446744073709551616) : Tracked (toggled w clock) := by
  obtain ⟨behind,_,possible,_⟩ := WindowChange.lseSchedulerTick_behind start.toSeedable late.le small
  have ticked := WindowChange.lseSchedulerTick_ticked start.toSeedable late small
  have frame := Rollover.lseSchedulerTick_frame w clock
  have marks : ∀ t, mark (lseSchedulerTick w clock) t = 0 :=
    fun t => (WindowChange.lseSchedulerTick_mark w clock t).trans (start.marks t)
  refine ⟨behind,ticked,?_,?_,?_,?_,frame.freq ▸ start.full,fun t => (marks t).le.trans (Nat.zero_le _),fun _ => le_rfl,
    fun _ _ _ => Or.inl (marks _),fun _ _ marked => absurd (marks _) marked,fun _ _ => le_rfl,fun _ _ => Nat.zero_le _⟩
  · exact frame.requested.trans (start.constant.trans frame.size.symm)
  · exact WindowChange.lseSchedulerTick_bounded start.toSeedable clock
  · exact WindowChange.lseSchedulerTick_seeded start.toSeedable late small
  · show ∀ a b, (lseSchedulerTick w clock).possible a = true → (lseSchedulerTick w clock).possible b = true →
      ((lseSchedulerTick w clock).rq a).curr = ((lseSchedulerTick w clock).rq b).curr → a = b
    rw [possible,frame.rq]
    exact start.distinct

/-- After every run from the seeding tick in which tracking is switched on only while the
    current tasks have been current since their marks, no task is charged for more time
    than it was current. -/
theorem charged_within (w : World) (start : ToggleStart w) (clock : ℕ) (late : 20000 < clock)
    (small : clock < 18446744073709551616) (run : List ToggleEvent)
    (admitted : Along toggleStep Admitted (toggled w clock) run) (safe : Along toggleStep SafeToggle (toggled w clock) run) :
    NothingInvented (exec toggleStep (toggled w clock) run) :=
  tracked_nothing (exec_invariant Tracked (fun _ _ tracked (ok : Admitted _ _ ∧ SafeToggle _ _) =>
    toggleStep_tracked tracked ok.1 ok.2) (toggled_tracked start late small) (along_and.mpr ⟨admitted,safe⟩))

/-- Task 1 runs for 200 µs on CPU 0, and tracking is switched off; task 2 runs instead,
    and just when task 1 is back tracking is switched on. -/
def offAndOn : List ToggleEvent :=
  [.sched (.schedule 0 1 1100000),.sched (.tickEntry 0 1200000),.control 0,.sched (.schedule 0 2 1300000),
    .sched (.schedule 0 1 5000000),.control 1,.sched (.tickEntry 0 5100000)]

/-- Task 1 is charged for 4 ms, of which it ran for 300 µs. -/
theorem frozen_interval_charged :
    ToggleStart (World.boot 1 (Occupancy.idleBelow 1)) ∧
      Along toggleStep Admitted (toggled (World.boot 1 (Occupancy.idleBelow 1)) 1020000) offAndOn ∧
      ¬ NothingInvented (exec toggleStep (toggled (World.boot 1 (Occupancy.idleBelow 1)) 1020000) offAndOn) :=
  ⟨boot_toggleStart _ _,by decide +kernel,fun nothing => absurd (nothing 1) (by decide +kernel)⟩

/-- With tracking switched on while the other task still runs, all is well. -/
theorem charged_within_back :
    NothingInvented (exec toggleStep (toggled (World.boot 1 (Occupancy.idleBelow 1)) 1020000)
      [.sched (.schedule 0 1 1100000),.sched (.tickEntry 0 1200000),.control 0,.sched (.schedule 0 2 1300000),.control 1,
        .sched (.schedule 0 1 5000000),.sched (.tickEntry 0 5100000)]) :=
  charged_within _ (boot_toggleStart _ _) 1020000 (by decide) (by decide) _ (by decide +kernel) (by decide +kernel)

end LunarSched.Toggling
