import LunarSched.Accounts
import LunarSched.Monitor
import LunarSched.Runs

/-!
The hooks together with the monitor. Each hook makes its calls into the monitor
while it works on the rest of the state; between hooks the kernel runs expired timers
and works, users write to the monitor's files, and anything else may happen to the
rest of the state. In every state of every run the heartbeat timer is pending exactly
when `heartbeat_enable` is set and the watchdog work exactly when `watchdog_enable`
is (`timers_armed`).
-/
namespace LunarSched.MonitoredHooks
open LunarSched.Machine LunarSched.Kernel LunarSched.UtilTrack LunarSched.Dsq LunarSched.ShadowTick LunarSched.Hooks
open LunarSched.Accounts LunarSched.Monitor LunarSched.Runs

structure System where
  world : World
  monitor : LseMonitor

/-- The state once the module is loaded. -/
def System.init (w : World) (initialJiffies : ℕ) : System := ⟨w,lseMonitorInit w (LseMonitor.boot initialJiffies)⟩

/-- The update moves the window and is the one that queues the rollover. -/
def rollsOver (w : World) (lts : LseTaskStruct) (t cpu : ℕ) (event : TaskEvent) (wallclock : ℕ) : Bool :=
  let (_,lrq,oldWindowStart,_) := ravgUpdate w lts t cpu event wallclock
  decide (oldWindowStart ≠ lrq.windowStart ∧ w.track.rolloverLastqWs = oldWindowStart)

/-- The calls of `lse_update_task_ravg`, where it is called only for a task with a record. -/
def updateCalls (w : World) (t cpu : ℕ) (event : TaskEvent) (wallclock : ℕ) : List MonitorCall :=
  match w.lts t with
  | none => []
  | some lts =>
    let lts := lseRefreshTaskHint w.track lts (w.task t)
    if Skipped w lts cpu wallclock then []
    else if rollsOver w lts t cpu event wallclock then [.recordRollover,.recordUpdate]
    else [.recordUpdate]

def scheduleCalls (w : World) (cpu prev next clock : ℕ) : List MonitorCall :=
  if w.track.slimWaltCtrl = 0 then []
  else if prev ≠ next then
    let v := updateIfTracked w prev cpu .putPrevTask (lseRqClock w cpu clock)
    updateCalls w prev cpu .putPrevTask (lseRqClock w cpu clock) ++
      updateCalls v next cpu .pickNextTask (lseRqClock v cpu clock)
  else updateCalls w prev cpu .taskUpdate (lseRqClock w cpu clock)

def schedulerTickCalls (w : World) : List MonitorCall := if w.track.slimWaltCtrl = 0 then [] else [.touch]

def tickEntryCalls (w : World) (cpu clock : ℕ) : List MonitorCall :=
  if w.track.slimWaltCtrl = 0 then []
  else .touch :: updateCalls w (w.rq cpu).curr cpu .taskUpdate (lseRqClock w cpu clock)

/-- The shadow tick updates the current task if it has a record and is not the idle task. -/
def shadowTracks (w : World) (cpu : ℕ) : Bool :=
  (w.lts (w.rq cpu).curr).isSome && decide ((w.rq cpu).curr ≠ (w.rq cpu).idle)

def shadowTickCalls (w : World) (cpu clock : ℕ) : List MonitorCall :=
  if lseShadowTickEnabled w = false ∨ w.track.slimWaltCtrl = 0 then []
  else if shadowTracks w cpu then updateCalls w (w.rq cpu).curr cpu .taskUpdate (lseSchedClock w clock)
  else [.touch]

/-- A hook, an event of the monitor, or what happens elsewhere, taken from another state. -/
inductive SystemEvent where
  | schedulerTick (clock : ℕ)
  | schedule (cpu next clock : ℕ)
  | tickEntry (cpu clock : ℕ)
  | shadowTick (timer cpu clock : ℕ)
  | irqWork (cpu clock : ℕ)
  | monitor (e : MonitorEvent)
  | others (v : World)

def hook (w : World) : SystemEvent → World
  | .schedulerTick clock => lseSchedulerTick w clock
  | .schedule cpu next clock => switchTo (lseSchedule w cpu (w.rq cpu).curr next clock) cpu next
  | .tickEntry cpu clock => lseTickEntry w cpu clock
  | .shadowTick timer cpu clock => lseShadowTickCb w timer cpu clock
  | .irqWork cpu clock => lseIrqWork w cpu clock
  | .monitor _ => w
  | .others v => v

def hookCalls (w : World) : SystemEvent → List MonitorCall
  | .schedulerTick _ => schedulerTickCalls w
  | .schedule cpu next clock => scheduleCalls w cpu (w.rq cpu).curr next clock
  | .tickEntry cpu clock => tickEntryCalls w cpu clock
  | .shadowTick _ cpu clock => shadowTickCalls w cpu clock
  | .irqWork cpu clock => updateCalls w (w.rq cpu).curr cpu .taskUpdate (lseSchedClock w clock)
  | .monitor _ | .others _ => []

/-- The monitor after a hook's calls. None of them changes what the monitor reads of the rest. -/
def monitorCalls (w : World) (m : LseMonitor) (calls : List MonitorCall) : LseMonitor := calls.foldl (monitorCall w) m

def systemStep (s : System) : SystemEvent → System
  | .monitor e => { s with monitor := monitorStep s.world s.monitor e }
  | e => ⟨hook s.world e,monitorCalls s.world s.monitor (hookCalls s.world e)⟩

theorem systemStep_world (s : System) (e : SystemEvent) : (systemStep s e).world = hook s.world e := by
  cases e <;> rfl

theorem systemStep_hooked {e : SystemEvent} (s : System) (hooked : ∀ m, e ≠ .monitor m) :
    (systemStep s e).monitor = monitorCalls s.world s.monitor (hookCalls s.world e) := by
  cases e with
  | monitor e => exact absurd rfl (hooked e)
  | schedulerTick clock => rfl
  | schedule cpu next clock => rfl
  | tickEntry cpu clock => rfl
  | shadowTick timer cpu clock => rfl
  | irqWork cpu clock => rfl
  | others v => rfl

@[simp] theorem monitorCalls_nil (w : World) (m : LseMonitor) : monitorCalls w m [] = m := rfl
@[simp] theorem monitorCalls_cons (w : World) (m : LseMonitor) (c : MonitorCall) (rest : List MonitorCall) :
    monitorCalls w m (c :: rest) = monitorCalls w (monitorCall w m c) rest := rfl

/-! ### What the hooks leave to the monitor -/

/-- What the monitor reads of the rest of the state, except for its reports. -/
structure SameClock (w v : World) : Prop where
  jiffies : v.dsq.jiffies = w.dsq.jiffies
  slimStats : v.dsq.slimStats = w.dsq.slimStats
  msecs : v.msecsToJiffies = w.msecsToJiffies

theorem SameClock.refl (w : World) : SameClock w w := ⟨rfl,rfl,rfl⟩

theorem SameClock.trans {u v w : World} (first : SameClock u v) (second : SameClock v w) : SameClock u w :=
  ⟨second.jiffies.trans first.jiffies,second.slimStats.trans first.slimStats,second.msecs.trans first.msecs⟩

theorem ite_clock {w u v : World} {p : Prop} [Decidable p] (yes : SameClock w u) (no : SameClock w v) :
    SameClock w (if p then u else v) := by
  split_ifs
  · exact yes
  · exact no

theorem updateIfTracked_clock (w : World) (t cpu : ℕ) (event : TaskEvent) (wallclock : ℕ) :
    SameClock w (updateIfTracked w t cpu event wallclock) := by
  rcases updateIfTracked_outcome w t cpu event wallclock with same | ⟨_,_,_,_,_,stored⟩
  · rw [same]
    exact SameClock.refl w
  · rw [stored]
    exact ⟨rfl,rfl,rfl⟩

theorem scheduleRavg_clock (w : World) (cpu prev next clock : ℕ) : SameClock w (scheduleRavg w cpu prev next clock) := by
  unfold scheduleRavg
  refine ite_clock ?_ (updateIfTracked_clock w prev cpu .taskUpdate _)
  exact (updateIfTracked_clock w prev cpu .putPrevTask _).trans (updateIfTracked_clock _ next cpu .pickNextTask _)

theorem lseDsqEnqueueTask_clock (w : World) (t cpu : ℕ) : SameClock w (lseDsqEnqueueTask w t cpu) := by
  unfold lseDsqEnqueueTask
  refine ite_clock (SameClock.refl w) ?_
  cases w.lts t with
  | none => exact SameClock.refl w
  | some lts =>
    exact ite_clock (SameClock.refl w) (ite_clock (SameClock.refl w) (ite_clock ⟨rfl,rfl,rfl⟩ (SameClock.refl w)))

theorem lseDsqDequeueTask_clock (w : World) (t : ℕ) : SameClock w (lseDsqDequeueTask w t) := by
  unfold lseDsqDequeueTask
  refine ite_clock (SameClock.refl w) ?_
  cases w.lts t with
  | none => exact SameClock.refl w
  | some lts => exact ite_clock (SameClock.refl w) (ite_clock (SameClock.refl w) ⟨rfl,rfl,rfl⟩)

theorem lseDsqOnSchedule_clock (w : World) (cpu prev next : ℕ) : SameClock w (lseDsqOnSchedule w cpu prev next) := by
  apply lseDsqOnSchedule_keeps (SameClock w) cpu prev next (SameClock.refl w)
  · exact fun v t same => same.trans (lseDsqEnqueueTask_clock v t cpu)
  · exact fun v t same => same.trans (lseDsqDequeueTask_clock v t)
  · exact fun v _ same => same.trans (ite_clock ⟨rfl,rfl,rfl⟩ ⟨rfl,rfl,rfl⟩)

theorem lseShadowTickUpdateCpu_clock (w : World) (here cpu : ℕ) : SameClock w (lseShadowTickUpdateCpu w here cpu) := by
  have stopped : SameClock w (lseShadowTickStopCpu w cpu) := ite_clock (SameClock.refl w) ⟨rfl,rfl,rfl⟩
  have started : SameClock w (lseShadowTickStartCpu w here cpu) :=
    ite_clock stopped (ite_clock (SameClock.refl w) ⟨rfl,rfl,rfl⟩)
  exact ite_clock (SameClock.refl w) (ite_clock stopped (ite_clock stopped started))

theorem lseSchedule_clock (w : World) (cpu prev next clock : ℕ) : SameClock w (lseSchedule w cpu prev next clock) := by
  refine ite_clock (SameClock.refl w) ?_
  have tracked := scheduleRavg_clock w cpu prev next clock
  exact tracked.trans ((lseDsqOnSchedule_clock _ cpu prev next).trans (lseShadowTickUpdateCpu_clock _ cpu cpu))

/-- No hook moves `jiffies` or touches `slim_stats`. -/
theorem hook_clock (w : World) {e : SystemEvent} (inside : ∀ v, e ≠ .others v) : SameClock w (hook w e) := by
  cases e with
  | schedulerTick clock => exact ite_clock (SameClock.refl w) ⟨rfl,rfl,rfl⟩
  | schedule cpu next clock => exact (lseSchedule_clock w cpu (w.rq cpu).curr next clock).trans ⟨rfl,rfl,rfl⟩
  | tickEntry cpu clock => exact ite_clock (SameClock.refl w) (updateIfTracked_clock w _ cpu .taskUpdate _)
  | shadowTick timer cpu clock =>
    exact ite_clock ⟨rfl,rfl,rfl⟩ (ite_clock (updateIfTracked_clock w _ cpu .taskUpdate _) (SameClock.refl w))
  | irqWork cpu clock => exact (updateIfTracked_clock w _ cpu .taskUpdate _).trans (ite_clock ⟨rfl,rfl,rfl⟩ (SameClock.refl _))
  | monitor e => exact SameClock.refl w
  | others v => exact absurd rfl (inside v)

/-- The calls of the hooks leave the timer, the work, the switches and the reports alone. -/
def SameTimers (m n : LseMonitor) : Prop :=
  n.inited = m.inited ∧ n.heartbeatEnable = m.heartbeatEnable ∧ n.watchdogEnable = m.watchdogEnable ∧
    n.heartbeatTimer = m.heartbeatTimer ∧ n.watchdogWork = m.watchdogWork ∧
    n.watchdogTimeout = m.watchdogTimeout ∧ n.dumps = m.dumps

theorem monitorCall_timers (w : World) (m : LseMonitor) (c : MonitorCall) : SameTimers m (monitorCall w m c) := by
  cases c with
  | recordUpdate => exact ⟨rfl,rfl,rfl,rfl,rfl,rfl,rfl⟩
  | recordRollover => exact ⟨rfl,rfl,rfl,rfl,rfl,rfl,rfl⟩
  | touch =>
    unfold monitorCall lseMonitorTouch
    simp only []
    split_ifs
    · exact ⟨rfl,rfl,rfl,rfl,rfl,rfl,rfl⟩
    · exact ⟨rfl,rfl,rfl,rfl,rfl,rfl,rfl⟩

theorem monitorCalls_timers (w : World) (calls : List MonitorCall) :
    ∀ m : LseMonitor, SameTimers m (monitorCalls w m calls) := by
  induction calls with
  | nil => exact fun _ => ⟨rfl,rfl,rfl,rfl,rfl,rfl,rfl⟩
  | cons c rest ih =>
    intro m
    obtain ⟨i,h,d,t,k,o,r⟩ := monitorCall_timers w m c
    obtain ⟨i',h',d',t',k',o',r'⟩ := ih (monitorCall w m c)
    exact ⟨i'.trans i,h'.trans h,d'.trans d,t'.trans t,k'.trans k,o'.trans o,r'.trans r⟩

/-- What a touch sets and the other calls leave alone has the touch's value after calls with
    a touch among them. -/
theorem monitorCalls_touched {α : Type*} (field : LseMonitor → α) {w : World} {value : α}
    (touched : ∀ m, field (lseMonitorTouch w m) = value) (others : ∀ m, ∀ c ≠ .touch, field (monitorCall w m c) = field m)
    (calls : List MonitorCall) : ∀ m : LseMonitor,
    field (monitorCalls w m calls) = if MonitorCall.touch ∈ calls then value else field m := by
  induction calls with
  | nil => exact fun _ => rfl
  | cons c rest ih =>
    intro m
    rw [monitorCalls_cons,ih]
    by_cases here : c = .touch
    · rw [here,monitorCall,touched,ite_self,if_pos List.mem_cons_self]
    · rw [others m c here]
      simp only [List.mem_cons,Ne.symm here,false_or]

/-- The monitor is initialised, and its timer and work are pending exactly when they are switched on. -/
structure Armed (m : LseMonitor) : Prop where
  inited : m.inited = true
  heartbeat : m.heartbeatTimer.isSome = true ↔ m.heartbeatEnable ≠ 0
  watchdog : m.watchdogWork.isSome = true ↔ m.watchdogEnable ≠ 0

/-- `lse_monitor_sync` arms whatever is switched on and nothing else. -/
theorem sync_armed {w : World} {m : LseMonitor} (inited : m.inited = true) : Armed (lseMonitorSync w m) := by
  rw [sync_eq inited]
  refine ⟨inited,?_,?_⟩
  · by_cases off : m.heartbeatEnable = 0
    · simp [off]
    · simp [off]
  · by_cases off : m.watchdogEnable = 0
    · simp [off]
    · simp [off]

theorem armed_congr {m n : LseMonitor} (same : SameTimers m n) (armed : Armed m) : Armed n := by
  obtain ⟨inited,heartbeatEnable,watchdogEnable,timer,work,_,_⟩ := same
  exact ⟨inited.trans armed.inited,by rw [timer,heartbeatEnable]; exact armed.heartbeat,
    by rw [work,watchdogEnable]; exact armed.watchdog⟩

theorem heartbeatTimerFn_armed {w : World} {m : LseMonitor} (armed : Armed m) : Armed (lseHeartbeatTimerFn w m) := by
  by_cases off : m.heartbeatEnable = 0
  · rw [heartbeatTimerFn_off off]
    exact ⟨armed.inited,by simp [off],armed.watchdog⟩
  · by_cases stalled : m.heartbeat = 0
    · rw [heartbeatTimerFn_stalled off stalled]
      exact ⟨armed.inited,iff_of_true rfl off,armed.watchdog⟩
    · rw [heartbeatTimerFn_beats off stalled]
      exact ⟨armed.inited,iff_of_true rfl off,armed.watchdog⟩

theorem watchdogWorkfn_armed {w : World} {m : LseMonitor} (armed : Armed m) : Armed (lseWatchdogWorkfn w m) := by
  by_cases off : m.watchdogEnable = 0
  · rw [watchdogWorkfn_off off]
    exact ⟨armed.inited,armed.heartbeat,by simp [off]⟩
  · cases late : watchdogLate w m with
    | true =>
      rw [watchdogWorkfn_late off late]
      exact ⟨armed.inited,armed.heartbeat,iff_of_true rfl off⟩
    | false =>
      rw [watchdogWorkfn_alive off late]
      exact ⟨armed.inited,armed.heartbeat,iff_of_true rfl off⟩

theorem toggle_armed {w : World} {m : LseMonitor} {data : LseMonitor → ℤ} {store : ℤ → LseMonitor → LseMonitor} {val : ℤ}
    (kept : (store val m).inited = m.inited) (armed : Armed m) :
    Armed (lseProcMonitorToggleUpdate data store w m val) := by
  unfold lseProcMonitorToggleUpdate
  split_ifs
  · exact armed
  · exact sync_armed (kept.trans armed.inited)

theorem monitorStep_armed {w : World} {m : LseMonitor} (armed : Armed m) (e : MonitorEvent) : Armed (monitorStep w m e) := by
  cases e with
  | heartbeatTimer =>
    rw [monitorStep]
    split_ifs
    · exact heartbeatTimerFn_armed armed
    · exact armed
  | watchdogWork =>
    rw [monitorStep]
    split_ifs
    · exact watchdogWorkfn_armed armed
    · exact armed
  | heartbeatEnable val => exact toggle_armed rfl armed
  | watchdogEnable val => exact toggle_armed rfl armed
  | heartbeat val => exact ⟨armed.inited,armed.heartbeat,armed.watchdog⟩
  | resetStats count =>
    rw [monitorStep,lseProcStatsResetWrite]
    split_ifs
    · exact ⟨armed.inited,armed.heartbeat,armed.watchdog⟩
    · exact armed

theorem systemStep_armed {s : System} (armed : Armed s.monitor) (e : SystemEvent) : Armed (systemStep s e).monitor := by
  cases e with
  | monitor e => exact monitorStep_armed armed e
  | schedulerTick clock => exact armed_congr (monitorCalls_timers _ _ _) armed
  | schedule cpu next clock => exact armed_congr (monitorCalls_timers _ _ _) armed
  | tickEntry cpu clock => exact armed_congr (monitorCalls_timers _ _ _) armed
  | shadowTick timer cpu clock => exact armed_congr (monitorCalls_timers _ _ _) armed
  | irqWork cpu clock => exact armed_congr (monitorCalls_timers _ _ _) armed
  | others v => exact armed_congr (monitorCalls_timers _ _ _) armed

theorem init_armed (w : World) (initialJiffies : ℕ) : Armed (System.init w initialJiffies).monitor := by
  rw [System.init,monitorInit_boot]
  exact ⟨rfl,iff_of_false Bool.false_ne_true (fun on => on rfl),iff_of_false Bool.false_ne_true (fun on => on rfl)⟩

/-- In every state of every run the heartbeat timer is pending exactly when
    `heartbeat_enable` is set, and the watchdog work exactly when `watchdog_enable` is. -/
theorem timers_armed (w : World) (initialJiffies : ℕ) (events : List SystemEvent) :
    let m := (exec systemStep (System.init w initialJiffies) events).monitor
    (m.heartbeatTimer.isSome = true ↔ m.heartbeatEnable ≠ 0) ∧ (m.watchdogWork.isSome = true ↔ m.watchdogEnable ≠ 0) := by
  have armed := exec_always (fun s : System => Armed s.monitor) (fun s e held => systemStep_armed held e)
    (init_armed w initialJiffies) events
  exact ⟨armed.heartbeat,armed.watchdog⟩

end LunarSched.MonitoredHooks
