import LunarSched.MonitoredHooks

/-!
The watchdog over runs of the whole extension. A sign of life is a regular tick with
tracking switched on, a shadow tick that has nothing to update, or a reset of the
statistics. Each run of the watchdog work reports a timeout exactly when the last
sign of life is further back than the timeout (`timeouts_reported_iff`); and when
works are run at most `late` ticks after their delay is over, no silence of the timeout, half
of it and `late` goes unreported while the watchdog is on (`silence_reported`).
-/
namespace LunarSched.Watchdog
open LunarSched.Machine LunarSched.Kernel LunarSched.Dsq LunarSched.ShadowTick LunarSched.Hooks LunarSched.Monitor
open LunarSched.MonitoredHooks LunarSched.Runs

/-- The events that show that the scheduler is alive. -/
def signOfLife (w : World) : SystemEvent → Bool
  | .schedulerTick _ | .tickEntry _ _ => decide (w.track.slimWaltCtrl ≠ 0)
  | .shadowTick _ cpu _ => lseShadowTickEnabled w && decide (w.track.slimWaltCtrl ≠ 0) && !shadowTracks w cpu
  | .monitor (.resetStats count) => decide (count ≠ 0)
  | _ => false

/-- How often the watchdog has reported a timeout. -/
def timeouts (m : LseMonitor) : ℕ := m.dumps.countP (fun dump => dump.reason = .watchdogTimeout)

/-- The step reports a timeout. -/
def Reports (s : System) (e : SystemEvent) : Prop := timeouts s.monitor < timeouts (systemStep s e).monitor

instance (s : System) (e : SystemEvent) : Decidable (Reports s e) := inferInstanceAs (Decidable (_ < _))

/-- A run with the times of the last sign of life and of the last time the watchdog was
    switched on, and whether a timeout was reported since the last sign of life. -/
structure Watched where
  system : System
  lifeAt : ℕ
  enabledAt : ℕ
  reported : Bool

def watchStep (s : Watched) (e : SystemEvent) : Watched where
  system := systemStep s.system e
  lifeAt := if signOfLife s.system.world e then s.system.world.dsq.jiffies else s.lifeAt
  enabledAt :=
    if s.system.monitor.watchdogEnable = 0 ∧ (systemStep s.system e).monitor.watchdogEnable ≠ 0 then
      s.system.world.dsq.jiffies
    else s.enabledAt
  reported := !signOfLife s.system.world e && (s.reported || decide (Reports s.system e))

/-- The module is loaded, which counts as a sign of life. -/
def watched (w : World) (initialJiffies : ℕ) : Watched := ⟨System.init w initialJiffies,w.dsq.jiffies,0,false⟩

/-- `jiffies` does not go back, and stays below half of its range. -/
def Onward (s : Watched) : SystemEvent → Prop
  | .others v => s.system.world.dsq.jiffies ≤ v.dsq.jiffies ∧ v.dsq.jiffies < 9223372036854775808
  | _ => True

instance (s : Watched) : (e : SystemEvent) → Decidable (Onward s e)
  | .others _ => inferInstanceAs (Decidable (_ ∧ _))
  | .schedulerTick _ | .schedule _ _ _ | .tickEntry _ _ | .shadowTick _ _ _ | .irqWork _ _ | .monitor _ => isTrue trivial

/-- `jiffies` does not get more than `late` past the expiry of the work before it is run. -/
def Prompt (late : ℕ) (s : Watched) : SystemEvent → Prop
  | .others v => ∀ expiry ∈ s.system.monitor.watchdogWork, v.dsq.jiffies ≤ expiry + late
  | _ => True

instance (late : ℕ) (s : Watched) : (e : SystemEvent) → Decidable (Prompt late s e)
  | .others v => inferInstanceAs (Decidable (∀ expiry ∈ s.system.monitor.watchdogWork, v.dsq.jiffies ≤ expiry + late))
  | .schedulerTick _ | .schedule _ _ _ | .tickEntry _ _ | .shadowTick _ _ _ | .irqWork _ _ | .monitor _ => isTrue trivial

section
variable {w : World} {m : LseMonitor}

theorem touch_not_mem_updateCalls (w : World) (t cpu : ℕ) (event : TaskEvent) (wallclock : ℕ) :
    MonitorCall.touch ∉ updateCalls w t cpu event wallclock := by
  unfold updateCalls
  cases w.lts t with
  | none => exact List.not_mem_nil
  | some lts =>
    simp only []
    split_ifs <;> simp

/-- The hooks touch the monitor exactly in the events that are signs of life. -/
theorem touch_mem_hookCalls (w : World) {e : SystemEvent} (hooked : ∀ m, e ≠ .monitor m) :
    MonitorCall.touch ∈ hookCalls w e ↔ signOfLife w e = true := by
  cases e with
  | schedulerTick clock =>
    by_cases off : w.track.slimWaltCtrl = 0
    · simp [hookCalls,schedulerTickCalls,signOfLife,off]
    · simp [hookCalls,schedulerTickCalls,signOfLife,off]
  | schedule cpu next clock =>
    have never : MonitorCall.touch ∉ scheduleCalls w cpu (w.rq cpu).curr next clock := by
      unfold scheduleCalls
      split_ifs
      · exact List.not_mem_nil
      · rw [List.mem_append,not_or]
        exact ⟨touch_not_mem_updateCalls _ _ _ _ _,touch_not_mem_updateCalls _ _ _ _ _⟩
      · exact touch_not_mem_updateCalls _ _ _ _ _
    exact iff_of_false never Bool.false_ne_true
  | tickEntry cpu clock =>
    by_cases off : w.track.slimWaltCtrl = 0
    · simp [hookCalls,tickEntryCalls,signOfLife,off]
    · simp [hookCalls,tickEntryCalls,signOfLife,off]
  | shadowTick timer cpu clock =>
    have never := touch_not_mem_updateCalls w (w.rq cpu).curr cpu .taskUpdate (lseSchedClock w clock)
    simp only [hookCalls,shadowTickCalls,signOfLife]
    by_cases off : lseShadowTickEnabled w = false ∨ w.track.slimWaltCtrl = 0
    · rw [if_pos off]
      rcases off with off | off
      · simp [off]
      · simp [off]
    · rw [if_neg off]
      obtain ⟨ticking,tracking⟩ := not_or.mp off
      cases tracks : shadowTracks w cpu with
      | true => simp [never]
      | false => simp [tracking,Bool.not_eq_false _ ▸ ticking]
  | irqWork cpu clock => exact iff_of_false (touch_not_mem_updateCalls _ _ _ _ _) Bool.false_ne_true
  | monitor m => exact absurd rfl (hooked m)
  | others v => exact iff_of_false List.not_mem_nil Bool.false_ne_true

theorem monitorCalls_timestamp (w : World) (calls : List MonitorCall) (m : LseMonitor) :
    (monitorCalls w m calls).watchdogTimestamp = if MonitorCall.touch ∈ calls then w.dsq.jiffies else m.watchdogTimestamp := by
  refine monitorCalls_touched LseMonitor.watchdogTimestamp ?_ ?_ calls m
  · intro m
    unfold lseMonitorTouch
    simp only []
    split_ifs <;> rfl
  · intro m c other
    cases c with
    | touch => exact absurd rfl other
    | recordUpdate => rfl
    | recordRollover => rfl

/-- What an event of the monitor does to the time of the last sign of life and to the timeout. -/
theorem monitorStep_life (inited : m.inited = true) (e : MonitorEvent) :
    (monitorStep w m e).watchdogTimestamp =
        (if signOfLife w (.monitor e) then w.dsq.jiffies else m.watchdogTimestamp) ∧
      (monitorStep w m e).watchdogTimeout = m.watchdogTimeout := by
  cases e with
  | heartbeatTimer =>
    rw [monitorStep]
    by_cases due : expired w m.heartbeatTimer = true
    · obtain ⟨_,_,_,ran,_⟩ := heartbeatTimerFn_frame w m
      rw [if_pos due,ran]
      exact ⟨rfl,rfl⟩
    · rw [if_neg due]
      exact ⟨rfl,rfl⟩
  | watchdogWork =>
    rw [monitorStep]
    by_cases due : expired w m.watchdogWork = true
    · obtain ⟨_,_,ran⟩ := watchdogWorkfn_frame w m
      rw [if_pos due,ran]
      exact ⟨rfl,rfl⟩
    · rw [if_neg due]
      exact ⟨rfl,rfl⟩
  | heartbeatEnable val =>
    rw [monitorStep]
    rcases toggle_cases val (show (storeHeartbeatEnable val m).inited = true from inited) with ⟨_,same⟩ | ⟨_,stored⟩
    · rw [same]
      exact ⟨rfl,rfl⟩
    · rw [stored]
      exact ⟨rfl,rfl⟩
  | watchdogEnable val =>
    rw [monitorStep]
    rcases toggle_cases val (show (storeWatchdogEnable val m).inited = true from inited) with ⟨_,same⟩ | ⟨_,stored⟩
    · rw [same]
      exact ⟨rfl,rfl⟩
    · rw [stored]
      exact ⟨rfl,rfl⟩
  | heartbeat val => exact ⟨rfl,rfl⟩
  | resetStats count =>
    by_cases empty : count = 0
    · simp [monitorStep,lseProcStatsResetWrite,signOfLife,empty]
    · simp [monitorStep,lseProcStatsResetWrite,signOfLife,empty,lseMonitorResetStats]

end

theorem systemStep_life {s : System} (inited : s.monitor.inited = true) (e : SystemEvent) :
    (systemStep s e).monitor.watchdogTimestamp =
        (if signOfLife s.world e then s.world.dsq.jiffies else s.monitor.watchdogTimestamp) ∧
      (systemStep s e).monitor.watchdogTimeout = s.monitor.watchdogTimeout := by
  by_cases outside : ∃ m, e = .monitor m
  · obtain ⟨m,rfl⟩ := outside
    exact monitorStep_life inited m
  · have hooked : ∀ m, e ≠ .monitor m := fun m same => outside ⟨m,same⟩
    obtain ⟨_,_,_,_,_,timeout,_⟩ := monitorCalls_timers s.world (hookCalls s.world e) s.monitor
    rw [systemStep_hooked s hooked]
    refine ⟨?_,timeout⟩
    rw [monitorCalls_timestamp]
    simp only [touch_mem_hookCalls s.world hooked]

/-- The watchdog reports in this step: its work is due, it is on, and the last sign of
    life is older than the timeout. -/
def Barks (w : World) (m : LseMonitor) (e : MonitorEvent) : Prop :=
  e = .watchdogWork ∧ expired w m.watchdogWork = true ∧ m.watchdogEnable ≠ 0 ∧ watchdogLate w m = true

theorem timeouts_congr {m n : LseMonitor} (same : n.dumps = m.dumps) : timeouts n = timeouts m := by
  rw [timeouts,timeouts,same]

theorem monitorStep_quiet {w : World} {m : LseMonitor} (inited : m.inited = true) {e : MonitorEvent}
    (quiet : ¬ Barks w m e) : timeouts (monitorStep w m e) = timeouts m := by
  cases e with
  | heartbeatTimer =>
    rw [monitorStep]
    by_cases due : expired w m.heartbeatTimer = true
    · obtain ⟨_,_,dumps,ran,kept | ⟨dump,stalled,reported⟩⟩ := heartbeatTimerFn_frame w m
      · rw [if_pos due,ran]
        exact timeouts_congr kept
      · rw [if_pos due,ran]
        simp [timeouts,reported,stalled]
    · rw [if_neg due]
  | watchdogWork =>
    rw [monitorStep]
    by_cases due : expired w m.watchdogWork = true
    · rw [if_pos due]
      by_cases off : m.watchdogEnable = 0
      · rw [watchdogWorkfn_off off]
        rfl
      · have alive : watchdogLate w m = false := by
          rw [← Bool.not_eq_true]
          exact fun late => quiet ⟨rfl,due,off,late⟩
        rw [watchdogWorkfn_alive off alive]
        rfl
    · rw [if_neg due]
  | heartbeatEnable val =>
    rw [monitorStep]
    rcases toggle_cases val (show (storeHeartbeatEnable val m).inited = true from inited) with ⟨_,same⟩ | ⟨_,stored⟩
    · rw [same]
    · rw [stored]
      rfl
  | watchdogEnable val =>
    rw [monitorStep]
    rcases toggle_cases val (show (storeWatchdogEnable val m).inited = true from inited) with ⟨_,same⟩ | ⟨_,stored⟩
    · rw [same]
    · rw [stored]
      rfl
  | heartbeat val => rfl
  | resetStats count =>
    rw [monitorStep,lseProcStatsResetWrite]
    split_ifs <;> rfl

/-- A report carries the time since the last sign of life. -/
theorem monitorStep_barks {w : World} {m : LseMonitor} {e : MonitorEvent} (barks : Barks w m e) :
    monitorStep w m e =
      { lseMonitorDumpState w m .watchdogTimeout with watchdogWork := some (nextWatchdog w m) } := by
  obtain ⟨rfl,due,on,late⟩ := barks
  rw [monitorStep,if_pos due,watchdogWorkfn_late on late]

theorem reports_iff {s : System} (inited : s.monitor.inited = true) (e : SystemEvent) :
    Reports s e ↔ ∃ m, e = .monitor m ∧ Barks s.world s.monitor m := by
  by_cases outside : ∃ m, e = .monitor m
  · obtain ⟨m,rfl⟩ := outside
    constructor
    · intro reports
      refine ⟨m,rfl,?_⟩
      by_contra quiet
      have same := monitorStep_quiet inited quiet
      exact absurd reports (by rw [Reports,systemStep,same]; exact lt_irrefl _)
    · rintro ⟨n,same,barks⟩
      cases same
      have one : timeouts (monitorStep s.world s.monitor m) = timeouts s.monitor + 1 := by
        rw [monitorStep_barks barks]
        simp [timeouts,lseMonitorDumpState]
      rw [Reports,systemStep,one]
      exact Nat.lt_succ_self _
  · have hooked : ∀ m, e ≠ .monitor m := fun m same => outside ⟨m,same⟩
    obtain ⟨_,_,_,_,_,_,dumps⟩ := monitorCalls_timers s.world (hookCalls s.world e) s.monitor
    refine iff_of_false ?_ ?_
    · rw [Reports,systemStep_hooked s hooked,timeouts_congr dumps]
      exact lt_irrefl _
    · rintro ⟨m,same,_⟩
      exact hooked m same

def Watched.now (s : Watched) : ℕ := s.system.world.dsq.jiffies

/-- The monitor's time of the last sign of life is the right one, and no arithmetic wraps. -/
structure Alive (timeout : ℕ) (s : Watched) : Prop where
  armed : Armed s.system.monitor
  timeout : s.system.monitor.watchdogTimeout = timeout
  small : s.now < 9223372036854775808
  life : s.system.monitor.watchdogTimestamp = s.lifeAt
  past : s.lifeAt ≤ s.now

section
variable {s : Watched} {timeout late : ℕ} {e : SystemEvent}

theorem now_step (s : Watched) {e : SystemEvent} (inside : ∀ v, e ≠ .others v) : (watchStep s e).now = s.now := by
  rw [Watched.now,watchStep,systemStep_world]
  exact (hook_clock s.system.world inside).jiffies

theorem now_le (onward : Onward s e) (small : s.now < 9223372036854775808) :
    s.now ≤ (watchStep s e).now ∧ (watchStep s e).now < 9223372036854775808 := by
  by_cases outside : ∃ v, e = .others v
  · obtain ⟨v,rfl⟩ := outside
    exact onward
  · rw [now_step s (fun v same => outside ⟨v,same⟩)]
    exact ⟨le_rfl,small⟩

theorem alive_step (alive : Alive timeout s) (onward : Onward s e) : Alive timeout (watchStep s e) := by
  obtain ⟨life,kept⟩ := systemStep_life alive.armed.inited e
  obtain ⟨later,small⟩ := now_le onward alive.small
  refine ⟨systemStep_armed alive.armed e,kept.trans alive.timeout,small,?_,?_⟩
  · rw [watchStep,life,alive.life]
  · show (if signOfLife s.system.world e then s.now else s.lifeAt) ≤ _
    split_ifs
    · exact later
    · exact alive.past.trans later

theorem watched_alive {w : World} (small : w.dsq.jiffies < 9223372036854775808) (initialJiffies : ℕ) :
    Alive (w.msecsToJiffies lseWatchdogTimeoutMs) (watched w initialJiffies) :=
  ⟨init_armed w initialJiffies,rfl,small,rfl,le_rfl⟩

/-- The comparison that the watchdog makes is that of the true times. -/
theorem late_iff (alive : Alive timeout s) (short : timeout < 9223372036854775808) :
    watchdogLate s.system.world s.system.monitor = true ↔ s.lifeAt + timeout < s.now := by
  rw [watchdogLate,alive.life,alive.timeout]
  exact timeAfter_deadline alive.past alive.small short

end

/-- In every run, whenever the watchdog work is run while the watchdog is on, it reports
    a timeout exactly when the last sign of life is older than the timeout; nothing else
    reports one, and the report names that time. -/
theorem timeouts_reported_iff (w : World) (initialJiffies : ℕ) {events : List SystemEvent}
    (small : w.dsq.jiffies < 9223372036854775808) (short : w.msecsToJiffies lseWatchdogTimeoutMs < 9223372036854775808)
    (onward : Along watchStep Onward (watched w initialJiffies) events) :
    Along watchStep (fun s e =>
      (Reports s.system e ↔ e = .monitor .watchdogWork ∧ expired s.system.world s.system.monitor.watchdogWork = true ∧
        s.system.monitor.watchdogEnable ≠ 0 ∧ s.lifeAt + w.msecsToJiffies lseWatchdogTimeoutMs < s.now) ∧
      (Reports s.system e → ((systemStep s.system e).monitor.dumps.head?.map Dump.wdAge) = some (s.now - s.lifeAt)))
      (watched w initialJiffies) events := by
  apply along_invariant (Alive (w.msecsToJiffies lseWatchdogTimeoutMs)) (fun s e => alive_step) ?_
    (watched_alive small initialJiffies) onward
  intro s e alive _
  have barks_iff := reports_iff alive.armed.inited e
  have late := late_iff alive short
  constructor
  · rw [barks_iff]
    constructor
    · rintro ⟨m,rfl,rfl,due,on,barked⟩
      exact ⟨rfl,due,on,late.mp barked⟩
    · rintro ⟨rfl,due,on,silent⟩
      exact ⟨_,rfl,rfl,due,on,late.mpr silent⟩
  · rw [barks_iff]
    rintro ⟨m,rfl,barks⟩
    have age : u64Sub s.system.world.dsq.jiffies s.system.monitor.watchdogTimestamp = s.now - s.lifeAt := by
      have small' := alive.small
      rw [alive.life]
      exact u64Sub_of_le alive.past (show s.now < 18446744073709551616 by omega)
    rw [systemStep,monitorStep_barks barks]
    exact congrArg some age

/-- The machine of `World.boot` at a time of `jiffies`. -/
def bootAt (jiffies : ℕ) : World :=
  { World.boot 1 (fun _ => plainTask) with
    dsq := { (World.boot 1 (fun _ => plainTask)).dsq with jiffies := jiffies } }

/-- A run without ticks: the first run of the work finds the silence too short, the second one reports it. -/
def silentRun : List SystemEvent :=
  [.monitor (.watchdogEnable 1),.others (bootAt 3750),.monitor .watchdogWork,.others (bootAt 7501),.monitor .watchdogWork]

theorem timeouts_reported_iff_silent :
    Along watchStep (fun s e =>
      (Reports s.system e ↔ e = .monitor .watchdogWork ∧ expired s.system.world s.system.monitor.watchdogWork = true ∧
        s.system.monitor.watchdogEnable ≠ 0 ∧ s.lifeAt + 7500 < s.now) ∧
      (Reports s.system e → ((systemStep s.system e).monitor.dumps.head?.map Dump.wdAge) = some (s.now - s.lifeAt)))
      (watched (bootAt 0) 0) silentRun ∧ timeouts (exec watchStep (watched (bootAt 0) 0) silentRun).system.monitor = 1 :=
  ⟨timeouts_reported_iff (bootAt 0) 0 (by decide) (by decide) (by decide +kernel),by decide +kernel⟩

/-! ### Silences are reported in time -/

/-- The delay with which the work queues itself. -/
def period (timeout : ℕ) : ℕ := max 1 (timeout / 2)

/-- A pending work is overdue by `late` at most, and comes soon enough for the silence
    since the last sign of life, unless that was reported already. -/
structure Due (timeout late : ℕ) (s : Watched) : Prop where
  enabled : s.enabledAt ≤ s.now
  prompt : ∀ expiry ∈ s.system.monitor.watchdogWork, s.now ≤ expiry + late
  close : ∀ expiry ∈ s.system.monitor.watchdogWork, expiry ≤ s.now + period timeout
  timely : ∀ expiry ∈ s.system.monitor.watchdogWork,
    s.reported = true ∨ expiry ≤ max (s.lifeAt + timeout) s.enabledAt + period timeout

section
variable {s : Watched} {timeout late : ℕ} {e : SystemEvent}

theorem onward_monitor (s : Watched) (m : MonitorEvent) : Onward s (.monitor m) := trivial

theorem enabledAt_step (s : Watched) (e : SystemEvent) :
    (watchStep s e).enabledAt = s.enabledAt ∨ (watchStep s e).enabledAt = s.now := by
  by_cases newly : s.system.monitor.watchdogEnable = 0 ∧ (systemStep s.system e).monitor.watchdogEnable ≠ 0
  · exact Or.inr (if_pos newly)
  · exact Or.inl (if_neg newly)

/-- After a step without a sign of life both the time of the last one and an earlier report stay. -/
theorem silent_step (silent : signOfLife s.system.world e = false) :
    (watchStep s e).lifeAt = s.lifeAt ∧
      ((watchStep s e).reported = true ↔ s.reported = true ∨ Reports s.system e) := by
  simp [watchStep,silent]

/-- A step that leaves the work alone and lets no more time pass than is admitted. -/
theorem due_kept (due : Due timeout late s) (alive : Alive timeout s) (onward : Onward s e)
    (same : (systemStep s.system e).monitor.watchdogWork = s.system.monitor.watchdogWork)
    (prompt : ∀ expiry ∈ s.system.monitor.watchdogWork, (watchStep s e).now ≤ expiry + late) :
    Due timeout late (watchStep s e) := by
  have later := (now_le onward alive.small).1
  have enabled := due.enabled
  have moved := enabledAt_step s e
  have work : (watchStep s e).system.monitor.watchdogWork = s.system.monitor.watchdogWork := same
  refine ⟨by omega,?_,?_,?_⟩
  · intro expiry pending
    exact prompt expiry (work ▸ pending)
  · intro expiry pending
    have close := due.close expiry (work ▸ pending)
    omega
  · intro expiry pending
    have close := due.close expiry (work ▸ pending)
    cases life : signOfLife s.system.world e with
    | true =>
      have now : (watchStep s e).lifeAt = s.now := by
        rw [watchStep,life]
        rfl
      have past := alive.past
      exact Or.inr (by omega)
    | false =>
      obtain ⟨kept,reported⟩ := silent_step life
      rcases due.timely expiry (work ▸ pending) with before | soon
      · exact Or.inl (reported.mpr (Or.inl before))
      · exact Or.inr (by omega)

/-- A step in which no time passes and that leaves no work pending, or a new one. -/
theorem due_renewed (due : Due timeout late s) (now : (watchStep s e).now = s.now)
    (renewed : ∀ expiry ∈ (systemStep s.system e).monitor.watchdogWork, expiry = s.now + period timeout ∧
      ((watchStep s e).reported = true ∨ s.now ≤ max ((watchStep s e).lifeAt + timeout) (watchStep s e).enabledAt)) :
    Due timeout late (watchStep s e) := by
  have enabled := due.enabled
  have moved := enabledAt_step s e
  refine ⟨by omega,?_,?_,?_⟩
  · intro expiry pending
    have new := (renewed expiry pending).1
    omega
  · intro expiry pending
    have new := (renewed expiry pending).1
    omega
  · intro expiry pending
    obtain ⟨new,timely⟩ := renewed expiry pending
    exact timely.imp_right (fun soon => by omega)

theorem nextWatchdog_eq (alive : Alive timeout s) (short : timeout < 9223372036854775808) :
    nextWatchdog s.system.world s.system.monitor = s.now + period timeout := by
  have small := alive.small
  rw [nextWatchdog,alive.timeout]
  exact u64_of_lt (show s.now + max 1 (timeout / 2) < 18446744073709551616 by omega)

/-- The work queues itself anew, and has reported a silence that was too long. -/
theorem due_work (due : Due timeout late s) (alive : Alive timeout s) (short : timeout < 9223372036854775808) :
    Due timeout late (watchStep s (.monitor .watchdogWork)) := by
  have now := now_step s (show ∀ v, SystemEvent.monitor .watchdogWork ≠ .others v from fun _ => SystemEvent.noConfusion)
  obtain ⟨kept,reported⟩ := silent_step (show signOfLife s.system.world (.monitor .watchdogWork) = false from rfl)
  by_cases ready : expired s.system.world s.system.monitor.watchdogWork = true
  · by_cases off : s.system.monitor.watchdogEnable = 0
    · apply due_renewed due now
      intro expiry pending
      simp [systemStep,monitorStep,ready,watchdogWorkfn_off off] at pending
    · cases silence : watchdogLate s.system.world s.system.monitor with
      | true =>
        have barks : Barks s.system.world s.system.monitor .watchdogWork := ⟨rfl,ready,off,silence⟩
        apply due_renewed due now
        intro expiry pending
        rw [systemStep,monitorStep_barks barks] at pending
        have new := Option.some.inj pending
        refine ⟨new.symm.trans (nextWatchdog_eq alive short),Or.inl (reported.mpr (Or.inr ?_))⟩
        exact (reports_iff alive.armed.inited _).mpr ⟨_,rfl,barks⟩
      | false =>
        have recent : ¬ s.lifeAt + timeout < s.now := by
          rw [← late_iff alive short,silence]
          exact Bool.false_ne_true
        apply due_renewed due now
        intro expiry pending
        rw [systemStep,monitorStep,if_pos ready,watchdogWorkfn_alive off silence] at pending
        have new := Option.some.inj pending
        exact ⟨new.symm.trans (nextWatchdog_eq alive short),Or.inr (by omega)⟩
  · apply due_kept due alive (onward_monitor s _)
    · rw [systemStep,monitorStep,if_neg ready]
    · exact fun expiry pending => now ▸ due.prompt expiry pending

/-- Switching the heartbeat leaves the pending work alone. -/
theorem due_heartbeatEnable (due : Due timeout late s) (alive : Alive timeout s) (val : ℤ) :
    Due timeout late (watchStep s (.monitor (.heartbeatEnable val))) := by
  have now := now_step s (show ∀ v, SystemEvent.monitor (.heartbeatEnable val) ≠ .others v from fun _ => SystemEvent.noConfusion)
  apply due_kept due alive (onward_monitor s _)
  · rw [systemStep,monitorStep]
    rcases toggle_cases val (show (storeHeartbeatEnable val s.system.monitor).inited = true from alive.armed.inited)
      with ⟨_,same⟩ | ⟨_,stored⟩
    · rw [same]
    · have armed := alive.armed.watchdog
      rw [stored]
      cases work : s.system.monitor.watchdogWork with
      | none =>
        have off : s.system.monitor.watchdogEnable = 0 := by simpa [work] using armed
        simp [storeHeartbeatEnable,off]
      | some expiry =>
        have on : s.system.monitor.watchdogEnable ≠ 0 := armed.mp (by rw [work]; rfl)
        simp [storeHeartbeatEnable,on,work]
  · exact fun expiry pending => now ▸ due.prompt expiry pending

/-- Switching the watchdog on queues the work, and switching it off cancels it. -/
theorem due_watchdogEnable (due : Due timeout late s) (alive : Alive timeout s) (short : timeout < 9223372036854775808)
    (val : ℤ) : Due timeout late (watchStep s (.monitor (.watchdogEnable val))) := by
  have now := now_step s (show ∀ v, SystemEvent.monitor (.watchdogEnable val) ≠ .others v from fun _ => SystemEvent.noConfusion)
  have armed := alive.armed.watchdog
  rcases toggle_cases (w := s.system.world) val
    (show (storeWatchdogEnable val s.system.monitor).inited = true from alive.armed.inited) with ⟨_,same⟩ | ⟨_,stored⟩
  · apply due_kept due alive (onward_monitor s _)
    · rw [systemStep,monitorStep,same]
    · exact fun expiry pending => now ▸ due.prompt expiry pending
  · by_cases off : val = 0
    · apply due_renewed due now
      intro expiry pending
      rw [systemStep,monitorStep,stored] at pending
      simp [storeWatchdogEnable,off] at pending
    · cases work : s.system.monitor.watchdogWork with
      | none =>
        have before : s.system.monitor.watchdogEnable = 0 := by simpa [work] using armed
        have after : (systemStep s.system (.monitor (.watchdogEnable val))).monitor.watchdogEnable ≠ 0 := by
          rw [systemStep,monitorStep,stored]
          exact off
        have enabled : (watchStep s (.monitor (.watchdogEnable val))).enabledAt = s.now := by
          rw [watchStep]
          exact if_pos ⟨before,after⟩
        apply due_renewed due now
        intro expiry pending
        rw [systemStep,monitorStep,stored] at pending
        simp only [storeWatchdogEnable,ne_eq,off,not_false_eq_true,if_true,work,Option.getD_none] at pending
        have new := Option.some.inj pending
        exact ⟨new.symm.trans (nextWatchdog_eq alive short),Or.inr (by omega)⟩
      | some expiry =>
        apply due_kept due alive (onward_monitor s _)
        · rw [systemStep,monitorStep,stored]
          simp [storeWatchdogEnable,off,work]
        · exact fun expiry pending => now ▸ due.prompt expiry pending

theorem due_step (due : Due timeout late s) (alive : Alive timeout s) (short : timeout < 9223372036854775808)
    (onward : Onward s e) (prompt : Prompt late s e) : Due timeout late (watchStep s e) := by
  have still : (∀ v, e ≠ .others v) →
      ∀ expiry ∈ s.system.monitor.watchdogWork, (watchStep s e).now ≤ expiry + late := by
    intro inside expiry pending
    rw [now_step s inside]
    exact due.prompt expiry pending
  have hooked : (∀ m, e ≠ .monitor m) → (systemStep s.system e).monitor.watchdogWork = s.system.monitor.watchdogWork := by
    intro outside
    rw [systemStep_hooked s.system outside]
    exact (monitorCalls_timers _ _ _).2.2.2.2.1
  have inner : (∀ m, e ≠ .monitor m) → (∀ v, e ≠ .others v) → Due timeout late (watchStep s e) :=
    fun outside inside => due_kept due alive onward (hooked outside) (still inside)
  cases e with
  | schedulerTick clock => exact inner (fun _ => SystemEvent.noConfusion) (fun _ => SystemEvent.noConfusion)
  | schedule cpu next clock => exact inner (fun _ => SystemEvent.noConfusion) (fun _ => SystemEvent.noConfusion)
  | tickEntry cpu clock => exact inner (fun _ => SystemEvent.noConfusion) (fun _ => SystemEvent.noConfusion)
  | shadowTick timer cpu clock => exact inner (fun _ => SystemEvent.noConfusion) (fun _ => SystemEvent.noConfusion)
  | irqWork cpu clock => exact inner (fun _ => SystemEvent.noConfusion) (fun _ => SystemEvent.noConfusion)
  | others v => exact due_kept due alive onward (hooked (fun _ => SystemEvent.noConfusion)) prompt
  | monitor m =>
    have inside : ∀ v, SystemEvent.monitor m ≠ .others v := fun _ => SystemEvent.noConfusion
    cases m with
    | watchdogWork => exact due_work due alive short
    | heartbeatEnable val => exact due_heartbeatEnable due alive val
    | watchdogEnable val => exact due_watchdogEnable due alive short val
    | heartbeat val => exact due_kept due alive onward rfl (still inside)
    | resetStats count =>
      refine due_kept due alive onward ?_ (still inside)
      rw [systemStep,monitorStep,lseProcStatsResetWrite]
      split_ifs <;> rfl
    | heartbeatTimer =>
      refine due_kept due alive onward ?_ (still inside)
      rw [systemStep,monitorStep]
      split_ifs
      · obtain ⟨_,_,_,ran,_⟩ := heartbeatTimerFn_frame s.system.world s.system.monitor
        rw [ran]
      · rfl

end

/-- When the kernel runs the watchdog work at most `late` ticks after its delay is over, then
    in every state of every run with the watchdog on a silence has been reported once it
    lasts for the timeout, half of it and `late`, counted from the last sign of life or from
    the time the watchdog was switched on. -/
theorem silence_reported (w : World) (initialJiffies late : ℕ) {events : List SystemEvent}
    (small : w.dsq.jiffies < 9223372036854775808) (short : w.msecsToJiffies lseWatchdogTimeoutMs < 9223372036854775808)
    (admitted : Along watchStep (fun s e => Onward s e ∧ Prompt late s e) (watched w initialJiffies) events) :
    let s := exec watchStep (watched w initialJiffies) events
    s.system.monitor.watchdogEnable ≠ 0 →
      max (s.lifeAt + w.msecsToJiffies lseWatchdogTimeoutMs) s.enabledAt +
        period (w.msecsToJiffies lseWatchdogTimeoutMs) + late < s.now → s.reported = true := by
  intro s on silent
  have kept : Alive (w.msecsToJiffies lseWatchdogTimeoutMs) s ∧ Due (w.msecsToJiffies lseWatchdogTimeoutMs) late s := by
    refine exec_invariant (fun s => Alive (w.msecsToJiffies lseWatchdogTimeoutMs) s ∧
      Due (w.msecsToJiffies lseWatchdogTimeoutMs) late s) ?_ ⟨watched_alive small initialJiffies,?_⟩ admitted
    · exact fun s e held ok => ⟨alive_step held.1 ok.1,due_step held.2 held.1 short ok.1 ok.2⟩
    · have none : (watched w initialJiffies).system.monitor.watchdogWork = Option.none := rfl
      refine ⟨Nat.zero_le _,?_,?_,?_⟩ <;> simp [none]
  obtain ⟨alive,due⟩ := kept
  obtain ⟨expiry,pending⟩ := Option.isSome_iff_exists.mp (alive.armed.watchdog.mpr on)
  have prompt := due.prompt expiry pending
  rcases due.timely expiry pending with reported | soon
  · exact reported
  · omega

/-- The silence of `silentRun` has been reported well before it lasts for half as long again. -/
theorem silence_reported_silent :
    (exec watchStep (watched (bootAt 0) 0) (silentRun ++ [.others (bootAt 11255)])).reported = true :=
  silence_reported (bootAt 0) 0 4 (by decide) (by decide) (by decide +kernel) (by decide +kernel) (by decide +kernel)

end LunarSched.Watchdog
