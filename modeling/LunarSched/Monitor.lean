import LunarSched.Dsq

/-!
The monitor (`lse_monitor.c`): the signs of life that the hooks leave, the counters
of the statistics, the heartbeat timer and the watchdog work with what they report,
and the handler through which both are switched (`lse_proc_monitor_toggle_update`).
A pending timer or work is the value of `jiffies` at which it expires. The clock
`jiffies` and the switch `slim_stats` are those of the dispatch queues.
-/
namespace LunarSched.Monitor
open LunarSched.Machine LunarSched.Kernel LunarSched.Dsq

def lseHeartbeatPeriodMs : ℕ := 1000
def lseWatchdogTimeoutMs : ℕ := 30000

inductive DumpReason where
  | heartbeatStalled
  | watchdogTimeout
deriving DecidableEq

def DumpReason.text : DumpReason → String
  | .heartbeatStalled => "heartbeat stalled"
  | .watchdogTimeout => "watchdog timeout"

/-- What one line of `lse_monitor_dump_state` says. -/
structure Dump where
  reason : DumpReason
  walt : ℤ
  stats : ℤ
  hb : ℤ
  hbEn : ℤ
  wdEn : ℤ
  shadow : ℕ
  updates : ℤ
  rollover : ℤ
  ticks : ℤ
  hbAge : ℕ
  wdAge : ℕ
deriving DecidableEq

/-- The file-scope variables of the monitor. The counters are 64-bit words; `dumps` are
    the lines that were reported, newest first. -/
structure LseMonitor where
  heartbeat : ℤ
  heartbeatEnable : ℤ
  watchdogEnable : ℤ
  watchdogTimeout : ℕ
  watchdogTimestamp : ℕ
  heartbeatLastTouch : ℕ
  inited : Bool
  heartbeatTimer : Option ℕ
  watchdogWork : Option ℕ
  updateCnt : ℕ
  rolloverCnt : ℕ
  tickCnt : ℕ
  dumps : List Dump

/-- The variables as they are before the module is loaded. -/
def LseMonitor.boot (initialJiffies : ℕ) : LseMonitor where
  heartbeat := 0
  heartbeatEnable := 0
  watchdogEnable := 0
  watchdogTimeout := 0
  watchdogTimestamp := initialJiffies
  heartbeatLastTouch := 0
  inited := false
  heartbeatTimer := none
  watchdogWork := none
  updateCnt := 0
  rolloverCnt := 0
  tickCnt := 0
  dumps := []

/-- `lse_stats_inc`. -/
def lseStatsInc (w : World) (cnt : ℕ) : ℕ := if w.dsq.slimStats ≠ 0 then u64 (cnt + 1) else cnt

def lseStatsRecordUpdate (w : World) (m : LseMonitor) : LseMonitor := { m with updateCnt := lseStatsInc w m.updateCnt }
def lseStatsRecordRollover (w : World) (m : LseMonitor) : LseMonitor := { m with rolloverCnt := lseStatsInc w m.rolloverCnt }
def lseStatsRecordTick (w : World) (m : LseMonitor) : LseMonitor := { m with tickCnt := lseStatsInc w m.tickCnt }

def lseMonitorResetStats (w : World) (m : LseMonitor) : LseMonitor :=
  { m with
    updateCnt := 0
    rolloverCnt := 0
    tickCnt := 0
    heartbeat := 0
    heartbeatLastTouch := w.dsq.jiffies
    watchdogTimestamp := w.dsq.jiffies }

/-- `lse_proc_stats_reset_write` of `count` bytes. -/
def lseProcStatsResetWrite (w : World) (m : LseMonitor) (count : ℕ) : LseMonitor :=
  if count ≠ 0 then lseMonitorResetStats w m else m

def lseMonitorDumpState (w : World) (m : LseMonitor) (reason : DumpReason) : LseMonitor :=
  { m with dumps :=
      { reason := reason, walt := w.track.slimWaltCtrl, stats := w.dsq.slimStats, hb := m.heartbeat
        hbEn := m.heartbeatEnable, wdEn := m.watchdogEnable, shadow := w.shadow.highresTickCtrl
        updates := s64 m.updateCnt, rollover := s64 m.rolloverCnt, ticks := s64 m.tickCnt
        hbAge := u64Sub w.dsq.jiffies m.heartbeatLastTouch
        wdAge := u64Sub w.dsq.jiffies m.watchdogTimestamp } :: m.dumps }

def lseMonitorTouch (w : World) (m : LseMonitor) : LseMonitor :=
  let m := { m with heartbeat := 1, watchdogTimestamp := w.dsq.jiffies }
  if w.dsq.jiffies ≠ m.heartbeatLastTouch then
    { lseStatsRecordTick w m with heartbeatLastTouch := w.dsq.jiffies }
  else m

/-- `jiffies + msecs_to_jiffies(LSE_HEARTBEAT_PERIOD_MS)`. -/
def nextHeartbeat (w : World) : ℕ := u64 (w.dsq.jiffies + w.msecsToJiffies lseHeartbeatPeriodMs)
/-- The expiry of a delayed work that is queued now with a delay of `max(1UL, timeout / 2)`. -/
def nextWatchdog (w : World) (m : LseMonitor) : ℕ := u64 (w.dsq.jiffies + max 1 (m.watchdogTimeout / 2))

/-- `queue_delayed_work` leaves a work that is pending as it is. -/
def queueWatchdog (w : World) (m : LseMonitor) : LseMonitor :=
  { m with watchdogWork := some (m.watchdogWork.getD (nextWatchdog w m)) }

/-- `lse_heartbeat_timer_fn`, run for the timer once it has expired. -/
def lseHeartbeatTimerFn (w : World) (m : LseMonitor) : LseMonitor :=
  let m := { m with heartbeatTimer := none }
  if m.heartbeatEnable = 0 then m
  else
    let m := if m.heartbeat ≠ 0 then { m with heartbeat := 0 } else lseMonitorDumpState w m .heartbeatStalled
    { m with heartbeatTimer := some (nextHeartbeat w) }

/-- `lse_watchdog_workfn`, run for the work once its delay is over. -/
def lseWatchdogWorkfn (w : World) (m : LseMonitor) : LseMonitor :=
  let m := { m with watchdogWork := none }
  if m.watchdogEnable = 0 then m
  else
    let late := timeAfter w.dsq.jiffies (u64 (m.watchdogTimestamp + m.watchdogTimeout))
    queueWatchdog w (if late then lseMonitorDumpState w m .watchdogTimeout else m)

/-- `lse_monitor_sync`: `mod_timer` moves the timer, pending or not. -/
def lseMonitorSync (w : World) (m : LseMonitor) : LseMonitor :=
  if m.inited = false then m
  else
    let m := { m with heartbeatTimer := if m.heartbeatEnable ≠ 0 then some (nextHeartbeat w) else none }
    if m.watchdogEnable ≠ 0 then queueWatchdog w m else { m with watchdogWork := none }

def lseMonitorInit (w : World) (m : LseMonitor) : LseMonitor :=
  if m.inited = true then m
  else
    lseMonitorSync w
      { m with
        watchdogTimeout := w.msecsToJiffies lseWatchdogTimeoutMs
        heartbeatLastTouch := w.dsq.jiffies
        watchdogTimestamp := w.dsq.jiffies
        inited := true }

/-- `lse_proc_monitor_toggle_update`, a write of `val` to the switch that the table
    entry reads with `data` and stores with `store`. -/
def lseProcMonitorToggleUpdate (data : LseMonitor → ℤ) (store : ℤ → LseMonitor → LseMonitor) (w : World) (m : LseMonitor)
    (val : ℤ) : LseMonitor :=
  if val = data m then m else lseMonitorSync w (store val m)

def storeHeartbeatEnable (val : ℤ) (m : LseMonitor) : LseMonitor := { m with heartbeatEnable := val }
def storeWatchdogEnable (val : ℤ) (m : LseMonitor) : LseMonitor := { m with watchdogEnable := val }

/-- Whether the last sign of life is further back than the timeout. -/
def watchdogLate (w : World) (m : LseMonitor) : Bool :=
  timeAfter w.dsq.jiffies (u64 (m.watchdogTimestamp + m.watchdogTimeout))

theorem heartbeatTimerFn_off {w : World} {m : LseMonitor} (off : m.heartbeatEnable = 0) :
    lseHeartbeatTimerFn w m = { m with heartbeatTimer := none } := if_pos off

theorem heartbeatTimerFn_beats {w : World} {m : LseMonitor} (on : m.heartbeatEnable ≠ 0) (beats : m.heartbeat ≠ 0) :
    lseHeartbeatTimerFn w m = { m with heartbeat := 0, heartbeatTimer := some (nextHeartbeat w) } := by
  simp only [lseHeartbeatTimerFn,on,beats,if_false,ne_eq,not_false_eq_true,if_true]

theorem heartbeatTimerFn_stalled {w : World} {m : LseMonitor} (on : m.heartbeatEnable ≠ 0) (stalled : m.heartbeat = 0) :
    lseHeartbeatTimerFn w m =
      { lseMonitorDumpState w m .heartbeatStalled with heartbeatTimer := some (nextHeartbeat w) } := by
  simp only [lseHeartbeatTimerFn,on,stalled,if_false,ne_eq,not_true_eq_false,lseMonitorDumpState]

theorem watchdogWorkfn_off {w : World} {m : LseMonitor} (off : m.watchdogEnable = 0) :
    lseWatchdogWorkfn w m = { m with watchdogWork := none } := if_pos off

theorem watchdogWorkfn_late {w : World} {m : LseMonitor} (on : m.watchdogEnable ≠ 0) (late : watchdogLate w m = true) :
    lseWatchdogWorkfn w m =
      { lseMonitorDumpState w m .watchdogTimeout with watchdogWork := some (nextWatchdog w m) } := by
  unfold watchdogLate at late
  simp only [lseWatchdogWorkfn,on,late,if_false,if_true,queueWatchdog,lseMonitorDumpState,Option.getD_none,nextWatchdog]

theorem watchdogWorkfn_alive {w : World} {m : LseMonitor} (on : m.watchdogEnable ≠ 0) (alive : watchdogLate w m = false) :
    lseWatchdogWorkfn w m = { m with watchdogWork := some (nextWatchdog w m) } := by
  unfold watchdogLate at alive
  simp only [lseWatchdogWorkfn,on,alive,if_false,Bool.false_eq_true,queueWatchdog,Option.getD_none,nextWatchdog]

theorem sync_eq {w : World} {m : LseMonitor} (inited : m.inited = true) :
    lseMonitorSync w m =
      { m with
        heartbeatTimer := if m.heartbeatEnable ≠ 0 then some (nextHeartbeat w) else none
        watchdogWork := if m.watchdogEnable ≠ 0 then some (m.watchdogWork.getD (nextWatchdog w m)) else none } := by
  unfold lseMonitorSync queueWatchdog
  rw [if_neg (by simp [inited])]
  simp only []
  split_ifs <;> rfl

/-- The heartbeat timer touches the heartbeat and itself, and may report a stall. -/
theorem heartbeatTimerFn_frame (w : World) (m : LseMonitor) : ∃ heartbeat timer dumps,
    lseHeartbeatTimerFn w m = { m with heartbeat := heartbeat, heartbeatTimer := timer, dumps := dumps } ∧
      (dumps = m.dumps ∨ ∃ dump : Dump, dump.reason = .heartbeatStalled ∧ dumps = dump :: m.dumps) := by
  by_cases off : m.heartbeatEnable = 0
  · exact ⟨m.heartbeat,none,m.dumps,heartbeatTimerFn_off off,Or.inl rfl⟩
  · by_cases stalled : m.heartbeat = 0
    · exact ⟨m.heartbeat,_,_,heartbeatTimerFn_stalled off stalled,Or.inr ⟨_,rfl,rfl⟩⟩
    · exact ⟨0,_,m.dumps,heartbeatTimerFn_beats off stalled,Or.inl rfl⟩

/-- The watchdog work touches itself, and may report a timeout. -/
theorem watchdogWorkfn_frame (w : World) (m : LseMonitor) : ∃ work dumps,
    lseWatchdogWorkfn w m = { m with watchdogWork := work, dumps := dumps } := by
  by_cases off : m.watchdogEnable = 0
  · exact ⟨none,m.dumps,watchdogWorkfn_off off⟩
  · cases late : watchdogLate w m with
    | true => exact ⟨_,_,watchdogWorkfn_late off late⟩
    | false => exact ⟨_,m.dumps,watchdogWorkfn_alive off late⟩

/-- A toggle that changes its switch starts what is on and stops what is off. -/
theorem toggle_cases {w : World} {m : LseMonitor} {data : LseMonitor → ℤ} {store : ℤ → LseMonitor → LseMonitor} (val : ℤ)
    (inited : (store val m).inited = true) :
    (val = data m ∧ lseProcMonitorToggleUpdate data store w m val = m) ∨
    (val ≠ data m ∧ lseProcMonitorToggleUpdate data store w m val =
      { store val m with
        heartbeatTimer := if (store val m).heartbeatEnable ≠ 0 then some (nextHeartbeat w) else none
        watchdogWork :=
          if (store val m).watchdogEnable ≠ 0 then
            some ((store val m).watchdogWork.getD (nextWatchdog w (store val m)))
          else none }) := by
  unfold lseProcMonitorToggleUpdate
  by_cases same : val = data m
  · exact Or.inl ⟨same,if_pos same⟩
  · exact Or.inr ⟨same,(if_neg same).trans (sync_eq inited)⟩

/-- Both switches are off at first, so the initialisation arms nothing. -/
theorem monitorInit_boot (w : World) (initialJiffies : ℕ) :
    lseMonitorInit w (LseMonitor.boot initialJiffies) =
      { LseMonitor.boot initialJiffies with
        watchdogTimeout := w.msecsToJiffies lseWatchdogTimeoutMs
        heartbeatLastTouch := w.dsq.jiffies
        watchdogTimestamp := w.dsq.jiffies
        inited := true } := rfl

/-! ### What happens to the monitor -/

/-- The calls that the hooks make. -/
inductive MonitorCall where
  | touch
  | recordUpdate
  | recordRollover
deriving DecidableEq

def monitorCall (w : World) (m : LseMonitor) : MonitorCall → LseMonitor
  | .touch => lseMonitorTouch w m
  | .recordUpdate => lseStatsRecordUpdate w m
  | .recordRollover => lseStatsRecordRollover w m

/-- What the kernel does with an expired timer or work, and writes to the files. -/
inductive MonitorEvent where
  | heartbeatTimer
  | watchdogWork
  | heartbeatEnable (val : ℤ)
  | watchdogEnable (val : ℤ)
  /-- A write to `heartbeat`, which `proc_dointvec` stores. -/
  | heartbeat (val : ℤ)
  | resetStats (count : ℕ)
deriving DecidableEq

/-- A timer or work is run once it is pending and `jiffies` has reached its expiry. -/
def expired (w : World) (pending : Option ℕ) : Bool := pending.any (fun expiry => !timeBefore w.dsq.jiffies expiry)

def monitorStep (w : World) (m : LseMonitor) : MonitorEvent → LseMonitor
  | .heartbeatTimer => if expired w m.heartbeatTimer then lseHeartbeatTimerFn w m else m
  | .watchdogWork => if expired w m.watchdogWork then lseWatchdogWorkfn w m else m
  | .heartbeatEnable val => lseProcMonitorToggleUpdate LseMonitor.heartbeatEnable storeHeartbeatEnable w m val
  | .watchdogEnable val => lseProcMonitorToggleUpdate LseMonitor.watchdogEnable storeWatchdogEnable w m val
  | .heartbeat val => { m with heartbeat := val }
  | .resetStats count => lseProcStatsResetWrite w m count

/-- As long as `jiffies` and the interval stay below half of the range, `time_after` of a
    deadline is the comparison of the numbers. -/
theorem timeAfter_deadline {now last limit : ℕ} (past : last ≤ now) (small : now < 9223372036854775808)
    (short : limit < 9223372036854775808) : timeAfter now (u64 (last + limit)) = true ↔ last + limit < now := by
  have word : u64 (last + limit) = last + limit := u64_of_lt (by omega)
  rw [timeAfter,decide_eq_true_iff,word,s64,u64Sub,u64,u64]
  split_ifs with positive
  · omega
  · omega

end LunarSched.Monitor
