import LunarSched.Kernel
import LunarSched.Ring

/-!
The window-assisted load tracker (`lse_util_track.c`). Each function of the source
is a function on the records it changes; `lseUpdateTaskRavg` ties them together on
the state of the machine. The unsigned subtractions and the conversions to and from
`int` and `s64` are the source's; `advance` says what the window update amounts to
when the clock has not gone back and the gap fits an `int`.
-/
namespace LunarSched.UtilTrack
open LunarSched.Machine LunarSched.Kernel

def lseTaskClassify (g : Track) (p : TaskStruct) : LseTaskClass :=
  if p.isIdle then .idle else
  match p.policy with
  | .fifo | .rr => .rt
  | .deadline => .deadline
  | .normal =>
    if p.nice < 0 ∨ p.prio ≤ g.fgPrioThreshold then .foreground
    else if p.prio ≤ defaultPrio + 4 then .normal
    else .background

def lseTaskBoostForClass (g : Track) : LseTaskClass → ℤ
  | .rt | .deadline => max 1 g.boostRtPct
  | .foreground => max 1 g.boostFgPct
  | .normal => 1024
  | .idle | .background => max 1 g.boostBgPct

def lseRefreshTaskHint (g : Track) (lts : LseTaskStruct) (p : TaskStruct) : LseTaskStruct :=
  { lts with
    taskClass := lseTaskClassify g p
    boostPct := u16OfInt (lseTaskBoostForClass g (lseTaskClassify g p))
    priorityHint := (p.prio % 256).toNat }

def scaleExecTime (delta : ℕ) (lrq : LseRq) : ℕ := u64 (delta * lrq.taskExecScale) / 1024

/-- At full scale the time is not scaled. -/
theorem scaleExecTime_full {delta : ℕ} {lrq : LseRq} (full : lrq.taskExecScale = 1024) (small : delta < 4294967296) :
    scaleExecTime delta lrq = delta := by
  rw [scaleExecTime,full,u64_of_lt (by omega)]
  omega

/-- `add_to_task_demand`: the scaled time, and the record with it added. -/
def addToTaskDemand (g : Track) (lts : LseTaskStruct) (lrq : LseRq) (delta : ℕ) : ℕ × LseTaskStruct :=
  let delta := scaleExecTime delta lrq
  let sum := u32 (lts.sum + delta)
  (delta,{ lts with sum := if g.ravgWindow < sum then g.ravgWindow else sum })

/-- `account_busy_for_task_demand`; `SCHED_ACCOUNT_WAIT_TIME` is 0. -/
def accountBusyForTaskDemand (rq : Rq) (t : ℕ) (p : TaskStruct) (event : TaskEvent) : Bool :=
  if p.isIdle then false
  else if event = .taskWake ∨ event = .pickNextTask ∨ event = .taskMigrate then false
  else if event = .pickNextTask ∧ rq.curr = rq.idle then false
  else if event = .taskUpdate then decide (rq.curr = t)
  else true

def lseScaleTimeToUtil (g : Track) (d : ℕ) : ℕ := d / g.scaleDemandDivisor

/-- The demand that `update_history` derives from the newest sample and the history. -/
def historyDemand (g : Track) (hist : List ℕ) (runtime : ℕ) : ℕ :=
  let avg := u32 (hist.sum / ravgHistSize)
  if g.windowStatsPolicy = 0 then runtime
  else if g.windowStatsPolicy = 1 then hist.foldl max 0
  else if g.windowStatsPolicy = 3 then avg
  else max avg runtime

def updateHistory (g : Track) (p : TaskStruct) (lts : LseTaskStruct) (runtime : ℕ) (samples : ℤ) : LseTaskStruct :=
  let runtime := u32 runtime
  if runtime = 0 ∨ p.isIdle = true ∨ samples = 0 then lts
  else
    let ring := Ring.pushes runtime samples.toNat (lts.sumHistory,lts.cidx)
    let demand := historyDemand g ring.1 runtime
    { lts with
      sumHistory := ring.1
      cidx := ring.2
      sum := 0
      demand := demand
      demandScaled := u16 (lseScaleTimeToUtil g demand) }

/-- `update_task_demand`: the runtime it accounts, and the task's new record. -/
def updateTaskDemand (g : Track) (rq : Rq) (lrq : LseRq) (t : ℕ) (p : TaskStruct) (lts : LseTaskStruct)
    (event : TaskEvent) (wallclock : ℕ) : ℕ × LseTaskStruct :=
  let windowStart := lrq.windowStart
  let newWindow := lts.markStart < windowStart
  if accountBusyForTaskDemand rq t p event = false then
    (0,if newWindow then updateHistory g p lts lts.sum 1 else lts)
  else if ¬ newWindow then addToTaskDemand g lts lrq (u64Sub wallclock lts.markStart)
  else
    let nrFullWindows := s32 (u64Sub windowStart lts.markStart / g.ravgWindow)
    let fullTime := u64 (u64OfInt nrFullWindows * g.ravgWindow)
    -- The first window boundary after the mark.
    let rewound := u64Sub windowStart fullTime
    let (first,lts) := addToTaskDemand g lts lrq (u64Sub rewound lts.markStart)
    let lts := updateHistory g p lts lts.sum 1
    let scaledWindow := scaleExecTime g.ravgWindow lrq
    let full := if nrFullWindows ≠ 0 then u64 (u64OfInt nrFullWindows * scaledWindow) else 0
    let lts := if nrFullWindows ≠ 0 then updateHistory g p lts scaledWindow nrFullWindows else lts
    let restored := u64 (rewound + fullTime)
    let (last,lts) := addToTaskDemand g lts lrq (u64Sub wallclock restored)
    (u64 (first + full + last),lts)

/-- From the start of a window back to the first start after an older mark, and forth again. -/
theorem rewind_across {size mark start : ℕ} (older : mark < start) (few : start < mark + 2147483648 * size)
    (small : start < 18446744073709551616) :
    s32 (u64Sub start mark / size) = (((start - mark) / size : ℕ) : ℤ) ∧
      u64 (u64OfInt (((start - mark) / size : ℕ) : ℤ) * size) = (start - mark) / size * size ∧
      u64Sub start ((start - mark) / size * size) = mark + (start - mark) % size ∧
      u64Sub (mark + (start - mark) % size) mark = (start - mark) % size ∧
      u64 (mark + (start - mark) % size + (start - mark) / size * size) = start := by
  have split := Nat.div_add_mod' (start - mark) size
  have count : (start - mark) / size < 2147483648 := Nat.div_lt_of_lt_mul (by rw [Nat.mul_comm]; omega)
  have delta : u64Sub start mark = start - mark := u64Sub_of_le older.le (by omega)
  rw [delta]
  generalize (start - mark) % size = r at split ⊢
  generalize (start - mark) / size = n at split count ⊢
  have word : u64OfInt (n : ℤ) = n := u64OfInt_natCast (by omega)
  refine ⟨s32_of_lt count,?_,?_,?_,?_⟩
  · rw [word,u64_of_lt (by omega)]
  · rw [u64Sub_of_le (by omega) (by omega)]
    omega
  · rw [u64Sub_of_le (by omega) (by omega)]
    omega
  · rw [u64_of_lt (by omega)]
    omega

/-- A busy stretch from an older window at full scale: the rest of that window, a number
    of full ones, and the start of the current one. -/
theorem updateTaskDemand_across {g : Track} {rq : Rq} {lrq : LseRq} {t wallclock : ℕ} {p : TaskStruct} {lts : LseTaskStruct}
    {event : TaskEvent} (runs : accountBusyForTaskDemand rq t p event = true) (full : lrq.taskExecScale = 1024)
    (positive : 0 < g.ravgWindow) (word : g.ravgWindow < 4294967296) (older : lts.markStart < lrq.windowStart)
    (few : lrq.windowStart < lts.markStart + 2147483648 * g.ravgWindow) (started : lrq.windowStart ≤ wallclock)
    (inside : wallclock < lrq.windowStart + g.ravgWindow) (small : wallclock < 18446744073709551616) :
    let rest := (addToTaskDemand g lts lrq ((lrq.windowStart - lts.markStart) % g.ravgWindow)).2
    let closed := updateHistory g p rest rest.sum 1
    let windows := (lrq.windowStart - lts.markStart) / g.ravgWindow
    let filled := if windows = 0 then closed else updateHistory g p closed g.ravgWindow windows
    updateTaskDemand g rq lrq t p lts event wallclock =
      (wallclock - lts.markStart,(addToTaskDemand g filled lrq (wallclock - lrq.windowStart)).2) := by
  have split := Nat.div_add_mod' (lrq.windowStart - lts.markStart) g.ravgWindow
  have short := Nat.mod_lt (lrq.windowStart - lts.markStart) positive
  have count : (lrq.windowStart - lts.markStart) / g.ravgWindow < 2147483648 :=
    Nat.div_lt_of_lt_mul (by rw [Nat.mul_comm]; omega)
  obtain ⟨signed,time,rewound,first,restored⟩ :=
    rewind_across older few (show lrq.windowStart < 18446744073709551616 by omega)
  generalize (lrq.windowStart - lts.markStart) % g.ravgWindow = r at split short rewound first restored ⊢
  generalize (lrq.windowStart - lts.markStart) / g.ravgWindow = n at split count signed time rewound restored ⊢
  have word64 : u64OfInt (n : ℤ) = n := u64OfInt_natCast (by omega)
  have last : u64Sub wallclock lrq.windowStart = wallclock - lrq.windowStart := u64Sub_of_le started small
  have window : scaleExecTime g.ravgWindow lrq = g.ravgWindow := scaleExecTime_full full word
  have begun : scaleExecTime r lrq = r := scaleExecTime_full full (by omega)
  have tail : scaleExecTime (wallclock - lrq.windowStart) lrq = wallclock - lrq.windowStart :=
    scaleExecTime_full full (by omega)
  have runtime : u64 (r + n * g.ravgWindow + (wallclock - lrq.windowStart)) = wallclock - lts.markStart := by
    rw [u64_of_lt (by omega)]
    omega
  have whole : (if (n : ℤ) ≠ 0 then n * g.ravgWindow else 0) = n * g.ravgWindow := by
    by_cases none : n = 0
    · simp [none]
    · simp [none]
  rw [word64] at time
  simp only [updateTaskDemand,runs,Bool.true_eq_false,if_false,older,not_true_eq_false,signed,word64,
    time,rewound,first,restored,last,window,addToTaskDemand,begun,tail,whole,runtime]
  simp only [Nat.cast_eq_zero,ite_not,ne_eq]

def rolloverCpuWindow (lrq : LseRq) (fullWindow : Bool) : LseRq :=
  { lrq with
    prevRunnableSum := if fullWindow then 0 else lrq.currRunnableSum
    currRunnableSum := 0 }

/-- `update_window_start`: the old window start, the CPU's new record, and the
    `LSE_BUG` calls made on the way. -/
def updateWindowStart (g : Track) (lrq : LseRq) (wallclock : ℕ) : ℕ × LseRq × List LseBug :=
  let oldWindowStart := lrq.windowStart
  let backwards := wallclock < lrq.latestClock
  let wallclock := if backwards then lrq.latestClock else wallclock
  let delta := s64 (u64Sub wallclock lrq.windowStart)
  let early := delta < 0
  let wallclock := if early then lrq.windowStart else wallclock
  let delta := if early then 0 else delta
  let bugs := (if early then [.wallclockBeforeWindowStart] else []) ++
    (if backwards then [.wallclockBeforeLatestClock] else [])
  let lrq := { lrq with latestClock := wallclock }
  if delta < g.ravgWindow then (oldWindowStart,lrq,bugs)
  else
    let nrWindows := s32 (delta.toNat / g.ravgWindow)
    let lrq := { lrq with
      windowStart := u64 (lrq.windowStart + u64OfInt nrWindows * g.ravgWindow)
      prevWindowSize := g.ravgWindow }
    (oldWindowStart,rolloverCpuWindow lrq (1 < nrWindows),bugs)

def updateTaskRqCpuCycles (f : FreqView) (lrq : LseRq) : LseRq :=
  let scale := if f.maxFreq = 0 then f.capacity else div64U64Roundup (u64 (f.curFreq * f.capacity)) f.maxFreq
  { lrq with taskExecScale := max 1 scale }

def accountBusyForCpuTime (p : TaskStruct) (event : TaskEvent) : Bool :=
  !p.isIdle && (event = .putPrevTask || event = .taskUpdate)

def updateCpuBusyTime (lrq : LseRq) (p : TaskStruct) (markStart : ℕ) (event : TaskEvent) (wallclock : ℕ) : LseRq :=
  let newWindow := markStart < lrq.windowStart
  let fullWindow := newWindow ∧ lrq.prevWindowSize ≤ u64Sub lrq.windowStart markStart
  if accountBusyForCpuTime p event = false then lrq
  else if ¬ newWindow then
    { lrq with
      currRunnableSum := u64 (lrq.currRunnableSum + scaleExecTime (u64Sub wallclock markStart) lrq) }
  else
    let previous := if fullWindow then scaleExecTime lrq.prevWindowSize lrq
      else scaleExecTime (u64Sub lrq.windowStart markStart) lrq
    { lrq with
      prevRunnableSum := u64 (lrq.prevRunnableSum + previous)
      currRunnableSum := u64 (lrq.currRunnableSum + scaleExecTime (u64Sub wallclock lrq.windowStart) lrq) }

/-- `lse_window_rollover_run_once`; a queued `irq_work` is a new entry of `rollovers`. -/
def lseWindowRolloverRunOnce (g : Track) (oldWindowStart : ℕ) (lrq : LseRq) : Track :=
  if oldWindowStart = lrq.windowStart then g
  else if g.rolloverLastqWs = oldWindowStart then
    { g with rolloverLastqWs := lrq.windowStart, rollovers := lrq.windowStart :: g.rollovers }
  else g

/-- The calls of `lse_update_task_ravg` that do nothing beyond the task's hints. -/
def Skipped (w : World) (lts : LseTaskStruct) (cpu wallclock : ℕ) : Prop :=
  w.track.slimWaltCtrl = 0 ∨ (w.lrq cpu).windowStart = 0 ∨ lts.markStart = wallclock

instance (w : World) (lts : LseTaskStruct) (cpu wallclock : ℕ) : Decidable (Skipped w lts cpu wallclock) :=
  inferInstanceAs (Decidable (_ ∨ _ ∨ _))

/-- The accounting of a task that was seen before, once the window is up to date. -/
def accountTask (w : World) (t cpu : ℕ) (event : TaskEvent) (wallclock : ℕ) (lts : LseTaskStruct) (lrq : LseRq) :
    LseTaskStruct × LseRq :=
  let lrq := updateTaskRqCpuCycles (w.freq cpu) lrq
  let demand := (updateTaskDemand w.track (w.rq cpu) lrq t (w.task t) lts event wallclock).2
  let lrq := updateCpuBusyTime lrq (w.task t) lts.markStart event wallclock
  ({ demand with windowStart := lrq.windowStart },lrq)

/-- The task's and the CPU's records after the update of a call that is not
    skipped, the old window start, and the `LSE_BUG` calls. -/
def ravgUpdate (w : World) (lts : LseTaskStruct) (t cpu : ℕ) (event : TaskEvent) (wallclock : ℕ) :
    LseTaskStruct × LseRq × ℕ × List LseBug :=
  let (oldWindowStart,lrq,bugs) := updateWindowStart w.track (w.lrq cpu) wallclock
  let lts := if lts.windowStart = 0 then { lts with windowStart := lrq.windowStart } else lts
  let (lts,lrq) := if lts.markStart = 0 then (lts,lrq) else accountTask w t cpu event wallclock lts lrq
  let bugs := if u64 (lts.windowStart + w.track.ravgWindow) < wallclock then .markStartAheadOfWindow :: bugs else bugs
  ({ lts with markStart := wallclock },lrq,oldWindowStart,bugs)

/-- `lse_update_task_ravg`, for a task whose record is `lts`. -/
def lseUpdateTaskRavg (w : World) (lts : LseTaskStruct) (t cpu : ℕ) (event : TaskEvent) (wallclock : ℕ) : World :=
  if w.track.slimWaltCtrl = 0 then w
  else
    let lts := lseRefreshTaskHint w.track lts (w.task t)
    if Skipped w lts cpu wallclock then w.setLts t lts
    else
      let (lts,lrq,oldWindowStart,bugs) := ravgUpdate w lts t cpu event wallclock
      let track := { w.track with bugs := bugs ++ w.track.bugs }
      { w with
        track := lseWindowRolloverRunOnce track oldWindowStart lrq
        lrq := Function.update w.lrq cpu lrq
        lts := Function.update w.lts t (some lts) }

def lseCpuUtil (w : World) (cpu : ℕ) : ℕ :=
  let shift := max (w.lrq cpu).prevWindowSize 1 / 1024
  if shift = 0 then 0 else u16 ((w.lrq cpu).prevRunnableSum / shift)

def lseSchedInitRq (g : Track) (lrq : LseRq) : LseRq :=
  { lrq with prevWindowSize := g.ravgWindow, taskExecScale := 1024, windowStart := 0 }

def lseSchedStatsInit (w : World) : World :=
  { w with
    lrq := fun cpu => if w.possible cpu then lseSchedInitRq w.track (w.lrq cpu) else w.lrq cpu
    track := { w.track with windowStatsPolicy := 2, scaleDemandDivisor := w.track.ravgWindow / 1024 } }

/-! ### What the window update amounts to -/

/-- A call whose wallclock is not behind the CPU's clock and window, with a gap of
    fewer than 2³¹ windows since the window started. -/
structure Forward (size : ℕ) (lrq : LseRq) (wallclock : ℕ) : Prop where
  positive : 0 < size
  word : size < 4294967296
  latest : lrq.latestClock ≤ wallclock
  started : lrq.windowStart ≤ wallclock
  small : wallclock < 18446744073709551616
  gap : wallclock < lrq.windowStart + 2147483648 * size

/-- The CPU's record after such a call: the window that contains the wallclock,
    and the sums of the last window when it is the one just before. -/
def advance (size : ℕ) (lrq : LseRq) (wallclock : ℕ) : LseRq :=
  if (wallclock - lrq.windowStart) / size = 0 then { lrq with latestClock := wallclock }
  else
    { lrq with
      latestClock := wallclock
      windowStart := lrq.windowStart + (wallclock - lrq.windowStart) / size * size
      prevWindowSize := size
      prevRunnableSum := if (wallclock - lrq.windowStart) / size = 1 then lrq.currRunnableSum else 0
      currRunnableSum := 0 }

section
variable {g : Track} {size wallclock : ℕ} {lrq : LseRq}

@[simp] theorem advance_latestClock : (advance size lrq wallclock).latestClock = wallclock := by
  unfold advance
  split <;> rfl

theorem advance_windowStart :
    (advance size lrq wallclock).windowStart =
      lrq.windowStart + (wallclock - lrq.windowStart) / size * size := by
  unfold advance
  split
  · rename_i same
    simp [same]
  · rfl

theorem le_advance : lrq.windowStart ≤ (advance size lrq wallclock).windowStart := by
  rw [advance_windowStart]
  exact Nat.le_add_right _ _

/-- The new window contains the wallclock. -/
theorem advance_contains (forward : Forward size lrq wallclock) :
    (advance size lrq wallclock).windowStart ≤ wallclock ∧
      wallclock < (advance size lrq wallclock).windowStart + size := by
  rw [advance_windowStart]
  have split := Nat.div_add_mod' (wallclock - lrq.windowStart) size
  have inside := Nat.mod_lt (wallclock - lrq.windowStart) forward.positive
  have started := forward.started
  omega

/-- Without a step back and without an overflow of the window count, the window
    update of the source is `advance` and calls no `LSE_BUG`. -/
theorem updateWindowStart_forward (forward : Forward g.ravgWindow lrq wallclock) :
    updateWindowStart g lrq wallclock = (lrq.windowStart,advance g.ravgWindow lrq wallclock,[]) := by
  obtain ⟨positive,word,latest,started,small,gap⟩ := forward
  have notBack : ¬ wallclock < lrq.latestClock := by omega
  have delta : s64 (u64Sub wallclock lrq.windowStart) = ((wallclock - lrq.windowStart : ℕ) : ℤ) := by
    rw [u64Sub_of_le started small,s64_of_lt (by omega)]
  have notEarly : ¬ ((wallclock - lrq.windowStart : ℕ) : ℤ) < 0 := by omega
  have windows : (wallclock - lrq.windowStart) / g.ravgWindow < 2147483648 :=
    Nat.div_lt_of_lt_mul (by rw [Nat.mul_comm]; omega)
  have count : s32 ((wallclock - lrq.windowStart) / g.ravgWindow) =
      (((wallclock - lrq.windowStart) / g.ravgWindow : ℕ) : ℤ) := s32_of_lt windows
  have within := Nat.div_mul_le_self (wallclock - lrq.windowStart) g.ravgWindow
  simp only [updateWindowStart,notBack,if_false,delta,notEarly,Int.toNat_natCast,count,
    u64OfInt_natCast (show (wallclock - lrq.windowStart) / g.ravgWindow < 18446744073709551616 by omega),
    u64_of_lt (show lrq.windowStart + (wallclock - lrq.windowStart) / g.ravgWindow * g.ravgWindow <
      18446744073709551616 by omega),List.append_nil,Nat.cast_lt]
  by_cases same : wallclock - lrq.windowStart < g.ravgWindow
  · simp [same,advance,Nat.div_eq_of_lt same]
  · have crossed : (wallclock - lrq.windowStart) / g.ravgWindow ≠ 0 := by
      rw [Ne,Nat.div_eq_zero_iff_lt positive]
      exact same
    have full : (1 < (((wallclock - lrq.windowStart) / g.ravgWindow : ℕ) : ℤ)) ↔
        (wallclock - lrq.windowStart) / g.ravgWindow ≠ 1 := by
      rw [Nat.one_lt_cast]
      exact ⟨fun many => many.ne',fun other => lt_of_le_of_ne (Nat.pos_of_ne_zero crossed) other.symm⟩
    simp only [same,if_false,advance,crossed,rolloverCpuWindow,decide_eq_true_eq,full,ite_not]

/-- Before the window of the CPU, the window stays and the clock is set to its start. -/
theorem updateWindowStart_early (positive : 0 < g.ravgWindow)
    (early : wallclock < lrq.windowStart) (latest : lrq.latestClock ≤ lrq.windowStart)
    (word : lrq.windowStart < 18446744073709551616) (near : lrq.windowStart ≤ wallclock + 9223372036854775808) :
    (updateWindowStart g lrq wallclock).2.1 = { lrq with latestClock := lrq.windowStart } := by
  have back : ∀ clock, wallclock ≤ clock → clock < lrq.windowStart → s64 (u64Sub clock lrq.windowStart) < 0 := by
    intro clock later before
    unfold s64 u64Sub u64
    split_ifs <;> omega
  have start : s64 (u64Sub lrq.windowStart lrq.windowStart) = 0 := by
    simp [u64Sub_of_le le_rfl word,s64,u64]
  unfold updateWindowStart
  by_cases backwards : wallclock < lrq.latestClock
  · rcases latest.lt_or_eq with before | same
    · simp [backwards,back lrq.latestClock backwards.le before,positive]
    · simp [same,start,early,positive]
  · simp [backwards,back wallclock le_rfl early,positive]

end

@[simp] theorem updateTaskRqCpuCycles_windowStart (f : FreqView) (lrq : LseRq) :
    (updateTaskRqCpuCycles f lrq).windowStart = lrq.windowStart := rfl
@[simp] theorem updateTaskRqCpuCycles_latestClock (f : FreqView) (lrq : LseRq) :
    (updateTaskRqCpuCycles f lrq).latestClock = lrq.latestClock := rfl

@[simp] theorem updateCpuBusyTime_windowStart (lrq : LseRq) (p : TaskStruct) (mark : ℕ) (event : TaskEvent) (wc : ℕ) :
    (updateCpuBusyTime lrq p mark event wc).windowStart = lrq.windowStart := by
  simp only [updateCpuBusyTime]
  split_ifs <;> rfl
@[simp] theorem updateCpuBusyTime_latestClock (lrq : LseRq) (p : TaskStruct) (mark : ℕ) (event : TaskEvent) (wc : ℕ) :
    (updateCpuBusyTime lrq p mark event wc).latestClock = lrq.latestClock := by
  simp only [updateCpuBusyTime]
  split_ifs <;> rfl

/-- Only the sums and the scale of the CPU are changed by the accounting. -/
theorem accountTask_window (w : World) (t cpu : ℕ) (event : TaskEvent) (wallclock : ℕ) (lts : LseTaskStruct)
    (lrq : LseRq) :
    (accountTask w t cpu event wallclock lts lrq).2.windowStart = lrq.windowStart ∧
      (accountTask w t cpu event wallclock lts lrq).2.latestClock = lrq.latestClock := by
  simp [accountTask]

section
variable (w : World) (lts : LseTaskStruct) (t cpu : ℕ) (event : TaskEvent) {wallclock : ℕ}

/-- The CPU's record after an update whose clock goes forward. -/
theorem ravgUpdate_window (forward : Forward w.track.ravgWindow (w.lrq cpu) wallclock) :
    let update := ravgUpdate w lts t cpu event wallclock
    update.2.1.windowStart = (advance w.track.ravgWindow (w.lrq cpu) wallclock).windowStart ∧
      update.2.1.latestClock = wallclock ∧ update.2.2.1 = (w.lrq cpu).windowStart ∧
      update.1.markStart = wallclock := by
  simp only [ravgUpdate,updateWindowStart_forward forward]
  refine ⟨?_,?_,trivial,trivial⟩
  · split_ifs <;> simp [accountTask_window]
  · split_ifs <;> simp [accountTask_window]

/-- The window and the clock of the CPU after an update are those of the window update. -/
theorem ravgUpdate_lrq (w : World) (lts : LseTaskStruct) (t cpu : ℕ) (event : TaskEvent) (wallclock : ℕ) :
    let window := (updateWindowStart w.track (w.lrq cpu) wallclock).2.1
    (ravgUpdate w lts t cpu event wallclock).2.1.windowStart = window.windowStart ∧
      (ravgUpdate w lts t cpu event wallclock).2.1.latestClock = window.latestClock ∧
      (ravgUpdate w lts t cpu event wallclock).2.2.1 = (w.lrq cpu).windowStart := by
  have old : (updateWindowStart w.track (w.lrq cpu) wallclock).1 = (w.lrq cpu).windowStart := by
    simp only [updateWindowStart,apply_ite Prod.fst,ite_self]
  simp only [ravgUpdate]
  refine ⟨?_,?_,old⟩
  · split_ifs <;> simp [accountTask_window]
  · split_ifs <;> simp [accountTask_window]

/-- A skipped update changes nothing but the task's record. -/
theorem lseUpdateTaskRavg_skipped {w lts cpu} (skipped : Skipped w lts cpu wallclock) :
    ∃ record, lseUpdateTaskRavg w lts t cpu event wallclock = { w with lts := record } := by
  unfold lseUpdateTaskRavg
  by_cases off : w.track.slimWaltCtrl = 0
  · exact ⟨w.lts,by simp [off]⟩
  · have again : Skipped w (lseRefreshTaskHint w.track lts (w.task t)) cpu wallclock := skipped
    exact ⟨_,by simp only [off,if_false,again,if_true]; rfl⟩

/-- An update that is not skipped stores what `ravgUpdate` computes from the
    refreshed record, and passes the old window start on to the rollover. -/
theorem lseUpdateTaskRavg_taken {w lts cpu} (taken : ¬ Skipped w lts cpu wallclock) :
    let update := ravgUpdate w (lseRefreshTaskHint w.track lts (w.task t)) t cpu event wallclock
    lseUpdateTaskRavg w lts t cpu event wallclock =
      { w with
        track := lseWindowRolloverRunOnce { w.track with bugs := update.2.2.2 ++ w.track.bugs } update.2.2.1 update.2.1
        lrq := Function.update w.lrq cpu update.2.1
        lts := Function.update w.lts t (some update.1) } := by
  have on : w.track.slimWaltCtrl ≠ 0 := fun off => taken (Or.inl off)
  have again : ¬ Skipped w (lseRefreshTaskHint w.track lts (w.task t)) cpu wallclock := taken
  simp only [lseUpdateTaskRavg,on,if_false,again]

end

/-- The rollover changes only what says which window start it was last run for. -/
theorem rollover_cases (g : Track) (oldWindowStart : ℕ) (lrq : LseRq) :
    (oldWindowStart ≠ lrq.windowStart ∧ g.rolloverLastqWs = oldWindowStart ∧
      lseWindowRolloverRunOnce g oldWindowStart lrq =
        { g with rolloverLastqWs := lrq.windowStart, rollovers := lrq.windowStart :: g.rollovers }) ∨
    ((oldWindowStart = lrq.windowStart ∨ g.rolloverLastqWs ≠ oldWindowStart) ∧
      lseWindowRolloverRunOnce g oldWindowStart lrq = g) := by
  unfold lseWindowRolloverRunOnce
  split_ifs with same token
  · exact Or.inr ⟨Or.inl same,rfl⟩
  · exact Or.inl ⟨same,token,rfl⟩
  · exact Or.inr ⟨Or.inr token,rfl⟩

/-- The token stays, or moves from the old window start to the new one. -/
theorem rollover_token (g : Track) (oldWindowStart : ℕ) (lrq : LseRq) :
    (lseWindowRolloverRunOnce g oldWindowStart lrq).ravgWindow = g.ravgWindow ∧
      ((lseWindowRolloverRunOnce g oldWindowStart lrq).rolloverLastqWs = g.rolloverLastqWs ∨
        (g.rolloverLastqWs = oldWindowStart ∧
          (lseWindowRolloverRunOnce g oldWindowStart lrq).rolloverLastqWs = lrq.windowStart)) := by
  rcases rollover_cases g oldWindowStart lrq with ⟨_,holds,ran⟩ | ⟨_,ran⟩
  · exact ⟨by rw [ran],Or.inr ⟨holds,by rw [ran]⟩⟩
  · exact ⟨by rw [ran],Or.inl (by rw [ran])⟩

end LunarSched.UtilTrack
