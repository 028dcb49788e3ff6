import LunarSched.Occupancy

/-!
The busy time of a CPU. With the tracker at full scale, `curr_runnable_sum` is the
time in the current window during which a non-idle task ran on the CPU, and
`prev_runnable_sum` the time in the window before it (`runnable_sums_exact`). The
invariant for one CPU is `BusyExact`; a charge adds the stint of the current task
to both sides of it, and a pick adds nothing.
-/
namespace LunarSched.BusyTime
open LunarSched.Machine LunarSched.Kernel LunarSched.UtilTrack LunarSched.Accounts LunarSched.Occupancy
open LunarSched.Runs LunarSched.Timeline

/-- When non-idle tasks ran on a CPU. -/
def busySpans (w : World) (stints : List Stint) (cpu : ℕ) : List Span :=
  (stints.filter (fun st => st.cpu = cpu ∧ (w.task st.task).isIdle = false)).map Stint.span

/-- The sums of a CPU are the running times in its window and in the one before. -/
structure BusyExact (size : ℕ) (lrq : LseRq) (spans : List Span) : Prop where
  serial : Serial spans lrq.latestClock
  curr : lrq.currRunnableSum = timeIn spans lrq.windowStart lrq.latestClock
  prev : lrq.prevRunnableSum = timeIn spans (lrq.windowStart - size) lrq.windowStart

section
variable {size wallclock : ℕ} {lrq : LseRq} {spans : List Span}

/-- How many windows passed, and where the new one starts. -/
theorem advance_passed (forward : Forward size lrq wallclock) :
    ((wallclock - lrq.windowStart) / size = 0 ∧ wallclock < lrq.windowStart + size ∧
      advance size lrq wallclock = { lrq with latestClock := wallclock }) ∨
    ((wallclock - lrq.windowStart) / size = 1 ∧ advance size lrq wallclock =
      { lrq with
        latestClock := wallclock
        windowStart := lrq.windowStart + size
        prevWindowSize := size
        prevRunnableSum := lrq.currRunnableSum
        currRunnableSum := 0 }) ∨
    ∃ start, lrq.windowStart + 2 * size ≤ start ∧ advance size lrq wallclock =
      { lrq with
        latestClock := wallclock
        windowStart := start
        prevWindowSize := size
        prevRunnableSum := 0
        currRunnableSum := 0 } := by
  have positive := forward.positive
  generalize count : (wallclock - lrq.windowStart) / size = n
  have started := forward.started
  rcases n with _ | _ | n
  · refine Or.inl ⟨rfl,?_,by simp [advance,count]⟩
    have below : wallclock - lrq.windowStart < size := (Nat.div_eq_zero_iff_lt positive).mp count
    omega
  · exact Or.inr (Or.inl ⟨rfl,by simp [advance,count]⟩)
  · refine Or.inr (Or.inr ⟨lrq.windowStart + (n + 2) * size,?_,by simp [advance,count]⟩)
    exact Nat.add_le_add_left (Nat.mul_le_mul_right size (by omega)) _

/-- A window that starts after a moment of the old one has a whole window before it. -/
theorem advance_previous (forward : Forward size lrq wallclock) {since : ℕ} (old : lrq.windowStart ≤ since)
    (later : since < (advance size lrq wallclock).windowStart) :
    (advance size lrq wallclock).prevWindowSize = size ∧ size ≤ (advance size lrq wallclock).windowStart := by
  rcases advance_passed forward with ⟨_,_,same⟩ | ⟨_,next⟩ | ⟨start,far,moved⟩
  · rw [same] at later
    exact absurd old (not_le.mpr later)
  · rw [next]
    exact ⟨rfl,Nat.le_add_left _ _⟩
  · rw [moved]
    exact ⟨rfl,by simp only []; omega⟩

/-- Time that passes without a non-idle task running. -/
theorem busyExact_idle (exact : BusyExact size lrq spans) (forward : Forward size lrq wallclock)
    (inside : lrq.latestClock < lrq.windowStart + size) : BusyExact size (advance size lrq wallclock) spans := by
  obtain ⟨serial,curr,prev⟩ := exact
  have later := forward.latest
  have onward := serial_mono serial later
  rcases advance_passed forward with ⟨_,_,same⟩ | ⟨_,next⟩ | ⟨start,far,skipped⟩
  · rw [same]
    refine ⟨onward,?_,prev⟩
    rw [timeIn_extend serial.ends _ later]
    exact curr
  · rw [next]
    refine ⟨onward,?_,?_⟩
    · exact (timeIn_after (endBy_mono serial.ends inside.le) _).symm
    · simp only [Nat.add_sub_cancel]
      rw [timeIn_extend serial.ends _ inside.le]
      exact curr
  · rw [skipped]
    refine ⟨onward,?_,?_⟩
    · have past : lrq.latestClock ≤ start := by omega
      exact (timeIn_after (endBy_mono serial.ends past) _).symm
    · have past : lrq.latestClock ≤ start - size := by omega
      exact (timeIn_after (endBy_mono serial.ends past) _).symm

/-- The credit of a non-idle task at full scale: up to a window before the start of
    the current one, and the rest after it. -/
theorem updateCpuBusyTime_busy {p : TaskStruct} {event : TaskEvent} {marked : ℕ} (full : lrq.taskExecScale = 1024)
    (busy : p.isIdle = false) (runs : event = .putPrevTask ∨ event = .taskUpdate) (later : marked ≤ wallclock)
    (small : wallclock < 18446744073709551616) (started : lrq.windowStart ≤ wallclock)
    (inside : wallclock < lrq.windowStart + 4294967296) (curr : lrq.currRunnableSum < 4294967296)
    (previous : marked < lrq.windowStart → lrq.prevWindowSize < 4294967296 ∧ lrq.prevRunnableSum < 4294967296) :
    updateCpuBusyTime lrq p marked event wallclock =
      if marked < lrq.windowStart then
        { lrq with
          prevRunnableSum := lrq.prevRunnableSum + min lrq.prevWindowSize (lrq.windowStart - marked)
          currRunnableSum := lrq.currRunnableSum + (wallclock - lrq.windowStart) }
      else { lrq with currRunnableSum := lrq.currRunnableSum + (wallclock - marked) } := by
  have accounted : accountBusyForCpuTime p event = true := by
    rcases runs with rfl | rfl <;> simp [accountBusyForCpuTime,busy]
  have current : u64Sub wallclock lrq.windowStart = wallclock - lrq.windowStart := u64Sub_of_le started small
  simp only [updateCpuBusyTime,accounted,Bool.true_eq_false,if_false]
  by_cases newWindow : marked < lrq.windowStart
  · obtain ⟨window,prev⟩ := previous newWindow
    have before : u64Sub lrq.windowStart marked = lrq.windowStart - marked := u64Sub_of_le newWindow.le (by omega)
    have credit : (if lrq.prevWindowSize ≤ lrq.windowStart - marked then scaleExecTime lrq.prevWindowSize lrq
        else scaleExecTime (lrq.windowStart - marked) lrq) = min lrq.prevWindowSize (lrq.windowStart - marked) := by
      split_ifs with whole
      · rw [scaleExecTime_full full window,min_eq_left whole]
      · rw [scaleExecTime_full full (by omega),min_eq_right (by omega)]
    simp only [newWindow,not_true_eq_false,if_false,true_and,if_true,before,credit,current]
    rw [scaleExecTime_full full (by omega),u64_of_lt (by omega),u64_of_lt (by omega)]
  · simp only [newWindow,not_false_eq_true,if_true,if_false]
    rw [u64Sub_of_le later small,scaleExecTime_full full (by omega),u64_of_lt (by omega)]

/-- The credit is the part of the task's stint in each of the two windows. -/
theorem busyExact_credit (exact : BusyExact size lrq spans) {p : TaskStruct} {event : TaskEvent} {marked : ℕ}
    (serial : Serial spans marked) (clock : lrq.latestClock = wallclock) (full : lrq.taskExecScale = 1024)
    (busy : p.isIdle = false) (runs : event = .putPrevTask ∨ event = .taskUpdate) (later : marked ≤ wallclock)
    (small : wallclock < 18446744073709551616) (started : lrq.windowStart ≤ wallclock)
    (inside : wallclock < lrq.windowStart + size) (word : size < 4294967296)
    (window : marked < lrq.windowStart → lrq.prevWindowSize = size ∧ size ≤ lrq.windowStart) :
    BusyExact size (updateCpuBusyTime lrq p marked event wallclock) (⟨marked,wallclock⟩ :: spans) := by
  obtain ⟨_,curr,prev⟩ := exact
  have currBound := (serial_mono serial later).alone lrq.windowStart lrq.latestClock
  have prevBound := serial.alone (lrq.windowStart - size) lrq.windowStart
  rw [← curr] at currBound
  rw [← prev] at prevBound
  have currSpan : timeIn (⟨marked,wallclock⟩ :: spans) lrq.windowStart wallclock =
      (wallclock - max marked lrq.windowStart) + lrq.currRunnableSum := by
    rw [timeIn_cons,Span.overlap,curr,clock,min_self]
  have prevSpan : timeIn (⟨marked,wallclock⟩ :: spans) (lrq.windowStart - size) lrq.windowStart =
      (lrq.windowStart - max marked (lrq.windowStart - size)) + lrq.prevRunnableSum := by
    rw [timeIn_cons,Span.overlap,← prev,min_eq_right started]
  rw [updateCpuBusyTime_busy full busy runs later small started (by omega) (by omega)
    (fun newWindow => by have sized := window newWindow; omega)]
  have onward : Serial (⟨marked,wallclock⟩ :: spans) lrq.latestClock := by
    rw [clock]
    exact serial_cons serial later
  split_ifs with newWindow
  · obtain ⟨sized,room⟩ := window newWindow
    refine ⟨onward,?_,?_⟩
    · simp only [clock]
      rw [currSpan]
      omega
    · simp only []
      rw [prevSpan]
      omega
  · refine ⟨onward,?_,?_⟩
    · simp only [clock]
      rw [currSpan]
      omega
    · simp only []
      rw [prevSpan]
      omega

/-- A span without length adds nothing. -/
theorem busyExact_empty (exact : BusyExact size lrq spans) :
    BusyExact size lrq (⟨lrq.latestClock,lrq.latestClock⟩ :: spans) := by
  obtain ⟨serial,curr,prev⟩ := exact
  have nothing : ∀ lo hi, timeIn (⟨lrq.latestClock,lrq.latestClock⟩ :: spans) lo hi = timeIn spans lo hi := by
    intro lo hi
    rw [timeIn_cons,Span.overlap]
    simp only []
    omega
  exact ⟨serial_cons serial le_rfl,curr.trans (nothing _ _).symm,prev.trans (nothing _ _).symm⟩

/-- Scale and sums are independent, and an idle task gets no credit. -/
theorem busyExact_uncredited (exact : BusyExact size lrq spans) {p : TaskStruct} {event : TaskEvent} {marked : ℕ}
    (unaccounted : accountBusyForCpuTime p event = false) (scale : ℕ) :
    BusyExact size (updateCpuBusyTime { lrq with taskExecScale := scale } p marked event wallclock) spans := by
  simp only [updateCpuBusyTime,unaccounted,if_true]
  exact ⟨exact.serial,exact.curr,exact.prev⟩

end

/-! ### The machine -/

/-- Every CPU's sums are exact. -/
def BusyKept (s : Occupied) : Prop :=
  ∀ cpu, s.world.possible cpu = true →
    BusyExact s.world.track.ravgWindow (s.world.lrq cpu) (busySpans s.world s.stints cpu)

section
variable {origin cpu wallclock : ℕ} {s : Occupied}

theorem busyKept_frame (kept : BusyKept s) {v : World} (same : SameTracker s.world v) :
    BusyKept { s with world := v } := by
  intro cpu possible
  have spans : busySpans v s.stints cpu = busySpans s.world s.stints cpu := by
    simp only [busySpans,same.idle]
  show BusyExact v.track.ravgWindow (v.lrq cpu) (busySpans v s.stints cpu)
  rw [spans,same.lrq,same.windows.size]
  exact kept cpu (same.possible ▸ possible)

/-- Where a call changes only the CPU's record, the other CPUs stay exact. -/
theorem busyKept_effect (kept : BusyKept s) {v : World} {t : ℕ} {a : Account} {lrq : LseRq}
    (effect : Effect s.world v t cpu a lrq) (stints : List Stint) (others : ∀ st ∈ stints, st.cpu = cpu)
    (here : BusyExact s.world.track.ravgWindow lrq (busySpans s.world (stints ++ s.stints) cpu)) (now : ℕ)
    (last : ℕ → Option ℕ) : BusyKept ⟨v,now,last,stints ++ s.stints⟩ := by
  intro other possible
  show BusyExact v.track.ravgWindow (v.lrq other) (busySpans v (stints ++ s.stints) other)
  have spans : busySpans v (stints ++ s.stints) other = busySpans s.world (stints ++ s.stints) other := by
    simp only [busySpans,effect.task]
  rw [spans,effect.windows.size,effect.lrq]
  by_cases same : other = cpu
  · subst same
    simpa using here
  · have elsewhere : busySpans s.world (stints ++ s.stints) other = busySpans s.world s.stints other := by
      refine congrArg (List.map Stint.span) (filter_others (fun st member => ?_) s.stints)
      simp [others st member,Ne.symm same]
    rw [Function.update_of_ne same,elsewhere]
    exact kept other (effect.possible ▸ possible)

/-- The busy spans with the stint that an event closes. -/
theorem busySpans_closed (cpu wallclock : ℕ) :
    busySpans s.world (closed s cpu wallclock ++ s.stints) cpu =
      match s.last cpu with
      | none => busySpans s.world s.stints cpu
      | some since =>
        if (s.world.task (s.world.rq cpu).curr).isIdle = false then
          ⟨since,wallclock⟩ :: busySpans s.world s.stints cpu
        else busySpans s.world s.stints cpu := by
  cases seen : s.last cpu with
  | none => simp [closed,seen]
  | some since =>
    by_cases busy : (s.world.task (s.world.rq cpu).curr).isIdle = false <;> simp [closed,seen,busySpans,busy]

/-- The record of a CPU after a charge is exact for its stints with the new one. -/
theorem charge_exact (placed : Placed origin s) (kept : BusyKept s) (timely : Timely s cpu wallclock)
    {event : TaskEvent} (runs : event = .putPrevTask ∨ event = .taskUpdate) {lts : LseTaskStruct}
    (marked : lts.markStart = (s.last cpu).getD 0) :
    BusyExact s.world.track.ravgWindow (records s.world lts (s.world.rq cpu).curr cpu event wallclock).2
      (busySpans s.world (closed s cpu wallclock ++ s.stints) cpu) := by
  obtain ⟨forward,_,_⟩ := forward_of_placed placed timely
  have exact := kept cpu timely.1
  obtain ⟨_,clock,_,inside,_⟩ := placed.cpus cpu timely.1
  have sized := placed.positive
  rw [busySpans_closed]
  rcases charge_cases placed timely marked with ⟨seen,first,taken⟩ | ⟨seen,same,skipped⟩ | ⟨seen,accounted,taken⟩
  · rw [seen,Option.getD_none] at clock
    rw [seen,(records_first event taken forward first).2]
    exact busyExact_idle exact forward (by omega)
  · rw [seen,Option.getD_some] at clock
    rw [seen,(records_skipped event skipped).2]
    simp only []
    split_ifs
    · rw [← same,← clock]
      exact busyExact_empty exact
    · exact exact
  · rw [seen,Option.getD_some] at clock
    obtain ⟨low,high,_⟩ := inside lts.markStart seen
    obtain ⟨_,credited⟩ := records_accounted event taken forward accounted (t := (s.world.rq cpu).curr)
    have idle := busyExact_idle exact forward (by omega)
    have onward := advance_contains forward
    rw [seen,credited,fullScale_lrq (placed.full cpu)]
    simp only []
    split_ifs with busy
    · rw [← clock]
      have scaled : BusyExact s.world.track.ravgWindow
          { advance s.world.track.ravgWindow (s.world.lrq cpu) wallclock with taskExecScale := 1024 }
          (busySpans s.world s.stints cpu) := ⟨idle.serial,idle.curr,idle.prev⟩
      refine busyExact_credit scaled exact.serial advance_latestClock rfl busy runs
        forward.latest forward.small onward.1 onward.2 placed.word (advance_previous forward ?_)
      omega
    · exact busyExact_uncredited idle (by simp [accountBusyForCpuTime,Bool.eq_true_of_not_eq_false busy]) 1024

theorem busyKept_charge (placed : Placed origin s) (kept : BusyKept s) (timely : Timely s cpu wallclock)
    {event : TaskEvent} (runs : event = .putPrevTask ∨ event = .taskUpdate) :
    BusyKept (charge s cpu event wallclock) := by
  obtain ⟨lts,_,marked,_,effect⟩ := charge_effect placed timely event
  exact busyKept_effect kept effect (closed s cpu wallclock) (fun _ member => (closed_current member).1)
    (charge_exact placed kept timely runs marked) wallclock _

/-- A pick at the CPU's last event changes no sum. -/
theorem busyKept_pick (placed : Placed origin s) (kept : BusyKept s) (timely : Timely s cpu s.now)
    (seen : s.last cpu = some s.now) (next : ℕ) : BusyKept (pick s cpu next s.now) := by
  obtain ⟨lts,present⟩ := lts_of_placed placed next
  have effect := updateIfTracked_effect .pickNextTask cpu s.now placed.on present
  obtain ⟨forward,_,_⟩ := forward_of_placed placed timely
  have exact := kept cpu timely.1
  obtain ⟨_,clock,_,inside,_⟩ := placed.cpus cpu timely.1
  obtain ⟨low,high,_⟩ := inside s.now seen
  have idle := busyExact_idle exact forward (by rw [clock,seen]; exact high)
  refine busyKept_effect kept effect [] (fun st member => absurd member List.not_mem_nil) ?_ s.now s.last
  by_cases skipped : Skipped s.world lts cpu s.now
  · rw [(records_skipped .pickNextTask skipped).2]
    exact exact
  · by_cases first : lts.markStart = 0
    · rw [(records_first .pickNextTask skipped forward first).2]
      exact idle
    · obtain ⟨_,credited⟩ := records_accounted .pickNextTask skipped forward first (t := next)
      rw [credited,fullScale_lrq (placed.full cpu)]
      exact busyExact_uncredited idle (by simp [accountBusyForCpuTime]) 1024

end

theorem busyKept_occupied {w : World} (fresh : Fresh w) {clock : ℕ} (late : 20000 < clock)
    (small : clock < 18446744073709551616) : BusyKept (occupied w clock) := by
  rw [occupied,lseSchedulerTick_seeds fresh.unseeded late small]
  intro cpu possible
  have possible : w.possible cpu = true := possible
  obtain ⟨prev,curr⟩ := fresh.sums cpu
  refine ⟨serial_nil _,?_,?_⟩
  · simp [seededAt,possible,curr,busySpans]
  · simp [seededAt,possible,prev,busySpans]

/-- After every run from the seeding tick at full scale, the sums of every CPU are
    the times during which non-idle tasks ran on it since its first event, in the
    current window and in the one before. -/
theorem runnable_sums_exact (w : World) (fresh : Fresh w) (clock : ℕ) (late : 20000 < clock)
    (small : clock < 18446744073709551616) (run : List SchedEvent)
    (admitted : Along step Admitted (occupied w clock) run) (cpu : ℕ) (possible : w.possible cpu = true) :
    let s := exec step (occupied w clock) run
    let lrq := s.world.lrq cpu
    let busy := busySpans s.world s.stints cpu
    lrq.currRunnableSum = timeIn busy lrq.windowStart lrq.latestClock ∧
      lrq.prevRunnableSum = timeIn busy (lrq.windowStart - w.track.ravgWindow) lrq.windowStart := by
  obtain ⟨_,constant⟩ := run_constant fresh late small admitted
  obtain ⟨_,kept⟩ := run_keeps BusyKept (fun _ _ _ kept same => busyKept_frame kept same)
    (fun _ _ _ _ placed kept timely runs => busyKept_charge placed kept timely runs)
    (fun _ _ next placed kept timely seen _ => busyKept_pick placed kept timely seen next)
    (occupied_placed fresh late small) (busyKept_occupied fresh late small) admitted
  obtain ⟨_,curr,prev⟩ := kept cpu (constant.possible ▸ possible)
  rw [constant.size] at prev
  exact ⟨curr,prev⟩

/-- Task 1 runs over the first window boundary, which is at 9 ms. -/
theorem runnable_sums_exact_boundary :
    let run := [.schedule 0 1 2000000,.tickEntry 0 5000000,.schedule 0 0 12000000]
    let s := exec step (occupied (World.boot 1 (idleBelow 1)) 1020000) run
    let lrq := s.world.lrq 0
    let busy := busySpans s.world s.stints 0
    lrq.currRunnableSum = timeIn busy lrq.windowStart lrq.latestClock ∧
      lrq.prevRunnableSum = timeIn busy (lrq.windowStart - 8000000) lrq.windowStart :=
  runnable_sums_exact (World.boot 1 (idleBelow 1)) (boot_fresh 1 (idleBelow 1)) 1020000 (by decide) (by decide)
    [.schedule 0 1 2000000,.tickEntry 0 5000000,.schedule 0 0 12000000] (by decide +kernel) 0 (by decide)

end LunarSched.BusyTime
