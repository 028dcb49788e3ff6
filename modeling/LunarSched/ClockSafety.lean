import LunarSched.WindowChange

/-!
The clocks that reach the load tracker. A call reports a clock that is behind its CPU's
clock or window, and a task whose mark is more than a window ahead. The entry points
read `lse_sched_clock` or `lse_rq_clock`, and both stand still while the machine is
suspended, so no CPU gets ahead of the clock (`event_calm`). The tick that seeds the
windows is the exception: it reads `rq->clock`, which goes on. No call ever reports
anything when that tick comes at most 20 µs into a suspension and the clock leaves room
for one window below 2⁶⁴ (`never_reports`).
-/
namespace LunarSched.ClockSafety
open LunarSched.Machine LunarSched.Kernel LunarSched.UtilTrack LunarSched.Dsq LunarSched.ShadowTick LunarSched.Hooks
open LunarSched.Accounts LunarSched.Rollover LunarSched.WindowChange LunarSched.Runs

/-- The entry points with what `sched_clock` returns during them, requests for a window
    size, the life of the tasks, and in `around` what the tracker does not keep itself,
    taken from another state. -/
inductive ClockEvent where
  | schedule (cpu next clock : ℕ)
  | tickEntry (cpu clock : ℕ)
  | shadowTick (timer cpu clock : ℕ)
  | irqWork (cpu clock : ℕ)
  | suspend (clock : ℕ)
  | resume
  | schedulerTick (clock : ℕ)
  | request (framePerSec : ℤ)
  | alloc (t : ℕ)
  | free (t : ℕ)
  | around (e : World)

def ClockEvent.run (w : World) : ClockEvent → World
  | .schedule cpu next clock => switchTo (lseSchedule w cpu (w.rq cpu).curr next clock) cpu next
  | .tickEntry cpu clock => lseTickEntry w cpu clock
  | .shadowTick timer cpu clock => lseShadowTickCb w timer cpu clock
  | .irqWork cpu clock => lseIrqWork w cpu clock
  | .suspend clock => lseSuspend w clock
  | .resume => lseResume w
  | .schedulerTick clock => lseSchedulerTick w clock
  | .request framePerSec => schedRavgWindowChange w framePerSec
  | .alloc t => allocLseTaskStruct w t
  | .free t => freeLseTaskStruct w t
  | .around e => { w with online := e.online, freq := e.freq, task := e.task, dsq := e.dsq, shadow := e.shadow }

/-- What `sched_clock` returned last during the event. -/
def ClockEvent.clock : ClockEvent → Option ℕ
  | .schedule _ _ clock | .tickEntry _ clock | .shadowTick _ _ clock | .irqWork _ clock | .suspend clock
  | .schedulerTick clock => some clock
  | .resume | .request _ | .alloc _ | .free _ | .around _ => none

/-- The CPU that an event accounts time on. -/
def ClockEvent.place : ClockEvent → Option ℕ
  | .schedule cpu _ _ | .tickEntry cpu _ | .shadowTick _ cpu _ | .irqWork cpu _ => some cpu
  | _ => none

def clockStep (s : Clocked) (e : ClockEvent) : Clocked := ⟨e.run s.world,e.clock.getD s.now⟩

/-- The tick would seed the windows. -/
def Seeds (w : World) : Prop := w.track.slimWaltCtrl ≠ 0 ∧ w.track.tickSchedClock = 0

instance (w : World) : Decidable (Seeds w) := inferInstanceAs (Decidable (_ ∧ _))

/-- `sched_clock` does not go back, is past 20 µs at the seeding tick, and is fewer than
    2³¹ windows past the window of the CPU, if that has one. -/
def Admitted (s : Clocked) (e : ClockEvent) : Prop :=
  (∀ clock ∈ e.clock, s.now ≤ clock ∧ clock < 18446744073709551616 ∧ ∀ cpu ∈ e.place,
    (s.world.lrq cpu).windowStart ≠ 0 →
      lseSchedClock s.world clock < (s.world.lrq cpu).windowStart + 2147483648 * s.world.track.ravgWindow) ∧
    match e with
    | .schedulerTick clock => Seeds s.world → 20000 < clock
    | _ => True

instance (s : Clocked) : (e : ClockEvent) → Decidable (Admitted s e)
  | .schedulerTick _ => inferInstanceAs (Decidable (_ ∧ (_ → _ < _)))
  | .schedule .. | .tickEntry .. | .shadowTick .. | .irqWork .. => inferInstanceAs (Decidable (_ ∧ True))
  | .suspend _ | .resume | .request _ | .alloc _ | .free _ | .around _ => inferInstanceAs (Decidable (_ ∧ True))

/-- No tick seeds the windows more than 20 µs into a suspension, and the clock leaves
    room for a window below 2⁶⁴. -/
def InClock (s : Clocked) (e : ClockEvent) : Prop :=
  (∀ clock ∈ e.clock, ∀ _cpu ∈ e.place, lseSchedClock s.world clock + s.world.track.ravgWindow < 18446744073709551616) ∧
    match e with
    | .schedulerTick clock => Seeds s.world → s.world.track.clockSuspended = true →
        clock ≤ s.world.track.clockLast + 20000
    | _ => True

instance (s : Clocked) : (e : ClockEvent) → Decidable (InClock s e)
  | .schedulerTick _ => inferInstanceAs (Decidable (_ ∧ (_ → _ → _ ≤ _)))
  | .schedule .. | .tickEntry .. | .shadowTick .. | .irqWork .. => inferInstanceAs (Decidable (_ ∧ True))
  | .suspend _ | .resume | .request _ | .alloc _ | .free _ | .around _ => inferInstanceAs (Decidable (_ ∧ True))

/-- The load tracker has reported nothing. -/
def NoReport (s : Clocked) : Prop := s.world.track.bugs = []

instance (s : Clocked) : Decidable (NoReport s) := inferInstanceAs (Decidable (_ = _))

/-- The module is loaded: no window is seeded and no time is accounted. -/
structure Fresh (w : World) : Prop where
  positive : 0 < w.track.ravgWindow
  word : w.track.ravgWindow < 4294967296
  requested : w.track.newRavgWindow < 4294967296
  lrq : ∀ cpu, (w.lrq cpu).windowStart = 0 ∧ (w.lrq cpu).latestClock = 0
  lts : ∀ t lts, w.lts t = some lts → lts.windowStart = 0
  running : w.track.clockSuspended = false
  quiet : w.track.bugs = []

theorem boot_fresh (nrCpuIds : ℕ) (task : ℕ → TaskStruct) : Fresh (World.boot nrCpuIds task) := by
  refine ⟨by simp [World.boot],by simp [World.boot],by simp [World.boot],fun _ => ⟨rfl,rfl⟩,?_,rfl,rfl⟩
  rintro t lts present
  simp only [World.boot,Option.some.injEq] at present
  exact present ▸ rfl

/-- Nothing of the tracker is ahead of the clock, and it has reported nothing. -/
structure Calm (w : World) (clock : ℕ) : Prop where
  positive : 0 < w.track.ravgWindow
  word : w.track.ravgWindow < 4294967296
  requested : w.track.newRavgWindow < 4294967296
  latest : ∀ cpu, (w.lrq cpu).latestClock ≤ clock
  started : ∀ cpu, (w.lrq cpu).windowStart ≤ clock
  unmarked : ∀ t lts, w.lts t = some lts → lts.markStart = 0 → lts.windowStart = 0
  quiet : w.track.bugs = []

/-- A step leaves the tracker calm, and the suspension as it is. -/
structure Keeps (w v : World) (clock : ℕ) : Prop where
  calm : Calm v clock
  suspended : v.track.clockSuspended = w.track.clockSuspended
  last : v.track.clockLast = w.track.clockLast

section
variable {w : World} {clock wallclock cpu : ℕ}

theorem Calm.later (calm : Calm w clock) (le : clock ≤ wallclock) : Calm w wallclock :=
  ⟨calm.positive,calm.word,calm.requested,fun cpu => (calm.latest cpu).trans le,fun cpu => (calm.started cpu).trans le,
    calm.unmarked,calm.quiet⟩

theorem Calm.keeps (calm : Calm w clock) (le : clock ≤ wallclock) : Keeps w w wallclock := ⟨calm.later le,rfl,rfl⟩

theorem Keeps.trans {u v : World} (first : Keeps u v clock) (second : Keeps v w clock) : Keeps u w clock :=
  ⟨second.calm,second.suspended.trans first.suspended,second.last.trans first.last⟩

/-- An update that goes forward, with room for a window above the clock, reports nothing:
    the task's window is that of its CPU, which contains the clock. -/
theorem ravgUpdate_quiet (forward : Forward w.track.ravgWindow (w.lrq cpu) wallclock)
    (room : wallclock + w.track.ravgWindow < 18446744073709551616) {lts : LseTaskStruct}
    (unmarked : lts.markStart = 0 → lts.windowStart = 0) (t : ℕ) (event : TaskEvent) :
    (ravgUpdate w lts t cpu event wallclock).2.2.2 = [] := by
  obtain ⟨started,within⟩ := advance_contains forward
  have ahead : ¬ u64 ((advance w.track.ravgWindow (w.lrq cpu) wallclock).windowStart + w.track.ravgWindow) < wallclock := by
    rw [u64_of_lt (by omega)]
    omega
  by_cases first : lts.markStart = 0
  · simp [ravgUpdate,updateWindowStart_forward forward,first,unmarked first,ahead]
  · by_cases unset : lts.windowStart = 0
    · simp [ravgUpdate,updateWindowStart_forward forward,first,unset,accountTask,ahead]
    · simp [ravgUpdate,updateWindowStart_forward forward,first,unset,accountTask,ahead]

/-- The wallclock is fewer than 2³¹ windows past the window of the CPU, and leaves room
    for one window below 2⁶⁴. -/
structure InReach (w : World) (cpu wallclock : ℕ) : Prop where
  gap : (w.lrq cpu).windowStart ≠ 0 → wallclock < (w.lrq cpu).windowStart + 2147483648 * w.track.ravgWindow
  room : wallclock + w.track.ravgWindow < 18446744073709551616

/-- What a call in reach stores: records that are not ahead of the wallclock, of a task
    with a mark or unchanged, and no report. -/
theorem records_calm (calm : Calm w clock) (later : clock ≤ wallclock) (reach : InReach w cpu wallclock) {t : ℕ}
    {lts : LseTaskStruct} (present : w.lts t = some lts) (event : TaskEvent) :
    let stored := records w lts t cpu event wallclock
    stored.2.latestClock ≤ wallclock ∧ stored.2.windowStart ≤ wallclock ∧
      (stored.2.windowStart ≠ 0 → wallclock < stored.2.windowStart + 2147483648 * w.track.ravgWindow) ∧
      (stored.1.markStart = 0 → stored.1.windowStart = 0) ∧ reports w lts t cpu event wallclock = [] := by
  by_cases skipped : Skipped w lts cpu wallclock
  · simp only [records,reports,skipped,if_true]
    exact ⟨(calm.later later).latest cpu,(calm.later later).started cpu,reach.gap,calm.unmarked t lts present,trivial⟩
  · have seeded : (w.lrq cpu).windowStart ≠ 0 := fun zero => skipped (Or.inr (Or.inl zero))
    have small : wallclock < 18446744073709551616 := (Nat.le_add_right _ _).trans_lt reach.room
    have forward : Forward w.track.ravgWindow (w.lrq cpu) wallclock :=
      ⟨calm.positive,calm.word,(calm.later later).latest cpu,(calm.later later).started cpu,small,reach.gap seeded⟩
    obtain ⟨marked,latest,window⟩ := records_taken (t := t) event skipped forward
    obtain ⟨started,within⟩ := advance_contains forward
    have positive := calm.positive
    have behind := (calm.later later).started cpu
    refine ⟨latest.le,window ▸ started,fun _ => by omega,fun zero => by omega,?_⟩
    simp only [reports,skipped,if_false]
    have unmarked : (lseRefreshTaskHint w.track lts (w.task t)).markStart = 0 →
        (lseRefreshTaskHint w.track lts (w.task t)).windowStart = 0 := calm.unmarked t lts present
    exact ravgUpdate_quiet forward reach.room unmarked t event

/-- A call at a wallclock that is not behind keeps the tracker calm, and another one on
    the same CPU is in reach as well. -/
theorem call_keeps (calm : Calm w clock) (later : clock ≤ wallclock) (reach : InReach w cpu wallclock) (t : ℕ)
    (event : TaskEvent) :
    Keeps w (updateIfTracked w t cpu event wallclock) wallclock ∧
      InReach (updateIfTracked w t cpu event wallclock) cpu wallclock := by
  rcases updateIfTracked_outcome w t cpu event wallclock with same | ⟨lts,lastq,rollovers,present,_,update⟩
  · rw [same]
    exact ⟨calm.keeps later,reach⟩
  · obtain ⟨latest,started,gap,unmarked,silent⟩ := records_calm calm later reach present event
    rw [update,silent]
    refine ⟨⟨⟨calm.positive,calm.word,calm.requested,?_,?_,?_,calm.quiet⟩,rfl,rfl⟩,⟨?_,reach.room⟩⟩
    · exact (Function.forall_update_iff _ (fun _ (lrq : LseRq) => lrq.latestClock ≤ wallclock)).mpr
        ⟨latest,fun other _ => (calm.later later).latest other⟩
    · exact (Function.forall_update_iff _ (fun _ (lrq : LseRq) => lrq.windowStart ≤ wallclock)).mpr
        ⟨started,fun other _ => (calm.later later).started other⟩
    · refine stored_records ?_ (fun u _ => calm.unmarked u)
      rintro record ⟨⟩
      exact unmarked
    · simpa using gap

/-- The queues and the shadow ticks are no part of this. -/
theorem queues_keep {v : World} (calm : Calm w clock) (queues : OnlyQueues w v) : Keeps w v clock := by
  obtain ⟨rest,lts⟩ := queues
  rw [rest]
  refine ⟨⟨calm.positive,calm.word,calm.requested,calm.latest,calm.started,?_,calm.quiet⟩,rfl,rfl⟩
  intro t record stored
  obtain ⟨queued,same⟩ := lts t
  simp only [same,Option.map_eq_some_iff] at stored
  obtain ⟨before,present,rfl⟩ := stored
  exact calm.unmarked t before present

theorem switchTo_keeps (calm : Calm w clock) (cpu next : ℕ) : Keeps w (switchTo w cpu next) clock :=
  ⟨⟨calm.positive,calm.word,calm.requested,calm.latest,calm.started,calm.unmarked,calm.quiet⟩,rfl,rfl⟩

/-- On a CPU that is not ahead, both clocks read the same. -/
theorem lseRqClock_eq (latest : (w.lrq cpu).latestClock ≤ lseSchedClock w clock) :
    lseRqClock w cpu clock = lseSchedClock w clock := by
  unfold lseSchedClock at latest ⊢
  unfold lseRqClock
  split_ifs with suspended
  · rfl
  · rw [if_neg suspended] at latest
    exact max_eq_left latest

theorem lseSchedClock_mono {now : ℕ} (le : now ≤ clock) : lseSchedClock w now ≤ lseSchedClock w clock := by
  unfold lseSchedClock
  split_ifs
  · exact le_rfl
  · exact le

theorem Keeps.sched_clock {v : World} {time : ℕ} (keeps : Keeps w v time) :
    lseSchedClock v clock = lseSchedClock w clock := by
  unfold lseSchedClock
  rw [keeps.suspended,keeps.last]

/-- The two calls of a context switch are at one wallclock. -/
theorem scheduleRavg_keeps (calm : Calm w (lseSchedClock w clock)) (reach : InReach w cpu (lseSchedClock w clock))
    (prev next : ℕ) : Keeps w (scheduleRavg w cpu prev next clock) (lseSchedClock w clock) := by
  have here := lseRqClock_eq (calm.latest cpu)
  unfold scheduleRavg
  rw [here]
  split_ifs with other
  · obtain ⟨put,again⟩ := call_keeps calm le_rfl reach prev .putPrevTask
    have there := lseRqClock_eq ((put.calm.latest cpu).trans put.sched_clock.ge)
    simp only [there,put.sched_clock]
    exact put.trans (call_keeps put.calm le_rfl again next .pickNextTask).1
  · exact (call_keeps calm le_rfl reach prev .taskUpdate).1

theorem lseSchedule_keeps (calm : Calm w (lseSchedClock w clock)) (reach : InReach w cpu (lseSchedClock w clock))
    (prev next : ℕ) : Keeps w (lseSchedule w cpu prev next clock) (lseSchedClock w clock) := by
  unfold lseSchedule
  split_ifs
  · exact calm.keeps le_rfl
  · have ravg := scheduleRavg_keeps calm reach prev next
    exact ravg.trans (queues_keep ravg.calm (afterRavg_queues _ cpu prev next))

theorem lseTickEntry_keeps (calm : Calm w (lseSchedClock w clock)) (reach : InReach w cpu (lseSchedClock w clock)) :
    Keeps w (lseTickEntry w cpu clock) (lseSchedClock w clock) := by
  unfold lseTickEntry
  rw [lseRqClock_eq (calm.latest cpu)]
  split_ifs
  · exact calm.keeps le_rfl
  · exact (call_keeps calm le_rfl reach _ .taskUpdate).1

theorem lseShadowTickCb_keeps (calm : Calm w (lseSchedClock w clock)) (reach : InReach w cpu (lseSchedClock w clock))
    (timer : ℕ) : Keeps w (lseShadowTickCb w timer cpu clock) (lseSchedClock w clock) := by
  unfold lseShadowTickCb
  split_ifs
  · exact queues_keep calm (around_queues w w.dsq _)
  · exact (call_keeps calm le_rfl reach _ .taskUpdate).1
  · exact calm.keeps le_rfl

/-- What is committed is positive: a CPU is never before the end of an empty window. -/
theorem commit_positive (calm : Calm w clock) (small : clock < 18446744073709551616) (commits : Commits w cpu clock) :
    0 < w.track.newRavgWindow := by
  obtain ⟨_,before⟩ := commits
  by_contra none
  have started := calm.started cpu
  rw [Nat.eq_zero_of_not_pos none,Nat.add_zero,u64_of_lt (started.trans_lt small)] at before
  omega

theorem lseIrqWork_keeps (calm : Calm w (lseSchedClock w clock)) (reach : InReach w cpu (lseSchedClock w clock)) :
    Keeps w (lseIrqWork w cpu clock) (lseSchedClock w clock) := by
  have updated : Keeps w (beforeCommit w cpu clock) (lseSchedClock w clock) :=
    (call_keeps calm le_rfl reach _ .taskUpdate).1
  rcases lseIrqWork_cases w cpu clock with ⟨_,same⟩ | ⟨commits,changed⟩
  · rwa [same]
  · have small : lseSchedClock w clock < 18446744073709551616 := (Nat.le_add_right _ _).trans_lt reach.room
    have positive := commit_positive updated.calm small commits
    obtain ⟨⟨_,_,requested,latest,started,unmarked,quiet⟩,suspended,last⟩ := updated
    rw [changed]
    exact ⟨⟨positive,requested,requested,latest,started,unmarked,quiet⟩,suspended,last⟩

/-- The tick that seeds the windows puts them 20 µs before `rq->clock`. -/
theorem lseSchedulerTick_keeps {now : ℕ} (calm : Calm w (lseSchedClock w now)) (later : now ≤ clock)
    (small : clock < 18446744073709551616) (late : Seeds w → 20000 < clock)
    (near : Seeds w → w.track.clockSuspended = true → clock ≤ w.track.clockLast + 20000) :
    Keeps w (lseSchedulerTick w clock) (lseSchedClock w clock) := by
  have onward := calm.later (lseSchedClock_mono later)
  by_cases seeds : Seeds w
  · have reached : clock - 20000 ≤ lseSchedClock w clock := by
      unfold lseSchedClock
      split_ifs with suspended
      · have within := near seeds suspended
        omega
      · exact Nat.sub_le _ _
    have windows : ∀ cpu, ((lseSchedulerTick w clock).lrq cpu).latestClock = (w.lrq cpu).latestClock ∧
        (((lseSchedulerTick w clock).lrq cpu).windowStart = clock - 20000 ∨
          ((lseSchedulerTick w clock).lrq cpu).windowStart = (w.lrq cpu).windowStart) := by
      intro cpu
      rw [(lseSchedulerTick_first seeds.1 seeds.2 (late seeds).le small).2]
      split_ifs
      · exact ⟨rfl,Or.inl rfl⟩
      · exact ⟨rfl,Or.inr rfl⟩
    have track := (lseSchedulerTick_first seeds.1 seeds.2 (late seeds).le small).1
    have lts := (lseSchedulerTick_frame w clock).lts
    generalize lseSchedulerTick w clock = v at windows track lts
    refine ⟨⟨?_,?_,?_,fun cpu => (windows cpu).1 ▸ onward.latest cpu,?_,lts ▸ onward.unmarked,?_⟩,?_,?_⟩
    · exact track ▸ onward.positive
    · exact track ▸ onward.word
    · exact track ▸ onward.requested
    · intro cpu
      rcases (windows cpu).2 with seeded | kept
      · exact seeded ▸ reached
      · exact kept ▸ onward.started cpu
    · exact track ▸ onward.quiet
    · exact track ▸ rfl
    · exact track ▸ rfl
  · have done : w.track.slimWaltCtrl = 0 ∨ w.track.tickSchedClock ≠ 0 := by
      by_contra neither
      exact seeds ⟨fun off => neither (Or.inl off),not_not.mp fun before => neither (Or.inr before)⟩
    have same : lseSchedulerTick w clock = w := if_pos done
    rw [same]
    exact onward.keeps le_rfl

/-! ### Runs -/

/-- The tracker is not ahead of the clock that the entry points read now. -/
structure Sound (s : Clocked) : Prop where
  calm : Calm s.world (lseSchedClock s.world s.now)
  last : s.world.track.clockSuspended = true → s.world.track.clockLast ≤ s.now
  small : s.now < 18446744073709551616

theorem Sound.reached {s : Clocked} (sound : Sound s) : lseSchedClock s.world s.now ≤ s.now := by
  unfold lseSchedClock
  split_ifs with suspended
  · exact sound.last suspended
  · exact le_rfl

theorem Keeps.sound {s : Clocked} {v : World} (sound : Sound s) (later : s.now ≤ clock)
    (small : clock < 18446744073709551616) (keeps : Keeps s.world v (lseSchedClock s.world clock)) :
    Sound ⟨v,clock⟩ := by
  refine ⟨?_,?_,small⟩
  · have reads : lseSchedClock v clock = lseSchedClock s.world clock := keeps.sched_clock
    show Calm v (lseSchedClock v clock)
    rw [reads]
    exact keeps.calm
  · show v.track.clockSuspended = true → v.track.clockLast ≤ clock
    rw [keeps.suspended,keeps.last]
    exact fun suspended => (sound.last suspended).trans later

/-- A change of what the tracker does not keep. -/
theorem Sound.stays {s : Clocked} {v : World} (sound : Sound s) (keeps : Keeps s.world v (lseSchedClock s.world s.now)) :
    Sound ⟨v,s.now⟩ :=
  keeps.sound sound le_rfl sound.small

theorem allocLseTaskStruct_keeps (calm : Calm w clock) (t : ℕ) : Keeps w (allocLseTaskStruct w t) clock := by
  unfold allocLseTaskStruct
  split
  · exact calm.keeps le_rfl
  · refine ⟨⟨calm.positive,calm.word,calm.requested,calm.latest,calm.started,?_,calm.quiet⟩,rfl,rfl⟩
    refine stored_records ?_ (fun u _ => calm.unmarked u)
    rintro record ⟨⟩
    exact fun _ => rfl

theorem freeLseTaskStruct_keeps (calm : Calm w clock) (t : ℕ) : Keeps w (freeLseTaskStruct w t) clock := by
  refine ⟨⟨calm.positive,calm.word,calm.requested,calm.latest,calm.started,?_,calm.quiet⟩,rfl,rfl⟩
  refine stored_records ?_ (fun u _ => calm.unmarked u)
  rintro record ⟨⟩

/-- No event lets anything get ahead of the clock. -/
theorem event_calm {s : Clocked} {e : ClockEvent} (sound : Sound s) (admitted : Admitted s e) (inClock : InClock s e) :
    Sound (clockStep s e) := by
  obtain ⟨timely,late⟩ := admitted
  obtain ⟨room,near⟩ := inClock
  have onward : ∀ clock ∈ e.clock, Calm s.world (lseSchedClock s.world clock) :=
    fun clock read => sound.calm.later (lseSchedClock_mono (timely clock read).1)
  have reach : ∀ clock ∈ e.clock, ∀ cpu ∈ e.place, InReach s.world cpu (lseSchedClock s.world clock) :=
    fun clock read cpu there => ⟨(timely clock read).2.2 cpu there,room clock read cpu there⟩
  cases e with
  | schedule cpu next clock =>
    obtain ⟨later,small,_⟩ := timely clock rfl
    have hook := lseSchedule_keeps (onward clock rfl) (reach clock rfl cpu rfl) (s.world.rq cpu).curr next
    exact (hook.trans (switchTo_keeps hook.calm cpu next)).sound sound later small
  | tickEntry cpu clock =>
    obtain ⟨later,small,_⟩ := timely clock rfl
    exact (lseTickEntry_keeps (onward clock rfl) (reach clock rfl cpu rfl)).sound sound later small
  | shadowTick timer cpu clock =>
    obtain ⟨later,small,_⟩ := timely clock rfl
    exact (lseShadowTickCb_keeps (onward clock rfl) (reach clock rfl cpu rfl) timer).sound sound later small
  | irqWork cpu clock =>
    obtain ⟨later,small,_⟩ := timely clock rfl
    exact (lseIrqWork_keeps (onward clock rfl) (reach clock rfl cpu rfl)).sound sound later small
  | suspend clock =>
    obtain ⟨later,small,_⟩ := timely clock rfl
    have calm := sound.calm.later (sound.reached.trans later)
    exact ⟨⟨calm.positive,calm.word,calm.requested,calm.latest,calm.started,calm.unmarked,calm.quiet⟩,
      fun _ => le_rfl,small⟩
  | resume =>
    have calm := sound.calm.later sound.reached
    exact ⟨⟨calm.positive,calm.word,calm.requested,calm.latest,calm.started,calm.unmarked,calm.quiet⟩,
      fun none => absurd none Bool.false_ne_true,sound.small⟩
  | schedulerTick clock =>
    obtain ⟨later,small,_⟩ := timely clock rfl
    exact (lseSchedulerTick_keeps sound.calm later small late near).sound sound later small
  | request framePerSec =>
    obtain ⟨positive,word,_,latest,started,unmarked,quiet⟩ := sound.calm
    exact sound.stays ⟨⟨positive,word,u32OfInt_lt _,latest,started,unmarked,quiet⟩,rfl,rfl⟩
  | alloc t => exact sound.stays (allocLseTaskStruct_keeps sound.calm t)
  | free t => exact sound.stays (freeLseTaskStruct_keeps sound.calm t)
  | around e =>
    obtain ⟨positive,word,requested,latest,started,unmarked,quiet⟩ := sound.calm
    exact sound.stays ⟨⟨positive,word,requested,latest,started,unmarked,quiet⟩,rfl,rfl⟩

end

theorem fresh_sound {w : World} (fresh : Fresh w) : Sound ⟨w,0⟩ := by
  have reads : lseSchedClock w 0 = 0 := by simp [lseSchedClock,fresh.running]
  refine ⟨?_,fun suspended => absurd (suspended.symm.trans fresh.running) (by decide),
    show 0 < 18446744073709551616 by decide⟩
  show Calm w (lseSchedClock w 0)
  rw [reads]
  exact ⟨fresh.positive,fresh.word,fresh.requested,fun cpu => (fresh.lrq cpu).2.le,fun cpu => (fresh.lrq cpu).1.le,
    fun t lts present _ => fresh.lts t lts present,fresh.quiet⟩

/-- From the load of the module on, in any order of the events, the tracker never
    reports anything when the seeding tick and the clock are as in `InClock`. -/
theorem never_reports (w : World) (fresh : Fresh w) (run : List ClockEvent)
    (admitted : Along clockStep Admitted ⟨w,0⟩ run) (inClock : Along clockStep InClock ⟨w,0⟩ run) :
    NoReport (exec clockStep ⟨w,0⟩ run) :=
  (exec_invariant Sound (fun _ _ sound (ok : Admitted _ _ ∧ InClock _ _) => event_calm sound ok.1 ok.2)
    (fresh_sound fresh) (along_and.mpr ⟨admitted,inClock⟩)).calm.quiet

/-- The windows are seeded 100 µs into a suspension: the next tick reads the clock of
    the suspension, which is before them. And 21 µs before the clock ends, a window
    that starts then has no end. -/
theorem reports_behind_window :
    Fresh (World.boot 1 (fun _ => plainTask)) ∧
      Along clockStep Admitted ⟨World.boot 1 (fun _ => plainTask),0⟩
        [.suspend 1000000,.schedulerTick 1100000,.tickEntry 0 1200000] ∧
      ¬ NoReport (exec clockStep ⟨World.boot 1 (fun _ => plainTask),0⟩
        [.suspend 1000000,.schedulerTick 1100000,.tickEntry 0 1200000]) ∧
      Along clockStep Admitted ⟨World.boot 1 (fun _ => plainTask),0⟩
        [.schedulerTick 18446744073709550616,.tickEntry 0 18446744073709550716] ∧
      ¬ NoReport (exec clockStep ⟨World.boot 1 (fun _ => plainTask),0⟩
        [.schedulerTick 18446744073709550616,.tickEntry 0 18446744073709550716]) :=
  ⟨boot_fresh _ _,by decide +kernel,by decide +kernel,by decide +kernel,by decide +kernel⟩

/-- A window that is seeded before the suspension is behind its clock. -/
theorem never_reports_suspended :
    NoReport (exec clockStep ⟨World.boot 1 (fun _ => plainTask),0⟩
      [.schedulerTick 1000000,.suspend 1010000,.tickEntry 0 1200000,.resume,.schedule 0 3 9500000]) :=
  never_reports _ (boot_fresh _ _) _ (by decide +kernel) (by decide +kernel)

end LunarSched.ClockSafety
