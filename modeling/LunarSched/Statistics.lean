import LunarSched.Watchdog
import Mathlib.Data.Finset.Card

/-!
The counters of the monitor against what they count. From a reset on, as long as
`slim_stats` is set, `update_cnt` is the number of times a hook moved the mark of a
task's record, `rollover_cnt` the number of rollovers that were queued, and
`tick_cnt` the number of other values of `jiffies` at which the scheduler showed a
sign of life (`statistics_exact`).
-/
namespace LunarSched.Statistics
open LunarSched.Machine LunarSched.Kernel LunarSched.UtilTrack LunarSched.Dsq LunarSched.ShadowTick LunarSched.Hooks
open LunarSched.Accounts LunarSched.Monitor LunarSched.MonitoredHooks LunarSched.Runs
open LunarSched.Watchdog (signOfLife touch_mem_hookCalls touch_not_mem_updateCalls)

/-- The tasks that a hook may update. -/
def involved (w : World) : SystemEvent → List ℕ
  | .schedule cpu next _ => if (w.rq cpu).curr = next then [next] else [(w.rq cpu).curr,next]
  | .tickEntry cpu _ | .shadowTick _ cpu _ | .irqWork cpu _ => [(w.rq cpu).curr]
  | _ => []

/-- How many of them have another mark after the hook. -/
def moved (w : World) (e : SystemEvent) : ℕ := (involved w e).countP (fun t => mark (hook w e) t ≠ mark w t)

/-- A run with the number of marks that hooks moved, and the times of the signs of life. -/
structure Counted where
  system : System
  marks : ℕ
  lives : Finset ℕ

def countStep (s : Counted) (e : SystemEvent) : Counted where
  system := systemStep s.system e
  marks := s.marks + moved s.system.world e
  lives := if signOfLife s.system.world e then insert s.system.world.dsq.jiffies s.lives else s.lives

/-- The statistics are reset now. -/
def counted (s : System) : Counted := ⟨⟨s.world,lseMonitorResetStats s.world s.monitor⟩,0,∅⟩

/-- The statistics stay on and are not reset, nothing but the hooks queues rollovers, and
    `jiffies` does not go back. -/
def Counting (s : Counted) : SystemEvent → Prop
  | .others v => v.dsq.slimStats ≠ 0 ∧ v.track.rollovers = s.system.world.track.rollovers ∧
      s.system.world.dsq.jiffies ≤ v.dsq.jiffies
  | .monitor (.resetStats count) => count = 0
  | _ => True

instance (s : Counted) : (e : SystemEvent) → Decidable (Counting s e)
  | .others _ => inferInstanceAs (Decidable (_ ∧ _ ∧ _))
  | .monitor (.resetStats _) => inferInstanceAs (Decidable (_ = _))
  | .monitor .heartbeatTimer | .monitor .watchdogWork | .monitor (.heartbeatEnable _) | .monitor (.watchdogEnable _)
  | .monitor (.heartbeat _) | .schedulerTick _ | .schedule _ _ _ | .tickEntry _ _ | .shadowTick _ _ _
  | .irqWork _ _ => isTrue trivial

section
variable {w : World}

/-- The calls count what the update does to the task's mark and to the rollovers. -/
structure Tallies (w v : World) (tasks : List ℕ) (calls : List MonitorCall) : Prop where
  updates : calls.count .recordUpdate = tasks.countP (fun t => mark v t ≠ mark w t)
  rollovers : v.track.rollovers.length = w.track.rollovers.length + calls.count .recordRollover

theorem rollover_length (g : Track) (oldWindowStart : ℕ) (lrq : LseRq) :
    (lseWindowRolloverRunOnce g oldWindowStart lrq).rollovers.length =
      g.rollovers.length + if oldWindowStart ≠ lrq.windowStart ∧ g.rolloverLastqWs = oldWindowStart then 1 else 0 := by
  rcases rollover_cases g oldWindowStart lrq with ⟨moves,token,ran⟩ | ⟨not,ran⟩
  · rw [ran,if_pos ⟨moves,token⟩]
    rfl
  · rw [ran,if_neg (fun both => not.elim both.1 (fun lost => lost both.2)),Nat.add_zero]

theorem updateCalls_tallies (w : World) (t cpu : ℕ) (event : TaskEvent) (wallclock : ℕ) :
    Tallies w (updateIfTracked w t cpu event wallclock) [t] (updateCalls w t cpu event wallclock) := by
  cases present : w.lts t with
  | none =>
    rw [updateIfTracked_absent event cpu wallclock (Or.inr present)]
    simp only [updateCalls,present]
    exact ⟨by simp,rfl⟩
  | some lts =>
    by_cases skipped : Skipped w lts cpu wallclock
    · have again : Skipped w (lseRefreshTaskHint w.track lts (w.task t)) cpu wallclock := skipped
      have kept : mark (updateIfTracked w t cpu event wallclock) t = mark w t := by
        by_cases off : w.track.slimWaltCtrl = 0
        · rw [updateIfTracked_absent event cpu wallclock (Or.inl off)]
        · have effect := updateIfTracked_effect event cpu wallclock off present
          rw [effect.mark_eq,if_pos rfl,(records_skipped event skipped).1,mark_of_lts present]
          rfl
      have queued : (updateIfTracked w t cpu event wallclock).track.rollovers = w.track.rollovers := by
        obtain ⟨record,same⟩ := lseUpdateTaskRavg_skipped (t := t) event skipped
        simp only [updateIfTracked,present,same]
      have none : updateCalls w t cpu event wallclock = [] := by
        simp only [updateCalls,present,if_pos again]
      rw [none]
      exact ⟨by simp [kept],by rw [queued]; rfl⟩
    · have again : ¬ Skipped w (lseRefreshTaskHint w.track lts (w.task t)) cpu wallclock := skipped
      have on : w.track.slimWaltCtrl ≠ 0 := fun off => skipped (Or.inl off)
      have other : lts.markStart ≠ wallclock := fun same => skipped (Or.inr (Or.inr same))
      have taken := lseUpdateTaskRavg_taken t event skipped
      have changed : mark (updateIfTracked w t cpu event wallclock) t ≠ mark w t := by
        have effect := updateIfTracked_effect event cpu wallclock on present
        have marked : (accountOf (records w lts t cpu event wallclock).1).mark = wallclock := by
          simp only [records,skipped,if_false]
          rfl
        rw [effect.mark_eq,if_pos rfl,marked,mark_of_lts present]
        exact other.symm
      have calls : updateCalls w t cpu event wallclock =
          if rollsOver w (lseRefreshTaskHint w.track lts (w.task t)) t cpu event wallclock then
            [.recordRollover,.recordUpdate] else [.recordUpdate] := by
        simp only [updateCalls,present,if_neg again]
      have ran : (updateIfTracked w t cpu event wallclock).track.rollovers.length = w.track.rollovers.length +
          if rollsOver w (lseRefreshTaskHint w.track lts (w.task t)) t cpu event wallclock then 1 else 0 := by
        simp only [updateIfTracked,present,taken,rollover_length,rollsOver,decide_eq_true_eq]
      rw [calls]
      refine ⟨?_,?_⟩
      · split_ifs <;> simp [changed]
      · rw [ran]
        split_ifs <;> simp

/-- An update moves no other task's mark. -/
theorem mark_other {u t : ℕ} (other : u ≠ t) (cpu : ℕ) (event : TaskEvent) (wallclock : ℕ) :
    mark (updateIfTracked w t cpu event wallclock) u = mark w u := by
  cases present : w.lts t with
  | none => rw [updateIfTracked_absent event cpu wallclock (Or.inr present)]
  | some lts =>
    by_cases off : w.track.slimWaltCtrl = 0
    · rw [updateIfTracked_absent event cpu wallclock (Or.inl off)]
    · rw [(updateIfTracked_effect event cpu wallclock off present).mark_eq,if_neg other]

/-- Two updates of different tasks one after the other. -/
theorem tallies_two {t u cpu : ℕ} (other : t ≠ u) {event next : TaskEvent} (first second : ℕ) :
    Tallies w (updateIfTracked (updateIfTracked w t cpu event first) u cpu next second) [t,u]
      (updateCalls w t cpu event first ++ updateCalls (updateIfTracked w t cpu event first) u cpu next second) := by
  obtain ⟨one,queued⟩ := updateCalls_tallies w t cpu event first
  obtain ⟨two,again⟩ := updateCalls_tallies (updateIfTracked w t cpu event first) u cpu next second
  refine ⟨?_,?_⟩
  · rw [List.count_append,one,two]
    simp only [List.countP_cons,List.countP_nil,mark_other other cpu next second,mark_other other.symm cpu event first]
    omega
  · rw [again,queued,List.count_append]
    omega

theorem tallies_none {v : World} (tasks : List ℕ) (marks : ∀ t, mark v t = mark w t)
    (rollovers : v.track.rollovers = w.track.rollovers) : Tallies w v tasks [] := by
  refine ⟨?_,by rw [rollovers]; rfl⟩
  simp [marks]

/-- What neither moves a mark nor queues a rollover changes no tally. -/
theorem Tallies.after {u v : World} {tasks : List ℕ} {calls : List MonitorCall} (tallies : Tallies w v tasks calls)
    (marks : ∀ t, mark u t = mark v t) (rollovers : u.track.rollovers = v.track.rollovers) :
    Tallies w u tasks calls := by
  refine ⟨?_,by rw [rollovers,tallies.rollovers]⟩
  simp only [tallies.updates,marks]

theorem scheduleRavg_tallies (w : World) (cpu prev next clock : ℕ) (on : w.track.slimWaltCtrl ≠ 0) :
    Tallies w (scheduleRavg w cpu prev next clock) (if prev = next then [next] else [prev,next])
      (scheduleCalls w cpu prev next clock) := by
  unfold scheduleRavg scheduleCalls
  rw [if_neg on]
  by_cases same : prev = next
  · rw [if_neg (not_not_intro same),if_neg (not_not_intro same),if_pos same,← same]
    exact updateCalls_tallies w prev cpu .taskUpdate _
  · rw [if_pos same,if_pos same,if_neg same]
    exact tallies_two same _ _

theorem schedulerTick_tallies (w : World) (clock : ℕ) : Tallies w (lseSchedulerTick w clock) [] (schedulerTickCalls w) := by
  have kept : (lseSchedulerTick w clock).track.rollovers = w.track.rollovers := by
    unfold lseSchedulerTick
    simp only [apply_ite World.track,apply_ite Track.rollovers,ite_self]
  refine ⟨?_,?_⟩
  · simp only [schedulerTickCalls,List.countP_nil]
    split_ifs <;> rfl
  · rw [kept]
    simp only [schedulerTickCalls]
    split_ifs <;> rfl

theorem schedule_tallies (w : World) (cpu next clock : ℕ) :
    Tallies w (hook w (.schedule cpu next clock)) (involved w (.schedule cpu next clock))
      (hookCalls w (.schedule cpu next clock)) := by
  by_cases off : w.track.slimWaltCtrl = 0
  · have calls : hookCalls w (.schedule cpu next clock) = [] := by
      simp only [hookCalls,scheduleCalls,off,if_true]
    have still : lseSchedule w cpu (w.rq cpu).curr next clock = w := if_pos off
    rw [calls,hook,still]
    exact tallies_none _ (fun _ => rfl) rfl
  · have after := afterRavg_queues (scheduleRavg w cpu (w.rq cpu).curr next clock) cpu (w.rq cpu).curr next
    have ran : lseSchedule w cpu (w.rq cpu).curr next clock =
        lseShadowTickUpdateCpu (lseDsqOnSchedule (scheduleRavg w cpu (w.rq cpu).curr next clock) cpu
          (w.rq cpu).curr next) cpu cpu := if_neg off
    have marks : mark (hook w (.schedule cpu next clock)) = mark (lseSchedule w cpu (w.rq cpu).curr next clock) := rfl
    have track : (hook w (.schedule cpu next clock)).track = (lseSchedule w cpu (w.rq cpu).curr next clock).track := rfl
    have tallies := scheduleRavg_tallies w cpu (w.rq cpu).curr next clock off
    have rest := congrArg World.track after.rest
    rw [ran] at marks track
    exact tallies.after (fun t => (congrFun marks t).trans (after.same.mark_eq t)) (by rw [track,rest])

theorem tickEntry_tallies (w : World) (cpu clock : ℕ) :
    Tallies w (lseTickEntry w cpu clock) [(w.rq cpu).curr] (tickEntryCalls w cpu clock) := by
  by_cases off : w.track.slimWaltCtrl = 0
  · have calls : tickEntryCalls w cpu clock = [] := if_pos off
    have still : lseTickEntry w cpu clock = w := if_pos off
    rw [calls,still]
    exact tallies_none _ (fun _ => rfl) rfl
  · have calls : tickEntryCalls w cpu clock =
        .touch :: updateCalls w (w.rq cpu).curr cpu .taskUpdate (lseRqClock w cpu clock) := if_neg off
    have ran : lseTickEntry w cpu clock =
        updateIfTracked w (w.rq cpu).curr cpu .taskUpdate (lseRqClock w cpu clock) := if_neg off
    obtain ⟨updates,rollovers⟩ := updateCalls_tallies w (w.rq cpu).curr cpu .taskUpdate (lseRqClock w cpu clock)
    rw [calls,ran]
    exact ⟨by simpa using updates,by simpa using rollovers⟩

theorem shadowTick_tallies (w : World) (timer cpu clock : ℕ) :
    Tallies w (lseShadowTickCb w timer cpu clock) [(w.rq cpu).curr] (shadowTickCalls w cpu clock) := by
  by_cases off : lseShadowTickEnabled w = false ∨ w.track.slimWaltCtrl = 0
  · have calls : shadowTickCalls w cpu clock = [] := if_pos off
    have stopped : lseShadowTickCb w timer cpu clock = { w with shadow := { w.shadow with
        queuedOn := Function.update w.shadow.queuedOn timer none
        armed := Function.update w.shadow.armed cpu false } } := if_pos off
    rw [calls,stopped]
    exact tallies_none _ (fun _ => rfl) rfl
  · have ran : lseShadowTickCb w timer cpu clock =
        if (w.rq cpu).curr ≠ (w.rq cpu).idle then
          updateIfTracked w (w.rq cpu).curr cpu .taskUpdate (lseSchedClock w clock) else w := if_neg off
    have calls : shadowTickCalls w cpu clock =
        if shadowTracks w cpu then updateCalls w (w.rq cpu).curr cpu .taskUpdate (lseSchedClock w clock)
        else [.touch] := if_neg off
    rw [calls,ran]
    by_cases idle : (w.rq cpu).curr = (w.rq cpu).idle
    · have untracked : ¬ shadowTracks w cpu = true := by simp [shadowTracks,idle]
      rw [if_neg (not_not_intro idle),if_neg untracked]
      exact ⟨by simp,rfl⟩
    · rw [if_pos idle]
      cases present : w.lts (w.rq cpu).curr with
      | none =>
        have untracked : ¬ shadowTracks w cpu = true := by simp [shadowTracks,present]
        rw [if_neg untracked,updateIfTracked_absent .taskUpdate cpu _ (Or.inr present)]
        exact ⟨by simp,rfl⟩
      | some lts =>
        have tracked : shadowTracks w cpu = true := by simp [shadowTracks,present,idle]
        rw [if_pos tracked]
        exact updateCalls_tallies w (w.rq cpu).curr cpu .taskUpdate (lseSchedClock w clock)

theorem irqWork_tallies (w : World) (cpu clock : ℕ) : Tallies w (lseIrqWork w cpu clock) [(w.rq cpu).curr]
    (updateCalls w (w.rq cpu).curr cpu .taskUpdate (lseSchedClock w clock)) := by
  have commits : ∀ v : World, ∀ wallclock, mark (commitWindow v cpu wallclock) = mark v ∧
      (commitWindow v cpu wallclock).track.rollovers = v.track.rollovers := by
    intro v wallclock
    unfold commitWindow
    split_ifs
    · exact ⟨rfl,rfl⟩
    · exact ⟨rfl,rfl⟩
  have tallies := updateCalls_tallies w (w.rq cpu).curr cpu .taskUpdate (lseSchedClock w clock)
  exact tallies.after (fun t => congrFun (commits _ _).1 t) (commits _ _).2

/-- The calls of every hook count its work. -/
theorem hookCalls_tallies (w : World) {e : SystemEvent} (inside : ∀ v, e ≠ .others v) :
    Tallies w (hook w e) (involved w e) (hookCalls w e) := by
  cases e with
  | schedulerTick clock => exact schedulerTick_tallies w clock
  | schedule cpu next clock => exact schedule_tallies w cpu next clock
  | tickEntry cpu clock => exact tickEntry_tallies w cpu clock
  | shadowTick timer cpu clock => exact shadowTick_tallies w timer cpu clock
  | irqWork cpu clock => exact irqWork_tallies w cpu clock
  | monitor m => exact tallies_none [] (fun _ => rfl) rfl
  | others v => exact absurd rfl (inside v)

end

/-! ### The counters -/

theorem u64_add (n k : ℕ) : u64 (u64 n + k) = u64 (n + k) := by
  unfold u64
  omega

section
variable {w : World}

/-- A counter that only its own call increments counts these calls. -/
theorem monitorCalls_counter (field : LseMonitor → ℕ) {own : MonitorCall} (on : w.dsq.slimStats ≠ 0)
    (counts : ∀ m, field (monitorCall w m own) = lseStatsInc w (field m))
    (others : ∀ m, ∀ c ≠ own, field (monitorCall w m c) = field m) (calls : List MonitorCall) :
    ∀ {m : LseMonitor} {n : ℕ}, field m = u64 n → field (monitorCalls w m calls) = u64 (n + calls.count own) := by
  induction calls with
  | nil => exact fun counted => counted
  | cons c rest ih =>
    intro m n counted
    rw [monitorCalls_cons]
    by_cases same : c = own
    · have one : field (monitorCall w m c) = u64 (n + 1) := by
        rw [same,counts,lseStatsInc,if_pos on,counted,u64_add]
      rw [ih one,same,List.count_cons_self,Nat.add_assoc,Nat.add_comm 1]
    · rw [ih ((others m c same).trans counted),List.count_cons_of_ne same]

theorem monitorCalls_updates (on : w.dsq.slimStats ≠ 0) (calls : List MonitorCall) {m : LseMonitor} {n : ℕ}
    (counted : m.updateCnt = u64 n) : (monitorCalls w m calls).updateCnt = u64 (n + calls.count .recordUpdate) := by
  refine monitorCalls_counter LseMonitor.updateCnt on (fun _ => rfl) ?_ calls counted
  intro m c other
  cases c with
  | touch =>
    simp only [monitorCall,lseMonitorTouch,lseStatsRecordTick]
    split_ifs <;> rfl
  | recordRollover => rfl
  | recordUpdate => exact absurd rfl other

theorem monitorCalls_rollovers (on : w.dsq.slimStats ≠ 0) (calls : List MonitorCall) {m : LseMonitor} {n : ℕ}
    (counted : m.rolloverCnt = u64 n) :
    (monitorCalls w m calls).rolloverCnt = u64 (n + calls.count .recordRollover) := by
  refine monitorCalls_counter LseMonitor.rolloverCnt on (fun _ => rfl) ?_ calls counted
  intro m c other
  cases c with
  | touch =>
    simp only [monitorCall,lseMonitorTouch,lseStatsRecordTick]
    split_ifs <;> rfl
  | recordUpdate => rfl
  | recordRollover => exact absurd rfl other

/-- Touches count a tick once for each value of `jiffies`. -/
theorem monitorCalls_ticks (on : w.dsq.slimStats ≠ 0) (calls : List MonitorCall) :
    ∀ {m : LseMonitor} {n : ℕ}, m.tickCnt = u64 n →
      (monitorCalls w m calls).tickCnt =
          u64 (n + if MonitorCall.touch ∈ calls ∧ w.dsq.jiffies ≠ m.heartbeatLastTouch then 1 else 0) ∧
        (monitorCalls w m calls).heartbeatLastTouch =
          if MonitorCall.touch ∈ calls then w.dsq.jiffies else m.heartbeatLastTouch := by
  induction calls with
  | nil => exact fun counted => ⟨by simpa using counted,rfl⟩
  | cons c rest ih =>
    intro m n counted
    cases c with
    | recordUpdate =>
      have kept : (monitorCall w m .recordUpdate).heartbeatLastTouch = m.heartbeatLastTouch := rfl
      obtain ⟨ticks,last⟩ := ih (m := monitorCall w m .recordUpdate) counted
      rw [kept] at ticks last
      exact ⟨by simpa using ticks,by simpa using last⟩
    | recordRollover =>
      have kept : (monitorCall w m .recordRollover).heartbeatLastTouch = m.heartbeatLastTouch := rfl
      obtain ⟨ticks,last⟩ := ih (m := monitorCall w m .recordRollover) counted
      rw [kept] at ticks last
      exact ⟨by simpa using ticks,by simpa using last⟩
    | touch =>
      have last : (monitorCall w m .touch).heartbeatLastTouch = w.dsq.jiffies := by
        simp only [monitorCall,lseMonitorTouch]
        split_ifs with new
        · rfl
        · exact (not_not.mp new).symm
      have ticks : (monitorCall w m .touch).tickCnt =
          u64 (n + if w.dsq.jiffies ≠ m.heartbeatLastTouch then 1 else 0) := by
        simp only [monitorCall,lseMonitorTouch,lseStatsRecordTick,lseStatsInc,if_pos on]
        split_ifs
        · rw [counted,u64_add]
        · exact counted
      obtain ⟨more,final⟩ := ih ticks
      rw [last] at more final
      refine ⟨?_,?_⟩
      · simpa using more
      · simpa using final

/-- The events of the monitor count nothing. -/
theorem monitorStep_counters {m : LseMonitor} (inited : m.inited = true) {e : MonitorEvent}
    (kept : ∀ count, e = .resetStats count → count = 0) :
    (monitorStep w m e).updateCnt = m.updateCnt ∧ (monitorStep w m e).rolloverCnt = m.rolloverCnt ∧
      (monitorStep w m e).tickCnt = m.tickCnt ∧ (monitorStep w m e).heartbeatLastTouch = m.heartbeatLastTouch := by
  cases e with
  | heartbeatTimer =>
    rw [monitorStep]
    split_ifs
    · obtain ⟨_,_,_,ran,_⟩ := heartbeatTimerFn_frame w m
      rw [ran]
      exact ⟨rfl,rfl,rfl,rfl⟩
    · exact ⟨rfl,rfl,rfl,rfl⟩
  | watchdogWork =>
    rw [monitorStep]
    split_ifs
    · obtain ⟨_,_,ran⟩ := watchdogWorkfn_frame w m
      rw [ran]
      exact ⟨rfl,rfl,rfl,rfl⟩
    · exact ⟨rfl,rfl,rfl,rfl⟩
  | heartbeatEnable val =>
    rw [monitorStep]
    rcases toggle_cases val (show (storeHeartbeatEnable val m).inited = true from inited) with ⟨_,same⟩ | ⟨_,stored⟩
    · rw [same]
      exact ⟨rfl,rfl,rfl,rfl⟩
    · rw [stored]
      exact ⟨rfl,rfl,rfl,rfl⟩
  | watchdogEnable val =>
    rw [monitorStep]
    rcases toggle_cases val (show (storeWatchdogEnable val m).inited = true from inited) with ⟨_,same⟩ | ⟨_,stored⟩
    · rw [same]
      exact ⟨rfl,rfl,rfl,rfl⟩
    · rw [stored]
      exact ⟨rfl,rfl,rfl,rfl⟩
  | heartbeat val => exact ⟨rfl,rfl,rfl,rfl⟩
  | resetStats count =>
    have none : count = 0 := kept count rfl
    rw [monitorStep,lseProcStatsResetWrite,if_neg (not_not_intro none)]
    exact ⟨rfl,rfl,rfl,rfl⟩

end

/-- The counters are those of the run, which started with the rollovers and at the time of `w`. -/
structure Exact (w : World) (s : Counted) : Prop where
  armed : Armed s.system.monitor
  on : s.system.world.dsq.slimStats ≠ 0
  updates : s.system.monitor.updateCnt = u64 s.marks
  queued : w.track.rollovers.length ≤ s.system.world.track.rollovers.length
  rollovers : s.system.monitor.rolloverCnt =
    u64 (s.system.world.track.rollovers.length - w.track.rollovers.length)
  ticks : s.system.monitor.tickCnt = u64 (s.lives.erase w.dsq.jiffies).card
  last : s.system.monitor.heartbeatLastTouch = w.dsq.jiffies ∨ s.system.monitor.heartbeatLastTouch ∈ s.lives
  latest : w.dsq.jiffies ≤ s.system.monitor.heartbeatLastTouch ∧
    ∀ j ∈ s.lives, j ≤ s.system.monitor.heartbeatLastTouch
  past : s.system.monitor.heartbeatLastTouch ≤ s.system.world.dsq.jiffies

theorem hooked_exact {w : World} {s : Counted} {e : SystemEvent} (exact_so_far : Exact w s)
    (outside : ∀ m, e ≠ .monitor m) (inside : ∀ v, e ≠ .others v) : Exact w (countStep s e) := by
  have same := hook_clock s.system.world inside
  have world : (countStep s e).system.world = hook s.system.world e := systemStep_world s.system e
  have monitor : (countStep s e).system.monitor =
      monitorCalls s.system.world s.system.monitor (hookCalls s.system.world e) := systemStep_hooked s.system outside
  obtain ⟨updates,rollovers⟩ := hookCalls_tallies s.system.world inside
  obtain ⟨ticks,last⟩ := monitorCalls_ticks exact_so_far.on (hookCalls s.system.world e) exact_so_far.ticks
  simp only [touch_mem_hookCalls s.system.world outside] at ticks last
  have queued := exact_so_far.queued
  have past := exact_so_far.past
  have latest := exact_so_far.latest
  refine ⟨systemStep_armed exact_so_far.armed e,?_,?_,?_,?_,?_,?_,?_,?_⟩
  · rw [world,same.slimStats]
    exact exact_so_far.on
  · rw [monitor,monitorCalls_updates exact_so_far.on _ exact_so_far.updates,updates]
    rfl
  · rw [world,rollovers]
    omega
  · rw [monitor,world,monitorCalls_rollovers exact_so_far.on _ exact_so_far.rollovers,rollovers]
    congr 1
    omega
  · rw [monitor,ticks]
    by_cases life : signOfLife s.system.world e = true
    · have lives : (countStep s e).lives = insert s.system.world.dsq.jiffies s.lives := if_pos life
      rw [lives]
      by_cases again : s.system.world.dsq.jiffies = s.system.monitor.heartbeatLastTouch
      · rw [if_neg (fun both => both.2 again),Nat.add_zero]
        rcases exact_so_far.last with start | before
        · rw [again.trans start,Finset.erase_insert_eq_erase]
        · rw [Finset.insert_eq_of_mem (again ▸ before)]
      · have fresh : s.system.world.dsq.jiffies ∉ s.lives := by
          intro member
          have bound := latest.2 _ member
          omega
        have later : s.system.world.dsq.jiffies ≠ w.dsq.jiffies := by omega
        rw [if_pos ⟨life,again⟩,Finset.erase_insert_of_ne later,
          Finset.card_insert_of_notMem (fun member => fresh (Finset.mem_of_mem_erase member))]
    · have lives : (countStep s e).lives = s.lives := if_neg life
      rw [lives,if_neg (fun both => life both.1),Nat.add_zero]
  · rw [monitor,last]
    by_cases life : signOfLife s.system.world e = true
    · have lives : (countStep s e).lives = insert s.system.world.dsq.jiffies s.lives := if_pos life
      rw [lives,if_pos life]
      exact Or.inr (Finset.mem_insert_self _ _)
    · have lives : (countStep s e).lives = s.lives := if_neg life
      rw [lives,if_neg life]
      exact exact_so_far.last
  · rw [monitor,last]
    by_cases life : signOfLife s.system.world e = true
    · have lives : (countStep s e).lives = insert s.system.world.dsq.jiffies s.lives := if_pos life
      rw [lives,if_pos life]
      refine ⟨latest.1.trans past,fun j member => ?_⟩
      rcases Finset.mem_insert.mp member with now | before
      · exact now.le
      · exact (latest.2 j before).trans past
    · have lives : (countStep s e).lives = s.lives := if_neg life
      rw [lives,if_neg life]
      exact latest
  · rw [monitor,last,world,same.jiffies]
    split_ifs
    · exact le_rfl
    · exact past

theorem countStep_exact {w : World} {s : Counted} {e : SystemEvent} (exact_so_far : Exact w s) (counting : Counting s e) :
    Exact w (countStep s e) := by
  have inner : (∀ m, e ≠ .monitor m) → (∀ v, e ≠ .others v) → Exact w (countStep s e) := hooked_exact exact_so_far
  cases e with
  | schedulerTick clock => exact inner (fun _ => SystemEvent.noConfusion) (fun _ => SystemEvent.noConfusion)
  | schedule cpu next clock => exact inner (fun _ => SystemEvent.noConfusion) (fun _ => SystemEvent.noConfusion)
  | tickEntry cpu clock => exact inner (fun _ => SystemEvent.noConfusion) (fun _ => SystemEvent.noConfusion)
  | shadowTick timer cpu clock => exact inner (fun _ => SystemEvent.noConfusion) (fun _ => SystemEvent.noConfusion)
  | irqWork cpu clock => exact inner (fun _ => SystemEvent.noConfusion) (fun _ => SystemEvent.noConfusion)
  | others v =>
    obtain ⟨on,queued,later⟩ := counting
    have rollovers : v.track.rollovers.length = s.system.world.track.rollovers.length := congrArg List.length queued
    exact ⟨exact_so_far.armed,on,exact_so_far.updates,exact_so_far.queued.trans rollovers.ge,
      by simpa [countStep,systemStep,hook,hookCalls,monitorCalls,rollovers] using exact_so_far.rollovers,
      exact_so_far.ticks,exact_so_far.last,exact_so_far.latest,exact_so_far.past.trans later⟩
  | monitor m =>
    have kept : ∀ count, m = .resetStats count → count = 0 := by
      rintro count rfl
      exact counting
    have silent : signOfLife s.system.world (.monitor m) = false := by
      cases m with
      | resetStats count => simp [signOfLife,kept count rfl]
      | _ => rfl
    have lives : (countStep s (.monitor m)).lives = s.lives := by simp [countStep,silent]
    obtain ⟨updates,rollovers,ticks,last⟩ :=
      monitorStep_counters (w := s.system.world) exact_so_far.armed.inited kept
    have monitor : (countStep s (.monitor m)).system.monitor = monitorStep s.system.world s.system.monitor m := rfl
    refine ⟨systemStep_armed exact_so_far.armed _,exact_so_far.on,?_,exact_so_far.queued,?_,?_,?_,?_,?_⟩
    · rw [monitor,updates]
      exact exact_so_far.updates
    · rw [monitor,rollovers]
      exact exact_so_far.rollovers
    · rw [monitor,ticks,lives]
      exact exact_so_far.ticks
    · rw [monitor,last,lives]
      exact exact_so_far.last
    · rw [monitor,last,lives]
      exact exact_so_far.latest
    · rw [monitor,last]
      exact exact_so_far.past

/-- From a reset on, in every run in which `slim_stats` stays set, the three counters are
    the numbers of marks moved by the hooks, of rollovers queued, and of other times at
    which there was a sign of life. -/
theorem statistics_exact (s : System) (armed : Armed s.monitor) (on : s.world.dsq.slimStats ≠ 0)
    {events : List SystemEvent} (counting : Along countStep Counting (counted s) events) :
    let t := exec countStep (counted s) events
    t.system.monitor.updateCnt = u64 t.marks ∧
      t.system.monitor.rolloverCnt =
        u64 (t.system.world.track.rollovers.length - s.world.track.rollovers.length) ∧
      t.system.monitor.tickCnt = u64 (t.lives.erase s.world.dsq.jiffies).card := by
  have start : Exact s.world (counted s) :=
    ⟨⟨armed.inited,armed.heartbeat,armed.watchdog⟩,on,rfl,le_rfl,by simp [counted,lseMonitorResetStats,u64],rfl,
      Or.inl rfl,⟨le_rfl,fun _ member => absurd member (Finset.notMem_empty _)⟩,le_rfl⟩
  have kept := exec_invariant (Exact s.world) (fun s e held ok => countStep_exact held ok) start counting
  exact ⟨kept.updates,kept.rollovers,kept.ticks⟩

/-- One CPU with its windows seeded at 1000000 and the statistics on, at a time of `jiffies`. -/
def seededAt (jiffies : ℕ) : World :=
  let w := lseSchedulerTick (World.boot 1 (fun _ => plainTask)) 1020000
  { w with dsq := { w.dsq with slimStats := 1, jiffies := jiffies } }

/-- The same after a tick in the first window, at a later time of `jiffies`. -/
def tickedAt (jiffies : ℕ) : World :=
  let w := lseTickEntry (seededAt 5) 0 1500000
  { w with dsq := { w.dsq with jiffies := jiffies } }

/-- A tick at the time of the reset and a later one in the next window. -/
theorem statistics_exact_ticks :
    let t := exec countStep (counted (System.init (seededAt 5) 0))
      [.tickEntry 0 1500000,.others (tickedAt 6),.tickEntry 0 9500000]
    t.system.monitor.updateCnt = 2 ∧ t.system.monitor.rolloverCnt = 1 ∧ t.system.monitor.tickCnt = 1 := by
  obtain ⟨updates,rollovers,ticks⟩ := statistics_exact (System.init (seededAt 5) 0) (init_armed _ _) (by decide)
    (show Along countStep Counting (counted (System.init (seededAt 5) 0))
      [.tickEntry 0 1500000,.others (tickedAt 6),.tickEntry 0 9500000] by decide +kernel)
  exact ⟨updates.trans (by decide +kernel),rollovers.trans (by decide +kernel),ticks.trans (by decide +kernel)⟩

end LunarSched.Statistics
