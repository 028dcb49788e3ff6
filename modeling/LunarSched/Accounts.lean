import LunarSched.Hooks

/-!
What the entry points do to the accounts of running time. `Account` is the part of
a task's record that the load tracker reads and writes to account time. A call of
the tracker stores the records that `records` computes and moves at most the
rollover token (`updateIfTracked_eq`); the dispatch queues and the shadow ticks
leave every account alone (`OnlyQueues.same`).
-/
namespace LunarSched.Accounts
open LunarSched.Machine LunarSched.Kernel LunarSched.UtilTrack LunarSched.Dsq LunarSched.ShadowTick LunarSched.Hooks

/-- What a task's record says about its running time. -/
structure Account where
  mark : ℕ
  sum : ℕ
  history : List ℕ
  slot : ℕ
deriving DecidableEq

def accountOf (lts : LseTaskStruct) : Account := ⟨lts.markStart,lts.sum,lts.sumHistory,lts.cidx⟩

/-- The account of a task, if it has a record. -/
def account (w : World) (t : ℕ) : Option Account := (w.lts t).map accountOf

/-- The mark of a task, 0 without a record. -/
def mark (w : World) (t : ℕ) : ℕ := ((account w t).map Account.mark).getD 0

theorem account_of_lts {w : World} {t : ℕ} {lts : LseTaskStruct} (present : w.lts t = some lts) :
    account w t = some (accountOf lts) := by
  simp [account,present]

theorem mark_of_lts {w : World} {t : ℕ} {lts : LseTaskStruct} (present : w.lts t = some lts) :
    mark w t = lts.markStart := by
  simp [mark,account,present,accountOf]

theorem mark_of_account {w : World} {t : ℕ} {a : Account} (present : account w t = some a) : mark w t = a.mark := by
  simp [mark,present]

theorem lts_of_account {w : World} {t : ℕ} {a : Account} (present : account w t = some a) :
    ∃ lts, w.lts t = some lts ∧ accountOf lts = a := by
  simpa [account] using present

/-- The tracker counts time on the CPU as it is, scaled by 1024/1024. -/
def FullScale (f : FreqView) : Prop := (updateTaskRqCpuCycles f ⟨0,0,0,0,0,0⟩).taskExecScale = 1024

instance (f : FreqView) : Decidable (FullScale f) := inferInstanceAs (Decidable (_ = _))

theorem fullScale_lrq {f : FreqView} (full : FullScale f) (lrq : LseRq) :
    (updateTaskRqCpuCycles f lrq) = { lrq with taskExecScale := 1024 } := by
  have scale : (updateTaskRqCpuCycles f lrq).taskExecScale = 1024 := full
  calc updateTaskRqCpuCycles f lrq
      = { lrq with taskExecScale := (updateTaskRqCpuCycles f lrq).taskExecScale } := rfl
    _ = { lrq with taskExecScale := 1024 } := by rw [scale]

/-- The switch and the windows of the tracker. -/
structure SameWindows (g h : Track) : Prop where
  switch : h.slimWaltCtrl = g.slimWaltCtrl
  size : h.ravgWindow = g.ravgWindow
  requested : h.newRavgWindow = g.newRavgWindow
  seeded : h.tickSchedClock = g.tickSchedClock

theorem SameWindows.refl (g : Track) : SameWindows g g := ⟨rfl,rfl,rfl,rfl⟩

/-- Two states that agree in everything that the accounting of time goes by, as
    far as it depends on frequencies only when they are not at full scale. -/
structure SameTracker (w v : World) : Prop where
  cpus : v.nrCpuIds = w.nrCpuIds
  possible : v.possible = w.possible
  windows : SameWindows w.track v.track
  rq : v.rq = w.rq
  lrq : v.lrq = w.lrq
  full : (∀ cpu, FullScale (w.freq cpu)) → ∀ cpu, FullScale (v.freq cpu)
  idle : ∀ t, (v.task t).isIdle = (w.task t).isIdle
  accounts : account v = account w

theorem SameTracker.refl (w : World) : SameTracker w w :=
  ⟨rfl,rfl,SameWindows.refl _,rfl,rfl,id,fun _ => rfl,rfl⟩

theorem SameTracker.mark_eq {w v : World} (same : SameTracker w v) (t : ℕ) : mark v t = mark w t := by
  simp only [mark,same.accounts]

/-- One state is another with other queues and shadow ticks, where the records may
    differ in whether their tasks are queued. -/
structure OnlyQueues (w v : World) : Prop where
  rest : v = { w with dsq := v.dsq, shadow := v.shadow, lts := v.lts }
  lts : ∀ t, ∃ queued, v.lts t = (w.lts t).map (fun lts => { lts with onDsq := queued })

theorem OnlyQueues.refl (w : World) : OnlyQueues w w := by
  refine ⟨rfl,fun t => ?_⟩
  cases present : w.lts t with
  | none => exact ⟨false,rfl⟩
  | some lts => exact ⟨lts.onDsq,rfl⟩

theorem OnlyQueues.trans {u v w : World} (first : OnlyQueues u v) (second : OnlyQueues v w) : OnlyQueues u w := by
  refine ⟨?_,fun t => ?_⟩
  · rw [second.rest,first.rest]
  · obtain ⟨before,one⟩ := first.lts t
    obtain ⟨after,two⟩ := second.lts t
    refine ⟨after,?_⟩
    rw [two,one,Option.map_map]
    rfl

/-- What only the queues change leaves the accounts alone. -/
theorem OnlyQueues.same {w v : World} (queues : OnlyQueues w v) : SameTracker w v := by
  obtain ⟨rest,lts⟩ := queues
  refine ⟨by rw [rest],by rw [rest],?_,by rw [rest],by rw [rest],?_,fun t => by rw [rest],?_⟩
  · rw [rest]
    exact SameWindows.refl _
  · rw [rest]
    exact id
  · funext t
    obtain ⟨queued,same⟩ := lts t
    simp only [account,same,Option.map_map]
    rfl

/-- Storing whether a task is queued. -/
theorem setLts_queues {w : World} {t : ℕ} {lts : LseTaskStruct} (queued : Bool) (present : w.lts t = some lts) :
    OnlyQueues w (w.setLts t { lts with onDsq := queued }) := by
  refine ⟨rfl,fun u => ?_⟩
  by_cases here : u = t
  · subst here
    exact ⟨queued,by simp [World.setLts,present]⟩
  · obtain ⟨same,kept⟩ := (OnlyQueues.refl w).lts u
    exact ⟨same,by simpa [World.setLts,here] using kept⟩

/-- A change of the dispatch queues or of the shadow ticks alone. -/
theorem around_queues (w : World) (dsq : DsqState) (shadow : ShadowTick) :
    OnlyQueues w { w with dsq := dsq, shadow := shadow } :=
  ⟨rfl,(OnlyQueues.refl w).lts⟩

theorem around_same (w : World) (dsq : DsqState) (shadow : ShadowTick) :
    SameTracker w { w with dsq := dsq, shadow := shadow } :=
  (around_queues w dsq shadow).same

/-- Both branches of a conditional step change only the queues. -/
theorem ite_queues {w u v : World} {p : Prop} [Decidable p] (yes : OnlyQueues w u) (no : OnlyQueues w v) :
    OnlyQueues w (if p then u else v) := by
  split_ifs
  · exact yes
  · exact no

theorem lseDsqEnqueueTask_queues (w : World) (t cpu : ℕ) : OnlyQueues w (lseDsqEnqueueTask w t cpu) := by
  unfold lseDsqEnqueueTask
  refine ite_queues (OnlyQueues.refl w) ?_
  cases present : w.lts t with
  | none => exact OnlyQueues.refl w
  | some lts =>
    refine ite_queues (OnlyQueues.refl w) (ite_queues (OnlyQueues.refl w) (ite_queues ?_ (OnlyQueues.refl w)))
    exact (around_queues w _ w.shadow).trans (setLts_queues true present)

theorem lseDsqDequeueTask_queues (w : World) (t : ℕ) : OnlyQueues w (lseDsqDequeueTask w t) := by
  unfold lseDsqDequeueTask
  refine ite_queues (OnlyQueues.refl w) ?_
  cases present : w.lts t with
  | none => exact OnlyQueues.refl w
  | some lts =>
    refine ite_queues (OnlyQueues.refl w) (ite_queues (OnlyQueues.refl w) ?_)
    exact (around_queues w _ w.shadow).trans (setLts_queues false present)

theorem lseDsqScanTimeout_queues (w : World) (cpu : ℕ) : OnlyQueues w (lseDsqScanTimeout w cpu) :=
  ite_queues (OnlyQueues.refl w) (around_queues w _ w.shadow)

/-- What the calls that `lse_dsq_on_schedule` makes keep, it keeps. -/
theorem lseDsqOnSchedule_keeps (holds : World → Prop) {w : World} (cpu prev next : ℕ) (start : holds w)
    (enqueues : ∀ v t, holds v → holds (lseDsqEnqueueTask v t cpu))
    (dequeues : ∀ v t, holds v → holds (lseDsqDequeueTask v t))
    (scans : ∀ v lastScanJf, holds v → holds (lseDsqScanTimeout { v with dsq := { v.dsq with lastScanJf := lastScanJf } } cpu)) :
    holds (lseDsqOnSchedule w cpu prev next) := by
  have queued : holds (if (w.task prev).isIdle = false ∧ (w.task prev).onRq = true ∧ (w.task prev).cpu = cpu then
      lseDsqEnqueueTask w prev cpu else w) := by
    split_ifs
    · exact enqueues w prev start
    · exact start
  -- After whatever the hook did to the previous task, the next one may leave its queue.
  have left : ∀ v, holds v → holds (if (v.task next).isIdle = false then lseDsqDequeueTask v next else v) := by
    intro v same
    split_ifs
    · exact dequeues v next same
    · exact same
  have scanned : ∀ v, holds v → holds (if timeBefore (u64 (v.dsq.lastScanJf cpu + 4)) v.dsq.jiffies = true then
      lseDsqScanTimeout
        { v with dsq := { v.dsq with lastScanJf := Function.update v.dsq.lastScanJf cpu v.dsq.jiffies } } cpu
      else v) := by
    intro v same
    split_ifs
    · exact scans v _ same
    · exact same
  have switched : holds (if prev ≠ next then
      let w :=
        if (w.task prev).isIdle = false ∧ (w.task prev).onRq = true ∧ (w.task prev).cpu = cpu then
          lseDsqEnqueueTask w prev cpu
        else w
      if (w.task next).isIdle = false then lseDsqDequeueTask w next else w
      else w) := by
    by_cases other : prev ≠ next
    · rw [if_pos other]
      exact left _ queued
    · rw [if_neg other]
      exact start
  unfold lseDsqOnSchedule
  by_cases off : w.dsq.slimStats = 0 ∨ w.dsq.enable = 0
  · rw [if_pos off]
    exact start
  · rw [if_neg off]
    exact scanned _ switched

theorem lseDsqOnSchedule_queues (w : World) (cpu prev next : ℕ) : OnlyQueues w (lseDsqOnSchedule w cpu prev next) := by
  apply lseDsqOnSchedule_keeps (OnlyQueues w) cpu prev next (OnlyQueues.refl w)
  · exact fun v t same => same.trans (lseDsqEnqueueTask_queues v t cpu)
  · exact fun v t same => same.trans (lseDsqDequeueTask_queues v t)
  · exact fun v _ same => (same.trans (around_queues v _ v.shadow)).trans (lseDsqScanTimeout_queues _ cpu)

theorem lseShadowTickStopCpu_queues (w : World) (cpu : ℕ) : OnlyQueues w (lseShadowTickStopCpu w cpu) :=
  ite_queues (OnlyQueues.refl w) (around_queues w w.dsq _)

theorem lseShadowTickStartCpu_queues (w : World) (here cpu : ℕ) : OnlyQueues w (lseShadowTickStartCpu w here cpu) :=
  ite_queues (lseShadowTickStopCpu_queues w cpu) (ite_queues (OnlyQueues.refl w) (around_queues w w.dsq _))

theorem lseShadowTickUpdateCpu_queues (w : World) (here cpu : ℕ) : OnlyQueues w (lseShadowTickUpdateCpu w here cpu) :=
  ite_queues (OnlyQueues.refl w) (ite_queues (lseShadowTickStopCpu_queues w cpu)
    (ite_queues (lseShadowTickStopCpu_queues w cpu) (lseShadowTickStartCpu_queues w here cpu)))

/-- What `lse_schedule` does after its calls of the tracker. -/
theorem afterRavg_queues (w : World) (cpu prev next : ℕ) :
    OnlyQueues w (lseShadowTickUpdateCpu (lseDsqOnSchedule w cpu prev next) cpu cpu) :=
  (lseDsqOnSchedule_queues w cpu prev next).trans (lseShadowTickUpdateCpu_queues _ cpu cpu)

/-- The records of the task and of the CPU after a call of `lse_update_task_ravg`
    with the tracker switched on. -/
def records (w : World) (lts : LseTaskStruct) (t cpu : ℕ) (event : TaskEvent) (wallclock : ℕ) :
    LseTaskStruct × LseRq :=
  let hinted := lseRefreshTaskHint w.track lts (w.task t)
  if Skipped w lts cpu wallclock then (hinted,w.lrq cpu)
  else ((ravgUpdate w hinted t cpu event wallclock).1,(ravgUpdate w hinted t cpu event wallclock).2.1)

/-- The `LSE_BUG` calls that such a call makes. -/
def reports (w : World) (lts : LseTaskStruct) (t cpu : ℕ) (event : TaskEvent) (wallclock : ℕ) : List LseBug :=
  if Skipped w lts cpu wallclock then []
  else (ravgUpdate w (lseRefreshTaskHint w.track lts (w.task t)) t cpu event wallclock).2.2.2

theorem rollover_moves (g : Track) (oldWindowStart : ℕ) (lrq : LseRq) :
    ∃ lastq rollovers, lseWindowRolloverRunOnce g oldWindowStart lrq =
      { g with rolloverLastqWs := lastq, rollovers := rollovers } := by
  rcases rollover_cases g oldWindowStart lrq with ⟨_,_,ran⟩ | ⟨_,ran⟩
  · exact ⟨_,_,ran⟩
  · exact ⟨g.rolloverLastqWs,g.rollovers,ran⟩

section
variable {w : World} {t cpu wallclock : ℕ} {lts : LseTaskStruct} (event : TaskEvent)

/-- A call stores its records, and changes the rest of the tracker in the rollover
    token and the reports at most. -/
theorem updateIfTracked_eq (cpu wallclock : ℕ) (on : w.track.slimWaltCtrl ≠ 0) (present : w.lts t = some lts) :
    ∃ lastq rollovers, updateIfTracked w t cpu event wallclock =
      { w with
        track := { w.track with
          rolloverLastqWs := lastq
          rollovers := rollovers
          bugs := reports w lts t cpu event wallclock ++ w.track.bugs }
        lrq := Function.update w.lrq cpu (records w lts t cpu event wallclock).2
        lts := Function.update w.lts t (some (records w lts t cpu event wallclock).1) } := by
  by_cases skipped : Skipped w lts cpu wallclock
  · have again : Skipped w (lseRefreshTaskHint w.track lts (w.task t)) cpu wallclock := skipped
    refine ⟨w.track.rolloverLastqWs,w.track.rollovers,?_⟩
    simp only [updateIfTracked,present,lseUpdateTaskRavg,on,if_false,again,if_true,records,reports,skipped,World.setLts,
      Function.update_eq_self,List.nil_append]
  · have taken := lseUpdateTaskRavg_taken t event skipped
    let update := ravgUpdate w (lseRefreshTaskHint w.track lts (w.task t)) t cpu event wallclock
    obtain ⟨lastq,rollovers,ran⟩ := rollover_moves { w.track with bugs := update.2.2.2 ++ w.track.bugs }
      update.2.2.1 update.2.1
    refine ⟨lastq,rollovers,?_⟩
    simp only [updateIfTracked,present,taken,records,reports,skipped,if_false]
    rw [ran]

/-- Without tracking or without a record a call does nothing. -/
theorem updateIfTracked_absent (cpu wallclock : ℕ) (absent : w.track.slimWaltCtrl = 0 ∨ w.lts t = none) :
    updateIfTracked w t cpu event wallclock = w := by
  cases present : w.lts t with
  | none => simp [updateIfTracked,present]
  | some lts =>
    have off : w.track.slimWaltCtrl = 0 := absent.resolve_right (by simp [present])
    simp [updateIfTracked,present,lseUpdateTaskRavg,off]

/-- What a call can do: nothing, or store its records. -/
theorem updateIfTracked_outcome (w : World) (t cpu : ℕ) (event : TaskEvent) (wallclock : ℕ) :
    updateIfTracked w t cpu event wallclock = w ∨
    ∃ lts lastq rollovers, w.lts t = some lts ∧ w.track.slimWaltCtrl ≠ 0 ∧ updateIfTracked w t cpu event wallclock =
      { w with
        track := { w.track with
          rolloverLastqWs := lastq
          rollovers := rollovers
          bugs := reports w lts t cpu event wallclock ++ w.track.bugs }
        lrq := Function.update w.lrq cpu (records w lts t cpu event wallclock).2
        lts := Function.update w.lts t (some (records w lts t cpu event wallclock).1) } := by
  cases present : w.lts t with
  | none => exact Or.inl (updateIfTracked_absent event cpu wallclock (Or.inr present))
  | some lts =>
    by_cases off : w.track.slimWaltCtrl = 0
    · exact Or.inl (updateIfTracked_absent event cpu wallclock (Or.inl off))
    · obtain ⟨lastq,rollovers,stored⟩ := updateIfTracked_eq event cpu wallclock off present
      exact Or.inr ⟨lts,lastq,rollovers,rfl,off,stored⟩

/-- One state is another with one task's account and one CPU's record replaced. -/
structure Effect (w v : World) (t cpu : ℕ) (a : Account) (lrq : LseRq) : Prop where
  cpus : v.nrCpuIds = w.nrCpuIds
  possible : v.possible = w.possible
  windows : SameWindows w.track v.track
  suspended : v.track.clockSuspended = w.track.clockSuspended ∧ v.track.clockLast = w.track.clockLast
  rq : v.rq = w.rq
  freq : v.freq = w.freq
  task : v.task = w.task
  lrq : v.lrq = Function.update w.lrq cpu lrq
  accounts : account v = Function.update (account w) t (some a)

theorem Effect.mark_eq {v : World} {a : Account} {lrq : LseRq} (effect : Effect w v t cpu a lrq) (u : ℕ) :
    mark v u = if u = t then a.mark else mark w u := by
  by_cases here : u = t
  · subst here
    simp [mark,effect.accounts]
  · simp [mark,effect.accounts,here]

theorem updateIfTracked_effect (cpu wallclock : ℕ) (on : w.track.slimWaltCtrl ≠ 0) (present : w.lts t = some lts) :
    Effect w (updateIfTracked w t cpu event wallclock) t cpu
      (accountOf (records w lts t cpu event wallclock).1) (records w lts t cpu event wallclock).2 := by
  obtain ⟨lastq,rollovers,update⟩ := updateIfTracked_eq event cpu wallclock on present
  rw [update]
  refine ⟨rfl,rfl,⟨rfl,rfl,rfl,rfl⟩,⟨rfl,rfl⟩,rfl,rfl,rfl,rfl,?_⟩
  funext u
  by_cases here : u = t
  · subst here
    simp [account]
  · simp [account,Function.update_of_ne here]

theorem records_skipped (skipped : Skipped w lts cpu wallclock) :
    accountOf (records w lts t cpu event wallclock).1 = accountOf lts ∧
      (records w lts t cpu event wallclock).2 = w.lrq cpu := by
  simp only [records,skipped,if_true]
  exact ⟨rfl,trivial⟩

/-- A call that is not skipped and whose clock goes forward sets the mark, the clock
    and the window. -/
theorem records_taken (taken : ¬ Skipped w lts cpu wallclock)
    (forward : Forward w.track.ravgWindow (w.lrq cpu) wallclock) :
    (records w lts t cpu event wallclock).1.markStart = wallclock ∧
      (records w lts t cpu event wallclock).2.latestClock = wallclock ∧
      (records w lts t cpu event wallclock).2.windowStart =
        (advance w.track.ravgWindow (w.lrq cpu) wallclock).windowStart := by
  obtain ⟨start,clock,_,marked⟩ := ravgUpdate_window w (lseRefreshTaskHint w.track lts (w.task t)) t cpu event forward
  simp only [records,taken,if_false]
  exact ⟨marked,clock,start⟩

/-- The first call for a task accounts nothing. -/
theorem records_first (taken : ¬ Skipped w lts cpu wallclock)
    (forward : Forward w.track.ravgWindow (w.lrq cpu) wallclock) (first : lts.markStart = 0) :
    accountOf (records w lts t cpu event wallclock).1 = ⟨wallclock,lts.sum,lts.sumHistory,lts.cidx⟩ ∧
      (records w lts t cpu event wallclock).2 = advance w.track.ravgWindow (w.lrq cpu) wallclock := by
  have unmarked : (lseRefreshTaskHint w.track lts (w.task t)).markStart = 0 := first
  simp only [records,taken,if_false,ravgUpdate,updateWindowStart_forward forward]
  split_ifs <;> simp_all [accountOf,lseRefreshTaskHint]

/-- A later call accounts the time since the mark to the task and to the CPU. -/
theorem records_accounted (taken : ¬ Skipped w lts cpu wallclock)
    (forward : Forward w.track.ravgWindow (w.lrq cpu) wallclock) (marked : lts.markStart ≠ 0) :
    let lrq := updateTaskRqCpuCycles (w.freq cpu) (advance w.track.ravgWindow (w.lrq cpu) wallclock)
    (∃ same, accountOf same = accountOf lts ∧ accountOf (records w lts t cpu event wallclock).1 =
      { accountOf (updateTaskDemand w.track (w.rq cpu) lrq t (w.task t) same event wallclock).2 with
        mark := wallclock }) ∧
    (records w lts t cpu event wallclock).2 =
      updateCpuBusyTime lrq (w.task t) lts.markStart event wallclock := by
  let hinted := lseRefreshTaskHint w.track lts (w.task t)
  have later : hinted.markStart ≠ 0 := marked
  simp only [records,taken,if_false,ravgUpdate,updateWindowStart_forward forward]
  by_cases unset : hinted.windowStart = 0
  · let placed := { hinted with windowStart := (advance w.track.ravgWindow (w.lrq cpu) wallclock).windowStart }
    have later : placed.markStart ≠ 0 := marked
    simp only [hinted] at unset
    simp only [unset,if_true]
    simp only [placed,hinted] at later
    simp only [later,if_false]
    exact ⟨⟨placed,rfl,rfl⟩,rfl⟩
  · simp only [hinted] at unset later
    simp only [unset,later,if_false]
    exact ⟨⟨hinted,rfl,rfl⟩,rfl⟩

end

end LunarSched.Accounts
