import LunarSched.ClockSafety
import LunarSched.ShadowTimers

/-!
The boost of a task. The hint that is refreshed before each accounting carries a boost in
parts of 1024, and a comment says that the time a task runs is added to its demand with
the boost; but the sum gets the time as it is, scaled only by the CPU. So the amount is the
boosted one exactly when the boost makes no difference to it (`boost_applied_iff`). The
other half of the comment holds: no run of events lets the boosts get into the sums of the
CPUs, since all that they reach is the boost of a record and the queues (`boosted_run`).
-/
namespace LunarSched.Boost
open LunarSched.Machine LunarSched.Kernel LunarSched.UtilTrack LunarSched.Dsq LunarSched.ShadowTick LunarSched.Hooks
open LunarSched.Accounts LunarSched.WindowChange LunarSched.ClockSafety LunarSched.Runs
open LunarSched.ShadowTimers (lseDsqOnSchedule_ticks)

/-- The boost that a task has when its time is added. -/
def boostOf (g : Track) (lts : LseTaskStruct) (p : TaskStruct) : ℕ := (lseRefreshTaskHint g lts p).boostPct

/-- A call adds this amount to the task's sum, in 32 bits and before the clamp to the
    window, and returns it. -/
def AddsToSum (g : Track) (lts : LseTaskStruct) (lrq : LseRq) (delta added : ℕ) : Prop :=
  let sum := u32 (lts.sum + added)
  addToTaskDemand g lts lrq delta = (added,{ lts with sum := if g.ravgWindow < sum then g.ravgWindow else sum })

/-- What is added to the task's sum is the time scaled by the CPU and boosted. -/
def BoostApplied (g : Track) (lts : LseTaskStruct) (p : TaskStruct) (lrq : LseRq) (delta : ℕ) : Prop :=
  AddsToSum g (lseRefreshTaskHint g lts p) lrq delta (scaleExecTime delta lrq * boostOf g lts p / 1024)

/-- There is no time, or what the boost adds to it is less than one part. -/
def BoostNeutral (g : Track) (lts : LseTaskStruct) (p : TaskStruct) (lrq : LseRq) (delta : ℕ) : Prop :=
  scaleExecTime delta lrq = 0 ∨
    (1024 ≤ boostOf g lts p ∧ scaleExecTime delta lrq * (boostOf g lts p - 1024) < 1024)

/-- The amount is the scaled time. -/
theorem addsToSum_iff (g : Track) (lts : LseTaskStruct) (lrq : LseRq) (delta added : ℕ) :
    AddsToSum g lts lrq delta added ↔ scaleExecTime delta lrq = added := by
  constructor
  · exact congrArg Prod.fst
  · rintro rfl
    rfl

instance (g : Track) (lts : LseTaskStruct) (p : TaskStruct) (lrq : LseRq) (delta : ℕ) :
    Decidable (BoostApplied g lts p lrq delta) := decidable_of_iff _ (addsToSum_iff _ _ _ _ _).symm

/-- A share of at least the whole that is not lost in the rounding. -/
theorem eq_mul_div_iff (s b : ℕ) : s = s * b / 1024 ↔ s = 0 ∨ (1024 ≤ b ∧ s * (b - 1024) < 1024) := by
  rcases Nat.eq_zero_or_pos s with rfl | positive
  · simp
  · rcases Nat.lt_or_ge b 1024 with less | enough
    · have smaller : s * b < s * 1024 := Nat.mul_lt_mul_of_pos_left less positive
      omega
    · obtain ⟨extra,rfl⟩ := Nat.exists_eq_add_of_le enough
      rw [Nat.add_sub_cancel_left,Nat.mul_add]
      omega

theorem boostApplied_iff (g : Track) (lts : LseTaskStruct) (p : TaskStruct) (lrq : LseRq) (delta : ℕ) :
    BoostApplied g lts p lrq delta ↔ BoostNeutral g lts p lrq delta :=
  (addsToSum_iff _ _ _ _ _).trans (eq_mul_div_iff (scaleExecTime delta lrq) (boostOf g lts p))

/-! ### Two runs -/

/-- The sysctls of the boosts. -/
structure Boosts where
  bg : ℤ
  fg : ℤ
  rt : ℤ

def setBoosts (b : Boosts) (g : Track) : Track := { g with boostBgPct := b.bg, boostFgPct := b.fg, boostRtPct := b.rt }

/-- The boosts are written, and an event follows. -/
def boostStep (w : World) (step : ClockEvent × Boosts) : World :=
  step.1.run { w with track := setBoosts step.2 w.track }

/-- After the events of a run, with boosts of one kind and with boosts of another kind before
    each of them, the sums of every CPU are the same. -/
def SumsUnaffected (w : World) (run : List (ClockEvent × Boosts × Boosts)) : Prop :=
  ∀ cpu, let one := exec (fun w step => boostStep w (step.1,step.2.1)) w run
    let other := exec (fun w step => boostStep w (step.1,step.2.2)) w run
    (one.lrq cpu).currRunnableSum = (other.lrq cpu).currRunnableSum ∧
      (one.lrq cpu).prevRunnableSum = (other.lrq cpu).prevRunnableSum

/-- Another boost of a record, and another place in the queues. -/
def reboost (b : ℕ) (queued : Bool) (lts : LseTaskStruct) : LseTaskStruct := { lts with boostPct := b, onDsq := queued }

/-- The records differ in their boosts, and in whether their tasks are queued. -/
def OnlyBoosts (lts lts' : ℕ → Option LseTaskStruct) : Prop := ∀ t, ∃ b queued, lts' t = (lts t).map (reboost b queued)

/-- A state with other boosts, records, queues and shadow ticks. -/
def replaced (w : World) (b : Boosts) (lts : ℕ → Option LseTaskStruct) (dsq : DsqState) (shadow : ShadowTick) : World :=
  { w with track := setBoosts b w.track, lts := lts, dsq := dsq, shadow := shadow }

/-- Two states that differ in what the boosts reach. -/
structure Alike (w v : World) : Prop where
  rest : ∃ b, v = replaced w b v.lts v.dsq v.shadow
  records : OnlyBoosts w.lts v.lts
  ticks : v.shadow.highresTickCtrl = w.shadow.highresTickCtrl

section
variable {g : Track} {b : Boosts} {pct : ℕ} {queued : Bool} {records : ℕ → Option LseTaskStruct} {dsq : DsqState}
  {shadow : ShadowTick}

theorem updateHistory_reboost (p : TaskStruct) (lts : LseTaskStruct) (runtime : ℕ) (samples : ℤ) :
    updateHistory (setBoosts b g) p (reboost pct queued lts) runtime samples =
      reboost pct queued (updateHistory g p lts runtime samples) := by
  simp only [updateHistory]
  split_ifs <;> rfl

theorem addToTaskDemand_reboost (lts : LseTaskStruct) (lrq : LseRq) (delta : ℕ) :
    addToTaskDemand (setBoosts b g) (reboost pct queued lts) lrq delta =
      ((addToTaskDemand g lts lrq delta).1,reboost pct queued (addToTaskDemand g lts lrq delta).2) := rfl

theorem updateTaskDemand_reboost (rq : Rq) (lrq : LseRq) (t : ℕ) (p : TaskStruct) (lts : LseTaskStruct)
    (event : TaskEvent) (wallclock : ℕ) :
    (updateTaskDemand (setBoosts b g) rq lrq t p (reboost pct queued lts) event wallclock).2 =
      reboost pct queued (updateTaskDemand g rq lrq t p lts event wallclock).2 := by
  have mark : (reboost pct queued lts).markStart = lts.markStart := rfl
  have sum : ∀ l : LseTaskStruct, (reboost pct queued l).sum = l.sum := fun _ => rfl
  have window : (setBoosts b g).ravgWindow = g.ravgWindow := rfl
  simp only [updateTaskDemand,mark,sum,window,addToTaskDemand_reboost,updateHistory_reboost]
  split_ifs <;> rfl

theorem accountTask_reboost (w : World) (t cpu : ℕ) (event : TaskEvent) (wallclock : ℕ) (lts : LseTaskStruct) (lrq : LseRq) :
    accountTask (replaced w b records dsq shadow) t cpu event wallclock (reboost pct queued lts) lrq =
      (reboost pct queued (accountTask w t cpu event wallclock lts lrq).1,(accountTask w t cpu event wallclock lts lrq).2) := by
  simp only [accountTask,replaced,updateTaskDemand_reboost]
  rfl

theorem ravgUpdate_reboost (w : World) (lts : LseTaskStruct) (t cpu : ℕ) (event : TaskEvent) (wallclock : ℕ) :
    ravgUpdate (replaced w b records dsq shadow) (reboost pct queued lts) t cpu event wallclock =
      (reboost pct queued (ravgUpdate w lts t cpu event wallclock).1,(ravgUpdate w lts t cpu event wallclock).2) := by
  have window : updateWindowStart (replaced w b records dsq shadow).track ((replaced w b records dsq shadow).lrq cpu) wallclock =
      updateWindowStart w.track (w.lrq cpu) wallclock := rfl
  have placed : (if (reboost pct queued lts).windowStart = 0 then
      { reboost pct queued lts with windowStart := (updateWindowStart w.track (w.lrq cpu) wallclock).2.1.windowStart }
      else reboost pct queued lts) = reboost pct queued (if lts.windowStart = 0 then
        { lts with windowStart := (updateWindowStart w.track (w.lrq cpu) wallclock).2.1.windowStart } else lts) := by
    change (if lts.windowStart = 0 then _ else _) = _
    split_ifs <;> rfl
  have accounted : ∀ (l : LseTaskStruct) (lrq : LseRq), (if (reboost pct queued l).markStart = 0 then
      (reboost pct queued l,lrq)
      else accountTask (replaced w b records dsq shadow) t cpu event wallclock (reboost pct queued l) lrq) =
        (reboost pct queued (if l.markStart = 0 then (l,lrq) else accountTask w t cpu event wallclock l lrq).1,
          (if l.markStart = 0 then (l,lrq) else accountTask w t cpu event wallclock l lrq).2) := by
    intro l lrq
    change (if l.markStart = 0 then _ else _) = _
    split_ifs
    · rfl
    · exact accountTask_reboost w t cpu event wallclock l lrq
  simp only [ravgUpdate,window,placed,accounted]
  rfl

theorem rollover_boosts (b : Boosts) (g : Track) (oldWindowStart : ℕ) (lrq : LseRq) :
    lseWindowRolloverRunOnce (setBoosts b g) oldWindowStart lrq = setBoosts b (lseWindowRolloverRunOnce g oldWindowStart lrq) := by
  change (if oldWindowStart = lrq.windowStart then setBoosts b g
    else if g.rolloverLastqWs = oldWindowStart then _ else setBoosts b g) = _
  unfold lseWindowRolloverRunOnce
  split_ifs <;> rfl

theorem onlyBoosts_update {lts lts' : ℕ → Option LseTaskStruct} (records : OnlyBoosts lts lts') (t : ℕ)
    (record : LseTaskStruct) (pct : ℕ) (queued : Bool) :
    OnlyBoosts (Function.update lts t (some record)) (Function.update lts' t (some (reboost pct queued record))) := by
  intro u
  by_cases here : u = t
  · subst here
    exact ⟨pct,queued,by simp⟩
  · obtain ⟨pct,queued,same⟩ := records u
    exact ⟨pct,queued,by simpa [here] using same⟩

/-- A skipped call stores the hint. -/
theorem lseUpdateTaskRavg_stored {w : World} {lts : LseTaskStruct} {t cpu wallclock : ℕ} (on : w.track.slimWaltCtrl ≠ 0)
    (skipped : Skipped w lts cpu wallclock) (event : TaskEvent) :
    lseUpdateTaskRavg w lts t cpu event wallclock = w.setLts t (lseRefreshTaskHint w.track lts (w.task t)) := by
  have again : Skipped w (lseRefreshTaskHint w.track lts (w.task t)) cpu wallclock := skipped
  simp only [lseUpdateTaskRavg,on,if_false,again,if_true]

/-- A call for a task, on two states that are alike. -/
theorem lseUpdateTaskRavg_alike {w : World} (alike : OnlyBoosts w.lts records)
    (ticks : shadow.highresTickCtrl = w.shadow.highresTickCtrl) (record : LseTaskStruct) (t cpu : ℕ) (event : TaskEvent)
    (wallclock : ℕ) :
    Alike (lseUpdateTaskRavg w record t cpu event wallclock)
      (lseUpdateTaskRavg (replaced w b records dsq shadow) (reboost pct queued record) t cpu event wallclock) := by
  have hint : lseRefreshTaskHint (replaced w b records dsq shadow).track (reboost pct queued record)
      ((replaced w b records dsq shadow).task t) =
        reboost (boostOf (setBoosts b w.track) record (w.task t)) queued (lseRefreshTaskHint w.track record (w.task t)) := rfl
  by_cases off : w.track.slimWaltCtrl = 0
  · have off' : (replaced w b records dsq shadow).track.slimWaltCtrl = 0 := off
    rw [lseUpdateTaskRavg,lseUpdateTaskRavg,if_pos off,if_pos off']
    exact ⟨⟨b,rfl⟩,alike,ticks⟩
  · have on : (replaced w b records dsq shadow).track.slimWaltCtrl ≠ 0 := off
    by_cases skipped : Skipped w record cpu wallclock
    · have skipped' : Skipped (replaced w b records dsq shadow) (reboost pct queued record) cpu wallclock := skipped
      rw [lseUpdateTaskRavg_stored off skipped,lseUpdateTaskRavg_stored on skipped',hint]
      exact ⟨⟨b,rfl⟩,onlyBoosts_update alike t _ _ _,ticks⟩
    · have taken : ¬ Skipped (replaced w b records dsq shadow) (reboost pct queued record) cpu wallclock := skipped
      have update : ravgUpdate (replaced w b records dsq shadow) (reboost (boostOf (setBoosts b w.track) record (w.task t))
          queued (lseRefreshTaskHint w.track record (w.task t))) t cpu event wallclock = _ :=
        ravgUpdate_reboost w (lseRefreshTaskHint w.track record (w.task t)) t cpu event wallclock
      rw [lseUpdateTaskRavg_taken t event skipped,lseUpdateTaskRavg_taken t event taken,hint,update]
      refine ⟨⟨b,?_⟩,onlyBoosts_update alike t _ _ _,ticks⟩
      simp only [replaced]
      rw [← rollover_boosts]
      rfl

theorem updateIfTracked_alike {w v : World} (alike : Alike w v) (t cpu : ℕ) (event : TaskEvent) (wallclock : ℕ) :
    Alike (updateIfTracked w t cpu event wallclock) (updateIfTracked v t cpu event wallclock) := by
  have ⟨⟨b,rest⟩,records,ticks⟩ := alike
  obtain ⟨pct,queued,same⟩ := records t
  cases present : w.lts t with
  | none =>
    have absent : v.lts t = none := by simpa [present] using same
    simp only [updateIfTracked,present,absent]
    exact alike
  | some record =>
    have other : v.lts t = some (reboost pct queued record) := by simpa [present] using same
    simp only [updateIfTracked,present,other]
    rw [rest]
    exact lseUpdateTaskRavg_alike records ticks record t cpu event wallclock

end

section
variable {w v : World}

theorem alike_refl (w : World) : Alike w w := by
  refine ⟨⟨⟨w.track.boostBgPct,w.track.boostFgPct,w.track.boostRtPct⟩,rfl⟩,fun t => ?_,rfl⟩
  cases present : w.lts t with
  | none => exact ⟨0,false,rfl⟩
  | some lts => exact ⟨lts.boostPct,lts.onDsq,rfl⟩

/-- What the queues and the shadow ticks do on both sides leaves the states alike. -/
theorem queues_alike {w' v' : World} (alike : Alike w v) (first : OnlyQueues w w') (second : OnlyQueues v v')
    (ticks : w'.shadow.highresTickCtrl = w.shadow.highresTickCtrl)
    (ticks' : v'.shadow.highresTickCtrl = v.shadow.highresTickCtrl) : Alike w' v' := by
  obtain ⟨⟨b,rest⟩,records,same⟩ := alike
  refine ⟨⟨b,?_⟩,fun t => ?_,ticks'.trans (same.trans ticks.symm)⟩
  · rw [second.rest,first.rest,rest]
    rfl
  · obtain ⟨pct,_,boosted⟩ := records t
    obtain ⟨_,one⟩ := first.lts t
    obtain ⟨queued,two⟩ := second.lts t
    refine ⟨pct,queued,?_⟩
    rw [two,boosted,one,Option.map_map,Option.map_map]
    rfl

/-- A context switch leaves the switch of the shadow ticks alone. -/
theorem afterRavg_ticks (w : World) (cpu prev next : ℕ) :
    (lseShadowTickUpdateCpu (lseDsqOnSchedule w cpu prev next) cpu cpu).shadow.highresTickCtrl =
      w.shadow.highresTickCtrl := by
  rw [← (lseDsqOnSchedule_ticks w cpu prev next).shadow]
  simp only [lseShadowTickUpdateCpu,lseShadowTickStartCpu,lseShadowTickStopCpu]
  split_ifs <;> rfl

theorem lseRqClock_alike (alike : Alike w v) (cpu clock : ℕ) : lseRqClock v cpu clock = lseRqClock w cpu clock := by
  obtain ⟨⟨b,rest⟩,_,_⟩ := alike
  rw [rest]
  rfl

theorem scheduleRavg_alike (alike : Alike w v) (cpu prev next clock : ℕ) :
    Alike (scheduleRavg w cpu prev next clock) (scheduleRavg v cpu prev next clock) := by
  unfold scheduleRavg
  rw [lseRqClock_alike alike]
  split_ifs
  · have put := updateIfTracked_alike alike prev cpu .putPrevTask (lseRqClock w cpu clock)
    simp only [lseRqClock_alike put]
    exact updateIfTracked_alike put next cpu .pickNextTask _
  · exact updateIfTracked_alike alike prev cpu .taskUpdate _

/-- The switches and the tasks on the CPUs are the same. -/
theorem alike_reads (alike : Alike w v) :
    v.track.slimWaltCtrl = w.track.slimWaltCtrl ∧ v.rq = w.rq ∧ lseShadowTickEnabled v = lseShadowTickEnabled w := by
  have ⟨⟨b,rest⟩,_,ticks⟩ := alike
  refine ⟨?_,?_,?_⟩
  · rw [rest]
    rfl
  · rw [rest]
    rfl
  · rw [lseShadowTickEnabled,lseShadowTickEnabled,ticks]

theorem lseSchedule_alike (alike : Alike w v) (cpu prev next clock : ℕ) :
    Alike (lseSchedule w cpu prev next clock) (lseSchedule v cpu prev next clock) := by
  have ravg := scheduleRavg_alike alike cpu prev next clock
  unfold lseSchedule
  rw [(alike_reads alike).1]
  split_ifs
  · exact alike
  · exact queues_alike ravg (afterRavg_queues _ cpu prev next) (afterRavg_queues _ cpu prev next)
      (afterRavg_ticks _ cpu prev next) (afterRavg_ticks _ cpu prev next)

theorem lseTickEntry_alike (alike : Alike w v) (cpu clock : ℕ) : Alike (lseTickEntry w cpu clock) (lseTickEntry v cpu clock) := by
  obtain ⟨slim,rq,_⟩ := alike_reads alike
  unfold lseTickEntry
  rw [slim,rq,lseRqClock_alike alike]
  split_ifs
  · exact alike
  · exact updateIfTracked_alike alike _ cpu .taskUpdate _

theorem lseSchedClock_alike (alike : Alike w v) (clock : ℕ) : lseSchedClock v clock = lseSchedClock w clock := by
  obtain ⟨⟨b,rest⟩,_,_⟩ := alike
  rw [rest]
  rfl

theorem lseShadowTickCb_alike (alike : Alike w v) (timer cpu clock : ℕ) :
    Alike (lseShadowTickCb w timer cpu clock) (lseShadowTickCb v timer cpu clock) := by
  obtain ⟨slim,rq,enabled⟩ := alike_reads alike
  have same : (lseShadowTickEnabled v = false ∨ v.track.slimWaltCtrl = 0) ↔
      (lseShadowTickEnabled w = false ∨ w.track.slimWaltCtrl = 0) := by rw [slim,enabled]
  unfold lseShadowTickCb
  by_cases off : lseShadowTickEnabled w = false ∨ w.track.slimWaltCtrl = 0
  · rw [if_pos off,if_pos (same.mpr off)]
    exact queues_alike alike (around_queues w w.dsq _) (around_queues v v.dsq _) rfl rfl
  · rw [if_neg off,if_neg (fun off' => off (same.mp off')),rq,lseSchedClock_alike alike]
    split_ifs
    · exact updateIfTracked_alike alike _ cpu .taskUpdate _
    · exact alike

theorem commitWindow_alike (alike : Alike w v) (cpu wallclock : ℕ) :
    Alike (commitWindow w cpu wallclock) (commitWindow v cpu wallclock) := by
  have ⟨⟨b,rest⟩,records,ticks⟩ := alike
  have same : (v.track.newRavgWindow ≠ v.track.ravgWindow ∧
      wallclock < u64 ((v.lrq cpu).windowStart + v.track.newRavgWindow)) ↔
        (w.track.newRavgWindow ≠ w.track.ravgWindow ∧ wallclock < u64 ((w.lrq cpu).windowStart + w.track.newRavgWindow)) := by
    rw [rest]
    rfl
  unfold commitWindow
  simp only [same]
  split_ifs
  · refine ⟨⟨b,?_⟩,records,ticks⟩
    rw [rest]
    rfl
  · exact alike

theorem lseIrqWork_alike (alike : Alike w v) (cpu clock : ℕ) : Alike (lseIrqWork w cpu clock) (lseIrqWork v cpu clock) := by
  unfold lseIrqWork
  rw [(alike_reads alike).2.1,lseSchedClock_alike alike]
  exact commitWindow_alike (updateIfTracked_alike alike _ cpu .taskUpdate _) cpu _

theorem lseSchedulerTick_alike (alike : Alike w v) (clock : ℕ) :
    Alike (lseSchedulerTick w clock) (lseSchedulerTick v clock) := by
  have ⟨⟨b,rest⟩,records,ticks⟩ := alike
  have same : (v.track.slimWaltCtrl = 0 ∨ v.track.tickSchedClock ≠ 0) ↔
      (w.track.slimWaltCtrl = 0 ∨ w.track.tickSchedClock ≠ 0) := by
    rw [rest]
    rfl
  unfold lseSchedulerTick
  simp only [same]
  split_ifs
  · exact alike
  · refine ⟨⟨b,?_⟩,records,ticks⟩
    rw [rest]
    rfl

theorem allocLseTaskStruct_alike (alike : Alike w v) (t : ℕ) : Alike (allocLseTaskStruct w t) (allocLseTaskStruct v t) := by
  have ⟨⟨b,rest⟩,records,ticks⟩ := alike
  obtain ⟨pct,queued,same⟩ := records t
  have task : v.task = w.task := by
    rw [rest]
    rfl
  cases present : w.lts t with
  | none =>
    have absent : v.lts t = none := by simpa [present] using same
    simp only [allocLseTaskStruct,present,absent,task]
    refine ⟨⟨b,?_⟩,onlyBoosts_update records t _ 1024 false,ticks⟩
    rw [rest]
    rfl
  | some record =>
    have other : v.lts t = some (reboost pct queued record) := by simpa [present] using same
    simp only [allocLseTaskStruct,present,other]
    exact alike

theorem freeLseTaskStruct_alike (alike : Alike w v) (t : ℕ) : Alike (freeLseTaskStruct w t) (freeLseTaskStruct v t) := by
  obtain ⟨⟨b,rest⟩,records,ticks⟩ := alike
  refine ⟨⟨b,?_⟩,fun u => ?_,ticks⟩
  · rw [rest]
    rfl
  · by_cases here : u = t
    · exact ⟨0,false,by simp [freeLseTaskStruct,here]⟩
    · obtain ⟨pct,queued,same⟩ := records u
      exact ⟨pct,queued,by simpa [freeLseTaskStruct,here] using same⟩

/-- Every event keeps the states alike. -/
theorem run_alike (alike : Alike w v) (e : ClockEvent) : Alike (e.run w) (e.run v) := by
  have ⟨⟨b,rest⟩,records,ticks⟩ := alike
  cases e with
  | schedule cpu next clock =>
    have switched := lseSchedule_alike alike cpu (w.rq cpu).curr next clock
    obtain ⟨⟨b,rest⟩,records,ticks⟩ := switched
    simp only [ClockEvent.run,(alike_reads alike).2.1]
    refine ⟨⟨b,?_⟩,records,ticks⟩
    rw [rest]
    rfl
  | tickEntry cpu clock => exact lseTickEntry_alike alike cpu clock
  | shadowTick timer cpu clock => exact lseShadowTickCb_alike alike timer cpu clock
  | irqWork cpu clock => exact lseIrqWork_alike alike cpu clock
  | schedulerTick clock => exact lseSchedulerTick_alike alike clock
  | alloc t => exact allocLseTaskStruct_alike alike t
  | free t => exact freeLseTaskStruct_alike alike t
  | suspend clock =>
    refine ⟨⟨b,?_⟩,records,ticks⟩
    rw [rest]
    rfl
  | resume =>
    refine ⟨⟨b,?_⟩,records,ticks⟩
    rw [rest]
    rfl
  | request framePerSec =>
    refine ⟨⟨b,?_⟩,records,ticks⟩
    rw [rest]
    rfl
  | around e =>
    refine ⟨⟨b,?_⟩,records,rfl⟩
    rw [rest]
    rfl

/-- Writes of the boosts on both sides leave the states alike. -/
theorem setBoosts_alike (alike : Alike w v) (b b' : Boosts) :
    Alike { w with track := setBoosts b w.track } { v with track := setBoosts b' v.track } := by
  obtain ⟨⟨_,rest⟩,records,ticks⟩ := alike
  refine ⟨⟨b',?_⟩,records,ticks⟩
  rw [rest]
  rfl

/-- Two runs of the same events keep the states alike, whatever the boosts are. -/
theorem boosted_run (w : World) (run : List (ClockEvent × Boosts × Boosts)) :
    Alike (exec (fun w step => boostStep w (step.1,step.2.1)) w run)
      (exec (fun w step => boostStep w (step.1,step.2.2)) w run) :=
  exec_related Alike (fun _ _ step alike => run_alike (setBoosts_alike alike step.2.1 step.2.2) step.1) (alike_refl w)

theorem sums_unaffected (w : World) (run : List (ClockEvent × Boosts × Boosts)) : SumsUnaffected w run := by
  intro cpu
  obtain ⟨⟨b,rest⟩,_,_⟩ := boosted_run w run
  rw [rest]
  exact ⟨rfl,rfl⟩

end

/-- For every task, scale, boost and time, and over every run of events: the time is boosted
    and the sums of the CPUs are not exactly when the boost is neutral. -/
theorem boost_applied_iff (g : Track) (lts : LseTaskStruct) (p : TaskStruct) (lrq : LseRq) (delta : ℕ) (w : World)
    (run : List (ClockEvent × Boosts × Boosts)) :
    (BoostApplied g lts p lrq delta ∧ SumsUnaffected w run) ↔ BoostNeutral g lts p lrq delta :=
  (and_iff_left (sums_unaffected w run)).trans (boostApplied_iff g lts p lrq delta)

/-- A foreground task. -/
def foregroundTask : TaskStruct := { plainTask with nice := -1, prio := defaultPrio - 1 }

/-- With the default boost of 1280 it gets a millisecond for a millisecond, not a quarter
    more. -/
theorem boost_left_out :
    boostOf (World.boot 1 (fun _ => foregroundTask)).track (initLseTaskStruct foregroundTask) foregroundTask = 1280 ∧
      (addToTaskDemand (World.boot 1 (fun _ => foregroundTask)).track
        (lseRefreshTaskHint (World.boot 1 (fun _ => foregroundTask)).track (initLseTaskStruct foregroundTask) foregroundTask)
        ((World.boot 1 (fun _ => foregroundTask)).lrq 0) 1000000).1 = 1000000 ∧
      ¬ BoostApplied (World.boot 1 (fun _ => foregroundTask)).track (initLseTaskStruct foregroundTask) foregroundTask
        ((World.boot 1 (fun _ => foregroundTask)).lrq 0) 1000000 := by
  decide +kernel

end LunarSched.Boost
