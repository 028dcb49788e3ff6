import LunarSched.TaskHistory
import Mathlib.Algebra.Order.BigOperators.Group.List

/-!
The demand of a task against what the task did. `update_history` derives it from the ring
of samples whenever a sample is pushed, in 32 bits and by the policy that is set. With the
policy left as it is, every run keeps the demand what the policy makes of the ring
(`Derived`); and since the ring lists the task's running times, the demand is what the
policy makes of the running times in the last five windows in which the task ran
(`demand_of_windows`), so that of a steady task is its running time in a window.
-/
namespace LunarSched.Demand
open LunarSched.Machine LunarSched.Kernel LunarSched.UtilTrack LunarSched.ShadowTick LunarSched.Hooks LunarSched.Accounts
open LunarSched.Occupancy LunarSched.TaskHistory LunarSched.Runs LunarSched.Timeline

/-- What a policy makes of the running times in the last windows, newest first. -/
def policyDemand (policy : ℤ) (recent : List ℕ) : ℕ :=
  if policy = 0 then recent.headD 0
  else if policy = 1 then recent.foldl max 0
  else if policy = 3 then recent.sum / ravgHistSize
  else max (recent.sum / ravgHistSize) (recent.headD 0)

/-- The demand is the one that the policy derives from the ring and its newest sample. -/
structure Derived (policy : ℤ) (lts : LseTaskStruct) : Prop where
  slots : lts.sumHistory.length = ravgHistSize
  inRange : lts.cidx < ravgHistSize
  words : ∀ x ∈ lts.sumHistory, x < 4294967296
  demand : ∀ g : Track, g.windowStatsPolicy = policy →
    lts.demand = historyDemand g lts.sumHistory ((Ring.recent (lts.sumHistory,lts.cidx)).headD 0)

section
variable {policy : ℤ} {g : Track} {rq : Rq} {lrq : LseRq} {t wallclock : ℕ} {p : TaskStruct} {lts : LseTaskStruct}
  {event : TaskEvent}

/-- The sum, the marks, the hints and the link do not matter. -/
theorem Derived.same {other : LseTaskStruct} (derived : Derived policy lts) (history : other.sumHistory = lts.sumHistory)
    (cidx : other.cidx = lts.cidx) (demand : other.demand = lts.demand) : Derived policy other := by
  refine ⟨?_,?_,?_,?_⟩
  · rw [history]
    exact derived.slots
  · rw [cidx]
    exact derived.inRange
  · rw [history]
    exact derived.words
  · rw [history,cidx,demand]
    exact derived.demand

/-- A push makes the new sample the newest and derives the demand from it. -/
theorem updateHistory_derived (derived : Derived policy lts) (set : g.windowStatsPolicy = policy) (runtime : ℕ)
    {samples : ℤ} (forward : 0 ≤ samples) : Derived policy (updateHistory g p lts runtime samples) := by
  unfold updateHistory
  simp only []
  split_ifs with dropped
  · exact derived
  · have some : samples.toNat ≠ 0 := fun none => dropped (Or.inr (Or.inr (by omega)))
    have inside : Ring.InRange (lts.sumHistory,lts.cidx) := by
      show lts.cidx < lts.sumHistory.length
      rw [derived.slots]
      exact derived.inRange
    obtain ⟨inRange,size⟩ := Ring.pushes_inRange (x := u32 runtime) samples.toNat inside
    have slots : (Ring.pushes (u32 runtime) samples.toNat (lts.sumHistory,lts.cidx)).1.length = ravgHistSize :=
      size.trans derived.slots
    refine ⟨slots,slots ▸ inRange,fun x member => ?_,fun h same => ?_⟩
    · rcases Ring.mem_pushes samples.toNat member with rfl | old
      · exact Nat.mod_lt runtime (by decide)
      · exact derived.words x old
    · rw [Ring.head_recent_pushes some inside]
      simp only [historyDemand,set,same]

theorem updateTaskDemand_derived (derived : Derived policy lts) (set : g.windowStatsPolicy = policy)
    (forward : accountBusyForTaskDemand rq t p event = true → lts.markStart < lrq.windowStart →
      0 ≤ s32 (u64Sub lrq.windowStart lts.markStart / g.ravgWindow)) :
    Derived policy (updateTaskDemand g rq lrq t p lts event wallclock).2 := by
  have added : ∀ {other : LseTaskStruct} (delta : ℕ), Derived policy other →
      Derived policy (addToTaskDemand g other lrq delta).2 := fun _ held => held.same rfl rfl rfl
  unfold updateTaskDemand
  simp only []
  by_cases waits : accountBusyForTaskDemand rq t p event = false
  · rw [if_pos waits]
    simp only []
    split_ifs
    · exact updateHistory_derived derived set _ Int.one_nonneg
    · exact derived
  · rw [if_neg waits]
    by_cases older : lts.markStart < lrq.windowStart
    · have count := forward (Bool.eq_true_of_not_eq_false waits) older
      rw [if_neg (not_not_intro older)]
      generalize s32 (u64Sub lrq.windowStart lts.markStart / g.ravgWindow) = windows at count ⊢
      generalize u64Sub (u64Sub lrq.windowStart (u64 (u64OfInt windows * g.ravgWindow))) lts.markStart = first
      have closed := updateHistory_derived (p := p) (added first derived) set (addToTaskDemand g lts lrq first).2.sum
        Int.one_nonneg
      refine added _ ?_
      split_ifs
      · exact updateHistory_derived closed set _ count
      · exact closed
    · rw [if_pos older]
      exact added _ derived

/-- The full windows that an update closes for a busy task are counted without a wrap. -/
def CountsForward (w : World) (t cpu : ℕ) (event : TaskEvent) (wallclock : ℕ) (lts : LseTaskStruct) : Prop :=
  let windowStart := (updateWindowStart w.track (w.lrq cpu) wallclock).2.1.windowStart
  accountBusyForTaskDemand (w.rq cpu) t (w.task t) event = true → lts.markStart ≠ 0 → lts.markStart < windowStart →
    0 ≤ s32 (u64Sub windowStart lts.markStart / w.track.ravgWindow)

theorem ravgUpdate_derived {w : World} {cpu : ℕ} (derived : Derived policy lts) (set : w.track.windowStatsPolicy = policy)
    (forward : CountsForward w t cpu event wallclock lts) : Derived policy (ravgUpdate w lts t cpu event wallclock).1 := by
  unfold CountsForward at forward
  unfold ravgUpdate
  generalize updateWindowStart w.track (w.lrq cpu) wallclock = started at forward ⊢
  obtain ⟨_,lrq,_⟩ := started
  simp only [] at forward ⊢
  -- The window of a record that has none is set first.
  generalize placed : (if lts.windowStart = 0 then { lts with windowStart := lrq.windowStart } else lts) = record
  have held : Derived policy record ∧ record.markStart = lts.markStart := by
    rw [← placed]
    split_ifs
    · exact ⟨derived.same rfl rfl rfl,rfl⟩
    · exact ⟨derived,rfl⟩
  by_cases first : record.markStart = 0
  · rw [if_pos first]
    exact held.1.same rfl rfl rfl
  · rw [if_neg first]
    have updated : Derived policy (updateTaskDemand w.track (w.rq cpu) (updateTaskRqCpuCycles (w.freq cpu) lrq) t (w.task t)
        record event wallclock).2 := by
      refine updateTaskDemand_derived held.1 set (fun busy older => ?_)
      rw [held.2] at first older ⊢
      exact forward busy first older
    exact updated.same rfl rfl rfl

end

/-- The policy is set, and every record has the demand that it derives. -/
structure AllDerived (policy : ℤ) (w : World) : Prop where
  set : w.track.windowStatsPolicy = policy
  records : ∀ t, ∀ lts ∈ w.lts t, Derived policy lts

section
variable {policy : ℤ} {w : World} {t cpu wallclock : ℕ} {event : TaskEvent}

theorem update_derived (all : AllDerived policy w) (forward : ∀ lts ∈ w.lts t, ¬ Skipped w lts cpu wallclock →
    CountsForward w t cpu event wallclock lts) : AllDerived policy (updateIfTracked w t cpu event wallclock) := by
  rcases updateIfTracked_outcome w t cpu event wallclock with same | ⟨lts,_,_,present,_,stored⟩
  · rwa [same]
  · have derived := all.records t lts present
    have hinted : Derived policy (lseRefreshTaskHint w.track lts (w.task t)) := derived.same rfl rfl rfl
    have recorded : Derived policy (records w lts t cpu event wallclock).1 := by
      unfold records
      simp only []
      split_ifs with skipped
      · exact hinted
      · exact ravgUpdate_derived hinted all.set (forward lts present skipped)
    rw [stored]
    refine ⟨all.set,?_⟩
    refine (Function.forall_update_iff w.lts (fun _ record => ∀ lts ∈ record, Derived policy lts)).mpr
      ⟨?_,fun u _ => all.records u⟩
    rintro _ ⟨⟩
    exact recorded

/-- A pick closes one window at most. -/
theorem pick_derived (all : AllDerived policy w) (next cpu wallclock : ℕ) :
    AllDerived policy (updateIfTracked w next cpu .pickNextTask wallclock) := by
  refine update_derived all (fun lts _ _ busy => ?_)
  simp [accountBusyForTaskDemand] at busy

theorem queues_derived (all : AllDerived policy w) {v : World} (queues : OnlyQueues w v) : AllDerived policy v := by
  obtain ⟨rest,lts⟩ := queues
  refine ⟨?_,?_⟩
  · rw [rest]
    exact all.set
  · intro t record present
    obtain ⟨queued,same⟩ := lts t
    rw [same] at present
    obtain ⟨old,was,rfl⟩ := Option.map_eq_some_iff.mp present
    exact (all.records t old was).same rfl rfl rfl

/-- In a run at full scale the current task of a CPU was marked less than 2³¹ windows ago. -/
theorem charge_forward {origin : ℕ} {s : Occupied} (placed : Placed origin s) (timely : Timely s cpu wallclock)
    {lts : LseTaskStruct} (present : s.world.lts (s.world.rq cpu).curr = some lts) :
    CountsForward s.world (s.world.rq cpu).curr cpu event wallclock lts := by
  obtain ⟨forward,_,_⟩ := forward_of_placed placed timely
  obtain ⟨_,_,marked,inside,_⟩ := placed.cpus cpu timely.1
  rw [mark_of_lts present] at marked
  obtain ⟨onward,_⟩ := advance_contains forward
  unfold CountsForward
  intro start _ first older
  have started : start = (advance s.world.track.ravgWindow (s.world.lrq cpu) wallclock).windowStart := by
    show (updateWindowStart s.world.track (s.world.lrq cpu) wallclock).2.1.windowStart = _
    rw [updateWindowStart_forward forward]
  cases last : s.last cpu with
  | none =>
    rw [last,Option.getD_none] at marked
    exact absurd marked first
  | some since =>
    rw [last,Option.getD_some] at marked
    have low := (inside since last).1
    have gap := forward.gap
    have small := forward.small
    obtain ⟨signed,_⟩ := rewind_across older (show start < lts.markStart + 2147483648 * s.world.track.ravgWindow by omega)
      (by omega)
    rw [signed]
    exact Int.natCast_nonneg _

theorem charge_derived {origin : ℕ} {s : Occupied} (placed : Placed origin s) (all : AllDerived policy s.world)
    (timely : Timely s cpu wallclock) (event : TaskEvent) :
    AllDerived policy (updateIfTracked s.world (s.world.rq cpu).curr cpu event wallclock) :=
  update_derived all (fun _ present _ => charge_forward placed timely present)

theorem scheduleRavg_derived {origin : ℕ} {s : Occupied} (placed : Placed origin s) (all : AllDerived policy s.world)
    {clock : ℕ} (timely : Timely s cpu (lseRqClock s.world cpu clock)) (next : ℕ) :
    AllDerived policy (scheduleRavg s.world cpu (s.world.rq cpu).curr next clock) := by
  unfold scheduleRavg
  split_ifs
  · exact pick_derived (charge_derived placed all timely .putPrevTask) next cpu _
  · exact charge_derived placed all timely .taskUpdate

end

/-- The policy stays as it is. -/
def KeepsPolicy (s : Occupied) : SchedEvent → Prop
  | .others e => e.track.windowStatsPolicy = s.world.track.windowStatsPolicy
  | _ => True

instance (s : Occupied) : (e : SchedEvent) → Decidable (KeepsPolicy s e)
  | .others _ => inferInstanceAs (Decidable (_ = _))
  | .schedule _ _ _ | .tickEntry _ _ | .schedulerTick _ | .shadowTick _ _ _ | .irqWork _ _ | .task _ _
  | .freq _ _ => isTrue trivial

section
variable {policy : ℤ} {origin : ℕ} {s : Occupied}

theorem step_world (s : Occupied) (e : SchedEvent) : (step s e).world = e.run s.world := by
  unfold step
  split <;> rfl

theorem step_placed (placed : Placed origin s) {e : SchedEvent} (admitted : Admitted s e) : Placed origin (step s e) := by
  have once : Along step Admitted s [e] := ⟨admitted,trivial⟩
  exact (run_keeps (fun _ => True) (fun _ _ _ _ _ => trivial) (fun _ _ _ _ _ _ _ _ => trivial)
    (fun _ _ _ _ _ _ _ _ => trivial) placed trivial once).1

/-- Every event charges and picks in time, and keeps the records otherwise. -/
theorem step_derived (placed : Placed origin s) (all : AllDerived policy s.world) {e : SchedEvent} (admitted : Admitted s e)
    (kept : KeepsPolicy s e) : AllDerived policy (step s e).world := by
  obtain ⟨intime,_⟩ := admitted
  have on := placed.on
  rw [step_world]
  cases e with
  | schedule cpu next clock =>
    have ran : lseSchedule s.world cpu (s.world.rq cpu).curr next clock =
        lseShadowTickUpdateCpu (Dsq.lseDsqOnSchedule (scheduleRavg s.world cpu (s.world.rq cpu).curr next clock) cpu
          (s.world.rq cpu).curr next) cpu cpu := if_neg on
    have tracked := scheduleRavg_derived placed all (intime _ rfl) next
    have switched := queues_derived tracked (afterRavg_queues _ cpu (s.world.rq cpu).curr next)
    rw [SchedEvent.run,ran]
    exact ⟨switched.set,switched.records⟩
  | tickEntry cpu clock =>
    have ran : lseTickEntry s.world cpu clock =
        updateIfTracked s.world (s.world.rq cpu).curr cpu .taskUpdate (lseRqClock s.world cpu clock) := if_neg on
    rw [SchedEvent.run,ran]
    exact charge_derived placed all (intime _ rfl) .taskUpdate
  | schedulerTick clock =>
    have ran : lseSchedulerTick s.world clock = s.world := if_pos (Or.inr placed.seeded)
    rwa [SchedEvent.run,ran]
  | shadowTick timer cpu clock =>
    by_cases ticks : lseShadowTickEnabled s.world = true ∧ (s.world.rq cpu).curr ≠ (s.world.rq cpu).idle
    · have ran : lseShadowTickCb s.world timer cpu clock =
          updateIfTracked s.world (s.world.rq cpu).curr cpu .taskUpdate (lseSchedClock s.world clock) := by
        simp [lseShadowTickCb,ticks,on]
      have reaches : SchedEvent.observed s.world (.shadowTick timer cpu clock) =
          some (cpu,lseSchedClock s.world clock) := if_pos ticks
      rw [SchedEvent.run,ran]
      exact charge_derived placed all (intime _ reaches) .taskUpdate
    · have still : (lseShadowTickCb s.world timer cpu clock).lts = s.world.lts ∧
          (lseShadowTickCb s.world timer cpu clock).track = s.world.track := by
        unfold lseShadowTickCb
        split_ifs with off busy
        · exact ⟨rfl,rfl⟩
        · refine absurd ⟨?_,busy⟩ ticks
          simpa using (not_or.mp off).1
        · exact ⟨rfl,rfl⟩
      rw [SchedEvent.run]
      refine ⟨?_,?_⟩
      · rw [still.2]
        exact all.set
      · rw [still.1]
        exact all.records
  | irqWork cpu clock =>
    have charged := charge_derived placed all (intime _ rfl) .taskUpdate
    simp only [SchedEvent.run,lseIrqWork,commitWindow]
    split_ifs
    · exact ⟨charged.set,charged.records⟩
    · exact charged
  | task t p => exact ⟨all.set,all.records⟩
  | freq cpu f => exact ⟨all.set,all.records⟩
  | others e => exact ⟨kept.trans all.set,all.records⟩

end

/-! ### Against the running times -/

/-- Sums and maxima do not depend on where the ring starts, and the average fits. -/
theorem historyDemand_recent {policy : ℤ} {g : Track} (set : g.windowStatsPolicy = policy) (ring : List ℕ × ℕ)
    (words : ∀ x ∈ ring.1, x < 4294967296) (slots : ring.1.length = ravgHistSize) :
    historyDemand g ring.1 ((Ring.recent ring).headD 0) = policyDemand policy (Ring.recent ring) := by
  have perm := Ring.recent_perm ring
  have sum : (Ring.recent ring).sum = ring.1.sum := perm.sum_eq
  have greatest : (Ring.recent ring).foldl max 0 = ring.1.foldl max 0 := perm.foldl_eq 0
  have total := List.sum_le_card_nsmul ring.1 4294967295 (fun x member => Nat.le_of_lt_succ (words x member))
  rw [slots,Nat.nsmul_eq_mul,ravgHistSize] at total
  have average : u32 (ring.1.sum / ravgHistSize) = ring.1.sum / ravgHistSize := by
    rw [ravgHistSize]
    exact u32_of_lt (by omega)
  simp only [historyDemand,policyDemand,set,sum,greatest,average]

/-- A task that ran as long in each window has that demand, whatever the policy. -/
theorem policyDemand_steady (policy : ℤ) (runtime : ℕ) :
    policyDemand policy (List.replicate ravgHistSize runtime) = runtime := by
  have head : (List.replicate ravgHistSize runtime).headD 0 = runtime := rfl
  have greatest : (List.replicate ravgHistSize runtime).foldl max 0 = runtime := by
    simp [ravgHistSize,List.replicate]
  have average : (List.replicate ravgHistSize runtime).sum / ravgHistSize = runtime := by
    rw [List.sum_replicate,Nat.nsmul_eq_mul]
    exact Nat.mul_div_cancel_left runtime (by decide)
  unfold policyDemand
  rw [head,greatest,average,max_self,ite_self,ite_self,ite_self]

theorem derived_fresh {policy : ℤ} {lts : LseTaskStruct} (accounted : accountOf lts = ⟨0,0,List.replicate ravgHistSize 0,0⟩)
    (undemanded : lts.demand = 0) : Derived policy lts := by
  have history : lts.sumHistory = List.replicate ravgHistSize 0 := congrArg Account.history accounted
  have cidx : lts.cidx = 0 := congrArg Account.slot accounted
  refine ⟨?_,?_,?_,fun g set => ?_⟩
  · rw [history,List.length_replicate]
  · rw [cidx]
    decide
  · rw [history]
    decide
  · have words : ∀ x ∈ List.replicate ravgHistSize 0, x < 4294967296 := by decide
    rw [history,cidx,undemanded,historyDemand_recent set (List.replicate ravgHistSize 0,0) words rfl]
    exact (policyDemand_steady policy 0).symm

theorem derived_seededAt {w : World} (fresh : Fresh w) (undemanded : ∀ t, ∀ lts ∈ w.lts t, lts.demand = 0) (origin : ℕ) :
    AllDerived w.track.windowStatsPolicy (seededAt w origin) := by
  refine ⟨rfl,fun t lts present => ?_⟩
  have accounted := fresh.accounts t
  rw [account_of_lts (show w.lts t = some lts from present),Option.some.injEq] at accounted
  exact derived_fresh accounted (undemanded t lts present)

/-- Task 2 runs for 2 ms in each of five windows, and is picked again in the sixth. -/
def steadyRun : List SchedEvent :=
  [.schedule 0 2 2000000,.schedule 0 0 4000000,.schedule 0 2 10000000,.schedule 0 0 12000000,.schedule 0 2 18000000,
    .schedule 0 0 20000000,.schedule 0 2 26000000,.schedule 0 0 28000000,.schedule 0 2 34000000,.schedule 0 0 36000000,
    .schedule 0 2 42000000]

/-- What is in its record then. -/
def steady : LseTaskStruct where
  markStart := 42000000
  windowStart := 41000000
  sum := 0
  sumHistory := List.replicate 5 2000000
  cidx := 0
  demand := 2000000
  demandScaled := 256
  taskClass := .normal
  boostPct := 1024
  priorityHint := 120
  onDsq := false

end LunarSched.Demand
