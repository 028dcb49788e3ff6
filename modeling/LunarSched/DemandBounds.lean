import LunarSched.FullLoad
import LunarSched.Narrowing
import Mathlib.Algebra.Order.BigOperators.Group.List

/-!
The demand of a task stays within its window. The sum is clamped after an addition in 32
bits, samples of whole windows come from a product in 64 bits, and the demand goes to 16
bits at the end. The functions of the tracker that make these stores are given once more as
traced computations; on the way to a record that is within its window no store loses a bit,
and the new record is within the window again. So along every run with one window of a
suitable size every record keeps within it, whatever the policy (`demand_bounded`).
-/
namespace LunarSched.DemandBounds
open LunarSched.Machine LunarSched.Kernel LunarSched.UtilTrack LunarSched.Hooks LunarSched.Accounts LunarSched.Rollover
open LunarSched.FullLoad LunarSched.Narrowing LunarSched.Runs

/-- `add_to_task_demand` adds a 64-bit time to a sum of 32 bits. Stores between variables
    of one width keep their value and are left out. -/
def tracedAddToTaskDemand (g : Track) (lts : LseTaskStruct) (lrq : LseRq) (delta : ℕ) : Traced (ℕ × LseTaskStruct) := do
  let delta := scaleExecTime delta lrq
  let sum ← store 32 (lts.sum + delta)
  pure (delta,{ lts with sum := if g.ravgWindow < sum then g.ravgWindow else sum })

/-- The average is taken in 64 bits and stored in 32. -/
def tracedHistoryDemand (g : Track) (hist : List ℕ) (runtime : ℕ) : Traced ℕ := do
  let avg ← store 32 (hist.sum / ravgHistSize)
  pure
    (if g.windowStatsPolicy = 0 then runtime
    else if g.windowStatsPolicy = 1 then hist.foldl max 0
    else if g.windowStatsPolicy = 3 then avg
    else max avg runtime)

/-- `update_history` gets the sample in a 32-bit parameter, and stores the demand in
    parts of 1024 in 16 bits. -/
def tracedUpdateHistory (g : Track) (p : TaskStruct) (lts : LseTaskStruct) (runtime : ℕ) (samples : ℤ) :
    Traced LseTaskStruct := do
  let runtime ← store 32 runtime
  if runtime = 0 ∨ p.isIdle = true ∨ samples = 0 then pure lts
  else
    let ring := Ring.pushes runtime samples.toNat (lts.sumHistory,lts.cidx)
    let demand ← tracedHistoryDemand g ring.1 runtime
    let scaled ← store 16 (lseScaleTimeToUtil g demand)
    pure { lts with sumHistory := ring.1, cidx := ring.2, sum := 0, demand := demand, demandScaled := scaled }

def tracedUpdateTaskDemand (g : Track) (rq : Rq) (lrq : LseRq) (t : ℕ) (p : TaskStruct) (lts : LseTaskStruct)
    (event : TaskEvent) (wallclock : ℕ) : Traced (ℕ × LseTaskStruct) :=
  let windowStart := lrq.windowStart
  let newWindow := lts.markStart < windowStart
  if accountBusyForTaskDemand rq t p event = false then do
    let lts ← (if newWindow then tracedUpdateHistory g p lts lts.sum 1 else pure lts)
    pure (0,lts)
  else if ¬ newWindow then tracedAddToTaskDemand g lts lrq (u64Sub wallclock lts.markStart)
  else do
    let nrFullWindows := s32 (u64Sub windowStart lts.markStart / g.ravgWindow)
    let fullTime := u64 (u64OfInt nrFullWindows * g.ravgWindow)
    let rewound := u64Sub windowStart fullTime
    let first ← tracedAddToTaskDemand g lts lrq (u64Sub rewound lts.markStart)
    let closed ← tracedUpdateHistory g p first.2 first.2.sum 1
    let scaledWindow := scaleExecTime g.ravgWindow lrq
    let full := if nrFullWindows ≠ 0 then u64 (u64OfInt nrFullWindows * scaledWindow) else 0
    let filled ← (if nrFullWindows ≠ 0 then tracedUpdateHistory g p closed scaledWindow nrFullWindows else pure closed)
    let restored := u64 (rewound + fullTime)
    let last ← tracedAddToTaskDemand g filled lrq (u64Sub wallclock restored)
    pure (u64 (first.1 + full + last.1),last.2)

/-- The accounting of a task that was seen before. -/
def tracedAccountTask (w : World) (t cpu : ℕ) (event : TaskEvent) (wallclock : ℕ) (lts : LseTaskStruct) (lrq : LseRq) :
    Traced (LseTaskStruct × LseRq) := do
  let lrq := updateTaskRqCpuCycles (w.freq cpu) lrq
  let demand ← tracedUpdateTaskDemand w.track (w.rq cpu) lrq t (w.task t) lts event wallclock
  let lrq := updateCpuBusyTime lrq (w.task t) lts.markStart event wallclock
  pure ({ demand.2 with windowStart := lrq.windowStart },lrq)

def tracedRavgUpdate (w : World) (lts : LseTaskStruct) (t cpu : ℕ) (event : TaskEvent) (wallclock : ℕ) :
    Traced (LseTaskStruct × LseRq × ℕ × List LseBug) := do
  let (oldWindowStart,lrq,bugs) := updateWindowStart w.track (w.lrq cpu) wallclock
  let lts := if lts.windowStart = 0 then { lts with windowStart := lrq.windowStart } else lts
  let (lts,lrq) ← (if lts.markStart = 0 then pure (lts,lrq) else tracedAccountTask w t cpu event wallclock lts lrq)
  let bugs := if u64 (lts.windowStart + w.track.ravgWindow) < wallclock then .markStartAheadOfWindow :: bugs else bugs
  pure ({ lts with markStart := wallclock },lrq,oldWindowStart,bugs)

/-- `records`, with the stores on the way. -/
def tracedRecords (w : World) (lts : LseTaskStruct) (t cpu : ℕ) (event : TaskEvent) (wallclock : ℕ) :
    Traced (LseTaskStruct × LseRq) :=
  let hinted := lseRefreshTaskHint w.track lts (w.task t)
  if Skipped w lts cpu wallclock then pure (hinted,w.lrq cpu)
  else do
    let update ← tracedRavgUpdate w hinted t cpu event wallclock
    pure (update.1,update.2.1)

section
variable (g : Track) (w : World) (lrq : LseRq) (lts : LseTaskStruct)

@[simp] theorem tracedAddToTaskDemand_result (delta : ℕ) :
    (tracedAddToTaskDemand g lts lrq delta).result = addToTaskDemand g lts lrq delta := rfl

@[simp] theorem tracedUpdateHistory_result (p : TaskStruct) (runtime : ℕ) (samples : ℤ) :
    (tracedUpdateHistory g p lts runtime samples).result = updateHistory g p lts runtime samples := by
  have word : runtime % 2 ^ 32 = u32 runtime := rfl
  simp only [tracedUpdateHistory,updateHistory,result_bind,result_store,word,result_ite]
  rfl

@[simp] theorem tracedUpdateTaskDemand_result (rq : Rq) (t : ℕ) (p : TaskStruct) (event : TaskEvent) (wallclock : ℕ) :
    (tracedUpdateTaskDemand g rq lrq t p lts event wallclock).result =
      updateTaskDemand g rq lrq t p lts event wallclock := by
  simp only [tracedUpdateTaskDemand,updateTaskDemand,result_ite,result_bind,result_pure,tracedAddToTaskDemand_result,
    tracedUpdateHistory_result]

@[simp] theorem tracedAccountTask_result (t cpu : ℕ) (event : TaskEvent) (wallclock : ℕ) :
    (tracedAccountTask w t cpu event wallclock lts lrq).result = accountTask w t cpu event wallclock lts lrq := by
  simp [tracedAccountTask,accountTask]

@[simp] theorem tracedRavgUpdate_result (t cpu : ℕ) (event : TaskEvent) (wallclock : ℕ) :
    (tracedRavgUpdate w lts t cpu event wallclock).result = ravgUpdate w lts t cpu event wallclock := by
  simp only [tracedRavgUpdate,ravgUpdate,result_bind,result_ite,result_pure,tracedAccountTask_result]

/-- The records of a traced call are those that the call stores. -/
theorem tracedRecords_result (t cpu : ℕ) (event : TaskEvent) (wallclock : ℕ) :
    (tracedRecords w lts t cpu event wallclock).result = records w lts t cpu event wallclock := by
  simp only [tracedRecords,records,result_ite,result_bind,result_pure,tracedRavgUpdate_result]

end

/-- The window in force, with the divisor that belongs to it. -/
structure Sized (size : ℕ) (g : Track) : Prop where
  least : 1048576 ≤ size
  most : size ≤ 1000000000
  window : g.ravgWindow = size
  divisor : g.scaleDemandDivisor = size / 1024

/-- A record within its window: sum and samples are no longer than the window, and the
    demand is between the least and the greatest sample and is converted in full. -/
structure DemandBounded (size : ℕ) (lts : LseTaskStruct) : Prop where
  sum : lts.sum ≤ size
  slots : lts.sumHistory.length = ravgHistSize
  samples : ∀ x ∈ lts.sumHistory, x ≤ size
  cidx : lts.cidx < ravgHistSize
  least : ∃ lo ∈ lts.sumHistory.min?, lo ≤ lts.demand
  greatest : ∃ hi ∈ lts.sumHistory.max?, lts.demand ≤ hi
  scaled : lts.demandScaled = lts.demand / (size / 1024)
  unit : lts.demandScaled ≤ 1024

theorem demandBounded_init (size : ℕ) (p : TaskStruct) : DemandBounded size (initLseTaskStruct p) := by
  refine ⟨Nat.zero_le _,rfl,?_,Nat.zero_lt_succ _,⟨0,rfl,le_rfl⟩,⟨0,rfl,le_rfl⟩,(Nat.zero_div _).symm,Nat.zero_le _⟩
  intro x member
  rw [List.eq_of_mem_replicate member]
  exact Nat.zero_le _

/-- A value between two of the samples is between the least and the greatest of them. -/
theorem between_samples {hist : List ℕ} {x : ℕ} (below : ∃ lo ∈ hist, lo ≤ x) (above : ∃ hi ∈ hist, x ≤ hi) :
    (∃ lo ∈ hist.min?, lo ≤ x) ∧ ∃ hi ∈ hist.max?, x ≤ hi := by
  obtain ⟨lo,low,le⟩ := below
  obtain ⟨hi,high,ge⟩ := above
  have nonempty : hist ≠ [] := List.ne_nil_of_mem low
  obtain ⟨least,isLeast⟩ := Option.ne_none_iff_exists'.mp (mt List.min?_eq_none_iff.mp nonempty)
  obtain ⟨most,isMost⟩ := Option.ne_none_iff_exists'.mp (mt List.max?_eq_none_iff.mp nonempty)
  exact ⟨⟨least,isLeast,((List.min?_eq_some_iff.mp isLeast).2 lo low).trans le⟩,
    ⟨most,isMost,ge.trans ((List.max?_eq_some_iff.mp isMost).2 hi high)⟩⟩

/-- The average rounded down is between two of the samples. -/
theorem average_between {hist : List ℕ} (nonempty : hist ≠ []) :
    (∃ lo ∈ hist, lo ≤ hist.sum / hist.length) ∧ ∃ hi ∈ hist, hist.sum / hist.length ≤ hi := by
  have positive : 0 < hist.length := List.length_pos_iff.mpr nonempty
  constructor
  · have total : (hist.map id).sum < (hist.map fun _ => hist.sum / hist.length + 1).sum := by
      simpa using Nat.lt_mul_div_succ hist.sum positive
    obtain ⟨lo,member,less⟩ := List.exists_lt_of_sum_lt id _ total
    exact ⟨lo,member,Nat.le_of_lt_succ less⟩
  · have total : (hist.map fun _ => hist.sum / hist.length).sum ≤ (hist.map id).sum := by
      simpa using Nat.mul_div_le hist.sum hist.length
    exact List.exists_le_of_sum_le nonempty _ id total

/-- The greatest sample, as `update_history` finds it. -/
theorem foldl_max_mem {hist : List ℕ} (nonempty : hist ≠ []) : hist.foldl max 0 ∈ hist := by
  rw [List.foldl_max_eq_max nonempty,Nat.max_eq_right (Nat.zero_le _)]
  exact List.max_mem nonempty

section
variable {size : ℕ} {g : Track} {lrq : LseRq} {lts : LseTaskStruct} {p : TaskStruct}

/-- The marks, hints and links of a record do not matter. -/
theorem DemandBounded.same {other : LseTaskStruct} (bounded : DemandBounded size lts)
    (same : { other with
      markStart := lts.markStart, windowStart := lts.windowStart, taskClass := lts.taskClass
      boostPct := lts.boostPct, priorityHint := lts.priorityHint, onDsq := lts.onDsq } = lts) :
    DemandBounded size other := by
  rw [← same] at bounded
  exact ⟨bounded.sum,bounded.slots,bounded.samples,bounded.cidx,bounded.least,bounded.greatest,bounded.scaled,bounded.unit⟩

theorem ensures_addToTaskDemand (sized : Sized size g) (scale : lrq.taskExecScale ≤ 1024)
    (bounded : DemandBounded size lts) {delta : ℕ} (short : delta ≤ size) :
    Ensures (tracedAddToTaskDemand g lts lrq delta) (fun r => DemandBounded size r.2) := by
  have time := scaleExecTime_le scale delta
  have sum := bounded.sum
  have most := sized.most
  refine ensures_bind _ (ensures_store (show lts.sum + scaleExecTime delta lrq < 2 ^ 32 by omega)) ?_
  rintro _ rfl
  refine ensures_pure ⟨?_,bounded.slots,bounded.samples,bounded.cidx,bounded.least,bounded.greatest,bounded.scaled,
    bounded.unit⟩
  simp only [sized.window]
  split_ifs with beyond
  · exact le_rfl
  · exact not_lt.mp beyond

/-- Every policy takes a demand between two samples. -/
theorem ensures_historyDemand {hist : List ℕ} (slots : hist.length = ravgHistSize)
    (samples : ∀ x ∈ hist, x < 4294967296) {runtime : ℕ} (newest : runtime ∈ hist) :
    Ensures (tracedHistoryDemand g hist runtime)
      (fun demand => (∃ lo ∈ hist, lo ≤ demand) ∧ ∃ hi ∈ hist, demand ≤ hi) := by
  have nonempty : hist ≠ [] := List.ne_nil_of_mem newest
  obtain ⟨⟨lo,low,le⟩,hi,high,ge⟩ := average_between nonempty
  rw [slots] at le ge
  have fits : hist.sum / ravgHistSize < 2 ^ 32 := ge.trans_lt (samples hi high)
  refine ensures_bind _ (ensures_store fits) ?_
  rintro _ rfl
  refine ensures_pure ?_
  split_ifs
  · exact ⟨⟨runtime,newest,le_rfl⟩,runtime,newest,le_rfl⟩
  · exact ⟨⟨_,foldl_max_mem nonempty,le_rfl⟩,_,foldl_max_mem nonempty,le_rfl⟩
  · exact ⟨⟨lo,low,le⟩,hi,high,ge⟩
  · refine ⟨⟨lo,low,le.trans (le_max_left _ _)⟩,?_⟩
    rcases le_total (hist.sum / ravgHistSize) runtime with less | more
    · exact ⟨runtime,newest,(max_eq_right less).le⟩
    · exact ⟨hi,high,(max_eq_left more).le.trans ge⟩

/-- A sample no longer than the window keeps the record within it. -/
theorem ensures_updateHistory (sized : Sized size g) (bounded : DemandBounded size lts) {runtime : ℕ}
    (within : runtime ≤ size) (count : ℕ) :
    Ensures (tracedUpdateHistory g p lts runtime count) (DemandBounded size) := by
  have least := sized.least
  have most := sized.most
  refine ensures_bind _ (ensures_store (show runtime < 2 ^ 32 by omega)) ?_
  rintro runtime rfl
  refine ensures_ite (fun _ => ensures_pure bounded) (fun taken => ?_)
  have counted : count ≠ 0 := fun none => taken (Or.inr (Or.inr (by rw [none]; rfl)))
  have inside : Ring.InRange (lts.sumHistory,lts.cidx) := by
    show lts.cidx < lts.sumHistory.length
    rw [bounded.slots]
    exact bounded.cidx
  obtain ⟨inRange,length⟩ := Ring.pushes_inRange (x := runtime) count inside
  have newest := Ring.pushes_mem (x := runtime) counted inside
  simp only [Int.toNat_natCast]
  have members : ∀ x ∈ (Ring.pushes runtime count (lts.sumHistory,lts.cidx)).1, x ≤ size := by
    intro x member
    rcases Ring.mem_pushes count member with rfl | kept
    · exact within
    · exact bounded.samples x kept
  generalize Ring.pushes runtime count (lts.sumHistory,lts.cidx) = ring at inRange length newest members ⊢
  have slots : ring.1.length = ravgHistSize := length.trans bounded.slots
  refine ensures_bind _ (ensures_historyDemand slots (fun x member => by have := members x member; omega) newest) ?_
  rintro demand ⟨below,above⟩
  obtain ⟨lowest,highest⟩ := between_samples below above
  have demanded : demand ≤ size := by
    obtain ⟨hi,high,ge⟩ := above
    exact ge.trans (members hi high)
  have unit : demand / (size / 1024) ≤ 1024 := Scale.div_divisor_le least demanded
  have scaled : lseScaleTimeToUtil g demand = demand / (size / 1024) := by
    rw [lseScaleTimeToUtil,sized.divisor]
  refine ensures_bind _ (ensures_store (show lseScaleTimeToUtil g demand < 2 ^ 16 by omega)) ?_
  rintro _ rfl
  exact ensures_pure ⟨Nat.zero_le _,slots,members,slots ▸ inRange,lowest,highest,scaled,scaled.le.trans unit⟩

/-- The time since the mark is accounted in pieces of at most a window. -/
theorem ensures_updateTaskDemand (sized : Sized size g) (scale : lrq.taskExecScale ≤ 1024)
    (bounded : DemandBounded size lts) (rq : Rq) (t : ℕ) (event : TaskEvent) {wallclock : ℕ}
    (later : lts.markStart ≤ wallclock) (few : wallclock < lts.markStart + 2147483648 * size)
    (started : lrq.windowStart ≤ wallclock) (inside : wallclock < lrq.windowStart + size)
    (small : wallclock < 18446744073709551616) :
    Ensures (tracedUpdateTaskDemand g rq lrq t p lts event wallclock) (fun r => DemandBounded size r.2) := by
  have least := sized.least
  refine ensures_ite (fun _ => ?_) (fun _ => ensures_ite (fun notNew => ?_) (fun isNew => ?_))
  · -- The window of the mark is closed with the sum as it is.
    refine ensures_bind _ (ensures_ite (fun _ => ?_) (fun _ => ensures_pure bounded)) (fun _ held => ensures_pure held)
    exact_mod_cast ensures_updateHistory sized bounded bounded.sum 1
  · rw [u64Sub_of_le later small]
    exact ensures_addToTaskDemand sized scale bounded (by omega)
  · have older : lts.markStart < lrq.windowStart := not_not.mp isNew
    have window := sized.window
    obtain ⟨signed,time,rewound,first,restored⟩ := rewind_across older
      (show lrq.windowStart < lts.markStart + 2147483648 * g.ravgWindow by omega) (by omega)
    have short : (lrq.windowStart - lts.markStart) % g.ravgWindow ≤ size := by
      rw [window]
      exact (Nat.mod_lt _ (by omega)).le
    simp only [signed,time,rewound,first,restored,u64Sub_of_le started small]
    refine ensures_bind _ (ensures_addToTaskDemand sized scale bounded short) (fun rest held => ?_)
    refine ensures_bind (DemandBounded size) ?_ (fun closed held => ?_)
    · exact_mod_cast ensures_updateHistory sized held held.sum 1
    refine ensures_bind (DemandBounded size) ?_ (fun filled held => ?_)
    · refine ensures_ite (fun _ => ensures_updateHistory sized held ?_ _) (fun _ => ensures_pure held)
      exact (scaleExecTime_le scale g.ravgWindow).trans window.le
    exact ensures_bind _ (ensures_addToTaskDemand sized scale held (by omega)) (fun _ held => ensures_pure held)

theorem ensures_ravgUpdate {w : World} {cpu wallclock : ℕ} (sized : Sized size w.track)
    (scale : AtMostFull (w.freq cpu)) (forward : Forward w.track.ravgWindow (w.lrq cpu) wallclock)
    (bounded : DemandBounded size lts) (later : lts.markStart ≤ wallclock)
    (few : lts.markStart ≠ 0 → wallclock < lts.markStart + 2147483648 * size) (t : ℕ) (event : TaskEvent) :
    Ensures (tracedRavgUpdate w lts t cpu event wallclock) (fun r => DemandBounded size r.1) := by
  have window := sized.window
  obtain ⟨started,inside⟩ := advance_contains forward
  unfold tracedRavgUpdate
  rw [updateWindowStart_forward forward]
  dsimp only
  generalize placed : (if lts.windowStart = 0 then
    { lts with windowStart := (advance w.track.ravgWindow (w.lrq cpu) wallclock).windowStart } else lts) = record
  have marks : record.markStart = lts.markStart := by
    rw [← placed]
    split_ifs <;> rfl
  have held : DemandBounded size record := by
    refine bounded.same ?_
    rw [← placed]
    split_ifs <;> rfl
  refine ensures_bind (fun r => DemandBounded size r.1) ?_
    (fun _ held => ensures_pure (held.same rfl))
  refine ensures_ite (fun _ => ensures_pure held) (fun marked => ?_)
  rw [marks] at marked
  have counts : (updateTaskRqCpuCycles (w.freq cpu)
    (advance w.track.ravgWindow (w.lrq cpu) wallclock)).taskExecScale ≤ 1024 := scale
  refine ensures_bind _ (ensures_updateTaskDemand sized counts held (w.rq cpu) t event ?_ ?_ started (window ▸ inside)
    forward.small) (fun _ held => ensures_pure (held.same rfl))
  · rwa [marks]
  · rw [marks]
    exact few marked

/-- A call of the tracker for a record within its window. -/
theorem ensures_records {w : World} {cpu wallclock : ℕ} (sized : Sized size w.track)
    (scale : AtMostFull (w.freq cpu))
    (forward : ¬ Skipped w lts cpu wallclock → Forward w.track.ravgWindow (w.lrq cpu) wallclock)
    (bounded : DemandBounded size lts) (later : lts.markStart ≤ wallclock)
    (few : lts.markStart ≠ 0 → wallclock < lts.markStart + 2147483648 * size) (t : ℕ) (event : TaskEvent) :
    Ensures (tracedRecords w lts t cpu event wallclock) (fun r => DemandBounded size r.1) := by
  have hinted : DemandBounded size (lseRefreshTaskHint w.track lts (w.task t)) := bounded.same rfl
  refine ensures_ite (fun _ => ensures_pure hinted) (fun taken => ?_)
  exact ensures_bind _ (ensures_ravgUpdate sized scale (forward taken) hinted later few t event)
    (fun _ held => ensures_pure held)

end

/-! ### Runs -/

/-- Calls of the tracker, the tick that seeds the windows, records that come and go, and in
    `others` everything else but the windows and the divisor, the policy for one. -/
inductive DemandEvent where
  | call (c : RavgCall)
  | tick (clock : ℕ)
  | alloc (t : ℕ)
  | free (t : ℕ)
  | others (e : World)

def demandStep (s : Clocked) : DemandEvent → Clocked
  | .call c => ravgStep s c
  | .tick clock => ⟨lseSchedulerTick s.world clock,clock⟩
  | .alloc t => ⟨allocLseTaskStruct s.world t,s.now⟩
  | .free t => ⟨freeLseTaskStruct s.world t,s.now⟩
  | .others e =>
    { world := { e with
        lts := s.world.lts
        lrq := s.world.lrq
        track := { e.track with
          ravgWindow := s.world.track.ravgWindow
          scaleDemandDivisor := s.world.track.scaleDemandDivisor } }
      now := s.now }

/-- Clocks do not go back, a call is fewer than 2³¹ windows past the window of its CPU and
    the mark of its task, and its CPU counts at no more than full scale. -/
def Admitted (s : Clocked) : DemandEvent → Prop
  | .call c => WindowChange.Timely s.world s.now c.cpu c.wallclock ∧
    (mark s.world c.t ≠ 0 → c.wallclock < mark s.world c.t + 2147483648 * s.world.track.ravgWindow) ∧
    AtMostFull (c.freq c.cpu)
  | .tick clock => s.now ≤ clock ∧ 20000 ≤ clock ∧ clock < 18446744073709551616
  | _ => True

instance (s : Clocked) : (e : DemandEvent) → Decidable (Admitted s e)
  | .call _ => inferInstanceAs (Decidable (_ ∧ (_ → _) ∧ _))
  | .tick _ => inferInstanceAs (Decidable (_ ∧ _ ∧ _))
  | .alloc _ | .free _ | .others _ => isTrue trivial

/-- No store that a call makes for its task loses a bit. -/
def NoWrap (s : Clocked) : DemandEvent → Prop
  | .call c => ∀ lts, s.world.lts c.t = some lts →
    (tracedRecords (c.atWorld s.world) lts c.t c.cpu c.event c.wallclock).NoWrap
  | _ => True

/-- Before the first call: fresh records, and no CPU ahead of the run. -/
structure DemandStart (size : ℕ) (s : Clocked) : Prop where
  sized : Sized size s.world.track
  fresh : ∀ t lts, s.world.lts t = some lts → ∃ p, lts = initLseTaskStruct p
  latest : ∀ cpu, (s.world.lrq cpu).latestClock ≤ s.now
  started : ∀ cpu, (s.world.lrq cpu).windowStart ≤ s.now

/-- If there is a record, it is within its window and not ahead of the run. -/
def RecordBounded (size now : ℕ) (record : Option LseTaskStruct) : Prop :=
  ∀ lts ∈ record, DemandBounded size lts ∧ lts.markStart ≤ now

/-- The CPU is not ahead of the run. -/
def Reached (now : ℕ) (lrq : LseRq) : Prop := lrq.latestClock ≤ now ∧ lrq.windowStart ≤ now

structure AllBounded (size : ℕ) (s : Clocked) : Prop where
  sized : Sized size s.world.track
  records : ∀ t, RecordBounded size s.now (s.world.lts t)
  cpus : ∀ cpu, Reached s.now (s.world.lrq cpu)

section
variable {size now : ℕ} {s : Clocked} {c : RavgCall} {lts : LseTaskStruct}

/-- Time passes. -/
theorem AllBounded.mono (all : AllBounded size s) (later : s.now ≤ now) : AllBounded size ⟨s.world,now⟩ := by
  refine ⟨all.sized,?_,fun cpu => ⟨(all.cpus cpu).1.trans later,(all.cpus cpu).2.trans later⟩⟩
  intro t lts present
  obtain ⟨bounded,marked⟩ := all.records t lts present
  exact ⟨bounded,marked.trans later⟩

theorem recordBounded_init (p : TaskStruct) : RecordBounded size now (some (initLseTaskStruct p)) := by
  rintro lts ⟨⟩
  exact ⟨demandBounded_init size p,Nat.zero_le _⟩

/-- Storing a record that is within its window, or taking one away. -/
theorem recordBounded_update {records : ℕ → Option LseTaskStruct} (all : ∀ t, RecordBounded size now (records t))
    {record : Option LseTaskStruct} (bounded : RecordBounded size now record) (u : ℕ) :
    ∀ t, RecordBounded size now (Function.update records u record t) :=
  (Function.forall_update_iff records (fun _ => RecordBounded size now)).mpr ⟨bounded,fun t _ => all t⟩

theorem allBounded_start (start : DemandStart size s) : AllBounded size s := by
  obtain ⟨sized,fresh,latest,started⟩ := start
  refine ⟨sized,?_,fun cpu => ⟨latest cpu,started cpu⟩⟩
  intro t lts present
  obtain ⟨p,rfl⟩ := fresh t lts present
  exact ⟨demandBounded_init size p,Nat.zero_le _⟩

theorem forward_of_admitted (all : AllBounded size s) (admitted : Admitted s (.call c))
    (taken : ¬ Skipped (c.atWorld s.world) lts c.cpu c.wallclock) :
    Forward s.world.track.ravgWindow (s.world.lrq c.cpu) c.wallclock := by
  obtain ⟨⟨later,small,gap⟩,_,_⟩ := admitted
  obtain ⟨latest,started⟩ := (all.mono later).cpus c.cpu
  obtain ⟨least,most,window,_⟩ := all.sized
  exact ⟨by omega,by omega,latest,started,small,gap (fun zero => taken (Or.inr (Or.inl zero)))⟩

/-- The stores of a call fit, and the record that it stores is within its window. -/
theorem call_ensures (all : AllBounded size s) (admitted : Admitted s (.call c)) (present : s.world.lts c.t = some lts) :
    Ensures (tracedRecords (c.atWorld s.world) lts c.t c.cpu c.event c.wallclock) (fun r => DemandBounded size r.1) := by
  obtain ⟨bounded,marked⟩ := all.records c.t lts present
  have few := admitted.2.1
  rw [mark_of_lts present,all.sized.window] at few
  have sized : Sized size (c.atWorld s.world).track := all.sized
  exact ensures_records sized admitted.2.2 (forward_of_admitted all admitted) bounded (marked.trans admitted.1.1) few c.t
    c.event

/-- Neither of the records that a call stores is ahead of its wallclock. -/
theorem records_reached (all : AllBounded size s) (admitted : Admitted s (.call c))
    (present : s.world.lts c.t = some lts) :
    (records (c.atWorld s.world) lts c.t c.cpu c.event c.wallclock).1.markStart ≤ c.wallclock ∧
      Reached c.wallclock (records (c.atWorld s.world) lts c.t c.cpu c.event c.wallclock).2 := by
  have later : s.now ≤ c.wallclock := admitted.1.1
  by_cases skipped : Skipped (c.atWorld s.world) lts c.cpu c.wallclock
  · obtain ⟨account,lrq⟩ := records_skipped (t := c.t) c.event skipped
    have marks : (records (c.atWorld s.world) lts c.t c.cpu c.event c.wallclock).1.markStart = lts.markStart :=
      congrArg Account.mark account
    rw [marks,lrq]
    exact ⟨((all.mono later).records c.t lts present).2,(all.mono later).cpus c.cpu⟩
  · have forward := forward_of_admitted all admitted skipped
    obtain ⟨marks,clock,window⟩ := records_taken (t := c.t) c.event skipped forward
    rw [Reached,marks,clock,window]
    exact ⟨le_rfl,le_rfl,(advance_contains forward).1⟩

/-- A call keeps every record within its window. -/
theorem call_allBounded (all : AllBounded size s) (admitted : Admitted s (.call c)) : AllBounded size (ravgStep s c) := by
  have later : s.now ≤ c.wallclock := admitted.1.1
  have waited : AllBounded size ⟨c.atWorld s.world,c.wallclock⟩ :=
    ⟨all.sized,(all.mono later).records,(all.mono later).cpus⟩
  rcases updateIfTracked_outcome (c.atWorld s.world) c.t c.cpu c.event c.wallclock with
    same | ⟨lts,_,_,present,_,stored⟩
  · rw [ravgStep,same]
    exact waited
  · obtain ⟨_,held⟩ := call_ensures all admitted present
    obtain ⟨marks,reached⟩ := records_reached all admitted present
    rw [tracedRecords_result] at held
    rw [ravgStep,stored]
    obtain ⟨⟨least,most,window,divisor⟩,kept,cpus⟩ := waited
    refine ⟨⟨least,most,window,divisor⟩,?_,?_⟩
    · refine recordBounded_update kept ?_ c.t
      rintro lts ⟨⟩
      exact ⟨held,marks⟩
    · exact (Function.forall_update_iff _ (fun _ => Reached c.wallclock)).mpr ⟨reached,fun cpu _ => cpus cpu⟩

/-- The tick sets window starts to 20 µs before its clock at most. -/
theorem tick_allBounded (all : AllBounded size s) {clock : ℕ} (later : s.now ≤ clock) (late : 20000 ≤ clock)
    (small : clock < 18446744073709551616) : AllBounded size ⟨lseSchedulerTick s.world clock,clock⟩ := by
  obtain ⟨⟨least,most,window,divisor⟩,records,cpus⟩ := all.mono later
  by_cases ran : s.world.track.slimWaltCtrl = 0 ∨ s.world.track.tickSchedClock ≠ 0
  · rw [lseSchedulerTick,if_pos ran]
    exact ⟨⟨least,most,window,divisor⟩,records,cpus⟩
  · obtain ⟨on,first⟩ := not_or.mp ran
    obtain ⟨track,lrq⟩ := lseSchedulerTick_first on (not_not.mp first) late small
    refine ⟨?_,fun t => ?_,fun cpu => ?_⟩
    · rw [track]
      exact ⟨least,most,window,divisor⟩
    · rw [(lseSchedulerTick_frame s.world clock).lts]
      exact records t
    · rw [lrq]
      split_ifs
      · exact ⟨(cpus cpu).1,Nat.sub_le clock 20000⟩
      · exact cpus cpu

theorem demandStep_allBounded {e : DemandEvent} (all : AllBounded size s) (admitted : Admitted s e) :
    AllBounded size (demandStep s e) := by
  have ⟨⟨least,most,window,divisor⟩,records,cpus⟩ := all
  cases e with
  | call c => exact call_allBounded all admitted
  | tick clock => exact tick_allBounded all admitted.1 admitted.2.1 admitted.2.2
  | alloc t =>
    rcases allocLseTaskStruct_cases s.world t with same | ⟨_,fresh⟩
    · rw [demandStep,same]
      exact all
    · rw [demandStep,fresh]
      exact ⟨⟨least,most,window,divisor⟩,recordBounded_update records (recordBounded_init _) t,cpus⟩
  | free t =>
    exact ⟨⟨least,most,window,divisor⟩,recordBounded_update records (fun _ member => absurd member (by simp)) t,cpus⟩
  | others e => exact ⟨⟨least,most,window,divisor⟩,records,cpus⟩

/-- Along every run with one window from 2²⁰ ns to a second, whatever the policy, no store
    of an update loses a bit, and after it every record is within its window. -/
theorem demand_bounded (size : ℕ) (s : Clocked) (start : DemandStart size s) (run : List DemandEvent)
    (admitted : Along demandStep Admitted s run) :
    (∀ t lts, (exec demandStep s run).world.lts t = some lts → DemandBounded size lts) ∧ Along demandStep NoWrap s run := by
  have keeps : ∀ s e, AllBounded size s → Admitted s e → AllBounded size (demandStep s e) :=
    fun _ _ all ok => demandStep_allBounded all ok
  refine ⟨?_,along_invariant (AllBounded size) keeps ?_ (allBounded_start start) admitted⟩
  · intro t lts present
    exact ((exec_invariant (AllBounded size) keeps (allBounded_start start) admitted).records t lts present).1
  · intro s e all ok
    cases e with
    | call c => exact fun lts present => (call_ensures all ok present).1
    | tick | alloc | free | others => exact trivial

end

theorem boot_demandStart (nrCpuIds : ℕ) (task : ℕ → TaskStruct) : DemandStart 8000000 ⟨World.boot nrCpuIds task,0⟩ := by
  refine ⟨⟨by decide,by decide,rfl,rfl⟩,?_,fun _ => le_rfl,fun _ => le_rfl⟩
  intro t lts present
  exact ⟨task t,(Option.some.inj present).symm⟩

/-- The default settings with another policy. -/
def policySet (policy : ℤ) : World :=
  let w := World.boot 2 (fun _ => plainTask)
  { w with track := { w.track with windowStatsPolicy := policy } }

/-- A call for task 2 on a CPU of a machine where it runs on every CPU at half the capacity. -/
def halfSpeed (cpu : ℕ) (event : TaskEvent) (wallclock : ℕ) : RavgCall :=
  ⟨2,cpu,event,wallclock,fun cpu => ⟨2,cpu⟩,fun _ => ⟨2,1,1024⟩,fun _ => plainTask⟩

/-- Task 2 runs on both CPUs at half speed, over several windows and under two policies. -/
theorem demand_bounded_half :
    let run := [.tick 1020000,.call (halfSpeed 0 .pickNextTask 2000000),.call (halfSpeed 0 .putPrevTask 12000000),
      .others (policySet 1),.call (halfSpeed 1 .pickNextTask 14000000),.call (halfSpeed 1 .taskUpdate 40000000),
      .others (policySet 3),.call (halfSpeed 1 .putPrevTask 49000000)]
    (∀ t lts, (exec demandStep ⟨World.boot 2 (fun _ => plainTask),0⟩ run).world.lts t = some lts →
        DemandBounded 8000000 lts) ∧
      Along demandStep NoWrap ⟨World.boot 2 (fun _ => plainTask),0⟩ run :=
  demand_bounded 8000000 _ (boot_demandStart 2 _) _ (by decide +kernel)

end LunarSched.DemandBounds
