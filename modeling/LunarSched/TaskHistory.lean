import LunarSched.Occupancy

/-!
The window history of a task. With the tracker at full scale, `sum` is a task's
running time in the window of its mark, and `sum_history`, read backwards from the
slot before `cidx`, lists its running times in the last completed windows in which
it ran (`history_exact`). One busy stretch may close the old window, fill any
number of windows after it and open the current one; `across` says what it leaves
in the record, and `activeWindows_across` that the stints say the same.
-/
namespace LunarSched.TaskHistory
open LunarSched.Machine LunarSched.Kernel LunarSched.UtilTrack LunarSched.Accounts LunarSched.Occupancy
open LunarSched.Runs LunarSched.Timeline

/-- When a task ran, on any CPU. -/
def taskSpans (stints : List Stint) (t : ℕ) : List Span := (stints.filter (fun st => st.task = t)).map Stint.span

/-- The history shows the newest part of a list of samples, and zeros after its end. -/
structure Shows (a : Account) (samples : List ℕ) : Prop where
  size : a.history.length = ravgHistSize
  inRange : a.slot < ravgHistSize
  newest : Ring.recent (a.history,a.slot) = (samples ++ List.replicate ravgHistSize 0).take ravgHistSize

/-- The account of a task that ran when the spans say. -/
structure HistoryExact (origin size : ℕ) (a : Account) (spans : List Span) : Prop where
  serial : Serial spans a.mark
  sum : a.sum = windowTime origin size spans (windowOf origin size a.mark)
  shows : Shows a (activeWindows origin size spans (windowOf origin size a.mark))

/-- The account with a sample pushed a number of times; samples of 0 are dropped. -/
def sample (a : Account) (runtime count : ℕ) : Account :=
  if runtime = 0 ∨ count = 0 then a
  else
    let ring := Ring.pushes runtime count (a.history,a.slot)
    { a with sum := 0, history := ring.1, slot := ring.2 }

section
variable {g : Track} {rq : Rq} {lrq : LseRq} {t wallclock : ℕ} {p : TaskStruct} {lts : LseTaskStruct}
  {event : TaskEvent} {samples : List ℕ}

theorem updateHistory_sample (busy : p.isIdle = false) {runtime : ℕ} (small : runtime < 4294967296) (count : ℕ) :
    accountOf (updateHistory g p lts runtime count) = sample (accountOf lts) runtime count := by
  have word : u32 runtime = runtime := u32_of_lt small
  simp only [updateHistory,word,busy,Bool.false_eq_true,false_or,Nat.cast_eq_zero,sample,Int.toNat_natCast]
  split_ifs <;> rfl

theorem sample_shows {a : Account} (shows : Shows a samples) {runtime : ℕ} (positive : runtime ≠ 0) (count : ℕ) :
    Shows (sample a runtime count) (List.replicate count runtime ++ samples) := by
  obtain ⟨size,inRange,newest⟩ := shows
  by_cases none : count = 0
  · subst none
    simpa [sample] using ⟨size,inRange,newest⟩
  · have inside : Ring.InRange (a.history,a.slot) := by
      show a.slot < a.history.length
      rw [size]
      exact inRange
    obtain ⟨within,length⟩ := Ring.pushes_inRange (x := runtime) count inside
    have shown := Ring.recent_pushes (x := runtime) count (samples ++ List.replicate ravgHistSize 0) inside
      (by simpa [size] using newest)
    simp only [sample,positive,none,or_self,if_false]
    refine ⟨length.trans size,?_,?_⟩
    · rw [← size,← length]
      exact within
    · simpa [size] using shown

theorem sample_own (a : Account) : (sample a a.sum 1).sum = 0 := by
  by_cases none : a.sum = 0
  · simp [sample,none]
  · simp [sample,none]

theorem sample_rest {a : Account} (rest : a.sum = 0) (runtime count : ℕ) : (sample a runtime count).sum = 0 := by
  unfold sample
  split_ifs
  · exact rest
  · rfl

theorem addToTaskDemand_full (full : lrq.taskExecScale = 1024) (word : g.ravgWindow < 4294967296) {delta : ℕ}
    (room : lts.sum + delta ≤ g.ravgWindow) :
    addToTaskDemand g lts lrq delta = (delta,{ lts with sum := lts.sum + delta }) := by
  have scaled : scaleExecTime delta lrq = delta := scaleExecTime_full full (by omega)
  have sum : u32 (lts.sum + delta) = lts.sum + delta := u32_of_lt (by omega)
  simp only [addToTaskDemand,scaled,sum,not_lt.mpr room,if_false]

/-- A busy stretch within the window of the mark. -/
theorem demand_inside (runs : accountBusyForTaskDemand rq t p event = true) (full : lrq.taskExecScale = 1024)
    (word : g.ravgWindow < 4294967296) (inside : lrq.windowStart ≤ lts.markStart) (later : lts.markStart ≤ wallclock)
    (small : wallclock < 18446744073709551616) (room : lts.sum + (wallclock - lts.markStart) ≤ g.ravgWindow) :
    accountOf (updateTaskDemand g rq lrq t p lts event wallclock).2 =
      { accountOf lts with sum := lts.sum + (wallclock - lts.markStart) } := by
  simp only [updateTaskDemand,runs,Bool.true_eq_false,if_false,not_lt.mpr inside,not_false_eq_true,if_true,
    u64Sub_of_le later small]
  rw [addToTaskDemand_full full word room]
  rfl

/-- A busy stretch from an older window: the rest of that window, a number of full
    ones, and the start of the current one. -/
theorem demand_across (runs : accountBusyForTaskDemand rq t p event = true) (busy : p.isIdle = false)
    (full : lrq.taskExecScale = 1024) (positive : 0 < g.ravgWindow) (word : g.ravgWindow < 4294967296)
    (older : lts.markStart < lrq.windowStart) (few : lrq.windowStart < lts.markStart + 2147483648 * g.ravgWindow)
    (started : lrq.windowStart ≤ wallclock) (inside : wallclock < lrq.windowStart + g.ravgWindow)
    (small : wallclock < 18446744073709551616)
    (room : lts.sum + (lrq.windowStart - lts.markStart) % g.ravgWindow ≤ g.ravgWindow) :
    accountOf (updateTaskDemand g rq lrq t p lts event wallclock).2 =
      let rest := { accountOf lts with sum := lts.sum + (lrq.windowStart - lts.markStart) % g.ravgWindow }
      let full := sample (sample rest rest.sum 1) g.ravgWindow ((lrq.windowStart - lts.markStart) / g.ravgWindow)
      { full with sum := wallclock - lrq.windowStart } := by
  rw [updateTaskDemand_across runs full positive word older few started inside small]
  generalize (lrq.windowStart - lts.markStart) % g.ravgWindow = r at room ⊢
  generalize (lrq.windowStart - lts.markStart) / g.ravgWindow = n
  rw [addToTaskDemand_full full word room]
  let rest := { lts with sum := lts.sum + r }
  let closed := updateHistory g p rest rest.sum 1
  have closedAccount : accountOf closed = sample (accountOf rest) rest.sum 1 := by
    exact_mod_cast updateHistory_sample busy (lt_of_le_of_lt room word) 1
  let filled := if n = 0 then closed else updateHistory g p closed g.ravgWindow n
  have filledAccount : accountOf filled = sample (accountOf closed) g.ravgWindow n := by
    by_cases none : n = 0
    · simp [filled,none,sample]
    · simp only [filled,none,if_false]
      exact updateHistory_sample busy word n
  have empty : filled.sum = 0 := by
    show (accountOf filled).sum = 0
    rw [filledAccount,closedAccount]
    exact sample_rest (sample_own (accountOf rest)) g.ravgWindow n
  show accountOf (addToTaskDemand g filled lrq (wallclock - lrq.windowStart)).2 = _
  rw [addToTaskDemand_full full word (by omega)]
  show { accountOf filled with sum := filled.sum + (wallclock - lrq.windowStart) } = _
  rw [empty,Nat.zero_add,filledAccount,closedAccount]
  rfl

/-- A task that did not run closes the window of its mark when a later one started. -/
theorem demand_idle (waits : accountBusyForTaskDemand rq t p event = false) (busy : p.isIdle = false)
    (word : lts.sum < 4294967296) :
    accountOf (updateTaskDemand g rq lrq t p lts event wallclock).2 =
      if lts.markStart < lrq.windowStart then sample (accountOf lts) lts.sum 1 else accountOf lts := by
  have closes : accountOf (updateHistory g p lts lts.sum 1) = sample (accountOf lts) lts.sum 1 := by
    exact_mod_cast updateHistory_sample busy word 1
  simp only [updateTaskDemand,waits,if_true]
  split_ifs
  · exact closes
  · rfl

end

/-! ### The stints -/

section
variable {origin size wallclock : ℕ} {spans : List Span} {a : Account}

/-- What a busy stretch over the start of window `k + 1` does to the list of samples. -/
theorem activeWindows_across {k count since : ℕ} (positive : 0 < size) (low : origin + k * size ≤ since)
    (older : since < origin + (k + 1) * size) (later : origin + (k + 1 + count) * size ≤ wallclock)
    (ends : EndBy spans since) :
    activeWindows origin size (⟨since,wallclock⟩ :: spans) (k + 1 + count) =
      List.replicate count size ++
        (origin + (k + 1) * size - since + windowTime origin size spans k) :: activeWindows origin size spans k := by
  have reach : ∀ j, j ≤ k + 1 + count → origin + j * size ≤ wallclock :=
    fun j le => (Nat.add_le_add_left (Nat.mul_le_mul_right size le) origin).trans later
  have full : ∀ j, k + 1 ≤ j → j < k + 1 + count →
      windowTime origin size (⟨since,wallclock⟩ :: spans) j = size := by
    intro j above below
    have start : origin + (k + 1) * size ≤ origin + j * size :=
      Nat.add_le_add_left (Nat.mul_le_mul_right size above) origin
    have stop := reach (j + 1) (by omega)
    rw [windowTime_cons,windowTime_after (endBy_mono ends (by omega)),Span.overlap]
    simp only [Nat.succ_mul] at *
    omega
  have opened : windowTime origin size (⟨since,wallclock⟩ :: spans) k =
      origin + (k + 1) * size - since + windowTime origin size spans k := by
    have stop := reach (k + 1) (by omega)
    rw [windowTime_cons,Span.overlap]
    simp only []
    omega
  have below : activeWindows origin size (⟨since,wallclock⟩ :: spans) k = activeWindows origin size spans k := by
    refine activeWindows_congr (fun j before => windowTime_cons_before ?_)
    exact (Nat.add_le_add_left (Nat.mul_le_mul_right size before) origin).trans low
  rw [activeWindows_full count positive full,activeWindows,opened,below,if_neg (by omega)]

theorem shows_account {a b : Account} {samples : List ℕ} (shows : Shows a samples) (history : b.history = a.history)
    (slot : b.slot = a.slot) : Shows b samples := by
  refine ⟨?_,?_,?_⟩
  · rw [history]; exact shows.size
  · rw [slot]; exact shows.inRange
  · rw [history,slot]; exact shows.newest

/-- Before its first call a task has no running time. -/
theorem historyExact_first (exact : HistoryExact origin size a spans) (unmarked : a.mark = 0) (wallclock : ℕ) :
    HistoryExact origin size { a with mark := wallclock } spans := by
  obtain ⟨serial,sum,shows⟩ := exact
  rw [unmarked] at serial sum shows
  have nothing : ∀ k, activeWindows origin size spans k = [] := by
    intro k
    induction k with
    | zero => rfl
    | succ k ih => rw [activeWindows,if_pos (serial_zero serial k),ih]
  refine ⟨serial_mono serial (Nat.zero_le _),?_,?_⟩
  · rw [serial_zero serial]
    rw [serial_zero serial] at sum
    exact sum
  · rw [nothing]
    rw [nothing] at shows
    exact shows_account shows rfl rfl

/-- A span without length changes no running time. -/
theorem historyExact_empty (exact : HistoryExact origin size a spans) :
    HistoryExact origin size a (⟨a.mark,a.mark⟩ :: spans) := by
  obtain ⟨serial,sum,shows⟩ := exact
  have same : ∀ k, windowTime origin size (⟨a.mark,a.mark⟩ :: spans) k = windowTime origin size spans k := by
    intro k
    rw [windowTime_cons,Span.overlap]
    simp only []
    omega
  refine ⟨serial_cons serial le_rfl,sum.trans (same _).symm,?_⟩
  rwa [activeWindows_congr (fun j _ => same j)]

/-- The sum leaves room in the window of the mark. -/
theorem sum_le (exact : HistoryExact origin size a spans) :
    a.sum ≤ a.mark - (origin + windowOf origin size a.mark * size) := by
  rw [exact.sum]
  exact exact.serial.alone _ _

/-- Running on within the window of the mark. -/
theorem historyExact_inside (exact : HistoryExact origin size a spans) (positive : 0 < size) (marked : origin ≤ a.mark)
    (later : a.mark ≤ wallclock) (same : windowOf origin size wallclock = windowOf origin size a.mark) :
    HistoryExact origin size { a with mark := wallclock, sum := a.sum + (wallclock - a.mark) }
      (⟨a.mark,wallclock⟩ :: spans) := by
  obtain ⟨low,high⟩ := windowOf_contains positive marked
  have above := (windowOf_contains positive (marked.trans later)).2
  obtain ⟨serial,sum,shows⟩ := exact
  rw [same] at above
  have below : activeWindows origin size (⟨a.mark,wallclock⟩ :: spans) (windowOf origin size a.mark) =
      activeWindows origin size spans (windowOf origin size a.mark) := by
    refine activeWindows_congr (fun j before => windowTime_cons_before ?_)
    exact (Nat.add_le_add_left (Nat.mul_le_mul_right size before) origin).trans low
  refine ⟨serial_cons serial later,?_,?_⟩
  · simp only [same]
    rw [windowTime_cons,Span.overlap,← sum]
    simp only [Nat.succ_mul]
    omega
  · simp only [same]
    rw [below]
    exact shows_account shows rfl rfl

/-- The samples of a stretch that takes `d` to the end of its first window, and fills
    `count` more. A stretch from the very start of its window fills that one, too. -/
theorem shows_across {samples : List ℕ} (shows : Shows a samples) {d count : ℕ} (open_window : 0 < d) (within : d ≤ size)
    (room : a.sum + d ≤ size) :
    let rest := { a with sum := a.sum + (count * size + d) % size }
    Shows (sample (sample rest rest.sum 1) size ((count * size + d) / size))
      (List.replicate count size ++ (d + a.sum) :: samples) := by
  have positive : size ≠ 0 := by omega
  by_cases whole : d = size
  · subst whole
    have fresh : a.sum = 0 := by omega
    have none : (count * d + d) % d = 0 := by simp
    have full : (count * d + d) / d = count + 1 := by
      rw [Nat.add_div_right _ open_window,Nat.mul_div_cancel _ open_window]
    have rest : { a with sum := 0 } = a := by rw [← fresh]
    simp only [none,full,fresh,Nat.add_zero,rest]
    have dropped : sample a 0 1 = a := by simp [sample]
    rw [dropped]
    have shown := sample_shows shows positive (count + 1)
    rwa [List.replicate_succ',List.append_assoc,List.singleton_append] at shown
  · have some : (count * size + d) % size = d := by
      rw [Nat.mul_comm,Nat.mul_add_mod,Nat.mod_eq_of_lt (by omega)]
    have full : (count * size + d) / size = count := by
      rw [Nat.mul_comm,Nat.mul_add_div (by omega),Nat.div_eq_of_lt (by omega),Nat.add_zero]
    simp only [some,full]
    have rest : Shows { a with sum := a.sum + d } samples := shows_account shows rfl rfl
    have first := sample_shows rest (show a.sum + d ≠ 0 by omega) 1
    have shown := sample_shows first positive count
    rw [Nat.add_comm d a.sum]
    rwa [List.replicate_one,List.singleton_append] at shown

/-- The rest of the window of the mark leaves room for the sum. -/
theorem room_across (exact : HistoryExact origin size a spans) (positive : 0 < size) (marked : origin ≤ a.mark)
    {start : ℕ} (grid : ∃ j, start = origin + j * size) (older : a.mark < start) :
    a.sum + (start - a.mark) % size ≤ size := by
  obtain ⟨low,high⟩ := windowOf_contains positive marked
  have bound := sum_le exact
  obtain ⟨j,onGrid⟩ := grid
  generalize windowOf origin size a.mark = k at low high bound
  obtain ⟨count,current⟩ : ∃ count, j = k + 1 + count := by
    refine Nat.exists_eq_add_of_le (Nat.lt_of_mul_lt_mul_right (a := size) ?_)
    omega
  have span : start - a.mark = size * count + (origin + k * size + size - a.mark) := by
    rw [onGrid,current,Nat.add_mul,Nat.succ_mul,Nat.mul_comm count size]
    omega
  have lead : (start - a.mark) % size ≤ origin + k * size + size - a.mark := by
    rw [span,Nat.mul_add_mod]
    exact Nat.mod_le _ _
  omega

/-- Running on past the end of the window of the mark. -/
theorem historyExact_across (exact : HistoryExact origin size a spans) (positive : 0 < size) (marked : origin ≤ a.mark)
    {start : ℕ} (grid : ∃ j, start = origin + j * size) (older : a.mark < start) (started : start ≤ wallclock)
    (inside : wallclock < start + size) :
    HistoryExact origin size
      (let rest := { a with sum := a.sum + (start - a.mark) % size }
       let full := sample (sample rest rest.sum 1) size ((start - a.mark) / size)
       { full with mark := wallclock, sum := wallclock - start })
      (⟨a.mark,wallclock⟩ :: spans) := by
  obtain ⟨low,high⟩ := windowOf_contains positive marked
  have bound := sum_le exact
  obtain ⟨j,onGrid⟩ := grid
  obtain ⟨serial,sum,shows⟩ := exact
  generalize windowOf origin size a.mark = k at low high bound sum shows
  -- The current window comes after window k, with a number of full ones between.
  obtain ⟨count,current⟩ : ∃ count, j = k + 1 + count := by
    refine Nat.exists_eq_add_of_le (Nat.lt_of_mul_lt_mul_right (a := size) ?_)
    omega
  have end_k : origin + (k + 1) * size = origin + k * size + size := by
    rw [Nat.succ_mul]
    omega
  have span : start - a.mark = count * size + (origin + (k + 1) * size - a.mark) := by
    rw [onGrid,current,Nat.add_mul (k + 1)]
    omega
  have now : windowOf origin size wallclock = k + 1 + count := by
    refine windowOf_eq ?_ ?_
    · rw [← current,← onGrid]
      exact started
    · rw [← current,← onGrid]
      exact inside
  have reached : origin + (k + 1 + count) * size ≤ wallclock := by
    rw [← current,← onGrid]
    exact started
  have samples := activeWindows_across positive low (by omega) reached serial.ends
  have running : windowTime origin size (⟨a.mark,wallclock⟩ :: spans) (k + 1 + count) = wallclock - start := by
    rw [windowTime_cons,windowTime_after (endBy_mono serial.ends (by rw [← current,← onGrid]; exact older.le)),
      Span.overlap,Nat.succ_mul,← current,← onGrid]
    simp only []
    omega
  refine ⟨serial_cons serial (by omega),?_,?_⟩
  · simp only [now]
    exact running.symm
  · simp only [now]
    rw [samples,span,← sum]
    exact shows_account (shows_across shows (by omega) (by omega) (by omega)) rfl rfl

/-- Waiting: when a later window started, the window of the mark is closed. -/
theorem historyExact_wait (exact : HistoryExact origin size a spans) (positive : 0 < size) (marked : origin ≤ a.mark)
    (later : a.mark ≤ wallclock) {start : ℕ} (grid : ∃ j, start = origin + j * size) (started : start ≤ wallclock)
    (inside : wallclock < start + size) :
    HistoryExact origin size { (if a.mark < start then sample a a.sum 1 else a) with mark := wallclock } spans := by
  obtain ⟨low,high⟩ := windowOf_contains positive marked
  obtain ⟨j,onGrid⟩ := grid
  obtain ⟨serial,sum,shows⟩ := exact
  generalize windowOf origin size a.mark = k at low high sum shows
  have now : windowOf origin size wallclock = j := windowOf_eq (by omega) (by omega)
  by_cases older : a.mark < start
  · obtain ⟨count,current⟩ : ∃ count, j = k + 1 + count := by
      refine Nat.exists_eq_add_of_le (Nat.lt_of_mul_lt_mul_right (a := size) ?_)
      omega
    have idle : ∀ i, k + 1 ≤ i → i < k + 1 + count → windowTime origin size spans i = 0 := by
      intro i above _
      have start := Nat.add_le_add_left (Nat.mul_le_mul_right size above) origin
      rw [Nat.succ_mul] at start
      exact windowTime_after (endBy_mono serial.ends (by omega))
    have samples : activeWindows origin size spans j =
        if a.sum = 0 then activeWindows origin size spans k else a.sum :: activeWindows origin size spans k := by
      rw [current,activeWindows_idle count idle,activeWindows,← sum]
    simp only [older,if_true]
    refine ⟨serial_mono serial later,?_,?_⟩
    · simp only [now]
      rw [sample_own,windowTime_after (endBy_mono serial.ends (by omega))]
    · simp only [now]
      rw [samples]
      split_ifs with none
      · exact shows_account shows (by simp [sample,none]) (by simp [sample,none])
      · exact shows_account (sample_shows shows none 1) rfl rfl
  · have here : windowOf origin size a.mark = j := windowOf_eq (by omega) (by omega)
    have same : j = k := here.symm.trans (windowOf_eq low high)
    simp only [older,if_false]
    refine ⟨serial_mono serial later,?_,?_⟩
    · simp only [now,same]
      exact sum
    · simp only [now,same]
      exact shows_account shows rfl rfl

/-- The account of a task that ran since its mark. -/
theorem demand_exact {g : Track} {rq : Rq} {lrq : LseRq} {t : ℕ} {p : TaskStruct} {lts : LseTaskStruct}
    {event : TaskEvent} (exact : HistoryExact origin g.ravgWindow (accountOf lts) spans)
    (runs : accountBusyForTaskDemand rq t p event = true) (busy : p.isIdle = false) (full : lrq.taskExecScale = 1024)
    (positive : 0 < g.ravgWindow) (word : g.ravgWindow < 4294967296) (marked : origin ≤ lts.markStart)
    (later : lts.markStart ≤ wallclock) (grid : ∃ j, lrq.windowStart = origin + j * g.ravgWindow)
    (started : lrq.windowStart ≤ wallclock) (inside : wallclock < lrq.windowStart + g.ravgWindow)
    (small : wallclock < 18446744073709551616)
    (few : lrq.windowStart < lts.markStart + 2147483648 * g.ravgWindow) :
    HistoryExact origin g.ravgWindow
      { accountOf (updateTaskDemand g rq lrq t p lts event wallclock).2 with mark := wallclock }
      (⟨(accountOf lts).mark,wallclock⟩ :: spans) := by
  by_cases older : lts.markStart < lrq.windowStart
  · have room := room_across exact positive marked grid older
    rw [demand_across runs busy full positive word older few started inside small room]
    exact historyExact_across exact positive marked grid older started inside
  · obtain ⟨j,onGrid⟩ := grid
    have here : windowOf origin g.ravgWindow lts.markStart = j := windowOf_eq (by omega) (by omega)
    have now : windowOf origin g.ravgWindow wallclock = j := windowOf_eq (by omega) (by omega)
    have bound : lts.sum ≤ lts.markStart - (origin + j * g.ravgWindow) := here ▸ sum_le exact
    rw [demand_inside runs full word (not_lt.mp older) later small (by omega)]
    exact historyExact_inside exact positive marked later (now.trans here.symm)

end

/-- The account of every task but idle ones is exact. -/
def HistoryKept (origin : ℕ) (s : Occupied) : Prop :=
  ∀ t a, (s.world.task t).isIdle = false → account s.world t = some a →
    HistoryExact origin s.world.track.ravgWindow a (taskSpans s.stints t)

section
variable {origin cpu wallclock : ℕ} {s : Occupied}

theorem historyKept_frame (kept : HistoryKept origin s) {v : World} (same : SameTracker s.world v) :
    HistoryKept origin { s with world := v } := by
  intro t a busy known
  show HistoryExact origin v.track.ravgWindow a (taskSpans s.stints t)
  rw [same.windows.size]
  exact kept t a (same.idle t ▸ busy) (same.accounts ▸ known)

/-- Where a call changes only one task's account, the other accounts stay exact. -/
theorem historyKept_effect (kept : HistoryKept origin s) {v : World} {t : ℕ} {a : Account} {lrq : LseRq}
    (effect : Effect s.world v t cpu a lrq) (stints : List Stint) (others : ∀ st ∈ stints, st.task = t)
    (here : (s.world.task t).isIdle = false →
      HistoryExact origin s.world.track.ravgWindow a (taskSpans (stints ++ s.stints) t)) (now : ℕ)
    (last : ℕ → Option ℕ) : HistoryKept origin ⟨v,now,last,stints ++ s.stints⟩ := by
  intro u b busy known
  show HistoryExact origin v.track.ravgWindow b (taskSpans (stints ++ s.stints) u)
  change (v.task u).isIdle = false at busy
  change account v u = some b at known
  rw [effect.task] at busy
  rw [effect.accounts] at known
  rw [effect.windows.size]
  by_cases same : u = t
  · subst same
    rw [Function.update_self,Option.some.injEq] at known
    exact known ▸ here busy
  · have elsewhere : taskSpans (stints ++ s.stints) u = taskSpans s.stints u := by
      refine congrArg (List.map Stint.span) (filter_others (fun st member => ?_) s.stints)
      simp [others st member,Ne.symm same]
    rw [Function.update_of_ne same] at known
    rw [elsewhere]
    exact kept u b busy known

/-- The current task of a CPU is busy at every event that charges it. -/
theorem busyDemand {event : TaskEvent} (runs : event = .putPrevTask ∨ event = .taskUpdate)
    (busy : (s.world.task (s.world.rq cpu).curr).isIdle = false) :
    accountBusyForTaskDemand (s.world.rq cpu) (s.world.rq cpu).curr (s.world.task (s.world.rq cpu).curr) event =
      true := by
  rcases runs with rfl | rfl <;> simp [accountBusyForTaskDemand,busy]

/-- The account of the current task after a charge is exact for its stints with the new one. -/
theorem charge_exact (placed : Placed origin s) (kept : HistoryKept origin s) (timely : Timely s cpu wallclock)
    {event : TaskEvent} (runs : event = .putPrevTask ∨ event = .taskUpdate) {lts : LseTaskStruct}
    (present : s.world.lts (s.world.rq cpu).curr = some lts) (marked : lts.markStart = (s.last cpu).getD 0)
    (busy : (s.world.task (s.world.rq cpu).curr).isIdle = false) :
    HistoryExact origin s.world.track.ravgWindow
      (accountOf (records s.world lts (s.world.rq cpu).curr cpu event wallclock).1)
      (taskSpans (closed s cpu wallclock ++ s.stints) (s.world.rq cpu).curr) := by
  obtain ⟨forward,_,_⟩ := forward_of_placed placed timely
  have exact := kept _ _ busy (account_of_lts present)
  obtain ⟨⟨k,onGrid⟩,clock,_,inside,_⟩ := placed.cpus cpu timely.1
  have since : s.last cpu = some lts.markStart →
      taskSpans (closed s cpu wallclock ++ s.stints) (s.world.rq cpu).curr =
        ⟨(accountOf lts).mark,wallclock⟩ :: taskSpans s.stints (s.world.rq cpu).curr := by
    intro seen
    simp [closed,seen,taskSpans,accountOf]
  rcases charge_cases placed timely marked with ⟨seen,first,taken⟩ | ⟨seen,same,skipped⟩ | ⟨seen,accounted,taken⟩
  · have none_closed : closed s cpu wallclock = [] := by simp [closed,seen]
    rw [(records_first event taken forward first).1,none_closed]
    exact historyExact_first exact first wallclock
  · rw [since seen,(records_skipped event skipped).1,← same]
    exact historyExact_empty exact
  · obtain ⟨low,high,before⟩ := inside lts.markStart seen
    obtain ⟨⟨same,account,updated⟩,_⟩ := records_accounted event taken forward accounted (t := (s.world.rq cpu).curr)
    have marks : same.markStart = lts.markStart := congrArg Account.mark account
    have gap := forward.gap
    obtain ⟨onward,ahead⟩ := advance_contains forward
    have grid := (cpuPlaced_here (placed.cpus cpu timely.1) forward advance_latestClock rfl).onGrid
    rw [← account] at exact
    rw [since seen,updated,← account]
    refine demand_exact exact (busyDemand runs busy) busy (placed.full cpu) placed.positive placed.word ?_ ?_ grid
      onward ahead forward.small ?_
    · omega
    · rw [marks]
      exact before.trans timely.2.1
    · have start : (updateTaskRqCpuCycles (s.world.freq cpu)
          (advance s.world.track.ravgWindow (s.world.lrq cpu) wallclock)).windowStart ≤ wallclock := onward
      omega

theorem historyKept_charge (placed : Placed origin s) (kept : HistoryKept origin s) (timely : Timely s cpu wallclock)
    {event : TaskEvent} (runs : event = .putPrevTask ∨ event = .taskUpdate) :
    HistoryKept origin (charge s cpu event wallclock) := by
  obtain ⟨lts,present,marked,_,effect⟩ := charge_effect placed timely event
  exact historyKept_effect kept effect (closed s cpu wallclock) (fun _ member => (closed_current member).2)
    (charge_exact placed kept timely runs present marked) wallclock _

/-- A pick closes at most the window of the task's mark. -/
theorem historyKept_pick (placed : Placed origin s) (kept : HistoryKept origin s) (timely : Timely s cpu s.now)
    (next : ℕ) : HistoryKept origin (pick s cpu next s.now) := by
  obtain ⟨a,known,before,seeded⟩ := placed.known next
  obtain ⟨lts,present,same⟩ := lts_of_account known
  subst same
  have effect := updateIfTracked_effect .pickNextTask cpu s.now placed.on present
  obtain ⟨forward,_,_⟩ := forward_of_placed placed timely
  refine historyKept_effect kept effect [] (fun st member => absurd member List.not_mem_nil) ?_ s.now s.last
  intro busy
  have exact := kept next _ busy known
  by_cases skipped : Skipped s.world lts cpu s.now
  · rw [(records_skipped .pickNextTask skipped).1]
    exact exact
  · by_cases first : lts.markStart = 0
    · rw [(records_first .pickNextTask skipped forward first).1]
      exact historyExact_first exact first s.now
    · obtain ⟨⟨same,account,accounted⟩,_⟩ := records_accounted .pickNextTask skipped forward first (t := next)
      have marks : same.markStart = lts.markStart := congrArg Account.mark account
      have sums : same.sum = lts.sum := congrArg Account.sum account
      have waits : accountBusyForTaskDemand (s.world.rq cpu) next (s.world.task next) .pickNextTask = false := by
        simp [accountBusyForTaskDemand]
      have marked : origin ≤ lts.markStart := seeded first
      have bound := sum_le exact
      have room := (windowOf_contains placed.positive marked).2
      have word := placed.word
      have short : lts.sum < 4294967296 := by
        have sum : lts.sum ≤ lts.markStart - (origin + windowOf origin s.world.track.ravgWindow lts.markStart *
          s.world.track.ravgWindow) := bound
        omega
      obtain ⟨onward,ahead⟩ := advance_contains forward
      have grid := (cpuPlaced_here (placed.cpus cpu timely.1) forward advance_latestClock rfl).onGrid
      rw [accounted,demand_idle waits busy (sums ▸ short),account,marks,sums]
      exact historyExact_wait exact placed.positive marked before grid onward ahead

end

theorem historyKept_seededAt {w : World} (fresh : Fresh w) (origin now : ℕ) :
    HistoryKept origin ⟨seededAt w origin,now,fun _ => none,[]⟩ := by
  intro t a _ known
  have known : account w t = some a := known
  rw [fresh.accounts t,Option.some.injEq] at known
  subst known
  have start : Shows ⟨0,0,List.replicate ravgHistSize 0,0⟩ [] := ⟨rfl,by decide,by decide⟩
  refine ⟨serial_nil _,?_,?_⟩
  · exact (serial_zero (serial_nil 0) _).symm
  · simpa [windowOf,activeWindows] using start

/-- After every run from the seeding tick at full scale, the sum of a task that is
    not idle is its running time in the window of its mark, and its history read
    backwards lists its running times in the last five completed windows in which
    it ran, newest first and with zeros when there are fewer. -/
theorem history_exact (w : World) (fresh : Fresh w) (clock : ℕ) (late : 20000 < clock)
    (small : clock < 18446744073709551616) (run : List SchedEvent)
    (admitted : Along step Admitted (occupied w clock) run) (t : ℕ) (busy : (w.task t).isIdle = false)
    (lts : LseTaskStruct) (present : (exec step (occupied w clock) run).world.lts t = some lts) :
    let spans := taskSpans (exec step (occupied w clock) run).stints t
    let k := windowOf (clock - 20000) w.track.ravgWindow lts.markStart
    lts.sum = windowTime (clock - 20000) w.track.ravgWindow spans k ∧
      Ring.recent (lts.sumHistory,lts.cidx) =
        (activeWindows (clock - 20000) w.track.ravgWindow spans k ++ List.replicate 5 0).take 5 := by
  obtain ⟨_,constant⟩ := run_constant fresh late small admitted
  have start : HistoryKept (clock - 20000) (occupied w clock) := by
    rw [occupied,lseSchedulerTick_seeds fresh.unseeded late small]
    exact historyKept_seededAt fresh _ _
  obtain ⟨_,kept⟩ := run_keeps (HistoryKept (clock - 20000)) (fun _ _ _ kept same => historyKept_frame kept same)
    (fun _ _ _ _ placed kept timely runs => historyKept_charge placed kept timely runs)
    (fun _ _ next placed kept timely _ _ => historyKept_pick placed kept timely next)
    (occupied_placed fresh late small) start admitted
  obtain ⟨_,sum,shows⟩ := kept t _ ((constant.idle t).trans busy) (account_of_lts present)
  rw [constant.size] at sum shows
  exact ⟨sum,shows.newest⟩

/-- What is left of task 2 after it ran on CPU 0 from 2 ms to 12 ms and on CPU 1 from
    14 ms to 40 ms. -/
def migrated : LseTaskStruct where
  markStart := 40000000
  windowStart := 33000000
  sum := 7000000
  sumHistory := [7000000,6000000,8000000,8000000,0]
  cidx := 4
  demand := 8000000
  demandScaled := 1024
  taskClass := .normal
  boostPct := 1024
  priorityHint := 120
  onDsq := false

theorem history_exact_migrated :
    let run := [.schedule 0 2 2000000,.schedule 0 0 12000000,.schedule 1 2 14000000,.tickEntry 1 40000000]
    let spans := taskSpans (exec step (occupied (World.boot 2 (idleBelow 2)) 1020000) run).stints 2
    let k := windowOf (1020000 - 20000) 8000000 40000000
    7000000 = windowTime (1020000 - 20000) 8000000 spans k ∧
      Ring.recent ([7000000,6000000,8000000,8000000,0],4) =
        (activeWindows (1020000 - 20000) 8000000 spans k ++ List.replicate 5 0).take 5 :=
  history_exact (World.boot 2 (idleBelow 2)) (boot_fresh 2 (idleBelow 2)) 1020000 (by decide) (by decide)
    [.schedule 0 2 2000000,.schedule 0 0 12000000,.schedule 1 2 14000000,.tickEntry 1 40000000] (by decide +kernel) 2
    (by decide) migrated (by decide +kernel)

end LunarSched.TaskHistory
