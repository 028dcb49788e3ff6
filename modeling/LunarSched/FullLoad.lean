import LunarSched.BusyTime
import LunarSched.Scale
import LunarSched.WindowChange

/-!
A CPU's load against its window when the window size changes. A rollover takes over
what was collected in the window that ends, and records as its length the size in
force at that moment. Another CPU may have put a smaller size in force since the
collection began, so what was collected need not fit; whatever a charge adds to the
previous window always does. Along a run every CPU stays at most fully loaded exactly
when what is taken over fits the size in force (`fully_loaded_iff`).
-/
namespace LunarSched.FullLoad
open LunarSched.Machine LunarSched.Kernel LunarSched.UtilTrack LunarSched.Hooks LunarSched.Accounts LunarSched.Rollover
open LunarSched.Occupancy LunarSched.BusyTime LunarSched.WindowChange LunarSched.Runs

/-- Context switches, updates of the running task, rollover interrupts and requests,
    and changes of frequencies and of tasks' attributes. -/
inductive LoadEvent where
  | switch (cpu next wallclock : ℕ)
  | update (cpu wallclock : ℕ)
  | irqWork (cpu clock : ℕ)
  | request (framePerSec : ℤ)
  | around (freq : ℕ → FreqView) (task : ℕ → TaskStruct)

/-- The first half of a context switch. -/
def putPrev (w : World) (cpu wallclock : ℕ) : World :=
  updateIfTracked w (w.rq cpu).curr cpu .putPrevTask wallclock

def LoadEvent.run (w : World) : LoadEvent → World
  | .switch cpu next wallclock =>
    switchTo (updateIfTracked (putPrev w cpu wallclock) next cpu .pickNextTask wallclock) cpu next
  | .update cpu wallclock => updateIfTracked w (w.rq cpu).curr cpu .taskUpdate wallclock
  | .irqWork cpu clock => lseIrqWork w cpu clock
  | .request framePerSec => schedRavgWindowChange w framePerSec
  | .around freq task => { w with freq := freq, task := task }

/-- The CPU on which an event reaches the tracker, and the wallclock there. -/
def LoadEvent.observed (w : World) : LoadEvent → Option (ℕ × ℕ)
  | .switch cpu _ wallclock | .update cpu wallclock => some (cpu,wallclock)
  | .irqWork cpu clock => some (cpu,lseSchedClock w clock)
  | .request _ | .around _ _ => none

/-- The tasks that an event updates. -/
def LoadEvent.tasks (w : World) : LoadEvent → List ℕ
  | .switch cpu next _ => [(w.rq cpu).curr,next]
  | .update cpu _ | .irqWork cpu _ => [(w.rq cpu).curr]
  | .request _ | .around _ _ => []

def loadStep (s : Clocked) (e : LoadEvent) : Clocked :=
  ⟨e.run s.world,((e.observed s.world).map Prod.snd).getD s.now⟩

/-- The CPU counts time at no more than 1024/1024. -/
def AtMostFull (f : FreqView) : Prop := (updateTaskRqCpuCycles f ⟨0,0,0,0,0,0⟩).taskExecScale ≤ 1024

instance (f : FreqView) : Decidable (AtMostFull f) := inferInstanceAs (Decidable (_ ≤ _))

/-- Events come in time, on CPUs that count at no more than full scale; a task that is
    picked runs on no other CPU, and the sizes that are requested are positive. -/
def Admitted (s : Clocked) (e : LoadEvent) : Prop :=
  (∀ place ∈ e.observed s.world, Timely s.world s.now place.1 place.2 ∧ s.world.possible place.1 = true ∧
    AtMostFull (s.world.freq place.1)) ∧
    match e with
    | .switch cpu next _ => Elsewhere s.world next cpu
    | .request framePerSec => 0 < (schedRavgWindowChange s.world framePerSec).track.newRavgWindow
    | _ => True

instance (s : Clocked) : (e : LoadEvent) → Decidable (Admitted s e)
  | .switch cpu next _ => inferInstanceAs (Decidable (_ ∧ Elsewhere s.world next cpu))
  | .request _ => inferInstanceAs (Decidable (_ ∧ 0 < _))
  | .update .. | .irqWork .. | .around .. => inferInstanceAs (Decidable (_ ∧ True))

/-- No CPU ran for longer than its previous window, and no utilisation is above 1024. -/
def FullyLoaded (w : World) : Prop :=
  ∀ cpu, (w.lrq cpu).prevRunnableSum ≤ (w.lrq cpu).prevWindowSize ∧
    (1048576 ≤ (w.lrq cpu).prevWindowSize → lseCpuUtil w cpu ≤ 1024)

/-- The task has a record that a call at the wallclock does not skip. -/
def Reached (w : World) (t wallclock : ℕ) : Prop := (w.lts t).isSome = true ∧ mark w t ≠ wallclock

/-- If exactly one window of the size has passed, then what was collected in the
    current one fits the size. -/
def Fits (lrq : LseRq) (size wallclock : ℕ) : Prop :=
  (wallclock - lrq.windowStart) / size = 1 → lrq.currRunnableSum ≤ size

/-- What a CPU takes over at a rollover by one window fits the size in force. -/
def TakesFitting (s : Clocked) (e : LoadEvent) : Prop :=
  ∀ place ∈ e.observed s.world, ∀ t ∈ e.tasks s.world, Reached s.world t place.2 →
    Fits (s.world.lrq place.1) s.world.track.ravgWindow place.2

instance (w : World) (t wallclock : ℕ) : Decidable (Reached w t wallclock) := inferInstanceAs (Decidable (_ ∧ _))
instance (lrq : LseRq) (size wallclock : ℕ) : Decidable (Fits lrq size wallclock) := inferInstanceAs (Decidable (_ → _))
instance (s : Clocked) (e : LoadEvent) : Decidable (TakesFitting s e) :=
  inferInstanceAs (Decidable (∀ place ∈ _, ∀ t ∈ _, _ → _))

/-- A CPU has collected no more than the time since its window started. -/
structure Collected (lrq : LseRq) : Prop where
  curr : lrq.currRunnableSum ≤ lrq.latestClock - lrq.windowStart
  fresh : lrq.latestClock < lrq.windowStart → lrq.prevRunnableSum = 0

section
variable {size wallclock marked : ℕ} {lrq : LseRq}

/-- Rolling the window over keeps the CPU within its window exactly when what it takes
    over fits. -/
theorem advance_fits_iff (within : lrq.prevRunnableSum ≤ lrq.prevWindowSize) :
    (advance size lrq wallclock).prevRunnableSum ≤ (advance size lrq wallclock).prevWindowSize ↔
      Fits lrq size wallclock := by
  unfold Fits
  generalize count : (wallclock - lrq.windowStart) / size = n
  rcases n with _ | _ | n
  · simp [advance,count,within]
  · simp [advance,count]
  · simp [advance,count]

/-- After the rollover there is room for the time since the mark in both windows. -/
theorem advance_room (forward : Forward size lrq wallclock) (collected : Collected lrq)
    (latest : lrq.latestClock ≤ marked) :
    let next := advance size lrq wallclock
    (next.windowStart ≤ marked → next.currRunnableSum ≤ marked - next.windowStart) ∧
      (marked < next.windowStart → next.currRunnableSum = 0 ∧
        next.prevRunnableSum + min next.prevWindowSize (next.windowStart - marked) ≤ next.prevWindowSize) := by
  obtain ⟨curr,fresh⟩ := collected
  rcases advance_passed forward with ⟨_,_,same⟩ | ⟨_,one⟩ | ⟨start,far,many⟩
  · simp only [same]
    refine ⟨fun _ => by omega,fun before => ?_⟩
    have unused := fresh (by omega)
    exact ⟨by omega,by omega⟩
  · simp only [one]
    exact ⟨fun _ => Nat.zero_le _,fun before => ⟨trivial,by omega⟩⟩
  · simp only [many]
    exact ⟨fun _ => Nat.zero_le _,fun _ => ⟨trivial,by omega⟩⟩

theorem scaleExecTime_le (scale : lrq.taskExecScale ≤ 1024) (delta : ℕ) : scaleExecTime delta lrq ≤ delta := by
  have product : u64 (delta * lrq.taskExecScale) ≤ delta * 1024 :=
    (Nat.mod_le _ _).trans (Nat.mul_le_mul_left delta scale)
  exact (Nat.div_le_div_right product).trans (Nat.mul_div_cancel delta (by decide)).le

/-- A charge into a record with room keeps it within its windows. -/
theorem charge_within (lrq : LseRq) (p : TaskStruct) (event : TaskEvent) (scale : lrq.taskExecScale ≤ 1024)
    (room : accountBusyForCpuTime p event = true →
      (lrq.windowStart ≤ marked → lrq.currRunnableSum ≤ marked - lrq.windowStart) ∧
        (marked < lrq.windowStart → lrq.currRunnableSum = 0 ∧
          lrq.prevRunnableSum + min lrq.prevWindowSize (lrq.windowStart - marked) ≤ lrq.prevWindowSize))
    (later : marked ≤ wallclock) (started : lrq.windowStart ≤ wallclock) (small : wallclock < 18446744073709551616)
    (curr : lrq.currRunnableSum ≤ wallclock - lrq.windowStart) :
    let result := updateCpuBusyTime lrq p marked event wallclock
    result.currRunnableSum ≤ wallclock - lrq.windowStart ∧ result.prevWindowSize = lrq.prevWindowSize ∧
      (result.prevRunnableSum = lrq.prevRunnableSum ∨
        (lrq.prevRunnableSum ≤ lrq.prevWindowSize ∧ result.prevRunnableSum ≤ lrq.prevWindowSize)) := by
  cases busy : accountBusyForCpuTime p event with
  | false =>
    simp only [updateCpuBusyTime,busy,if_true]
    exact ⟨curr,trivial,Or.inl trivial⟩
  | true =>
    obtain ⟨inside,across⟩ := room busy
    have current := scaleExecTime_le scale (wallclock - lrq.windowStart)
    have since := scaleExecTime_le scale (wallclock - marked)
    simp only [updateCpuBusyTime,busy,Bool.true_eq_false,if_false]
    by_cases newWindow : marked < lrq.windowStart
    · obtain ⟨empty,fits⟩ := across newWindow
      have before : u64Sub lrq.windowStart marked = lrq.windowStart - marked := u64Sub_of_le newWindow.le (by omega)
      have now : u64Sub wallclock lrq.windowStart = wallclock - lrq.windowStart := u64Sub_of_le started small
      have credit : (if lrq.prevWindowSize ≤ lrq.windowStart - marked then scaleExecTime lrq.prevWindowSize lrq
          else scaleExecTime (lrq.windowStart - marked) lrq) ≤ min lrq.prevWindowSize (lrq.windowStart - marked) := by
        have whole := scaleExecTime_le scale lrq.prevWindowSize
        have part := scaleExecTime_le scale (lrq.windowStart - marked)
        split_ifs with full
        · omega
        · omega
      simp only [newWindow,not_true_eq_false,if_false,true_and,before,now]
      have wrapped := Nat.mod_le (lrq.prevRunnableSum + if lrq.prevWindowSize ≤ lrq.windowStart - marked then
        scaleExecTime lrq.prevWindowSize lrq else scaleExecTime (lrq.windowStart - marked) lrq) 18446744073709551616
      have counted := Nat.mod_le (lrq.currRunnableSum + scaleExecTime (wallclock - lrq.windowStart) lrq) 18446744073709551616
      simp only [u64]
      exact ⟨by omega,Or.inr ⟨by omega,by omega⟩⟩
    · have collected := inside (not_lt.mp newWindow)
      have counted := Nat.mod_le (lrq.currRunnableSum + scaleExecTime (wallclock - marked) lrq) 18446744073709551616
      simp only [newWindow,not_false_eq_true,if_true,u64Sub_of_le later small,u64]
      exact ⟨by omega,trivial,Or.inl trivial⟩

end

/-- The state of a run: the mark of a current task, if it has one, is not before the
    clock of its CPU. -/
structure Running (w : World) (now : ℕ) : Prop extends Behind w now where
  on : w.track.slimWaltCtrl ≠ 0
  bounded : ∀ cpu, w.possible cpu = true → cpu < w.nrCpuIds
  seeded : ∀ cpu, w.possible cpu = true → (w.lrq cpu).windowStart ≠ 0
  distinct : ∀ a b, w.possible a = true → w.possible b = true → (w.rq a).curr = (w.rq b).curr → a = b
  marks : ∀ t, mark w t ≤ now
  current : ∀ cpu, w.possible cpu = true → mark w (w.rq cpu).curr = 0 ∨
    (w.lrq cpu).latestClock ≤ mark w (w.rq cpu).curr
  collected : ∀ cpu, Collected (w.lrq cpu)

section
variable {w : World} {now cpu wallclock : ℕ}

/-- A call that does not reach its task changes no sum and no mark; one that does stores
    the CPU's record, rolled over and charged with the time since the mark. -/
theorem call_record (running : Running w now) (timely : Timely w now cpu wallclock) (possible : w.possible cpu = true)
    (t : ℕ) (event : TaskEvent) :
    let v := updateIfTracked w t cpu event wallclock
    (¬ Reached w t wallclock ∧ v.lrq = w.lrq ∧ ∀ u, mark v u = mark w u) ∨
    (Reached w t wallclock ∧ Forward w.track.ravgWindow (w.lrq cpu) wallclock ∧
      (∀ u, mark v u = if u = t then wallclock else mark w u) ∧ ∃ lrq, v.lrq = Function.update w.lrq cpu lrq ∧
      (lrq = advance w.track.ravgWindow (w.lrq cpu) wallclock ∨ (mark w t ≠ 0 ∧
        lrq = updateCpuBusyTime (updateTaskRqCpuCycles (w.freq cpu) (advance w.track.ravgWindow (w.lrq cpu) wallclock))
          (w.task t) (mark w t) event wallclock))) := by
  rcases call_outcome running.toBehind (running.seeded cpu possible) (fun _ => timely) t event with
    ⟨missed,lrqs,marks⟩ | ⟨_,known,other,forward,marks,stored⟩
  · refine Or.inl ⟨?_,lrqs,marks⟩
    rintro ⟨known,other⟩
    rcases missed with off | none | same
    · exact running.on off
    · simp [none] at known
    · exact other same
  · exact Or.inr ⟨⟨known,other⟩,forward,marks,stored⟩

/-- The record stored by a call of a CPU that counts at no more than full scale. -/
theorem stored_record (running : Running w now) (timely : Timely w now cpu wallclock) (possible : w.possible cpu = true)
    (scale : AtMostFull (w.freq cpu)) {t : ℕ} {event : TaskEvent}
    (runs : t = (w.rq cpu).curr ∨ event = .pickNextTask) {lrq : LseRq}
    (stored : lrq = advance w.track.ravgWindow (w.lrq cpu) wallclock ∨ (mark w t ≠ 0 ∧
      lrq = updateCpuBusyTime (updateTaskRqCpuCycles (w.freq cpu) (advance w.track.ravgWindow (w.lrq cpu) wallclock))
        (w.task t) (mark w t) event wallclock)) :
    lrq.latestClock = wallclock ∧ lrq.windowStart ≤ wallclock ∧
      wallclock < lrq.windowStart + w.track.ravgWindow ∧ Collected lrq ∧
      let next := advance w.track.ravgWindow (w.lrq cpu) wallclock
      lrq.prevWindowSize = next.prevWindowSize ∧ (lrq.prevRunnableSum = next.prevRunnableSum ∨
        (next.prevRunnableSum ≤ next.prevWindowSize ∧ lrq.prevRunnableSum ≤ next.prevWindowSize)) := by
  have forward := forward_of_behind running.toBehind timely (running.seeded cpu possible)
  obtain ⟨started,within⟩ := advance_contains forward
  have curr : (advance w.track.ravgWindow (w.lrq cpu) wallclock).currRunnableSum ≤
      wallclock - (advance w.track.ravgWindow (w.lrq cpu) wallclock).windowStart := by
    have before := (running.collected cpu).curr
    have later := forward.latest
    rcases advance_passed forward with ⟨_,_,same⟩ | ⟨_,one⟩ | ⟨start,_,many⟩
    · simp only [same]
      omega
    · simp only [one]
      exact Nat.zero_le _
    · simp only [many]
      exact Nat.zero_le _
  rcases stored with rfl | ⟨marked,rfl⟩
  · refine ⟨advance_latestClock,started,within,⟨?_,?_⟩,rfl,Or.inl rfl⟩
    · rw [advance_latestClock]
      exact curr
    · rw [advance_latestClock]
      exact fun before => absurd started (not_le.mpr before)
  · have charged := charge_within
      (updateTaskRqCpuCycles (w.freq cpu) (advance w.track.ravgWindow (w.lrq cpu) wallclock)) (w.task t) event scale ?_
      ((running.marks t).trans timely.1) started timely.2.1 curr
    · simp only [updateCpuBusyTime_windowStart,updateCpuBusyTime_latestClock,updateTaskRqCpuCycles_windowStart,
        updateTaskRqCpuCycles_latestClock,advance_latestClock]
      refine ⟨trivial,started,within,⟨?_,?_⟩,charged.2⟩
      · simpa using charged.1
      · simpa using fun before => absurd started (not_le.mpr before)
    · intro busy
      rcases runs with here | pick
      · subst here
        exact advance_room forward (running.collected cpu) ((running.current cpu possible).resolve_left marked)
      · simp [accountBusyForCpuTime,pick] at busy

/-- Whether the stored record is within its window is decided by the rollover. -/
theorem stored_within_iff {lrq next : LseRq} (size : lrq.prevWindowSize = next.prevWindowSize)
    (sum : lrq.prevRunnableSum = next.prevRunnableSum ∨
      (next.prevRunnableSum ≤ next.prevWindowSize ∧ lrq.prevRunnableSum ≤ next.prevWindowSize)) :
    lrq.prevRunnableSum ≤ lrq.prevWindowSize ↔ next.prevRunnableSum ≤ next.prevWindowSize := by
  rw [size]
  rcases sum with same | ⟨before,after⟩
  · rw [same]
  · exact ⟨fun _ => before,fun _ => after⟩

/-- A call changes at most the mark of its task, which it leaves at the wallclock or unset,
    and keeps the records collected. -/
theorem call_collected (running : Running w now) (timely : Timely w now cpu wallclock) (possible : w.possible cpu = true)
    (scale : AtMostFull (w.freq cpu)) (event : TaskEvent) {t : ℕ}
    (runs : t = (w.rq cpu).curr ∨ event = .pickNextTask) :
    let v := updateIfTracked w t cpu event wallclock
    (∀ u, mark v u = mark w u ∨ (u = t ∧ mark v u = wallclock)) ∧ (mark v t = 0 ∨ mark v t = wallclock) ∧
      ∀ other, Collected (v.lrq other) := by
  rcases call_record running timely possible t event with ⟨missed,lrqs,marks⟩ | ⟨_,_,marks,lrq,lrqs,stored⟩
  · refine ⟨fun u => Or.inl (marks u),?_,fun other => lrqs ▸ running.collected other⟩
    rw [marks]
    cases present : w.lts t with
    | none => exact Or.inl (by simp [mark,account,present])
    | some lts => exact Or.inr (not_not.mp fun other => missed ⟨by simp [present],other⟩)
  · refine ⟨?_,Or.inr (by simp [marks]),?_⟩
    · intro u
      by_cases here : u = t
      · exact Or.inr ⟨here,by simp [marks,here]⟩
      · exact Or.inl (by simp [marks,here])
    · intro other
      rw [lrqs]
      by_cases here : other = cpu
      · subst here
        simpa using (stored_record running timely possible scale runs stored).2.2.2.1
      · simpa [here] using running.collected other

/-- A call for a task that runs on no other CPU and then runs on this one. -/
theorem call_running (running : Running w now) (timely : Timely w now cpu wallclock) (possible : w.possible cpu = true)
    (scale : AtMostFull (w.freq cpu)) (event : TaskEvent) {t : ℕ}
    (runs : t = (w.rq cpu).curr ∨ event = .pickNextTask)
    (elsewhere : ∀ other, w.possible other = true → other ≠ cpu → (w.rq other).curr ≠ t) :
    Running (switchTo (updateIfTracked w t cpu event wallclock) cpu t) wallclock := by
  have called := updateIfTracked_called running.toBehind timely t event
  have behind := called_behind running.toBehind timely called
  have rq := (updateIfTracked_around w t cpu event wallclock).1
  obtain ⟨marks,here,collected⟩ := call_collected running timely possible scale event runs
  refine { toBehind := ⟨behind.positive,behind.word,behind.requested,behind.latest,behind.started⟩
           on := called.windows.switch ▸ running.on
           bounded := called.bounded running.bounded
           seeded := called.seeded running.seeded
           distinct := switchTo_distinct rq called.possible running.distinct elsewhere
           marks := ?_
           current := ?_
           collected := collected }
  · intro u
    rcases marks u with kept | ⟨_,stored⟩
    · exact (kept.le.trans (running.marks u)).trans timely.1
    · exact stored.le
  · intro other known
    have known : w.possible other = true := called.known known
    rw [switchTo_current rq]
    by_cases same : other = cpu
    · subst same
      rw [if_pos rfl]
      exact here.imp id (fun stored => (behind.latest other).trans stored.ge)
    · rw [if_neg same]
      have kept := (marks (w.rq other).curr).resolve_right (fun both => elsewhere other known same both.1)
      show mark (updateIfTracked w t cpu event wallclock) _ = 0 ∨
        ((updateIfTracked w t cpu event wallclock).lrq other).latestClock ≤
          mark (updateIfTracked w t cpu event wallclock) _
      rw [kept,called.others other same]
      exact running.current other known

/-- On a large window there is a divisor, and up to a whole window the quotient is not cut off. -/
theorem lseCpuUtil_eq (large : 1048576 ≤ (w.lrq cpu).prevWindowSize)
    (within : (w.lrq cpu).prevRunnableSum ≤ (w.lrq cpu).prevWindowSize) :
    lseCpuUtil w cpu = (w.lrq cpu).prevRunnableSum / ((w.lrq cpu).prevWindowSize / 1024) := by
  have share := Scale.div_divisor_le (show 1024 * 1024 ≤ _ from large) within
  simp only [lseCpuUtil]
  generalize (w.lrq cpu).prevWindowSize = window at large share ⊢
  rw [max_eq_left (show 1 ≤ window by omega),if_neg (by omega),u16,Nat.mod_eq_of_lt (by omega)]

/-- Being at most fully loaded is a matter of the sums. -/
theorem fullyLoaded_iff (w : World) :
    FullyLoaded w ↔ ∀ cpu, (w.lrq cpu).prevRunnableSum ≤ (w.lrq cpu).prevWindowSize := by
  refine ⟨fun full cpu => (full cpu).1,fun within cpu => ⟨within cpu,?_⟩⟩
  intro large
  rw [lseCpuUtil_eq large (within cpu)]
  exact Scale.div_divisor_le large (within cpu)

/-- A call that reaches its task leaves its CPU within its window exactly when the
    rollover does. -/
theorem call_fully (running : Running w now) (timely : Timely w now cpu wallclock) (possible : w.possible cpu = true)
    (scale : AtMostFull (w.freq cpu)) (event : TaskEvent) {t : ℕ} (runs : t = (w.rq cpu).curr ∨ event = .pickNextTask)
    (within : FullyLoaded w) :
    FullyLoaded (updateIfTracked w t cpu event wallclock) ↔
      (Reached w t wallclock → Fits (w.lrq cpu) w.track.ravgWindow wallclock) := by
  rw [fullyLoaded_iff] at within ⊢
  rcases call_record running timely possible t event with ⟨missed,lrqs,_⟩ | ⟨reached,forward,_,lrq,lrqs,stored⟩
  · rw [lrqs]
    exact ⟨fun _ reached => absurd reached missed,fun _ => within⟩
  · obtain ⟨_,_,_,_,size,sum⟩ := stored_record running timely possible scale runs stored
    have sums := (stored_within_iff size sum).trans (advance_fits_iff (within cpu))
    rw [lrqs,Function.forall_update_iff w.lrq (fun _ lrq => lrq.prevRunnableSum ≤ lrq.prevWindowSize)]
    constructor
    · rintro ⟨own,_⟩ _
      exact sums.mp own
    · intro fits
      exact ⟨sums.mpr (fits reached),fun other _ => within other⟩

/-- A pick in the window of the CPU changes nothing about its being fully loaded. -/
theorem pick_fully (running : Running w now) (timely : Timely w now cpu wallclock) (possible : w.possible cpu = true)
    (scale : AtMostFull (w.freq cpu)) (inside : wallclock < (w.lrq cpu).windowStart + w.track.ravgWindow) (t : ℕ) :
    FullyLoaded (updateIfTracked w t cpu .pickNextTask wallclock) ↔ FullyLoaded w := by
  rw [fullyLoaded_iff,fullyLoaded_iff]
  rcases call_record running timely possible t .pickNextTask with ⟨_,lrqs,_⟩ | ⟨_,forward,_,lrq,lrqs,stored⟩
  · rw [lrqs]
  · obtain ⟨_,_,_,_,size,sum⟩ := stored_record running timely possible scale (Or.inr rfl) stored
    have sums := stored_within_iff size sum
    rw [advance_inside forward.started inside] at sums
    rw [lrqs]
    refine forall_congr' fun other => ?_
    by_cases here : other = cpu
    · subst here
      simpa using sums
    · simp [here]

end

/-! ### Runs -/

/-- The state before the tick that seeds the windows: no time is accounted yet. -/
structure LoadStart (w : World) : Prop extends Seedable w where
  distinct : ∀ a b, w.possible a = true → w.possible b = true → (w.rq a).curr = (w.rq b).curr → a = b
  marks : ∀ t, mark w t = 0
  sums : ∀ cpu, (w.lrq cpu).prevRunnableSum = 0 ∧ (w.lrq cpu).currRunnableSum = 0

theorem boot_loadStart (nrCpuIds : ℕ) (task : ℕ → TaskStruct) : LoadStart (World.boot nrCpuIds task) :=
  ⟨boot_seedable nrCpuIds task,fun _ _ _ _ same => same,fun _ => rfl,fun _ => ⟨rfl,rfl⟩⟩

theorem seeded_running {w : World} (start : LoadStart w) {clock : ℕ} (late : 20000 < clock)
    (small : clock < 18446744073709551616) :
    Running (lseSchedulerTick w clock) clock ∧ FullyLoaded (lseSchedulerTick w clock) := by
  have behind := (lseSchedulerTick_behind start.toSeedable late.le small).1
  have frame := lseSchedulerTick_frame w clock
  have sums : ∀ cpu, ((lseSchedulerTick w clock).lrq cpu).prevRunnableSum = 0 ∧
      ((lseSchedulerTick w clock).lrq cpu).currRunnableSum = 0 := by
    intro cpu
    rw [frame.lrq]
    exact start.sums cpu
  have marks : ∀ t, mark (lseSchedulerTick w clock) t = 0 :=
    fun t => (lseSchedulerTick_mark w clock t).trans (start.marks t)
  refine ⟨⟨behind,frame.switch ▸ start.on,?_,?_,?_,?_,fun cpu _ => Or.inl (marks _),?_⟩,?_⟩
  · exact lseSchedulerTick_bounded start.toSeedable clock
  · exact lseSchedulerTick_seeded start.toSeedable late small
  · rw [frame.possible,frame.rq]
    exact start.distinct
  · intro t
    rw [marks]
    exact Nat.zero_le _
  · intro cpu
    obtain ⟨prev,curr⟩ := sums cpu
    exact ⟨by rw [curr]; exact Nat.zero_le _,fun _ => prev⟩
  · rw [fullyLoaded_iff]
    intro cpu
    rw [(sums cpu).1]
    exact Nat.zero_le _

section
variable {w : World} {now cpu wallclock : ℕ}

/-- A call for the current task of the CPU. -/
theorem own_running (running : Running w now) (timely : Timely w now cpu wallclock) (possible : w.possible cpu = true)
    (scale : AtMostFull (w.freq cpu)) (event : TaskEvent) :
    Running (updateIfTracked w (w.rq cpu).curr cpu event wallclock) wallclock := by
  have called := call_running running timely possible scale event (Or.inl rfl)
    (fun other known away same => away (running.distinct other cpu known possible same))
  rwa [switchTo_curr (updateIfTracked_around w (w.rq cpu).curr cpu event wallclock).1] at called

/-- Between the two halves of a context switch the next task can be picked as before. -/
theorem putPrev_running (running : Running w now) (timely : Timely w now cpu wallclock)
    (possible : w.possible cpu = true) (scale : AtMostFull (w.freq cpu)) {next : ℕ} (elsewhere : Elsewhere w next cpu) :
    Running (putPrev w cpu wallclock) wallclock ∧ Timely (putPrev w cpu wallclock) wallclock cpu wallclock ∧
      (putPrev w cpu wallclock).possible cpu = true ∧ AtMostFull ((putPrev w cpu wallclock).freq cpu) ∧
      ∀ other, (putPrev w cpu wallclock).possible other = true → other ≠ cpu →
        ((putPrev w cpu wallclock).rq other).curr ≠ next := by
  have called : Called w (putPrev w cpu wallclock) cpu wallclock :=
    updateIfTracked_called running.toBehind timely _ .putPrevTask
  obtain ⟨rq,freq,_,_⟩ := updateIfTracked_around w (w.rq cpu).curr cpu .putPrevTask wallclock
  refine ⟨own_running running timely possible scale .putPrevTask,called_timely running.toBehind timely called,
    (congrFun called.possible cpu).trans possible,freq.symm ▸ scale,?_⟩
  intro other known away
  rw [called.possible] at known
  show ((updateIfTracked w _ cpu .putPrevTask wallclock).rq other).curr ≠ next
  rw [rq]
  exact elsewhere other (running.bounded other known) known away

/-- A context switch: the call for the previous task decides whether the CPU stays at
    most fully loaded, and when it does not reach its task, the one for the next. -/
theorem switch_fully (running : Running w now) (within : FullyLoaded w) (timely : Timely w now cpu wallclock)
    (possible : w.possible cpu = true) (scale : AtMostFull (w.freq cpu)) {next : ℕ} (elsewhere : Elsewhere w next cpu) :
    FullyLoaded ((LoadEvent.switch cpu next wallclock).run w) ↔
      (Reached w (w.rq cpu).curr wallclock → Fits (w.lrq cpu) w.track.ravgWindow wallclock) ∧
        (Reached w next wallclock → Fits (w.lrq cpu) w.track.ravgWindow wallclock) := by
  obtain ⟨put,again,stillPossible,stillScale,_⟩ := putPrev_running running timely possible scale elsewhere
  have size : (putPrev w cpu wallclock).track.ravgWindow = w.track.ravgWindow :=
    (updateIfTracked_called running.toBehind timely _ .putPrevTask).windows.size
  have decided : FullyLoaded (putPrev w cpu wallclock) ↔ _ :=
    call_fully running timely possible scale .putPrevTask (Or.inl rfl) within
  show FullyLoaded (updateIfTracked (putPrev w cpu wallclock) next cpu .pickNextTask wallclock) ↔ _
  rcases call_record running timely possible (w.rq cpu).curr .putPrevTask with ⟨missed,lrqs,marks⟩ |
    ⟨reached,_,_,lrq,lrqs,stored⟩
  · have picked := call_fully (t := next) put again stillPossible stillScale .pickNextTask (Or.inr rfl)
      (decided.mpr (fun reached => absurd reached missed))
    have sameReach : Reached (putPrev w cpu wallclock) next wallclock ↔ Reached w next wallclock := by
      simp only [Reached,putPrev,(updateIfTracked_around w _ cpu .putPrevTask wallclock).2.2.2,marks]
    have sameLrq : (putPrev w cpu wallclock).lrq cpu = w.lrq cpu := congrFun lrqs cpu
    rw [picked,sameReach,sameLrq,size]
    exact ⟨fun fits => ⟨fun reached => absurd reached missed,fits⟩,fun both => both.2⟩
  · obtain ⟨_,_,inside,_⟩ := stored_record running timely possible scale (Or.inl rfl) stored
    have sameLrq : (putPrev w cpu wallclock).lrq cpu = lrq := by
      simp [putPrev,lrqs]
    rw [← sameLrq,← size] at inside
    rw [pick_fully put again stillPossible stillScale inside,decided]
    exact ⟨fun fits => ⟨fits,fun _ => fits reached⟩,fun both => both.1⟩

/-- A commit changes no record. -/
theorem commit_running (running : Running w now) :
    Running { w with track := { w.track with ravgWindow := w.track.newRavgWindow } } now := by
  obtain ⟨⟨_,_,requested,latest,started⟩,on,bounded,seeded,distinct,marks,current,collected⟩ := running
  exact ⟨⟨requested.1,requested.2,requested,latest,started⟩,on,bounded,seeded,distinct,marks,current,collected⟩

end

/-- What every call keeps of the records of the CPUs, every step keeps. -/
theorem loadStep_keeps (inv : (ℕ → LseRq) → Prop)
    (onCall : ∀ w now cpu wallclock t event, Running w now → Timely w now cpu wallclock → w.possible cpu = true →
      AtMostFull (w.freq cpu) → t = (w.rq cpu).curr ∨ event = .pickNextTask → inv w.lrq →
        inv (updateIfTracked w t cpu event wallclock).lrq)
    {s : Clocked} {e : LoadEvent} (running : Running s.world s.now) (held : inv s.world.lrq) (admitted : Admitted s e) :
    Running (loadStep s e).world (loadStep s e).now ∧ inv (loadStep s e).world.lrq := by
  obtain ⟨observed,kernel⟩ := admitted
  cases e with
  | switch cpu next wallclock =>
    obtain ⟨timely,possible,scale⟩ := observed _ rfl
    obtain ⟨put,again,stillPossible,stillScale,elsewhere⟩ := putPrev_running running timely possible scale kernel
    have first : inv (putPrev s.world cpu wallclock).lrq :=
      onCall _ _ cpu _ _ .putPrevTask running timely possible scale (Or.inl rfl) held
    exact ⟨call_running put again stillPossible stillScale .pickNextTask (Or.inr rfl) elsewhere,
      onCall _ _ cpu _ next .pickNextTask put again stillPossible stillScale (Or.inr rfl) first⟩
  | update cpu wallclock =>
    obtain ⟨timely,possible,scale⟩ := observed _ rfl
    exact ⟨own_running running timely possible scale .taskUpdate,
      onCall _ _ cpu _ _ .taskUpdate running timely possible scale (Or.inl rfl) held⟩
  | irqWork cpu clock =>
    obtain ⟨timely,possible,scale⟩ := observed _ rfl
    have updated : Running (beforeCommit s.world cpu clock) (lseSchedClock s.world clock) :=
      own_running running timely possible scale .taskUpdate
    have kept : inv (beforeCommit s.world cpu clock).lrq :=
      onCall _ _ cpu _ _ .taskUpdate running timely possible scale (Or.inl rfl) held
    show Running (lseIrqWork s.world cpu clock) (lseSchedClock s.world clock) ∧ inv (lseIrqWork s.world cpu clock).lrq
    rcases lseIrqWork_cases s.world cpu clock with ⟨_,same⟩ | ⟨_,changed⟩
    · rw [same]
      exact ⟨updated,kept⟩
    · rw [changed]
      exact ⟨commit_running updated,kept⟩
  | request framePerSec =>
    obtain ⟨⟨positive,word,_,latest,started⟩,on,bounded,seeded,distinct,marks,current,collected⟩ := running
    exact ⟨⟨⟨positive,word,⟨kernel,u32OfInt_lt _⟩,latest,started⟩,on,bounded,seeded,distinct,marks,current,collected⟩,held⟩
  | around freq task =>
    obtain ⟨⟨positive,word,requested,latest,started⟩,on,bounded,seeded,distinct,marks,current,collected⟩ := running
    exact ⟨⟨⟨positive,word,requested,latest,started⟩,on,bounded,seeded,distinct,marks,current,collected⟩,held⟩

theorem loadStep_running {s : Clocked} {e : LoadEvent} (running : Running s.world s.now) (admitted : Admitted s e) :
    Running (loadStep s e).world (loadStep s e).now :=
  (loadStep_keeps (fun _ => True) (fun _ _ _ _ _ _ _ _ _ _ _ _ => trivial) running trivial admitted).1

/-- A step keeps every CPU at most fully loaded exactly when what is taken over fits. -/
theorem loadStep_fully {s : Clocked} {e : LoadEvent} (running : Running s.world s.now) (within : FullyLoaded s.world)
    (admitted : Admitted s e) : FullyLoaded (loadStep s e).world ↔ TakesFitting s e := by
  obtain ⟨observed,kernel⟩ := admitted
  cases e with
  | switch cpu next wallclock =>
    obtain ⟨timely,possible,scale⟩ := observed _ rfl
    refine (switch_fully running within timely possible scale kernel).trans ?_
    simp [TakesFitting,LoadEvent.observed,LoadEvent.tasks]
  | update cpu wallclock =>
    obtain ⟨timely,possible,scale⟩ := observed _ rfl
    refine (call_fully running timely possible scale .taskUpdate (Or.inl rfl) within).trans ?_
    simp [TakesFitting,LoadEvent.observed,LoadEvent.tasks]
  | irqWork cpu clock =>
    obtain ⟨timely,possible,scale⟩ := observed _ rfl
    have same : FullyLoaded (lseIrqWork s.world cpu clock) ↔ FullyLoaded (beforeCommit s.world cpu clock) := by
      rcases lseIrqWork_cases s.world cpu clock with ⟨_,same⟩ | ⟨_,changed⟩
      · rw [same]
      · rw [changed]
        exact Iff.rfl
    refine same.trans ((call_fully running timely possible scale .taskUpdate (Or.inl rfl) within).trans ?_)
    simp [TakesFitting,LoadEvent.observed,LoadEvent.tasks]
  | request framePerSec =>
    exact ⟨fun _ place member => absurd member (by simp [LoadEvent.observed]),fun _ => within⟩
  | around freq task =>
    exact ⟨fun _ place member => absurd member (by simp [LoadEvent.observed]),fun _ => within⟩

/-- Along every run from the seeding tick, every CPU stays at most fully loaded exactly
    when what is taken over at every rollover by one window fits the size in force. -/
theorem fully_loaded_iff (w : World) (start : LoadStart w) (clock : ℕ) (late : 20000 < clock)
    (small : clock < 18446744073709551616) (run : List LoadEvent)
    (admitted : Along loadStep Admitted (seeded w clock) run) :
    Along loadStep (fun s e => FullyLoaded (loadStep s e).world) (seeded w clock) run ↔
      Along loadStep TakesFitting (seeded w clock) run :=
  along_iff (fun s => Running s.world s.now ∧ FullyLoaded s.world)
    (fun _ _ held ok => loadStep_fully held.1 held.2 ok)
    (fun _ _ held ok full => ⟨loadStep_running held.1 ok,full⟩) (seeded_running start late small) admitted

/-- CPU 1 has been busy for 7870000 ns of its window when CPU 0 puts a window of 5555555 ns
    in force: CPU 1 takes over more than a window. -/
theorem overfull_previous_window :
    LoadStart (World.boot 2 (fun _ => plainTask)) ∧
      Along loadStep Admitted (seeded (World.boot 2 (fun _ => plainTask)) 1020000)
        [.update 1 1030000,.update 1 8900000,.update 0 9100000,.request 180,.irqWork 0 9200000,.update 1 9300000] ∧
      ¬ Along loadStep (fun s e => FullyLoaded (loadStep s e).world) (seeded (World.boot 2 (fun _ => plainTask)) 1020000)
        [.update 1 1030000,.update 1 8900000,.update 0 9100000,.request 180,.irqWork 0 9200000,.update 1 9300000] :=
  ⟨boot_loadStart _ _,by decide +kernel,fun full => absurd (full.2.2.2.2.2.1 1).1 (by decide +kernel)⟩

/-- Had CPU 1 last been updated after 4 ms, what it takes over and the rest of its window
    would fit. -/
theorem fully_loaded_shrunk :
    Along loadStep (fun s e => FullyLoaded (loadStep s e).world) (seeded (World.boot 2 (fun _ => plainTask)) 1020000)
        [.update 1 1030000,.update 1 5000000,.update 0 9100000,.request 180,.irqWork 0 9200000,.switch 1 2 9300000] ↔
      Along loadStep TakesFitting (seeded (World.boot 2 (fun _ => plainTask)) 1020000)
        [.update 1 1030000,.update 1 5000000,.update 0 9100000,.request 180,.irqWork 0 9200000,.switch 1 2 9300000] :=
  fully_loaded_iff _ (boot_loadStart _ _) 1020000 (by decide) (by decide) _ (by decide +kernel)

end LunarSched.FullLoad
