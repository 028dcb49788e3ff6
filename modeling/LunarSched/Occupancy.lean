import LunarSched.Accounts
import LunarSched.Rollover
import LunarSched.Timeline

/-!
Who runs where and when, beside the machine. Every entry point that reaches the
load tracker on a CPU closes the stint of the task that has been current there
since the previous one; the list of stints is kept only to be compared with what
the tracker accounts. `Placed` ties the marks and clocks of the tracker to these
events: the mark of a current task and the clock of its CPU are the time of the
last event there. Every event is a charge of the current task, perhaps a pick of
the next one, and a part that leaves the tracker alone; each of the three keeps
`Placed`.
-/
namespace LunarSched.Occupancy
open LunarSched.Machine LunarSched.Kernel LunarSched.UtilTrack LunarSched.Dsq LunarSched.ShadowTick LunarSched.Hooks
open LunarSched.Accounts LunarSched.Rollover LunarSched.Runs LunarSched.Timeline

/-- A task was current on a CPU for a span of time. -/
structure Stint where
  cpu : ℕ
  task : ℕ
  span : Span
deriving DecidableEq

/-- The machine in a run: the last wallclock of the run, the time of the last event
    on each CPU, and the stints between events, newest first. -/
structure Occupied where
  world : World
  now : ℕ
  last : ℕ → Option ℕ
  stints : List Stint

/-- The entry points, and the changes around the tracker: a task's attributes, a
    CPU's frequency, and in `others` everything else that the tracker reads but its
    switch, its windows and its own records, taken from another state. -/
inductive SchedEvent where
  | schedule (cpu next clock : ℕ)
  | tickEntry (cpu clock : ℕ)
  | schedulerTick (clock : ℕ)
  | shadowTick (timer cpu clock : ℕ)
  | irqWork (cpu clock : ℕ)
  | task (t : ℕ) (p : TaskStruct)
  | freq (cpu : ℕ) (f : FreqView)
  | others (e : World)

/-- The settings and surroundings of one state with the records of another. -/
def surround (w e : World) : World :=
  { w with
    online := e.online
    msecsToJiffies := e.msecsToJiffies
    dsq := e.dsq
    shadow := e.shadow
    track := { e.track with
      slimWaltCtrl := w.track.slimWaltCtrl
      ravgWindow := w.track.ravgWindow
      newRavgWindow := w.track.newRavgWindow
      rolloverLastqWs := w.track.rolloverLastqWs
      tickSchedClock := w.track.tickSchedClock
      rollovers := w.track.rollovers
      bugs := w.track.bugs } }

def SchedEvent.run (w : World) : SchedEvent → World
  | .schedule cpu next clock => switchTo (lseSchedule w cpu (w.rq cpu).curr next clock) cpu next
  | .tickEntry cpu clock => lseTickEntry w cpu clock
  | .schedulerTick clock => lseSchedulerTick w clock
  | .shadowTick timer cpu clock => lseShadowTickCb w timer cpu clock
  | .irqWork cpu clock => lseIrqWork w cpu clock
  | .task t p => { w with task := Function.update w.task t p }
  | .freq cpu f => { w with freq := Function.update w.freq cpu f }
  | .others e => surround w e

/-- The CPU on which an event reaches the tracker, and the wallclock there. -/
def SchedEvent.observed (w : World) : SchedEvent → Option (ℕ × ℕ)
  | .schedule cpu _ clock | .tickEntry cpu clock => some (cpu,lseRqClock w cpu clock)
  | .irqWork cpu clock => some (cpu,lseSchedClock w clock)
  | .shadowTick _ cpu clock =>
    if lseShadowTickEnabled w = true ∧ (w.rq cpu).curr ≠ (w.rq cpu).idle then some (cpu,lseSchedClock w clock) else none
  | .schedulerTick _ | .task _ _ | .freq _ _ | .others _ => none

/-- The stint that an event on a CPU closes: none at the first event there. -/
def closed (s : Occupied) (cpu wallclock : ℕ) : List Stint :=
  match s.last cpu with
  | none => []
  | some since => [⟨cpu,(s.world.rq cpu).curr,⟨since,wallclock⟩⟩]

/-- What an event on a CPU adds to the account of who ran where. -/
def note (s : Occupied) (cpu wallclock : ℕ) (w : World) : Occupied where
  world := w
  now := wallclock
  last := Function.update s.last cpu (some wallclock)
  stints := closed s cpu wallclock ++ s.stints

def step (s : Occupied) (e : SchedEvent) : Occupied :=
  match e.observed s.world with
  | none => { s with world := e.run s.world }
  | some (cpu,wallclock) => note s cpu wallclock (e.run s.world)

/-- The wallclock does not go back, and is fewer than 2³¹ windows past the window
    of the CPU. -/
def Timely (s : Occupied) (cpu wallclock : ℕ) : Prop :=
  s.world.possible cpu = true ∧ s.now ≤ wallclock ∧ wallclock < 18446744073709551616 ∧
    wallclock < (s.world.lrq cpu).windowStart + 2147483648 * s.world.track.ravgWindow

instance (s : Occupied) (cpu wallclock : ℕ) : Decidable (Timely s cpu wallclock) :=
  inferInstanceAs (Decidable (_ ∧ _ ∧ _ ∧ _))

/-- The task is current on no CPU but this one. -/
def Elsewhere (w : World) (t cpu : ℕ) : Prop :=
  ∀ other < w.nrCpuIds, w.possible other = true → other ≠ cpu → (w.rq other).curr ≠ t

instance (w : World) (t cpu : ℕ) : Decidable (Elsewhere w t cpu) :=
  inferInstanceAs (Decidable (∀ other < w.nrCpuIds, _ → _ → _))

/-- The task is current on no CPU. -/
def NotCurrent (w : World) (t : ℕ) : Prop := ∀ cpu < w.nrCpuIds, w.possible cpu = true → (w.rq cpu).curr ≠ t

instance (w : World) (t : ℕ) : Decidable (NotCurrent w t) := inferInstanceAs (Decidable (∀ cpu < w.nrCpuIds, _ → _))

/-- What the kernel promises about the events: they come in time, a task that is
    picked is not running on another CPU, a task does not become or stop being an
    idle one, and CPUs run at full scale. -/
def Admitted (s : Occupied) (e : SchedEvent) : Prop :=
  (∀ place ∈ e.observed s.world, Timely s place.1 place.2) ∧
    match e with
    | .schedule cpu next _ => Elsewhere s.world next cpu
    | .task t p => p.isIdle = (s.world.task t).isIdle
    | .freq _ f => FullScale f
    | _ => True

instance (s : Occupied) (e : SchedEvent) : Decidable (Admitted s e) := by
  unfold Admitted
  cases e <;> infer_instance

/-- The state before the seeding tick: nothing is accounted yet. -/
structure Fresh (w : World) : Prop where
  unseeded : Unseeded w
  requested : w.track.newRavgWindow = w.track.ravgWindow
  bounded : ∀ cpu, w.possible cpu = true → cpu < w.nrCpuIds
  distinct : ∀ a b, w.possible a = true → w.possible b = true → (w.rq a).curr = (w.rq b).curr → a = b
  full : ∀ cpu, FullScale (w.freq cpu)
  sums : ∀ cpu, (w.lrq cpu).prevRunnableSum = 0 ∧ (w.lrq cpu).currRunnableSum = 0
  accounts : ∀ t, account w t = some ⟨0,0,List.replicate ravgHistSize 0,0⟩

/-- The seeded machine: no CPU has had an event. -/
def occupied (w : World) (clock : ℕ) : Occupied := ⟨lseSchedulerTick w clock,clock,fun _ => none,[]⟩

theorem boot_fresh (nrCpuIds : ℕ) (task : ℕ → TaskStruct) : Fresh (World.boot nrCpuIds task) := by
  refine ⟨boot_unseeded nrCpuIds task,rfl,?_,?_,?_,?_,?_⟩
  · intro cpu possible
    simpa [World.boot] using possible
  · intro a b _ _ same
    exact same
  · intro cpu
    simp only [World.boot]
    decide
  · intro cpu
    exact ⟨rfl,rfl⟩
  · intro t
    rfl

/-- The tasks with the numbers of CPUs are idle ones, the others are plain. -/
def idleBelow (nrCpuIds t : ℕ) : TaskStruct := { plainTask with isIdle := decide (t < nrCpuIds) }

/-- A CPU of the run: its clock and the mark of its current task are the time of the
    last event there, which lies in its window. -/
structure CpuPlaced (origin size now : ℕ) (lrq : LseRq) (marked : ℕ) (last : Option ℕ) : Prop where
  onGrid : ∃ k, lrq.windowStart = origin + k * size
  clock : lrq.latestClock = last.getD 0
  marked : marked = last.getD 0
  inside : ∀ since, last = some since → lrq.windowStart ≤ since ∧ since < lrq.windowStart + size ∧ since ≤ now
  unseen : last = none → lrq.windowStart = origin

/-- The state of a run after seeding at `origin`. -/
structure Placed (origin : ℕ) (s : Occupied) : Prop where
  on : s.world.track.slimWaltCtrl ≠ 0
  seeded : s.world.track.tickSchedClock ≠ 0
  positive : 0 < s.world.track.ravgWindow
  word : s.world.track.ravgWindow < 4294967296
  requested : s.world.track.newRavgWindow = s.world.track.ravgWindow
  start : 0 < origin
  reached : origin ≤ s.now
  bounded : ∀ cpu, s.world.possible cpu = true → cpu < s.world.nrCpuIds
  distinct : ∀ a b, s.world.possible a = true → s.world.possible b = true →
    (s.world.rq a).curr = (s.world.rq b).curr → a = b
  full : ∀ cpu, FullScale (s.world.freq cpu)
  known : ∀ t, ∃ a, account s.world t = some a ∧ a.mark ≤ s.now ∧ (a.mark ≠ 0 → origin ≤ a.mark)
  cpus : ∀ cpu, s.world.possible cpu = true → CpuPlaced origin s.world.track.ravgWindow s.now (s.world.lrq cpu)
    (mark s.world (s.world.rq cpu).curr) (s.last cpu)

/-- What the current task of a CPU goes through at an event there. -/
def charge (s : Occupied) (cpu : ℕ) (event : TaskEvent) (wallclock : ℕ) : Occupied :=
  note s cpu wallclock (updateIfTracked s.world (s.world.rq cpu).curr cpu event wallclock)

/-- What a task goes through that becomes current right after an event on the CPU. -/
def pick (s : Occupied) (cpu next wallclock : ℕ) : Occupied :=
  { s with world := switchTo (updateIfTracked s.world next cpu .pickNextTask wallclock) cpu next }

/-- The state that the seeding tick leaves, with windows that start at `origin`. -/
def seededAt (w : World) (origin : ℕ) : World :=
  { w with
    lrq := fun cpu => if w.possible cpu then { w.lrq cpu with windowStart := origin } else w.lrq cpu
    track := { w.track with tickSchedClock := origin, rolloverLastqWs := origin } }

theorem lseSchedulerTick_seeds {w : World} (unseeded : Unseeded w) {clock : ℕ} (late : 20000 < clock)
    (small : clock < 18446744073709551616) : lseSchedulerTick w clock = seededAt w (clock - 20000) := by
  have run : ¬ (w.track.slimWaltCtrl = 0 ∨ w.track.tickSchedClock ≠ 0) := by
    simp [unseeded.on,unseeded.tick]
  rw [lseSchedulerTick,if_neg run,← u64Sub_of_le late.le small]
  rfl

theorem seededAt_placed {w : World} (fresh : Fresh w) {origin now : ℕ} (start : 0 < origin) (reached : origin ≤ now) :
    Placed origin ⟨seededAt w origin,now,fun _ => none,[]⟩ := by
  obtain ⟨⟨on,_,positive,word,lrq⟩,requested,bounded,distinct,full,_,accounts⟩ := fresh
  refine ⟨on,start.ne',positive,word,requested,start,reached,bounded,distinct,full,?_,?_⟩
  · intro t
    exact ⟨_,accounts t,Nat.zero_le _,fun marked => absurd rfl marked⟩
  · intro cpu possible
    have possible : w.possible cpu = true := possible
    constructor
    · exact ⟨0,by simp [seededAt,possible]⟩
    · simp [seededAt,possible,(lrq cpu).2]
    · exact mark_of_account (accounts _)
    · intro since seen
      cases seen
    · intro _
      simp [seededAt,possible]

theorem occupied_placed {w : World} (fresh : Fresh w) {clock : ℕ} (late : 20000 < clock)
    (small : clock < 18446744073709551616) : Placed (clock - 20000) (occupied w clock) := by
  rw [occupied,lseSchedulerTick_seeds fresh.unseeded late small]
  exact seededAt_placed fresh (Nat.sub_pos_of_lt late) (Nat.sub_le clock 20000)

section
variable {origin cpu wallclock : ℕ} {s : Occupied}

/-- An event in time moves the CPU's clock and window forward. -/
theorem forward_of_placed (placed : Placed origin s) (timely : Timely s cpu wallclock) :
    Forward s.world.track.ravgWindow (s.world.lrq cpu) wallclock ∧ (s.world.lrq cpu).windowStart ≠ 0 ∧
      0 < wallclock := by
  obtain ⟨possible,later,small,gap⟩ := timely
  obtain ⟨⟨k,grid⟩,clock,_,inside,unseen⟩ := placed.cpus cpu possible
  have start := placed.start
  have reached := placed.reached
  refine ⟨⟨placed.positive,placed.word,?_,?_,small,gap⟩,by omega,by omega⟩
  · rw [clock]
    cases seen : s.last cpu with
    | none => exact Nat.zero_le _
    | some since => exact (inside since seen).2.2.trans later
  · cases seen : s.last cpu with
    | none => rw [unseen seen]; omega
    | some since =>
      have here := inside since seen
      omega

/-- A wallclock inside the CPU's window does not move the window. -/
theorem advance_inside {size : ℕ} {lrq : LseRq} (started : lrq.windowStart ≤ wallclock)
    (within : wallclock < lrq.windowStart + size) : advance size lrq wallclock = { lrq with latestClock := wallclock } := by
  have none_passed : (wallclock - lrq.windowStart) / size = 0 := Nat.div_eq_of_lt (by omega)
  simp [advance,none_passed]

/-- With the tracker on and seeded, a call is skipped only at the mark of its task. -/
theorem skipped_iff (placed : Placed origin s) (timely : Timely s cpu wallclock) (lts : LseTaskStruct) :
    Skipped s.world lts cpu wallclock ↔ lts.markStart = wallclock := by
  constructor
  · rintro (off | unseeded | marked)
    · exact absurd off placed.on
    · exact absurd unseeded (forward_of_placed placed timely).2.1
    · exact marked
  · exact fun marked => Or.inr (Or.inr marked)

/-- At a charge the current task is marked for the first time, was marked just now, or is
    charged for the time since its mark, which is that of the last event on its CPU. -/
theorem charge_cases (placed : Placed origin s) (timely : Timely s cpu wallclock) {lts : LseTaskStruct}
    (marked : lts.markStart = (s.last cpu).getD 0) :
    (s.last cpu = none ∧ lts.markStart = 0 ∧ ¬ Skipped s.world lts cpu wallclock) ∨
    (s.last cpu = some lts.markStart ∧ lts.markStart = wallclock ∧ Skipped s.world lts cpu wallclock) ∨
    (s.last cpu = some lts.markStart ∧ lts.markStart ≠ 0 ∧ ¬ Skipped s.world lts cpu wallclock) := by
  obtain ⟨_,started,positive⟩ := forward_of_placed placed timely
  have skips := skipped_iff placed timely lts
  cases seen : s.last cpu with
  | none =>
    rw [seen,Option.getD_none] at marked
    refine Or.inl ⟨rfl,marked,fun skipped => ?_⟩
    have now := skips.mp skipped
    omega
  | some since =>
    rw [seen,Option.getD_some] at marked
    subst marked
    have low := ((placed.cpus cpu timely.1).inside _ seen).1
    by_cases skipped : Skipped s.world lts cpu wallclock
    · exact Or.inr (Or.inl ⟨rfl,skips.mp skipped,skipped⟩)
    · exact Or.inr (Or.inr ⟨rfl,by omega,skipped⟩)

/-- The records after a call that is skipped only when the CPU has already had an
    event at that wallclock. -/
theorem records_placed (placed : Placed origin s) (timely : Timely s cpu wallclock) (t : ℕ) (lts : LseTaskStruct)
    (event : TaskEvent) (settled : lts.markStart = wallclock → s.last cpu = some wallclock) :
    (records s.world lts t cpu event wallclock).1.markStart = wallclock ∧
      (records s.world lts t cpu event wallclock).2.latestClock = wallclock ∧
      (records s.world lts t cpu event wallclock).2.windowStart =
        (advance s.world.track.ravgWindow (s.world.lrq cpu) wallclock).windowStart := by
  obtain ⟨forward,_,_⟩ := forward_of_placed placed timely
  by_cases skipped : Skipped s.world lts cpu wallclock
  · have marked := (skipped_iff placed timely lts).mp skipped
    have seen := settled marked
    obtain ⟨_,clock,_,inside,_⟩ := placed.cpus cpu timely.1
    obtain ⟨low,high,_⟩ := inside wallclock seen
    obtain ⟨accounts,lrq⟩ := records_skipped (t := t) event skipped
    refine ⟨?_,?_,?_⟩
    · exact (congrArg Account.mark accounts).trans marked
    · rw [lrq,clock,seen]; rfl
    · rw [lrq,advance_inside low high]
  · exact records_taken event skipped forward

/-- A step that leaves the tracker alone keeps the run in place. -/
theorem placed_frame (placed : Placed origin s) {v : World} (same : SameTracker s.world v) :
    Placed origin { s with world := v } := by
  have marks := same.mark_eq
  obtain ⟨cpus,possible,⟨switch,size,requested,seeded⟩,rq,lrq,full,_,accounts⟩ := same
  constructor
  · rw [switch]; exact placed.on
  · rw [seeded]; exact placed.seeded
  · rw [size]; exact placed.positive
  · rw [size]; exact placed.word
  · rw [requested,size]; exact placed.requested
  · exact placed.start
  · exact placed.reached
  · rw [possible,cpus]; exact placed.bounded
  · rw [possible,rq]; exact placed.distinct
  · exact full placed.full
  · rw [accounts]; exact placed.known
  · intro cpu here
    rw [possible] at here
    rw [size,lrq,marks,rq]
    exact placed.cpus cpu here

theorem cpuPlaced_later {size now marked : ℕ} {lrq : LseRq} {last : Option ℕ}
    (placed : CpuPlaced origin size now lrq marked last) (later : now ≤ wallclock) :
    CpuPlaced origin size wallclock lrq marked last := by
  refine ⟨placed.onGrid,placed.clock,placed.marked,?_,placed.unseen⟩
  intro since seen
  obtain ⟨low,high,before⟩ := placed.inside since seen
  exact ⟨low,high,before.trans later⟩

/-- The CPU of an event has its clock at the event, in the window that contains it. -/
theorem cpuPlaced_here {size now marked : ℕ} {old lrq : LseRq} {last : Option ℕ}
    (placed : CpuPlaced origin size now old marked last) (forward : Forward size old wallclock)
    (clock : lrq.latestClock = wallclock) (window : lrq.windowStart = (advance size old wallclock).windowStart) :
    CpuPlaced origin size wallclock lrq wallclock (some wallclock) := by
  obtain ⟨low,high⟩ := advance_contains forward
  obtain ⟨k,onGrid⟩ := placed.onGrid
  refine ⟨⟨k + (wallclock - old.windowStart) / size,?_⟩,clock,rfl,?_,?_⟩
  · rw [window,advance_windowStart,onGrid,Nat.add_mul]
    omega
  · intro since seen
    cases seen
    rw [window]
    exact ⟨low,high,le_rfl⟩
  · intro none
    cases none

theorem switchTo_current {w v : World} (rq : v.rq = w.rq) (cpu next other : ℕ) :
    ((switchTo v cpu next).rq other).curr = if other = cpu then next else (w.rq other).curr := by
  by_cases here : other = cpu
  · subst here
    simp [switchTo]
  · simp [switchTo,rq,here]

/-- No two CPUs run the same task after one takes a task that no other runs. -/
theorem switchTo_distinct {w v : World} (rq : v.rq = w.rq) (possible : v.possible = w.possible)
    (distinct : ∀ a b, w.possible a = true → w.possible b = true → (w.rq a).curr = (w.rq b).curr → a = b) {cpu next : ℕ}
    (elsewhere : ∀ other, w.possible other = true → other ≠ cpu → (w.rq other).curr ≠ next) (a b : ℕ)
    (here : v.possible a = true) (there : v.possible b = true) :
    ((switchTo v cpu next).rq a).curr = ((switchTo v cpu next).rq b).curr → a = b := by
  rw [possible] at here there
  rw [switchTo_current rq,switchTo_current rq]
  split_ifs with first second second
  · exact fun _ => first.trans second.symm
  · exact fun same => absurd same.symm (elsewhere b there second)
  · exact fun same => absurd same (elsewhere a here first)
  · exact distinct a b here there

/-- A call for a task that is current nowhere else and then becomes current on the
    CPU, if it is not so already. -/
theorem placed_call (placed : Placed origin s) (timely : Timely s cpu wallclock) {t : ℕ}
    (elsewhere : ∀ other, s.world.possible other = true → other ≠ cpu → (s.world.rq other).curr ≠ t) {v : World}
    {a : Account} {lrq : LseRq} (effect : Effect s.world v t cpu a lrq) (marked : a.mark = wallclock)
    (clock : lrq.latestClock = wallclock)
    (window : lrq.windowStart = (advance s.world.track.ravgWindow (s.world.lrq cpu) wallclock).windowStart)
    (stints : List Stint) :
    Placed origin ⟨switchTo v cpu t,wallclock,Function.update s.last cpu (some wallclock),stints⟩ := by
  obtain ⟨forward,_,_⟩ := forward_of_placed placed timely
  obtain ⟨_,later,_⟩ := timely
  obtain ⟨cpus,possible,⟨switch,size,requested,seeded⟩,_,rq,freq,_,lrqs,accounts⟩ := effect
  have marks : ∀ u, mark (switchTo v cpu t) u = if u = t then wallclock else mark s.world u := by
    intro u
    have same : account (switchTo v cpu t) u = Function.update (account s.world) t (some a) u := congrFun accounts u
    by_cases here : u = t
    · subst here
      simp [mark,same,marked]
    · simp [mark,same,here]
  constructor
  · exact switch ▸ placed.on
  · exact seeded ▸ placed.seeded
  · exact size ▸ placed.positive
  · exact size ▸ placed.word
  · exact (requested.trans placed.requested).trans size.symm
  · exact placed.start
  · exact placed.reached.trans later
  · show ∀ other, v.possible other = true → other < v.nrCpuIds
    rw [possible,cpus]
    exact placed.bounded
  · exact switchTo_distinct rq possible placed.distinct elsewhere
  · exact freq ▸ placed.full
  · intro u
    have same : account (switchTo v cpu t) u = Function.update (account s.world) t (some a) u := congrFun accounts u
    by_cases here : u = t
    · subst here
      refine ⟨a,by simp [same],marked.le,fun _ => ?_⟩
      exact marked ▸ placed.reached.trans later
    · obtain ⟨b,known,before,after⟩ := placed.known u
      exact ⟨b,by simpa [same,here] using known,before.trans later,after⟩
  · show ∀ other, v.possible other = true → CpuPlaced origin v.track.ravgWindow wallclock (v.lrq other)
      (mark (switchTo v cpu t) ((switchTo v cpu t).rq other).curr) (Function.update s.last cpu (some wallclock) other)
    intro other known
    rw [possible] at known
    rw [marks,switchTo_current rq,size,lrqs]
    by_cases same : other = cpu
    · subst same
      simpa using cpuPlaced_here (placed.cpus other known) forward clock window
    · simpa [same,elsewhere other known same] using cpuPlaced_later (placed.cpus other known) later

/-- Making the current task current changes nothing. -/
theorem switchTo_curr {w v : World} (rq : v.rq = w.rq) : switchTo v cpu (w.rq cpu).curr = v := by
  rw [switchTo,← rq]
  simp

theorem switchTo_same {w v : World} (same : SameTracker w v) (next : ℕ) :
    SameTracker (switchTo w cpu next) (switchTo v cpu next) := by
  obtain ⟨cpus,possible,windows,rq,lrq,full,idle,accounts⟩ := same
  exact ⟨cpus,possible,windows,by simp [switchTo,rq],lrq,full,idle,accounts⟩

theorem current_elsewhere (placed : Placed origin s) (possible : s.world.possible cpu = true) :
    ∀ other, s.world.possible other = true → other ≠ cpu → (s.world.rq other).curr ≠ (s.world.rq cpu).curr :=
  fun other known away same => away (placed.distinct other cpu known possible same)

theorem lts_of_placed (placed : Placed origin s) (t : ℕ) : ∃ lts, s.world.lts t = some lts := by
  obtain ⟨a,known,_⟩ := placed.known t
  obtain ⟨lts,present,_⟩ := lts_of_account known
  exact ⟨lts,present⟩

/-- The stint that an event closes is one of the current task on the CPU. -/
theorem closed_current {st : Stint} (member : st ∈ closed s cpu wallclock) :
    st.cpu = cpu ∧ st.task = (s.world.rq cpu).curr := by
  cases seen : s.last cpu with
  | none => simp [closed,seen] at member
  | some since =>
    simp only [closed,seen,List.mem_singleton] at member
    rw [member]
    exact ⟨rfl,rfl⟩

/-- Stints of others make no difference. -/
theorem filter_others {keep : Stint → Bool} {new : List Stint} (others : ∀ st ∈ new, keep st = false) (old : List Stint) :
    (new ++ old).filter keep = old.filter keep := by
  have none_here : new.filter keep = [] := List.filter_eq_nil_iff.mpr (fun st member => by simp [others st member])
  rw [List.filter_append,none_here,List.nil_append]

/-- A charge replaces the records of the current task and of its CPU; the task's mark
    was the last event on the CPU. -/
theorem charge_effect (placed : Placed origin s) (timely : Timely s cpu wallclock) (event : TaskEvent) :
    ∃ lts, s.world.lts (s.world.rq cpu).curr = some lts ∧ lts.markStart = (s.last cpu).getD 0 ∧
      (lts.markStart = wallclock → s.last cpu = some wallclock) ∧
      Effect s.world (charge s cpu event wallclock).world (s.world.rq cpu).curr cpu
        (accountOf (records s.world lts (s.world.rq cpu).curr cpu event wallclock).1)
        (records s.world lts (s.world.rq cpu).curr cpu event wallclock).2 := by
  obtain ⟨lts,present⟩ := lts_of_placed placed (s.world.rq cpu).curr
  have marked := (placed.cpus cpu timely.1).marked
  rw [mark_of_lts present] at marked
  refine ⟨lts,present,marked,?_,updateIfTracked_effect event cpu wallclock placed.on present⟩
  intro now
  rcases charge_cases placed timely marked with ⟨_,_,taken⟩ | ⟨seen,_,_⟩ | ⟨seen,_,_⟩
  · exact absurd ((skipped_iff placed timely lts).mpr now) taken
  · exact now ▸ seen
  · exact now ▸ seen

theorem charge_placed (placed : Placed origin s) (timely : Timely s cpu wallclock) (event : TaskEvent) :
    Placed origin (charge s cpu event wallclock) := by
  obtain ⟨lts,_,_,settled,effect⟩ := charge_effect placed timely event
  obtain ⟨marked,clock,window⟩ := records_placed placed timely (s.world.rq cpu).curr lts event settled
  have called := placed_call placed timely (current_elsewhere placed timely.1) effect marked clock window
    (closed s cpu wallclock ++ s.stints)
  rwa [switchTo_curr effect.rq] at called

theorem pick_placed (placed : Placed origin s) (timely : Timely s cpu wallclock) (seen : s.last cpu = some wallclock)
    (now : s.now = wallclock) (next : ℕ)
    (elsewhere : ∀ other, s.world.possible other = true → other ≠ cpu → (s.world.rq other).curr ≠ next) :
    Placed origin (pick s cpu next wallclock) := by
  subst now
  obtain ⟨lts,present⟩ := lts_of_placed placed next
  obtain ⟨marked,clock,window⟩ := records_placed placed timely next lts .pickNextTask (fun _ => seen)
  have called := placed_call placed timely elsewhere (updateIfTracked_effect .pickNextTask cpu s.now placed.on present) marked
    clock window s.stints
  rw [← seen,Function.update_eq_self] at called
  exact called

/-! ### What an event does -/

/-- The second reading of the clock in `lse_schedule` is the first one. -/
theorem lseRqClock_charged (placed : Placed origin s) {clock : ℕ} (event : TaskEvent)
    (timely : Timely s cpu (lseRqClock s.world cpu clock)) :
    lseRqClock (charge s cpu event (lseRqClock s.world cpu clock)).world cpu clock = lseRqClock s.world cpu clock := by
  obtain ⟨_,_,_,_,effect⟩ := charge_effect placed timely event
  have latest := ((charge_placed placed timely event).cpus cpu (effect.possible ▸ timely.1)).clock
  simp only [charge,note,Function.update_self,Option.getD_some] at latest
  exact lseRqClock_again effect.suspended.1 effect.suspended.2 (Or.inr latest)

/-- `lse_schedule` without a switch charges the current task. -/
theorem schedule_stays (placed : Placed origin s) {clock : ℕ} (timely : Timely s cpu (lseRqClock s.world cpu clock)) :
    SameTracker (charge s cpu .taskUpdate (lseRqClock s.world cpu clock)).world
      (switchTo (lseSchedule s.world cpu (s.world.rq cpu).curr (s.world.rq cpu).curr clock) cpu
        (s.world.rq cpu).curr) := by
  have hook : lseSchedule s.world cpu (s.world.rq cpu).curr (s.world.rq cpu).curr clock =
      lseShadowTickUpdateCpu (lseDsqOnSchedule (charge s cpu .taskUpdate (lseRqClock s.world cpu clock)).world cpu
        (s.world.rq cpu).curr (s.world.rq cpu).curr) cpu cpu := by
    simp [lseSchedule,placed.on,scheduleRavg,charge,note]
  obtain ⟨_,_,_,_,effect⟩ := charge_effect placed timely .taskUpdate
  have quiet := (afterRavg_queues (charge s cpu .taskUpdate (lseRqClock s.world cpu clock)).world cpu
    (s.world.rq cpu).curr (s.world.rq cpu).curr).same
  rw [hook,switchTo_curr (quiet.rq.trans effect.rq)]
  exact quiet

/-- `lse_schedule` with a switch charges the current task and picks the next one. -/
theorem schedule_switches (placed : Placed origin s) {next clock : ℕ}
    (timely : Timely s cpu (lseRqClock s.world cpu clock)) (other : next ≠ (s.world.rq cpu).curr) :
    SameTracker (pick (charge s cpu .putPrevTask (lseRqClock s.world cpu clock)) cpu next
        (lseRqClock s.world cpu clock)).world
      (switchTo (lseSchedule s.world cpu (s.world.rq cpu).curr next clock) cpu next) := by
  have again := lseRqClock_charged placed .putPrevTask timely
  have hook : lseSchedule s.world cpu (s.world.rq cpu).curr next clock =
      lseShadowTickUpdateCpu (lseDsqOnSchedule (updateIfTracked
        (charge s cpu .putPrevTask (lseRqClock s.world cpu clock)).world next cpu .pickNextTask
        (lseRqClock s.world cpu clock)) cpu (s.world.rq cpu).curr next) cpu cpu := by
    simp only [lseSchedule,placed.on,if_false,scheduleRavg,Ne,Ne.symm other,not_false_eq_true,if_true]
    simp only [charge,note] at again
    rw [again]
    rfl
  rw [hook]
  exact switchTo_same (afterRavg_queues _ cpu _ next).same next

/-- A shadow tick that does not reach the tracker leaves it alone. -/
theorem shadowTick_silent {w : World} (silent : ¬ (lseShadowTickEnabled w = true ∧ (w.rq cpu).curr ≠ (w.rq cpu).idle))
    (timer clock : ℕ) : SameTracker w (lseShadowTickCb w timer cpu clock) := by
  unfold lseShadowTickCb
  split_ifs with off busy
  · exact around_same w w.dsq _
  · refine absurd ⟨?_,busy⟩ silent
    rw [not_or] at off
    simpa using off.1
  · exact SameTracker.refl _

/-- An event that does not reach the tracker leaves it alone. -/
theorem silent_same {w : World} {e : SchedEvent} (seeded : w.track.tickSchedClock ≠ 0) (silent : e.observed w = none)
    (idle : ∀ t p, e = .task t p → p.isIdle = (w.task t).isIdle) (full : ∀ other f, e = .freq other f → FullScale f) :
    SameTracker w (e.run w) := by
  cases e with
  | schedule cpu next clock => cases silent
  | tickEntry cpu clock => cases silent
  | irqWork cpu clock => cases silent
  | schedulerTick clock =>
    simp only [SchedEvent.run,lseSchedulerTick,seeded,ne_eq,not_false_eq_true,or_true,if_true]
    exact SameTracker.refl _
  | shadowTick timer cpu clock =>
    by_cases ticks : lseShadowTickEnabled w = true ∧ (w.rq cpu).curr ≠ (w.rq cpu).idle
    · simp [SchedEvent.observed,ticks] at silent
    · exact shadowTick_silent ticks timer clock
  | task t p =>
    refine ⟨rfl,rfl,SameWindows.refl _,rfl,rfl,id,?_,rfl⟩
    intro u
    by_cases same : u = t
    · subst same
      simpa [SchedEvent.run] using idle u p rfl
    · simp [SchedEvent.run,same]
  | freq cpu f =>
    refine ⟨rfl,rfl,SameWindows.refl _,rfl,rfl,?_,fun _ => rfl,rfl⟩
    intro all other
    by_cases same : other = cpu
    · subst same
      simpa [SchedEvent.run] using full other f rfl
    · simpa [SchedEvent.run,same] using all other
  | others e => exact ⟨rfl,rfl,⟨rfl,rfl,rfl,rfl⟩,rfl,rfl,id,fun _ => rfl,rfl⟩

/-- Every event charges the current task of its CPU and perhaps picks the next one,
    or does neither, and leaves the tracker alone otherwise. -/
theorem step_cases (placed : Placed origin s) {e : SchedEvent} (admitted : Admitted s e) :
    (∃ v, SameTracker s.world v ∧ step s e = { s with world := v }) ∨
    (∃ cpu wallclock v, Timely s cpu wallclock ∧ SameTracker (charge s cpu .taskUpdate wallclock).world v ∧
      step s e = { charge s cpu .taskUpdate wallclock with world := v }) ∨
    (∃ cpu next wallclock v, Timely s cpu wallclock ∧ next ≠ (s.world.rq cpu).curr ∧
      (∀ other, s.world.possible other = true → other ≠ cpu → (s.world.rq other).curr ≠ next) ∧
      SameTracker (pick (charge s cpu .putPrevTask wallclock) cpu next wallclock).world v ∧
      step s e = { pick (charge s cpu .putPrevTask wallclock) cpu next wallclock with world := v }) := by
  obtain ⟨intime,kernel⟩ := admitted
  cases e with
  | schedule cpu next clock =>
    have timely : Timely s cpu (lseRqClock s.world cpu clock) := intime _ rfl
    refine Or.inr ?_
    by_cases same : next = (s.world.rq cpu).curr
    · subst same
      exact Or.inl ⟨cpu,_,_,timely,schedule_stays placed timely,rfl⟩
    · refine Or.inr ⟨cpu,next,_,_,timely,same,?_,schedule_switches placed timely same,rfl⟩
      exact fun other known => kernel other (placed.bounded other known) known
  | tickEntry cpu clock =>
    have timely : Timely s cpu (lseRqClock s.world cpu clock) := intime _ rfl
    refine Or.inr (Or.inl ⟨cpu,_,_,timely,?_,rfl⟩)
    simp only [SchedEvent.run,lseTickEntry,placed.on,if_false]
    exact SameTracker.refl _
  | schedulerTick clock =>
    exact Or.inl ⟨_,silent_same placed.seeded rfl (fun _ _ same => by cases same) (fun _ _ same => by cases same),rfl⟩
  | shadowTick timer cpu clock =>
    by_cases ticks : lseShadowTickEnabled s.world = true ∧ (s.world.rq cpu).curr ≠ (s.world.rq cpu).idle
    · have reaches : SchedEvent.observed s.world (.shadowTick timer cpu clock) =
          some (cpu,lseSchedClock s.world clock) := if_pos ticks
      have timely : Timely s cpu (lseSchedClock s.world clock) := intime _ reaches
      refine Or.inr (Or.inl ⟨cpu,_,SchedEvent.run s.world (.shadowTick timer cpu clock),timely,?_,?_⟩)
      · simp only [SchedEvent.run,lseShadowTickCb,ticks,placed.on,or_self,if_false,ne_eq,not_false_eq_true,if_true,
          Bool.true_eq_false]
        exact SameTracker.refl _
      · simp only [step,reaches]
        rfl
    · have silent : SchedEvent.observed s.world (.shadowTick timer cpu clock) = none := if_neg ticks
      exact Or.inl ⟨_,shadowTick_silent ticks timer clock,by simp only [step,silent]; rfl⟩
  | irqWork cpu clock =>
    have timely : Timely s cpu (lseSchedClock s.world clock) := intime _ rfl
    have settled := (charge_placed placed timely .taskUpdate).requested
    refine Or.inr (Or.inl ⟨cpu,_,_,timely,?_,rfl⟩)
    simp only [charge,note] at settled
    simp only [SchedEvent.run,lseIrqWork,commitWindow,settled,ne_eq,not_true_eq_false,false_and,if_false]
    exact SameTracker.refl _
  | task t p =>
    refine Or.inl ⟨_,silent_same placed.seeded rfl ?_ (fun _ _ same => by cases same),rfl⟩
    rintro u q same
    cases same
    exact kernel
  | freq cpu f =>
    refine Or.inl ⟨_,silent_same placed.seeded rfl (fun _ _ same => by cases same) ?_,rfl⟩
    rintro other g same
    cases same
    exact kernel
  | others e =>
    exact Or.inl ⟨_,silent_same placed.seeded rfl (fun _ _ same => by cases same) (fun _ _ same => by cases same),rfl⟩

end

/-- The rule for whole runs: what the seeded machine satisfies, and charges, picks
    and steps beside the tracker keep, holds after every run. -/
theorem run_keeps {origin : ℕ} (inv : Occupied → Prop)
    (onFrame : ∀ s v, Placed origin s → inv s → SameTracker s.world v → inv { s with world := v })
    (onCharge : ∀ s cpu event wallclock, Placed origin s → inv s → Timely s cpu wallclock →
      event = .putPrevTask ∨ event = .taskUpdate → inv (charge s cpu event wallclock))
    (onPick : ∀ s cpu next, Placed origin s → inv s → Timely s cpu s.now → s.last cpu = some s.now →
      next ≠ (s.world.rq cpu).curr → inv (pick s cpu next s.now))
    {start : Occupied} (placed : Placed origin start) (held : inv start) {run : List SchedEvent}
    (admitted : Along step Admitted start run) : Placed origin (exec step start run) ∧ inv (exec step start run) := by
  refine exec_invariant (fun s => Placed origin s ∧ inv s) ?_ ⟨placed,held⟩ admitted
  intro s e ⟨placed,held⟩ admitted
  rcases step_cases placed admitted with ⟨v,same,after⟩ | ⟨cpu,wallclock,v,timely,same,after⟩ |
    ⟨cpu,next,wallclock,v,timely,other,elsewhere,same,after⟩
  · rw [after]
    exact ⟨placed_frame placed same,onFrame s v placed held same⟩
  · rw [after]
    have charged := charge_placed placed timely .taskUpdate
    have kept := onCharge s cpu .taskUpdate wallclock placed held timely (Or.inr rfl)
    exact ⟨placed_frame charged same,onFrame _ v charged kept same⟩
  · rw [after]
    have charged := charge_placed placed timely .putPrevTask
    have kept := onCharge s cpu .putPrevTask wallclock placed held timely (Or.inl rfl)
    obtain ⟨_,_,_,_,effect⟩ := charge_effect placed timely .putPrevTask
    have seen : (charge s cpu .putPrevTask wallclock).last cpu = some wallclock := by simp [charge,note]
    have inside := (charged.cpus cpu (effect.possible ▸ timely.1)).inside wallclock seen
    have again : Timely (charge s cpu .putPrevTask wallclock) cpu wallclock := by
      refine ⟨effect.possible ▸ timely.1,le_rfl,timely.2.2.1,?_⟩
      have positive := charged.positive
      omega
    have picked := pick_placed charged again seen rfl next (by rwa [effect.possible,effect.rq])
    have kept := onPick _ cpu next charged kept again seen (by rwa [effect.rq])
    exact ⟨placed_frame picked same,onFrame _ v picked kept same⟩

/-- What stays as it was at the start. -/
structure Constant (w v : World) : Prop where
  possible : v.possible = w.possible
  size : v.track.ravgWindow = w.track.ravgWindow
  idle : ∀ t, (v.task t).isIdle = (w.task t).isIdle

theorem seededAt_constant (w : World) (origin : ℕ) : Constant w (seededAt w origin) := ⟨rfl,rfl,fun _ => rfl⟩

/-- A run from the seeding tick stays in place, and windows, CPUs and idle tasks do
    not change. -/
theorem run_constant {w : World} (fresh : Fresh w) {clock : ℕ} (late : 20000 < clock)
    (small : clock < 18446744073709551616) {run : List SchedEvent}
    (admitted : Along step Admitted (occupied w clock) run) :
    Placed (clock - 20000) (exec step (occupied w clock) run) ∧ Constant w (exec step (occupied w clock) run).world := by
  refine run_keeps (fun s => Constant w s.world) ?_ ?_ ?_ (occupied_placed fresh late small) ?_ admitted
  · intro s v _ kept same
    exact ⟨same.possible.trans kept.possible,same.windows.size.trans kept.size,
      fun t => (same.idle t).trans (kept.idle t)⟩
  · intro s cpu event wallclock placed kept timely _
    obtain ⟨_,_,_,_,effect⟩ := charge_effect placed timely event
    exact ⟨effect.possible.trans kept.possible,effect.windows.size.trans kept.size,
      fun t => effect.task ▸ kept.idle t⟩
  · intro s cpu next placed kept _ _ _
    obtain ⟨lts,present⟩ := lts_of_placed placed next
    have effect := updateIfTracked_effect .pickNextTask cpu s.now placed.on present
    exact ⟨effect.possible.trans kept.possible,effect.windows.size.trans kept.size,
      fun t => (congrArg TaskStruct.isIdle (congrFun effect.task t)).trans (kept.idle t)⟩
  · rw [occupied,lseSchedulerTick_seeds fresh.unseeded late small]
    exact seededAt_constant w _

end LunarSched.Occupancy
