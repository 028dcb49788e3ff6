import LunarSched.BusyTime
import LunarSched.RolloverPolicies
import LunarSched.Toggling

/-!
What an idle CPU contributes to the load of its cluster. A rollover adds up the sums
that the CPUs keep of their last complete window, but `lse_irq_work` moves only its
own CPU into the new window; the sum of a CPU without events is that of a window long
past. Along a run a CPU that was idle through the window that ends at the rollover
contributes nothing when it was idle as well through the last window it keeps a sum of
(`idle_contributes_nothing`).
-/
namespace LunarSched.IdleLoad
open LunarSched.Machine LunarSched.Kernel LunarSched.UtilTrack LunarSched.Hooks LunarSched.Accounts LunarSched.Governor
open LunarSched.Runs LunarSched.Timeline
open LunarSched.Occupancy (SchedEvent Stint Elsewhere NotCurrent)
open LunarSched.WindowChange (Behind beforeCommit updateIfTracked_around updateIfTracked_track call_outcome)
open LunarSched.RolloverPolicies (PolicyEvent policyStep)
open LunarSched.Toggling (leaves setControl InTime call_called call_inTime call_stamped event_cases
  mark_unmarked)

/-- What a CPU contributes to the load that a rollover computes for its cluster. -/
def contribution (w : World) (y : GovSysctl) (cpu : ℕ) : ℕ :=
  if y.clusterAggMode = lseAggTop2Avg then utilOf (utilWindow w cpu) (w.lrq cpu).prevRunnableSum
  else (w.lrq cpu).prevRunnableSum

/-- The machine in a run with its policies and the governor's sysctls: the last
    wallclock of the run, since when the current task of each CPU has been current
    there, and who was current where before that. -/
structure Watched where
  world : World
  now : ℕ
  since : ℕ → ℕ
  stints : List Stint
  cpufreq : Cpufreq
  sysctl : GovSysctl

inductive IdleEvent where
  | sched (e : SchedEvent)
  /-- `slim_walt_ctrl` is written. -/
  | control (value : ℤ)
  | alloc (t : ℕ)
  | free (t : ℕ)
  | policy (e : PolicyEvent)
  | sysctl (y : GovSysctl)

/-- The stint of the current task of a CPU so far. -/
def openStint (s : Watched) (cpu : ℕ) : Stint := ⟨cpu,(s.world.rq cpu).curr,⟨s.since cpu,s.now⟩⟩

/-- The next task becomes current on the CPU. -/
def hand (s : Watched) (cpu : ℕ) (w : World) : Watched :=
  { s with world := w, since := Function.update s.since cpu s.now, stints := openStint s cpu :: s.stints }

def schedStep (s : Watched) (e : SchedEvent) : Watched :=
  match e.observed s.world with
  | none => { s with world := e.run s.world }
  | some (_,wallclock) =>
    match leaves s.world e with
    | none => { s with world := e.run s.world, now := wallclock }
    | some cpu => hand { s with now := wallclock } cpu (e.run s.world)

def idleStep (s : Watched) : IdleEvent → Watched
  | .sched e => schedStep s e
  | .control value => { s with world := setControl s.world value }
  | .alloc t => { s with world := allocLseTaskStruct s.world t }
  | .free t => { s with world := freeLseTaskStruct s.world t }
  | .policy e =>
    { s with
      world := (policyStep ⟨s.world,s.cpufreq⟩ e).world
      cpufreq := (policyStep ⟨s.world,s.cpufreq⟩ e).cpufreq }
  | .sysctl y => { s with sysctl := y }

/-- What the kernel promises: wallclocks do not go back, a task that is picked runs on
    no other CPU, idle tasks stay so, and a task gets a record before it first runs and
    loses it after it last ran. -/
def Admitted (s : Watched) : IdleEvent → Prop
  | .sched e =>
    (∀ place ∈ e.observed s.world, s.world.possible place.1 = true ∧ s.now ≤ place.2 ∧
      place.2 < 18446744073709551616) ∧
      match e with
      | .schedule cpu next _ => Elsewhere s.world next cpu
      | .task t p => p.isIdle = (s.world.task t).isIdle
      | _ => True
  | .alloc t | .free t => NotCurrent s.world t
  | _ => True

instance (s : Watched) : (e : IdleEvent) → Decidable (Admitted s e)
  | .sched (.schedule cpu next _) => inferInstanceAs (Decidable (_ ∧ Elsewhere s.world next cpu))
  | .sched (.task ..) => inferInstanceAs (Decidable (_ ∧ _ = _))
  | .sched (.tickEntry ..) | .sched (.schedulerTick _) | .sched (.shadowTick ..) | .sched (.irqWork ..)
  | .sched (.freq ..) | .sched (.others _) => inferInstanceAs (Decidable (_ ∧ True))
  | .alloc t | .free t => inferInstanceAs (Decidable (NotCurrent s.world t))
  | .control _ | .policy _ | .sysctl _ => isTrue trivial

/-- No task but an idle one ran on the CPU between two instants. -/
def IdleThrough (s : Watched) (cpu lo hi : ℕ) : Prop :=
  ∀ st ∈ openStint s cpu :: s.stints, st.cpu = cpu → (s.world.task st.task).isIdle = false → st.span.overlap lo hi = 0

instance (s : Watched) (cpu lo hi : ℕ) : Decidable (IdleThrough s cpu lo hi) :=
  inferInstanceAs (Decidable (∀ st ∈ openStint s cpu :: s.stints, _ → _ → _))

/-- The state in which a rollover `irq_work` computes the loads of the clusters. -/
def atIrqWork (s : Watched) (cpu clock : ℕ) : Watched :=
  { s with world := beforeCommit s.world cpu clock, now := lseSchedClock s.world clock }

/-- What holds of every online CPU of the clusters whose loads a rollover on the CPU
    computes, if it was idle through the complete window that ends at the rollover. -/
def IdleCpus (s : Watched) (cpu : ℕ) (holds : ℕ → Prop) : Prop :=
  s.cpufreq.updateUtilHook cpu = true → ∀ cluster ∈ s.cpufreq.clusters, s.cpufreq.govFlag cluster.id ≠ 0 →
    ∀ c ∈ forEachCpu s.world.nrCpuIds (clusterOnline s.world cluster), s.world.possible c = true →
      IdleThrough s c (s.world.track.rolloverLastqWs - s.world.track.ravgWindow) s.world.track.rolloverLastqWs → holds c

/-- An idle CPU contributes nothing to the load that a rollover computes. -/
def Unloaded (s : Watched) : IdleEvent → Prop
  | .sched (.irqWork cpu clock) =>
    let work := atIrqWork s cpu clock
    IdleCpus work cpu (fun c => contribution work.world work.sysctl c = 0)
  | _ => True

/-- The CPU was idle through the last complete window that it keeps a sum of. -/
def IdleOwn (s : Watched) (cpu : ℕ) : Prop :=
  IdleThrough s cpu ((s.world.lrq cpu).windowStart - s.world.track.ravgWindow) (s.world.lrq cpu).windowStart

instance (s : Watched) (cpu : ℕ) : Decidable (IdleOwn s cpu) := inferInstanceAs (Decidable (IdleThrough _ _ _ _))

/-- The current task of every CPU has no mark, or has been current there since then. -/
def Continuous (s : Watched) : Prop :=
  ∀ cpu < s.world.nrCpuIds, s.world.possible cpu = true →
    mark s.world (s.world.rq cpu).curr = 0 ∨ s.since cpu ≤ mark s.world (s.world.rq cpu).curr

instance (s : Watched) : Decidable (Continuous s) := inferInstanceAs (Decidable (∀ cpu < s.world.nrCpuIds, _ → _))

/-- A rollover finds CPUs that were idle through the window that ends at it idle through
    their own last window too. Tracking is switched on only while the current tasks have
    been current since their marks, and no event comes 2³¹ windows or more after its
    CPU's window started. -/
def Settled (s : Watched) : IdleEvent → Prop
  | .sched e =>
    (∀ place ∈ e.observed s.world, s.world.track.slimWaltCtrl ≠ 0 →
      place.2 < (s.world.lrq place.1).windowStart + 2147483648 * s.world.track.ravgWindow) ∧
      match e with
      | .irqWork cpu clock => IdleCpus (atIrqWork s cpu clock) cpu (IdleOwn (atIrqWork s cpu clock))
      | _ => True
  | .control value => s.world.track.slimWaltCtrl = 0 → value ≠ 0 → Continuous s
  | _ => True

instance (s : Watched) (cpu : ℕ) (holds : ℕ → Prop) [DecidablePred holds] : Decidable (IdleCpus s cpu holds) :=
  inferInstanceAs (Decidable (_ → ∀ cluster ∈ _, _ → ∀ c ∈ _, _ → IdleThrough s c _ _ → holds c))

instance (s : Watched) : (e : IdleEvent) → Decidable (Settled s e)
  | .sched (.irqWork cpu clock) => inferInstanceAs (Decidable (_ ∧ IdleCpus (atIrqWork s cpu clock) cpu _))
  | .sched (.schedule ..) | .sched (.tickEntry ..) | .sched (.schedulerTick _) | .sched (.shadowTick ..)
  | .sched (.task ..) | .sched (.freq ..) | .sched (.others _) => inferInstanceAs (Decidable (_ ∧ True))
  | .control _ => inferInstanceAs (Decidable (_ → _ → Continuous s))
  | .alloc _ | .free _ | .policy _ | .sysctl _ => isTrue trivial

/-- The sums of a CPU, given when it was idle: a window that it was idle through has the
    sum 0. -/
structure QuietCpu (idle : ℕ → ℕ → Prop) (size : ℕ) (lrq : LseRq) : Prop where
  within : lrq.latestClock ≤ lrq.windowStart + size
  curr : idle lrq.windowStart lrq.latestClock → lrq.currRunnableSum = 0
  prev : idle (lrq.windowStart - size) lrq.windowStart → lrq.prevRunnableSum = 0

section
variable {idle : ℕ → ℕ → Prop} {size wallclock : ℕ} {lrq : LseRq}

theorem QuietCpu.weaken (quiet : QuietCpu idle size lrq) {less : ℕ → ℕ → Prop}
    (weaker : ∀ lo hi, less lo hi → idle lo hi) : QuietCpu less size lrq :=
  ⟨quiet.within,fun none => quiet.curr (weaker _ _ none),fun none => quiet.prev (weaker _ _ none)⟩

/-- The window moves on. -/
theorem quietCpu_advance (mono : ∀ {lo hi lo' hi'}, lo ≤ lo' → hi' ≤ hi → idle lo hi → idle lo' hi')
    (quiet : QuietCpu idle size lrq) (forward : Forward size lrq wallclock) :
    QuietCpu idle size (advance size lrq wallclock) := by
  have inside := (advance_contains forward).2
  refine ⟨?_,?_,?_⟩
  · rw [advance_latestClock]
    exact inside.le
  · rcases BusyTime.advance_passed forward with ⟨_,_,same⟩ | ⟨_,next⟩ | ⟨start,_,skipped⟩
    · rw [same]
      exact fun none => quiet.curr (mono le_rfl forward.latest none)
    · rw [next]
      exact fun _ => rfl
    · rw [skipped]
      exact fun _ => rfl
  · rcases BusyTime.advance_passed forward with ⟨_,_,same⟩ | ⟨_,next⟩ | ⟨start,_,skipped⟩
    · rw [same]
      exact quiet.prev
    · rw [next]
      -- the window that is complete now was the current one
      refine fun none => quiet.curr (mono ?_ quiet.within none)
      exact (Nat.add_sub_cancel _ _).le
    · rw [skipped]
      exact fun _ => rfl

/-- Time is added only to windows in which the task of the CPU ran. -/
theorem quietCpu_credit (quiet : QuietCpu idle size lrq) (positive : 0 < size) (clock : lrq.latestClock = wallclock)
    (started : lrq.windowStart ≤ wallclock) (small : wallclock < 18446744073709551616) {p : TaskStruct} {since marked : ℕ}
    (own : p.isIdle = false → ∀ lo hi, idle lo hi → min wallclock hi ≤ max since lo) (begun : since ≤ marked)
    (later : marked ≤ wallclock) (f : FreqView) (event : TaskEvent) :
    QuietCpu idle size (updateCpuBusyTime (updateTaskRqCpuCycles f lrq) p marked event wallclock) := by
  cases runs : accountBusyForCpuTime p event with
  | false =>
    simp only [updateCpuBusyTime,runs,if_true]
    exact ⟨quiet.within,quiet.curr,quiet.prev⟩
  | true =>
    have busy : p.isIdle = false := by
      simp only [accountBusyForCpuTime,Bool.and_eq_true,Bool.not_eq_true'] at runs
      exact runs.1
    have none : ∀ scaled, scaleExecTime 0 scaled = 0 := fun scaled => by simp [scaleExecTime,u64]
    by_cases older : marked < lrq.windowStart
    · simp only [updateCpuBusyTime,runs,updateTaskRqCpuCycles_windowStart,older,Bool.true_eq_false,if_false,
        not_true_eq_false]
      refine ⟨quiet.within,?_,?_⟩
      · intro nothing
        have reached : min wallclock lrq.latestClock ≤ max since lrq.windowStart := own busy _ _ nothing
        have sum : lrq.currRunnableSum = 0 := quiet.curr nothing
        have gap : u64Sub wallclock lrq.windowStart = 0 := by
          rw [u64Sub_of_le started small]
          omega
        show u64 (lrq.currRunnableSum + scaleExecTime (u64Sub wallclock lrq.windowStart) _) = 0
        rw [sum,gap,none]
        rfl
      · intro nothing
        have reached : min wallclock lrq.windowStart ≤ max since (lrq.windowStart - size) := own busy _ _ nothing
        omega
    · simp only [updateCpuBusyTime,runs,updateTaskRqCpuCycles_windowStart,older,Bool.true_eq_false,if_false,
        not_false_eq_true,if_true]
      refine ⟨quiet.within,?_,quiet.prev⟩
      intro nothing
      have reached : min wallclock lrq.latestClock ≤ max since lrq.windowStart := own busy _ _ nothing
      have sum : lrq.currRunnableSum = 0 := quiet.curr nothing
      have gap : u64Sub wallclock marked = 0 := by
        rw [u64Sub_of_le later small]
        omega
      show u64 (lrq.currRunnableSum + scaleExecTime (u64Sub wallclock marked) _) = 0
      rw [sum,gap,none]
      rfl

end

/-! ### The invariant -/

/-- The state of a run: while tracking is on the mark of a current task is not from
    before it became current, and the sums of windows without a task are 0. -/
structure Quiet (s : Watched) : Prop extends Behind s.world s.now where
  ticked : s.world.track.tickSchedClock ≠ 0
  constant : s.world.track.newRavgWindow = s.world.track.ravgWindow
  bounded : ∀ cpu, s.world.possible cpu = true → cpu < s.world.nrCpuIds
  seeded : ∀ cpu, s.world.possible cpu = true → (s.world.lrq cpu).windowStart ≠ 0
  marks : ∀ t, mark s.world t ≤ s.now
  begun : ∀ cpu, s.since cpu ≤ s.now
  continuous : s.world.track.slimWaltCtrl ≠ 0 → ∀ cpu, s.world.possible cpu = true →
    mark s.world (s.world.rq cpu).curr = 0 ∨ s.since cpu ≤ mark s.world (s.world.rq cpu).curr
  cpus : ∀ cpu, s.world.possible cpu = true →
    QuietCpu (IdleThrough s cpu) s.world.track.ravgWindow (s.world.lrq cpu)

section
variable {s : Watched} {cpu wallclock : ℕ}

theorem idle_mono {lo hi lo' hi' : ℕ} (up : lo ≤ lo') (down : hi' ≤ hi) (none : IdleThrough s cpu lo hi) :
    IdleThrough s cpu lo' hi' := by
  intro st member here busy
  have apart := none st member here busy
  unfold Span.overlap at apart ⊢
  omega

/-- As time passes a CPU is not idle in more of the past. -/
theorem idle_earlier (cpu : ℕ) {v : World} (rq : v.rq = s.world.rq) (kinds : ∀ t, (v.task t).isIdle = (s.world.task t).isIdle)
    (later : s.now ≤ wallclock) (lo hi : ℕ) (none : IdleThrough { s with world := v, now := wallclock } cpu lo hi) :
    IdleThrough s cpu lo hi := by
  intro st member here busy
  rcases List.mem_cons.mp member with rfl | closed
  · have apart := none (openStint { s with world := v, now := wallclock } cpu) List.mem_cons_self rfl
      (by simpa [openStint,rq,kinds] using busy)
    simp only [openStint,Span.overlap] at apart ⊢
    omega
  · exact none st (List.mem_cons_of_mem _ closed) here ((kinds st.task).trans busy)

/-- The current task of the CPU, if it is not idle, ran on it since it became current. -/
theorem idle_current (cpu : ℕ) (busy : (s.world.task (s.world.rq cpu).curr).isIdle = false) (lo hi : ℕ)
    (none : IdleThrough s cpu lo hi) : min s.now hi ≤ max (s.since cpu) lo := by
  have apart := none (openStint s cpu) List.mem_cons_self rfl busy
  simp only [openStint,Span.overlap] at apart
  omega

/-- A call for the current task of the CPU, or for one that is picked, keeps the CPU's
    sums quiet. -/
theorem call_quietCpu (quiet : Quiet s) (inTime : InTime s.world s.now cpu wallclock) {t : ℕ} {event : TaskEvent}
    (own : event = .pickNextTask ∨ t = (s.world.rq cpu).curr) :
    let v := updateIfTracked s.world t cpu event wallclock
    QuietCpu (IdleThrough { s with world := v, now := wallclock } cpu) s.world.track.ravgWindow (v.lrq cpu) := by
  intro v
  have rq : v.rq = s.world.rq := (updateIfTracked_around s.world t cpu event wallclock).1
  have task : v.task = s.world.task := (updateIfTracked_around s.world t cpu event wallclock).2.2.1
  have before := (quiet.cpus cpu inTime.possible).weaken
    (idle_earlier cpu rq (fun u => by rw [task]) inTime.later)
  rcases call_outcome quiet.toBehind (quiet.seeded cpu inTime.possible) inTime.timely t event with
    ⟨_,lrqs,_⟩ | ⟨on,_,_,forward,_,lrq,lrqs,stored⟩
  · have kept : v.lrq cpu = s.world.lrq cpu := congrFun lrqs cpu
    rwa [kept]
  · have here : v.lrq cpu = lrq := (congrFun lrqs cpu).trans (Function.update_self ..)
    have advanced := quietCpu_advance (fun up down none => idle_mono up down none) before forward
    rw [here]
    rcases stored with rfl | ⟨first,rfl⟩
    · exact advanced
    · rcases own with rfl | rfl
      · have nothing : ∀ lrq marked, updateCpuBusyTime lrq (s.world.task t) marked .pickNextTask wallclock = lrq := by
          intro lrq marked
          simp [updateCpuBusyTime,accountBusyForCpuTime]
        rw [nothing]
        exact ⟨advanced.within,advanced.curr,advanced.prev⟩
      · refine quietCpu_credit advanced quiet.positive advance_latestClock (advance_contains forward).1 inTime.small ?_
          ((quiet.continuous on cpu inTime.possible).resolve_left first) ((quiet.marks _).trans inTime.later) _ event
        intro busy lo hi none
        exact idle_current (s := { s with world := v, now := wallclock }) cpu (by simpa [rq,task] using busy) lo hi none

/-- A call for the current task of the CPU, or for one that is picked. -/
theorem call_quiet (quiet : Quiet s) (inTime : InTime s.world s.now cpu wallclock) (t : ℕ) (event : TaskEvent)
    (own : event = .pickNextTask ∨ t = (s.world.rq cpu).curr) :
    Quiet { s with world := updateIfTracked s.world t cpu event wallclock, now := wallclock } := by
  have sums := call_quietCpu quiet inTime own
  obtain ⟨called,behind⟩ := call_called quiet.toBehind inTime t event
  have marks := (call_stamped quiet.toBehind (quiet.seeded cpu inTime.possible) inTime t event).marks
  obtain ⟨rq,_,task,_⟩ := updateIfTracked_around s.world t cpu event wallclock
  have later := inTime.later
  have windows := called.windows
  generalize updateIfTracked s.world t cpu event wallclock = v at *
  refine ⟨behind,windows.seeded ▸ quiet.ticked,(windows.requested.trans quiet.constant).trans windows.size.symm,
    called.bounded quiet.bounded,called.seeded quiet.seeded,?_,fun other => (quiet.begun other).trans later,?_,?_⟩
  · intro u
    rcases marks u with kept | stamped
    · exact kept.le.trans ((quiet.marks u).trans later)
    · exact stamped.le
  · intro still other there
    have before := quiet.continuous (windows.switch ▸ still) other (called.known there)
    show mark v (v.rq other).curr = 0 ∨ s.since other ≤ mark v (v.rq other).curr
    rw [rq]
    rcases marks (s.world.rq other).curr with kept | stamped
    · rwa [kept]
    · exact Or.inr (stamped ▸ (quiet.begun other).trans later)
  · intro other there
    show QuietCpu _ v.track.ravgWindow (v.lrq other)
    rw [windows.size]
    by_cases here : other = cpu
    · subst here
      exact sums
    · rw [called.others other here]
      exact (quiet.cpus other (called.known there)).weaken (idle_earlier other rq (fun u => by rw [task]) later)

/-- A task without a mark from before the last wallclock becomes current. -/
theorem hand_quiet (quiet : Quiet s) (cpu next : ℕ)
    (marked : s.world.track.slimWaltCtrl ≠ 0 → mark s.world next = 0 ∨ mark s.world next = s.now) :
    Quiet (hand s cpu (switchTo s.world cpu next)) := by
  have since : ∀ c, (hand s cpu (switchTo s.world cpu next)).since c = if c = cpu then s.now else s.since c := by
    intro c
    simp [hand,Function.update_apply]
  refine ⟨⟨quiet.positive,quiet.word,quiet.requested,quiet.latest,quiet.started⟩,quiet.ticked,quiet.constant,
    quiet.bounded,quiet.seeded,quiet.marks,?_,?_,?_⟩
  · intro c
    show _ ≤ s.now
    rw [since]
    split_ifs
    · exact le_rfl
    · exact quiet.begun c
  · intro on c there
    show mark s.world ((switchTo s.world cpu next).rq c).curr = 0 ∨
      _ ≤ mark s.world ((switchTo s.world cpu next).rq c).curr
    rw [Occupancy.switchTo_current rfl,since]
    split_ifs with here
    · exact (marked on).imp id ge_of_eq
    · exact quiet.continuous on c there
  · intro c there
    refine (quiet.cpus c there).weaken ?_
    intro lo hi none st member here busy
    rcases List.mem_cons.mp member with rfl | closed
    · by_cases same : c = cpu
      · subst same
        exact none (openStint s c) (List.mem_cons_of_mem _ List.mem_cons_self) rfl busy
      · have kept : openStint (hand s cpu (switchTo s.world cpu next)) c = openStint s c := by
          simp [openStint,hand,switchTo,same]
        exact none (openStint s c) (kept ▸ List.mem_cons_self) rfl busy
    · exact none st (List.mem_cons_of_mem _ (List.mem_cons_of_mem _ closed)) here busy

/-- A step that leaves the tracker alone. -/
theorem frame_quiet (quiet : Quiet s) {v : World} (same : SameTracker s.world v) : Quiet { s with world := v } := by
  have marks := same.mark_eq
  have behind := quiet.toBehind.same same
  obtain ⟨cpus,possible,⟨switch,size,requested,seeded⟩,rq,lrq,_,kinds,_⟩ := same
  refine ⟨behind,seeded ▸ quiet.ticked,(requested.trans quiet.constant).trans size.symm,?_,?_,fun t => (marks t).le.trans (quiet.marks t),
    quiet.begun,?_,?_⟩
  · show ∀ c, v.possible c = true → c < v.nrCpuIds
    rw [possible,cpus]
    exact quiet.bounded
  · show ∀ c, v.possible c = true → (v.lrq c).windowStart ≠ 0
    rw [possible,lrq]
    exact quiet.seeded
  · intro on c there
    show mark v (v.rq c).curr = 0 ∨ s.since c ≤ mark v (v.rq c).curr
    rw [marks,rq]
    exact quiet.continuous (switch ▸ on) c ((congrFun possible c).symm.trans there)
  · intro c there
    show QuietCpu _ v.track.ravgWindow (v.lrq c)
    rw [size,lrq]
    exact (quiet.cpus c ((congrFun possible c).symm.trans there)).weaken (idle_earlier c rq kinds le_rfl)

theorem inTime_of_settled {e : SchedEvent} (admitted : Admitted s (.sched e)) (settled : Settled s (.sched e)) :
    ∀ place ∈ e.observed s.world, InTime s.world s.now place.1 place.2 := fun place seen =>
  ⟨(admitted.1 place seen).1,(admitted.1 place seen).2.1,(admitted.1 place seen).2.2,settled.1 place seen⟩

theorem schedStep_quiet (quiet : Quiet s) {e : SchedEvent} (admitted : Admitted s (.sched e))
    (settled : Settled s (.sched e)) : Quiet (schedStep s e) := by
  have inTime := inTime_of_settled admitted settled
  by_cases slower : ∃ c f, e = .freq c f
  · obtain ⟨c,f,rfl⟩ := slower
    obtain ⟨⟨positive,word,requested,latest,started⟩,ticked,constant,bounded,seeded,marks,begun,continuous,cpus⟩ := quiet
    exact ⟨⟨positive,word,requested,latest,started⟩,ticked,constant,bounded,seeded,marks,begun,continuous,cpus⟩
  · have kinds : ∀ t p, e = .task t p → p.isIdle = (s.world.task t).isIdle := by
      rintro t p rfl
      exact admitted.2
    rcases event_cases quiet.ticked quiet.constant (fun place seen t event => (call_called quiet.toBehind
      (inTime place seen) t event).1) kinds (fun c f same => absurd ⟨c,f,same⟩ slower) with
        ⟨unseen,same⟩ | ⟨cpu,wallclock,seen,stays,_,same⟩ | ⟨cpu,next,clock,wallclock,rfl,seen,leaving,_,_,same⟩
    · have framed := frame_quiet quiet same
      simpa only [schedStep,unseen] using framed
    · have framed := frame_quiet (call_quiet quiet (inTime _ seen) _ .taskUpdate (Or.inr rfl)) same
      simpa only [schedStep,seen,stays] using framed
    · have here := inTime _ seen
      have put := call_quiet quiet here _ .putPrevTask (Or.inr rfl)
      have again := call_inTime here (call_called quiet.toBehind here (s.world.rq cpu).curr .putPrevTask).1
      have picked := call_quiet put again next .pickNextTask (Or.inl rfl)
      have stamped := (call_stamped put.toBehind (put.seeded cpu again.possible) again next .pickNextTask).on
      have handed := hand_quiet picked cpu next (fun on => stamped (by
        obtain ⟨_,_,_,track⟩ := updateIfTracked_track (updateIfTracked s.world (s.world.rq cpu).curr cpu .putPrevTask
          wallclock) next cpu .pickNextTask wallclock
        simpa only [track] using on))
      have framed := frame_quiet handed same
      have rq : (updateIfTracked (updateIfTracked s.world (s.world.rq cpu).curr cpu .putPrevTask wallclock) next cpu
          .pickNextTask wallclock).rq = s.world.rq :=
        (updateIfTracked_around _ next cpu .pickNextTask wallclock).1.trans
          (updateIfTracked_around s.world _ cpu .putPrevTask wallclock).1
      simpa only [schedStep,seen,leaving,hand,openStint,rq] using framed

theorem setControl_quiet (quiet : Quiet s) {value : ℤ}
    (settled : s.world.track.slimWaltCtrl = 0 → value ≠ 0 → Continuous s) :
    Quiet { s with world := setControl s.world value } := by
  obtain ⟨⟨positive,word,requested,latest,started⟩,ticked,constant,bounded,seeded,marks,begun,continuous,cpus⟩ := quiet
  refine ⟨⟨positive,word,requested,latest,started⟩,ticked,constant,bounded,seeded,marks,begun,?_,cpus⟩
  intro on c there
  by_cases off : s.world.track.slimWaltCtrl = 0
  · exact settled off on c (bounded c there) there
  · exact continuous off c there

/-- A task loses its record or gets one without a mark. -/
theorem unmarked_quiet (quiet : Quiet s) (t : ℕ) {record : Option LseTaskStruct}
    (unmarked : ∀ lts, record = some lts → lts.markStart = 0) :
    Quiet { s with world := { s.world with lts := Function.update s.world.lts t record } } := by
  have marks := mark_unmarked s.world t unmarked
  refine ⟨⟨quiet.positive,quiet.word,quiet.requested,quiet.latest,quiet.started⟩,quiet.ticked,quiet.constant,
    quiet.bounded,quiet.seeded,?_,quiet.begun,?_,quiet.cpus⟩
  · intro u
    refine (marks u).le.trans ?_
    split_ifs
    · exact Nat.zero_le _
    · exact quiet.marks u
  · intro on c there
    show mark { s.world with lts := _ } (s.world.rq c).curr = 0 ∨ s.since c ≤ mark { s.world with lts := _ } (s.world.rq c).curr
    rw [marks]
    split_ifs
    · exact Or.inl rfl
    · exact quiet.continuous on c there

/-- The policies, the governor and hotplug leave the tracker alone. -/
theorem policyStep_same (m : RolloverPolicies.Machine) (e : PolicyEvent) : SameTracker m.world (policyStep m e).world := by
  have plugged : ∀ cpu online, SameTracker m.world (RolloverPolicies.setOnline m.world cpu online) :=
    fun _ _ => ⟨rfl,rfl,SameWindows.refl _,rfl,rfl,id,fun _ => rfl,rfl⟩
  cases e with
  | start policy =>
    simp only [policyStep]
    split <;> exact SameTracker.refl _
  | stop policy =>
    simp only [policyStep]
    split <;> exact SameTracker.refl _
  | assign policy data => exact SameTracker.refl _
  | leave cpu => exact SameTracker.refl _
  | join cpu => exact SameTracker.refl _
  | offline cpu => exact plugged cpu false
  | online cpu => exact plugged cpu true

theorem idleStep_quiet (quiet : Quiet s) {e : IdleEvent} (admitted : Admitted s e) (settled : Settled s e) :
    Quiet (idleStep s e) := by
  cases e with
  | sched e => exact schedStep_quiet quiet admitted settled
  | control value => exact setControl_quiet quiet settled
  | alloc t =>
    rcases allocLseTaskStruct_cases s.world t with same | ⟨_,fresh⟩
    · simpa only [idleStep,same] using quiet
    · simp only [idleStep,fresh]
      refine unmarked_quiet quiet t ?_
      rintro lts stored
      cases stored
      rfl
  | free t => exact unmarked_quiet quiet t (fun _ absent => by cases absent)
  | policy e =>
    obtain ⟨⟨positive,word,requested,latest,started⟩,ticked,constant,bounded,seeded,marks,begun,continuous,cpus⟩ :=
      frame_quiet quiet (policyStep_same ⟨s.world,s.cpufreq⟩ e)
    exact ⟨⟨positive,word,requested,latest,started⟩,ticked,constant,bounded,seeded,marks,begun,continuous,cpus⟩
  | sysctl y =>
    obtain ⟨⟨positive,word,requested,latest,started⟩,ticked,constant,bounded,seeded,marks,begun,continuous,cpus⟩ := quiet
    exact ⟨⟨positive,word,requested,latest,started⟩,ticked,constant,bounded,seeded,marks,begun,continuous,cpus⟩

/-- A CPU whose last complete window was idle contributes nothing. -/
theorem contribution_idle (quiet : Quiet s) (possible : s.world.possible cpu = true) (idle : IdleOwn s cpu) :
    contribution s.world s.sysctl cpu = 0 := by
  have sum : (s.world.lrq cpu).prevRunnableSum = 0 := (quiet.cpus cpu possible).prev idle
  unfold contribution
  split_ifs
  · simp [utilOf,sum,u64]
  · exact sum

theorem unloaded_of_settled (quiet : Quiet s) {e : IdleEvent} (admitted : Admitted s e) (settled : Settled s e) :
    Unloaded s e := by
  rcases e with e | value | t | t | e | y
  case sched =>
    rcases e with ⟨cpu,next,clock⟩ | ⟨cpu,clock⟩ | clock | ⟨timer,cpu,clock⟩ | ⟨cpu,clock⟩ | ⟨t,p⟩ | ⟨cpu,f⟩ | w
    case irqWork =>
      have inTime := inTime_of_settled admitted settled (cpu,lseSchedClock s.world clock) rfl
      have work : Quiet (atIrqWork s cpu clock) := call_quiet quiet inTime _ .taskUpdate (Or.inr rfl)
      intro hooked cluster listed flagged c online possible idle
      exact contribution_idle work possible (settled.2 hooked cluster listed flagged c online possible idle)
    all_goals trivial
  all_goals trivial

end

/-- The state before the seeding tick, with one window size and nothing accounted. -/
structure QuietStart (w : World) : Prop extends WindowChange.Seedable w where
  constant : w.track.newRavgWindow = w.track.ravgWindow
  marks : ∀ t, mark w t = 0
  sums : ∀ cpu, (w.lrq cpu).prevRunnableSum = 0 ∧ (w.lrq cpu).currRunnableSum = 0

theorem boot_quietStart (nrCpuIds : ℕ) (task : ℕ → TaskStruct) : QuietStart (World.boot nrCpuIds task) :=
  ⟨WindowChange.boot_seedable nrCpuIds task,rfl,fun _ => rfl,fun _ => ⟨rfl,rfl⟩⟩

/-- The seeded machine: the current tasks are current from here on. -/
def watched (w : World) (clock : ℕ) (c : Cpufreq) (y : GovSysctl) : Watched :=
  ⟨lseSchedulerTick w clock,clock,fun _ => clock,[],c,y⟩

theorem watched_quiet {w : World} (start : QuietStart w) {clock : ℕ} (late : 20000 < clock)
    (small : clock < 18446744073709551616) (c : Cpufreq) (y : GovSysctl) : Quiet (watched w clock c y) := by
  have behind := (WindowChange.lseSchedulerTick_behind start.toSeedable late.le small).1
  have ticked := WindowChange.lseSchedulerTick_ticked start.toSeedable late small
  have frame := Rollover.lseSchedulerTick_frame w clock
  have marks : ∀ t, mark (lseSchedulerTick w clock) t = 0 :=
    fun t => (WindowChange.lseSchedulerTick_mark w clock t).trans (start.marks t)
  refine ⟨behind,ticked,frame.requested.trans (start.constant.trans frame.size.symm),?_,?_,fun t => (marks t).le.trans (Nat.zero_le _),
    fun _ => le_rfl,fun _ _ _ => Or.inl (marks _),?_⟩
  · exact WindowChange.lseSchedulerTick_bounded start.toSeedable clock
  · exact WindowChange.lseSchedulerTick_seeded start.toSeedable late small
  · intro cpu _
    show QuietCpu _ _ ((lseSchedulerTick w clock).lrq cpu)
    obtain ⟨prev,curr⟩ := start.sums cpu
    have clocks := (start.lrq cpu).2
    rw [frame.lrq cpu]
    exact ⟨clocks.le.trans (Nat.zero_le _),fun _ => curr,fun _ => prev⟩

/-- After every run from the seeding tick, a CPU that was idle through the window that
    ends at a rollover contributes nothing to its cluster's load, when rollovers find such
    CPUs idle through their own last window too. -/
theorem idle_contributes_nothing (w : World) (start : QuietStart w) (clock : ℕ) (late : 20000 < clock)
    (small : clock < 18446744073709551616) (c : Cpufreq) (y : GovSysctl) (run : List IdleEvent)
    (admitted : Along idleStep Admitted (watched w clock c y) run)
    (settled : Along idleStep Settled (watched w clock c y) run) : Along idleStep Unloaded (watched w clock c y) run := by
  have both : Along idleStep (fun s e => Admitted s e ∧ Settled s e) (watched w clock c y) run :=
    along_and.mpr ⟨admitted,settled⟩
  refine along_invariant Quiet ?_ ?_ (watched_quiet start late small c y) both
  · exact fun s e quiet ok => idleStep_quiet quiet ok.1 ok.2
  · exact fun s e quiet ok => unloaded_of_settled quiet ok.1 ok.2

/-- Two CPUs with seeded windows, in one cluster and one policy. -/
def twoCpus : Watched :=
  watched (World.boot 2 (Occupancy.idleBelow 2)) 1020000 RolloverPolicies.onePolicy.cpufreq govSysctlDefaults

/-- The governor is started; CPU 1 runs task 2 into its second window and is idle from
    then on, while CPU 0 goes through two more windows. -/
def leftIdle : List IdleEvent :=
  [.policy (.start 0),.sched (.schedule 1 2 1200000),.sched (.tickEntry 0 9500000),.sched (.irqWork 0 9600000),
    .sched (.schedule 1 1 10000000),.sched (.tickEntry 0 17100000),.sched (.irqWork 0 17200000),
    .sched (.tickEntry 0 25100000)]

/-- The rollover at 25 ms counts CPU 1 with the load that it had up to 9 ms. -/
theorem idle_still_loaded :
    QuietStart (World.boot 2 (Occupancy.idleBelow 2)) ∧
      Along idleStep Admitted twoCpus (leftIdle ++ [.sched (.irqWork 0 25200000)]) ∧
      ¬ Along idleStep Unloaded twoCpus (leftIdle ++ [.sched (.irqWork 0 25200000)]) := by
  refine ⟨boot_quietStart 2 _,by decide +kernel,?_⟩
  rintro ⟨_,_,_,_,_,_,_,_,unloaded,_⟩
  have nothing := unloaded (by decide +kernel) ⟨0,fun cpu => cpu < 2⟩ (List.mem_singleton.mpr rfl) (by decide +kernel) 1
    (by decide +kernel) (by decide +kernel) (by decide +kernel)
  exact absurd nothing (by decide +kernel)

/-- When CPU 1 has had a tick after the boundary, its old load is gone. -/
theorem idle_contributes_nothing_ticked :
    Along idleStep Unloaded twoCpus (leftIdle ++ [.sched (.tickEntry 1 25150000),.sched (.irqWork 0 25200000)]) :=
  idle_contributes_nothing _ (boot_quietStart 2 _) 1020000 (by decide) (by decide) _ _ _ (by decide +kernel)
    (by decide +kernel)

end LunarSched.IdleLoad
