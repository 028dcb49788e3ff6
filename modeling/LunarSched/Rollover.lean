import LunarSched.Hooks
import LunarSched.Runs

/-!
The rollover token. `lse_run_rollover_lastq_ws` is moved by a compare-and-exchange
that expects the old window start of the CPU being updated. CPUs are updated lazily
and skip windows on their own, so the CPU that first crosses into a new window may
come from another window than the token; then the exchange fails and the rollover
`irq_work` is not queued. Along a run of updates no rollover is lost exactly when
every CPU that crosses into a new window comes from the window of the token
(`rollover_kept_iff`).
-/
namespace LunarSched.Rollover
open LunarSched.Machine LunarSched.Kernel LunarSched.UtilTrack LunarSched.Hooks LunarSched.Runs

/-- The machine in a run, with the last wallclock of the run. -/
structure Clocked where
  world : World
  now : ℕ

/-- A call of `lse_update_task_ravg`, with what runs where and how fast at that moment. -/
structure RavgCall where
  t : ℕ
  cpu : ℕ
  event : TaskEvent
  wallclock : ℕ
  rq : ℕ → Rq
  freq : ℕ → FreqView
  task : ℕ → TaskStruct

/-- The machine in which a call is made. -/
def RavgCall.atWorld (c : RavgCall) (w : World) : World := { w with rq := c.rq, freq := c.freq, task := c.task }

def ravgStep (s : Clocked) (c : RavgCall) : Clocked :=
  ⟨updateIfTracked (c.atWorld s.world) c.t c.cpu c.event c.wallclock,c.wallclock⟩

/-- Wallclocks of the run do not go back, and the gap since the CPU's window
    started is shorter than 2³¹ windows. -/
def Admitted (s : Clocked) (c : RavgCall) : Prop :=
  s.now ≤ c.wallclock ∧ c.wallclock < 18446744073709551616 ∧
    ((s.world.lrq c.cpu).windowStart ≠ 0 →
      c.wallclock < (s.world.lrq c.cpu).windowStart + 2147483648 * s.world.track.ravgWindow)

/-- After the call the token is at or past the window of the CPU just updated; when
    the CPU was the first to get there, its rollover is queued. -/
def RolloverKept (s : Clocked) (c : RavgCall) : Prop :=
  let after := ravgStep s c
  (after.world.lrq c.cpu).windowStart ≤ after.world.track.rolloverLastqWs ∧
    (s.world.track.rolloverLastqWs < (after.world.lrq c.cpu).windowStart →
      after.world.track.rollovers = (after.world.lrq c.cpu).windowStart :: s.world.track.rollovers)

instance (s : Clocked) (c : RavgCall) : Decidable (Admitted s c) := inferInstanceAs (Decidable (_ ∧ _ ∧ (_ → _)))
instance (s : Clocked) (c : RavgCall) : Decidable (RolloverKept s c) := inferInstanceAs (Decidable (_ ∧ (_ → _)))

/-- A call that is not skipped and is made a window or more after the token is made
    on a CPU that was last updated in the window of the token. -/
def FromTokenWindow (s : Clocked) (c : RavgCall) : Prop :=
  ∀ lts, s.world.lts c.t = some lts → ¬ Skipped (c.atWorld s.world) lts c.cpu c.wallclock →
    s.world.track.rolloverLastqWs + s.world.track.ravgWindow ≤ c.wallclock →
      (s.world.lrq c.cpu).windowStart = s.world.track.rolloverLastqWs

/-- The state before the tick that seeds the windows. -/
structure Unseeded (w : World) : Prop where
  on : w.track.slimWaltCtrl ≠ 0
  tick : w.track.tickSchedClock = 0
  positive : 0 < w.track.ravgWindow
  word : w.track.ravgWindow < 4294967296
  lrq : ∀ cpu, (w.lrq cpu).windowStart = 0 ∧ (w.lrq cpu).latestClock = 0

/-- The seeded machine at the clock of the tick that seeded it. -/
def seeded (w : World) (clock : ℕ) : Clocked := ⟨lseSchedulerTick w clock,clock⟩

/-- Token and seeded windows are on one grid, and no window is past the token. -/
structure OnGrid (origin : ℕ) (s : Clocked) : Prop where
  positive : 0 < s.world.track.ravgWindow
  word : s.world.track.ravgWindow < 4294967296
  token : ∃ k, s.world.track.rolloverLastqWs = origin + k * s.world.track.ravgWindow
  windows : ∀ cpu, (s.world.lrq cpu).windowStart = 0 ∨
    ∃ k, (s.world.lrq cpu).windowStart = origin + k * s.world.track.ravgWindow
  behind : ∀ cpu, (s.world.lrq cpu).windowStart ≤ s.world.track.rolloverLastqWs
  latest : ∀ cpu, (s.world.lrq cpu).latestClock ≤ s.now
  reached : s.world.track.rolloverLastqWs ≤ s.now

/-- On one grid, a window that starts less than a window after the token does not
    start after it. -/
theorem grid_le {origin size a b : ℕ} (close : origin + a * size < origin + b * size + size) :
    origin + a * size ≤ origin + b * size := by
  have fewer : a * size < (b + 1) * size := by
    rw [Nat.succ_mul]
    omega
  have counts : a < b + 1 := Nat.lt_of_mul_lt_mul_right fewer
  exact Nat.add_le_add_left (Nat.mul_le_mul_right size (Nat.le_of_lt_succ counts)) origin

/-- What the tick leaves as it was. -/
structure SeedFrame (w v : World) : Prop where
  cpus : v.nrCpuIds = w.nrCpuIds
  possible : v.possible = w.possible
  rq : v.rq = w.rq
  lts : v.lts = w.lts
  freq : v.freq = w.freq
  switch : v.track.slimWaltCtrl = w.track.slimWaltCtrl
  size : v.track.ravgWindow = w.track.ravgWindow
  requested : v.track.newRavgWindow = w.track.newRavgWindow
  lrq : ∀ cpu, v.lrq cpu = { w.lrq cpu with windowStart := (v.lrq cpu).windowStart }

theorem lseSchedulerTick_frame (w : World) (clock : ℕ) : SeedFrame w (lseSchedulerTick w clock) := by
  by_cases ran : w.track.slimWaltCtrl = 0 ∨ w.track.tickSchedClock ≠ 0
  · have same : lseSchedulerTick w clock = w := if_pos ran
    rw [same]
    exact ⟨rfl,rfl,rfl,rfl,rfl,rfl,rfl,rfl,fun _ => rfl⟩
  · obtain ⟨start,seeded⟩ : ∃ start, lseSchedulerTick w clock =
        { w with
          lrq := fun cpu => if w.possible cpu then { w.lrq cpu with windowStart := start } else w.lrq cpu
          track := { w.track with tickSchedClock := start, rolloverLastqWs := start } } := ⟨_,if_neg ran⟩
    rw [seeded]
    refine ⟨rfl,rfl,rfl,rfl,rfl,rfl,rfl,rfl,fun cpu => ?_⟩
    by_cases possible : w.possible cpu = true <;> simp [possible]

/-- The first tick with tracking on seeds the windows and the token. -/
theorem lseSchedulerTick_first {w : World} (on : w.track.slimWaltCtrl ≠ 0) (first : w.track.tickSchedClock = 0)
    {clock : ℕ} (late : 20000 ≤ clock) (small : clock < 18446744073709551616) :
    (lseSchedulerTick w clock).track =
        { w.track with tickSchedClock := clock - 20000, rolloverLastqWs := clock - 20000 } ∧
      ∀ cpu, (lseSchedulerTick w clock).lrq cpu =
        if w.possible cpu then { w.lrq cpu with windowStart := clock - 20000 } else w.lrq cpu := by
  have run : ¬ (w.track.slimWaltCtrl = 0 ∨ w.track.tickSchedClock ≠ 0) := by
    simp [on,first]
  rw [lseSchedulerTick,if_neg run,← u64Sub_of_le late small]
  exact ⟨rfl,fun _ => rfl⟩

theorem seeded_onGrid {w : World} (fresh : Unseeded w) {clock : ℕ} (late : 20000 ≤ clock)
    (small : clock < 18446744073709551616) : OnGrid (clock - 20000) (seeded w clock) := by
  obtain ⟨token,lrq⟩ : (seeded w clock).world.track = _ ∧ ∀ cpu, (seeded w clock).world.lrq cpu = _ :=
    lseSchedulerTick_first fresh.on fresh.tick late small
  constructor
  · simpa [token] using fresh.positive
  · simpa [token] using fresh.word
  · exact ⟨0,by simp [token]⟩
  · intro cpu
    rw [lrq cpu]
    split_ifs
    · exact Or.inr ⟨0,by simp⟩
    · exact Or.inl (fresh.lrq cpu).1
  · intro cpu
    rw [lrq cpu,token]
    split_ifs
    · exact le_rfl
    · simp [(fresh.lrq cpu).1]
  · intro cpu
    rw [lrq cpu]
    split_ifs <;> simp [(fresh.lrq cpu).2]
  · simp only [token]
    exact Nat.sub_le clock 20000

section
variable {s : Clocked} {c : RavgCall} {origin : ℕ}

/-- A call on the grid goes forward. -/
theorem forward_of_admitted (grid : OnGrid origin s) (admitted : Admitted s c) {lts : LseTaskStruct}
    (taken : ¬ Skipped (c.atWorld s.world) lts c.cpu c.wallclock) :
    Forward s.world.track.ravgWindow (s.world.lrq c.cpu) c.wallclock := by
  obtain ⟨later,small,gap⟩ := admitted
  have started : (s.world.lrq c.cpu).windowStart ≠ 0 := fun zero => taken (Or.inr (Or.inl zero))
  have behind := grid.behind c.cpu
  have reached := grid.reached
  exact ⟨grid.positive,grid.word,(grid.latest c.cpu).trans later,by omega,small,gap started⟩

/-- A call either leaves windows and token alone, or brings the CPU's window up to
    date and offers the old one to the token. -/
theorem ravgStep_cases (grid : OnGrid origin s) (admitted : Admitted s c) :
    ((∀ lts, s.world.lts c.t = some lts → Skipped (c.atWorld s.world) lts c.cpu c.wallclock) ∧
      (ravgStep s c).world.track = s.world.track ∧ (ravgStep s c).world.lrq = s.world.lrq) ∨
    ((∃ lts, s.world.lts c.t = some lts ∧ ¬ Skipped (c.atWorld s.world) lts c.cpu c.wallclock) ∧
      Forward s.world.track.ravgWindow (s.world.lrq c.cpu) c.wallclock ∧ ∃ lrq bugs,
      lrq.windowStart = (advance s.world.track.ravgWindow (s.world.lrq c.cpu) c.wallclock).windowStart ∧
      lrq.latestClock = c.wallclock ∧ (ravgStep s c).world.lrq = Function.update s.world.lrq c.cpu lrq ∧
      (ravgStep s c).world.track =
        lseWindowRolloverRunOnce { s.world.track with bugs := bugs } (s.world.lrq c.cpu).windowStart lrq) := by
  cases record : s.world.lts c.t with
  | none =>
    refine Or.inl ⟨fun lts present => (by cases present),?_,?_⟩
    · simp [ravgStep,updateIfTracked,RavgCall.atWorld,record]
    · simp [ravgStep,updateIfTracked,RavgCall.atWorld,record]
  | some lts =>
    have call : (ravgStep s c).world = lseUpdateTaskRavg (c.atWorld s.world) lts c.t c.cpu c.event c.wallclock := by
      simp [ravgStep,updateIfTracked,RavgCall.atWorld,record]
    by_cases skipped : Skipped (c.atWorld s.world) lts c.cpu c.wallclock
    · obtain ⟨records,same⟩ := lseUpdateTaskRavg_skipped c.t c.event skipped
      refine Or.inl ⟨fun other present => (by cases present; exact skipped),?_,?_⟩
      · rw [call,same]; rfl
      · rw [call,same]; rfl
    · have forward := forward_of_admitted grid admitted skipped
      let update := ravgUpdate (c.atWorld s.world) (lseRefreshTaskHint s.world.track lts (c.task c.t)) c.t c.cpu c.event
        c.wallclock
      obtain ⟨start,clock,old,_⟩ := ravgUpdate_window (c.atWorld s.world)
        (lseRefreshTaskHint s.world.track lts (c.task c.t)) c.t c.cpu c.event forward
      have taken := lseUpdateTaskRavg_taken c.t c.event skipped
      refine Or.inr ⟨⟨lts,rfl,skipped⟩,forward,update.2.1,update.2.2.2 ++ s.world.track.bugs,start,clock,?_,?_⟩
      · rw [call,taken]; rfl
      · have window : update.2.2.1 = (s.world.lrq c.cpu).windowStart := old
        rw [call,taken,← window]; rfl

/-- The new window of a taken call is on the grid and contains the wallclock. -/
theorem advance_grid (grid : OnGrid origin s) (started : (s.world.lrq c.cpu).windowStart ≠ 0) :
    ∃ k, (advance s.world.track.ravgWindow (s.world.lrq c.cpu) c.wallclock).windowStart =
      origin + k * s.world.track.ravgWindow := by
  obtain ⟨k,onGrid⟩ := (grid.windows c.cpu).resolve_left started
  refine ⟨k + (c.wallclock - (s.world.lrq c.cpu).windowStart) / s.world.track.ravgWindow,?_⟩
  rw [advance_windowStart,onGrid,Nat.add_mul]
  omega

/-- A window on the grid starts after the token exactly when its wallclocks are a window
    or more after the token. -/
theorem past_token_iff (grid : OnGrid origin s) {start wallclock : ℕ}
    (onGrid : ∃ k, start = origin + k * s.world.track.ravgWindow) (inside : start ≤ wallclock)
    (below : wallclock < start + s.world.track.ravgWindow) :
    ¬ start ≤ s.world.track.rolloverLastqWs ↔
      s.world.track.rolloverLastqWs + s.world.track.ravgWindow ≤ wallclock := by
  obtain ⟨k,onGrid⟩ := onGrid
  obtain ⟨m,token⟩ := grid.token
  constructor
  · intro after
    by_contra close
    apply after
    rw [onGrid,token]
    exact grid_le (by omega)
  · omega

/-- On the grid, a call keeps its rollover exactly when it comes from the window of
    the token or does not get past it. -/
theorem rolloverKept_iff (grid : OnGrid origin s) (admitted : Admitted s c) :
    RolloverKept s c ↔ FromTokenWindow s c := by
  have behind := grid.behind c.cpu
  rcases ravgStep_cases grid admitted with ⟨skipped,track,lrq⟩ | ⟨⟨lts,record,taken⟩,forward,lrq,bugs,start,_,lrqs,track⟩
  · have kept : RolloverKept s c := by
      simp only [RolloverKept,track,lrq]
      exact ⟨behind,fun ahead => absurd ahead (by omega)⟩
    exact ⟨fun _ lts record taken => absurd (skipped lts record) taken,fun _ => kept⟩
  · have started : (s.world.lrq c.cpu).windowStart ≠ 0 := fun zero => taken (Or.inr (Or.inl zero))
    obtain ⟨inside,below⟩ := advance_contains forward
    have onGrid := advance_grid grid started
    rw [← start] at inside below onGrid
    have later : (s.world.lrq c.cpu).windowStart ≤ lrq.windowStart := start ▸ le_advance
    have here : (ravgStep s c).world.lrq c.cpu = lrq := by rw [lrqs,Function.update_self]
    have past := past_token_iff grid onGrid inside below
    rcases rollover_cases { s.world.track with bugs := bugs } (s.world.lrq c.cpu).windowStart lrq with
      ⟨moved,holds,ran⟩ | ⟨stays,ran⟩
    · have kept : RolloverKept s c := by
        simp only [RolloverKept,here,track,ran]
        exact ⟨le_rfl,fun _ => trivial⟩
      exact ⟨fun _ _ _ _ _ => holds.symm,fun _ => kept⟩
    · have unmoved : RolloverKept s c ↔ lrq.windowStart ≤ s.world.track.rolloverLastqWs := by
        simp only [RolloverKept,here,track,ran]
        constructor
        · exact fun kept => kept.1
        · exact fun within => ⟨within,fun ahead => absurd within (by omega)⟩
      rw [unmoved]
      constructor
      · intro within _ _ _ ahead
        exact absurd within (past.mpr ahead)
      · intro fromToken
        by_contra ahead
        have at_token := fromToken lts record taken (past.mp ahead)
        rcases stays with same | other
        · omega
        · exact other at_token.symm

/-- The grid is kept by one CPU's step to a later window on it, which the token follows or
    was past already. -/
theorem OnGrid.advances {next : Clocked} (grid : OnGrid origin s) {cpu : ℕ} {lrq : LseRq} {now : ℕ}
    (later : s.now ≤ now) (at_now : next.now = now)
    (size : next.world.track.ravgWindow = s.world.track.ravgWindow)
    (lrqs : next.world.lrq = Function.update s.world.lrq cpu lrq)
    (onGrid : ∃ k, lrq.windowStart = origin + k * s.world.track.ravgWindow) (clock : lrq.latestClock ≤ now)
    (inside : lrq.windowStart ≤ now) (within : lrq.windowStart ≤ next.world.track.rolloverLastqWs)
    (token : next.world.track.rolloverLastqWs = s.world.track.rolloverLastqWs ∨
      (s.world.track.rolloverLastqWs ≤ lrq.windowStart ∧ next.world.track.rolloverLastqWs = lrq.windowStart)) :
    OnGrid origin next := by
  subst at_now
  have here : next.world.lrq cpu = lrq := by rw [lrqs,Function.update_self]
  have there : ∀ other, other ≠ cpu → next.world.lrq other = s.world.lrq other := by
    intro other away
    rw [lrqs,Function.update_of_ne away]
  refine { positive := size ▸ grid.positive
           word := size ▸ grid.word
           token := ?_
           windows := ?_
           behind := ?_
           latest := ?_
           reached := ?_ }
  · rw [size]
    rcases token with same | ⟨_,moved⟩
    · rw [same]; exact grid.token
    · rw [moved]; exact onGrid
  · intro other
    rw [size]
    by_cases same : other = cpu
    · rw [same,here]; exact Or.inr onGrid
    · rw [there other same]; exact grid.windows other
  · intro other
    by_cases same : other = cpu
    · rw [same,here]; exact within
    · rw [there other same]
      have behind := grid.behind other
      rcases token with kept | ⟨past,moved⟩
      · rw [kept]; exact behind
      · rw [moved]; exact behind.trans past
  · intro other
    by_cases same : other = cpu
    · rw [same,here]; exact clock
    · rw [there other same]; exact (grid.latest other).trans later
  · rcases token with same | ⟨_,moved⟩
    · rw [same]; exact grid.reached.trans later
    · rw [moved]; exact inside

/-- A call that keeps its rollover keeps the grid. -/
theorem onGrid_step (grid : OnGrid origin s) (admitted : Admitted s c) (kept : RolloverKept s c) :
    OnGrid origin (ravgStep s c) := by
  have later : s.now ≤ (ravgStep s c).now := admitted.1
  rcases ravgStep_cases grid admitted with ⟨_,track,lrq⟩ | ⟨⟨lts,record,taken⟩,forward,lrq,bugs,start,clock,lrqs,track⟩
  · constructor
    · rw [track]; exact grid.positive
    · rw [track]; exact grid.word
    · rw [track]; exact grid.token
    · rw [track,lrq]; exact grid.windows
    · rw [track,lrq]; exact grid.behind
    · rw [lrq]; exact fun cpu => (grid.latest cpu).trans later
    · rw [track]; exact grid.reached.trans later
  · have started : (s.world.lrq c.cpu).windowStart ≠ 0 := fun zero => taken (Or.inr (Or.inl zero))
    have inside := (advance_contains forward).1
    have onGrid := advance_grid grid started
    rw [← start] at inside onGrid
    have here : (ravgStep s c).world.lrq c.cpu = lrq := by rw [lrqs,Function.update_self]
    obtain ⟨size,token⟩ := rollover_token { s.world.track with bugs := bugs } (s.world.lrq c.cpu).windowStart lrq
    rw [← track] at size token
    change (ravgStep s c).world.track.ravgWindow = s.world.track.ravgWindow at size
    change _ = s.world.track.rolloverLastqWs ∨ (s.world.track.rolloverLastqWs = _ ∧ _) at token
    have onward : (s.world.lrq c.cpu).windowStart ≤ lrq.windowStart := start ▸ le_advance
    exact grid.advances later rfl size lrqs onGrid clock.le inside (here ▸ kept.1)
      (token.imp id (fun ⟨held,moved⟩ => ⟨held.le.trans onward,moved⟩))

end

/-! ### Runs -/

/-- Along every run from the seeding tick, every call keeps its rollover exactly
    when every call that gets past the token comes from the token's window. -/
theorem rollover_kept_iff (w : World) (fresh : Unseeded w) (clock : ℕ) (late : 20000 ≤ clock)
    (small : clock < 18446744073709551616) (calls : List RavgCall)
    (admitted : Along ravgStep Admitted (seeded w clock) calls) :
    Along ravgStep RolloverKept (seeded w clock) calls ↔ Along ravgStep FromTokenWindow (seeded w clock) calls :=
  along_iff (OnGrid (clock - 20000)) (fun _ _ grid ok => rolloverKept_iff grid ok)
    (fun _ _ grid ok kept => onGrid_step grid ok kept) (seeded_onGrid fresh late small) admitted

/-- An update of the task that has the number of its CPU, with nothing else running. -/
def idleCall (cpu wallclock : ℕ) : RavgCall :=
  ⟨cpu,cpu,.taskUpdate,wallclock,fun cpu => ⟨cpu,cpu⟩,fun _ => ⟨1,1,1024⟩,fun _ => plainTask⟩

theorem boot_unseeded (nrCpuIds : ℕ) (task : ℕ → TaskStruct) : Unseeded (World.boot nrCpuIds task) := by
  constructor <;> simp [World.boot]

/-- CPU 0 takes the token to 9 ms. CPU 1, still in the first window, is the first to
    be updated after 17 ms: its rollover is lost. -/
theorem rollover_lost :
    Unseeded (World.boot 2 (fun _ => plainTask)) ∧
      Along ravgStep Admitted (seeded (World.boot 2 (fun _ => plainTask)) 1020000)
        [idleCall 0 9000000,idleCall 1 17500000] ∧
      ¬ Along ravgStep RolloverKept (seeded (World.boot 2 (fun _ => plainTask)) 1020000)
        [idleCall 0 9000000,idleCall 1 17500000] :=
  ⟨boot_unseeded _ _,by decide +kernel,by decide +kernel⟩

/-- When CPU 1 follows CPU 0 into its window first, both rollovers are kept. -/
theorem rollover_kept_in_turn :
    Along ravgStep RolloverKept (seeded (World.boot 2 (fun _ => plainTask)) 1020000)
        [idleCall 0 9000000,idleCall 1 9500000,idleCall 1 17500000] ↔
      Along ravgStep FromTokenWindow (seeded (World.boot 2 (fun _ => plainTask)) 1020000)
        [idleCall 0 9000000,idleCall 1 9500000,idleCall 1 17500000] :=
  rollover_kept_iff _ (boot_unseeded _ _) 1020000 (by decide) (by decide) _ (by decide +kernel)

end LunarSched.Rollover
