import LunarSched.Accounts
import LunarSched.Rollover
import Mathlib.Data.Nat.ModEq

/-!
Changes of the window size. `sched_ravg_window_change` requests a size, and the
rollover `irq_work` puts it in force when the CPU it runs on is not yet past the end
that its window has under the new size. The other CPUs are not looked at: each goes
on from its own last boundary in steps of the new size. CPUs that were on one grid
stay on one grid when every commit finds their window starts congruent modulo the
new size (`windows_on_one_grid`); after a commit that is the only way for them to be
(`one_grid_iff`).
-/
namespace LunarSched.WindowChange
open LunarSched.Machine LunarSched.Kernel LunarSched.UtilTrack LunarSched.Hooks LunarSched.Accounts LunarSched.Rollover
open LunarSched.Runs

/-- `sched_ravg_window_change`: `NSEC_PER_SEC` over the frame rate, as an `unsigned int`. -/
def schedRavgWindowChange (w : World) (framePerSec : ℤ) : World :=
  { w with track := { w.track with newRavgWindow := u32OfInt (Int.tdiv 1000000000 framePerSec) } }

/-- The condition under which `lse_irq_work` puts the requested size in force. -/
def Commits (w : World) (cpu wallclock : ℕ) : Prop :=
  w.track.newRavgWindow ≠ w.track.ravgWindow ∧ wallclock < u64 ((w.lrq cpu).windowStart + w.track.newRavgWindow)

instance (w : World) (cpu wallclock : ℕ) : Decidable (Commits w cpu wallclock) := inferInstanceAs (Decidable (_ ∧ _))

/-- Calls of the tracker, rollover interrupts and requests, and in `around` what runs
    where and how fast, taken from another state. -/
inductive WindowEvent where
  | ravg (t cpu : ℕ) (event : TaskEvent) (wallclock : ℕ)
  | irqWork (cpu clock : ℕ)
  | request (framePerSec : ℤ)
  | around (e : World)

def WindowEvent.run (w : World) : WindowEvent → World
  | .ravg t cpu event wallclock => updateIfTracked w t cpu event wallclock
  | .irqWork cpu clock => lseIrqWork w cpu clock
  | .request framePerSec => schedRavgWindowChange w framePerSec
  | .around e => { w with rq := e.rq, freq := e.freq, task := e.task }

/-- The CPU on which an event reaches the tracker, and the wallclock there. -/
def WindowEvent.observed (w : World) : WindowEvent → Option (ℕ × ℕ)
  | .ravg _ cpu _ wallclock => some (cpu,wallclock)
  | .irqWork cpu clock => some (cpu,lseSchedClock w clock)
  | .request _ | .around _ => none

/-- The state in which `lse_irq_work` decides about a commit: the current task of its
    CPU has been updated. -/
def beforeCommit (w : World) (cpu clock : ℕ) : World :=
  updateIfTracked w (w.rq cpu).curr cpu .taskUpdate (lseSchedClock w clock)

/-- The request of a positive frame rate is exact in 32 bits. -/
theorem schedRavgWindowChange_rate (w : World) (frames : ℕ) :
    (schedRavgWindowChange w (frames : ℤ)).track.newRavgWindow = 1000000000 / frames := by
  have quotient : Int.tdiv 1000000000 (frames : ℤ) = ((1000000000 / frames : ℕ) : ℤ) := rfl
  have small : 1000000000 / frames < 4294967296 := (Nat.div_le_self _ _).trans_lt (by decide)
  simp only [schedRavgWindowChange,quotient,u32OfInt_natCast small]

theorem lseIrqWork_cases (w : World) (cpu clock : ℕ) :
    (¬ Commits (beforeCommit w cpu clock) cpu (lseSchedClock w clock) ∧ lseIrqWork w cpu clock = beforeCommit w cpu clock) ∨
    (Commits (beforeCommit w cpu clock) cpu (lseSchedClock w clock) ∧
      lseIrqWork w cpu clock = { beforeCommit w cpu clock with
        track := { (beforeCommit w cpu clock).track with ravgWindow := (beforeCommit w cpu clock).track.newRavgWindow } }) := by
  by_cases commits : Commits (beforeCommit w cpu clock) cpu (lseSchedClock w clock)
  · exact Or.inr ⟨commits,if_pos commits⟩
  · exact Or.inl ⟨commits,if_neg commits⟩

/-- The clock does not go back, and is fewer than 2³¹ windows past the window of the
    CPU, if it has one. -/
def Timely (w : World) (now cpu wallclock : ℕ) : Prop :=
  now ≤ wallclock ∧ wallclock < 18446744073709551616 ∧
    ((w.lrq cpu).windowStart ≠ 0 → wallclock < (w.lrq cpu).windowStart + 2147483648 * w.track.ravgWindow)

instance (w : World) (now cpu wallclock : ℕ) : Decidable (Timely w now cpu wallclock) :=
  inferInstanceAs (Decidable (_ ∧ _ ∧ (_ → _)))

/-- The window sizes are positive words, and no CPU is ahead of the run. -/
structure Behind (w : World) (now : ℕ) : Prop where
  positive : 0 < w.track.ravgWindow
  word : w.track.ravgWindow < 4294967296
  requested : 0 < w.track.newRavgWindow ∧ w.track.newRavgWindow < 4294967296
  latest : ∀ cpu, (w.lrq cpu).latestClock ≤ now
  started : ∀ cpu, (w.lrq cpu).windowStart ≤ now

/-- A call without a step back either leaves the CPU's record alone or brings its
    window up to the wallclock; everything else of the windows stays as it is. -/
structure Called (w v : World) (cpu wallclock : ℕ) : Prop where
  cpus : v.nrCpuIds = w.nrCpuIds
  possible : v.possible = w.possible
  windows : SameWindows w.track v.track
  others : ∀ other, other ≠ cpu → v.lrq other = w.lrq other
  here : v.lrq cpu = w.lrq cpu ∨ ((w.lrq cpu).windowStart ≠ 0 ∧ (v.lrq cpu).latestClock = wallclock ∧
    (v.lrq cpu).windowStart = (advance w.track.ravgWindow (w.lrq cpu) wallclock).windowStart)

section
variable {w v : World} {now cpu wallclock : ℕ}

theorem Behind.same (behind : Behind w now) (same : SameTracker w v) : Behind v now := by
  obtain ⟨_,_,⟨_,size,requested,_⟩,_,lrq,_,_,_⟩ := same
  exact ⟨size ▸ behind.positive,size ▸ behind.word,requested ▸ behind.requested,lrq ▸ behind.latest,lrq ▸ behind.started⟩

theorem updateIfTracked_cases (w : World) (t cpu : ℕ) (event : TaskEvent) (wallclock : ℕ) :
    updateIfTracked w t cpu event wallclock = w ∨ ∃ lts, w.lts t = some lts ∧ w.track.slimWaltCtrl ≠ 0 ∧
      Effect w (updateIfTracked w t cpu event wallclock) t cpu (accountOf (records w lts t cpu event wallclock).1)
        (records w lts t cpu event wallclock).2 := by
  rcases updateIfTracked_outcome w t cpu event wallclock with same | ⟨lts,_,_,present,on,_⟩
  · exact Or.inl same
  · exact Or.inr ⟨lts,present,on,updateIfTracked_effect event cpu wallclock on present⟩

/-- A call leaves what runs where and how fast alone, and no task gets or loses a record. -/
theorem updateIfTracked_around (w : World) (t cpu : ℕ) (event : TaskEvent) (wallclock : ℕ) :
    (updateIfTracked w t cpu event wallclock).rq = w.rq ∧ (updateIfTracked w t cpu event wallclock).freq = w.freq ∧
      (updateIfTracked w t cpu event wallclock).task = w.task ∧
      ∀ u, ((updateIfTracked w t cpu event wallclock).lts u).isSome = (w.lts u).isSome := by
  rcases updateIfTracked_cases w t cpu event wallclock with same | ⟨lts,present,_,effect⟩
  · rw [same]
    exact ⟨rfl,rfl,rfl,fun _ => rfl⟩
  · refine ⟨effect.rq,effect.freq,effect.task,fun u => ?_⟩
    have accounts := congrArg Option.isSome (congrFun effect.accounts u)
    by_cases here : u = t
    · subst here
      simpa [account,present] using accounts
    · simpa [account,here] using accounts

/-- A call changes of the tracker at most the rollover token and the reports. -/
theorem updateIfTracked_track (w : World) (t cpu : ℕ) (event : TaskEvent) (wallclock : ℕ) :
    ∃ lastq rollovers bugs, (updateIfTracked w t cpu event wallclock).track =
      { w.track with rolloverLastqWs := lastq, rollovers := rollovers, bugs := bugs } := by
  rcases updateIfTracked_outcome w t cpu event wallclock with same | ⟨_,lastq,rollovers,_,_,stored⟩
  · exact ⟨w.track.rolloverLastqWs,w.track.rollovers,w.track.bugs,by rw [same]⟩
  · exact ⟨lastq,rollovers,_,by rw [stored]⟩

theorem forward_of_behind (behind : Behind w now) (timely : Timely w now cpu wallclock)
    (seeded : (w.lrq cpu).windowStart ≠ 0) : Forward w.track.ravgWindow (w.lrq cpu) wallclock := by
  obtain ⟨later,small,gap⟩ := timely
  exact ⟨behind.positive,behind.word,(behind.latest cpu).trans later,(behind.started cpu).trans later,small,gap seeded⟩

/-- With tracking on and a record, a call on a CPU with a window is skipped only at the mark. -/
theorem skipped_marked (seeded : (w.lrq cpu).windowStart ≠ 0) (on : w.track.slimWaltCtrl ≠ 0)
    {lts : LseTaskStruct} (skipped : Skipped w lts cpu wallclock) : lts.markStart = wallclock := by
  rcases skipped with off | unseeded | same
  · exact absurd off on
  · exact absurd unseeded seeded
  · exact same

/-- What a call does on a CPU with a window. When tracking is off, without a record and at
    the task's mark it leaves marks and windows alone; otherwise it sets the mark and stores
    the CPU's record, rolled over and charged with the time since the mark, if there was one. -/
theorem call_outcome (behind : Behind w now) (seeded : (w.lrq cpu).windowStart ≠ 0)
    (timely : w.track.slimWaltCtrl ≠ 0 → Timely w now cpu wallclock) (t : ℕ) (event : TaskEvent) :
    let v := updateIfTracked w t cpu event wallclock
    ((w.track.slimWaltCtrl = 0 ∨ w.lts t = none ∨ mark w t = wallclock) ∧ v.lrq = w.lrq ∧ ∀ u, mark v u = mark w u) ∨
    (w.track.slimWaltCtrl ≠ 0 ∧ (w.lts t).isSome = true ∧ mark w t ≠ wallclock ∧
      Forward w.track.ravgWindow (w.lrq cpu) wallclock ∧ (∀ u, mark v u = if u = t then wallclock else mark w u) ∧
      ∃ lrq, v.lrq = Function.update w.lrq cpu lrq ∧
      (lrq = advance w.track.ravgWindow (w.lrq cpu) wallclock ∨ (mark w t ≠ 0 ∧
        lrq = updateCpuBusyTime (updateTaskRqCpuCycles (w.freq cpu) (advance w.track.ravgWindow (w.lrq cpu) wallclock))
          (w.task t) (mark w t) event wallclock))) := by
  intro v
  cases present : w.lts t with
  | none =>
    have same : v = w := updateIfTracked_absent event cpu wallclock (Or.inr present)
    rw [same]
    exact Or.inl ⟨Or.inr (Or.inl rfl),rfl,fun _ => rfl⟩
  | some lts =>
    by_cases off : w.track.slimWaltCtrl = 0
    · have same : v = w := updateIfTracked_absent event cpu wallclock (Or.inl off)
      rw [same]
      exact Or.inl ⟨Or.inl off,rfl,fun _ => rfl⟩
    · have marked := mark_of_lts present
      have effect := updateIfTracked_effect event cpu wallclock off present
      have marks : ∀ u, mark v u = if u = t then (records w lts t cpu event wallclock).1.markStart else mark w u :=
        effect.mark_eq
      by_cases skipped : Skipped w lts cpu wallclock
      · obtain ⟨accounts,lrq⟩ := records_skipped (t := t) event skipped
        have kept : (records w lts t cpu event wallclock).1.markStart = mark w t :=
          (congrArg Account.mark accounts).trans marked.symm
        refine Or.inl ⟨Or.inr (Or.inr (marked.trans (skipped_marked seeded off skipped))),?_,?_⟩
        · rw [effect.lrq,lrq,Function.update_eq_self]
        · intro u
          rw [marks,kept]
          split_ifs with here
          · rw [here]
          · rfl
      · have forward := forward_of_behind behind (timely off) seeded
        obtain ⟨stored,_,_⟩ := records_taken (t := t) event skipped forward
        have other : lts.markStart ≠ wallclock := fun same => skipped (Or.inr (Or.inr same))
        refine Or.inr ⟨off,rfl,marked ▸ other,forward,?_,_,effect.lrq,?_⟩
        · intro u
          rw [marks,stored]
        · by_cases first : lts.markStart = 0
          · exact Or.inl (records_first event skipped forward first).2
          · refine Or.inr ⟨marked ▸ first,?_⟩
            rw [marked]
            exact (records_accounted event skipped forward first).2

theorem updateIfTracked_called (behind : Behind w now) (timely : Timely w now cpu wallclock) (t : ℕ)
    (event : TaskEvent) : Called w (updateIfTracked w t cpu event wallclock) cpu wallclock := by
  rcases updateIfTracked_cases w t cpu event wallclock with same | ⟨lts,_,_,effect⟩
  · rw [same]
    exact ⟨rfl,rfl,SameWindows.refl _,fun _ _ => rfl,Or.inl rfl⟩
  · refine ⟨effect.cpus,effect.possible,effect.windows,?_,?_⟩
    · intro other away
      rw [effect.lrq,Function.update_of_ne away]
    · rw [effect.lrq,Function.update_self]
      by_cases skipped : Skipped w lts cpu wallclock
      · exact Or.inl (records_skipped event skipped).2
      · have seeded : (w.lrq cpu).windowStart ≠ 0 := fun zero => skipped (Or.inr (Or.inl zero))
        obtain ⟨_,clock,window⟩ := records_taken (t := t) event skipped (forward_of_behind behind timely seeded)
        exact Or.inr ⟨seeded,clock,window⟩

theorem called_behind (behind : Behind w now) (timely : Timely w now cpu wallclock) (called : Called w v cpu wallclock) :
    Behind v wallclock := by
  obtain ⟨_,_,⟨_,size,requested,_⟩,others,here⟩ := called
  have reached : ∀ other, (v.lrq other).latestClock ≤ wallclock ∧ (v.lrq other).windowStart ≤ wallclock := by
    intro other
    have latest := (behind.latest other).trans timely.1
    have started := (behind.started other).trans timely.1
    by_cases same : other = cpu
    · subst same
      rcases here with kept | ⟨seeded,clock,window⟩
      · rw [kept]
        exact ⟨latest,started⟩
      · rw [clock,window]
        exact ⟨le_rfl,(advance_contains (forward_of_behind behind timely seeded)).1⟩
    · rw [others other same]
      exact ⟨latest,started⟩
  exact ⟨size ▸ behind.positive,size ▸ behind.word,requested ▸ behind.requested,fun other => (reached other).1,
    fun other => (reached other).2⟩

/-- Another call at the same wallclock comes in time as well. -/
theorem called_timely (behind : Behind w now) (timely : Timely w now cpu wallclock) (called : Called w v cpu wallclock) :
    Timely v wallclock cpu wallclock := by
  refine ⟨le_rfl,timely.2.1,?_⟩
  rw [called.windows.size]
  rcases called.here with kept | ⟨seeded,_,window⟩
  · rw [kept]
    exact timely.2.2
  · rw [window]
    have inside := (advance_contains (forward_of_behind behind timely seeded)).2
    have positive := behind.positive
    intro _
    omega

/-- A call moves a CPU's window by whole windows. -/
theorem called_grid (called : Called w v cpu wallclock) (other : ℕ) :
    (v.lrq other).windowStart ≡ (w.lrq other).windowStart [MOD w.track.ravgWindow] ∧
      (w.lrq other).windowStart ≤ (v.lrq other).windowStart ∧
      ((w.lrq other).windowStart = 0 → (v.lrq other).windowStart = 0) := by
  by_cases same : other = cpu
  · subst same
    rcases called.here with kept | ⟨seeded,_,window⟩
    · rw [kept]
      exact ⟨Nat.ModEq.refl _,le_rfl,id⟩
    · refine ⟨?_,window ▸ le_advance,fun zero => absurd zero seeded⟩
      rw [window,advance_windowStart]
      exact Nat.add_mul_mod_self_right _ _ _
  · rw [called.others other same]
    exact ⟨Nat.ModEq.refl _,le_rfl,id⟩

theorem Called.known (called : Called w v cpu wallclock) {other : ℕ} (there : v.possible other = true) :
    w.possible other = true := (congrFun called.possible other).symm.trans there

theorem Called.bounded (called : Called w v cpu wallclock) (bounded : ∀ other, w.possible other = true → other < w.nrCpuIds)
    (other : ℕ) (there : v.possible other = true) : other < v.nrCpuIds := called.cpus ▸ bounded other (called.known there)

/-- CPUs with a window keep one. -/
theorem Called.seeded (called : Called w v cpu wallclock)
    (seeded : ∀ other, w.possible other = true → (w.lrq other).windowStart ≠ 0) (other : ℕ)
    (there : v.possible other = true) : (v.lrq other).windowStart ≠ 0 := by
  intro zero
  exact seeded other (called.known there) (Nat.le_zero.mp ((called_grid called other).2.1.trans zero.le))

end

/-! ### One grid -/

/-- The machine in a run, with the last wallclock of the run and the CPUs whose window
    moved since the size last changed. -/
structure Gridded where
  world : World
  now : ℕ
  moved : ℕ → Bool

def gridStep (s : Gridded) (e : WindowEvent) : Gridded where
  world := e.run s.world
  now := ((e.observed s.world).map Prod.snd).getD s.now
  moved := fun cpu => decide ((e.run s.world).track.ravgWindow = s.world.track.ravgWindow) &&
    (s.moved cpu || decide (((e.run s.world).lrq cpu).windowStart ≠ (s.world.lrq cpu).windowStart))

/-- Events come in time, and the sizes that are requested are positive. -/
def Admitted (s : Gridded) (e : WindowEvent) : Prop :=
  (∀ place ∈ e.observed s.world, Timely s.world s.now place.1 place.2) ∧
    match e with
    | .request framePerSec => 0 < (schedRavgWindowChange s.world framePerSec).track.newRavgWindow
    | _ => True

instance (s : Gridded) : (e : WindowEvent) → Decidable (Admitted s e)
  | .request _ => inferInstanceAs (Decidable (_ ∧ 0 < _))
  | .ravg .. | .irqWork .. | .around _ => inferInstanceAs (Decidable (_ ∧ True))

/-- CPUs whose window moved since the last commit are on one grid of the size in force. -/
def OneGrid (s : Gridded) : Prop :=
  ∀ a b, s.moved a = true → s.moved b = true →
    (s.world.lrq a).windowStart ≡ (s.world.lrq b).windowStart [MOD s.world.track.ravgWindow]

/-- The windows of all possible CPUs start at instants that are congruent modulo the size. -/
def Congruent (w : World) (size : ℕ) : Prop :=
  ∀ a < w.nrCpuIds, ∀ b < w.nrCpuIds, w.possible a = true → w.possible b = true →
    (w.lrq a).windowStart ≡ (w.lrq b).windowStart [MOD size]

instance (w : World) (size : ℕ) : Decidable (Congruent w size) :=
  inferInstanceAs (Decidable (∀ a < w.nrCpuIds, ∀ b < w.nrCpuIds, _ → _ → _ % _ = _ % _))

/-- A commit finds the windows of all CPUs congruent modulo the size it puts in force. -/
def CommitsCongruent (s : Gridded) (e : WindowEvent) : Prop :=
  match e with
  | .irqWork cpu clock =>
    Commits (beforeCommit s.world cpu clock) cpu (lseSchedClock s.world clock) →
      Congruent (beforeCommit s.world cpu clock) s.world.track.newRavgWindow
  | _ => True

instance (s : Gridded) : (e : WindowEvent) → Decidable (CommitsCongruent s e)
  | .irqWork .. => inferInstanceAs (Decidable (_ → _))
  | .ravg .. | .request _ | .around _ => isTrue trivial

/-- The state before the tick that seeds the windows, perhaps with a request pending. -/
structure Seedable (w : World) : Prop extends Unseeded w where
  requested : 0 < w.track.newRavgWindow ∧ w.track.newRavgWindow < 4294967296
  bounded : ∀ cpu, w.possible cpu = true → cpu < w.nrCpuIds

/-- The seeded machine: no window has moved. -/
def gridStart (w : World) (clock : ℕ) : Gridded := ⟨lseSchedulerTick w clock,clock,fun _ => false⟩

/-- All seeded windows are on one grid. -/
structure Aligned (w : World) (now : ℕ) : Prop extends Behind w now where
  bounded : ∀ cpu, w.possible cpu = true → cpu < w.nrCpuIds
  seeded : ∀ cpu, (w.lrq cpu).windowStart ≠ 0 → w.possible cpu = true
  grid : ∀ a b, (w.lrq a).windowStart ≠ 0 → (w.lrq b).windowStart ≠ 0 →
    (w.lrq a).windowStart ≡ (w.lrq b).windowStart [MOD w.track.ravgWindow]

theorem lseSchedulerTick_behind {w : World} (ready : Seedable w) {clock : ℕ} (late : 20000 ≤ clock)
    (small : clock < 18446744073709551616) :
    Behind (lseSchedulerTick w clock) clock ∧ (lseSchedulerTick w clock).nrCpuIds = w.nrCpuIds ∧
      (lseSchedulerTick w clock).possible = w.possible ∧
      ∀ cpu, ((lseSchedulerTick w clock).lrq cpu).windowStart = if w.possible cpu then clock - 20000 else 0 := by
  have onGrid := seeded_onGrid ready.toUnseeded late small
  have frame := lseSchedulerTick_frame w clock
  refine ⟨⟨onGrid.positive,onGrid.word,frame.requested ▸ ready.requested,onGrid.latest,?_⟩,frame.cpus,frame.possible,?_⟩
  · exact fun cpu => (onGrid.behind cpu).trans onGrid.reached
  · intro cpu
    rw [(lseSchedulerTick_first ready.on ready.tick late small).2]
    split_ifs
    · rfl
    · exact (ready.lrq cpu).1

theorem lseSchedulerTick_ticked {w : World} (ready : Seedable w) {clock : ℕ} (late : 20000 < clock)
    (small : clock < 18446744073709551616) : (lseSchedulerTick w clock).track.tickSchedClock ≠ 0 := by
  rw [(lseSchedulerTick_first ready.on ready.tick late.le small).1]
  exact (Nat.sub_pos_of_lt late).ne'

theorem lseSchedulerTick_bounded {w : World} (ready : Seedable w) (clock : ℕ) :
    ∀ cpu, (lseSchedulerTick w clock).possible cpu = true → cpu < (lseSchedulerTick w clock).nrCpuIds := by
  have frame := lseSchedulerTick_frame w clock
  rw [frame.possible,frame.cpus]
  exact ready.bounded

/-- The tick seeds the window of every CPU. -/
theorem lseSchedulerTick_seeded {w : World} (ready : Seedable w) {clock : ℕ} (late : 20000 < clock)
    (small : clock < 18446744073709551616) :
    ∀ cpu, (lseSchedulerTick w clock).possible cpu = true → ((lseSchedulerTick w clock).lrq cpu).windowStart ≠ 0 := by
  obtain ⟨_,_,possible,windows⟩ := lseSchedulerTick_behind ready late.le small
  intro cpu known
  rw [windows,if_pos ((congrFun possible cpu).symm.trans known)]
  exact (Nat.sub_pos_of_lt late).ne'

/-- The tick leaves the marks of all tasks alone. -/
theorem lseSchedulerTick_mark (w : World) (clock t : ℕ) : mark (lseSchedulerTick w clock) t = mark w t := by
  simp only [mark,account,(lseSchedulerTick_frame w clock).lts]

theorem gridStart_aligned {w : World} (ready : Seedable w) {clock : ℕ} (late : 20000 ≤ clock)
    (small : clock < 18446744073709551616) : Aligned (lseSchedulerTick w clock) clock := by
  obtain ⟨behind,_,possible,windows⟩ := lseSchedulerTick_behind ready late small
  have seeded : ∀ cpu, ((lseSchedulerTick w clock).lrq cpu).windowStart ≠ 0 →
      w.possible cpu = true ∧ ((lseSchedulerTick w clock).lrq cpu).windowStart = clock - 20000 := by
    intro cpu
    rw [windows]
    split_ifs with known
    · exact fun _ => ⟨known,rfl⟩
    · exact fun none => absurd rfl none
  refine ⟨behind,lseSchedulerTick_bounded ready clock,?_,?_⟩
  · rw [possible]
    exact fun cpu set => (seeded cpu set).1
  · intro a b here there
    rw [(seeded a here).2,(seeded b there).2]

section
variable {w v : World} {now cpu wallclock : ℕ}

theorem called_aligned (aligned : Aligned w now) (timely : Timely w now cpu wallclock)
    (called : Called w v cpu wallclock) : Aligned v wallclock := by
  have unseeded : ∀ other, (v.lrq other).windowStart ≠ 0 → (w.lrq other).windowStart ≠ 0 :=
    fun other set zero => set ((called_grid called other).2.2 zero)
  refine ⟨called_behind aligned.toBehind timely called,?_,?_,?_⟩
  · rw [called.possible,called.cpus]
    exact aligned.bounded
  · rw [called.possible]
    exact fun other set => aligned.seeded other (unseeded other set)
  · intro a b here there
    rw [called.windows.size]
    have before := aligned.grid a b (unseeded a here) (unseeded b there)
    exact ((called_grid called a).1.trans before).trans (called_grid called b).1.symm

/-- A commit that finds the windows congruent keeps them on one grid. -/
theorem commit_aligned (aligned : Aligned w now) (congruent : Congruent w w.track.newRavgWindow) :
    Aligned { w with track := { w.track with ravgWindow := w.track.newRavgWindow } } now := by
  obtain ⟨behind,bounded,seeded,_⟩ := aligned
  refine ⟨⟨behind.requested.1,behind.requested.2,behind.requested,behind.latest,behind.started⟩,bounded,seeded,?_⟩
  intro a b here there
  have known := seeded a here
  have other := seeded b there
  exact congruent a (bounded a known) b (bounded b other) known other

theorem run_aligned {s : Gridded} {e : WindowEvent} (aligned : Aligned s.world s.now) (admitted : Admitted s e)
    (congruent : CommitsCongruent s e) : Aligned (gridStep s e).world (gridStep s e).now := by
  obtain ⟨intime,requested⟩ := admitted
  cases e with
  | ravg t cpu event wallclock =>
    have timely : Timely s.world s.now cpu wallclock := intime _ rfl
    exact called_aligned aligned timely (updateIfTracked_called aligned.toBehind timely t event)
  | irqWork cpu clock =>
    have timely : Timely s.world s.now cpu (lseSchedClock s.world clock) := intime _ rfl
    have called := updateIfTracked_called aligned.toBehind timely (s.world.rq cpu).curr .taskUpdate
    have updated : Aligned (beforeCommit s.world cpu clock) (lseSchedClock s.world clock) :=
      called_aligned aligned timely called
    show Aligned (lseIrqWork s.world cpu clock) (lseSchedClock s.world clock)
    rcases lseIrqWork_cases s.world cpu clock with ⟨_,same⟩ | ⟨commits,changed⟩
    · rw [same]
      exact updated
    · have requests : (beforeCommit s.world cpu clock).track.newRavgWindow = s.world.track.newRavgWindow :=
        called.windows.requested
      rw [changed]
      exact commit_aligned updated (requests.symm ▸ congruent commits)
  | request framePerSec =>
    obtain ⟨⟨positive,word,_,latest,started⟩,bounded,seeded,grid⟩ := aligned
    exact ⟨⟨positive,word,⟨requested,u32OfInt_lt _⟩,latest,started⟩,bounded,seeded,grid⟩
  | around e =>
    obtain ⟨⟨positive,word,requested,latest,started⟩,bounded,seeded,grid⟩ := aligned
    exact ⟨⟨positive,word,requested,latest,started⟩,bounded,seeded,grid⟩

end

theorem boot_seedable (nrCpuIds : ℕ) (task : ℕ → TaskStruct) : Seedable (World.boot nrCpuIds task) := by
  refine ⟨boot_unseeded nrCpuIds task,?_,?_⟩
  · simp [World.boot]
  · simp [World.boot]

section
variable {s : Gridded}

/-- No CPU gets ahead of the run. -/
theorem gridStep_behind {e : WindowEvent} (behind : Behind s.world s.now) (admitted : Admitted s e) :
    Behind (gridStep s e).world (gridStep s e).now := by
  obtain ⟨intime,requested⟩ := admitted
  cases e with
  | ravg t cpu event wallclock =>
    exact called_behind behind (intime _ rfl) (updateIfTracked_called behind (intime _ rfl) t event)
  | irqWork cpu clock =>
    have updated : Behind (beforeCommit s.world cpu clock) (lseSchedClock s.world clock) :=
      called_behind behind (intime _ rfl) (updateIfTracked_called behind (intime _ rfl) _ .taskUpdate)
    show Behind (lseIrqWork s.world cpu clock) (lseSchedClock s.world clock)
    rcases lseIrqWork_cases s.world cpu clock with ⟨_,same⟩ | ⟨_,changed⟩
    · rw [same]
      exact updated
    · rw [changed]
      exact ⟨updated.requested.1,updated.requested.2,updated.requested,updated.latest,updated.started⟩
  | request framePerSec =>
    exact ⟨behind.positive,behind.word,⟨requested,u32OfInt_lt _⟩,behind.latest,behind.started⟩
  | around e => exact ⟨behind.positive,behind.word,behind.requested,behind.latest,behind.started⟩

/-- Windows do not move back, and a CPU that is not seeded stays so. -/
theorem run_windows {e : WindowEvent} (behind : Behind s.world s.now) (admitted : Admitted s e) (cpu : ℕ) :
    (s.world.lrq cpu).windowStart ≤ ((e.run s.world).lrq cpu).windowStart ∧
      ((s.world.lrq cpu).windowStart = 0 → ((e.run s.world).lrq cpu).windowStart = 0) ∧
      ((e.run s.world).lrq cpu).windowStart ≡ (s.world.lrq cpu).windowStart [MOD s.world.track.ravgWindow] := by
  obtain ⟨intime,_⟩ := admitted
  cases e with
  | ravg t cpu' event wallclock =>
    have called := updateIfTracked_called behind (intime _ rfl) t event
    obtain ⟨grid,later,zero⟩ := called_grid called cpu
    exact ⟨later,zero,grid⟩
  | irqWork cpu' clock =>
    have called := updateIfTracked_called behind (intime _ rfl) (s.world.rq cpu').curr .taskUpdate
    obtain ⟨grid,later,zero⟩ := called_grid called cpu
    have same : (lseIrqWork s.world cpu' clock).lrq = (beforeCommit s.world cpu' clock).lrq := by
      rcases lseIrqWork_cases s.world cpu' clock with ⟨_,same⟩ | ⟨_,changed⟩
      · rw [same]
      · rw [changed]
    simp only [WindowEvent.run,same]
    exact ⟨later,zero,grid⟩
  | request framePerSec => exact ⟨le_rfl,id,Nat.ModEq.refl _⟩
  | around e => exact ⟨le_rfl,id,Nat.ModEq.refl _⟩

/-- Only seeded CPUs have moved. -/
theorem run_moved {e : WindowEvent} (behind : Behind s.world s.now) (admitted : Admitted s e)
    (moved : ∀ cpu, s.moved cpu = true → (s.world.lrq cpu).windowStart ≠ 0) (cpu : ℕ)
    (now : (gridStep s e).moved cpu = true) : ((gridStep s e).world.lrq cpu).windowStart ≠ 0 := by
  obtain ⟨later,zero,_⟩ := run_windows behind admitted cpu
  simp only [gridStep,Bool.and_eq_true,Bool.or_eq_true,decide_eq_true_eq] at now
  show ((e.run s.world).lrq cpu).windowStart ≠ 0
  rcases now.2 with before | moves
  · have set := moved cpu before
    omega
  · have unset : (s.world.lrq cpu).windowStart ≠ 0 := fun none => moves ((zero none).trans none.symm)
    omega

end

/-- After every run from the seeding tick whose commits find the windows of all CPUs
    congruent, the CPUs that moved since the last commit are on one grid. -/
theorem windows_on_one_grid (w : World) (ready : Seedable w) (clock : ℕ) (late : 20000 ≤ clock)
    (small : clock < 18446744073709551616) (run : List WindowEvent)
    (admitted : Along gridStep Admitted (gridStart w clock) run)
    (congruent : Along gridStep CommitsCongruent (gridStart w clock) run) :
    OneGrid (exec gridStep (gridStart w clock) run) := by
  have kept := exec_invariant (fun s => Aligned s.world s.now ∧ ∀ cpu, s.moved cpu = true → (s.world.lrq cpu).windowStart ≠ 0)
    (fun s e held (ok : Admitted s e ∧ CommitsCongruent s e) =>
      ⟨run_aligned held.1 ok.1 ok.2,run_moved held.1.toBehind ok.1 held.2⟩)
    ⟨gridStart_aligned ready late small,fun _ moved => absurd moved Bool.false_ne_true⟩
    (along_and.mpr ⟨admitted,congruent⟩)
  intro a b here there
  exact kept.1.grid a b (kept.2 a here) (kept.2 b there)

/-- An update of the task that has the number of its CPU. -/
def ownUpdate (cpu wallclock : ℕ) : WindowEvent := .ravg cpu cpu .taskUpdate wallclock

/-- CPU 0 is a window ahead of CPU 1 when it commits a window of 11111111 ns: after
    both have moved, their windows are 8000000 ns apart. -/
theorem windows_off_grid :
    Seedable (World.boot 2 (fun _ => plainTask)) ∧
      Along gridStep Admitted (gridStart (World.boot 2 (fun _ => plainTask)) 1020000)
        [ownUpdate 0 9100000,.request 90,.irqWork 0 9200000,ownUpdate 0 20200000,ownUpdate 1 20300000] ∧
      ¬ OneGrid (exec gridStep (gridStart (World.boot 2 (fun _ => plainTask)) 1020000)
        [ownUpdate 0 9100000,.request 90,.irqWork 0 9200000,ownUpdate 0 20200000,ownUpdate 1 20300000]) :=
  ⟨boot_seedable _ _,by decide +kernel,fun grid =>
    absurd (grid 0 1 (by decide +kernel) (by decide +kernel)) (by decide +kernel)⟩

/-- When CPU 1 has followed CPU 0 into its window first, both stay on the new grid. -/
theorem windows_on_one_grid_followed :
    OneGrid (exec gridStep (gridStart (World.boot 2 (fun _ => plainTask)) 1020000)
      [ownUpdate 0 9100000,ownUpdate 1 9150000,.request 90,.irqWork 0 9200000,ownUpdate 0 20200000,
        ownUpdate 1 20300000]) :=
  windows_on_one_grid _ (boot_seedable _ _) 1020000 (by decide) (by decide) _ (by decide +kernel) (by decide +kernel)

/-- Without a commit every window stays congruent to where it was. -/
theorem quiet_congruent {s : Gridded} {run : List WindowEvent} (behind : Behind s.world s.now)
    (admitted : Along gridStep Admitted s run)
    (quiet : Along gridStep (fun s e => (gridStep s e).world.track.ravgWindow = s.world.track.ravgWindow) s run) :
    (exec gridStep s run).world.track.ravgWindow = s.world.track.ravgWindow ∧ ∀ cpu,
      ((exec gridStep s run).world.lrq cpu).windowStart ≡ (s.world.lrq cpu).windowStart [MOD s.world.track.ravgWindow] := by
  induction run generalizing s with
  | nil => exact ⟨rfl,fun _ => Nat.ModEq.refl _⟩
  | cons e rest ih =>
    obtain ⟨here,later⟩ := admitted
    obtain ⟨same,still⟩ := quiet
    have step := fun cpu => (run_windows behind here cpu).2.2
    obtain ⟨size,windows⟩ := ih (gridStep_behind behind here) later still
    rw [same] at size windows
    exact ⟨size,fun cpu => (windows cpu).trans (step cpu)⟩

/-- After a commit, once every CPU has moved and until the next commit, the CPUs are on
    one grid exactly when the commit found them congruent modulo the new size. -/
theorem one_grid_iff {s : Gridded} {run : List WindowEvent} (behind : Behind s.world s.now)
    (admitted : Along gridStep Admitted s run)
    (quiet : Along gridStep (fun s e => (gridStep s e).world.track.ravgWindow = s.world.track.ravgWindow) s run)
    (moved : ∀ cpu, (exec gridStep s run).moved cpu = true ↔ cpu < s.world.nrCpuIds ∧ s.world.possible cpu = true) :
    OneGrid (exec gridStep s run) ↔ Congruent s.world s.world.track.ravgWindow := by
  obtain ⟨size,windows⟩ := quiet_congruent behind admitted quiet
  unfold OneGrid Congruent
  rw [size]
  constructor
  · intro grid a low b high known other
    have end_state := grid a b ((moved a).mpr ⟨low,known⟩) ((moved b).mpr ⟨high,other⟩)
    exact ((windows a).symm.trans end_state).trans (windows b)
  · intro congruent a b here there
    obtain ⟨low,known⟩ := (moved a).mp here
    obtain ⟨high,other⟩ := (moved b).mp there
    exact ((windows a).trans (congruent a low b high known other)).trans (windows b).symm

end LunarSched.WindowChange
