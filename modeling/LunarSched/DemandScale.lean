import LunarSched.Scale
import LunarSched.WindowChange

/-!
The cached divisor of the demand scale. `lse_sched_stats_init` derives
`lse_scale_demand_divisor` from the window size, and nothing does so again: a commit
of another size leaves the divisor of the old one behind. No two frame rates up to
900 give windows with one divisor, so along a run the divisor follows the window
exactly when `lse_irq_work` never commits (`scale_follows_iff`).
-/
namespace LunarSched.DemandScale
open LunarSched.Machine LunarSched.Kernel LunarSched.UtilTrack LunarSched.Hooks LunarSched.WindowChange LunarSched.Runs

/-- Requests, rollover interrupts, and in `others` everything else but the window
    sizes and the divisor, taken from another state. -/
inductive ScaleEvent where
  | request (framePerSec : ℤ)
  | irqWork (cpu clock : ℕ)
  | others (e : World)

def scaleStep (w : World) : ScaleEvent → World
  | .request framePerSec => schedRavgWindowChange w framePerSec
  | .irqWork cpu clock => lseIrqWork w cpu clock
  | .others e =>
    { e with track := { e.track with
        ravgWindow := w.track.ravgWindow
        newRavgWindow := w.track.newRavgWindow
        scaleDemandDivisor := w.track.scaleDemandDivisor } }

/-- Frame rates between 1 and 900 are requested. -/
def Admitted (_ : World) : ScaleEvent → Prop
  | .request framePerSec => 1 ≤ framePerSec ∧ framePerSec ≤ 900
  | _ => True

/-- `update_history` takes the sample. -/
def Recorded (p : TaskStruct) (runtime : ℕ) (samples : ℤ) : Prop :=
  u32 runtime ≠ 0 ∧ p.isIdle = false ∧ samples ≠ 0

/-- The divisor is that of the window in force, and every demand up to the window is
    converted with it into at most 1024. -/
structure ScaleFollows (w : World) : Prop where
  divisor : w.track.scaleDemandDivisor = w.track.ravgWindow / 1024
  converted : ∀ p lts runtime samples, Recorded p runtime samples →
    (updateHistory w.track p lts runtime samples).demand ≤ w.track.ravgWindow →
      (updateHistory w.track p lts runtime samples).demandScaled =
          (updateHistory w.track p lts runtime samples).demand / (w.track.ravgWindow / 1024) ∧
        (updateHistory w.track p lts runtime samples).demandScaled ≤ 1024

/-- `lse_irq_work` does not put a requested size in force. -/
def NoCommit (w : World) : ScaleEvent → Prop
  | .irqWork cpu clock => ¬ Commits (beforeCommit w cpu clock) cpu (lseSchedClock w clock)
  | _ => True

instance (w : World) : (e : ScaleEvent) → Decidable (Admitted w e)
  | .request _ => inferInstanceAs (Decidable (_ ∧ _))
  | .irqWork .. | .others _ => isTrue trivial

instance (w : World) : (e : ScaleEvent) → Decidable (NoCommit w e)
  | .irqWork .. => inferInstanceAs (Decidable (¬ _))
  | .request _ | .others _ => isTrue trivial

/-- The window of some frame rate from 1 to 900. -/
def FrameWindow (size : ℕ) : Prop := ∃ frames, 1 ≤ frames ∧ frames ≤ 900 ∧ size = 1000000000 / frames

theorem frameWindow_default : FrameWindow 8000000 := ⟨125,by decide,by decide,by decide⟩

theorem frameWindow_bounds {size : ℕ} (window : FrameWindow size) : 1048576 ≤ size ∧ size < 4294967296 := by
  obtain ⟨frames,positive,most,rfl⟩ := window
  have low : 1000000000 / 900 ≤ 1000000000 / frames := Nat.div_le_div_left most (by omega)
  have high : 1000000000 / frames ≤ 1000000000 := Nat.div_le_self _ _
  omega

theorem schedRavgWindowChange_frames {w : World} {framePerSec : ℤ} (low : 1 ≤ framePerSec) (high : framePerSec ≤ 900) :
    FrameWindow (schedRavgWindowChange w framePerSec).track.newRavgWindow := by
  obtain ⟨frames,rfl⟩ := Int.eq_ofNat_of_zero_le (show 0 ≤ framePerSec by omega)
  exact ⟨frames,by omega,by omega,schedRavgWindowChange_rate w frames⟩

/-- A higher frame rate has a smaller divisor. -/
theorem divisor_lt {one two : ℕ} (positive : 1 ≤ one) (less : one < two) (most : two ≤ 900) :
    1000000000 / two / 1024 < 1000000000 / one / 1024 := by
  rw [Nat.div_right_comm _ two,Nat.div_right_comm _ one,show 1000000000 / 1024 = 976562 by decide]
  have many : 1085 ≤ 976562 / two :=
    (show 1085 = 976562 / 900 by decide) ▸ Nat.div_le_div_left most (by omega)
  have whole : 976562 / two * two ≤ 976562 := Nat.div_mul_le_self _ _
  have step : (976562 / two + 1) * one ≤ 976562 / two * two := by
    calc (976562 / two + 1) * one ≤ (976562 / two + 1) * (two - 1) := Nat.mul_le_mul_left _ (by omega)
      _ = 976562 / two * (two - 1) + (two - 1) := by rw [Nat.add_mul,Nat.one_mul]
      _ ≤ 976562 / two * (two - 1) + 976562 / two := by omega
      _ = 976562 / two * two := by
        rw [← Nat.mul_succ]
        congr 1
        omega
  exact (Nat.le_div_iff_mul_le (by omega)).mpr (step.trans whole)

/-- Two windows of frame rates have one divisor only if they are the same. -/
theorem frameWindow_divisor {one two : ℕ} (first : FrameWindow one) (second : FrameWindow two)
    (same : one / 1024 = two / 1024) : one = two := by
  obtain ⟨low,positive,most,rfl⟩ := first
  obtain ⟨high,positive',most',rfl⟩ := second
  rcases Nat.lt_trichotomy low high with less | equal | more
  · exact absurd same (divisor_lt positive less most').ne'
  · rw [equal]
  · exact absurd same (divisor_lt positive' more most).ne

/-- Divisor, window in force and requested window go together. -/
structure Scaled (w : World) : Prop where
  divisor : w.track.scaleDemandDivisor = w.track.ravgWindow / 1024
  window : FrameWindow w.track.ravgWindow
  requested : FrameWindow w.track.newRavgWindow

/-- The demand that `update_history` records is divided by the divisor. -/
theorem updateHistory_demandScaled {g : Track} {p : TaskStruct} {lts : LseTaskStruct} {runtime : ℕ} {samples : ℤ}
    (recorded : Recorded p runtime samples) :
    (updateHistory g p lts runtime samples).demandScaled =
      u16 ((updateHistory g p lts runtime samples).demand / g.scaleDemandDivisor) := by
  obtain ⟨ran,busy,some_samples⟩ := recorded
  simp [updateHistory,ran,busy,some_samples,lseScaleTimeToUtil]

theorem scaled_follows {w : World} (scaled : Scaled w) : ScaleFollows w := by
  refine ⟨scaled.divisor,?_⟩
  intro p lts runtime samples recorded within
  have least := (frameWindow_bounds scaled.window).1
  generalize demand : (updateHistory w.track p lts runtime samples).demand = d at within ⊢
  have most : d / (w.track.ravgWindow / 1024) ≤ 1024 := Scale.div_divisor_le least within
  rw [updateHistory_demandScaled recorded,demand,scaled.divisor,u16,Nat.mod_eq_of_lt (by omega)]
  exact ⟨rfl,most⟩

/-- The call in `lse_irq_work` leaves sizes and divisor alone. -/
theorem beforeCommit_scaled {w : World} (scaled : Scaled w) (cpu clock : ℕ) :
    Scaled (beforeCommit w cpu clock) := by
  obtain ⟨_,_,_,track⟩ := updateIfTracked_track w (w.rq cpu).curr cpu .taskUpdate (lseSchedClock w clock)
  unfold beforeCommit
  constructor
  · rw [track]; exact scaled.divisor
  · rw [track]; exact scaled.window
  · rw [track]; exact scaled.requested

/-- Divisor and windows stay together through a step exactly when the step does not
    commit. -/
theorem scaleStep_scaled_iff {w : World} {e : ScaleEvent} (scaled : Scaled w) (admitted : Admitted w e) :
    (ScaleFollows (scaleStep w e) ↔ NoCommit w e) ∧ (NoCommit w e → Scaled (scaleStep w e)) := by
  have quiet : NoCommit w e → Scaled (scaleStep w e) := by
    intro quiet
    cases e with
    | request framePerSec =>
      exact ⟨scaled.divisor,scaled.window,schedRavgWindowChange_frames admitted.1 admitted.2⟩
    | irqWork cpu clock =>
      rcases lseIrqWork_cases w cpu clock with ⟨_,same⟩ | ⟨commits,_⟩
      · simp only [scaleStep,same]
        exact beforeCommit_scaled scaled cpu clock
      · exact absurd commits quiet
    | others e => exact ⟨scaled.divisor,scaled.window,scaled.requested⟩
  refine ⟨⟨?_,fun still => scaled_follows (quiet still)⟩,quiet⟩
  intro follows
  cases e with
  | request framePerSec => exact trivial
  | irqWork cpu clock =>
    intro commits
    rcases lseIrqWork_cases w cpu clock with ⟨none,_⟩ | ⟨_,changed⟩
    · exact none commits
    · -- The divisor is still that of the size that was in force.
      have before := beforeCommit_scaled scaled cpu clock
      have divisor := follows.divisor
      simp only [scaleStep,changed] at divisor
      rw [before.divisor] at divisor
      exact commits.1 (frameWindow_divisor before.requested before.window divisor.symm)
  | others e => exact trivial

/-- Along every run from `lse_sched_stats_init` with the windows of frame rates up to 900,
    the divisor follows the window exactly when no requested size is ever put in force. -/
theorem scale_follows_iff (w : World) (window : FrameWindow w.track.ravgWindow)
    (requested : FrameWindow w.track.newRavgWindow) (run : List ScaleEvent)
    (admitted : Along scaleStep Admitted (lseSchedStatsInit w) run) :
    (ScaleFollows (lseSchedStatsInit w) ∧
        Along scaleStep (fun w e => ScaleFollows (scaleStep w e)) (lseSchedStatsInit w) run) ↔
      Along scaleStep NoCommit (lseSchedStatsInit w) run := by
  have start : Scaled (lseSchedStatsInit w) := ⟨rfl,window,requested⟩
  have steps := along_iff Scaled (fun _ _ scaled ok => (scaleStep_scaled_iff scaled ok).1)
    (fun _ _ scaled ok follows => (scaleStep_scaled_iff scaled ok).2 ((scaleStep_scaled_iff scaled ok).1.mp follows))
    start admitted
  exact ⟨fun follows => steps.mp follows.2,fun quiet => ⟨scaled_follows start,steps.mpr quiet⟩⟩

/-- One CPU with seeded windows. -/
def seededCpu : World := lseSchedulerTick (lseSchedStatsInit (World.boot 1 (fun _ => plainTask))) 1020000

/-- A window for 60 frames is put in force, and the divisor stays that of 8 ms. -/
theorem scale_left_behind :
    FrameWindow (World.boot 1 (fun _ => plainTask)).track.ravgWindow ∧
      FrameWindow (World.boot 1 (fun _ => plainTask)).track.newRavgWindow ∧
      Along scaleStep Admitted (lseSchedStatsInit (World.boot 1 (fun _ => plainTask)))
        [.others seededCpu,.request 60,.irqWork 0 1500000] ∧
      ¬ (ScaleFollows (lseSchedStatsInit (World.boot 1 (fun _ => plainTask))) ∧
        Along scaleStep (fun w e => ScaleFollows (scaleStep w e)) (lseSchedStatsInit (World.boot 1 (fun _ => plainTask)))
          [.others seededCpu,.request 60,.irqWork 0 1500000]) :=
  ⟨frameWindow_default,frameWindow_default,by decide +kernel,fun follows =>
    absurd follows.2.2.2.1.divisor (by decide +kernel)⟩

/-- The same request stays pending while the CPU has had no window of that length. -/
theorem scale_follows_pending :
    (ScaleFollows (lseSchedStatsInit (World.boot 1 (fun _ => plainTask))) ∧
        Along scaleStep (fun w e => ScaleFollows (scaleStep w e)) (lseSchedStatsInit (World.boot 1 (fun _ => plainTask)))
          [.others seededCpu,.request 900,.irqWork 0 3000000]) ↔
      Along scaleStep NoCommit (lseSchedStatsInit (World.boot 1 (fun _ => plainTask)))
        [.others seededCpu,.request 900,.irqWork 0 3000000] :=
  scale_follows_iff _ frameWindow_default frameWindow_default _ (by decide +kernel)

end LunarSched.DemandScale
