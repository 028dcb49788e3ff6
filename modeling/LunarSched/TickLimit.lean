import LunarSched.Governor
import LunarSched.Runs
import Mathlib.Tactic.IntervalCases

/-!
The rate limit of the ticks. A tick is ignored when it comes less than 400 μs after the
last one that its CPU got past the limit with: `last_tick_ns` is kept per CPU. So the CPUs
of a policy do not hold each other back, and the ticks that make the policy compute a
frequency are 400 μs apart exactly when every tick that its own CPU lets through would have
been let through by every other CPU of the policy, too (`ticks_apart_iff`).
-/
namespace LunarSched.TickLimit
open LunarSched.Machine LunarSched.Kernel LunarSched.Governor LunarSched.Runs

/-- A tick on a CPU at a time of the local clock, with what it finds: the machine, the
    settings, and the policy with its record. -/
structure GovTick where
  world : World
  sysctl : GovSysctl
  tunables : LseGovTunables
  policy : CpufreqPolicy
  lgPolicy : LseGovPolicy
  cpu : ℕ
  now : ℕ

/-- The records of the CPUs of a policy in a run, with the last reading of the local clock
    and the times of the ticks that got past the limit, newest first. -/
structure Ticked where
  grq : ℕ → LseGovRq
  clock : ℕ
  passed : List ℕ

/-- Before the run the records are zero. -/
def unticked (clock : ℕ) : Ticked := ⟨fun _ => ⟨0,0,0,0⟩,clock,[]⟩

/-- The tick gets past the limit of its CPU. -/
def Passes (s : Ticked) (t : GovTick) : Prop := rateLimited (s.grq t.cpu) t.now = false

instance (s : Ticked) (t : GovTick) : Decidable (Passes s t) := inferInstanceAs (Decidable (_ = _))

def tickStep (core : Core) (s : Ticked) (t : GovTick) : Ticked where
  grq := Function.update s.grq t.cpu
    (lseGovTickUpdate core t.world t.sysctl t.tunables t.policy t.lgPolicy (s.grq t.cpu) t.cpu t.now).2.2
  clock := t.now
  passed := if Passes s t then t.now :: s.passed else s.passed

/-- A tick on one of the policy's CPUs. The clock does not go back. -/
def Admitted (cpus : Cpumask) (s : Ticked) (t : GovTick) : Prop :=
  cpus t.cpu = true ∧ s.clock ≤ t.now ∧ t.now < 18446744073709551616

instance (cpus : Cpumask) (s : Ticked) (t : GovTick) : Decidable (Admitted cpus s t) :=
  inferInstanceAs (Decidable (_ ∧ _ ∧ _))

/-- Any two ticks that got past the limit are at least 400 μs apart. -/
def Apart (passed : List ℕ) : Prop := passed.Pairwise (fun later earlier => earlier + lseGovRateLimitNs ≤ later)

instance (passed : List ℕ) : Decidable (Apart passed) := inferInstanceAs (Decidable (List.Pairwise _ _))

/-- A tick that its own CPU lets through would get past the limit on every CPU of the policy. -/
def LimitedTogether (cpus : Cpumask) (s : Ticked) (t : GovTick) : Prop :=
  Passes s t → ∀ cpu, cpus cpu = true → rateLimited (s.grq cpu) t.now = false

/-- The records of the policy's CPUs hold the times of the ticks that got past the limit. -/
structure Recorded (cpus : Cpumask) (s : Ticked) : Prop where
  known : ∀ time ∈ s.passed, ∃ cpu, cpus cpu = true ∧ time ≤ (s.grq cpu).lastTickNs
  passed : ∀ cpu, cpus cpu = true → (s.grq cpu).lastTickNs = 0 ∨ (s.grq cpu).lastTickNs ∈ s.passed
  behind : ∀ cpu, cpus cpu = true → (s.grq cpu).lastTickNs ≤ s.clock

section
variable {core : Core} {cpus : Cpumask} {s : Ticked} {t : GovTick}

theorem lseGovClusterUtil_lastTickNs (w : World) (y : GovSysctl) (mask : Cpumask) (grq : LseGovRq) (cpu now : ℕ) :
    (lseGovClusterUtil w y mask grq cpu now).2.lastTickNs = grq.lastTickNs := by
  simp only [lseGovClusterUtil]
  split_ifs <;> rfl

/-- A tick stores its time in the record of its CPU when it gets past the limit. -/
theorem tickStep_lastTickNs (core : Core) (s : Ticked) (t : GovTick) (cpu : ℕ) :
    ((tickStep core s t).grq cpu).lastTickNs =
      if cpu = t.cpu ∧ Passes s t then t.now else (s.grq cpu).lastTickNs := by
  by_cases here : cpu = t.cpu
  · subst here
    by_cases limited : rateLimited (s.grq t.cpu) t.now = true
    · have held : ¬ Passes s t := by simp [Passes,limited]
      simp [tickStep,lseGovTickUpdate,limited,held]
    · have passes : Passes s t := by simpa [Passes] using limited
      simp only [tickStep,Function.update_self,lseGovTickUpdate,limited,passes,and_self,if_true]
      exact lseGovClusterUtil_lastTickNs ..
  · simp [tickStep,here]

theorem passes_iff {grq : LseGovRq} {now : ℕ} (behind : grq.lastTickNs ≤ now) (word : now < 18446744073709551616) :
    rateLimited grq now = false ↔ grq.lastTickNs + lseGovRateLimitNs ≤ now := by
  rw [rateLimited,u64Sub_of_le behind word,decide_eq_false_iff_not]
  omega

theorem tickStep_recorded (recorded : Recorded cpus s) (admitted : Admitted cpus s t) :
    Recorded cpus (tickStep core s t) := by
  obtain ⟨possible,later,_⟩ := admitted
  have last := tickStep_lastTickNs core s t
  have onward : ∀ cpu, cpus cpu = true → (s.grq cpu).lastTickNs ≤ ((tickStep core s t).grq cpu).lastTickNs := by
    intro cpu known
    rw [last]
    split_ifs
    · exact (recorded.behind cpu known).trans later
    · exact le_rfl
  refine ⟨?_,?_,?_⟩
  · intro time member
    by_cases passes : Passes s t
    · rw [tickStep,if_pos passes] at member
      rcases List.mem_cons.mp member with rfl | earlier
      · exact ⟨t.cpu,possible,by rw [last,if_pos ⟨rfl,passes⟩]⟩
      · obtain ⟨cpu,known,reached⟩ := recorded.known time earlier
        exact ⟨cpu,known,reached.trans (onward cpu known)⟩
    · rw [tickStep,if_neg passes] at member
      obtain ⟨cpu,known,reached⟩ := recorded.known time member
      exact ⟨cpu,known,reached.trans (onward cpu known)⟩
  · intro cpu known
    rw [last]
    by_cases now : cpu = t.cpu ∧ Passes s t
    · rw [if_pos now,tickStep,if_pos now.2]
      exact Or.inr List.mem_cons_self
    · rw [if_neg now,tickStep]
      refine (recorded.passed cpu known).imp id (fun member => ?_)
      split_ifs
      · exact List.mem_cons_of_mem _ member
      · exact member
  · intro cpu known
    rw [last]
    split_ifs
    · exact le_rfl
    · exact (recorded.behind cpu known).trans later

/-- The times stay apart exactly when the tick is not too soon for any CPU of the policy. -/
theorem tickStep_apart_iff (recorded : Recorded cpus s) (admitted : Admitted cpus s t) (apart : Apart s.passed) :
    Apart (tickStep core s t).passed ↔ LimitedTogether cpus s t := by
  obtain ⟨possible,later,word⟩ := admitted
  have behind : ∀ cpu, cpus cpu = true → (s.grq cpu).lastTickNs ≤ t.now :=
    fun cpu known => (recorded.behind cpu known).trans later
  by_cases passes : Passes s t
  · have started : lseGovRateLimitNs ≤ t.now := by
      have rested := (passes_iff (behind t.cpu possible) word).mp passes
      omega
    rw [tickStep,if_pos passes,Apart,List.pairwise_cons]
    constructor
    · rintro ⟨rested,_⟩ _ cpu known
      rw [passes_iff (behind cpu known) word]
      rcases recorded.passed cpu known with zero | member
      · omega
      · exact rested _ member
    · intro together
      refine ⟨fun time member => ?_,apart⟩
      obtain ⟨cpu,known,reached⟩ := recorded.known time member
      have rested := (passes_iff (behind cpu known) word).mp (together passes cpu known)
      omega
  · rw [tickStep,if_neg passes]
    exact iff_of_true apart (fun passed => absurd passed passes)

end

/-- Times once too close to each other stay so. -/
theorem apart_back (core : Core) (s : Ticked) (t : GovTick) (apart : Apart (tickStep core s t).passed) : Apart s.passed := by
  rw [tickStep] at apart
  split_ifs at apart
  · exact (List.pairwise_cons.mp apart).2
  · exact apart

/-- For every run of ticks on the CPUs of a policy, those that get past the limit are at
    least 400 μs apart exactly when none of them comes too soon for another CPU. -/
theorem ticks_apart_iff (core : Core) (cpus : Cpumask) (clock : ℕ) (ticks : List GovTick)
    (admitted : Along (tickStep core) (Admitted cpus) (unticked clock) ticks) :
    Apart (exec (tickStep core) (unticked clock) ticks).passed ↔
      Along (tickStep core) (LimitedTogether cpus) (unticked clock) ticks := by
  have fresh : Recorded cpus (unticked clock) :=
    ⟨fun _ member => (List.not_mem_nil member).elim,fun _ _ => Or.inl rfl,fun _ _ => Nat.zero_le _⟩
  refine exec_iff_along (Recorded cpus) (fun s => Apart s.passed) ?_ ?_ (apart_back core) fresh List.Pairwise.nil admitted
  · exact fun s t recorded ok => tickStep_recorded recorded ok
  · exact fun s t recorded ok apart => tickStep_apart_iff recorded ok apart

/-- A tick of the machine with two CPUs, for a policy at its highest frequency. -/
def plainTick (cpu now : ℕ) : GovTick where
  world := World.boot 2 (fun _ => plainTask)
  sysctl := govSysctlDefaults
  tunables := ⟨90,-1,-1,true⟩
  policy := { fullPolicy with cpus := fun c => decide (c < 2), relatedCpus := fun c => decide (c < 2) }
  lgPolicy := lseGovPolicyAlloc
  cpu := cpu
  now := now

/-- A driver that does what it is asked. -/
def plainCore : Core where
  driverResolveFreq _ freq := freq
  driverFastSwitch p freq := { p with cur := freq }
  driverTarget p freq := { p with cur := freq }
  policyApplyLimits p := p

/-- The two CPUs of a policy tick 100 μs after each other. -/
theorem ticks_too_close :
    let cpus : Cpumask := fun cpu => decide (cpu < 2)
    Along (tickStep plainCore) (Admitted cpus) (unticked 0) [plainTick 0 4000000,plainTick 1 4100000] ∧
      ¬ Apart (exec (tickStep plainCore) (unticked 0) [plainTick 0 4000000,plainTick 1 4100000]).passed := by
  refine ⟨by decide +kernel,?_⟩
  decide +kernel

/-- Half a millisecond apart, both ticks get past the limit on either CPU. -/
theorem ticks_apart_staggered :
    Apart (exec (tickStep plainCore) (unticked 0) [plainTick 0 4000000,plainTick 1 4500000]).passed := by
  refine (ticks_apart_iff plainCore (fun cpu => decide (cpu < 2)) 0 _ (by decide +kernel)).mpr ⟨?_,?_,trivial⟩
  · intro _ cpu known
    have low : cpu < 2 := by simpa using known
    interval_cases cpu <;> decide +kernel
  · intro _ cpu known
    have low : cpu < 2 := by simpa using known
    interval_cases cpu <;> decide +kernel

end LunarSched.TickLimit
