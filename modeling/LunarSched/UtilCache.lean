import LunarSched.Governor
import LunarSched.Runs
import Mathlib.Tactic.Positivity

/-!
The cached utilisation of a cluster. `lse_gov_cluster_util` reuses what its last full
traversal computed when the cache is not stale and the sum of this CPU barely changed.
It judges the age by `last_tick_ns`, which `lse_gov_tick_update` has just set: however
long ago the traversal was, a tick recomputes only when this CPU's sum changed
(`util_fresh_iff`). And it judges the change by the sum at the previous call, so that
along a run of reuses the sum can move away from that of the traversal by 5 % with
every call (`drift_bounded`).
-/
namespace LunarSched.UtilCache
open LunarSched.Machine LunarSched.Kernel LunarSched.Governor LunarSched.Runs

/-- What a call reads besides the CPU's record. -/
structure UtilEnv where
  world : World
  sysctl : GovSysctl
  cpus : Cpumask

/-- How far two sums are apart. -/
def sumDiff (cached thisSum : ℕ) : ℕ := if cached < thisSum then thisSum - cached else cached - thisSum

/-- `lse_gov_cluster_util` takes its incremental path. -/
def Reuses (grq : LseGovRq) (thisSum now : ℕ) : Prop :=
  grq.cachedAggUtil ≠ 0 ∧ grq.cachedThisSum ≠ 0 ∧ u64Sub now grq.lastTickNs < utilCacheStaleNs ∧
    u64 (sumDiff grq.cachedThisSum thisSum * 20) < grq.cachedThisSum

instance (grq : LseGovRq) (thisSum now : ℕ) : Decidable (Reuses grq thisSum now) :=
  inferInstanceAs (Decidable (_ ∧ _ ∧ _ ∧ _))

/-- A call reuses the cached utilisation, or caches that of a full traversal. -/
theorem lseGovClusterUtil_cases (w : World) (y : GovSysctl) (cpus : Cpumask) (grq : LseGovRq) (thisCpu now : ℕ) :
    (Reuses grq (w.lrq thisCpu).prevRunnableSum now ∧ lseGovClusterUtil w y cpus grq thisCpu now =
      (grq.cachedAggUtil,{ grq with cachedThisSum := (w.lrq thisCpu).prevRunnableSum })) ∨
    (¬ Reuses grq (w.lrq thisCpu).prevRunnableSum now ∧ lseGovClusterUtil w y cpus grq thisCpu now =
      (traverseUtil w y cpus,
        { grq with cachedThisSum := (w.lrq thisCpu).prevRunnableSum, cachedAggUtil := traverseUtil w y cpus })) := by
  by_cases reuses : Reuses grq (w.lrq thisCpu).prevRunnableSum now
  · exact Or.inl ⟨reuses,if_pos reuses⟩
  · exact Or.inr ⟨reuses,if_neg reuses⟩

/-! ### The age of the cache -/

/-- The utilisation that `lse_gov_tick_update` takes, unless the tick is ignored, and the
    CPU's record after it. `local_clock` returns `now` in it, and `later` in
    `lse_gov_cluster_util`. -/
def tickUtil (env : UtilEnv) (grq : LseGovRq) (cpu now later : ℕ) : Option ℕ × LseGovRq :=
  if rateLimited grq now = true then (none,grq)
  else
    let (aggUtil,grq) := lseGovClusterUtil env.world env.sysctl env.cpus { grq with lastTickNs := now } cpu later
    (some aggUtil,{ grq with currUtil := aggUtil })

/-- This is all that a tick does with the CPU's record. -/
theorem tickUtil_tick (core : Core) (w : World) (y : GovSysctl) (tun : LseGovTunables) (p : CpufreqPolicy)
    (lg : LseGovPolicy) (grq : LseGovRq) (cpu now : ℕ) :
    (lseGovTickUpdate core w y tun p lg grq cpu now).2.2 = (tickUtil ⟨w,y,p.cpus⟩ grq cpu now now).2 := by
  unfold lseGovTickUpdate tickUtil
  split_ifs <;> rfl

/-- A tick, with the two readings of the clock. -/
structure UtilTick where
  env : UtilEnv
  now : ℕ
  later : ℕ

/-- The record of a CPU in a run, with the last reading of the clock, and the time and
    the result of the last full traversal. -/
structure Cached where
  grq : LseGovRq
  clock : ℕ
  computed : Option (ℕ × ℕ)

/-- This CPU's sum at a tick. -/
def UtilTick.thisSum (tick : UtilTick) (cpu : ℕ) : ℕ := (tick.env.world.lrq cpu).prevRunnableSum

/-- The record with which a tick that is not ignored asks for the utilisation. -/
def asked (s : Cached) (tick : UtilTick) : LseGovRq := { s.grq with lastTickNs := tick.now }

def utilStep (cpu : ℕ) (s : Cached) (tick : UtilTick) : Cached where
  grq := (tickUtil tick.env s.grq cpu tick.now tick.later).2
  clock := tick.later
  computed :=
    if rateLimited s.grq tick.now = false ∧ ¬ Reuses (asked s tick) (tick.thisSum cpu) tick.later then
      some (tick.later,traverseUtil tick.env.world tick.env.sysctl tick.env.cpus)
    else s.computed

/-- The state before the run: the record is zero. -/
def uncached (clock : ℕ) : Cached := ⟨⟨0,0,0,0⟩,clock,none⟩

/-- The clock does not go back. -/
def InTime (s : Cached) (tick : UtilTick) : Prop :=
  s.clock ≤ tick.now ∧ tick.now ≤ tick.later ∧ tick.later < 18446744073709551616

/-- What the tick takes was computed by a full traversal, no more than 16 ms ago. -/
def UtilFresh (cpu : ℕ) (s : Cached) (tick : UtilTick) : Prop :=
  ∀ util ∈ (tickUtil tick.env s.grq cpu tick.now tick.later).1,
    ∃ time, (utilStep cpu s tick).computed = some (time,util) ∧ tick.later ≤ time + utilCacheStaleNs

/-- A tick that is not ignored, more than 16 ms after the last traversal, finds nothing
    cached or this CPU's sum changed by 5 % (in 64 bits), or is itself held up for 16 ms
    between its two readings of the clock. -/
def Recomputes (cpu : ℕ) (s : Cached) (tick : UtilTick) : Prop :=
  rateLimited s.grq tick.now = false → ∀ time util, s.computed = some (time,util) →
    time + utilCacheStaleNs < tick.later →
      s.grq.cachedAggUtil = 0 ∨ s.grq.cachedThisSum = 0 ∨ tick.now + utilCacheStaleNs ≤ tick.later ∨
        s.grq.cachedThisSum ≤ u64 (sumDiff s.grq.cachedThisSum (tick.thisSum cpu) * 20)

/-- What is cached is the result of the last traversal. -/
def Backed (s : Cached) : Prop := s.grq.cachedAggUtil ≠ 0 → ∃ time, s.computed = some (time,s.grq.cachedAggUtil)

section
variable {cpu : ℕ} {s : Cached} {tick : UtilTick}

/-- A tick is ignored, reuses the cached utilisation or computes it. -/
theorem utilStep_cases (cpu : ℕ) (s : Cached) (tick : UtilTick) :
    (rateLimited s.grq tick.now = true ∧ (tickUtil tick.env s.grq cpu tick.now tick.later).1 = none ∧
      utilStep cpu s tick = { s with clock := tick.later }) ∨
    (rateLimited s.grq tick.now = false ∧ Reuses (asked s tick) (tick.thisSum cpu) tick.later ∧
      (tickUtil tick.env s.grq cpu tick.now tick.later).1 = some s.grq.cachedAggUtil ∧
      (utilStep cpu s tick).grq.cachedAggUtil = s.grq.cachedAggUtil ∧ (utilStep cpu s tick).computed = s.computed) ∨
    (rateLimited s.grq tick.now = false ∧ ¬ Reuses (asked s tick) (tick.thisSum cpu) tick.later ∧
      ∃ util, (tickUtil tick.env s.grq cpu tick.now tick.later).1 = some util ∧
        (utilStep cpu s tick).grq.cachedAggUtil = util ∧ (utilStep cpu s tick).computed = some (tick.later,util)) := by
  by_cases ignored : rateLimited s.grq tick.now = true
  · refine Or.inl ⟨ignored,?_,?_⟩
    · rw [tickUtil,if_pos ignored]
    · rw [utilStep,tickUtil,if_pos ignored,if_neg (fun both => by rw [ignored] at both; cases both.1)]
  · have taken : rateLimited s.grq tick.now = false := by simpa using ignored
    right
    rcases lseGovClusterUtil_cases tick.env.world tick.env.sysctl tick.env.cpus (asked s tick) cpu tick.later with
      ⟨reuses,result⟩ | ⟨traverses,result⟩
    · refine Or.inl ⟨taken,reuses,?_,?_,if_neg (fun both => both.2 reuses)⟩
      · rw [tickUtil,if_neg ignored]
        exact congrArg (fun r => some r.1) result
      · rw [utilStep,tickUtil,if_neg ignored]
        exact congrArg (fun r => r.2.cachedAggUtil) result
    · refine Or.inr ⟨taken,traverses,_,?_,?_,if_pos ⟨taken,traverses⟩⟩
      · rw [tickUtil,if_neg ignored]
        exact congrArg (fun r => some r.1) result
      · rw [utilStep,tickUtil,if_neg ignored]
        exact congrArg (fun r => r.2.cachedAggUtil) result

theorem utilStep_backed (backed : Backed s) : Backed (utilStep cpu s tick) := by
  rcases utilStep_cases cpu s tick with ⟨_,_,same⟩ | ⟨_,_,_,util,computed⟩ | ⟨_,_,util,_,stored,computed⟩
  · rw [same]
    exact backed
  · intro some_util
    rw [util] at some_util ⊢
    rw [computed]
    exact backed some_util
  · intro _
    exact ⟨tick.later,by rw [computed,stored]⟩

/-- A tick judges the age of the cache by its own two readings of the clock. -/
theorem not_reuses_iff (cpu : ℕ) (in_time : InTime s tick) :
    ¬ Reuses (asked s tick) (tick.thisSum cpu) tick.later ↔
      s.grq.cachedAggUtil = 0 ∨ s.grq.cachedThisSum = 0 ∨ tick.now + utilCacheStaleNs ≤ tick.later ∨
        s.grq.cachedThisSum ≤ u64 (sumDiff s.grq.cachedThisSum (tick.thisSum cpu) * 20) := by
  obtain ⟨_,order,word⟩ := in_time
  have age : u64Sub tick.later tick.now = tick.later - tick.now := u64Sub_of_le order word
  have young : u64Sub tick.later tick.now < utilCacheStaleNs ↔ ¬ tick.now + utilCacheStaleNs ≤ tick.later := by
    rw [age]
    omega
  simp only [Reuses,asked,young,not_and_or,not_not,not_lt,ne_eq]

/-- So a tick recomputes when it does not reuse a cache that is too old. -/
theorem recomputes_iff (cpu : ℕ) (in_time : InTime s tick) :
    Recomputes cpu s tick ↔ (rateLimited s.grq tick.now = false → ∀ time util, s.computed = some (time,util) →
      time + utilCacheStaleNs < tick.later → ¬ Reuses (asked s tick) (tick.thisSum cpu) tick.later) := by
  simp only [not_reuses_iff cpu in_time]
  rfl

theorem utilFresh_iff (backed : Backed s) (in_time : InTime s tick) : UtilFresh cpu s tick ↔ Recomputes cpu s tick := by
  rw [recomputes_iff cpu in_time]
  rcases utilStep_cases cpu s tick with ⟨ignored,none,_⟩ | ⟨taken,reuses,result,_,computed⟩ |
    ⟨taken,traverses,util,result,_,computed⟩
  · refine iff_of_true ?_ (fun taken => absurd (ignored.symm.trans taken) (by decide))
    intro util member
    rw [none] at member
    cases member
  · -- The cache that is reused is that of the last traversal.
    obtain ⟨time,traversed⟩ := backed reuses.1
    constructor
    · intro fresh _ time' util' traversed' old
      obtain ⟨seen,same,recent⟩ := fresh s.grq.cachedAggUtil (by rw [result]; rfl)
      rw [computed,traversed'] at same
      simp only [Option.some.injEq,Prod.mk.injEq] at same
      omega
    · intro recomputes util member
      rw [result] at member
      cases member
      refine ⟨time,computed.trans traversed,?_⟩
      by_contra old
      exact recomputes taken time _ traversed (by omega) reuses
  · refine iff_of_true ?_ (fun _ _ _ _ _ => traverses)
    intro util' member
    rw [result] at member
    cases member
    exact ⟨tick.later,computed,Nat.le_add_right _ _⟩

end

/-- Along every run of ticks with a clock that does not go back, what a tick takes is no
    older than 16 ms exactly when every tick that comes later than that after a traversal
    has another reason to recompute. -/
theorem util_fresh_iff (cpu clock : ℕ) (run : List UtilTick) (in_time : Along (utilStep cpu) InTime (uncached clock) run) :
    Along (utilStep cpu) (UtilFresh cpu) (uncached clock) run ↔ Along (utilStep cpu) (Recomputes cpu) (uncached clock) run :=
  along_iff Backed (fun _ _ backed ok => utilFresh_iff backed ok) (fun _ _ backed _ _ => utilStep_backed backed)
    (fun some_util => absurd rfl some_util) in_time

/-- A machine with one CPU whose last window has the given sum. -/
def withSum (sum : ℕ) : UtilEnv where
  world :=
    { World.boot 1 (fun _ => plainTask) with
      lrq := fun cpu => { (World.boot 1 (fun _ => plainTask)).lrq cpu with prevRunnableSum := sum } }
  sysctl := govSysctlDefaults
  cpus := fun cpu => cpu == 0

/-- The only traversal is 17 ms old. -/
theorem util_stale :
    Along (utilStep 0) InTime (uncached 0) [⟨withSum 4000000,1000000,1000000⟩,⟨withSum 4000000,18000000,18000000⟩] ∧
      ¬ Along (utilStep 0) (UtilFresh 0) (uncached 0)
        [⟨withSum 4000000,1000000,1000000⟩,⟨withSum 4000000,18000000,18000000⟩] := by
  refine ⟨⟨⟨by decide,by decide,by decide⟩,⟨by decide,by decide,by decide⟩,trivial⟩,?_⟩
  rintro ⟨_,fresh,_⟩
  have reused : (256 : ℕ) ∈ (tickUtil (withSum 4000000)
      (utilStep 0 (uncached 0) ⟨withSum 4000000,1000000,1000000⟩).grq 0 18000000 18000000).1 := by
    decide +kernel
  obtain ⟨time,computed,recent⟩ := fresh 256 reused
  have first : time = 1000000 :=
    congrArg Prod.fst (Option.some.inj (computed.symm.trans (by decide +kernel : _ = some (1000000,256))))
  subst first
  exact absurd recent (by decide)

/-- After 17 ms the sum of the CPU has changed. -/
theorem util_fresh_changed :
    Along (utilStep 0) (UtilFresh 0) (uncached 0)
      [⟨withSum 4000000,1000000,1000000⟩,⟨withSum 5000000,18000000,18000000⟩] := by
  have in_time : Along (utilStep 0) InTime (uncached 0)
      [⟨withSum 4000000,1000000,1000000⟩,⟨withSum 5000000,18000000,18000000⟩] :=
    ⟨⟨by decide,by decide,by decide⟩,⟨by decide,by decide,by decide⟩,trivial⟩
  refine (util_fresh_iff 0 0 _ in_time).mpr ⟨?_,?_,trivial⟩
  · intro _ time util computed
    cases computed
  · intro _ _ _ _ _
    exact Or.inr (Or.inr (Or.inr (by decide +kernel)))

/-! ### The drift of the cache -/

/-- A call of `lse_gov_cluster_util`, with the `last_tick_ns` that its caller left and
    what `local_clock` returns. -/
structure UtilCall where
  env : UtilEnv
  lastTickNs : ℕ
  now : ℕ

def UtilCall.thisSum (call : UtilCall) (cpu : ℕ) : ℕ := (call.env.world.lrq cpu).prevRunnableSum

/-- The record of a CPU in a run, with the CPU's sum at the last full traversal and at the
    last call, and the number of reuses since the traversal. -/
structure Drift where
  grq : LseGovRq
  base : ℕ
  previous : ℕ
  reuses : ℕ

/-- The call reuses the cached utilisation. -/
def CallReuses (cpu : ℕ) (s : Drift) (call : UtilCall) : Prop :=
  Reuses { s.grq with lastTickNs := call.lastTickNs } (call.thisSum cpu) call.now

instance (cpu : ℕ) (s : Drift) (call : UtilCall) : Decidable (CallReuses cpu s call) :=
  inferInstanceAs (Decidable (Reuses _ _ _))

def driftStep (cpu : ℕ) (s : Drift) (call : UtilCall) : Drift where
  grq := (lseGovClusterUtil call.env.world call.env.sysctl call.env.cpus
    { s.grq with lastTickNs := call.lastTickNs } cpu call.now).2
  base := if CallReuses cpu s call then s.base else call.thisSum cpu
  previous := call.thisSum cpu
  reuses := if CallReuses cpu s call then s.reuses + 1 else 0

/-- The state before the run: the record is zero. -/
def undrifted : Drift := ⟨⟨0,0,0,0⟩,0,0,0⟩

/-- Two sums are less than 5 % of the first apart. -/
def Within (base sum : ℕ) : Prop := sumDiff base sum * 20 < base

instance (base sum : ℕ) : Decidable (Within base sum) := inferInstanceAs (Decidable (_ < _))

/-- What is reused was computed for a sum less than 5 % away. -/
def WithinBase (cpu : ℕ) (s : Drift) (call : UtilCall) : Prop := CallReuses cpu s call → Within s.base (call.thisSum cpu)

/-- What is reused was returned at the last call for a sum less than 5 % away, and so was
    computed for a sum that is less than 5 % away for every reuse since. -/
def WithinPrevious (cpu : ℕ) (s : Drift) (call : UtilCall) : Prop :=
  CallReuses cpu s call → Within s.previous (call.thisSum cpu) ∧
    19 ^ (s.reuses + 1) * s.base < 20 ^ (s.reuses + 1) * call.thisSum cpu ∧
    20 ^ (s.reuses + 1) * call.thisSum cpu < 21 ^ (s.reuses + 1) * s.base

/-- The sum leaves room for 20 times itself in 64 bits. -/
def SmallSum (cpu : ℕ) (_ : Drift) (call : UtilCall) : Prop := call.thisSum cpu * 20 < 18446744073709551616

instance (cpu : ℕ) (s : Drift) (call : UtilCall) : Decidable (SmallSum cpu s call) := inferInstanceAs (Decidable (_ < _))

theorem within_iff {base sum : ℕ} : Within base sum ↔ 19 * base < 20 * sum ∧ 20 * sum < 21 * base := by
  unfold Within sumDiff
  split_ifs <;> omega

/-- The cached sum is that of the last call, and what is cached was computed for one that
    is 5 % away at most for every reuse since. -/
structure Tied (s : Drift) : Prop where
  cached : s.grq.cachedThisSum = s.previous
  small : s.previous * 20 < 18446744073709551616
  drift : s.grq.cachedAggUtil ≠ 0 →
    19 ^ s.reuses * s.base ≤ 20 ^ s.reuses * s.previous ∧ 20 ^ s.reuses * s.previous ≤ 21 ^ s.reuses * s.base

section
variable {cpu : ℕ} {s : Drift} {call : UtilCall}

/-- A reuse is for a sum within 5 % of the one before. -/
theorem reuse_within (tied : Tied s) (small : SmallSum cpu s call) (reuses : CallReuses cpu s call) :
    Within s.previous (call.thisSum cpu) := by
  obtain ⟨_,_,_,close⟩ := reuses
  change u64 (sumDiff s.grq.cachedThisSum (call.thisSum cpu) * 20) < s.grq.cachedThisSum at close
  have short : sumDiff s.previous (call.thisSum cpu) * 20 < 18446744073709551616 := by
    have last := tied.small
    unfold SmallSum at small
    unfold sumDiff
    split_ifs <;> omega
  rwa [tied.cached,u64_of_lt short] at close

theorem tied_within (tied : Tied s) (small : SmallSum cpu s call) : WithinPrevious cpu s call := by
  intro reuses
  have step := reuse_within tied small reuses
  obtain ⟨least,most⟩ := within_iff.mp step
  obtain ⟨low,high⟩ := tied.drift reuses.1
  refine ⟨step,?_,?_⟩
  · calc 19 ^ (s.reuses + 1) * s.base = 19 * (19 ^ s.reuses * s.base) := by ring
      _ ≤ 19 * (20 ^ s.reuses * s.previous) := Nat.mul_le_mul_left _ low
      _ = 20 ^ s.reuses * (19 * s.previous) := by ring
      _ < 20 ^ s.reuses * (20 * call.thisSum cpu) := Nat.mul_lt_mul_of_pos_left least (by positivity)
      _ = 20 ^ (s.reuses + 1) * call.thisSum cpu := by ring
  · calc 20 ^ (s.reuses + 1) * call.thisSum cpu = 20 ^ s.reuses * (20 * call.thisSum cpu) := by ring
      _ < 20 ^ s.reuses * (21 * s.previous) := Nat.mul_lt_mul_of_pos_left most (by positivity)
      _ = 21 * (20 ^ s.reuses * s.previous) := by ring
      _ ≤ 21 * (21 ^ s.reuses * s.base) := Nat.mul_le_mul_left _ high
      _ = 21 ^ (s.reuses + 1) * s.base := by ring

theorem driftStep_tied (tied : Tied s) (small : SmallSum cpu s call) : Tied (driftStep cpu s call) := by
  rcases lseGovClusterUtil_cases call.env.world call.env.sysctl call.env.cpus
    { s.grq with lastTickNs := call.lastTickNs } cpu call.now with ⟨reuses,result⟩ | ⟨traverses,result⟩
  · have again : CallReuses cpu s call := reuses
    refine ⟨by rw [driftStep,result]; rfl,small,fun _ => ?_⟩
    obtain ⟨_,low,high⟩ := tied_within tied small again
    simp only [driftStep,if_pos again]
    exact ⟨low.le,high.le⟩
  · have anew : ¬ CallReuses cpu s call := traverses
    refine ⟨by rw [driftStep,result]; rfl,small,fun _ => ?_⟩
    simp only [driftStep,if_neg anew,pow_zero,one_mul]
    exact ⟨le_rfl,le_rfl⟩

end

/-- Along every run of calls, a reuse is for a sum less than 5 % away from that of the
    previous call, and the drift since the traversal is bounded by that much for each reuse. -/
theorem drift_bounded (cpu : ℕ) (run : List UtilCall) (small : Along (driftStep cpu) (SmallSum cpu) undrifted run) :
    Along (driftStep cpu) (WithinPrevious cpu) undrifted run :=
  along_invariant Tied (fun _ _ tied small => driftStep_tied tied small) (fun _ _ tied small => tied_within tied small)
    ⟨rfl,by decide,fun some_util => absurd rfl some_util⟩ small

/-- Sums that grow by 4 % from call to call. -/
def growing : List UtilCall := [⟨withSum 4000000,0,0⟩,⟨withSum 4160000,0,0⟩,⟨withSum 4320000,0,0⟩]

/-- The third sum is 8 % above the one for which the utilisation was computed. -/
theorem drift_beyond : ¬ Along (driftStep 0) (WithinBase 0) undrifted growing := by
  rintro ⟨_,_,within,_⟩
  exact absurd (within (by decide +kernel)) (by decide +kernel)

theorem drift_bounded_growing : Along (driftStep 0) (WithinPrevious 0) undrifted growing :=
  drift_bounded 0 _ ⟨by decide +kernel,by decide +kernel,by decide +kernel,trivial⟩

end LunarSched.UtilCache
