import LunarSched.Governor
import LunarSched.Runs

/-!
The cached request of a policy that is switched by the worker. An update path only
queues the worker when the frequency it computes is not the cached `next_freq`,
while the limits callback moves the hardware without touching `next_freq`. So after
the limits have been lowered and raised again the cache can name a frequency the
hardware is not at, and an update that computes this frequency does nothing. Along
a run the hardware follows the requests exactly when no update does nothing in such
a state (`follows_iff`).
-/
namespace LunarSched.GovernorCache
open LunarSched.Machine LunarSched.Kernel LunarSched.Governor LunarSched.Runs

/-- What the governor relies on in cpufreq when the driver has no fast switch. -/
structure Clamping (core : Core) : Prop where
  resolve : ∀ p freq, core.driverResolveFreq p freq = clampT freq p.min p.max
  target : ∀ p freq, core.driverTarget p freq = { p with cur := clampT freq p.min p.max }
  limits : ∀ p, core.policyApplyLimits p =
    { p with cur := if p.max < p.cur then p.max else if p.cur < p.min then p.min else p.cur }

/-- Where the worker is in `lse_gov_work`: not in it, before it reads `next_freq`, or
    about to switch to the frequency it read. -/
inductive Worker where
  | idle
  | begun
  | switching (freq : ℕ)
deriving DecidableEq

/-- A policy of the governor. `asked` is the frequency that an update path computed
    last, if the limits have not been changed since. -/
structure Gov where
  policy : CpufreqPolicy
  lg : LseGovPolicy
  grq : ℕ → LseGovRq
  worker : Worker
  asked : Option ℕ

/-- What an update path reads besides the policy. -/
structure Env where
  world : World
  sysctl : GovSysctl
  tunables : LseGovTunables

inductive GovEvent where
  | tick (env : Env) (cpu now : ℕ)
  | update (env : Env) (prevRunnableSum : ℕ)
  | softLimit (env : Env)
  /-- The settings of the policy are written. -/
  | configure (settings : LseGovPolicy)
  /-- The worker takes the queued work. -/
  | workBegin
  /-- The worker reads `next_freq`. -/
  | workRead
  /-- The worker calls the driver. -/
  | workTarget
  | setLimits (min max : ℕ) (ordered : min ≤ max)
  | govLimits

/-- The frequency that an event computes and resolves, when it is an update path that
    gets that far. -/
def request (core : Core) (s : Gov) : GovEvent → Option ℕ
  | .tick env cpu now =>
    if rateLimited (s.grq cpu) now then none
    else some (tickRequest core env.world env.sysctl env.tunables s.policy s.lg (s.grq cpu) cpu now).1
  | .update env sum => some (updateRequest core env.world env.sysctl env.tunables s.policy s.lg sum).1
  | .softLimit env => some (softLimitRequest core env.sysctl env.tunables s.policy s.lg).1
  | _ => none

def govStep (core : Core) (s : Gov) (e : GovEvent) : Gov :=
  let asked := if (request core s e).isSome then request core s e else s.asked
  match e with
  | .tick env cpu now =>
    let (p,lg,grq) := lseGovTickUpdate core env.world env.sysctl env.tunables s.policy s.lg (s.grq cpu) cpu now
    { s with policy := p, lg := lg, grq := Function.update s.grq cpu grq, asked := asked }
  | .update env sum =>
    let (p,lg) := lseGovUpdateCpufreq core env.world env.sysctl env.tunables s.policy s.lg sum
    { s with policy := p, lg := lg, asked := asked }
  | .softLimit env =>
    let (p,lg) := lseGovUpdateSoftLimitCpufreq core env.sysctl env.tunables s.policy s.lg
    { s with policy := p, lg := lg, asked := asked }
  | .configure settings =>
    { s with lg := { settings with nextFreq := s.lg.nextFreq, workQueued := s.lg.workQueued } }
  | .workBegin =>
    if s.worker = .idle ∧ s.lg.workQueued = true then
      { s with lg := { s.lg with workQueued := false }, worker := .begun }
    else s
  | .workRead => if s.worker = .begun then { s with worker := .switching s.lg.nextFreq } else s
  | .workTarget =>
    match s.worker with
    | .switching freq => { s with policy := core.driverTarget s.policy freq, worker := .idle }
    | _ => s
  | .setLimits min max _ => { s with policy := { s.policy with min := min, max := max }, asked := none }
  | .govLimits => { s with policy := lseGovLimits core s.policy s.lg }

/-- The worker has nothing to do. -/
def Drained (s : Gov) : Prop := s.worker = .idle ∧ s.lg.workQueued = false

/-- The hardware is where the last request wants it, once the worker is drained. -/
def Follows (s : Gov) : Prop := ∀ freq ∈ s.asked, Drained s → s.policy.cur = freq

/-- An update that computes the cached frequency while the worker is drained does so
    with the hardware at that frequency. -/
def Fresh (core : Core) (s : Gov) (e : GovEvent) : Prop :=
  ∀ freq ∈ request core s e, s.lg.nextFreq = freq → Drained s → s.policy.cur = freq

instance (s : Gov) : Decidable (Drained s) := inferInstanceAs (Decidable (_ ∧ _))
instance (s : Gov) : Decidable (Follows s) := inferInstanceAs (Decidable (∀ freq ∈ s.asked, _))
instance (core : Core) (s : Gov) (e : GovEvent) : Decidable (Fresh core s e) :=
  inferInstanceAs (Decidable (∀ freq ∈ request core s e, _))

/-- The governor right after `lse_gov_start`. -/
def started (w : World) (p : CpufreqPolicy) (clusterId : ℕ) (lg : LseGovPolicy) (grq : ℕ → LseGovRq) : Gov :=
  ⟨p,startedPolicy w p clusterId lg,grq,.idle,none⟩

/-- What the worker is about to switch to is the cached frequency or out of date; the
    last request is the cached frequency, within the limits, and reached once the
    worker is drained. -/
structure Coherent (s : Gov) : Prop where
  slow : s.policy.fastSwitchEnabled = false
  ordered : s.policy.min ≤ s.policy.max
  current : ∀ freq, s.worker = .switching freq → freq = s.lg.nextFreq ∨ s.lg.workQueued = true
  cached : ∀ freq ∈ s.asked, s.lg.nextFreq = freq ∧ clampT freq s.policy.min s.policy.max = freq
  follows : Follows s

/-- The fields of a policy's record that decide what is requested stay. -/
def SameCache (before after : LseGovPolicy) : Prop :=
  after.nextFreq = before.nextFreq ∧ after.workQueued = before.workQueued

theorem dynamicTargetLoad_cache (y : GovSysctl) (p : CpufreqPolicy) (lg : LseGovPolicy) (aggUtil : ℕ) :
    SameCache lg (lseDynamicTargetLoad y p lg aggUtil).2 := by
  unfold lseDynamicTargetLoad
  by_cases off : y.clusterTlDynEnable = 0
  · simp [off,SameCache]
  · simp [off,SameCache]

theorem getNextFreq_cache (w : World) (y : GovSysctl) (p : CpufreqPolicy) (lg : LseGovPolicy) (sum : ℕ) :
    SameCache lg (getNextFreq w y p lg sum).2 := by
  have load := dynamicTargetLoad_cache y p lg (aggUtilOf y w.track lg sum)
  simp only [getNextFreq]
  split_ifs <;> exact load

theorem tickFreq_cache (y : GovSysctl) (p : CpufreqPolicy) (lg : LseGovPolicy) (aggUtil : ℕ) :
    SameCache lg (tickFreq y p lg aggUtil).2.2 := by
  by_cases on : y.clusterTlDynEnable ≠ 0
  · simpa [tickFreq,on] using dynamicTargetLoad_cache y p lg aggUtil
  · simp [tickFreq,on,SameCache]

theorem updateRequest_cache (core : Core) (env : Env) (p : CpufreqPolicy) (lg : LseGovPolicy) (sum : ℕ) :
    SameCache lg (updateRequest core env.world env.sysctl env.tunables p lg sum).2 :=
  getNextFreq_cache env.world env.sysctl p lg sum

theorem tickRequest_cache (core : Core) (env : Env) (p : CpufreqPolicy) (lg : LseGovPolicy) (grq : LseGovRq)
    (cpu now : ℕ) : SameCache lg (tickRequest core env.world env.sysctl env.tunables p lg grq cpu now).2.1 := by
  simp only [tickRequest]
  exact tickFreq_cache env.sysctl p lg _

/-- Without fast switch a request changes nothing but the cache and the queue. -/
theorem requestFreq_slow (core : Core) {p : CpufreqPolicy} (slow : p.fastSwitchEnabled = false) (lg : LseGovPolicy)
    (freq : ℕ) : (requestFreq core p lg freq).1 = p ∧ (requestFreq core p lg freq).2.nextFreq = freq ∧
      (requestFreq core p lg freq).2.workQueued = (lg.workQueued || decide (lg.nextFreq ≠ freq)) := by
  unfold requestFreq
  by_cases same : lg.nextFreq = freq
  · simp [same]
  · simp [same,slow]

/-- What an update path that computes a frequency does to the governor. -/
structure Requested (s after : Gov) (freq : ℕ) : Prop where
  policy : after.policy = s.policy
  worker : after.worker = s.worker
  asked : after.asked = some freq
  next : after.lg.nextFreq = freq
  queued : after.lg.workQueued = (s.lg.workQueued || decide (s.lg.nextFreq ≠ freq))

theorem govStep_requested (core : Core) {s : Gov} (slow : s.policy.fastSwitchEnabled = false) {e : GovEvent}
    {freq : ℕ} (asks : request core s e = some freq) : Requested s (govStep core s e) freq := by
  cases e with
  | tick env cpu now =>
    by_cases early : rateLimited (s.grq cpu) now
    · simp [request,early] at asks
    · have computed : (tickRequest core env.world env.sysctl env.tunables s.policy s.lg (s.grq cpu) cpu now).1 = freq := by
        simpa [request,early] using asks
      obtain ⟨next,queued⟩ := tickRequest_cache core env s.policy s.lg (s.grq cpu) cpu now
      obtain ⟨policy,cache,work⟩ := requestFreq_slow core slow
        (tickRequest core env.world env.sysctl env.tunables s.policy s.lg (s.grq cpu) cpu now).2.1 freq
      rw [next,queued] at work
      constructor <;> simp [govStep,asks,lseGovTickUpdate,early,computed,policy,cache,work]
  | update env sum =>
    have computed : (updateRequest core env.world env.sysctl env.tunables s.policy s.lg sum).1 = freq := by
      simpa [request] using asks
    obtain ⟨next,queued⟩ := updateRequest_cache core env s.policy s.lg sum
    obtain ⟨policy,cache,work⟩ := requestFreq_slow core slow
      (updateRequest core env.world env.sysctl env.tunables s.policy s.lg sum).2 freq
    rw [next,queued] at work
    constructor <;> simp [govStep,asks,lseGovUpdateCpufreq,computed,policy,cache,work]
  | softLimit env =>
    have computed : (softLimitRequest core env.sysctl env.tunables s.policy s.lg).1 = freq := by
      simpa [request] using asks
    obtain ⟨policy,cache,work⟩ := requestFreq_slow core slow
      (softLimitRequest core env.sysctl env.tunables s.policy s.lg).2 freq
    have same : SameCache s.lg (softLimitRequest core env.sysctl env.tunables s.policy s.lg).2 := ⟨rfl,rfl⟩
    rw [same.1,same.2] at work
    constructor <;> simp [govStep,asks,lseGovUpdateSoftLimitCpufreq,computed,policy,cache,work]
  | _ => simp [request] at asks

/-- A request is what the driver resolves some frequency to. -/
theorem request_resolved {core : Core} {s : Gov} {e : GovEvent} {freq : ℕ} (asks : request core s e = some freq) :
    ∃ wanted, freq = core.driverResolveFreq s.policy wanted := by
  cases e with
  | tick env cpu now =>
    by_cases early : rateLimited (s.grq cpu) now
    · simp [request,early] at asks
    · simp only [request,early,Bool.false_eq_true,if_false,Option.some.injEq] at asks
      exact ⟨_,asks.symm⟩
  | update env sum => exact ⟨_,(Option.some.inj asks).symm⟩
  | softLimit env => exact ⟨_,(Option.some.inj asks).symm⟩
  | _ => simp [request] at asks

/-- A request is within the limits. -/
theorem request_clamped {core : Core} (clamping : Clamping core) {s : Gov} {e : GovEvent} {freq : ℕ}
    (asks : request core s e = some freq) : clampT freq s.policy.min s.policy.max = freq := by
  obtain ⟨wanted,rfl⟩ := request_resolved asks
  rw [clamping.resolve,clampT_idem]

section
variable {core : Core} {s : Gov} {e : GovEvent}

/-- After a request the worker is drained only if the request was cached already. -/
theorem drained_requested {after : Gov} {freq : ℕ} (requested : Requested s after freq) :
    Drained after ↔ Drained s ∧ s.lg.nextFreq = freq := by
  simp only [Drained,requested.worker,requested.queued,Bool.or_eq_false_iff,decide_eq_false_iff_not,not_not]
  tauto

theorem follows_requested {after : Gov} {freq : ℕ} (requested : Requested s after freq)
    (asks : request core s e = some freq) : Follows after ↔ Fresh core s e := by
  have drained := drained_requested requested
  constructor
  · intro follows other asked cached idle
    rw [asks,Option.mem_some_iff] at asked
    subst asked
    rw [← requested.policy]
    exact follows freq (by simp [requested.asked]) (drained.mpr ⟨idle,cached⟩)
  · intro fresh other asked idle
    rw [requested.asked,Option.mem_some_iff] at asked
    subst asked
    obtain ⟨before,cached⟩ := drained.mp idle
    rw [requested.policy]
    exact fresh freq (by simp [asks]) cached before

theorem coherent_requested (clamping : Clamping core) (coherent : Coherent s) {freq : ℕ}
    (asks : request core s e = some freq) (follows : Follows (govStep core s e)) : Coherent (govStep core s e) := by
  have requested := govStep_requested core coherent.slow asks
  constructor
  · rw [requested.policy]
    exact coherent.slow
  · rw [requested.policy]
    exact coherent.ordered
  · intro next switching
    rw [requested.worker] at switching
    rw [requested.next,requested.queued]
    rcases coherent.current next switching with cached | queued
    · by_cases same : s.lg.nextFreq = freq
      · exact Or.inl (cached.trans same)
      · exact Or.inr (by simp [same])
    · exact Or.inr (by simp [queued])
  · intro other asked
    rw [requested.asked,Option.mem_some_iff] at asked
    subst asked
    rw [requested.policy]
    exact ⟨requested.next,request_clamped clamping asks⟩
  · exact follows

theorem workBegin_coherent (coherent : Coherent s) : Coherent (govStep core s .workBegin) := by
  by_cases ready : s.worker = .idle ∧ s.lg.workQueued = true
  · have taken : govStep core s .workBegin = { s with lg := { s.lg with workQueued := false }, worker := .begun } := by
      simp [govStep,ready]
    rw [taken]
    refine ⟨coherent.slow,coherent.ordered,?_,coherent.cached,?_⟩
    · intro freq switching
      cases switching
    · intro freq asked drained
      cases drained.1
  · have same : govStep core s .workBegin = s := by simp [govStep,ready]
    rw [same]
    exact coherent

theorem workRead_coherent (coherent : Coherent s) : Coherent (govStep core s .workRead) := by
  by_cases ready : s.worker = .begun
  · have taken : govStep core s .workRead = { s with worker := .switching s.lg.nextFreq } := by
      simp [govStep,ready]
    rw [taken]
    refine ⟨coherent.slow,coherent.ordered,?_,coherent.cached,?_⟩
    · intro freq switching
      cases switching
      exact Or.inl rfl
    · intro freq asked drained
      cases drained.1
  · have same : govStep core s .workRead = s := by simp [govStep,ready]
    rw [same]
    exact coherent

theorem workTarget_coherent (clamping : Clamping core) (coherent : Coherent s) :
    Coherent (govStep core s .workTarget) := by
  cases place : s.worker with
  | switching freq =>
    have taken : govStep core s .workTarget =
        { s with policy := { s.policy with cur := clampT freq s.policy.min s.policy.max }, worker := .idle } := by
      simp [govStep,place,clamping.target]
    rw [taken]
    refine ⟨coherent.slow,coherent.ordered,?_,coherent.cached,?_⟩
    · intro freq switching
      cases switching
    · intro asked isAsked drained
      -- nothing was queued after the worker read the cache, so it switched to the last request
      obtain ⟨cached,within⟩ := coherent.cached asked isAsked
      rcases coherent.current freq place with read | queued
      · simp only [read,cached,within]
      · exact absurd (drained.2.symm.trans queued) Bool.false_ne_true
  | _ =>
    have same : govStep core s .workTarget = s := by simp [govStep,place]
    rw [same]
    exact coherent

theorem govLimits_coherent (clamping : Clamping core) (coherent : Coherent s) :
    Coherent (govStep core s .govLimits) := by
  have applied : govStep core s .govLimits =
      { s with policy := { s.policy with
          cur := if s.policy.max < s.policy.cur then s.policy.max
            else if s.policy.cur < s.policy.min then s.policy.min else s.policy.cur } } := by
    simp [govStep,lseGovLimits,coherent.slow,clamping.limits]
  rw [applied]
  refine ⟨coherent.slow,coherent.ordered,coherent.current,coherent.cached,?_⟩
  intro freq asked drained
  -- a frequency within the limits is left where it is
  have reached : s.policy.cur = freq := coherent.follows freq asked drained
  have within := (coherent.cached freq asked).2
  have ordered := coherent.ordered
  simp only [reached]
  unfold clampT at within
  split_ifs <;> omega

/-- The events that request nothing keep the governor coherent. -/
theorem coherent_quiet (clamping : Clamping core) (coherent : Coherent s) (quiet : request core s e = none) :
    Coherent (govStep core s e) := by
  cases e with
  | tick env cpu now =>
    have early : rateLimited (s.grq cpu) now = true := by
      by_contra late
      simp [request,late] at quiet
    have same : govStep core s (.tick env cpu now) = s := by
      simp [govStep,quiet,lseGovTickUpdate,early]
    rw [same]
    exact coherent
  | update env sum => simp [request] at quiet
  | softLimit env => simp [request] at quiet
  | configure settings => exact ⟨coherent.slow,coherent.ordered,coherent.current,coherent.cached,coherent.follows⟩
  | workBegin => exact workBegin_coherent coherent
  | workRead => exact workRead_coherent coherent
  | workTarget => exact workTarget_coherent clamping coherent
  | setLimits min max ordered =>
    refine ⟨coherent.slow,ordered,coherent.current,?_,?_⟩
    · intro freq asked
      cases asked
    · intro freq asked
      cases asked
  | govLimits => exact govLimits_coherent clamping coherent

/-- One event keeps the governor coherent exactly when it is no stale update. -/
theorem govStep_follows_iff (clamping : Clamping core) (coherent : Coherent s) :
    Follows (govStep core s e) ↔ Fresh core s e := by
  cases asks : request core s e with
  | some freq => exact follows_requested (govStep_requested core coherent.slow asks) asks
  | none =>
    refine iff_of_true (coherent_quiet clamping coherent asks).follows ?_
    intro freq asked
    rw [asks] at asked
    cases asked

theorem govStep_coherent (clamping : Clamping core) (coherent : Coherent s) (follows : Follows (govStep core s e)) :
    Coherent (govStep core s e) := by
  cases asks : request core s e with
  | some freq => exact coherent_requested clamping coherent asks follows
  | none => exact coherent_quiet clamping coherent asks

end

/-! ### Runs -/

/-- Along every run from the start of the governor, the hardware follows the requests
    exactly when no update that computes the cached frequency is stale. -/
theorem hardware_follows_iff (core : Core) (clamping : Clamping core) (w : World) (p : CpufreqPolicy) (clusterId : ℕ)
    (lg : LseGovPolicy) (grq : ℕ → LseGovRq) (slow : p.fastSwitchEnabled = false) (ordered : p.min ≤ p.max)
    (run : List GovEvent) :
    Along (govStep core) (fun s e => Follows (govStep core s e)) (started w p clusterId lg grq) run ↔
      Along (govStep core) (Fresh core) (started w p clusterId lg grq) run := by
  have start : Coherent (started w p clusterId lg grq) := by
    refine ⟨slow,ordered,?_,?_,?_⟩
    · intro freq switching
      cases switching
    · intro freq asked
      cases asked
    · intro freq asked
      cases asked
  exact along_iff Coherent (fun _ _ coherent _ => govStep_follows_iff clamping coherent)
    (fun _ _ coherent _ follows => govStep_coherent clamping coherent follows) start along_true

/-- A cpufreq that does what the governor relies on, with a fast switch that does the same. -/
def clampingCore : Core where
  driverResolveFreq := fun p freq => clampT freq p.min p.max
  driverFastSwitch := fun p freq => { p with cur := clampT freq p.min p.max }
  driverTarget := fun p freq => { p with cur := clampT freq p.min p.max }
  policyApplyLimits := fun p =>
    { p with cur := if p.max < p.cur then p.max else if p.cur < p.min then p.min else p.cur }

theorem clampingCore_clamping : Clamping clampingCore := ⟨fun _ _ => rfl,fun _ _ => rfl,fun _ => rfl⟩

/-- The default settings on a machine with one CPU. -/
def defaultEnv : Env := ⟨World.boot 1 (fun _ => plainTask),govSysctlDefaults,⟨90,-1,-1,true⟩⟩

/-- A busy window is rolled over and the worker runs; the maximum is lowered to half
    and raised again; a busy window is rolled over once more. -/
def throttledRun : List GovEvent :=
  [.update defaultEnv 8000000,.workBegin,.workRead,.workTarget,.setLimits 500000 1000000 (by decide),.govLimits,
    .setLimits 500000 2000000 (by decide),.govLimits,.update defaultEnv 8000000]

/-- In this run the hardware stays at half of what the last update asks for. -/
theorem hardware_left_behind :
    Clamping clampingCore ∧ fullPolicy.fastSwitchEnabled = false ∧ fullPolicy.min ≤ fullPolicy.max ∧
      ¬ Along (govStep clampingCore) (fun s e => Follows (govStep clampingCore s e))
        (started defaultEnv.world fullPolicy 0 lseGovPolicyAlloc (fun _ => ⟨0,0,0,0⟩)) throttledRun := by
  exact ⟨clampingCore_clamping,rfl,by decide,by decide +kernel⟩

theorem hardware_follows_throttled :
    Along (govStep clampingCore) (fun s e => Follows (govStep clampingCore s e))
        (started defaultEnv.world fullPolicy 0 lseGovPolicyAlloc (fun _ => ⟨0,0,0,0⟩)) throttledRun ↔
      Along (govStep clampingCore) (Fresh clampingCore)
        (started defaultEnv.world fullPolicy 0 lseGovPolicyAlloc (fun _ => ⟨0,0,0,0⟩)) throttledRun :=
  hardware_follows_iff clampingCore clampingCore_clamping _ fullPolicy 0 lseGovPolicyAlloc _ rfl (by decide) throttledRun

end LunarSched.GovernorCache
