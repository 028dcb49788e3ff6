import LunarSched.LoadResponse
import LunarSched.GovernorCache
import LunarSched.GovernorInit

/-!
The tunable `target_loads`. `get_next_freq` reads it, but overwrites what it has read with
the base that every policy is given at its start, and both that function and the tick take
their target load from the base alone. So along a run a value in the range of the target
load that is written to `target_loads` is used exactly when it is the default that the
base has (`target_loads_used_iff`).
-/
namespace LunarSched.TargetTunable
open LunarSched.Kernel LunarSched.Governor LunarSched.Runs LunarSched.ClusterLoad LunarSched.LoadResponse
open LunarSched.GovernorCache (clampingCore)
open LunarSched.GovernorInit (einval)

/-- `target_loads_store`. `parsed` is what `kstrtouint` makes of the text. -/
def targetLoadsStore (tun : LseGovTunables) (parsed : Option ℕ) (count : ℤ) : ℤ × LseGovTunables :=
  match parsed with
  | none => (einval,tun)
  | some newTargetLoads => (count,{ tun with targetLoads := newTargetLoads })

/-- What `get_next_freq` computes from its target load. -/
def formulaFreq (w : World) (y : GovSysctl) (p : CpufreqPolicy) (aggUtil sum clusterTl : ℕ) : ℕ :=
  let cap := (w.freq (cpumaskFirst w.nrCpuIds p.cpus)).capacity
  if y.govLegacyFormulaEnable ≠ 0 then legacyFreq w.track (if cap = 0 then 1 else cap) (currFreq p) clusterTl sum
  else scaledFreq p (currFreq p) aggUtil clusterTl

/-- `get_next_freq` with everything that it assigns to its target load. -/
def getNextFreqTuned (w : World) (y : GovSysctl) (tunables : Option LseGovTunables) (p : CpufreqPolicy)
    (lg : LseGovPolicy) (sum : ℕ) : ℕ × LseGovPolicy :=
  let clusterTl := defaultTargetLoad
  let clusterTl := match tunables with
    | some tun => tun.targetLoads
    | none => clusterTl
  -- nothing reads this one any more
  let _clusterTl := if lg.targetLoadBase ≠ 0 then lg.targetLoadBase else clusterTl
  let aggUtil := aggUtilOf y w.track lg sum
  let (clusterTl,lg) := lseDynamicTargetLoad y p lg aggUtil
  (formulaFreq w y p aggUtil sum clusterTl,{ lg with lastTargetLoadDyn := clusterTl, lastAggUtil := aggUtil })

theorem getNextFreqTuned_eq (w : World) (y : GovSysctl) (tunables : Option LseGovTunables) (p : CpufreqPolicy)
    (lg : LseGovPolicy) (sum : ℕ) : getNextFreqTuned w y tunables p lg sum = getNextFreq w y p lg sum := by
  simp only [getNextFreqTuned,getNextFreq,formulaFreq]
  split_ifs <;> rfl

/-- A policy of the governor with its tunables. -/
structure Tuned where
  policy : CpufreqPolicy
  lg : LseGovPolicy
  grq : ℕ → LseGovRq
  tun : LseGovTunables

inductive TunedEvent where
  /-- A write to `target_loads`. -/
  | store (parsed : Option ℕ) (count : ℤ)
  /-- Writes to the other tunables. -/
  | limits (softFreqMax softFreqMin : ℤ) (applyFreqImmediately : Bool)
  | softLimit (y : GovSysctl)
  /-- A rollover. -/
  | update (w : World) (y : GovSysctl) (sum : ℕ)
  | tick (w : World) (y : GovSysctl) (cpu now : ℕ)
  /-- The frequency or the limits of the policy change. -/
  | cpufreq (policy : CpufreqPolicy)
  /-- The governor is started again. -/
  | start (w : World) (clusterId : ℕ)

def tunedStep (core : Core) (s : Tuned) : TunedEvent → Tuned
  | .store parsed count => { s with tun := (targetLoadsStore s.tun parsed count).2 }
  | .limits max min immediately =>
    { s with tun := { s.tun with softFreqMax := max, softFreqMin := min, applyFreqImmediately := immediately } }
  | .softLimit y =>
    let (p,lg) := lseGovUpdateSoftLimitCpufreq core y s.tun s.policy s.lg
    { s with policy := p, lg := lg }
  | .update w y sum =>
    let (p,lg) := lseGovUpdateCpufreq core w y s.tun s.policy s.lg sum
    { s with policy := p, lg := lg }
  | .tick w y cpu now =>
    let (p,lg,grq) := lseGovTickUpdate core w y s.tun s.policy s.lg (s.grq cpu) cpu now
    { s with policy := p, lg := lg, grq := Function.update s.grq cpu grq }
  | .cpufreq policy => { s with policy := policy }
  | .start w clusterId => { s with lg := startedPolicy w s.policy clusterId s.lg }

/-- The target load that an event uses, if it computes a frequency: the one it records. -/
def targetLoadUsed (core : Core) (s : Tuned) : TunedEvent → Option ℕ
  | .update w y sum => some (getNextFreqTuned w y (some s.tun) s.policy s.lg sum).2.lastTargetLoadDyn
  | .tick w y cpu now =>
    if rateLimited (s.grq cpu) now then none
    else some (tickRequest core w y s.tun s.policy s.lg (s.grq cpu) cpu now).2.1.lastTargetLoadDyn
  | _ => none

/-- The tunable is in the range of the target load. -/
def InRange (s : Tuned) : Prop := s.lg.targetLoadMin ≤ s.tun.targetLoads ∧ s.tun.targetLoads ≤ s.lg.targetLoadMax

/-- A frequency is computed with the value of the tunable. -/
def UsesTunable (core : Core) (s : Tuned) (e : TunedEvent) : Prop :=
  ∀ used ∈ targetLoadUsed core s e, InRange s → used = s.tun.targetLoads

/-- A frequency is computed while the tunable has the default value. -/
def TunableDefault (core : Core) (s : Tuned) (e : TunedEvent) : Prop :=
  (targetLoadUsed core s e).isSome → InRange s → s.tun.targetLoads = defaultTargetLoad

/-- The target load is not dynamic when a frequency is computed. -/
def Static : TunedEvent → Prop
  | .update _ y _ | .tick _ y _ _ => y.clusterTlDynEnable = 0
  | _ => True

instance (s : Tuned) : Decidable (InRange s) := inferInstanceAs (Decidable (_ ∧ _))
instance (core : Core) (s : Tuned) (e : TunedEvent) : Decidable (UsesTunable core s e) :=
  inferInstanceAs (Decidable (∀ used ∈ targetLoadUsed core s e, _))
instance (core : Core) (s : Tuned) (e : TunedEvent) : Decidable (TunableDefault core s e) :=
  inferInstanceAs (Decidable (_ → _ → _))

/-- A policy right after its start. -/
def tunedStart (w : World) (p : CpufreqPolicy) (clusterId : ℕ) (lg : LseGovPolicy) (grq : ℕ → LseGovRq)
    (tun : LseGovTunables) : Tuned := ⟨p,startedPolicy w p clusterId lg,grq,tun⟩

/-- What decides about the target load when it is not dynamic. -/
def SameTarget (before after : LseGovPolicy) : Prop :=
  after.targetLoadBase = before.targetLoadBase ∧ after.targetLoadMin = before.targetLoadMin ∧
    after.targetLoadMax = before.targetLoadMax

/-- The policy has the target load of its start. -/
def BaseStarted (lg : LseGovPolicy) : Prop :=
  lg.targetLoadBase = 90 ∧ lg.targetLoadMin = 70 ∧ lg.targetLoadMax = 95

section
variable {core : Core} {s : Tuned} {before after : LseGovPolicy}

theorem baseStarted_of_same (base : BaseStarted before) (same : SameTarget before after) : BaseStarted after := by
  obtain ⟨first,low,high⟩ := same
  obtain ⟨base,min,max⟩ := base
  exact ⟨first.trans base,low.trans min,high.trans max⟩

theorem baseTargetLoad_started {lg : LseGovPolicy} (base : BaseStarted lg) : baseTargetLoad lg = 90 := by
  obtain ⟨base,min,max⟩ := base
  simp [baseTargetLoad,base,min,max,Machine.clampT]

theorem dynamicTargetLoad_same (y : GovSysctl) (p : CpufreqPolicy) (lg : LseGovPolicy) (aggUtil : ℕ) :
    SameTarget lg (lseDynamicTargetLoad y p lg aggUtil).2 := by
  simp only [lseDynamicTargetLoad]
  split_ifs <;> exact ⟨rfl,rfl,rfl⟩

theorem requestFreq_same (core : Core) (p : CpufreqPolicy) (lg : LseGovPolicy) (nextF : ℕ) :
    SameTarget lg (requestFreq core p lg nextF).2 := by
  unfold requestFreq
  split_ifs <;> exact ⟨rfl,rfl,rfl⟩

theorem getNextFreq_same (w : World) (y : GovSysctl) (p : CpufreqPolicy) (lg : LseGovPolicy) (sum : ℕ) :
    SameTarget lg (getNextFreq w y p lg sum).2 := by
  have load := dynamicTargetLoad_same y p lg (aggUtilOf y w.track lg sum)
  simp only [getNextFreq]
  split_ifs <;> exact load

theorem tickFreq_same (y : GovSysctl) (p : CpufreqPolicy) (lg : LseGovPolicy) (aggUtil : ℕ) :
    SameTarget lg (tickFreq y p lg aggUtil).2.2 := by
  simp only [tickFreq]
  split_ifs
  · exact dynamicTargetLoad_same y p lg aggUtil
  · exact ⟨rfl,rfl,rfl⟩

theorem sameTarget_trans {last : LseGovPolicy} (first : SameTarget before after) (second : SameTarget after last) :
    SameTarget before last :=
  ⟨second.1.trans first.1,second.2.1.trans first.2.1,second.2.2.trans first.2.2⟩

theorem tunedStep_base (base : BaseStarted s.lg) (e : TunedEvent) : BaseStarted (tunedStep core s e).lg := by
  cases e with
  | softLimit y => exact baseStarted_of_same base (requestFreq_same core s.policy _ _)
  | update w y sum =>
    have computed : SameTarget s.lg (updateRequest core w y s.tun s.policy s.lg sum).2 :=
      getNextFreq_same w y s.policy s.lg sum
    exact baseStarted_of_same base (sameTarget_trans computed (requestFreq_same core s.policy _ _))
  | tick w y cpu now =>
    by_cases early : rateLimited (s.grq cpu) now
    · simpa [tunedStep,lseGovTickUpdate,early] using base
    · have computed : SameTarget s.lg (tickRequest core w y s.tun s.policy s.lg (s.grq cpu) cpu now).2.1 :=
        tickFreq_same y s.policy s.lg _
      have requested := sameTarget_trans computed (requestFreq_same core s.policy _
        (tickRequest core w y s.tun s.policy s.lg (s.grq cpu) cpu now).1)
      simpa [tunedStep,lseGovTickUpdate,early] using baseStarted_of_same base requested
  | start w clusterId => exact ⟨rfl,rfl,rfl⟩
  | store _ _ => exact base
  | limits _ _ _ => exact base
  | cpufreq _ => exact base

/-- Whatever computes a frequency uses the base. -/
theorem targetLoadUsed_eq (base : BaseStarted s.lg) {e : TunedEvent} (static : Static e) {used : ℕ}
    (uses : used ∈ targetLoadUsed core s e) : used = 90 := by
  have start := baseTargetLoad_started base
  cases e with
  | update w y sum =>
    have off : y.clusterTlDynEnable = 0 := static
    simpa [targetLoadUsed,getNextFreqTuned,lseDynamicTargetLoad,off,start,eq_comm] using uses
  | tick w y cpu now =>
    have off : y.clusterTlDynEnable = 0 := static
    by_cases early : rateLimited (s.grq cpu) now
    · simp [targetLoadUsed,early] at uses
    · simpa [targetLoadUsed,early,tickRequest,tickFreq,off,start,eq_comm] using uses
  | _ => cases uses

theorem usesTunable_iff (base : BaseStarted s.lg) {e : TunedEvent} (static : Static e) :
    UsesTunable core s e ↔ TunableDefault core s e := by
  simp only [UsesTunable,TunableDefault,defaultTargetLoad]
  cases computes : targetLoadUsed core s e with
  | none => simp
  | some used =>
    have is_base : used = 90 := targetLoadUsed_eq base static computes
    simp [is_base,eq_comm]

end

/-- On every started policy whose target load is not dynamic, in every run, the frequencies
    are computed with the value of the tunable exactly when it is the default. -/
theorem target_loads_used_iff (core : Core) (w : World) (p : CpufreqPolicy) (clusterId : ℕ) (lg : LseGovPolicy)
    (grq : ℕ → LseGovRq) (tun : LseGovTunables) (events : List TunedEvent) (static : ∀ e ∈ events, Static e) :
    Along (tunedStep core) (UsesTunable core) (tunedStart w p clusterId lg grq tun) events ↔
      Along (tunedStep core) (TunableDefault core) (tunedStart w p clusterId lg grq tun) events :=
  along_iff (fun s => BaseStarted s.lg) (fun _ e base (static : Static e) => usesTunable_iff base static)
    (fun _ e base _ _ => tunedStep_base base e) ⟨rfl,rfl,rfl⟩ (along_forall.mpr static)

/-- The settings of the governor with a target load that is not dynamic. -/
def staticSysctl : GovSysctl := { govSysctlDefaults with clusterTlDynEnable := 0 }

/-- 80 percent are written; a window is rolled over, and a tick comes. -/
def storeRun : List TunedEvent :=
  [.store (some 80) 3,.update (loaded 4000000) staticSysctl 4000000,.tick (loaded 4000000) staticSysctl 0 500000]

def storeStart : Tuned := tunedStart (loaded 0) fullPolicy 0 lseGovPolicyAlloc (fun _ => ⟨0,0,0,0⟩) noLimits

theorem storeRun_static : ∀ e ∈ storeRun, Static e := by
  simp [storeRun,Static,staticSysctl]

/-- Both frequencies are computed with the default. -/
theorem target_loads_ignored :
    (∀ e ∈ storeRun, Static e) ∧ InRange (exec (tunedStep clampingCore) storeStart (storeRun.take 1)) ∧
      ¬ Along (tunedStep clampingCore) (UsesTunable clampingCore) storeStart storeRun ∧
      targetLoadUsed clampingCore (exec (tunedStep clampingCore) storeStart (storeRun.take 2))
        (.tick (loaded 4000000) staticSysctl 0 500000) = some 90 :=
  ⟨storeRun_static,by decide +kernel,by decide +kernel,by decide +kernel⟩

/-- 80 percent are written and the default again, before the rollover and the tick. -/
def defaultRun : List TunedEvent :=
  [.store (some 80) 3,.store (some 90) 3,.update (loaded 4000000) staticSysctl 4000000,
    .tick (loaded 4000000) staticSysctl 0 500000]

theorem target_loads_used_default : Along (tunedStep clampingCore) (UsesTunable clampingCore) storeStart defaultRun :=
  (target_loads_used_iff clampingCore (loaded 0) fullPolicy 0 lseGovPolicyAlloc (fun _ => ⟨0,0,0,0⟩) noLimits defaultRun
    (by simp [defaultRun,Static,staticSysctl])).mpr (by decide +kernel)

end LunarSched.TargetTunable
