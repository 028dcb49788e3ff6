import LunarSched.Dsq

/-!
The frequency governor (`cpufreq_lse.c`): how a policy's load becomes a target
load, a frequency and a request to the driver, on a tick and on a window rollover,
and which policies a rollover updates. What the governor calls of cpufreq is the
parameter `Core`. Frequencies, loads and limits are unsigned 32-bit words, and the
wrapping expressions of the source wrap here.
-/
namespace LunarSched.Governor
open LunarSched.Machine LunarSched.Kernel

/-- The sysctls of the governor. -/
structure GovSysctl where
  clusterWindowEnable : ℤ
  clusterTlDynEnable : ℤ
  clusterFreqCapEnable : ℤ
  clusterAggMode : ℤ
  govLegacyFormulaEnable : ℤ

def govSysctlDefaults : GovSysctl where
  clusterWindowEnable := 1
  clusterTlDynEnable := 1
  clusterFreqCapEnable := 1
  clusterAggMode := 1
  govLegacyFormulaEnable := 0

def lseAggTop2Avg : ℤ := 1
def defaultTargetLoad : ℕ := 90
def maxLseClusters : ℕ := 4
def lseGovRateLimitNs : ℕ := 400000
def utilCacheStaleNs : ℕ := 16000000

/-- What the governor reads of a `struct cpufreq_policy`. -/
structure CpufreqPolicy where
  cpus : Cpumask
  relatedCpus : Cpumask
  min : ℕ
  max : ℕ
  cur : ℕ
  cpuinfoMinFreq : ℕ
  cpuinfoMaxFreq : ℕ
  fastSwitchEnabled : Bool

/-- A policy for CPU 0 at its highest frequency. -/
def fullPolicy : CpufreqPolicy :=
  ⟨fun cpu => cpu == 0,fun cpu => cpu == 0,500000,2000000,2000000,500000,2000000,false⟩

/-- The functions of cpufreq that act on a policy. -/
structure Core where
  driverResolveFreq : CpufreqPolicy → ℕ → ℕ
  driverFastSwitch : CpufreqPolicy → ℕ → CpufreqPolicy
  driverTarget : CpufreqPolicy → ℕ → CpufreqPolicy
  policyApplyLimits : CpufreqPolicy → CpufreqPolicy

/-- `struct lse_gov_tunables`. -/
structure LseGovTunables where
  targetLoads : ℕ
  softFreqMax : ℤ
  softFreqMin : ℤ
  applyFreqImmediately : Bool

/-- `struct lse_gov_policy`; `workQueued` says that its `kthread_work` is queued. -/
structure LseGovPolicy where
  nextFreq : ℕ
  freqCached : ℕ
  workQueued : Bool
  clusterId : ℕ
  targetLoadBase : ℕ
  targetLoadMin : ℕ
  targetLoadMax : ℕ
  targetLoadStep : ℕ
  clusterWindowNs : ℕ
  clusterFreqCapMax : ℕ
  clusterFreqCapMin : ℕ
  lastAggUtil : ℕ
  lastPowerPressure : ℕ
  lastTargetLoadDyn : ℕ
  lastFreqCapApplied : ℕ

def lseGovPolicyAlloc : LseGovPolicy := ⟨0,0,false,0,0,0,0,0,0,0,0,0,0,0,0⟩

/-- `struct lse_gov_rq`. -/
structure LseGovRq where
  lastTickNs : ℕ
  currUtil : ℕ
  cachedThisSum : ℕ
  cachedAggUtil : ℕ

def lseGetPolicyWindowNs (y : GovSysctl) (g : Track) (lg : LseGovPolicy) : ℕ :=
  if y.clusterWindowEnable = 0 then g.ravgWindow
  else if lg.clusterWindowNs = 0 then g.ravgWindow
  else lg.clusterWindowNs

/-- The largest and the second largest value so far, with one more. -/
def top2 (top : ℕ × ℕ) (value : ℕ) : ℕ × ℕ :=
  if top.1 ≤ value then (value,top.1)
  else if top.2 < value then (top.1,value)
  else top

/-- A sum of running time in a window on the scale of 1024, cut off there. -/
def utilOf (windowNs sum : ℕ) : ℕ := min (u64 (sum * 1024) / windowNs) 1024

/-- The window over which `lse_top2_avg_util` takes a CPU's sum. -/
def utilWindow (w : World) (cpu : ℕ) : ℕ :=
  if (w.lrq cpu).prevWindowSize ≠ 0 then (w.lrq cpu).prevWindowSize else w.track.ravgWindow

def lseTop2AvgUtil (w : World) (mask : Cpumask) : ℕ :=
  let cpus := (forEachCpu w.nrCpuIds mask).filter (fun cpu => utilWindow w cpu ≠ 0)
  let top := (cpus.map (fun cpu => utilOf (utilWindow w cpu) (w.lrq cpu).prevRunnableSum)).foldl top2 (0,0)
  if cpus.length = 0 then 0
  else if cpus.length = 1 then top.1
  else u32 (top.1 + top.2) / 2

/-- The full traversal of `lse_gov_cluster_util`. -/
def traverseUtil (w : World) (y : GovSysctl) (cpus : Cpumask) : ℕ :=
  let sums := (forEachCpu w.nrCpuIds cpus).map (fun cpu => (w.lrq cpu).prevRunnableSum)
  let maxSum :=
    if y.clusterAggMode = lseAggTop2Avg then
      let top := sums.foldl top2 (0,0)
      u64 (top.1 + top.2) / 2
    else sums.foldl max 0
  utilOf (max w.track.ravgWindow 1) maxSum

/-- `lse_gov_cluster_util` on `thisCpu` at the local clock `now`. -/
def lseGovClusterUtil (w : World) (y : GovSysctl) (cpus : Cpumask) (grq : LseGovRq) (thisCpu now : ℕ) :
    ℕ × LseGovRq :=
  let thisSum := (w.lrq thisCpu).prevRunnableSum
  let diff := if grq.cachedThisSum < thisSum then thisSum - grq.cachedThisSum else grq.cachedThisSum - thisSum
  if grq.cachedAggUtil ≠ 0 ∧ grq.cachedThisSum ≠ 0 ∧ u64Sub now grq.lastTickNs < utilCacheStaleNs ∧
      u64 (diff * 20) < grq.cachedThisSum then
    (grq.cachedAggUtil,{ grq with cachedThisSum := thisSum })
  else
    let util := traverseUtil w y cpus
    (util,{ grq with cachedThisSum := thisSum, cachedAggUtil := util })

/-! ### Target load and frequency -/

def lseComputePowerPressure (p : CpufreqPolicy) (aggUtil : ℕ) : ℕ :=
  let pressure := if p.cpuinfoMaxFreq ≠ 0 then multFrac p.cur 1024 p.cpuinfoMaxFreq else 0
  min (u32 (pressure + aggUtil) / 2) 1024

/-- The target load of a policy before it is adapted to the pressure. -/
def baseTargetLoad (lg : LseGovPolicy) : ℕ :=
  clampT (if lg.targetLoadBase ≠ 0 then lg.targetLoadBase else defaultTargetLoad) lg.targetLoadMin lg.targetLoadMax

/-- `lse_dynamic_target_load`: the target load, and the policy with its last pressure. -/
def lseDynamicTargetLoad (y : GovSysctl) (p : CpufreqPolicy) (lg : LseGovPolicy) (aggUtil : ℕ) : ℕ × LseGovPolicy :=
  let tl := baseTargetLoad lg
  if y.clusterTlDynEnable = 0 then (tl,lg)
  else
    let pressure := lseComputePowerPressure p aggUtil
    let tl :=
      if 850 < pressure ∧ u32 (tl + lg.targetLoadStep) ≤ lg.targetLoadMax then u32 (tl + lg.targetLoadStep)
      else if pressure < 450 ∧ u32 (lg.targetLoadMin + lg.targetLoadStep) < tl then u32Sub tl lg.targetLoadStep
      else tl
    (clampT tl lg.targetLoadMin lg.targetLoadMax,{ lg with lastPowerPressure := pressure })

/-- The frequency `cur × aggUtil / targetLoad` as an `unsigned int`, or the policy's
    minimum when that is 0: the formula that the tick and the rollover share. -/
def scaledFreq (p : CpufreqPolicy) (freq aggUtil targetLoad : ℕ) : ℕ :=
  let next := u32 (u64 (freq * aggUtil) / max targetLoad 1)
  if next = 0 then p.cpuinfoMinFreq else next

/-- The legacy formula of `get_next_freq`, with a division by 0 giving 0. -/
def legacyFreq (g : Track) (cap freq targetLoad prevRunnableSum : ℕ) : ℕ :=
  let windowSizeTl := multFrac g.ravgWindow targetLoad 100
  u32 (div64U64Roundup (u64 (prevRunnableSum * 1024)) (div64U64Roundup (u64 (windowSizeTl * cap)) freq))

/-- The base of the formula in `get_next_freq`. -/
def currFreq (p : CpufreqPolicy) : ℕ := if p.cur ≠ 0 then p.cur else p.cpuinfoMinFreq

/-- The utilisation that `get_next_freq` computes from a sum. -/
def aggUtilOf (y : GovSysctl) (g : Track) (lg : LseGovPolicy) (prevRunnableSum : ℕ) : ℕ :=
  utilOf (max (lseGetPolicyWindowNs y g lg) 1) prevRunnableSum

/-- `get_next_freq`. The target load that it reads from the tunables first is always
    overwritten. -/
def getNextFreq (w : World) (y : GovSysctl) (p : CpufreqPolicy) (lg : LseGovPolicy) (prevRunnableSum : ℕ) :
    ℕ × LseGovPolicy :=
  let cap := (w.freq (cpumaskFirst w.nrCpuIds p.cpus)).capacity
  let aggUtil := aggUtilOf y w.track lg prevRunnableSum
  let (clusterTl,lg) := lseDynamicTargetLoad y p lg aggUtil
  let lg := { lg with lastTargetLoadDyn := clusterTl, lastAggUtil := aggUtil }
  if y.govLegacyFormulaEnable ≠ 0 then
    (legacyFreq w.track (if cap = 0 then 1 else cap) (currFreq p) clusterTl prevRunnableSum,lg)
  else (scaledFreq p (currFreq p) aggUtil clusterTl,lg)

/-- The frequency that `lse_gov_tick_update` computes from a utilisation, the target
    load it used, and the policy's record. -/
def tickFreq (y : GovSysctl) (p : CpufreqPolicy) (lg : LseGovPolicy) (aggUtil : ℕ) : ℕ × ℕ × LseGovPolicy :=
  let (clusterTl,lg) := if y.clusterTlDynEnable ≠ 0 then lseDynamicTargetLoad y p lg aggUtil else (baseTargetLoad lg,lg)
  (scaledFreq p p.cur aggUtil clusterTl,clusterTl,lg)

def softFreqClamp (y : GovSysctl) (tun : LseGovTunables) (lg : LseGovPolicy) (targetFreq : ℕ) : ℕ × LseGovPolicy :=
  let freq := if 0 ≤ tun.softFreqMin ∧ targetFreq < tun.softFreqMin.toNat then tun.softFreqMin.toNat else targetFreq
  let freq := if 0 ≤ tun.softFreqMax ∧ tun.softFreqMax.toNat < freq then tun.softFreqMax.toNat else freq
  let freq :=
    if y.clusterFreqCapEnable ≠ 0 then
      let freq := if lg.clusterFreqCapMax ≠ 0 ∧ lg.clusterFreqCapMax < freq then lg.clusterFreqCapMax else freq
      if lg.clusterFreqCapMin ≠ 0 ∧ freq < lg.clusterFreqCapMin then lg.clusterFreqCapMin else freq
    else freq
  (freq,{ lg with lastFreqCapApplied := freq })

/-- The common end of the update paths: a frequency that is not the cached one is
    cached, and switched to at once or by the worker. -/
def requestFreq (core : Core) (p : CpufreqPolicy) (lg : LseGovPolicy) (nextF : ℕ) : CpufreqPolicy × LseGovPolicy :=
  if lg.nextFreq = nextF then (p,lg)
  else if p.fastSwitchEnabled then (core.driverFastSwitch p nextF,{ lg with nextFreq := nextF })
  else (p,{ lg with nextFreq := nextF, workQueued := true })

/-- The request of `lse_gov_update_cpufreq`, and the policy's record before it is made. -/
def updateRequest (core : Core) (w : World) (y : GovSysctl) (tun : LseGovTunables) (p : CpufreqPolicy)
    (lg : LseGovPolicy) (prevRunnableSum : ℕ) : ℕ × LseGovPolicy :=
  let (nextF,lg) := getNextFreq w y p lg prevRunnableSum
  let (nextF,lg) := softFreqClamp y tun lg nextF
  let nextF := core.driverResolveFreq p nextF
  (nextF,{ lg with freqCached := if lg.nextFreq ≠ 0 then lg.nextFreq else nextF })

def lseGovUpdateCpufreq (core : Core) (w : World) (y : GovSysctl) (tun : LseGovTunables) (p : CpufreqPolicy)
    (lg : LseGovPolicy) (prevRunnableSum : ℕ) : CpufreqPolicy × LseGovPolicy :=
  let (nextF,lg) := updateRequest core w y tun p lg prevRunnableSum
  requestFreq core p lg nextF

/-- The request of `lse_gov_update_soft_limit_cpufreq`. -/
def softLimitRequest (core : Core) (y : GovSysctl) (tun : LseGovTunables) (p : CpufreqPolicy) (lg : LseGovPolicy) :
    ℕ × LseGovPolicy :=
  let (nextF,lg) := softFreqClamp y tun lg lg.nextFreq
  (core.driverResolveFreq p nextF,lg)

def lseGovUpdateSoftLimitCpufreq (core : Core) (y : GovSysctl) (tun : LseGovTunables) (p : CpufreqPolicy)
    (lg : LseGovPolicy) : CpufreqPolicy × LseGovPolicy :=
  let (nextF,lg) := softLimitRequest core y tun p lg
  requestFreq core p lg nextF

/-- A tick that comes too soon after the last one on the CPU is ignored. -/
def rateLimited (grq : LseGovRq) (now : ℕ) : Bool := u64Sub now grq.lastTickNs < lseGovRateLimitNs

/-- The request of a tick that is not ignored, and the records before it is made. -/
def tickRequest (core : Core) (w : World) (y : GovSysctl) (tun : LseGovTunables) (p : CpufreqPolicy)
    (lg : LseGovPolicy) (grq : LseGovRq) (cpu now : ℕ) : ℕ × LseGovPolicy × LseGovRq :=
  let (aggUtil,grq) := lseGovClusterUtil w y p.cpus { grq with lastTickNs := now } cpu now
  let grq := { grq with currUtil := aggUtil }
  let dsqBoost := Dsq.lseDsqUrgencySignal w
  let aggUtil := min (u32 (aggUtil * (1024 + dsqBoost)) / 1024) 1024
  let (nextF,clusterTl,lg) := tickFreq y p lg aggUtil
  let (nextF,lg) := softFreqClamp y tun lg nextF
  (core.driverResolveFreq p nextF,{ lg with lastAggUtil := aggUtil, lastTargetLoadDyn := clusterTl },grq)

/-- `lse_gov_tick_update` on a CPU of a policy that the governor runs. -/
def lseGovTickUpdate (core : Core) (w : World) (y : GovSysctl) (tun : LseGovTunables) (p : CpufreqPolicy)
    (lg : LseGovPolicy) (grq : LseGovRq) (cpu now : ℕ) : CpufreqPolicy × LseGovPolicy × LseGovRq :=
  if rateLimited grq now then (p,lg,grq)
  else
    let (nextF,lg,grq) := tickRequest core w y tun p lg grq cpu now
    let (p,lg) := requestFreq core p lg nextF
    (p,lg,grq)

def lseGovLimits (core : Core) (p : CpufreqPolicy) (lg : LseGovPolicy) : CpufreqPolicy :=
  if p.fastSwitchEnabled = false then core.policyApplyLimits p
  else core.driverFastSwitch p (core.driverResolveFreq p lg.nextFreq)

/-! ### Clusters and rollovers -/

structure LseSchedCluster where
  id : ℕ
  cpus : Cpumask

/-- What `governor_data` of a policy points to: nothing, a policy of this governor
    that is started or not, or the data of another governor, with the word that lies
    where this governor's window is. -/
inductive GovernorData where
  | none
  | lse (lg : LseGovPolicy) (started : Bool)
  | other (windowWord : ℕ)

/-- The policies, numbered, with `cpufreq_cpu_data` and `governor_data`, the clusters
    in the order of their list, the topology ids of the CPUs, the CPUs with an update
    hook, and `gov_flag` with whatever lies behind its four entries. -/
structure Cpufreq where
  clusters : List LseSchedCluster
  topologyClusterId : ℕ → ℕ
  govFlag : ℕ → ℤ
  cpuData : ℕ → Option ℕ
  policy : ℕ → CpufreqPolicy
  governorData : ℕ → GovernorData
  updateUtilHook : Cpumask

/-- `cpufreq_cpu_get_raw`: the CPU's policy, when the CPU is one of its `cpus`. -/
def cpufreqCpuGetRaw (c : Cpufreq) (cpu : ℕ) : Option ℕ := (c.cpuData cpu).filter (fun p => (c.policy p).cpus cpu)

def clusterOnline (w : World) (cluster : LseSchedCluster) : Cpumask := fun cpu => cluster.cpus cpu && w.online cpu

/-- The window by which a rollover turns the utilisation of a cluster into a sum. -/
def rolloverWindow (w : World) (y : GovSysctl) (c : Cpufreq) (policy : Option ℕ) : ℕ :=
  match policy.map c.governorData with
  | some (.lse lg _) => lseGetPolicyWindowNs y w.track lg
  | some (.other windowWord) =>
    if y.clusterWindowEnable = 0 ∨ windowWord = 0 then w.track.ravgWindow else windowWord
  | some .none | none => w.track.ravgWindow

/-- The sum that a rollover passes on for a cluster whose first online CPU has the policy. -/
def clusterSum (w : World) (y : GovSysctl) (mask : Cpumask) (windowNs : ℕ) : ℕ :=
  if y.clusterAggMode = lseAggTop2Avg then u64 (lseTop2AvgUtil w mask * windowNs) / 1024
  else ((forEachCpu w.nrCpuIds mask).map (fun cpu => (w.lrq cpu).prevRunnableSum)).foldl max 0

/-- The policy that a rollover updates for a cluster, if there is one, and the sum. -/
def rolloverCall (w : World) (y : GovSysctl) (c : Cpufreq) (cluster : LseSchedCluster) : Option ℕ × ℕ :=
  let mask := clusterOnline w cluster
  let policy := cpufreqCpuGetRaw c (cpumaskFirst w.nrCpuIds mask)
  (policy,clusterSum w y mask (rolloverWindow w y c policy))

/-- The arguments with which `lsegov_update_freq` calls `lse_gov_update_cpufreq` on a
    rollover. It does so without a policy, too. -/
def lsegovUpdateFreq (w : World) (y : GovSysctl) (c : Cpufreq) : List (Option ℕ × ℕ) :=
  (c.clusters.filter (fun cluster => c.govFlag cluster.id ≠ 0)).map (rolloverCall w y c)

/-- The index of `gov_flag` that starting and stopping a policy uses. -/
def policyClusterId (w : World) (c : Cpufreq) (policy : ℕ) : ℕ :=
  c.topologyClusterId (cpumaskFirst w.nrCpuIds (c.policy policy).relatedCpus)

def setGovFlag (c : Cpufreq) (clusterId : ℕ) (value : ℤ) : Cpufreq :=
  if clusterId < maxLseClusters then { c with govFlag := Function.update c.govFlag clusterId value } else c

/-- What `lse_gov_start` writes into the policy's record. -/
def startedPolicy (w : World) (p : CpufreqPolicy) (clusterId : ℕ) (lg : LseGovPolicy) : LseGovPolicy :=
  { lg with
    nextFreq := 0
    clusterId := clusterId
    targetLoadBase := defaultTargetLoad
    targetLoadMin := 70
    targetLoadMax := 95
    targetLoadStep := 2
    clusterWindowNs := w.track.ravgWindow
    clusterFreqCapMax := p.cpuinfoMaxFreq
    clusterFreqCapMin := p.cpuinfoMinFreq }

def lseGovStart (w : World) (c : Cpufreq) (policy : ℕ) (lg : LseGovPolicy) : Cpufreq :=
  let clusterId := policyClusterId w c policy
  let data := GovernorData.lse (startedPolicy w (c.policy policy) clusterId lg) true
  setGovFlag
    { c with
      governorData := Function.update c.governorData policy data
      updateUtilHook := fun cpu => (c.policy policy).cpus cpu || c.updateUtilHook cpu } clusterId 1

/-- `lse_gov_stop`; on the slow path it cancels the queued work. -/
def lseGovStop (w : World) (c : Cpufreq) (policy : ℕ) (lg : LseGovPolicy) : Cpufreq :=
  let queued := if (c.policy policy).fastSwitchEnabled then lg.workQueued else false
  let data := GovernorData.lse { lg with workQueued := queued } false
  setGovFlag
    { c with
      governorData := Function.update c.governorData policy data
      updateUtilHook := fun cpu => !(c.policy policy).cpus cpu && c.updateUtilHook cpu } (policyClusterId w c policy) 0

end LunarSched.Governor
