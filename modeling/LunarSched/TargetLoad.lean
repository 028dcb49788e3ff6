import LunarSched.ClusterLoad
import LunarSched.UtilTrack

/-!
The target load and the frequency. The governor multiplies the current frequency by
a utilisation on the scale of 1024 and divides by a target load in percent, so the
two are compared as if they were on one scale: the frequency goes up whenever the
number of the utilisation is above the number of the target load
(`target_respected_iff`). The utilisation is already scaled by the current frequency,
so a CPU that is busy all the time but slow enough is slowed down further
(`saturated_kept_iff`).
-/
namespace LunarSched.TargetLoad
open LunarSched.Machine LunarSched.Kernel LunarSched.Governor LunarSched.Scale LunarSched.ClusterLoad

/-- The utilisation, of 1024, is at or below the target load, in percent. -/
def AtTarget (targetLoad aggUtil : ℕ) : Prop := 100 * aggUtil ≤ targetLoad * 1024

/-- A frequency that does not go up from a policy's while its load is at or below target. -/
def Respected (y : GovSysctl) (p : CpufreqPolicy) (lg : LseGovPolicy) (aggUtil freq : ℕ) : Prop :=
  AtTarget (lseDynamicTargetLoad y p lg aggUtil).1 aggUtil → freq ≤ max p.cur p.cpuinfoMinFreq

/-- A load at or below target whose product with the frequency stays below the target
    load's with the next higher frequency, or wraps around to less than that. -/
def Fits (y : GovSysctl) (p : CpufreqPolicy) (lg : LseGovPolicy) (aggUtil : ℕ) : Prop :=
  let targetLoad := (lseDynamicTargetLoad y p lg aggUtil).1
  let limit := max p.cur p.cpuinfoMinFreq
  AtTarget targetLoad aggUtil →
    p.cur * aggUtil < (limit + 1) * max targetLoad 1 ∨
      (4294967296 ≤ p.cur * aggUtil / max targetLoad 1 ∧
        p.cur * aggUtil / max targetLoad 1 % 4294967296 ≤ limit)

instance (targetLoad aggUtil : ℕ) : Decidable (AtTarget targetLoad aggUtil) := inferInstanceAs (Decidable (_ ≤ _))
instance (y : GovSysctl) (p : CpufreqPolicy) (lg : LseGovPolicy) (aggUtil freq : ℕ) :
    Decidable (Respected y p lg aggUtil freq) := inferInstanceAs (Decidable (_ → _))
instance (y : GovSysctl) (p : CpufreqPolicy) (lg : LseGovPolicy) (aggUtil : ℕ) : Decidable (Fits y p lg aggUtil) :=
  inferInstanceAs (Decidable (_ → _))

section
variable {p : CpufreqPolicy} {aggUtil targetLoad : ℕ}

theorem scaledFreq_eq (word : p.cur < 4294967296) (bounded : aggUtil ≤ 1024) :
    scaledFreq p p.cur aggUtil targetLoad =
      if p.cur * aggUtil / max targetLoad 1 % 4294967296 = 0 then p.cpuinfoMinFreq
      else p.cur * aggUtil / max targetLoad 1 % 4294967296 := by
  have product : p.cur * aggUtil ≤ p.cur * 1024 := Nat.mul_le_mul_left p.cur bounded
  have small : p.cur * aggUtil < 18446744073709551616 := by omega
  simp only [scaledFreq,u64_of_lt small,u32]

/-- The formula stays within a limit above the minimum exactly when the quotient does,
    or its low word. -/
theorem scaledFreq_le_iff (word : p.cur < 4294967296) (bounded : aggUtil ≤ 1024) {limit : ℕ}
    (above : p.cpuinfoMinFreq ≤ limit) :
    scaledFreq p p.cur aggUtil targetLoad ≤ limit ↔
      p.cur * aggUtil < (limit + 1) * max targetLoad 1 ∨
        (4294967296 ≤ p.cur * aggUtil / max targetLoad 1 ∧
          p.cur * aggUtil / max targetLoad 1 % 4294967296 ≤ limit) := by
  rw [scaledFreq_eq word bounded,← Nat.div_lt_iff_lt_mul (Nat.lt_of_lt_of_le Nat.zero_lt_one (le_max_right _ _))]
  generalize p.cur * aggUtil / max targetLoad 1 = next
  split_ifs <;> omega

end

section
variable {y : GovSysctl} {p : CpufreqPolicy} {lg : LseGovPolicy}

/-- The tick uses the dynamic target load, whether or not it is switched on. -/
theorem tickFreq_eq (aggUtil : ℕ) :
    (tickFreq y p lg aggUtil).1 = scaledFreq p p.cur aggUtil (lseDynamicTargetLoad y p lg aggUtil).1 := by
  by_cases off : y.clusterTlDynEnable = 0
  · simp [tickFreq,lseDynamicTargetLoad,off]
  · simp [tickFreq,off]

theorem getNextFreq_eq (w : World) (running : 0 < p.cur) (formula : y.govLegacyFormulaEnable = 0) (sum : ℕ) :
    (getNextFreq w y p lg sum).1 = scaledFreq p p.cur (aggUtilOf y w.track lg sum)
      (lseDynamicTargetLoad y p lg (aggUtilOf y w.track lg sum)).1 := by
  have base : currFreq p = p.cur := by simp [currFreq,running.ne']
  simp [getNextFreq,formula,base]

theorem utilOf_le (window sum : ℕ) : utilOf window sum ≤ 1024 := min_le_right _ _

theorem scaledFreq_respected_iff (word : p.cur < 4294967296) {aggUtil : ℕ} (bounded : aggUtil ≤ 1024) :
    Respected y p lg aggUtil (scaledFreq p p.cur aggUtil (lseDynamicTargetLoad y p lg aggUtil).1) ↔ Fits y p lg aggUtil :=
  imp_congr_right (fun _ => scaledFreq_le_iff word bounded (le_max_right _ _))

end

/-- A policy's target load is respected, on a rollover and on a tick, exactly when the
    load fits: the target load counts as if it were on the scale of 1024. -/
theorem target_respected_iff (w : World) (y : GovSysctl) (p : CpufreqPolicy) (lg : LseGovPolicy)
    (prevRunnableSum aggUtil : ℕ) (running : 0 < p.cur) (word : p.cur < 4294967296) (bounded : aggUtil ≤ 1024)
    (formula : y.govLegacyFormulaEnable = 0) :
    (Respected y p lg (aggUtilOf y w.track lg prevRunnableSum) (getNextFreq w y p lg prevRunnableSum).1 ∧
        Respected y p lg aggUtil (tickFreq y p lg aggUtil).1) ↔
      (Fits y p lg (aggUtilOf y w.track lg prevRunnableSum) ∧ Fits y p lg aggUtil) := by
  rw [getNextFreq_eq w running formula,tickFreq_eq]
  exact and_congr (scaledFreq_respected_iff word (utilOf_le _ _)) (scaledFreq_respected_iff word bounded)

/-- A policy at half of its highest frequency. -/
def halfPolicy : CpufreqPolicy := { fullPolicy with cur := 1000000 }

/-- At half load and half frequency both formulas ask for a higher frequency, although
    the target load is 90 percent. -/
theorem target_exceeded :
    ¬ Respected govSysctlDefaults halfPolicy ownRecord (aggUtilOf govSysctlDefaults (loaded 4000000).track ownRecord 4000000)
        (getNextFreq (loaded 4000000) govSysctlDefaults halfPolicy ownRecord 4000000).1 ∧
      ¬ Respected govSysctlDefaults halfPolicy ownRecord 512 (tickFreq govSysctlDefaults halfPolicy ownRecord 512).1 := by
  decide +kernel

/-- At a sixteenth of the load neither formula asks for a higher frequency. -/
theorem target_respected_light :
    Respected govSysctlDefaults halfPolicy ownRecord (aggUtilOf govSysctlDefaults (loaded 500000).track ownRecord 500000)
        (getNextFreq (loaded 500000) govSysctlDefaults halfPolicy ownRecord 500000).1 ∧
      Respected govSysctlDefaults halfPolicy ownRecord 64 (tickFreq govSysctlDefaults halfPolicy ownRecord 64).1 :=
  (target_respected_iff (loaded 500000) govSysctlDefaults halfPolicy ownRecord 500000 64 (by decide) (by decide)
    (by decide) rfl).mpr (by decide +kernel)

/-! ### Saturated clusters -/

/-- Every online CPU of a cluster was busy for the whole window at the frequency of
    their policy, which has the settings of its start. -/
structure Saturated (w : World) (c : Cpufreq) (cluster : LseSchedCluster) (policy : ℕ) (lg : LseGovPolicy)
    (window cap : ℕ) : Prop where
  one : OneWindow w c cluster policy lg window
  capacity : 1 ≤ cap ∧ cap ≤ 1024
  freq : ∀ cpu ∈ forEachCpu w.nrCpuIds (clusterOnline w cluster),
    w.freq cpu = ⟨(c.policy policy).cpuinfoMaxFreq,(c.policy policy).cur,cap⟩
  busy : ∀ cpu ∈ forEachCpu w.nrCpuIds (clusterOnline w cluster), (w.lrq cpu).prevRunnableSum =
    UtilTrack.scaleExecTime window (UtilTrack.updateTaskRqCpuCycles (w.freq cpu) (w.lrq cpu))
  within : (c.policy policy).cpuinfoMinFreq ≤ (c.policy policy).cur ∧
    (c.policy policy).cur ≤ (c.policy policy).cpuinfoMaxFreq
  word : (c.policy policy).cpuinfoMaxFreq < 4294967296
  target : lg.targetLoadBase = 90 ∧ lg.targetLoadMin = 70 ∧ lg.targetLoadMax = 95 ∧ lg.targetLoadStep = 2

/-- The scale of a CPU of the given capacity at the given frequency, rounded up. -/
def scaleAt (cur maxFreq cap : ℕ) : ℕ := (cur * cap + (maxFreq - 1)) / maxFreq

/-- What is left of a scale after it has been turned into time of a window and back, twice. -/
def loadAt (window scale : ℕ) : ℕ :=
  if 1024 ∣ scale * window then scale else if 1024 ∣ (scale - 1) * window then scale - 1 else scale - 2

/-- The target load at a frequency and a load, from 90. -/
def targetAt (cur maxFreq load : ℕ) : ℕ :=
  let pressure := (multFrac cur 1024 maxFreq + load) / 2
  if 850 < pressure then 92 else if pressure < 450 then 88 else 90

/-- The load of a saturated CPU reaches the target load, both read as plain numbers, and
    the new frequency fits a word; or the word it wraps to is no lower, or is 0 at the
    lowest frequency. -/
def KeepsUp (p : CpufreqPolicy) (window cap : ℕ) : Prop :=
  let load := loadAt window (scaleAt p.cur p.cpuinfoMaxFreq cap)
  let targetLoad := targetAt p.cur p.cpuinfoMaxFreq load
  let next := p.cur * load / targetLoad
  p.cur = 0 ∨ (targetLoad ≤ load ∧ next < 4294967296) ∨ (4294967296 ≤ next ∧ p.cur ≤ next % 4294967296) ∨
    (next % 4294967296 = 0 ∧ p.cur = p.cpuinfoMinFreq)

theorem scaleAt_le (cap : ℕ) {cur maxFreq : ℕ} (le : cur ≤ maxFreq) : scaleAt cur maxFreq cap ≤ cap := by
  unfold scaleAt
  rcases Nat.eq_zero_or_pos maxFreq with rfl | positive
  · simp
  · have product : cur * cap ≤ cap * maxFreq := by
      rw [Nat.mul_comm]
      exact Nat.mul_le_mul_left cap le
    exact Nat.le_of_lt_succ ((Nat.div_lt_iff_lt_mul positive).mpr (by rw [Nat.succ_mul]; omega))

theorem multFrac_le {cur maxFreq : ℕ} (le : cur ≤ maxFreq) : multFrac cur 1024 maxFreq ≤ 1024 := by
  unfold multFrac
  rcases Nat.lt_or_ge cur maxFreq with below | above
  · have small : u32 (cur * 1024) / maxFreq ≤ 1024 := by
      calc u32 (cur * 1024) / maxFreq ≤ maxFreq * 1024 / maxFreq :=
            Nat.div_le_div_right ((u32_le _).trans (Nat.mul_le_mul_right 1024 le))
        _ = 1024 := Nat.mul_div_cancel_left 1024 (by omega)
    rw [Nat.div_eq_of_lt below,Nat.mod_eq_of_lt below]
    exact (u32_le _).trans (by simpa [u32] using small)
  · have same : cur = maxFreq := le_antisymm le above
    subst same
    rcases Nat.eq_zero_or_pos cur with rfl | positive
    · decide
    · rw [Nat.div_self positive,Nat.mod_self]
      simp [u32]

section
variable {w : World} {c : Cpufreq} {cluster : LseSchedCluster} {policy : ℕ} {lg : LseGovPolicy} {window cap : ℕ}

/-- The execution scale of a running CPU of the policy. -/
theorem saturated_scale (sat : Saturated w c cluster policy lg window cap) (running : 0 < (c.policy policy).cur)
    (lrq : LseRq) :
    (UtilTrack.updateTaskRqCpuCycles ⟨(c.policy policy).cpuinfoMaxFreq,(c.policy policy).cur,cap⟩ lrq).taskExecScale =
      scaleAt (c.policy policy).cur (c.policy policy).cpuinfoMaxFreq cap := by
  obtain ⟨low,high⟩ := sat.capacity
  obtain ⟨_,upper⟩ := sat.within
  have word := sat.word
  have product : (c.policy policy).cur * cap ≤ (c.policy policy).cur * 1024 := Nat.mul_le_mul_left _ high
  have atLeast : (c.policy policy).cur * 1 ≤ (c.policy policy).cur * cap := Nat.mul_le_mul_left _ low
  have some_freq : (c.policy policy).cpuinfoMaxFreq ≠ 0 := by omega
  have positive : 1 ≤ scaleAt (c.policy policy).cur (c.policy policy).cpuinfoMaxFreq cap := by
    unfold scaleAt
    rw [Nat.le_div_iff_mul_le (by omega)]
    omega
  have inner : u64 ((c.policy policy).cur * cap) = (c.policy policy).cur * cap := u64_of_lt (by omega)
  have outer : u64 ((c.policy policy).cur * cap + ((c.policy policy).cpuinfoMaxFreq - 1)) =
      (c.policy policy).cur * cap + ((c.policy policy).cpuinfoMaxFreq - 1) := u64_of_lt (by omega)
  simp only [UtilTrack.updateTaskRqCpuCycles,some_freq,if_false,div64U64Roundup,inner,outer]
  exact max_eq_right positive

/-- Each CPU's sum is its scale's portion of the window. -/
theorem saturated_sums (sat : Saturated w c cluster policy lg window cap) (running : 0 < (c.policy policy).cur) :
    ∀ sum ∈ loads w cluster,
      sum = portion 1024 window (scaleAt (c.policy policy).cur (c.policy policy).cpuinfoMaxFreq cap) := by
  intro sum member
  obtain ⟨cpu,inside,rfl⟩ := List.mem_map.mp member
  have scale := scaleAt_le cap sat.within.2
  have product : window * scaleAt (c.policy policy).cur (c.policy policy).cpuinfoMaxFreq cap ≤ window * 1024 :=
    Nat.mul_le_mul_left window (scale.trans sat.capacity.2)
  have word := sat.one.word
  rw [sat.busy cpu inside,sat.freq cpu inside,UtilTrack.scaleExecTime,saturated_scale sat running,
    u64_of_lt (by omega),portion,Nat.mul_comm]

/-- The utilisation of a saturated cluster after a rollover. -/
theorem saturated_util (sat : Saturated w c cluster policy lg window cap) (running : 0 < (c.policy policy).cur) :
    rolloverUtil w govSysctlDefaults c cluster policy lg =
      loadAt window (scaleAt (c.policy policy).cur (c.policy policy).cpuinfoMaxFreq cap) := by
  have fine := sat.one.fine
  rw [rolloverUtil_top2 sat.one rfl,top2Avg_const sat.one (saturated_sums sat running),
    share_portion (by decide) (by omega),share_portion (by decide) (by omega)]
  unfold loadAt
  split_ifs <;> rfl

/-- The target load of a policy with the settings of its start. -/
theorem startedTarget_eq (y : GovSysctl) {p : CpufreqPolicy} (within : p.cur ≤ p.cpuinfoMaxFreq)
    (target : lg.targetLoadBase = 90 ∧ lg.targetLoadMin = 70 ∧ lg.targetLoadMax = 95 ∧ lg.targetLoadStep = 2)
    {load : ℕ} (bounded : load ≤ 1024) :
    (lseDynamicTargetLoad y p lg load).1 =
      if y.clusterTlDynEnable = 0 then 90 else targetAt p.cur p.cpuinfoMaxFreq load := by
  obtain ⟨base,low,high,step⟩ := target
  have start : baseTargetLoad lg = 90 := by simp [baseTargetLoad,base,low,high,clampT]
  have share := multFrac_le within
  have pressure : lseComputePowerPressure p load = (multFrac p.cur 1024 p.cpuinfoMaxFreq + load) / 2 := by
    have sum : u32 (multFrac p.cur 1024 p.cpuinfoMaxFreq + load) = multFrac p.cur 1024 p.cpuinfoMaxFreq + load :=
      u32_of_lt (by omega)
    rcases Nat.eq_zero_or_pos p.cpuinfoMaxFreq with zero | positive
    · have idle : p.cur = 0 := by omega
      have nothing : multFrac 0 1024 0 = 0 := by decide
      simp only [lseComputePowerPressure,zero,idle,nothing,ne_eq,not_true_eq_false,if_false,Nat.zero_add]
      rw [u32_of_lt (by omega)]
      omega
    · simp only [lseComputePowerPressure,ne_eq,positive.ne',not_false_eq_true,if_true,sum]
      omega
  have up : u32 (90 + 2) = 92 := by decide
  have floor : u32 (70 + 2) = 72 := by decide
  have down : u32Sub 90 2 = 88 := by decide
  simp only [lseDynamicTargetLoad,pressure,start,low,high,step,targetAt,up,floor,down,clampT]
  split_ifs <;> omega

theorem le_scaled_iff (load : ℕ) {cur targetLoad : ℕ} (running : 0 < cur) (positive : 0 < targetLoad) :
    cur ≤ cur * load / targetLoad ↔ targetLoad ≤ load := by
  rw [Nat.le_div_iff_mul_le positive]
  exact Nat.mul_le_mul_left_iff running

theorem loadAt_le (window scale : ℕ) : loadAt window scale ≤ scale := by
  unfold loadAt
  split_ifs <;> omega

end

/-- A saturated cluster is not slowed down exactly when its load reaches the target load. -/
theorem saturated_kept_iff (w : World) (c : Cpufreq) (cluster : LseSchedCluster) (policy : ℕ) (lg : LseGovPolicy)
    (window cap : ℕ) (sat : Saturated w c cluster policy lg window cap) :
    (c.policy policy).cur ≤
        (getNextFreq w govSysctlDefaults (c.policy policy) lg (rolloverCall w govSysctlDefaults c cluster).2).1 ↔
      KeepsUp (c.policy policy) window cap := by
  obtain ⟨lower,upper⟩ := sat.within
  have word := sat.word
  rcases Nat.eq_zero_or_pos (c.policy policy).cur with idle | running
  · exact iff_of_true (by omega) (Or.inl idle)
  · have util := saturated_util sat running
    rw [rolloverUtil_recorded] at util
    have bounded := (loadAt_le window _).trans ((scaleAt_le cap upper).trans sat.capacity.2)
    rw [getNextFreq_eq w running rfl,util,startedTarget_eq _ upper sat.target bounded,
      if_neg (show ¬ govSysctlDefaults.clusterTlDynEnable = 0 by decide),scaledFreq_eq (by omega) bounded]
    simp only [KeepsUp]
    generalize loadAt window (scaleAt (c.policy policy).cur (c.policy policy).cpuinfoMaxFreq cap) = load
    have positive : 1 ≤ targetAt (c.policy policy).cur (c.policy policy).cpuinfoMaxFreq load := by
      simp only [targetAt]
      split_ifs <;> decide
    rw [max_eq_left positive]
    have scaled := le_scaled_iff load running positive
    generalize (c.policy policy).cur * load / targetAt (c.policy policy).cur (c.policy policy).cpuinfoMaxFreq load = next
      at *
    split_ifs <;> omega

/-- A policy near its lowest frequency. -/
def slowPolicy : CpufreqPolicy := { fullPolicy with min := 100000, cur := 150000, cpuinfoMinFreq := 100000 }

/-- A machine with one CPU of full capacity that was busy for a window at that frequency. -/
def slowed : World := { loaded 601562 with freq := fun _ => ⟨2000000,150000,1024⟩ }

def slowCpufreq : Cpufreq := { ownCpufreq with policy := fun _ => slowPolicy }

/-- One CPU whose sum is its scale's portion of the window. -/
theorem loaded_saturated {sum : ℕ} {p : CpufreqPolicy} (le : sum ≤ 8000000) (cpus : p.cpus = fullPolicy.cpus)
    (busy : sum = UtilTrack.scaleExecTime 8000000
      (UtilTrack.updateTaskRqCpuCycles ⟨p.cpuinfoMaxFreq,p.cur,1024⟩ ((loaded sum).lrq 0)))
    (within : p.cpuinfoMinFreq ≤ p.cur ∧ p.cur ≤ p.cpuinfoMaxFreq) (word : p.cpuinfoMaxFreq < 4294967296) :
    Saturated { loaded sum with freq := fun _ => ⟨p.cpuinfoMaxFreq,p.cur,1024⟩ } { ownCpufreq with policy := fun _ => p }
      ⟨0,fun cpu => cpu == 0⟩ 0 ownRecord 8000000 1024 := by
  have same := loaded_onePolicy le
  have inside := fun cpu here => And.intro (same.inside cpu here).1 (cpus ▸ (same.inside cpu here).2)
  exact
    { one := ⟨same.fine,same.word,same.nonempty,inside,rfl,rfl,rfl,same.prev,same.sums⟩
      capacity := by decide
      freq := fun _ _ => rfl
      busy := fun _ _ => busy
      within := within
      word := word
      target := ⟨rfl,rfl,rfl,rfl⟩ }

theorem slowed_saturated : Saturated slowed slowCpufreq ⟨0,fun cpu => cpu == 0⟩ 0 ownRecord 8000000 1024 :=
  loaded_saturated (p := slowPolicy) (by decide) rfl (by decide +kernel) (by decide) (by decide)

/-- The next frequency is lower than the one at which the CPU was busy all the time. -/
theorem saturated_slowed_down :
    Saturated slowed slowCpufreq ⟨0,fun cpu => cpu == 0⟩ 0 ownRecord 8000000 1024 ∧
      ¬ (slowCpufreq.policy 0).cur ≤ (getNextFreq slowed govSysctlDefaults (slowCpufreq.policy 0) ownRecord
        (rolloverCall slowed govSysctlDefaults slowCpufreq ⟨0,fun cpu => cpu == 0⟩).2).1 :=
  ⟨slowed_saturated,by decide +kernel⟩

/-- The CPU at its highest frequency. -/
def unslowed : World := { loaded 8000000 with freq := fun _ => ⟨2000000,2000000,1024⟩ }

theorem unslowed_saturated : Saturated unslowed ownCpufreq ⟨0,fun cpu => cpu == 0⟩ 0 ownRecord 8000000 1024 :=
  loaded_saturated (p := fullPolicy) le_rfl rfl (by decide +kernel) (by decide) (by decide)

theorem saturated_kept_unslowed :
    (ownCpufreq.policy 0).cur ≤ (getNextFreq unslowed govSysctlDefaults (ownCpufreq.policy 0) ownRecord
      (rolloverCall unslowed govSysctlDefaults ownCpufreq ⟨0,fun cpu => cpu == 0⟩).2).1 :=
  (saturated_kept_iff _ _ _ _ _ _ _ unslowed_saturated).mpr (Or.inr (Or.inl (by decide +kernel)))

end LunarSched.TargetLoad
