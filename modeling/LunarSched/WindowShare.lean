import LunarSched.ClusterLoad
import LunarSched.DemandScale
import LunarSched.RolloverReach
import LunarSched.UtilCache

/-!
The window that a utilisation is a share of. A CPU's sum was collected in a window
whose length the CPU keeps in `prev_window_size`. The tick divides the largest sum of
a policy by the length in force, and the rollover divides that of a cluster by the
length in force or by the one that was in force when the governor was started. Beside
the machine a run records under which length each CPU rolled over last and each policy
was started; while a CPU with the largest sum rolled over under the length that is
divided by, the result is the share of the CPU's own window (`own_window_along`).
-/
namespace LunarSched.WindowShare
open LunarSched.Machine LunarSched.Kernel LunarSched.UtilTrack LunarSched.Hooks LunarSched.Accounts LunarSched.Governor
open LunarSched.Scale LunarSched.ClusterLoad LunarSched.Runs
open LunarSched.WindowChange (WindowEvent schedRavgWindowChange beforeCommit lseIrqWork_cases updateIfTracked_cases
  updateIfTracked_track)
open LunarSched.RolloverPolicies (PolicyEvent policyStep setGovFlag_frame)
open LunarSched.UtilCache (Reuses tickUtil)

/-- The machine with its policies, the sysctls of the governor and the records of its ticks. -/
structure Governed extends RolloverPolicies.Machine where
  sysctl : GovSysctl
  grq : ℕ → LseGovRq

inductive ShareEvent where
  | window (e : WindowEvent)
  /-- `lse_tick_entry`, with `clock` from `rq_clock`; `local_clock` returns `now` in
      `lse_gov_tick_update`, and `later` in `lse_gov_cluster_util`. -/
  | tick (cpu clock now later : ℕ)
  /-- `lse_scheduler_tick`. -/
  | seed (clock : ℕ)
  | slimWaltCtrl (value : ℤ)
  | policy (e : PolicyEvent)
  /-- The other fields of a policy's record are written, as every update does. -/
  | record (policy : ℕ) (lg : LseGovPolicy)
  | sysctl (y : GovSysctl)

def hasData : GovernorData → Bool
  | .none => false
  | .lse _ _ | .other _ => true

/-- The policy that a tick on the CPU goes on with: tracking is on, and the policy has a governor's data. -/
def tickPolicy (s : Governed) (cpu : ℕ) : Option ℕ :=
  if s.world.track.slimWaltCtrl = 0 then none
  else (cpufreqCpuGetRaw s.cpufreq cpu).filter (fun policy => hasData (s.cpufreq.governorData policy))

/-- The records of the ticks after one that finds the machine in `w`. -/
def tickRecords (s : Governed) (w : World) (cpu now later : ℕ) : ℕ → LseGovRq :=
  match tickPolicy s cpu with
  | none => s.grq
  | some policy => Function.update s.grq cpu
      (tickUtil ⟨w,s.sysctl,(s.cpufreq.policy policy).cpus⟩ (s.grq cpu) cpu now later).2

/-- The policy's record with all fields written but its window. -/
def writeRecord (c : Cpufreq) (policy : ℕ) (lg : LseGovPolicy) : Cpufreq :=
  match c.governorData policy with
  | .lse old started =>
    let data := GovernorData.lse { lg with clusterWindowNs := old.clusterWindowNs } started
    { c with governorData := Function.update c.governorData policy data }
  | .none | .other _ => c

def shareStep (s : Governed) : ShareEvent → Governed
  | .window e => { s with world := e.run s.world }
  | .tick cpu clock now later =>
    let w := lseTickEntry s.world cpu clock
    { s with world := w, grq := tickRecords s w cpu now later }
  | .seed clock => { s with world := lseSchedulerTick s.world clock }
  | .slimWaltCtrl value => { s with world := { s.world with track := { s.world.track with slimWaltCtrl := value } } }
  | .policy e => { s with toMachine := policyStep s.toMachine e }
  | .record policy lg => { s with cpufreq := writeRecord s.cpufreq policy lg }
  | .sysctl y => { s with sysctl := y }

/-- The clusters for which an `lse_irq_work` on the CPU updates a policy: the first of those
    whose flag is set, as many as it makes calls. -/
def updatedClusters (s : RolloverPolicies.Machine) (y : GovSysctl) (cpu : ℕ) : List LseSchedCluster :=
  (s.cpufreq.clusters.filter (fun cluster => s.cpufreq.govFlag cluster.id ≠ 0)).take
    (RolloverReach.irqWorkCalls s y cpu).length

/-- None of the CPUs in the mask has a larger sum. -/
def Largest (w : World) (cpus : Cpumask) (cpu : ℕ) : Prop :=
  ∀ other ∈ forEachCpu w.nrCpuIds cpus, (w.lrq other).prevRunnableSum ≤ (w.lrq cpu).prevRunnableSum

/-- The utilisation is the share that the largest sum has of its own CPU's window. -/
def OwnWindow (w : World) (cpus : Cpumask) (util : ℕ) : Prop :=
  forEachCpu w.nrCpuIds cpus ≠ [] → ∃ cpu ∈ forEachCpu w.nrCpuIds cpus, Largest w cpus cpu ∧
    util = min (share 1024 (w.lrq cpu).prevWindowSize (w.lrq cpu).prevRunnableSum) 1024

/-- What holds of every cluster and policy for which an `lse_irq_work` on the CPU computes
    a utilisation. -/
def AtRollover (s : Governed) (cpu : ℕ) (holds : LseSchedCluster → ℕ → LseGovPolicy → Prop) : Prop :=
  ∀ cluster ∈ updatedClusters s.toMachine s.sysctl cpu,
    ∀ policy ∈ (rolloverCall s.world s.sysctl s.cpufreq cluster).1,
      match s.cpufreq.governorData policy with
      | .lse lg _ => holds cluster policy lg
      | .none | .other _ => True

/-- What holds of the policy whose CPUs a tick goes through: the tick is not ignored, and
    does not reuse the utilisation that it finds cached. -/
def AtTick (s : Governed) (w : World) (cpu now later : ℕ) (holds : ℕ → Prop) : Prop :=
  rateLimited (s.grq cpu) now = false →
    ¬ Reuses { s.grq cpu with lastTickNs := now } (w.lrq cpu).prevRunnableSum later →
      ∀ policy ∈ tickPolicy s cpu, holds policy

/-- The state in which the rollover of `lse_irq_work` computes the utilisations. -/
def atIrqWork (s : Governed) (cpu clock : ℕ) : Governed := { s with world := beforeCommit s.world cpu clock }

/-- Every utilisation that the event computes is a share of the window of its own CPU. -/
def Normalised (s : Governed) : ShareEvent → Prop
  | .window (.irqWork cpu clock) =>
    let at_work := atIrqWork s cpu clock
    AtRollover at_work cpu (fun cluster policy lg =>
      OwnWindow at_work.world (clusterOnline at_work.world cluster)
        (rolloverUtil at_work.world s.sysctl s.cpufreq cluster policy lg))
  | .tick cpu clock now later =>
    let w := lseTickEntry s.world cpu clock
    AtTick s w cpu now later (fun policy => OwnWindow w (s.cpufreq.policy policy).cpus
      (traverseUtil w s.sysctl (s.cpufreq.policy policy).cpus))
  | _ => True

/-! ### The lengths in a run -/

/-- A call of the tracker that finds the CPU a window or more past the start of its own. -/
def rollsOver (w : World) (t cpu wallclock : ℕ) : Bool :=
  (w.lts t).any (fun lts => !decide (Skipped w lts cpu wallclock) && decide ((w.track.ravgWindow : ℤ) ≤
    s64 (u64Sub (max wallclock (w.lrq cpu).latestClock) (w.lrq cpu).windowStart)))

/-- The lengths under which the CPUs rolled over last, after a call. -/
def rolled (w : World) (rolledAt : ℕ → ℕ) (t cpu wallclock : ℕ) : ℕ → ℕ :=
  if rollsOver w t cpu wallclock then Function.update rolledAt cpu w.track.ravgWindow else rolledAt

/-- The machine in a run, with the length in force at the last rollover of each CPU, or at
    first, and that at the last start of the governor on each policy, if it was started on
    the policy since it was initialised for it. -/
structure Recorded extends Governed where
  rolledAt : ℕ → ℕ
  startedAt : ℕ → Option ℕ

def recordStep (s : Recorded) (e : ShareEvent) : Recorded where
  toGoverned := shareStep s.toGoverned e
  rolledAt := match e with
    | .window (.ravg t cpu _ wallclock) => rolled s.world s.rolledAt t cpu wallclock
    | .window (.irqWork cpu clock) =>
      rolled s.world s.rolledAt (s.world.rq cpu).curr cpu (lseSchedClock s.world clock)
    | .tick cpu clock _ _ => rolled s.world s.rolledAt (s.world.rq cpu).curr cpu (lseRqClock s.world cpu clock)
    | _ => s.rolledAt
  startedAt := match e with
    | .policy (.start policy) => Function.update s.startedAt policy (some s.world.track.ravgWindow)
    | .policy (.assign policy _) => Function.update s.startedAt policy none
    | _ => s.startedAt

/-- Frame rates from 1 to 900 are requested, the mean of two loads is not used, and the
    record of a policy is zeroed when the governor is initialised for it. -/
def Admitted (_ : Recorded) : ShareEvent → Prop
  | .window (.request framePerSec) => 1 ≤ framePerSec ∧ framePerSec ≤ 900
  | .sysctl y => y.clusterAggMode = 0
  | .policy (.assign _ (.lse lg _)) => lg.clusterWindowNs = 0
  | _ => True

/-- The length that a rollover divides the sum for the policy by. -/
def rolloverLength (s : Recorded) (policy : ℕ) : ℕ :=
  if s.sysctl.clusterWindowEnable = 0 then s.world.track.ravgWindow
  else (s.startedAt policy).getD s.world.track.ravgWindow

/-- A CPU with the largest sum rolled over last under this length, and the sum can be
    shifted by 10 bits. -/
def RolledUnder (w : World) (rolledAt : ℕ → ℕ) (cpus : Cpumask) (length : ℕ) : Prop :=
  forEachCpu w.nrCpuIds cpus ≠ [] → ∃ cpu ∈ forEachCpu w.nrCpuIds cpus, Largest w cpus cpu ∧
    rolledAt cpu = length ∧ (w.lrq cpu).prevRunnableSum < 18014398509481984

/-- Since a CPU with the largest sum rolled over, no other length was put in force than the
    one divided by: at a rollover that of the governor's start on the policy while
    `cluster_window_enable` is set, otherwise the one in force now. -/
def OneLength (s : Recorded) (e : ShareEvent) : Prop :=
  match e with
  | .window (.irqWork cpu clock) =>
    let at_work := atIrqWork s.toGoverned cpu clock
    AtRollover at_work cpu (fun cluster policy _ =>
      RolledUnder at_work.world (recordStep s e).rolledAt (clusterOnline at_work.world cluster) (rolloverLength s policy))
  | .tick cpu clock now later =>
    let w := lseTickEntry s.world cpu clock
    AtTick s.toGoverned w cpu now later (fun policy =>
      RolledUnder w (recordStep s e).rolledAt (s.cpufreq.policy policy).cpus s.world.track.ravgWindow)
  | _ => True

/-- Before the governor is first started: the CPUs' windows have the length in force. -/
structure Fresh (s : Governed) : Prop where
  force : 0 < s.world.track.ravgWindow
  requested : 0 < s.world.track.newRavgWindow
  own : ∀ cpu, (s.world.lrq cpu).prevWindowSize = s.world.track.ravgWindow
  unstarted : ∀ policy lg on, s.cpufreq.governorData policy = .lse lg on → lg.clusterWindowNs = 0
  mode : s.sysctl.clusterAggMode = 0

def recorded (s : Governed) : Recorded := ⟨s,fun _ => s.world.track.ravgWindow,fun _ => none⟩

instance (w : World) (cpus : Cpumask) (cpu : ℕ) : Decidable (Largest w cpus cpu) :=
  inferInstanceAs (Decidable (∀ other ∈ forEachCpu w.nrCpuIds cpus, _))
instance (w : World) (cpus : Cpumask) (util : ℕ) : Decidable (OwnWindow w cpus util) :=
  inferInstanceAs (Decidable (_ → ∃ cpu ∈ forEachCpu w.nrCpuIds cpus, _ ∧ _))
instance (w : World) (rolledAt : ℕ → ℕ) (cpus : Cpumask) (length : ℕ) : Decidable (RolledUnder w rolledAt cpus length) :=
  inferInstanceAs (Decidable (_ → ∃ cpu ∈ forEachCpu w.nrCpuIds cpus, _ ∧ _ ∧ _))

section
variable (s : Governed) (w : World) (cpu now later : ℕ)

instance (holds : LseSchedCluster → ℕ → LseGovPolicy → Prop) [∀ cluster policy lg, Decidable (holds cluster policy lg)] :
    Decidable (AtRollover s cpu holds) :=
  have : ∀ cluster policy, Decidable (match s.cpufreq.governorData policy with
      | .lse lg _ => holds cluster policy lg
      | .none | .other _ => True) := fun cluster policy =>
    match s.cpufreq.governorData policy with
    | .lse lg _ => inferInstanceAs (Decidable (holds cluster policy lg))
    | .none | .other _ => isTrue trivial
  inferInstanceAs (Decidable (∀ cluster ∈ updatedClusters s.toMachine s.sysctl cpu,
    ∀ policy ∈ (rolloverCall s.world s.sysctl s.cpufreq cluster).1, _))

instance (holds : ℕ → Prop) [∀ policy, Decidable (holds policy)] : Decidable (AtTick s w cpu now later holds) :=
  inferInstanceAs (Decidable (_ → ¬ _ → ∀ policy ∈ tickPolicy s cpu, _))

end

instance (s : Governed) : (e : ShareEvent) → Decidable (Normalised s e)
  | .window (.irqWork ..) => inferInstanceAs (Decidable (AtRollover _ _ _))
  | .tick .. => inferInstanceAs (Decidable (AtTick _ _ _ _ _ _))
  | .window (.ravg ..) | .window (.request _) | .window (.around _) | .seed _ | .slimWaltCtrl _ | .policy _ | .record _ _
  | .sysctl _ => isTrue trivial

instance (s : Recorded) : (e : ShareEvent) → Decidable (OneLength s e)
  | .window (.irqWork ..) => inferInstanceAs (Decidable (AtRollover _ _ _))
  | .tick .. => inferInstanceAs (Decidable (AtTick _ _ _ _ _ _))
  | .window (.ravg ..) | .window (.request _) | .window (.around _) | .seed _ | .slimWaltCtrl _ | .policy _ | .record _ _
  | .sysctl _ => isTrue trivial

instance (s : Recorded) : (e : ShareEvent) → Decidable (Admitted s e)
  | .window (.request _) => inferInstanceAs (Decidable (_ ∧ _))
  | .sysctl _ | .policy (.assign _ (.lse _ _)) => inferInstanceAs (Decidable (_ = _))
  | .window (.ravg ..) | .window (.irqWork ..) | .window (.around _) | .tick .. | .seed _ | .slimWaltCtrl _ | .record _ _
  | .policy (.assign _ .none) | .policy (.assign _ (.other _)) | .policy (.start _) | .policy (.stop _)
  | .policy (.leave _) | .policy (.join _) | .policy (.offline _) | .policy (.online _) => isTrue trivial

theorem foldl_max_bound {bound : ℕ} (values : List ℕ) :
    ∀ {top : ℕ}, values.foldl max top ≤ bound ↔ top ≤ bound ∧ ∀ value ∈ values, value ≤ bound := by
  induction values with
  | nil => simp
  | cons value rest ih =>
    intro top
    rw [List.foldl_cons,ih,max_le_iff,List.forall_mem_cons,and_assoc]

/-- The maximum over the mask is the sum of a CPU with the largest. -/
theorem Largest.maximum {w : World} {cpus : Cpumask} {cpu : ℕ} (member : cpu ∈ forEachCpu w.nrCpuIds cpus)
    (largest : Largest w cpus cpu) :
    ((forEachCpu w.nrCpuIds cpus).map (fun cpu => (w.lrq cpu).prevRunnableSum)).foldl max 0 =
      (w.lrq cpu).prevRunnableSum := by
  have above := ((foldl_max_bound _).mp (le_refl (((forEachCpu w.nrCpuIds cpus).map
    (fun cpu => (w.lrq cpu).prevRunnableSum)).foldl max 0))).2
  refine le_antisymm ((foldl_max_bound _).mpr ⟨Nat.zero_le _,?_⟩) (above _ (List.mem_map_of_mem member))
  intro value inside
  obtain ⟨other,listed,rfl⟩ := List.mem_map.mp inside
  exact largest other listed

/-- Shifted by 10 bits within 64, a sum gives its share of the window. -/
theorem utilOf_share {length sum : ℕ} (room : sum < 18014398509481984) :
    utilOf length sum = min (share 1024 length sum) 1024 := by
  rw [utilOf,u64_of_lt (by omega),share]

/-- The lengths of the CPUs' windows are those under which the CPUs rolled over last. -/
structure Sized (w : World) (rolledAt : ℕ → ℕ) : Prop where
  force : 0 < w.track.ravgWindow
  requested : 0 < w.track.newRavgWindow
  own : ∀ cpu, (w.lrq cpu).prevWindowSize = rolledAt cpu

section
variable {w : World} {rolledAt : ℕ → ℕ}

/-- The maximum over a mask, divided by the length under which a CPU with the largest sum
    rolled over, is the share of that CPU's window. -/
theorem rolledUnder_ownWindow (sized : Sized w rolledAt) {cpus : Cpumask} {length : ℕ}
    (under : RolledUnder w rolledAt cpus length) : OwnWindow w cpus (utilOf length
      (((forEachCpu w.nrCpuIds cpus).map (fun cpu => (w.lrq cpu).prevRunnableSum)).foldl max 0)) := by
  intro nonempty
  obtain ⟨cpu,member,largest,length,room⟩ := under nonempty
  refine ⟨cpu,member,largest,?_⟩
  rw [largest.maximum member,sized.own cpu,length,utilOf_share room]

/-- A call sets the CPU's length to the one in force when it rolls the CPU over, and else
    leaves it alone. -/
theorem records_prevWindowSize (force : 0 < w.track.ravgWindow) {lts : LseTaskStruct} {t : ℕ} (present : w.lts t = some lts)
    (cpu : ℕ) (event : TaskEvent) (wallclock : ℕ) : (records w lts t cpu event wallclock).2.prevWindowSize =
      if rollsOver w t cpu wallclock then w.track.ravgWindow else (w.lrq cpu).prevWindowSize := by
  have busy : ∀ lrq p marked, (updateCpuBusyTime lrq p marked event wallclock).prevWindowSize = lrq.prevWindowSize := by
    intro lrq p marked
    simp only [updateCpuBusyTime]
    split_ifs <;> rfl
  have window : (updateWindowStart w.track (w.lrq cpu) wallclock).2.1.prevWindowSize =
      if (w.track.ravgWindow : ℤ) ≤ s64 (u64Sub (max wallclock (w.lrq cpu).latestClock) (w.lrq cpu).windowStart)
      then w.track.ravgWindow else (w.lrq cpu).prevWindowSize := by
    have later : (if wallclock < (w.lrq cpu).latestClock then (w.lrq cpu).latestClock else wallclock) =
        max wallclock (w.lrq cpu).latestClock := by
      split_ifs <;> omega
    simp only [updateWindowStart,later]
    split_ifs <;> first | rfl | omega
  simp only [rollsOver,present,Option.any_some,records]
  by_cases skipped : Skipped w lts cpu wallclock
  · simp [skipped]
  · have update : (ravgUpdate w (lseRefreshTaskHint w.track lts (w.task t)) t cpu event wallclock).2.1.prevWindowSize =
        (updateWindowStart w.track (w.lrq cpu) wallclock).2.1.prevWindowSize := by
      simp only [ravgUpdate]
      split_ifs <;> simp [accountTask,busy,updateTaskRqCpuCycles]
    simp only [if_neg skipped,update,window,decide_eq_false skipped,Bool.not_false,Bool.true_and,decide_eq_true_eq]

theorem call_sized (sized : Sized w rolledAt) (t cpu : ℕ) (event : TaskEvent) (wallclock : ℕ) :
    Sized (updateIfTracked w t cpu event wallclock) (rolled w rolledAt t cpu wallclock) := by
  obtain ⟨force,requested,own⟩ := sized
  obtain ⟨lastq,rollovers,bugs,track⟩ := updateIfTracked_track w t cpu event wallclock
  refine ⟨by rw [track]; exact force,by rw [track]; exact requested,fun other => ?_⟩
  cases present : w.lts t with
  | none => simp [updateIfTracked,rolled,rollsOver,present,own]
  | some lts =>
    by_cases off : w.track.slimWaltCtrl = 0
    · have skipped : Skipped w lts cpu wallclock := Or.inl off
      simp [updateIfTracked,lseUpdateTaskRavg,rolled,rollsOver,present,off,skipped,own]
    · rw [(updateIfTracked_effect event cpu wallclock off present).lrq]
      by_cases here : other = cpu
      · subst here
        rw [Function.update_self,records_prevWindowSize force present,rolled]
        split_ifs
        · simp
        · exact own other
      · rw [Function.update_of_ne here,rolled]
        split_ifs
        · exact (own other).trans (Function.update_of_ne here _ _).symm
        · exact own other

theorem window_sized (sized : Sized w rolledAt) {e : WindowEvent}
    (rates : ∀ framePerSec, e = .request framePerSec → 1 ≤ framePerSec ∧ framePerSec ≤ 900) (s : Recorded)
    (world : s.world = w) (lengths : s.rolledAt = rolledAt) :
    Sized (e.run w) (recordStep s (.window e)).rolledAt := by
  subst world lengths
  cases e with
  | ravg t cpu event wallclock => exact call_sized sized t cpu event wallclock
  | irqWork cpu clock =>
    have before : Sized (beforeCommit s.world cpu clock) _ := call_sized sized _ cpu .taskUpdate _
    show Sized (lseIrqWork s.world cpu clock) _
    rcases lseIrqWork_cases s.world cpu clock with ⟨_,same⟩ | ⟨_,committed⟩
    · rw [same]
      exact before
    · rw [committed]
      exact ⟨before.requested,before.requested,before.own⟩
  | request framePerSec =>
    obtain ⟨low,high⟩ := rates framePerSec rfl
    have window := DemandScale.frameWindow_bounds (DemandScale.schedRavgWindowChange_frames (w := s.world) low high)
    exact ⟨sized.force,Nat.lt_of_lt_of_le (by decide) window.1,sized.own⟩
  | around e => exact ⟨sized.force,sized.requested,sized.own⟩

theorem seed_sized (sized : Sized w rolledAt) (clock : ℕ) : Sized (lseSchedulerTick w clock) rolledAt := by
  have frame := Rollover.lseSchedulerTick_frame w clock
  refine ⟨frame.size ▸ sized.force,frame.requested ▸ sized.requested,fun cpu => ?_⟩
  rw [frame.lrq]
  exact sized.own cpu

theorem lseTickEntry_ravgWindow (w : World) (cpu clock : ℕ) :
    (lseTickEntry w cpu clock).track.ravgWindow = w.track.ravgWindow := by
  obtain ⟨_,_,_,track⟩ := updateIfTracked_track w (w.rq cpu).curr cpu .taskUpdate (lseRqClock w cpu clock)
  unfold lseTickEntry
  split_ifs
  · rfl
  · rw [track]

theorem tick_sized (sized : Sized w rolledAt) (cpu clock : ℕ) :
    Sized (lseTickEntry w cpu clock) (rolled w rolledAt (w.rq cpu).curr cpu (lseRqClock w cpu clock)) := by
  have called := call_sized sized (w.rq cpu).curr cpu .taskUpdate (lseRqClock w cpu clock)
  unfold lseTickEntry
  split_ifs with off
  · have untracked : updateIfTracked w (w.rq cpu).curr cpu .taskUpdate (lseRqClock w cpu clock) = w := by
      unfold updateIfTracked
      split
      · rfl
      · simp [lseUpdateTaskRavg,off]
    rwa [untracked] at called
  · exact called

/-- The policies, the governor and hotplug leave every length alone. -/
theorem policy_sized {s : RolloverPolicies.Machine} (sized : Sized s.world rolledAt) (e : PolicyEvent) :
    Sized (policyStep s e).world rolledAt := by
  cases e with
  | start policy =>
    simp only [policyStep]
    split <;> exact sized
  | stop policy =>
    simp only [policyStep]
    split <;> exact sized
  | assign policy data => exact sized
  | leave cpu => exact sized
  | join cpu => exact sized
  | offline cpu => exact ⟨sized.force,sized.requested,sized.own⟩
  | online cpu => exact ⟨sized.force,sized.requested,sized.own⟩

end

section
variable {s : Recorded}

theorem recordStep_sized {e : ShareEvent} (sized : Sized s.world s.rolledAt) (admitted : Admitted s e) :
    Sized (recordStep s e).world (recordStep s e).rolledAt := by
  cases e with
  | window e =>
    refine window_sized sized ?_ s rfl rfl
    rintro framePerSec rfl
    exact admitted
  | tick cpu clock now later => exact tick_sized sized cpu clock
  | seed clock => exact seed_sized sized clock
  | slimWaltCtrl value => exact ⟨sized.force,sized.requested,sized.own⟩
  | policy e => exact policy_sized sized e
  | record policy lg => exact sized
  | sysctl y => exact sized

/-- The window of a policy's record is the length of the governor's last start, or 0. -/
def Started (s : Recorded) : Prop :=
  (∀ policy length, s.startedAt policy = some length → 0 < length) ∧
    ∀ policy lg on, s.cpufreq.governorData policy = .lse lg on → lg.clusterWindowNs = (s.startedAt policy).getD 0

theorem started_length (started : Started s) {policy : ℕ} {lg : LseGovPolicy} {on : Bool}
    (data : s.cpufreq.governorData policy = .lse lg on) {g : Track} (force : g.ravgWindow = s.world.track.ravgWindow) :
    lseGetPolicyWindowNs s.sysctl g lg = rolloverLength s policy := by
  have window := started.2 policy lg on data
  unfold lseGetPolicyWindowNs rolloverLength
  rw [window,force]
  cases since : s.startedAt policy with
  | none => simp
  | some length =>
    have positive := started.1 policy length since
    simp [positive.ne']

/-- A start writes the length in force to the policy's record, and no other window. -/
theorem start_window {m : RolloverPolicies.Machine} {policy q : ℕ} {lg : LseGovPolicy} {on : Bool}
    (data : (policyStep m (.start policy)).cpufreq.governorData q = .lse lg on) :
    ∃ old was, m.cpufreq.governorData q = .lse old was ∧
      lg.clusterWindowNs = if q = policy then m.world.track.ravgWindow else old.clusterWindowNs := by
  by_cases here : q = policy
  · subst here
    cases before : m.cpufreq.governorData q with
    | lse old was =>
      simp only [policyStep,before,lseGovStart,setGovFlag_frame,Function.update_self,GovernorData.lse.injEq] at data
      rw [← data.1]
      exact ⟨old,was,rfl,(if_pos rfl).symm⟩
    | none => simp [policyStep,before] at data
    | other windowWord => simp [policyStep,before] at data
  · have kept : m.cpufreq.governorData q = .lse lg on := by
      rw [← data]
      simp only [policyStep]
      split <;> simp [lseGovStart,here]
    exact ⟨lg,on,kept,(if_neg here).symm⟩

/-- A stop writes no window. -/
theorem stop_window {m : RolloverPolicies.Machine} {policy q : ℕ} {lg : LseGovPolicy} {on : Bool}
    (data : (policyStep m (.stop policy)).cpufreq.governorData q = .lse lg on) :
    ∃ old was, m.cpufreq.governorData q = .lse old was ∧ lg.clusterWindowNs = old.clusterWindowNs := by
  by_cases here : q = policy
  · subst here
    cases before : m.cpufreq.governorData q with
    | lse old was =>
      simp only [policyStep,before,lseGovStop,setGovFlag_frame,Function.update_self,GovernorData.lse.injEq] at data
      rw [← data.1]
      exact ⟨old,was,rfl,rfl⟩
    | none => simp [policyStep,before] at data
    | other windowWord => simp [policyStep,before] at data
  · have kept : m.cpufreq.governorData q = .lse lg on := by
      rw [← data]
      simp only [policyStep]
      split <;> simp [lseGovStop,here]
    exact ⟨lg,on,kept,rfl⟩

theorem start_started (started : Started s) (sized : Sized s.world s.rolledAt) (policy : ℕ) :
    Started (recordStep s (.policy (.start policy))) := by
  obtain ⟨positive,windows⟩ := started
  refine ⟨fun q length since => ?_,fun q lg on data => ?_⟩
  · by_cases here : q = policy
    · have now : s.world.track.ravgWindow = length := by simpa [recordStep,here] using since
      exact now ▸ sized.force
    · exact positive q length (by simpa [recordStep,here] using since)
  · obtain ⟨old,was,before,window⟩ := start_window data
    rw [window]
    by_cases here : q = policy
    · simp [recordStep,here]
    · simpa [recordStep,here] using windows q old was before

theorem stop_started (started : Started s) (policy : ℕ) : Started (recordStep s (.policy (.stop policy))) := by
  refine ⟨started.1,fun q lg on data => ?_⟩
  obtain ⟨old,was,before,window⟩ := stop_window data
  exact window.trans (started.2 q old was before)

theorem recordStep_started {e : ShareEvent} (sized : Sized s.world s.rolledAt) (started : Started s)
    (admitted : Admitted s e) : Started (recordStep s e) := by
  cases e with
  | policy e =>
    cases e with
    | start policy => exact start_started started sized policy
    | stop policy => exact stop_started started policy
    | assign policy data =>
      refine ⟨fun q length since => ?_,fun q lg on now => ?_⟩
      · by_cases here : q = policy
        · simp [recordStep,here] at since
        · exact started.1 q length (by simpa [recordStep,here] using since)
      · by_cases here : q = policy
        · have set : data = .lse lg on := by simpa [recordStep,shareStep,policyStep,here] using now
          subst set
          have zeroed : lg.clusterWindowNs = 0 := admitted
          simpa [recordStep,here] using zeroed
        · have kept : s.cpufreq.governorData q = .lse lg on := by
            simpa [recordStep,shareStep,policyStep,here] using now
          simpa [recordStep,here] using started.2 q lg on kept
    | leave cpu => exact ⟨started.1,by simpa [recordStep,shareStep,policyStep] using started.2⟩
    | join cpu => exact ⟨started.1,by simpa [recordStep,shareStep,policyStep] using started.2⟩
    | offline cpu => exact started
    | online cpu => exact started
  | record policy lg =>
    refine ⟨started.1,fun q lg' on now => ?_⟩
    simp only [recordStep,shareStep,writeRecord] at now
    split at now
    · rename_i old was before
      by_cases here : q = policy
      · subst here
        simp only [Function.update_self,GovernorData.lse.injEq] at now
        rw [← now.1]
        exact started.2 q old was before
      · exact started.2 q lg' on (by simpa [here] using now)
    · exact started.2 q lg' on now
    · exact started.2 q lg' on now
  | window e => exact started
  | tick cpu clock now later => exact started
  | seed clock => exact started
  | slimWaltCtrl value => exact started
  | sysctl y => exact started

theorem recordStep_mode {e : ShareEvent} (mode : s.sysctl.clusterAggMode = 0) (admitted : Admitted s e) :
    (recordStep s e).sysctl.clusterAggMode = 0 := by
  cases e with
  | sysctl y => exact admitted
  | _ => exact mode

/-! ### Shares -/

/-- At a tick the length in force is that of the CPU's window. -/
theorem tick_own (sized : Sized s.world s.rolledAt) (mode : s.sysctl.clusterAggMode = 0) {cpu clock now later : ℕ}
    (lengths : OneLength s (.tick cpu clock now later)) : Normalised s.toGoverned (.tick cpu clock now later) := by
  intro timely traverses policy found
  have ticked := tick_sized sized cpu clock
  have plain : s.sysctl.clusterAggMode ≠ lseAggTop2Avg := by
    rw [mode]
    decide
  have force : max (lseTickEntry s.world cpu clock).track.ravgWindow 1 = s.world.track.ravgWindow := by
    rw [max_eq_left ticked.force]
    exact lseTickEntry_ravgWindow s.world cpu clock
  have own := rolledUnder_ownWindow ticked (lengths timely traverses policy found)
  simpa only [traverseUtil,plain,if_false,force] using own

/-- At a rollover the length in force, or that of the governor's start, is. -/
theorem rollover_own (sized : Sized s.world s.rolledAt) (started : Started s) (mode : s.sysctl.clusterAggMode = 0)
    {cpu clock : ℕ} (lengths : OneLength s (.window (.irqWork cpu clock))) :
    Normalised s.toGoverned (.window (.irqWork cpu clock)) := by
  intro cluster updated policy found
  have before : Sized (beforeCommit s.world cpu clock) (recordStep s (.window (.irqWork cpu clock))).rolledAt :=
    call_sized sized _ cpu .taskUpdate _
  have force : (beforeCommit s.world cpu clock).track.ravgWindow = s.world.track.ravgWindow := by
    obtain ⟨_,_,_,track⟩ := updateIfTracked_track s.world (s.world.rq cpu).curr cpu .taskUpdate (lseSchedClock s.world clock)
    rw [beforeCommit,track]
  have under := lengths cluster updated policy found
  cases data : s.cpufreq.governorData policy with
  | none => simp only [atIrqWork,data]
  | other windowWord => simp only [atIrqWork,data]
  | lse lg on =>
    simp only [atIrqWork,data] at under ⊢
    have length := started_length started data force
    have plain : s.sysctl.clusterAggMode ≠ lseAggTop2Avg := by
      rw [mode]
      decide
    have positive : 0 < lseGetPolicyWindowNs s.sysctl (beforeCommit s.world cpu clock).track lg := by
      unfold lseGetPolicyWindowNs
      split_ifs with off none
      · exact before.force
      · exact before.force
      · exact Nat.pos_of_ne_zero none
    have own := rolledUnder_ownWindow before under
    rw [← length] at own
    rw [rolloverUtil_recorded,aggUtilOf,max_eq_left positive]
    simpa only [rolloverCall,clusterSum,plain,if_false] using own

/-- The events that compute a utilisation do so over one length. -/
theorem normalised_of_oneLength {e : ShareEvent} (sized : Sized s.world s.rolledAt) (started : Started s)
    (mode : s.sysctl.clusterAggMode = 0) (lengths : OneLength s e) : Normalised s.toGoverned e := by
  cases e with
  | window e =>
    cases e with
    | irqWork cpu clock => exact rollover_own sized started mode lengths
    | _ => trivial
  | tick cpu clock now later => exact tick_own sized mode lengths
  | _ => trivial

end

/-- Along every run in which the largest load is the cluster's, every utilisation that a
    rollover or a tick computes is the share of the window it was collected in, while a CPU
    with the largest sum rolled over last under the length that is divided by. -/
theorem own_window_along (s : Governed) (fresh : Fresh s) (run : List ShareEvent)
    (admitted : Along recordStep Admitted (recorded s) run) (lengths : Along recordStep OneLength (recorded s) run) :
    Along recordStep (fun s e => Normalised s.toGoverned e) (recorded s) run := by
  refine along_invariant
    (fun s => Sized s.world s.rolledAt ∧ Started s ∧ s.sysctl.clusterAggMode = 0)
    (fun s e ⟨sized,started,mode⟩ (ok : Admitted s e ∧ OneLength s e) => ⟨recordStep_sized sized ok.1,
      recordStep_started sized started ok.1,recordStep_mode mode ok.1⟩)
    (fun s e ⟨sized,started,mode⟩ ok => normalised_of_oneLength sized started mode ok.2) ?_
    (along_and.mpr ⟨admitted,lengths⟩)
  exact ⟨⟨fresh.force,fresh.requested,fresh.own⟩,⟨fun _ _ since => absurd since nofun,fresh.unstarted⟩,fresh.mode⟩

/-- Two CPUs with seeded windows, in one cluster and one policy. -/
def twoCpus : Governed where
  world := lseSchedulerTick (World.boot 2 (fun _ => plainTask)) 1020000
  cpufreq := RolloverPolicies.onePolicy.cpufreq
  sysctl := { govSysctlDefaults with clusterAggMode := 0 }
  grq := fun _ => ⟨0,0,0,0⟩

theorem twoCpus_fresh : Fresh twoCpus := by
  refine ⟨by decide +kernel,by decide +kernel,fun cpu => ?_,fun policy lg on data => ?_,rfl⟩
  · have frame := Rollover.lseSchedulerTick_frame (World.boot 2 (fun _ => plainTask)) 1020000
    simp only [twoCpus,frame.size]
    rw [frame.lrq]
    rfl
  · cases data
    rfl

/-- The governor is started; CPU 0 is busy for 7 ms of its window, and the rollover at its
    end puts a window of 1111111 ns in force. -/
def shrunk : List ShareEvent :=
  [.policy (.start 0),.window (.ravg 0 0 .taskUpdate 2000000),.window (.request 900),.window (.irqWork 0 9100000)]

/-- A tick then relates the 7 ms to the new window, and the rollover at the end of the
    new window relates a window full of running time to the one at the governor's start. -/
theorem other_window :
    Fresh twoCpus ∧ Along recordStep Admitted (recorded twoCpus) (shrunk ++ [.tick 0 9300000 9300000 9300000]) ∧
      ¬ Along recordStep (fun s e => Normalised s.toGoverned e) (recorded twoCpus)
        (shrunk ++ [.tick 0 9300000 9300000 9300000]) ∧
      Along recordStep Admitted (recorded twoCpus) (shrunk ++ [.window (.irqWork 0 10200000)]) ∧
      ¬ Along recordStep (fun s e => Normalised s.toGoverned e) (recorded twoCpus)
        (shrunk ++ [.window (.irqWork 0 10200000)]) :=
  ⟨twoCpus_fresh,by decide +kernel,by decide +kernel,by decide +kernel,by decide +kernel⟩

/-- When the governor is started again after the commit and CPU 0 has rolled over since, a
    tick and a rollover relate its sum to the new window. -/
theorem own_window_restarted :
    let run := shrunk ++ [.policy (.stop 0),.policy (.start 0),.window (.ravg 0 0 .taskUpdate 10200000),
      .tick 0 10300000 10300000 10300000,.window (.irqWork 0 11400000)]
    Along recordStep Admitted (recorded twoCpus) run ∧ Along recordStep OneLength (recorded twoCpus) run ∧
      Along recordStep (fun s e => Normalised s.toGoverned e) (recorded twoCpus) run :=
  ⟨by decide +kernel,by decide +kernel,own_window_along twoCpus twoCpus_fresh _ (by decide +kernel) (by decide +kernel)⟩

end LunarSched.WindowShare
