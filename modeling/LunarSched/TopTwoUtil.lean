import LunarSched.ClusterLoad
import LunarSched.LoadResponse

/-!
The mean of the two largest utilisations. The loop over the CPUs keeps the two largest
values of the multiset, so the mean does not depend on the order in which the CPUs come;
it lies between half of the largest utilisation and that utilisation, and does not go down
when the sums go up (`top_two_selected`).
-/
namespace LunarSched.TopTwoUtil
open LunarSched.Machine LunarSched.Kernel LunarSched.Governor LunarSched.TopTwo LunarSched.ClusterLoad
open LunarSched.LoadResponse (utilOf_mono)

/-- The CPUs of an enumeration that have a window. -/
def windowed (w : World) (cpus : List ℕ) : List ℕ := cpus.filter (fun cpu => utilWindow w cpu ≠ 0)

/-- The utilisations of these CPUs. -/
def utils (w : World) (cpus : List ℕ) : List ℕ :=
  (windowed w cpus).map (fun cpu => utilOf (utilWindow w cpu) (w.lrq cpu).prevRunnableSum)

/-- `lse_top2_avg_util` over an enumeration of the CPUs. -/
def top2AvgOver (w : World) (cpus : List ℕ) : ℕ :=
  let top := (utils w cpus).foldl top2 (0,0)
  if (windowed w cpus).length = 0 then 0
  else if (windowed w cpus).length = 1 then top.1
  else u32 (top.1 + top.2) / 2

theorem lseTop2AvgUtil_eq (w : World) (mask : Cpumask) :
    lseTop2AvgUtil w mask = top2AvgOver w (forEachCpu w.nrCpuIds mask) := rfl

/-- A machine with the CPUs and the windows of another one, on which no sum of a CPU of the
    mask is lower. -/
structure Raised (w w' : World) (mask : Cpumask) : Prop where
  cpus : w'.nrCpuIds = w.nrCpuIds
  windows : ∀ cpu, utilWindow w' cpu = utilWindow w cpu
  sums : ∀ cpu ∈ forEachCpu w.nrCpuIds mask, (w.lrq cpu).prevRunnableSum ≤ (w'.lrq cpu).prevRunnableSum
  small : ∀ cpu ∈ forEachCpu w.nrCpuIds mask, (w'.lrq cpu).prevRunnableSum < 2 ^ 54

/-- The mean of the two largest utilisations of the CPUs of a mask. -/
structure MeanOfTopTwo (w : World) (mask : Cpumask) : Prop where
  any_order : ∀ cpus, cpus.Perm (forEachCpu w.nrCpuIds mask) → top2AvgOver w cpus = lseTop2AvgUtil w mask
  between : 2 ≤ (windowed w (forEachCpu w.nrCpuIds mask)).length →
    (utils w (forEachCpu w.nrCpuIds mask)).foldl max 0 / 2 ≤ lseTop2AvgUtil w mask ∧
      lseTop2AvgUtil w mask ≤ (utils w (forEachCpu w.nrCpuIds mask)).foldl max 0
  mono : ∀ w', Raised w w' mask → lseTop2AvgUtil w mask ≤ lseTop2AvgUtil w' mask

section
variable {w w' : World} {mask : Cpumask} {cpus other : List ℕ}

theorem utils_first_le (w : World) (cpus : List ℕ) : (ofList (utils w cpus)).first ≤ 1024 := by
  refine foldl_push_le _ (Nat.zero_le _) (fun util member => ?_)
  obtain ⟨cpu,_,rfl⟩ := List.mem_map.mp member
  exact min_le_right _ _

/-- The sum of two utilisations does not wrap. -/
theorem top2AvgOver_eq (w : World) (cpus : List ℕ) :
    top2AvgOver w cpus =
      if (windowed w cpus).length = 0 then 0
      else if (windowed w cpus).length = 1 then (ofList (utils w cpus)).first
      else ((ofList (utils w cpus)).first + (ofList (utils w cpus)).second) / 2 := by
  have first := utils_first_le w cpus
  have second := (ofList (utils w cpus)).ordered
  simp only [top2AvgOver,foldl_top2_eq]
  rw [u32_of_lt (by omega)]

theorem lseTop2AvgUtil_le (w : World) (mask : Cpumask) : lseTop2AvgUtil w mask ≤ 1024 := by
  have first := utils_first_le w (forEachCpu w.nrCpuIds mask)
  have second := (ofList (utils w (forEachCpu w.nrCpuIds mask))).ordered
  rw [lseTop2AvgUtil_eq,top2AvgOver_eq]
  split_ifs <;> omega

theorem top2AvgOver_perm (perm : cpus.Perm other) : top2AvgOver w cpus = top2AvgOver w other := by
  have active : (windowed w cpus).Perm (windowed w other) := perm.filter _
  have same : ofList (utils w cpus) = ofList (utils w other) := ofList_perm (active.map _)
  rw [top2AvgOver_eq,top2AvgOver_eq,active.length_eq,same]

/-- The first of the two is the maximum. -/
theorem ofList_first (values : List ℕ) : (ofList values).first = values.foldl max 0 := by
  have pushed : ∀ t : TopPair ℕ, (values.foldl TopPair.push t).first = values.foldl max t.first := by
    induction values with
    | nil => exact fun _ => rfl
    | cons value rest ih => exact fun t => ih (t.push value)
  exact pushed TopPair.none

theorem top2AvgOver_between (two : 2 ≤ (windowed w cpus).length) :
    (utils w cpus).foldl max 0 / 2 ≤ top2AvgOver w cpus ∧ top2AvgOver w cpus ≤ (utils w cpus).foldl max 0 := by
  have ordered := (ofList (utils w cpus)).ordered
  rw [top2AvgOver_eq,if_neg (by omega),if_neg (by omega),← ofList_first]
  omega

theorem top2AvgOver_mono (windows : ∀ cpu, utilWindow w' cpu = utilWindow w cpu)
    (sums : ∀ cpu ∈ cpus, (w.lrq cpu).prevRunnableSum ≤ (w'.lrq cpu).prevRunnableSum)
    (small : ∀ cpu ∈ cpus, (w'.lrq cpu).prevRunnableSum < 2 ^ 54) : top2AvgOver w cpus ≤ top2AvgOver w' cpus := by
  have active : windowed w' cpus = windowed w cpus := by simp only [windowed,windows]
  have raised : List.Forall₂ (· ≤ ·) (utils w cpus) (utils w' cpus) := by
    rw [utils,utils,active,List.forall₂_map_left_iff,List.forall₂_map_right_iff,List.forall₂_same]
    intro cpu member
    have inside : cpu ∈ cpus := (List.mem_filter.mp member).1
    rw [windows]
    exact utilOf_mono (sums cpu inside) (small cpu inside)
  obtain ⟨first,second⟩ := ofList_mono raised
  rw [top2AvgOver_eq,top2AvgOver_eq,active]
  split_ifs
  · exact le_rfl
  · exact first
  · exact Nat.div_le_div_right (Nat.add_le_add first second)

end

/-- Over every sequence of values the loop ends with the largest and the second largest one,
    and on every machine the mean over every mask has what follows from it. -/
theorem top_two_selected (values : List ℕ) (w : World) (mask : Cpumask) :
    values.foldl top2 (0,0) = ((descending values).getD 0 0,(descending values).getD 1 0) ∧ MeanOfTopTwo w mask := by
  refine ⟨?_,fun cpus perm => top2AvgOver_perm perm,top2AvgOver_between,fun w' raised => ?_⟩
  · obtain ⟨first,second⟩ := ofList_eq values
    rw [foldl_top2_eq,first,second]
    rfl
  · rw [lseTop2AvgUtil_eq,lseTop2AvgUtil_eq,raised.cpus]
    exact top2AvgOver_mono raised.windows raised.sums raised.small

/-- Ties count twice. -/
example : [3,7,1,7].foldl top2 (0,0) = (7,7) := by decide

end LunarSched.TopTwoUtil
