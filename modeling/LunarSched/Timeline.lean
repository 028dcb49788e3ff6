import Mathlib.Algebra.BigOperators.Group.Finset.Piecewise
import Mathlib.Algebra.BigOperators.Group.List.Basic
import Mathlib.Data.List.Basic
import Mathlib.Tactic.Ring

/-!
Running time on a discrete clock. A span is a stretch of time during which
something ran; `timeIn` adds up how much of a list of spans falls into an
interval. Over a grid of windows of one size, `windowTime` is the running time in
one window and `activeWindows` lists the windows with any running time, newest
first. The rules say how both change when a span is added at the end.
-/
namespace LunarSched.Timeline

/-- A stretch of time from `start` up to `stop`. -/
structure Span where
  start : ℕ
  stop : ℕ
deriving DecidableEq

/-- How much of a span falls between two instants. -/
def Span.overlap (s : Span) (lo hi : ℕ) : ℕ := min s.stop hi - max s.start lo

/-- The running time of the spans between two instants. -/
def timeIn (spans : List Span) (lo hi : ℕ) : ℕ := (spans.map (fun s => s.overlap lo hi)).sum

/-- Every span ends by the instant. -/
def EndBy (spans : List Span) (t : ℕ) : Prop := ∀ s ∈ spans, s.stop ≤ t

theorem endBy_mono {spans : List Span} {t u : ℕ} (ends : EndBy spans t) (le : t ≤ u) : EndBy spans u :=
  fun s member => (ends s member).trans le
theorem endBy_cons {spans : List Span} {s : Span} {t : ℕ} : EndBy (s :: spans) t ↔ s.stop ≤ t ∧ EndBy spans t := by
  simp [EndBy]

@[simp] theorem timeIn_nil (lo hi : ℕ) : timeIn [] lo hi = 0 := rfl
@[simp] theorem timeIn_cons (s : Span) (spans : List Span) (lo hi : ℕ) :
    timeIn (s :: spans) lo hi = s.overlap lo hi + timeIn spans lo hi := by
  simp [timeIn]

/-- Nothing runs after the last span. -/
theorem timeIn_after {spans : List Span} {lo : ℕ} (ends : EndBy spans lo) (hi : ℕ) : timeIn spans lo hi = 0 := by
  induction spans with
  | nil => rfl
  | cons s rest ih =>
    obtain ⟨here,later⟩ := endBy_cons.mp ends
    rw [timeIn_cons,ih later,Span.overlap]
    omega

/-- Moving the end of the interval past the last span changes nothing. -/
theorem timeIn_extend {spans : List Span} {t : ℕ} (ends : EndBy spans t) (lo : ℕ) {hi : ℕ} (le : t ≤ hi) :
    timeIn spans lo hi = timeIn spans lo t := by
  induction spans with
  | nil => rfl
  | cons s rest ih =>
    obtain ⟨here,later⟩ := endBy_cons.mp ends
    rw [timeIn_cons,timeIn_cons,ih later,Span.overlap,Span.overlap]
    omega

/-- Spans that are counted by a key of what they belong to add up to all of them, when every
    one with a share in the interval has one of the keys. -/
theorem timeIn_grouped {α : Type*} (span : α → Span) (key : α → ℕ) (keys : Finset ℕ) {lo hi : ℕ} (entries : List α)
    (covered : ∀ x ∈ entries, (span x).overlap lo hi ≠ 0 → key x ∈ keys) :
    ∑ k ∈ keys, timeIn ((entries.filter (fun x => key x = k)).map span) lo hi = timeIn (entries.map span) lo hi := by
  induction entries with
  | nil => simp
  | cons x rest ih =>
    have parted : ∀ k, timeIn (((x :: rest).filter (fun y => key y = k)).map span) lo hi =
        (if key x = k then (span x).overlap lo hi else 0) + timeIn ((rest.filter (fun y => key y = k)).map span) lo hi := by
      intro k
      by_cases here : key x = k
      · simp [here]
      · simp [here]
    have own : (∑ k ∈ keys, if key x = k then (span x).overlap lo hi else 0) = (span x).overlap lo hi := by
      rw [Finset.sum_ite_eq]
      by_cases inside : key x ∈ keys
      · rw [if_pos inside]
      · have none := Not.imp_symm (covered x List.mem_cons_self) inside
        rw [if_neg inside,none]
    rw [Finset.sum_congr rfl (fun k _ => parted k),Finset.sum_add_distrib,own,
      ih (fun y member => covered y (List.mem_cons_of_mem x member)),List.map_cons,timeIn_cons]

/-- The spans end by the instant and do not overlap: after any instant there is no
    more running time than time. -/
structure Serial (spans : List Span) (t : ℕ) : Prop where
  ends : EndBy spans t
  alone : ∀ lo hi, timeIn spans lo hi ≤ t - lo

theorem serial_nil (t : ℕ) : Serial [] t := ⟨fun _ member => absurd member List.not_mem_nil,fun _ _ => Nat.zero_le _⟩

theorem serial_mono {spans : List Span} {t u : ℕ} (serial : Serial spans t) (le : t ≤ u) : Serial spans u :=
  ⟨endBy_mono serial.ends le,fun lo hi => (serial.alone lo hi).trans (by omega)⟩

/-- A span that starts after the others end runs alone. -/
theorem serial_cons {spans : List Span} {t u : ℕ} (serial : Serial spans t) (le : t ≤ u) :
    Serial (⟨t,u⟩ :: spans) u := by
  refine ⟨endBy_cons.mpr ⟨le_rfl,endBy_mono serial.ends le⟩,?_⟩
  intro lo hi
  have before := serial.alone lo hi
  rw [timeIn_cons,Span.overlap]
  simp only []
  omega

section
variable (origin size : ℕ)

/-- The running time in the window number `k` of the grid. -/
def windowTime (spans : List Span) (k : ℕ) : ℕ := timeIn spans (origin + k * size) (origin + (k + 1) * size)

/-- The running times in the windows below number `k`, newest first, without
    the windows in which nothing ran. -/
def activeWindows (spans : List Span) : ℕ → List ℕ
  | 0 => []
  | k + 1 =>
    if windowTime origin size spans k = 0 then activeWindows spans k
    else windowTime origin size spans k :: activeWindows spans k

variable {origin size}

theorem windowTime_cons (s : Span) (spans : List Span) (k : ℕ) :
    windowTime origin size (s :: spans) k =
      s.overlap (origin + k * size) (origin + (k + 1) * size) + windowTime origin size spans k := by
  simp [windowTime]

theorem windowTime_after {spans : List Span} {k : ℕ} (ends : EndBy spans (origin + k * size)) :
    windowTime origin size spans k = 0 :=
  timeIn_after ends _

/-- A span that starts at or after the end of a window adds nothing to it. -/
theorem windowTime_cons_before {s : Span} {spans : List Span} {k : ℕ} (after : origin + (k + 1) * size ≤ s.start) :
    windowTime origin size (s :: spans) k = windowTime origin size spans k := by
  rw [windowTime_cons,Span.overlap]
  omega

/-- The number of the window that contains an instant. -/
def windowOf (origin size t : ℕ) : ℕ := (t - origin) / size

theorem windowOf_eq {k t : ℕ} (low : origin + k * size ≤ t) (high : t < origin + k * size + size) :
    windowOf origin size t = k := by
  have above : t - origin < (k + 1) * size := by
    rw [Nat.succ_mul]
    omega
  exact Nat.div_eq_of_lt_le (by omega) above

theorem windowOf_contains {t : ℕ} (positive : 0 < size) (started : origin ≤ t) :
    origin + windowOf origin size t * size ≤ t ∧ t < origin + windowOf origin size t * size + size := by
  have split := Nat.div_add_mod' (t - origin) size
  have inside := Nat.mod_lt (t - origin) positive
  rw [windowOf]
  omega

/-- Spans without running time show nothing in any window. -/
theorem serial_zero {spans : List Span} (serial : Serial spans 0) (k : ℕ) : windowTime origin size spans k = 0 := by
  have bound := serial.alone (origin + k * size) (origin + (k + 1) * size)
  rw [windowTime]
  omega

theorem activeWindows_congr {one two : List Span} {k : ℕ}
    (same : ∀ j < k, windowTime origin size one j = windowTime origin size two j) :
    activeWindows origin size one k = activeWindows origin size two k := by
  induction k with
  | zero => rfl
  | succ k ih =>
    simp only [activeWindows,same k (Nat.lt_succ_self k),ih (fun j below => same j (Nat.lt_succ_of_lt below))]

/-- Windows in which nothing ran are not listed. -/
theorem activeWindows_idle {spans : List Span} {k : ℕ} (count : ℕ)
    (idle : ∀ j, k ≤ j → j < k + count → windowTime origin size spans j = 0) :
    activeWindows origin size spans (k + count) = activeWindows origin size spans k := by
  induction count with
  | zero => rfl
  | succ count ih =>
    have here := idle (k + count) (by omega) (by omega)
    rw [← Nat.add_assoc,activeWindows,if_pos here]
    exact ih (fun j low high => idle j low (by omega))

/-- Windows that were filled to the brim are listed with their size. -/
theorem activeWindows_full {spans : List Span} {k : ℕ} (count : ℕ) (positive : 0 < size)
    (full : ∀ j, k ≤ j → j < k + count → windowTime origin size spans j = size) :
    activeWindows origin size spans (k + count) =
      List.replicate count size ++ activeWindows origin size spans k := by
  induction count with
  | zero => rfl
  | succ count ih =>
    have here := full (k + count) (by omega) (by omega)
    rw [← Nat.add_assoc,activeWindows,here,if_neg (by omega),ih (fun j low high => full j low (by omega)),
      List.replicate_succ,List.cons_append]

end

end LunarSched.Timeline
