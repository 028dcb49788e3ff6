import Mathlib.Order.Lattice
import Mathlib.Order.MinMax

/-!
Values clamped between two bounds, where the lower bound is applied last. One-sided
bounds that are applied first only move the two bounds (`clamp_max`, `clamp_min`), so any
sequence of them is one clamp; a clamp is monotone and idempotent whether its bounds are
in order or not.
-/
namespace LunarSched.Clamp

variable {α : Type*} [LinearOrder α]

def clamp (lo hi x : α) : α := max (min x hi) lo

variable {lo hi x y : α}

theorem clamp_mono (lo hi : α) : Monotone (clamp lo hi) :=
  fun _ _ le => max_le_max_right lo (min_le_min_right hi le)

theorem le_clamp : lo ≤ clamp lo hi x := le_max_right _ _

theorem clamp_le (ordered : lo ≤ hi) : clamp lo hi x ≤ hi := max_le (min_le_right _ _) ordered

theorem clamp_of_within (low : lo ≤ x) (high : x ≤ hi) : clamp lo hi x = x := by
  rw [clamp,min_eq_left high,max_eq_left low]

/-- What is not above the lower bound makes no difference. -/
theorem clamp_of_le (below : x ≤ lo) : clamp lo hi x = lo := max_eq_right ((min_le_left _ _).trans below)

theorem clamp_idem (lo hi x : α) : clamp lo hi (clamp lo hi x) = clamp lo hi x := by
  rcases le_total lo hi with ordered | crossed
  · exact clamp_of_within le_clamp (clamp_le ordered)
  · have constant : ∀ z, clamp lo hi z = lo := fun z => max_eq_right ((min_le_right z hi).trans crossed)
    rw [constant,constant]

/-- A lower bound that is applied first. -/
theorem clamp_max (lo hi bound x : α) : clamp lo hi (max x bound) = clamp (max (min bound hi) lo) hi x := by
  simp only [clamp]
  rw [min_max_distrib_right,max_assoc]

/-- An upper bound that is applied first. -/
theorem clamp_min (lo hi bound x : α) : clamp lo hi (min x bound) = clamp lo (min bound hi) x := by
  simp only [clamp]
  rw [min_assoc]

/-- Where a clamp keeps one value below another, it has not lowered the smaller one or
    raised the greater one. -/
theorem clamp_lt_clamp (less : clamp lo hi y < clamp lo hi x) : y ≤ clamp lo hi y ∧ clamp lo hi x ≤ x := by
  have upper : clamp lo hi x = min x hi := by
    refine max_eq_left (le_of_lt ?_)
    by_contra low
    have bottom : clamp lo hi x = lo := max_eq_right (not_lt.mp low)
    exact absurd less (not_lt.mpr (bottom.le.trans le_clamp))
  refine ⟨?_,upper ▸ min_le_left _ _⟩
  have below : min y hi < hi := ((le_max_left _ lo).trans_lt less).trans_le (upper ▸ min_le_right _ _)
  have kept : min y hi = y := min_eq_left (le_of_lt (by simpa using below))
  calc y = min y hi := kept.symm
    _ ≤ clamp lo hi y := le_max_left _ _

end LunarSched.Clamp
