import Mathlib.Tactic.Ring
import Mathlib.Order.Monotone.Basic

/-!
Shares of a whole on a scale of `unit`: the share that a part of the whole has, and
the part that a share stands for, both rounded down. When the whole is at least the
scale, a share that is turned into a part and back loses at most one
(`share_portion`, `share_portion_tight`), and the share of half of two parts is within
one of half of their shares (`share_half_le`, `half_le_share`). Counting whole divisors
instead of taking the share gives at most one more (`div_divisor_le_share`).
-/
namespace LunarSched.Scale

/-- The share of the whole that a part has. -/
def share (unit whole part : ℕ) : ℕ := part * unit / whole
/-- The part of the whole that a share stands for. -/
def portion (unit whole share : ℕ) : ℕ := share * whole / unit

variable {unit whole : ℕ}

theorem le_share_iff (positive : 0 < whole) {k part : ℕ} : k ≤ share unit whole part ↔ k * whole ≤ part * unit :=
  Nat.le_div_iff_mul_le positive

theorem share_mono (unit whole : ℕ) : Monotone (share unit whole) :=
  fun _ _ le => Nat.div_le_div_right (Nat.mul_le_mul_right unit le)

theorem share_le_unit (unit : ℕ) (positive : 0 < whole) {part : ℕ} (le : part ≤ whole) : share unit whole part ≤ unit := by
  unfold share
  calc part * unit / whole ≤ whole * unit / whole := Nat.div_le_div_right (Nat.mul_le_mul_right unit le)
    _ = unit := Nat.mul_div_cancel_left unit positive

/-- A share times the whole, and the next one. -/
theorem share_bounds (unit : ℕ) (positive : 0 < whole) (part : ℕ) :
    share unit whole part * whole ≤ part * unit ∧ part * unit < (share unit whole part + 1) * whole := by
  refine ⟨(le_share_iff positive).mp le_rfl,?_⟩
  by_contra above
  exact absurd ((le_share_iff positive).mpr (not_lt.mp above)) (Nat.not_succ_le_self _)

/-- Parts measured in whole divisors: the whole is less than one divisor longer than `unit`
    of them. -/
theorem div_divisor_le (large : unit * unit ≤ whole) {part : ℕ} (within : part ≤ whole) : part / (whole / unit) ≤ unit := by
  rcases Nat.eq_zero_or_pos unit with rfl | positive
  · simp
  · have divisor : unit ≤ whole / unit := (Nat.le_div_iff_mul_le positive).mpr large
    have rest : whole < unit * (whole / unit) + unit := Nat.lt_mul_div_succ whole positive
    refine Nat.le_of_lt_succ ((Nat.div_lt_iff_lt_mul (by omega)).mpr ?_)
    calc part ≤ whole := within
      _ < unit * (whole / unit) + unit := rest
      _ ≤ unit * (whole / unit) + whole / unit := Nat.add_le_add_left divisor _
      _ = (unit + 1) * (whole / unit) := (Nat.succ_mul _ _).symm

/-- Measured in whole divisors, no part has less than its share. -/
theorem share_le_div_divisor (small : 0 < unit) (fine : unit ≤ whole) (part : ℕ) :
    share unit whole part ≤ part / (whole / unit) := by
  have divisor : 0 < whole / unit := Nat.div_pos fine small
  rw [Nat.le_div_iff_mul_le divisor]
  refine Nat.le_of_mul_le_mul_right ?_ small
  calc share unit whole part * (whole / unit) * unit = share unit whole part * (whole / unit * unit) := Nat.mul_assoc ..
    _ ≤ share unit whole part * whole := Nat.mul_le_mul_left _ (Nat.div_mul_le_self whole unit)
    _ ≤ part * unit := (share_bounds unit (by omega) part).1

/-- A part that fits the whole has at most one divisor more than its share: the remainders
    left out of the divisors add up to less than one more divisor. -/
theorem div_divisor_le_share (small : 0 < unit) (large : unit * unit ≤ whole) {part : ℕ} (within : part ≤ whole) :
    part / (whole / unit) ≤ share unit whole part + 1 := by
  have divisor : unit ≤ whole / unit := (Nat.le_div_iff_mul_le small).mpr large
  have count := div_divisor_le large within
  have used : part / (whole / unit) * (whole / unit) ≤ part := Nat.div_mul_le_self part (whole / unit)
  generalize part / (whole / unit) = n at count used ⊢
  rcases n with _ | k
  · exact Nat.zero_le _
  · have positive : 0 < whole := Nat.lt_of_lt_of_le (Nat.mul_pos small small) large
    refine Nat.succ_le_succ ((le_share_iff positive).mpr ?_)
    calc k * whole ≤ k * (unit * (whole / unit) + unit) := Nat.mul_le_mul_left k (Nat.lt_mul_div_succ whole small).le
      _ = (k * (whole / unit) + k) * unit := by ring
      _ ≤ (k * (whole / unit) + whole / unit) * unit := Nat.mul_le_mul_right unit (by omega)
      _ = (k + 1) * (whole / unit) * unit := by rw [Nat.succ_mul]
      _ ≤ part * unit := Nat.mul_le_mul_right unit used

theorem portion_mono (unit whole : ℕ) : Monotone (portion unit whole) :=
  fun _ _ le => Nat.div_le_div_right (Nat.mul_le_mul_right whole le)

theorem portion_le (small : 0 < unit) {s : ℕ} (le : s ≤ unit) : portion unit whole s ≤ whole := by
  unfold portion
  calc s * whole / unit ≤ unit * whole / unit := Nat.div_le_div_right (Nat.mul_le_mul_right whole le)
    _ = whole := Nat.mul_div_cancel_left whole small

/-- The share of the part that a share stands for: the share itself when the part is
    exact, and one less otherwise. -/
theorem share_portion (small : 0 < unit) (fine : unit ≤ whole) (s : ℕ) :
    share unit whole (portion unit whole s) = if unit ∣ s * whole then s else s - 1 := by
  have positive : 0 < whole := by omega
  by_cases exact_part : unit ∣ s * whole
  · rw [if_pos exact_part]
    unfold share portion
    rw [Nat.div_mul_cancel exact_part,Nat.mul_div_cancel s positive]
  · rw [if_neg exact_part]
    have nonzero : s ≠ 0 := by
      rintro rfl
      exact exact_part (by simp)
    obtain ⟨k,rfl⟩ : ∃ k, s = k + 1 := ⟨s - 1,by omega⟩
    -- the part loses less than `unit`, which is at most one share of the whole
    have rounded := Nat.div_add_mod ((k + 1) * whole) unit
    have lost := Nat.mod_lt ((k + 1) * whole) small
    have some_lost : 0 < (k + 1) * whole % unit := Nat.pos_of_ne_zero (fun zero => exact_part (Nat.dvd_of_mod_eq_zero zero))
    have product : (k + 1) * whole / unit * unit = unit * ((k + 1) * whole / unit) := Nat.mul_comm _ _
    have next : (k + 1) * whole = k * whole + whole := Nat.succ_mul k whole
    have low : k ≤ share unit whole (portion unit whole (k + 1)) := by
      rw [le_share_iff positive,portion,product]
      omega
    have high : ¬ k + 1 ≤ share unit whole (portion unit whole (k + 1)) := by
      rw [le_share_iff positive,portion,product]
      omega
    rw [Nat.add_sub_cancel]
    omega

/-- A conversion that loses at most one, nothing at the two ends of the scale, and keeps
    the order. -/
structure Tight (unit : ℕ) (convert : ℕ → ℕ) : Prop where
  near : ∀ s ≤ unit, convert s = s ∨ convert s + 1 = s
  zero : convert 0 = 0
  full : convert unit = unit
  mono : ∀ s t, s ≤ t → t ≤ unit → convert s ≤ convert t

theorem share_portion_tight (small : 0 < unit) (fine : unit ≤ whole) :
    Tight unit (fun s => share unit whole (portion unit whole s)) := by
  refine ⟨?_,?_,?_,fun s t le _ => share_mono unit whole (portion_mono unit whole le)⟩
  · intro s _
    simp only [share_portion small fine]
    by_cases exact_part : unit ∣ s * whole
    · exact Or.inl (if_pos exact_part)
    · have nonzero : s ≠ 0 := by
        rintro rfl
        exact exact_part (by simp)
      rw [if_neg exact_part]
      omega
  · simp [share,portion]
  · simp only [share_portion small fine]
    exact if_pos (Nat.dvd_mul_right unit whole)

/-- A conversion that agrees with a tight one on the scale is tight. -/
theorem Tight.congr {convert other : ℕ → ℕ} (tight : Tight unit convert) (same : ∀ s ≤ unit, other s = convert s) :
    Tight unit other := by
  refine ⟨?_,?_,?_,?_⟩
  · intro s le
    rw [same s le]
    exact tight.near s le
  · rw [same 0 (Nat.zero_le unit)]
    exact tight.zero
  · rw [same unit le_rfl]
    exact tight.full
  · intro s t le inside
    rw [same s (le.trans inside),same t inside]
    exact tight.mono s t le inside

theorem share_half_le (unit : ℕ) (positive : 0 < whole) (a b : ℕ) :
    share unit whole ((a + b) / 2) ≤ (share unit whole a + share unit whole b) / 2 + 1 := by
  have low := (share_bounds unit positive ((a + b) / 2)).1
  have first := (share_bounds unit positive a).2
  have second := (share_bounds unit positive b).2
  have halved : 2 * ((a + b) / 2 * unit) ≤ (a + b) * unit := by
    rw [← Nat.mul_assoc]
    exact Nat.mul_le_mul_right unit (Nat.mul_div_le (a + b) 2)
  have doubled : 2 * share unit whole ((a + b) / 2) * whole <
      (share unit whole a + 1 + (share unit whole b + 1)) * whole := by
    calc 2 * share unit whole ((a + b) / 2) * whole = 2 * (share unit whole ((a + b) / 2) * whole) := Nat.mul_assoc ..
      _ ≤ 2 * ((a + b) / 2 * unit) := Nat.mul_le_mul_left 2 low
      _ ≤ a * unit + b * unit := by rwa [← Nat.add_mul]
      _ < (share unit whole a + 1) * whole + (share unit whole b + 1) * whole := Nat.add_lt_add first second
      _ = _ := (Nat.add_mul ..).symm
  have less := Nat.lt_of_mul_lt_mul_right doubled
  omega

theorem half_le_share (positive : 0 < whole) (fine : unit ≤ whole) (a b : ℕ) :
    (share unit whole a + share unit whole b) / 2 ≤ share unit whole ((a + b) / 2) + 1 := by
  have high := (share_bounds unit positive ((a + b) / 2)).2
  have first := (share_bounds unit positive a).1
  have second := (share_bounds unit positive b).1
  have halved : (a + b) * unit ≤ 2 * ((a + b) / 2 * unit) + unit := by
    calc (a + b) * unit ≤ (2 * ((a + b) / 2) + 1) * unit := Nat.mul_le_mul_right unit (by omega)
      _ = 2 * ((a + b) / 2 * unit) + unit := by ring
  have doubled : (share unit whole a + share unit whole b) * whole <
      (2 * (share unit whole ((a + b) / 2) + 1) + 1) * whole := by
    calc (share unit whole a + share unit whole b) * whole
        = share unit whole a * whole + share unit whole b * whole := Nat.add_mul ..
      _ ≤ a * unit + b * unit := Nat.add_le_add first second
      _ ≤ 2 * ((a + b) / 2 * unit) + unit := by rwa [← Nat.add_mul]
      _ < 2 * ((share unit whole ((a + b) / 2) + 1) * whole) + whole := by omega
      _ = _ := by ring
  have less := Nat.lt_of_mul_lt_mul_right doubled
  omega

end LunarSched.Scale
