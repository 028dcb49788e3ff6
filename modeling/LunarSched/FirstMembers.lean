import Mathlib.Data.List.Nodup
import Mathlib.Data.Nat.Find
import Mathlib.Order.Basic

/-!
The first members of the classes that a key makes of a set of numbers. A loop that goes
upwards and, at every member that is left, takes the members of its class away stops at the
first members: what it has left at `k` are the members whose class has none below `k`, and
`k` itself is one of them exactly when it is a first member.
-/
namespace LunarSched.FirstMembers

variable {κ : Type*}

/-- A member, and the first one of its class. -/
def First (member : ℕ → Prop) (key : ℕ → κ) (i : ℕ) : Prop := member i ∧ ∀ j < i, member j → key j ≠ key i

/-- A member whose class has none below `k`. -/
def Left (member : ℕ → Prop) (key : ℕ → κ) (k i : ℕ) : Prop := member i ∧ ∀ j < k, member j → key j ≠ key i

section
variable {member : ℕ → Prop} {key : ℕ → κ} {i k : ℕ}

/-- Every member has a first one of its class. -/
theorem exists_first (inside : member i) : ∃ j ≤ i, First member key j ∧ key j = key i := by
  induction i using Nat.strong_induction_on with
  | _ i ih =>
    by_cases first : ∀ j < i, member j → key j ≠ key i
    · exact ⟨i,le_rfl,⟨inside,first⟩,rfl⟩
    · push Not at first
      obtain ⟨j,below,insideJ,same⟩ := first
      obtain ⟨m,le,firstM,same'⟩ := ih j below insideJ
      exact ⟨m,le.trans below.le,firstM,same'.trans same⟩

/-- At the start every member is left. -/
theorem left_zero (member : ℕ → Prop) (key : ℕ → κ) : Left member key 0 i ↔ member i := by simp [Left]

/-- At a member, those of its class are taken away. -/
theorem left_take (member : ℕ → Prop) (key : ℕ → κ) (inside : member k) {taken : Prop}
    (spec : member i → (taken ↔ key k = key i)) : Left member key k i ∧ ¬ taken ↔ Left member key (k + 1) i := by
  constructor
  · rintro ⟨⟨insideI,lower⟩,not⟩
    refine ⟨insideI,fun j below insideJ same => ?_⟩
    rcases Nat.lt_succ_iff_lt_or_eq.mp below with less | rfl
    · exact lower j less insideJ same
    · exact not ((spec insideI).mpr same)
  · rintro ⟨insideI,lower⟩
    refine ⟨⟨insideI,fun j below => lower j (Nat.lt_succ_of_lt below)⟩,fun gone => ?_⟩
    exact lower k (Nat.lt_succ_self k) inside ((spec insideI).mp gone)

/-- Elsewhere nothing is. -/
theorem left_skip (member : ℕ → Prop) (key : ℕ → κ) (not : ¬ First member key k) :
    Left member key k i ↔ Left member key (k + 1) i := by
  refine and_congr_right (fun _ => ⟨fun lower j below insideJ => ?_,fun lower j below => lower j (Nat.lt_succ_of_lt below)⟩)
  rcases Nat.lt_succ_iff_lt_or_eq.mp below with less | rfl
  · exact lower j less insideJ
  · obtain ⟨m,le,first,same⟩ : ∃ m ≤ j, First member key m ∧ key m = key j := exists_first insideJ
    rcases le.lt_or_eq with less | rfl
    · exact same ▸ lower m less first.1
    · exact absurd first not

end

/-- The numbers below a bound, divided at one of them. -/
theorem range_split {i n : ℕ} (below : i < n) :
    List.range n = List.range i ++ i :: List.range' (i + 1) (n - (i + 1)) := by
  have joined := List.range'_append_1 (s := 0) (m := i) (n := n - i)
  rw [Nat.zero_add,Nat.add_sub_cancel' below.le] at joined
  obtain ⟨rest,more⟩ : ∃ m, n - i = m + 1 := ⟨n - (i + 1),by omega⟩
  have less : n - (i + 1) = rest := by omega
  rw [List.range_eq_range',List.range_eq_range',← joined,more,less,List.range'_succ]

/-- Numbers that are first members have different keys. -/
theorem firsts_pairwise {member : ℕ → Prop} {key : ℕ → κ} {is : List ℕ} (ascending : is.Pairwise (fun i j => i < j))
    (firsts : ∀ i ∈ is, First member key i) : is.Pairwise (fun i j => key i ≠ key j) :=
  ascending.imp_of_mem (fun inside later less => (firsts _ later).2 _ less (firsts _ inside).1)

end LunarSched.FirstMembers
