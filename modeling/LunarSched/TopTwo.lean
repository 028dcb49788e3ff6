import Mathlib.Data.List.Perm.Basic
import Mathlib.Data.List.Sort
import Mathlib.Order.BoundedOrder.Lattice
import Mathlib.Order.MinMax

/-!
The two largest of a sequence of values, found in one pass. What the pass keeps is a pair
in order, into which one value after the other is pushed; the pushes commute, so the pair
depends on the values alone and not on their order (`ofList_perm`), and on values that
descend it is the first two (`ofList_eq`). A monotone function can be applied before or
after the pass, and the pair is monotone in the values.
-/
namespace LunarSched.TopTwo

/-- A largest and a second largest value. -/
@[ext] structure TopPair (α : Type*) [LinearOrder α] where
  first : α
  second : α
  ordered : second ≤ first

section
variable {α : Type*} [LinearOrder α]

/-- The two largest of a pair and one more value. -/
def TopPair.push (t : TopPair α) (x : α) : TopPair α where
  first := max t.first x
  second := max t.second (min t.first x)
  ordered := max_le (t.ordered.trans (le_max_left _ _)) ((min_le_left _ _).trans (le_max_left _ _))

variable {t u : TopPair α} {x y : α}

@[simp] theorem push_first (t : TopPair α) (x : α) : (t.push x).first = max t.first x := rfl
@[simp] theorem push_second (t : TopPair α) (x : α) : (t.push x).second = max t.second (min t.first x) := rfl

/-- Of three values the second largest is the largest of the smaller ones of each two. -/
theorem push_comm (t : TopPair α) (x y : α) : (t.push x).push y = (t.push y).push x := by
  ext
  · exact sup_right_comm _ _ _
  · simp only [push_first,push_second]
    rw [min_max_distrib_right,min_max_distrib_right,min_comm y x]
    ac_rfl

instance : RightCommutative (TopPair.push (α := α)) := ⟨push_comm⟩

theorem push_of_le (le : x ≤ t.second) : t.push x = t := by
  ext
  · exact max_eq_left (le.trans t.ordered)
  · exact max_eq_left ((min_le_right _ _).trans le)

theorem push_mono (first : t.first ≤ u.first) (second : t.second ≤ u.second) (le : x ≤ y) :
    (t.push x).first ≤ (u.push y).first ∧ (t.push x).second ≤ (u.push y).second :=
  ⟨max_le_max first le,max_le_max second (min_le_min first le)⟩

theorem foldl_push_mono {xs ys : List α} (le : List.Forall₂ (· ≤ ·) xs ys) :
    ∀ {t u : TopPair α}, t.first ≤ u.first → t.second ≤ u.second →
      (xs.foldl TopPair.push t).first ≤ (ys.foldl TopPair.push u).first ∧
        (xs.foldl TopPair.push t).second ≤ (ys.foldl TopPair.push u).second := by
  induction le with
  | nil => exact fun first second => ⟨first,second⟩
  | cons here _ ih =>
    intro t u first second
    obtain ⟨first,second⟩ := push_mono first second here
    exact ih first second

theorem foldl_push_le {bound : α} (values : List α) :
    ∀ {t : TopPair α}, t.first ≤ bound → (∀ x ∈ values, x ≤ bound) → (values.foldl TopPair.push t).first ≤ bound := by
  induction values with
  | nil => exact fun first _ => first
  | cons x rest ih =>
    intro t first all
    obtain ⟨here,others⟩ := List.forall_mem_cons.mp all
    exact ih (max_le first here) others

/-- Values that are no larger than both change nothing. -/
theorem foldl_push_settled {values : List α} (le : ∀ x ∈ values, x ≤ t.second) : values.foldl TopPair.push t = t := by
  induction values with
  | nil => rfl
  | cons x rest ih =>
    obtain ⟨here,others⟩ := List.forall_mem_cons.mp le
    rw [List.foldl_cons,push_of_le here]
    exact ih others

/-- The pair that a monotone function makes of one. -/
def TopPair.map {β : Type*} [LinearOrder β] (f : α → β) (mono : Monotone f) (t : TopPair α) : TopPair β :=
  ⟨f t.first,f t.second,mono t.ordered⟩

theorem map_push {β : Type*} [LinearOrder β] {f : α → β} (mono : Monotone f) (t : TopPair α) (x : α) :
    (t.map f mono).push (f x) = (t.push x).map f mono := by
  ext
  · exact mono.map_max.symm
  · simp only [TopPair.map,push_second,mono.map_max,mono.map_min]

theorem foldl_push_map {β : Type*} [LinearOrder β] {f : α → β} (mono : Monotone f) (values : List α) (t : TopPair α) :
    (values.map f).foldl TopPair.push (t.map f mono) = (values.foldl TopPair.push t).map f mono := by
  induction values generalizing t with
  | nil => rfl
  | cons x rest ih => rw [List.map_cons,List.foldl_cons,List.foldl_cons,map_push,ih]

end

section
variable {α : Type*} [LinearOrder α] [OrderBot α] {values : List α} {x : α}

/-- No value yet. -/
def TopPair.none : TopPair α := ⟨⊥,⊥,le_rfl⟩

def ofList (values : List α) : TopPair α := values.foldl TopPair.push TopPair.none

/-- The values, the largest first. -/
def descending (values : List α) : List α := values.insertionSort (· ≥ ·)

theorem ofList_perm {other : List α} (perm : values.Perm other) : ofList values = ofList other := perm.foldl_eq TopPair.none

theorem ofList_mono {other : List α} (le : List.Forall₂ (· ≤ ·) values other) :
    (ofList values).first ≤ (ofList other).first ∧ (ofList values).second ≤ (ofList other).second :=
  foldl_push_mono le le_rfl le_rfl

/-- Of values that descend the first two are kept. -/
theorem ofList_descending (sorted : values.Pairwise (· ≥ ·)) :
    (ofList values).first = values.getD 0 ⊥ ∧ (ofList values).second = values.getD 1 ⊥ := by
  rcases values with _ | ⟨a,_ | ⟨b,rest⟩⟩
  · exact ⟨rfl,rfl⟩
  · simp [ofList,TopPair.none]
  · obtain ⟨below,tail⟩ := List.pairwise_cons.mp sorted
    have le : b ≤ a := below b List.mem_cons_self
    have two : (TopPair.none.push a).push b = ⟨a,b,le⟩ := by
      ext
      · simp [TopPair.none,le]
      · simp [TopPair.none,le]
    have settled := foldl_push_settled (t := ⟨a,b,le⟩) (List.pairwise_cons.mp tail).1
    rw [ofList,List.foldl_cons,List.foldl_cons,two,settled]
    exact ⟨rfl,rfl⟩

/-- The pass finds the largest and the second largest value, or what is below all values
    where there is none. -/
theorem ofList_eq (values : List α) :
    (ofList values).first = (descending values).getD 0 ⊥ ∧ (ofList values).second = (descending values).getD 1 ⊥ := by
  rw [ofList_perm (List.perm_insertionSort (· ≥ ·) values).symm]
  exact ofList_descending (List.pairwise_insertionSort (· ≥ ·) values)

end

end LunarSched.TopTwo
