import Mathlib.Data.List.Basic

/-!
A ring of slots with a write position, as a list that is overwritten in turn.
`recent` reads it backwards from the last write; writing puts the new value in
front of what was recent and drops the oldest.
-/
namespace LunarSched.Ring

variable {α : Type*}

/-- Write one value and move on to the next slot, wrapping round. -/
def push (x : α) (ring : List α × ℕ) : List α × ℕ := (ring.1.set ring.2 x,(ring.2 + 1) % ring.1.length)

/-- Write one value into a number of consecutive slots. -/
def pushes (x : α) : ℕ → List α × ℕ → List α × ℕ
  | 0, ring => ring
  | count + 1, ring => pushes x count (push x ring)

/-- The slots read backwards from the one before the position, wrapping round. -/
def recent (ring : List α × ℕ) : List α := (ring.1.take ring.2).reverse ++ (ring.1.drop ring.2).reverse

/-- The position is one of the slots. -/
def InRange (ring : List α × ℕ) : Prop := ring.2 < ring.1.length

@[simp] theorem push_length (x : α) (ring : List α × ℕ) : (push x ring).1.length = ring.1.length := by
  simp [push]

theorem push_inRange {x : α} {ring : List α × ℕ} (inside : InRange ring) : InRange (push x ring) := by
  have positive : 0 < ring.1.length := Nat.zero_lt_of_lt inside
  simpa [InRange,push] using Nat.mod_lt (ring.2 + 1) positive

/-- A write comes in front of what was recent. -/
theorem recent_push {x : α} {ring : List α × ℕ} (inside : InRange ring) :
    recent (push x ring) = (x :: recent ring).take ring.1.length := by
  obtain ⟨slots,pos⟩ := ring
  change pos < slots.length at inside
  -- The old slots around the position, read backwards, end with the overwritten one.
  have old : recent (slots,pos) = (slots.take pos).reverse ++ (slots.drop (pos + 1)).reverse ++ [slots[pos]] := by
    simp only [recent]
    rw [List.drop_eq_getElem_cons inside]
    simp
  have written : slots.set pos x = slots.take pos ++ x :: slots.drop (pos + 1) := by
    rw [List.set_eq_take_append_cons_drop,if_pos inside]
  have size : (x :: ((slots.take pos).reverse ++ (slots.drop (pos + 1)).reverse)).length = slots.length := by
    simp only [List.length_cons,List.length_append,List.length_reverse,List.length_take,List.length_drop]
    omega
  have kept : (x :: recent (slots,pos)).take slots.length =
      x :: ((slots.take pos).reverse ++ (slots.drop (pos + 1)).reverse) := by
    rw [old,← List.cons_append,List.take_append_of_le_length (by omega),List.take_of_length_le (by omega)]
  rw [kept]
  have taken : (slots.take pos).length = pos := by simp; omega
  by_cases last : pos + 1 = slots.length
  · simp only [push,recent,written,last,Nat.mod_self,List.take_zero,List.drop_zero,List.reverse_nil,List.nil_append]
    simp
  · simp only [push,recent,written,Nat.mod_eq_of_lt (show pos + 1 < slots.length by omega)]
    rw [List.take_append,List.drop_append,taken]
    simp [List.take_of_length_le (show (slots.take pos).length ≤ pos + 1 by omega),
      List.drop_eq_nil_iff.mpr (show (slots.take pos).length ≤ pos + 1 by omega)]

theorem pushes_inRange {x : α} (count : ℕ) {ring : List α × ℕ} (inside : InRange ring) :
    InRange (pushes x count ring) ∧ (pushes x count ring).1.length = ring.1.length := by
  induction count generalizing ring with
  | zero => exact ⟨inside,rfl⟩
  | succ count ih =>
    obtain ⟨within,size⟩ := ih (push_inRange (x := x) inside)
    exact ⟨within,size.trans (push_length x ring)⟩

/-- After writes, the slots hold what was written and what was in them. -/
theorem mem_pushes {x y : α} (count : ℕ) {ring : List α × ℕ} (member : y ∈ (pushes x count ring).1) :
    y = x ∨ y ∈ ring.1 := by
  induction count generalizing ring with
  | zero => exact Or.inr member
  | succ count ih =>
    rcases ih member with written | kept
    · exact Or.inl written
    · exact (List.mem_or_eq_of_mem_set kept).symm

/-- A value that was written at least once is in one of the slots. -/
theorem pushes_mem {x : α} {count : ℕ} (some : count ≠ 0) {ring : List α × ℕ} (inside : InRange ring) :
    x ∈ (pushes x count ring).1 := by
  obtain ⟨count,rfl⟩ := Nat.exists_eq_succ_of_ne_zero some
  have written : x ∈ (push x ring).1 := List.mem_set inside x
  have kept : ∀ (more : ℕ) (ring : List α × ℕ), InRange ring → x ∈ ring.1 → x ∈ (pushes x more ring).1 := by
    intro more
    induction more with
    | zero => exact fun _ _ member => member
    | succ more ih => exact fun ring within _ => ih _ (push_inRange within) (List.mem_set within x)
  exact kept count _ (push_inRange inside) written

/-- When the ring shows the newest part of a longer record, it still does after
    one value is written to both a number of times. -/
theorem recent_pushes {x : α} (count : ℕ) {ring : List α × ℕ} (whole : List α) (inside : InRange ring)
    (shows : recent ring = whole.take ring.1.length) :
    recent (pushes x count ring) = (List.replicate count x ++ whole).take ring.1.length := by
  induction count generalizing ring whole with
  | zero => exact shows
  | succ count ih =>
    have next : recent (push x ring) = (x :: whole).take (push x ring).1.length := by
      rw [recent_push inside,shows,push_length]
      obtain ⟨n,size⟩ : ∃ n, ring.1.length = n + 1 := ⟨_,(Nat.succ_pred_eq_of_pos (Nat.zero_lt_of_lt inside)).symm⟩
      rw [size,List.take_succ_cons,List.take_succ_cons,List.take_take]
      simp
    rw [pushes,ih (x :: whole) (push_inRange inside) next,push_length,List.replicate_succ',List.append_assoc]
    rfl

/-- Read backwards, the slots are the same values in another order. -/
theorem recent_perm (ring : List α × ℕ) : (recent ring).Perm ring.1 := by
  have both := (List.reverse_perm (ring.1.take ring.2)).append (List.reverse_perm (ring.1.drop ring.2))
  rwa [List.take_append_drop] at both

/-- A value that was just written, once or more, is read first. -/
theorem head_recent_pushes {x : α} {count : ℕ} (some : count ≠ 0) {ring : List α × ℕ} (inside : InRange ring) (other : α) :
    (recent (pushes x count ring)).headD other = x := by
  obtain ⟨count,rfl⟩ := Nat.exists_eq_succ_of_ne_zero some
  obtain ⟨n,size⟩ : ∃ n, ring.1.length = n + 1 := ⟨_,(Nat.succ_pred_eq_of_pos (Nat.zero_lt_of_lt inside)).symm⟩
  have whole : recent ring = (recent ring).take ring.1.length := by
    rw [← (recent_perm ring).length_eq,List.take_length]
  rw [recent_pushes (count + 1) (recent ring) inside whole,size,List.replicate_succ,List.cons_append,List.take_succ_cons]
  rfl

end LunarSched.Ring
