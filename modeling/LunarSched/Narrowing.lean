import Mathlib.Algebra.Group.Nat.Defs
import Mathlib.Tactic.SplitIfs

/-!
Computations that store values in variables of fixed widths. A traced computation has its
result and the stores that were made on the way; a store keeps the low bits of its value.
`Ensures` says that every value fits its variable and what holds of the result, and has one
rule for each way to build a computation.
-/
namespace LunarSched.Narrowing

/-- A value and the width of the variable in which it is stored. -/
structure Store where
  bits : ℕ
  value : ℕ
deriving DecidableEq

def Store.Fits (s : Store) : Prop := s.value < 2 ^ s.bits

instance (s : Store) : Decidable s.Fits := inferInstanceAs (Decidable (_ < _))

structure Traced (α : Type) where
  result : α
  stores : List Store

instance : Monad Traced where
  pure a := ⟨a,[]⟩
  bind c f := ⟨(f c.result).result,c.stores ++ (f c.result).stores⟩

/-- Store a value, and read the variable. -/
def store (bits value : ℕ) : Traced ℕ := ⟨value % 2 ^ bits,[⟨bits,value⟩]⟩

variable {α β : Type}

/-- No store loses a bit. -/
def Traced.NoWrap (c : Traced α) : Prop := ∀ s ∈ c.stores, s.Fits

instance (c : Traced α) : Decidable c.NoWrap := inferInstanceAs (Decidable (∀ s ∈ c.stores, _))

/-- Every value that is stored fits, and the result is as stated. -/
def Ensures (c : Traced α) (post : α → Prop) : Prop := c.NoWrap ∧ post c.result

@[simp] theorem result_pure (a : α) : (pure a : Traced α).result = a := rfl
@[simp] theorem result_bind (c : Traced α) (f : α → Traced β) : (c >>= f).result = (f c.result).result := rfl
@[simp] theorem result_store (bits value : ℕ) : (store bits value).result = value % 2 ^ bits := rfl

@[simp] theorem result_ite (p : Prop) [Decidable p] (c d : Traced α) :
    (if p then c else d).result = if p then c.result else d.result := apply_ite Traced.result p c d

section
variable {post : α → Prop} {after : β → Prop}

theorem ensures_pure {a : α} (holds : post a) : Ensures (pure a) post :=
  ⟨fun _ member => absurd member List.not_mem_nil,holds⟩

theorem ensures_bind (post : α → Prop) {c : Traced α} {f : α → Traced β} (first : Ensures c post)
    (rest : ∀ a, post a → Ensures (f a) after) : Ensures (c >>= f) after := by
  obtain ⟨fits,holds⟩ := first
  obtain ⟨fits',holds'⟩ := rest c.result holds
  refine ⟨?_,holds'⟩
  intro s member
  rcases List.mem_append.mp member with before | later
  · exact fits s before
  · exact fits' s later

/-- What fits is what is read back. -/
theorem ensures_store {bits value : ℕ} (fits : value < 2 ^ bits) : Ensures (store bits value) (· = value) := by
  refine ⟨?_,Nat.mod_eq_of_lt fits⟩
  intro s member
  rw [List.mem_singleton.mp member]
  exact fits

theorem ensures_ite {p : Prop} [Decidable p] {c d : Traced α} (yes : p → Ensures c post) (no : ¬ p → Ensures d post) :
    Ensures (if p then c else d) post := by
  split_ifs with holds
  · exact yes holds
  · exact no holds

end

end LunarSched.Narrowing
