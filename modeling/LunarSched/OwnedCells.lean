import Mathlib.Data.Finset.Basic
import Mathlib.Logic.Function.Basic
import Mathlib.Data.Set.Basic

/-!
Cells of memory that owners hold through a pointer of their own. The owners come and go,
an owner that comes starts from a copy of another's pointer or from none, and cells are
taken from a pool and given back through the pointers. `Separate` says that every owner
that is there has its own cell, `Reached` that no cell is lost; while the first holds,
the pointers implement a table from owners to values (`read_*`).
-/
namespace LunarSched.OwnedCells

/-- The pointers of the owners, the cells that are in use, and how many times a cell that
    was not in use was given back. -/
structure Cells (Owner Addr Value : Type*) where
  slot : Owner → Option Addr
  cell : Addr → Option Value
  doubleFrees : ℕ

variable {Owner Addr Value : Type*}

section
variable [DecidableEq Owner] [DecidableEq Addr]

namespace Cells

def empty : Cells Owner Addr Value := ⟨fun _ => none,fun _ => none,0⟩

/-- The pool hands out a cell that is not in use, or none. -/
def grab (c : Cells Owner Addr Value) (choice : Option Addr) : Option Addr :=
  choice.filter (fun a => (c.cell a).isNone)

def install (c : Cells Owner Addr Value) (o : Owner) (a : Addr) (v : Value) : Cells Owner Addr Value :=
  { c with slot := Function.update c.slot o (some a), cell := Function.update c.cell a (some v) }

/-- The cell at `o`'s pointer is given back, and the pointer cleared. -/
def release (c : Cells Owner Addr Value) (o : Owner) : Cells Owner Addr Value :=
  match c.slot o with
  | none => c
  | some a =>
    { slot := Function.update c.slot o none
      cell := Function.update c.cell a none
      doubleFrees := if (c.cell a).isSome then c.doubleFrees else c.doubleFrees + 1 }

def setSlot (c : Cells Owner Addr Value) (o : Owner) (pointer : Option Addr) : Cells Owner Addr Value :=
  { c with slot := Function.update c.slot o pointer }

/-- The value in the cell at `o`'s pointer is changed. -/
def write (c : Cells Owner Addr Value) (o : Owner) (f : Value → Value) : Cells Owner Addr Value :=
  match c.slot o with
  | none => c
  | some a => { c with cell := Function.update c.cell a ((c.cell a).map f) }

/-- What `o` finds through its pointer. -/
def read (c : Cells Owner Addr Value) (o : Owner) : Option Value := (c.slot o).bind c.cell

end Cells

end

/-- The owners in `who` hold cells that are in use, with values of their own, and no two of
    them the same cell; nothing was ever given back twice. -/
structure Separate (mine : Owner → Value → Prop) (who : Set Owner) (c : Cells Owner Addr Value) : Prop where
  held : ∀ o ∈ who, ∀ a, c.slot o = some a → ∃ v, c.cell a = some v ∧ mine o v
  apart : ∀ o ∈ who, ∀ other ∈ who, ∀ a, c.slot o = some a → c.slot other = some a → o = other
  sound : c.doubleFrees = 0

/-- Every cell that is in use is held by an owner in `who`. -/
def Reached (who : Set Owner) (c : Cells Owner Addr Value) : Prop :=
  ∀ a, (c.cell a).isSome → ∃ o ∈ who, c.slot o = some a

section
variable {mine : Owner → Value → Prop} {who : Set Owner} {c : Cells Owner Addr Value} {o other : Owner} {a : Addr}
  {v : Value}

theorem separate_empty : Separate mine who (Cells.empty : Cells Owner Addr Value) where
  held _ _ _ has := by cases has
  apart _ _ _ _ _ has := by cases has
  sound := rfl

theorem reached_empty : Reached who (Cells.empty : Cells Owner Addr Value) := fun _ used => by cases used

theorem grab_some {choice : Option Addr} (got : c.grab choice = some a) : choice = some a ∧ c.cell a = none := by
  simpa [Cells.grab,Option.filter_eq_some_iff] using got

theorem separate_leave (sep : Separate mine who c) (o : Owner) : Separate mine (who \ {o}) c where
  held p member := sep.held p member.1
  apart p member q other := sep.apart p member.1 q other.1
  sound := sep.sound

/-- When an owner leaves, no cell is lost exactly when its pointer was clear. -/
theorem reached_leave_iff (sep : Separate mine who c) (reached : Reached who c) (here : o ∈ who) :
    Reached (who \ {o}) c ↔ c.slot o = none := by
  constructor
  · intro after
    by_contra set_to
    obtain ⟨a,holds⟩ := Option.ne_none_iff_exists'.mp set_to
    obtain ⟨_,used,_⟩ := sep.held o here a holds
    obtain ⟨p,⟨member,apart⟩,shared⟩ := after a (by simp [used])
    exact apart (sep.apart p member o here a shared holds)
  · intro empty b used
    obtain ⟨p,member,holds⟩ := reached b used
    refine ⟨p,⟨member,?_⟩,holds⟩
    rintro rfl
    exact nomatch empty.symm.trans holds

section
variable [DecidableEq Owner]

/-- An owner may start without a pointer. -/
theorem separate_enter (sep : Separate mine who c) : Separate mine (insert o who) (c.setSlot o none) := by
  have slots : ∀ p ∈ insert o who, ∀ b, (c.setSlot o none).slot p = some b → p ∈ who ∧ c.slot p = some b := by
    intro p member b holds
    by_cases self : p = o
    · simp [Cells.setSlot,self] at holds
    · exact ⟨(Set.mem_insert_iff.mp member).resolve_left self,by simpa [Cells.setSlot,self] using holds⟩
  refine ⟨fun p member b holds => ?_,fun p member q other b holds_p holds_q => ?_,sep.sound⟩
  · obtain ⟨before,same⟩ := slots p member b holds
    exact sep.held p before b same
  · obtain ⟨before_p,same_p⟩ := slots p member b holds_p
    obtain ⟨before_q,same_q⟩ := slots q other b holds_q
    exact sep.apart p before_p q before_q b same_p same_q

theorem reached_enter (reached : Reached who c) (pointer : Option Addr) (absent : o ∉ who) :
    Reached (insert o who) (c.setSlot o pointer) := by
  intro b used
  obtain ⟨p,member,holds⟩ := reached b used
  have other : p ≠ o := fun same => absent (same ▸ member)
  exact ⟨p,Set.mem_insert_of_mem o member,by simpa [Cells.setSlot,other] using holds⟩

/-- The copy of a pointer that is set is a second pointer to the same cell. -/
theorem not_separate_copy (source : other ∈ who) (absent : o ∉ who) (set_to : c.slot other = some a) :
    ¬ Separate mine (insert o who) (c.setSlot o (c.slot other)) := by
  intro sep
  have apart : other ≠ o := fun same => absent (same ▸ source)
  exact apart (sep.apart other (Set.mem_insert_of_mem o source) o (Set.mem_insert o who) a
    (by simpa [Cells.setSlot,apart] using set_to) (by simpa [Cells.setSlot] using set_to))

theorem read_setSlot_none {p : Owner} : (c.setSlot o none).read p = Function.update c.read o none p := by
  by_cases self : p = o
  · subst self
    simp [Cells.read,Cells.setSlot]
  · simp [Cells.read,Cells.setSlot,self]

end

section
variable [DecidableEq Addr]

theorem separate_write {f : Value → Value} (sep : Separate mine who c) (keeps : ∀ o v, mine o v → mine o (f v)) :
    Separate mine who (c.write o f) := by
  cases has : c.slot o with
  | none => simpa only [Cells.write,has] using sep
  | some a =>
    simp only [Cells.write,has]
    refine ⟨fun p member b holds => ?_,sep.apart,sep.sound⟩
    obtain ⟨value,used,own⟩ := sep.held p member b holds
    by_cases same : b = a
    · subst same
      exact ⟨f value,by simp [used],keeps p value own⟩
    · exact ⟨value,by simpa [same] using used,own⟩

theorem reached_write {f : Value → Value} (reached : Reached who c) : Reached who (c.write o f) := by
  cases has : c.slot o with
  | none => simpa only [Cells.write,has] using reached
  | some a =>
    simp only [Cells.write,has]
    intro b used
    by_cases same : b = a
    · exact reached b (by simpa [same] using used)
    · exact reached b (by simpa [same] using used)

end

section
variable [DecidableEq Owner] [DecidableEq Addr]

theorem separate_install (sep : Separate mine who c) (unused : c.cell a = none) (own : mine o v) :
    Separate mine who (c.install o a v) := by
  have fresh : ∀ p ∈ who, c.slot p ≠ some a := by
    intro p member has
    obtain ⟨_,used,_⟩ := sep.held p member a has
    exact nomatch unused.symm.trans used
  refine ⟨fun p member b has => ?_,fun p member q other b has_p has_q => ?_,sep.sound⟩
  · by_cases self : p = o
    · subst self
      simp only [Cells.install,Function.update_self,Option.some.injEq] at has
      exact ⟨v,by simp [Cells.install,← has],own⟩
    · simp only [Cells.install,Function.update_of_ne self] at has
      obtain ⟨value,used,mine⟩ := sep.held p member b has
      have apart : b ≠ a := fun same => fresh p member (same ▸ has)
      exact ⟨value,by simpa [Cells.install,apart] using used,mine⟩
  · by_cases p_new : p = o
    · by_cases q_new : q = o
      · exact p_new.trans q_new.symm
      · simp only [Cells.install,p_new,Function.update_self,Option.some.injEq] at has_p
        simp only [Cells.install,Function.update_of_ne q_new,← has_p] at has_q
        exact absurd has_q (fresh q other)
    · by_cases q_new : q = o
      · simp only [Cells.install,q_new,Function.update_self,Option.some.injEq] at has_q
        simp only [Cells.install,Function.update_of_ne p_new,← has_q] at has_p
        exact absurd has_p (fresh p member)
      · simp only [Cells.install,Function.update_of_ne p_new] at has_p
        simp only [Cells.install,Function.update_of_ne q_new] at has_q
        exact sep.apart p member q other b has_p has_q

theorem reached_install (reached : Reached who c) (empty : c.slot o = none) (here : o ∈ who) :
    Reached who (c.install o a v) := by
  intro b used
  by_cases own : b = a
  · exact ⟨o,here,by simp [Cells.install,own]⟩
  · obtain ⟨p,member,has⟩ := reached b (by simpa [Cells.install,own] using used)
    have other : p ≠ o := by
      rintro rfl
      exact nomatch empty.symm.trans has
    exact ⟨p,member,by simpa [Cells.install,other] using has⟩

theorem separate_release (sep : Separate mine who c) (here : o ∈ who) : Separate mine who (c.release o) := by
  cases has : c.slot o with
  | none => simpa only [Cells.release,has] using sep
  | some a =>
    obtain ⟨value,used,_⟩ := sep.held o here a has
    have others : ∀ p ∈ who, p ≠ o → c.slot p ≠ some a :=
      fun p member other shared => other (sep.apart p member o here a shared has)
    refine ⟨fun p member b holds => ?_,fun p member q other b holds_p holds_q => ?_,?_⟩
    · by_cases self : p = o
      · simp [Cells.release,has,self] at holds
      · simp only [Cells.release,has,Function.update_of_ne self] at holds ⊢
        have apart : b ≠ a := fun same => others p member self (same ▸ holds)
        simpa only [Function.update_of_ne apart] using sep.held p member b holds
    · by_cases self : p = o
      · simp [Cells.release,has,self] at holds_p
      · by_cases q_self : q = o
        · simp [Cells.release,has,q_self] at holds_q
        · simp only [Cells.release,has,Function.update_of_ne self] at holds_p
          simp only [Cells.release,has,Function.update_of_ne q_self] at holds_q
          exact sep.apart p member q other b holds_p holds_q
    · simp [Cells.release,has,used,sep.sound]

theorem reached_release (reached : Reached who c) : Reached who (c.release o) := by
  cases has : c.slot o with
  | none => simpa only [Cells.release,has] using reached
  | some a =>
    intro b used
    have apart : b ≠ a := by
      rintro rfl
      simp [Cells.release,has] at used
    obtain ⟨p,member,holds⟩ := reached b (by simpa [Cells.release,has,apart] using used)
    have other : p ≠ o := by
      rintro rfl
      exact apart (Option.some.inj (holds.symm.trans has))
    exact ⟨p,member,by simpa [Cells.release,has,other] using holds⟩

theorem release_slot : (c.release o).slot o = none := by
  cases has : c.slot o with
  | none => simp only [Cells.release,has]
  | some a => simp only [Cells.release,has,Function.update_self]

theorem read_install (sep : Separate mine who c) (unused : c.cell a = none) {p : Owner} (here : p ∈ who) :
    (c.install o a v).read p = Function.update c.read o (some v) p := by
  by_cases self : p = o
  · subst self
    simp [Cells.read,Cells.install]
  · simp only [Cells.read,Cells.install,Function.update_of_ne self]
    cases holds : c.slot p with
    | none => rfl
    | some b =>
      obtain ⟨_,used,_⟩ := sep.held p here b holds
      have apart : b ≠ a := by
        rintro rfl
        exact nomatch unused.symm.trans used
      simp [apart]

theorem read_release (sep : Separate mine who c) (here : o ∈ who) {p : Owner} (member : p ∈ who) :
    (c.release o).read p = Function.update c.read o none p := by
  by_cases self : p = o
  · subst self
    simp [Cells.read,release_slot]
  · rw [Function.update_of_ne self]
    cases has : c.slot o with
    | none => simp only [Cells.read,Cells.release,has]
    | some a =>
      simp only [Cells.read,Cells.release,has,Function.update_of_ne self]
      cases holds : c.slot p with
      | none => rfl
      | some b =>
        have apart : b ≠ a := fun same => self (sep.apart p member o here a (same ▸ holds) has)
        simp [apart]

theorem read_write {f : Value → Value} (sep : Separate mine who c) (here : o ∈ who) {p : Owner} (member : p ∈ who) :
    (c.write o f).read p = Function.update c.read o ((c.read o).map f) p := by
  cases has : c.slot o with
  | none =>
    by_cases self : p = o
    · subst self
      simp [Cells.read,Cells.write,has]
    · simp [Cells.read,Cells.write,has,self]
  | some a =>
    by_cases self : p = o
    · subst self
      simp [Cells.read,Cells.write,has]
    · simp only [Cells.read,Cells.write,has,Function.update_of_ne self]
      cases holds : c.slot p with
      | none => rfl
      | some b =>
        have apart : b ≠ a := fun same => self (sep.apart p member o here a (same ▸ holds) has)
        simp [apart]

end

end

end LunarSched.OwnedCells
