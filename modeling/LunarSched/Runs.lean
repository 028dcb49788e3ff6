import Mathlib.Data.List.Basic

/-!
Runs of a deterministic step function over a list of inputs. `Along` says that a
relation between the state before a step and its input holds at every step of a
run; with it, an invariant is proved once per step and carried to whole runs, and
two properties of steps that agree wherever the invariant holds agree along runs.
-/
namespace LunarSched.Runs

variable {State Input : Type*}

/-- The state after a run. -/
def exec (step : State → Input → State) (start : State) (inputs : List Input) : State :=
  inputs.foldl step start

/-- Every step of the run is taken from a state and with an input that `at_step` relates. -/
def Along (step : State → Input → State) (at_step : State → Input → Prop) : State → List Input → Prop
  | _, [] => True
  | s, i :: rest => at_step s i ∧ Along step at_step (step s i) rest

instance decidableAlong (step : State → Input → State) (p : State → Input → Prop) [∀ s i, Decidable (p s i)] :
    ∀ (start : State) (inputs : List Input), Decidable (Along step p start inputs)
  | _, [] => isTrue trivial
  | start, i :: rest =>
    have := decidableAlong step p (step start i) rest
    inferInstanceAs (Decidable (p start i ∧ Along step p (step start i) rest))

section
variable {step : State → Input → State} {start : State}

@[simp] theorem exec_nil : exec step start [] = start := rfl
@[simp] theorem exec_cons (i : Input) (rest : List Input) :
    exec step start (i :: rest) = exec step (step start i) rest := rfl

@[simp] theorem along_nil (p : State → Input → Prop) : Along step p start [] := trivial
@[simp] theorem along_cons (p : State → Input → Prop) (i : Input) (rest : List Input) :
    Along step p start (i :: rest) ↔ p start i ∧ Along step p (step start i) rest := Iff.rfl

theorem along_of_forall {p : State → Input → Prop} (all : ∀ s i, p s i) :
    ∀ {inputs : List Input} {start : State}, Along step p start inputs := by
  intro inputs
  induction inputs with
  | nil => exact trivial
  | cons i rest ih => exact ⟨all _ i,ih⟩

theorem along_forall {p : Input → Prop} :
    ∀ {inputs : List Input} {start : State}, Along step (fun _ i => p i) start inputs ↔ ∀ i ∈ inputs, p i := by
  intro inputs
  induction inputs with
  | nil => simp
  | cons i rest ih =>
    intro start
    rw [along_cons,ih,List.forall_mem_cons]

theorem along_true {inputs : List Input} : Along step (fun _ _ => True) start inputs := along_of_forall (fun _ _ => trivial)

theorem along_and {p q : State → Input → Prop} :
    ∀ {inputs : List Input} {start : State},
      Along step (fun s i => p s i ∧ q s i) start inputs ↔ Along step p start inputs ∧ Along step q start inputs := by
  intro inputs
  induction inputs with
  | nil => exact fun {_} => ⟨fun _ => ⟨trivial,trivial⟩,fun _ => trivial⟩
  | cons i rest ih =>
    intro start
    rw [along_cons,along_cons,along_cons,ih]
    exact ⟨fun ⟨⟨p,q⟩,ps,qs⟩ => ⟨⟨p,ps⟩,q,qs⟩,fun ⟨⟨p,ps⟩,q,qs⟩ => ⟨⟨p,q⟩,ps,qs⟩⟩

/-- The run rule: what the start satisfies and every admitted step keeps holds after the run. -/
theorem exec_invariant {ok : State → Input → Prop} (inv : State → Prop)
    (keeps : ∀ s i, inv s → ok s i → inv (step s i)) :
    ∀ {inputs : List Input} {start : State}, inv start → Along step ok start inputs → inv (exec step start inputs) := by
  intro inputs
  induction inputs with
  | nil => exact fun held _ => held
  | cons i rest ih => exact fun held admitted => ih (keeps _ i held admitted.1) admitted.2

/-- What the start satisfies and every step keeps, whatever its input, holds after every run. -/
theorem exec_always (inv : State → Prop) (keeps : ∀ s i, inv s → inv (step s i)) (held : inv start) (inputs : List Input) :
    inv (exec step start inputs) :=
  exec_invariant inv (fun s i held _ => keeps s i held) held along_true

/-- The rule for two runs: what relates the starts and is kept by every two steps with one
    input relates the states after the runs. -/
theorem exec_related {Other : Type*} {other : Other → Input → Other} (related : State → Other → Prop)
    (keeps : ∀ s t i, related s t → related (step s i) (other t i)) :
    ∀ {inputs : List Input} {start : State} {start' : Other}, related start start' →
      related (exec step start inputs) (exec other start' inputs) := by
  intro inputs
  induction inputs with
  | nil => exact id
  | cons i rest ih => exact fun held => ih (keeps _ _ i held)

/-- A run is its first part and the rest from where this ends. -/
theorem along_append {p : State → Input → Prop} :
    ∀ {first rest : List Input} {start : State},
      Along step p start (first ++ rest) ↔ Along step p start first ∧ Along step p (exec step start first) rest := by
  intro first rest
  induction first with
  | nil => exact fun {_} => (and_iff_right trivial).symm
  | cons i first ih =>
    intro start
    rw [List.cons_append,along_cons,along_cons,ih,and_assoc]
    rfl

/-- What follows from the invariant at every admitted step holds along every admitted run. -/
theorem along_invariant {ok p : State → Input → Prop} (inv : State → Prop)
    (keeps : ∀ s i, inv s → ok s i → inv (step s i)) (holds : ∀ s i, inv s → ok s i → p s i) :
    ∀ {inputs : List Input} {start : State}, inv start → Along step ok start inputs → Along step p start inputs := by
  intro inputs
  induction inputs with
  | nil => exact fun _ _ => trivial
  | cons i rest ih =>
    intro start held admitted
    exact ⟨holds start i held admitted.1,ih (keeps start i held admitted.1) admitted.2⟩

/-- Two step relations that agree wherever the invariant holds agree along every
    admitted run, when either of them makes a step keep the invariant. -/
theorem along_iff {ok p q : State → Input → Prop} (inv : State → Prop)
    (agree : ∀ s i, inv s → ok s i → (p s i ↔ q s i))
    (keeps : ∀ s i, inv s → ok s i → p s i → inv (step s i)) :
    ∀ {inputs : List Input} {start : State}, inv start → Along step ok start inputs →
      (Along step p start inputs ↔ Along step q start inputs) := by
  intro inputs
  induction inputs with
  | nil => exact fun _ _ => Iff.rfl
  | cons i rest ih =>
    intro start held admitted
    have here := agree start i held admitted.1
    rw [along_cons,along_cons,← here]
    exact and_congr_right (fun holds => ih (keeps start i held admitted.1 holds) admitted.2)

/-- What a step never restores held before the run if it holds after it. -/
theorem exec_back (p : State → Prop) (back : ∀ s i, p (step s i) → p s) :
    ∀ {inputs : List Input} {start : State}, p (exec step start inputs) → p start := by
  intro inputs
  induction inputs with
  | nil => exact id
  | cons i rest ih => exact fun held => back _ i (ih held)

/-- A property of states that a step never restores, and that an admitted step keeps
    exactly when `q` holds of it, holds after a run exactly when `q` holds along it. -/
theorem exec_iff_along {ok q : State → Input → Prop} (inv p : State → Prop)
    (keeps : ∀ s i, inv s → ok s i → inv (step s i))
    (agree : ∀ s i, inv s → ok s i → p s → (p (step s i) ↔ q s i)) (back : ∀ s i, p (step s i) → p s) :
    ∀ {inputs : List Input} {start : State}, inv start → p start → Along step ok start inputs →
      (p (exec step start inputs) ↔ Along step q start inputs) := by
  intro inputs
  induction inputs with
  | nil => exact fun _ held _ => iff_of_true held trivial
  | cons i rest ih =>
    intro start held holds admitted
    have here := agree start i held admitted.1 holds
    rw [exec_cons,along_cons,← here]
    constructor
    · intro after
      have next := exec_back p back after
      exact ⟨next,(ih (keeps start i held admitted.1) next admitted.2).mp after⟩
    · exact fun ⟨next,rest⟩ => (ih (keeps start i held admitted.1) next admitted.2).mpr rest

/-- What the steps of a run put out, one after the other. -/
def outputs {Output : Type*} (step : State → Input → State) (out : State → Input → List Output) :
    State → List Input → List Output
  | _, [] => []
  | s, i :: rest => out s i ++ outputs step out (step s i) rest

/-- The simulation rule: what relates the starts, and is kept when one machine makes an
    admitted step and the other takes what that step puts out, relates the states after
    the run and after all that it puts out. -/
theorem exec_simulates {Output Other : Type*} {ok : State → Input → Prop} {out : State → Input → List Output}
    {other : Other → Output → Other} (related : State → Other → Prop)
    (keeps : ∀ s t i, related s t → ok s i → related (step s i) (exec other t (out s i))) :
    ∀ {inputs : List Input} {start : State} {start' : Other}, related start start' → Along step ok start inputs →
      related (exec step start inputs) (exec other start' (outputs step out start inputs)) := by
  intro inputs
  induction inputs with
  | nil => exact fun held _ => held
  | cons i rest ih =>
    intro start start' held admitted
    have both : exec other start' (outputs step out start (i :: rest)) =
        exec other (exec other start' (out start i)) (outputs step out (step start i) rest) := List.foldl_append
    rw [both]
    exact ih (keeps start start' i held admitted.1) admitted.2

/-- What the steps of a run add up to. -/
def total (step : State → Input → State) (gain : State → Input → ℕ) : State → List Input → ℕ
  | _, [] => 0
  | s, i :: rest => gain s i + total step gain (step s i) rest

/-- The progress rule: a bound that holds after every step with the step's gain, as far as
    the top, holds after the run with the gains of the run together. -/
theorem exec_climbs {ok : State → Input → Prop} {gain : State → Input → ℕ} (inv : ℕ → State → Prop) (top : ℕ)
    (keeps : ∀ bound s i, inv bound s → ok s i → inv (min top (bound + gain s i)) (step s i)) :
    ∀ {inputs : List Input} {start : State} {bound : ℕ}, bound ≤ top → inv bound start → Along step ok start inputs →
      inv (min top (bound + total step gain start inputs)) (exec step start inputs) := by
  intro inputs
  induction inputs with
  | nil =>
    intro start bound below held _
    rw [total,Nat.add_zero,Nat.min_eq_right below]
    exact held
  | cons i rest ih =>
    intro start bound below held admitted
    have later := ih (Nat.min_le_left _ _) (keeps bound start i held admitted.1) admitted.2
    have gains : min top (min top (bound + gain start i) + total step gain (step start i) rest) =
        min top (bound + total step gain start (i :: rest)) := by
      rw [total]
      omega
    rwa [gains] at later

/-- The progress rule downwards. -/
theorem exec_sinks {ok : State → Input → Prop} {gain : State → Input → ℕ} (inv : ℕ → State → Prop) (bottom : ℕ)
    (keeps : ∀ bound s i, inv bound s → ok s i → inv (max bottom (bound - gain s i)) (step s i)) :
    ∀ {inputs : List Input} {start : State} {bound : ℕ}, bottom ≤ bound → inv bound start → Along step ok start inputs →
      inv (max bottom (bound - total step gain start inputs)) (exec step start inputs) := by
  intro inputs
  induction inputs with
  | nil =>
    intro start bound above held _
    rw [total,Nat.sub_zero,Nat.max_eq_right above]
    exact held
  | cons i rest ih =>
    intro start bound above held admitted
    have later := ih (Nat.le_max_left _ _) (keeps bound start i held admitted.1) admitted.2
    have gains : max bottom (max bottom (bound - gain start i) - total step gain (step start i) rest) =
        max bottom (bound - total step gain start (i :: rest)) := by
      rw [total]
      omega
    rwa [gains] at later

end

end LunarSched.Runs
