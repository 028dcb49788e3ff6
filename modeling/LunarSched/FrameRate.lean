import LunarSched.WindowChange

/-!
The frame rate and the window sizes. `lse_proc_sched_ravg_window_update` takes every
`int` for a frame rate: its own `ctl_table` leaves out the bounds of the table entry.
Zero is a division by zero, a negative rate wraps around in the `unsigned int` window
and one above 10⁹ makes the window empty, and all of them are stored. Along a run no
window is wrong exactly when every rate that is written is between 1 and 10⁹
(`windows_safe_iff`). With such rates the stored one and the requested window agree
after every write, unless the first one writes the default of 120, for which the window
has not been computed (`rate_agrees_iff`).
-/
namespace LunarSched.FrameRate
open LunarSched.Machine LunarSched.Kernel LunarSched.UtilTrack LunarSched.Hooks LunarSched.WindowChange LunarSched.Runs

/-- The machine in a run, with `frame_per_sec`. -/
structure Rated where
  world : World
  framePerSec : ℤ

/-- A write of an `int` that was parsed, a rollover interrupt, and in `others` everything
    else but the window sizes and the frame rate, taken from another state. -/
inductive RateEvent where
  | write (val : ℤ)
  | irqWork (cpu clock : ℕ)
  | others (e : World)

/-- `lse_proc_sched_ravg_window_update`, a write of `val`: what it returns, and the state
    after it. -/
def lseProcSchedRavgWindowUpdate (s : Rated) (val : ℤ) : ℤ × Rated :=
  if val = s.framePerSec then (0,s) else (0,⟨schedRavgWindowChange s.world val,val⟩)

def rateStep (s : Rated) : RateEvent → Rated
  | .write val => (lseProcSchedRavgWindowUpdate s val).2
  | .irqWork cpu clock => { s with world := lseIrqWork s.world cpu clock }
  | .others e =>
    { s with world := { e with track := { e.track with
        ravgWindow := s.world.track.ravgWindow
        newRavgWindow := s.world.track.newRavgWindow } } }

/-- The window sizes that the module is loaded with. -/
def Loaded (w : World) : Prop := w.track.ravgWindow = 8000000 ∧ w.track.newRavgWindow = 8000000

/-- The state right after the module is loaded, with its default frame rate. -/
def rated (w : World) : Rated := ⟨w,120⟩

/-- A size is the window of a frame rate, neither truncated nor wrapped, and not empty. -/
def IsWindow (framePerSec : ℤ) (size : ℕ) : Prop := 0 < size ∧ (size : ℤ) = Int.tdiv 1000000000 framePerSec

/-- What a step must not break. A write of a rate that has no window returns an error and
    leaves the rate and the sizes as they were; a write that computes a window does not
    divide by zero and stores the window of the new rate; a size that is put in force is
    the window of the rate; and the size in force is never zero, so that the tracker can
    divide by it. -/
def WindowsSafe (s : Rated) (e : RateEvent) : Prop :=
  0 < (rateStep s e).world.track.ravgWindow ∧
    match e with
    | .write val =>
      ((∀ size, ¬ IsWindow val size) → (lseProcSchedRavgWindowUpdate s val).1 ≠ 0 ∧
        (rateStep s e).framePerSec = s.framePerSec ∧
        (rateStep s e).world.track.newRavgWindow = s.world.track.newRavgWindow ∧
        (rateStep s e).world.track.ravgWindow = s.world.track.ravgWindow) ∧
      (val ≠ s.framePerSec → val ≠ 0 ∧ IsWindow (rateStep s e).framePerSec (rateStep s e).world.track.newRavgWindow)
    | .irqWork _ _ =>
      (rateStep s e).world.track.ravgWindow ≠ s.world.track.ravgWindow →
        IsWindow s.framePerSec (rateStep s e).world.track.ravgWindow
    | .others _ => True

/-- The rate that is written, if any, is between 1 and 10⁹. -/
def InRange (_ : Rated) : RateEvent → Prop
  | .write val => 1 ≤ val ∧ val ≤ 1000000000
  | _ => True

theorem isWindow_range {framePerSec : ℤ} {size : ℕ} (window : IsWindow framePerSec size) :
    1 ≤ framePerSec ∧ framePerSec ≤ 1000000000 := by
  obtain ⟨positive,exact_size⟩ := window
  rcases lt_trichotomy framePerSec 0 with negative | zero | rate
  · have below : Int.tdiv 1000000000 framePerSec ≤ 0 := Int.tdiv_nonpos_of_nonneg_of_nonpos (by decide) negative.le
    omega
  · rw [zero,Int.tdiv_zero] at exact_size
    omega
  · refine ⟨rate,?_⟩
    by_contra high
    rw [Int.tdiv_eq_zero_of_lt (by decide) (by omega)] at exact_size
    omega

theorem schedRavgWindowChange_window (w : World) {framePerSec : ℤ} (low : 1 ≤ framePerSec)
    (high : framePerSec ≤ 1000000000) : IsWindow framePerSec (schedRavgWindowChange w framePerSec).track.newRavgWindow := by
  obtain ⟨frames,rfl⟩ := Int.eq_ofNat_of_zero_le (show 0 ≤ framePerSec by omega)
  have some_time : 0 < 1000000000 / frames := Nat.div_pos (by omega) (by omega)
  rw [IsWindow,schedRavgWindowChange_rate]
  exact ⟨some_time,rfl⟩

/-- A rollover interrupt leaves the requested size alone, and puts it in force or not. -/
theorem lseIrqWork_sizes (w : World) (cpu clock : ℕ) :
    (lseIrqWork w cpu clock).track.newRavgWindow = w.track.newRavgWindow ∧
      ((lseIrqWork w cpu clock).track.ravgWindow = w.track.ravgWindow ∨
        (lseIrqWork w cpu clock).track.ravgWindow = w.track.newRavgWindow) := by
  obtain ⟨_,_,_,track⟩ := updateIfTracked_track w (w.rq cpu).curr cpu .taskUpdate (lseSchedClock w clock)
  have requested : (beforeCommit w cpu clock).track.newRavgWindow = w.track.newRavgWindow := by
    rw [beforeCommit,track]
  have size : (beforeCommit w cpu clock).track.ravgWindow = w.track.ravgWindow := by
    rw [beforeCommit,track]
  rcases lseIrqWork_cases w cpu clock with ⟨_,same⟩ | ⟨_,changed⟩
  · rw [same]
    exact ⟨requested,Or.inl size⟩
  · rw [changed]
    exact ⟨requested,Or.inr requested⟩

/-- The rate is in range, the size in force is not zero, and a size that waits to be put
    in force is the window of the rate. -/
structure Fitting (s : Rated) : Prop where
  low : 1 ≤ s.framePerSec
  high : s.framePerSec ≤ 1000000000
  positive : 0 < s.world.track.ravgWindow
  requested : s.world.track.newRavgWindow = s.world.track.ravgWindow ∨
    IsWindow s.framePerSec s.world.track.newRavgWindow

theorem rated_fitting {w : World} (loaded : Loaded w) : Fitting (rated w) := by
  obtain ⟨size,requested⟩ := loaded
  exact ⟨by simp [rated],by simp [rated],by simp [rated,size],Or.inl (requested.trans size.symm)⟩

section
variable {s : Rated} {e : RateEvent}

/-- A write in range stores the rate with its window, unless the rate is the stored one. -/
theorem write_cases (s : Rated) (val : ℤ) :
    (val = s.framePerSec ∧ rateStep s (.write val) = s) ∨
      (val ≠ s.framePerSec ∧ rateStep s (.write val) = ⟨schedRavgWindowChange s.world val,val⟩) := by
  by_cases same : val = s.framePerSec
  · exact Or.inl ⟨same,by simp only [rateStep,lseProcSchedRavgWindowUpdate,if_pos same]⟩
  · exact Or.inr ⟨same,by simp only [rateStep,lseProcSchedRavgWindowUpdate,if_neg same]⟩

theorem rateStep_fitting (fitting : Fitting s) (range : InRange s e) : Fitting (rateStep s e) := by
  obtain ⟨low,high,positive,requested⟩ := fitting
  cases e with
  | write val =>
    rcases write_cases s val with ⟨_,same⟩ | ⟨_,stored⟩
    · rw [same]
      exact ⟨low,high,positive,requested⟩
    · rw [stored]
      exact ⟨range.1,range.2,positive,Or.inr (schedRavgWindowChange_window s.world range.1 range.2)⟩
  | irqWork cpu clock =>
    obtain ⟨new,kept | put⟩ := lseIrqWork_sizes s.world cpu clock
    · refine ⟨low,high,kept.symm ▸ positive,?_⟩
      show (lseIrqWork s.world cpu clock).track.newRavgWindow = (lseIrqWork s.world cpu clock).track.ravgWindow ∨ _
      rw [kept,new]
      refine requested.imp_right (fun window => ?_)
      show IsWindow s.framePerSec (lseIrqWork s.world cpu clock).track.newRavgWindow
      rwa [new]
    · have some_time : 0 < s.world.track.newRavgWindow := by
        rcases requested with same | window
        · exact same ▸ positive
        · exact window.1
      exact ⟨low,high,put.symm ▸ some_time,Or.inl (new.trans put.symm)⟩
  | others v => exact ⟨low,high,positive,requested⟩

/-- The rates that are stored without harm are those in range: no other write is rejected. -/
theorem windowsSafe_iff (fitting : Fitting s) : WindowsSafe s e ↔ InRange s e := by
  constructor
  · intro safe
    cases e with
    | write val =>
      by_cases window : ∃ size, IsWindow val size
      · obtain ⟨size,window⟩ := window
        exact isWindow_range window
      · have rejected := (safe.2.1 (fun size is_window => window ⟨size,is_window⟩)).1
        exact absurd (by simp only [lseProcSchedRavgWindowUpdate]; split_ifs <;> rfl) rejected
    | irqWork cpu clock => exact trivial
    | others v => exact trivial
  · intro range
    refine ⟨(rateStep_fitting fitting range).positive,?_⟩
    cases e with
    | write val =>
      have window := schedRavgWindowChange_window s.world range.1 range.2
      refine ⟨fun none => absurd window (none _),fun other => ⟨?_,?_⟩⟩
      · have rate := range.1
        omega
      · rcases write_cases s val with ⟨same,_⟩ | ⟨_,stored⟩
        · exact absurd same other
        · simp only [stored]
          exact window
    | irqWork cpu clock =>
      intro changed
      obtain ⟨new,kept | put⟩ := lseIrqWork_sizes s.world cpu clock
      · exact absurd kept changed
      · rcases fitting.requested with same | window
        · exact absurd (put.trans same) changed
        · show IsWindow s.framePerSec (lseIrqWork s.world cpu clock).track.ravgWindow
          rwa [put]
    | others v => exact trivial

end

/-- Along every run after the module is loaded, no step breaks the window arithmetic
    exactly when every rate that is written is between 1 and 10⁹. -/
theorem windows_safe_iff (w : World) (loaded : Loaded w) (run : List RateEvent) :
    Along rateStep WindowsSafe (rated w) run ↔ Along rateStep InRange (rated w) run :=
  along_iff Fitting (fun _ _ fitting _ => windowsSafe_iff fitting)
    (fun _ _ fitting _ safe => rateStep_fitting fitting ((windowsSafe_iff fitting).mp safe)) (rated_fitting loaded) along_true

theorem boot_loaded : Loaded (World.boot 1 (fun _ => plainTask)) := ⟨rfl,rfl⟩

/-- A rate of zero is stored, and the window is computed by a division by zero. -/
theorem zero_rate_stored :
    Loaded (World.boot 1 (fun _ => plainTask)) ∧
      ¬ Along rateStep WindowsSafe (rated (World.boot 1 (fun _ => plainTask))) [.write 0] := by
  refine ⟨boot_loaded,?_⟩
  rintro ⟨⟨_,_,computed⟩,_⟩
  exact absurd (computed (by decide)).1 (by decide)

/-- A rate of 60 is written. -/
theorem windows_safe_sixty :
    Along rateStep WindowsSafe (rated (World.boot 1 (fun _ => plainTask))) [.write 60,.irqWork 0 0] :=
  (windows_safe_iff _ boot_loaded _).mpr ⟨⟨by decide,by decide⟩,trivial,trivial⟩

/-! ### Rate and requested size -/

/-- After a write that succeeded the rate is the one written, and the requested size is
    10⁹ over it, rounded down. -/
def RateAgrees (s : Rated) : RateEvent → Prop
  | .write val => (lseProcSchedRavgWindowUpdate s val).1 = 0 →
      (rateStep s (.write val)).framePerSec = val ∧
        ((rateStep s (.write val)).world.track.newRavgWindow : ℤ) = 1000000000 / val
  | _ => True

/-- The rate of the first write of a run. -/
def firstWrite : List RateEvent → Option ℤ
  | [] => none
  | .write val :: _ => some val
  | .irqWork _ _ :: rest => firstWrite rest
  | .others _ :: rest => firstWrite rest

section
variable {s : Rated} {e : RateEvent} {val : ℤ}

theorem write_succeeds (s : Rated) (val : ℤ) : (lseProcSchedRavgWindowUpdate s val).1 = 0 := by
  unfold lseProcSchedRavgWindowUpdate
  split_ifs <;> rfl

/-- The requested size is the window of the rate. -/
def Agrees (s : Rated) : Prop := (s.world.track.newRavgWindow : ℤ) = 1000000000 / s.framePerSec

theorem write_agrees (range : InRange s (.write val)) (other : val ≠ s.framePerSec) :
    RateAgrees s (.write val) ∧ Agrees (rateStep s (.write val)) := by
  have window := (schedRavgWindowChange_window s.world range.1 range.2).2
  rw [Int.tdiv_eq_ediv_of_nonneg (by decide)] at window
  rcases write_cases s val with ⟨same,_⟩ | ⟨_,stored⟩
  · exact absurd same other
  · have agrees : Agrees (rateStep s (.write val)) := by
      rw [stored]
      exact window
    refine ⟨fun _ => ⟨by rw [stored],?_⟩,agrees⟩
    rw [stored]
    exact window

/-- A write of the stored rate changes nothing. -/
theorem rewrite_same (s : Rated) : rateStep s (.write s.framePerSec) = s := by
  rcases write_cases s s.framePerSec with ⟨_,same⟩ | ⟨other,_⟩
  · exact same
  · exact absurd rfl other

theorem rewrite_agrees_iff (s : Rated) : RateAgrees s (.write s.framePerSec) ↔ Agrees s := by
  simp only [RateAgrees,rewrite_same,write_succeeds,true_and,forall_const]
  exact Iff.rfl

/-- Once rate and requested size agree, they agree after every write. -/
theorem agrees_step (agrees : Agrees s) (range : InRange s e) : RateAgrees s e ∧ Agrees (rateStep s e) := by
  cases e with
  | write val =>
    by_cases same : val = s.framePerSec
    · subst same
      exact ⟨(rewrite_agrees_iff s).mpr agrees,by rwa [rewrite_same]⟩
    · exact write_agrees range same
  | irqWork cpu clock =>
    refine ⟨trivial,?_⟩
    show ((lseIrqWork s.world cpu clock).track.newRavgWindow : ℤ) = _
    rw [(lseIrqWork_sizes s.world cpu clock).1]
    exact agrees
  | others v => exact ⟨trivial,agrees⟩

theorem agrees_along {run : List RateEvent} (agrees : Agrees s) (range : Along rateStep InRange s run) :
    Along rateStep RateAgrees s run :=
  along_invariant Agrees (fun _ _ agrees range => (agrees_step agrees range).2)
    (fun _ _ agrees range => (agrees_step agrees range).1) agrees range

/-- While nothing was written, the rate is the default one, and the requested size is
    that of another rate. -/
theorem unwritten_agrees_iff {run : List RateEvent} (rate : s.framePerSec = 120)
    (size : s.world.track.newRavgWindow = 8000000) (range : Along rateStep InRange s run) :
    Along rateStep RateAgrees s run ↔ firstWrite run ≠ some 120 := by
  induction run generalizing s with
  | nil => exact iff_of_true trivial (by simp [firstWrite])
  | cons e rest ih =>
    cases e with
    | write val =>
      by_cases same : val = 120
      · have disagrees : ¬ RateAgrees s (.write val) := by
          rw [same,← rate,rewrite_agrees_iff,Agrees,size,rate]
          decide
        exact iff_of_false (fun all => disagrees all.1) (fun other => other (by rw [firstWrite,same]))
      · have other : val ≠ s.framePerSec := by rwa [rate]
        obtain ⟨here,after⟩ := write_agrees range.1 other
        refine iff_of_true ⟨here,agrees_along after range.2⟩ ?_
        simpa [firstWrite] using same
    | irqWork cpu clock =>
      have kept := (lseIrqWork_sizes s.world cpu clock).1
      rw [along_cons,firstWrite,← ih (s := rateStep s (.irqWork cpu clock)) rate (kept.trans size) range.2]
      exact and_iff_right trivial
    | others v =>
      rw [along_cons,firstWrite,← ih (s := rateStep s (.others v)) rate size range.2]
      exact and_iff_right trivial

end

/-- Along every run after the module is loaded that writes rates from 1 to 10⁹, the rate
    and the requested size agree after every write exactly when the first rate that is
    written is not the default one. -/
theorem rate_agrees_iff (w : World) (loaded : Loaded w) (run : List RateEvent)
    (range : Along rateStep InRange (rated w) run) :
    Along rateStep RateAgrees (rated w) run ↔ firstWrite run ≠ some 120 :=
  unwritten_agrees_iff rfl loaded.2 range

/-- The default rate is written, and the requested size stays that of 125. -/
theorem default_rate_ignored :
    Loaded (World.boot 1 (fun _ => plainTask)) ∧
      Along rateStep InRange (rated (World.boot 1 (fun _ => plainTask))) [.write 120] ∧
      ¬ Along rateStep RateAgrees (rated (World.boot 1 (fun _ => plainTask))) [.write 120] := by
  refine ⟨boot_loaded,⟨⟨by decide,by decide⟩,trivial⟩,?_⟩
  rintro ⟨agrees,_⟩
  exact absurd (agrees rfl).2 (by decide)

/-- After another rate the default one is computed too. -/
theorem rate_agrees_later :
    Along rateStep RateAgrees (rated (World.boot 1 (fun _ => plainTask))) [.write 60,.write 120] := by
  have range : Along rateStep InRange (rated (World.boot 1 (fun _ => plainTask))) [.write 60,.write 120] :=
    ⟨⟨by decide,by decide⟩,⟨by decide,by decide⟩,trivial⟩
  exact (rate_agrees_iff _ boot_loaded _ range).mpr (by decide)

end LunarSched.FrameRate
