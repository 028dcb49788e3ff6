import LunarSched.FreedTasks

/-!
What is left of the queues when they are switched off. A task that is bound to one CPU
is queued on that CPU's queue, whether or not the CPU is online then or later, and
`lse_dsq_sync` drains the global queues and those of the CPUs that are online. So a
write of 0 to `dsq_enable` leaves nothing behind exactly when the queues of the CPUs
that are offline have nothing on them (`drain_complete_iff`).
-/
namespace LunarSched.QueueDrain
open LunarSched.Kernel LunarSched.Dsq LunarSched.DsqDepth LunarSched.FreedTasks LunarSched.Runs

/-- The CPU of a task that may run on one only is a possible one, if there is any. -/
def OnPossible (w : World) (p : TaskStruct) : Prop :=
  p.nrCpusAllowed = 1 ∨ p.migrationDisabled = true → p.cpusAny < w.nrCpuIds → w.possible p.cpusAny = true

/-- What the kernel promises: possible CPUs are below `nr_cpu_ids`, and tasks run on
    possible CPUs. -/
structure Promised (w : World) : Prop where
  cpus : ∀ cpu, w.possible cpu = true → cpu < w.nrCpuIds
  tasks : ∀ t, OnPossible w (w.task t)

/-- A change of a task leaves it on possible CPUs. -/
def Admitted (w : World) : DsqEvent → Prop
  | .task _ p => OnPossible w p
  | _ => True

/-- The queues that can hold tasks. -/
def Home (w : World) : DsqRef → Prop
  | .gdsq idx => idx < lseMaxGlobalDsqs
  | .pcp cpu => w.possible cpu = true

section
variable {w : World}

theorem classified_home (promised : Promised w) {t : ℕ} (valid : dsqIdxValid w.nrCpuIds (classified w t)) :
    Home w (dsqOf (classified w t)) := by
  rcases classified_cases w t with global | ⟨pinned,own⟩
  · rw [dsqOf,if_neg (not_le.mpr global)]
    exact global
  · have somewhere : (w.task t).cpusAny < w.nrCpuIds := by
      rcases valid with low | ⟨_,high⟩
      · have base : lseDsqPcpBase = lseMaxGlobalDsqs := rfl
        omega
      · omega
    rw [own,dsqOf,if_pos (Nat.le_add_right _ _),Nat.add_sub_cancel_left]
    exact promised.tasks t pinned somewhere

/-- The nodes are linked, and only on queues that can hold tasks. -/
structure Homed (w : World) : Prop extends Linked w, Promised w where
  home : ∀ ref, (w.dsq.queue ref).fifo ≠ [] → Home w ref

theorem empty_homed (empty : Empty w) (promised : Promised w) : Homed w :=
  ⟨(empty_linked empty).1,promised,fun ref busy => absurd (empty.1 ref).1 busy⟩

/-- The CPUs of the machine stay, and tasks change between the calls only. -/
theorem dsqStep_promised (promised : Promised w) {e : DsqEvent} (admitted : Admitted w e) :
    (dsqStep w e).possible = w.possible ∧ Promised (dsqStep w e) := by
  obtain ⟨cpus,tasks⟩ := promised
  rcases dsqStep_rest w e with ⟨t,p,rfl⟩ | ⟨v,rfl⟩ | ⟨rest,_⟩
  · exact ⟨rfl,cpus,(Function.forall_update_iff w.task (fun _ => OnPossible w)).mpr ⟨admitted,fun u _ => tasks u⟩⟩
  · exact ⟨rfl,cpus,tasks⟩
  · rw [rest]
    exact ⟨rfl,cpus,tasks⟩

theorem dsqStep_homed (homed : Homed w) {e : DsqEvent} (admitted : Admitted w e) : Homed (dsqStep w e) := by
  obtain ⟨possible,promised⟩ := dsqStep_promised homed.toPromised admitted
  have stays : ∀ ref, (w.dsq.queue ref).fifo ≠ [] → Home (dsqStep w e) ref := by
    intro ref busy
    have before := homed.home ref busy
    cases ref with
    | gdsq idx => exact before
    | pcp cpu => exact (congrFun possible cpu).trans before
  refine ⟨dsqStep_linked homed.toLinked e,promised,?_⟩
  intro ref busy
  by_cases there : (w.dsq.queue ref).fifo = []
  · rcases dsqStep_cases w e with same | ⟨t,cpu,lts,rfl,_,_,valid,queued⟩ | ⟨t,lts,rfl,_,_,_,_,taken⟩ | ⟨rfl,off⟩
    · exact absurd ((same.fifo ref).trans there) busy
    · -- The queue is the one the enqueued task is classified for.
      rw [queued,(dsqEnqueue_queue ref).1] at busy
      split_ifs at busy with here
      · rw [queued,here]
        exact classified_home homed.toPromised valid
      · exact absurd there busy
    · rw [taken,(dsqDequeue_queue ref).1,there] at busy
      exact absurd rfl busy
    · rw [dsqStep,sync_queue off] at busy
      split_ifs at busy
      · exact absurd rfl busy
      · exact absurd there busy
  · exact stays ref there

end

/-! ### The drain -/

def Clean (q : LseDispatchQ) : Prop := q.fifo = [] ∧ q.nr = 0 ∧ q.isTimeout = false

/-- Every global queue and that of every possible CPU is clean, and no task is queued. -/
structure Drained (w : World) : Prop where
  global : ∀ idx < lseMaxGlobalDsqs, Clean (w.dsq.queue (.gdsq idx))
  pcp : ∀ cpu, w.possible cpu = true → Clean (w.dsq.queue (.pcp cpu))
  tasks : ∀ t, OffQueues w t

/-- The state after a write of 0 to `dsq_enable`. -/
def disabled (w : World) : World :=
  (lseProcDsqToggleUpdate (fun s => s.world.dsq.enable) storeDsqEnable (lived w) 0).world

section
variable {w : World}

/-- The write switches the queues off and drains them. -/
theorem disabled_eq (on : w.dsq.enable ≠ 0) :
    disabled w = lseDsqSync { w with dsq := { w.dsq with enable := 0 } } := by
  have changed : (0 : ℤ) ≠ (lived w).world.dsq.enable := Ne.symm on
  rw [disabled,lseProcDsqToggleUpdate,if_neg changed]
  rfl

theorem disabled_queue (on : w.dsq.enable ≠ 0) (ref : DsqRef) :
    (disabled w).dsq.queue ref = if drained w ref = true then
      { w.dsq.queue ref with fifo := [], nr := 0, isTimeout := false } else w.dsq.queue ref := by
  rw [disabled_eq on]
  exact sync_queue rfl ref

theorem disabled_linked (on : w.dsq.enable ≠ 0) (linked : Linked w) : Linked (disabled w) := by
  have same : SameQueues w { w with dsq := { w.dsq with enable := 0 } } := ⟨fun _ => rfl,fun _ => rfl,fun _ => rfl⟩
  rw [disabled_eq on]
  exact sync_linked (sameQueues_linked same linked) rfl

theorem disabled_possible (on : w.dsq.enable ≠ 0) : (disabled w).possible = w.possible := by
  rw [disabled_eq on]
  rfl

/-- What the drain leaves are the queues of the offline CPUs. -/
theorem disabled_drained_iff (homed : Homed w) (on : w.dsq.enable ≠ 0) :
    Drained (disabled w) ↔ ∀ cpu, w.possible cpu = true → w.online cpu = false → Clean (w.dsq.queue (.pcp cpu)) := by
  have possible := disabled_possible on
  constructor
  · intro all cpu exists_cpu offline
    have clean := all.pcp cpu (by rwa [possible])
    have kept : drained w (.pcp cpu) ≠ true := by simp [drained,offline]
    rwa [disabled_queue on,if_neg kept] at clean
  · intro offline
    have clean : ∀ ref, Home w ref → Clean ((disabled w).dsq.queue ref) := by
      intro ref home
      rw [disabled_queue on]
      split_ifs with drops
      · exact ⟨rfl,rfl,rfl⟩
      · cases ref with
        | gdsq idx =>
          have low : idx < lseMaxGlobalDsqs := home
          exact absurd (by simpa [drained] using low) drops
        | pcp cpu =>
          have range := homed.cpus cpu home
          exact offline cpu home (by simpa [drained,range] using drops)
    refine ⟨fun idx low => clean (.gdsq idx) low,fun cpu here => clean (.pcp cpu) ?_,?_⟩
    · rwa [possible] at here
    · intro t lts present
      by_contra queued
      obtain ⟨ref,member⟩ := (disabled_linked on homed.toLinked).placed t lts present (by simpa using queued)
      have before : (w.dsq.queue ref).fifo ≠ [] := by
        intro empty
        rw [disabled_queue on] at member
        split_ifs at member
        · cases member
        · rw [empty] at member
          cases member
      rw [(clean ref (homed.home ref before)).1] at member
      cases member

end

/-- After every run from empty queues, a write of 0 to `dsq_enable` drains every queue
    and unmarks every task exactly when the queues of the offline CPUs are clean. -/
theorem drain_complete_iff (w : World) (empty : Empty w) (promised : Promised w) (run : List DsqEvent)
    (admitted : Along dsqStep Admitted w run) (on : (exec dsqStep w run).dsq.enable ≠ 0) :
    Drained (disabled (exec dsqStep w run)) ↔
      ∀ cpu, (exec dsqStep w run).possible cpu = true → (exec dsqStep w run).online cpu = false →
        Clean ((exec dsqStep w run).dsq.queue (.pcp cpu)) := by
  have homed : Homed (exec dsqStep w run) :=
    exec_invariant Homed (fun _ _ homed ok => dsqStep_homed homed ok) (empty_homed empty promised) admitted
  exact disabled_drained_iff homed on

/-- A task that is bound to CPU 1. -/
def boundTask : TaskStruct := { plainTask with nrCpusAllowed := 1, cpusAny := 1 }

theorem boot_promised : Promised (World.boot 2 (fun _ => boundTask)) := by
  refine ⟨fun cpu exists_cpu => by simpa [World.boot] using exists_cpu,?_⟩
  intro t _ below
  simpa [World.boot] using below

/-- The machine with CPU 1 offline. -/
def oneOffline : World :=
  { World.boot 2 (fun _ => boundTask) with online := fun cpu => decide (cpu = 0) }

/-- A task bound to CPU 1 is queued, CPU 1 goes offline and the queues are switched off. -/
theorem drain_incomplete :
    Empty (World.boot 2 (fun _ => boundTask)) ∧ Promised (World.boot 2 (fun _ => boundTask)) ∧
      Along dsqStep Admitted (World.boot 2 (fun _ => boundTask)) [.enqueue 2 1,.others oneOffline] ∧
      (exec dsqStep (World.boot 2 (fun _ => boundTask)) [.enqueue 2 1,.others oneOffline]).dsq.enable ≠ 0 ∧
      ¬ Drained (disabled (exec dsqStep (World.boot 2 (fun _ => boundTask)) [.enqueue 2 1,.others oneOffline])) := by
  refine ⟨boot_empty 2 _,boot_promised,⟨trivial,trivial,trivial⟩,by decide +kernel,?_⟩
  intro all
  have clean := (all.pcp 1 (by decide +kernel)).1
  exact absurd clean (by decide +kernel)

/-- With every CPU online the drain is complete. -/
theorem drain_complete_online :
    Drained (disabled (exec dsqStep (World.boot 2 (fun _ => boundTask)) [.enqueue 2 1])) := by
  have admitted : Along dsqStep Admitted (World.boot 2 (fun _ => boundTask)) [.enqueue 2 1] := ⟨trivial,trivial⟩
  refine (drain_complete_iff _ (boot_empty 2 _) boot_promised _ admitted (by decide +kernel)).mpr ?_
  intro cpu exists_cpu offline
  have same : (exec dsqStep (World.boot 2 (fun _ => boundTask)) [.enqueue 2 1]).online cpu =
      (exec dsqStep (World.boot 2 (fun _ => boundTask)) [.enqueue 2 1]).possible cpu := rfl
  rw [same,exists_cpu] at offline
  cases offline

end LunarSched.QueueDrain
