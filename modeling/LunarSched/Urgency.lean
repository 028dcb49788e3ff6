import LunarSched.Starvation

/-!
The urgency that the dispatch queues report to the governor. It counts the global
queues that have timed out, and a queue that becomes empty should stop doing so; but a
dequeue clears the timeout of the queue that the task's classification selects at that
moment. Along a run no urgency is reported without a waiting task exactly when every
dequeue of the last waiting task finds no other queue timed out than the one the task is
classified for (`no_false_urgency_iff`).
-/
namespace LunarSched.Urgency
open LunarSched.Kernel LunarSched.Dsq LunarSched.DsqDepth LunarSched.Starvation LunarSched.Runs

/-- The fifo of every global queue is empty. -/
def NoneWaits (w : World) : Prop := ∀ idx < lseMaxGlobalDsqs, (w.dsq.queue (.gdsq idx)).fifo = []

instance (w : World) : Decidable (NoneWaits w) := inferInstanceAs (Decidable (∀ idx < lseMaxGlobalDsqs, _))

/-- With the queues switched on and no task on a global one, no urgency is reported. -/
def NoFalseUrgency (w : World) : Prop := w.dsq.enable ≠ 0 → NoneWaits w → lseDsqUrgencySignal w = 0

/-- The task is on a global queue, and no other task is on one. -/
def LastWaiter (w : World) (t : ℕ) : Prop :=
  (∃ idx < lseMaxGlobalDsqs, t ∈ (w.dsq.queue (.gdsq idx)).fifo) ∧
    ∀ idx < lseMaxGlobalDsqs, ∀ u ∈ (w.dsq.queue (.gdsq idx)).fifo, u = t

/-- A dequeue of the last waiting task finds no global queue timed out, except the one
    that the task is classified for. -/
def LastFound (w : World) : DsqEvent → Prop
  | .dequeue t =>
    w.dsq.enable ≠ 0 → classified w t < lseDsqPcpBase + w.nrCpuIds → LastWaiter w t →
      ∀ idx < lseMaxGlobalDsqs, (w.dsq.queue (.gdsq idx)).isTimeout = true → dsqOf (classified w t) = .gdsq idx
  | _ => True

/-- When no task is on a global queue, none of them has timed out. -/
def Settled (w : World) : Prop :=
  NoneWaits w → ∀ idx < lseMaxGlobalDsqs, (w.dsq.queue (.gdsq idx)).isTimeout = false

section
variable {w : World}

theorem urgency_zero_iff (on : w.dsq.enable ≠ 0) :
    lseDsqUrgencySignal w = 0 ↔ ∀ idx < lseMaxGlobalDsqs, (w.dsq.queue (.gdsq idx)).isTimeout = false := by
  have counted : (List.range lseMaxGlobalDsqs).countP (lseDsqHasTimeout w) = 0 ↔
      ∀ idx < lseMaxGlobalDsqs, (w.dsq.queue (.gdsq idx)).isTimeout = false := by
    rw [List.countP_eq_zero]
    refine forall_congr' (fun idx => ?_)
    rw [List.mem_range]
    refine imp_congr_right (fun low => ?_)
    rw [lseDsqHasTimeout,decide_eq_true low,Bool.true_and,Bool.not_eq_true]
  rw [← counted,lseDsqUrgencySignal,if_neg on]
  omega

theorem noFalseUrgency_iff (on : w.dsq.enable ≠ 0) : NoFalseUrgency w ↔ Settled w := by
  unfold NoFalseUrgency Settled
  rw [urgency_zero_iff on]
  exact ⟨fun quiet => quiet on,fun settled _ => settled⟩

theorem settled_quiet (settled : Settled w) : NoFalseUrgency w :=
  fun on none => (urgency_zero_iff on).mpr (settled none)

/-- Queues are settled after a step that empties none and flags none that is empty. -/
theorem settled_of_queues {v : World} (settled : Settled w)
    (empty : ∀ idx, (v.dsq.queue (.gdsq idx)).fifo = [] → (w.dsq.queue (.gdsq idx)).fifo = [] ∧
      ((v.dsq.queue (.gdsq idx)).isTimeout = true → (w.dsq.queue (.gdsq idx)).isTimeout = true)) : Settled v := by
  intro none idx low
  have before := settled (fun other small => (empty other (none other small)).1) idx low
  by_contra flagged
  rw [(empty idx (none idx low)).2 (by simpa using flagged)] at before
  exact absurd before Bool.true_eq_false.mp

theorem scan_settled (settled : Settled w) (cpu : ℕ) : Settled (lseDsqScanTimeout w cpu) := by
  refine settled_of_queues settled (fun idx empty => ?_)
  have none : (w.dsq.queue (.gdsq idx)).fifo = [] := ((scan_same w cpu).fifo _).symm.trans empty
  refine ⟨none,fun flagged => ?_⟩
  have moved := dsqStep_moved w (.scan cpu) (.gdsq idx)
  rw [dsqStep] at moved
  generalize (lseDsqScanTimeout w cpu).dsq.queue (.gdsq idx) = q at moved flagged
  cases moved with
  | same => exact flagged
  | scanned _ deadlineMs on =>
    rw [scanQueue,if_neg (fun busy => busy.1 none)] at flagged
    exact flagged
  | scannedGlobal _ deadlineMs on =>
    rw [scanGlobalQueue,clearTimeout_idle _ ((scanQueue_same w _ _).1.trans none)] at flagged
    cases flagged

theorem sync_settled (settled : Settled w) : Settled (lseDsqSync w) := by
  by_cases off : w.dsq.enable = 0
  · intro _ idx low
    rw [sync_queue off,if_pos (by simpa [drained] using low)]
  · rwa [sync_on off]

theorem enqueue_settled (settled : Settled w) (t cpu : ℕ) : Settled (lseDsqEnqueueTask w t cpu) := by
  rcases enqueue_cases w t cpu with same | ⟨lts,_,_,_,queued⟩
  · rwa [same]
  · rw [queued]
    refine settled_of_queues settled (fun idx empty => ?_)
    rw [dsqEnqueue_at] at empty ⊢
    by_cases here : DsqRef.gdsq idx = dsqOf (classified w t)
    · rw [if_pos here] at empty
      exact absurd empty (List.append_ne_nil_of_right_ne_nil _ (List.cons_ne_nil _ _))
    · rw [if_neg here] at empty ⊢
      exact ⟨empty,id⟩

/-- After a dequeue the queues are settled when the task leaves others behind, or no other
    queue than its own is flagged. -/
theorem dequeue_settled_iff (linked : Linked w) (settled : Settled w) {t : ℕ} {lts : LseTaskStruct} {ref : DsqRef} :
    Settled (dsqDequeue w ref t lts) ↔
      (LastWaiter w t → ∀ idx < lseMaxGlobalDsqs, (w.dsq.queue (.gdsq idx)).isTimeout = true → ref = .gdsq idx) := by
  have fifo : ∀ idx, ((dsqDequeue w ref t lts).dsq.queue (.gdsq idx)).fifo = (w.dsq.queue (.gdsq idx)).fifo.erase t :=
    fun idx => (dsqDequeue_queue _).1
  have alone : ∀ idx, (w.dsq.queue (.gdsq idx)).fifo.erase t = [] ↔ ∀ u ∈ (w.dsq.queue (.gdsq idx)).fifo, u = t := by
    intro idx
    rw [List.eq_nil_iff_forall_not_mem]
    refine forall_congr' (fun u => ?_)
    rw [(linked.once _).mem_erase_iff]
    tauto
  constructor
  · intro after last idx low flagged
    by_contra away
    have none : NoneWaits (dsqDequeue w ref t lts) := fun other small => by
      rw [fifo,alone]
      exact last.2 other small
    have cleared := after none idx low
    rw [dsqDequeue_at,if_neg (fun same => away same.symm)] at cleared
    exact absurd (flagged.symm.trans cleared) Bool.true_eq_false.mp
  · intro own none idx low
    have gone : ∀ other < lseMaxGlobalDsqs, ∀ u ∈ (w.dsq.queue (.gdsq other)).fifo, u = t := by
      intro other small
      rw [← alone,← fifo]
      exact none other small
    by_cases waits : ∃ other < lseMaxGlobalDsqs, t ∈ (w.dsq.queue (.gdsq other)).fifo
    · by_contra flagged
      rw [dsqDequeue_at] at flagged
      split_ifs at flagged with here
      · subst here
        exact flagged (clearTimeout_idle _ ((alone idx).mpr (gone idx low)))
      · exact here (own ⟨waits,gone⟩ idx low (by simpa using flagged)).symm
    · have before : NoneWaits w := fun other small =>
        List.eq_nil_iff_forall_not_mem.mpr (fun u queued => waits ⟨other,small,gone other small u queued ▸ queued⟩)
      have clear := settled before idx low
      rw [dsqDequeue_at]
      split_ifs with here
      · exact clearTimeout_idle _ (by rw [← here,before idx low]; rfl)
      · exact clear

/-- Only a dequeue can leave the queues unsettled. -/
theorem step_settled_iff (linked : Linked w) (settled : Settled w) (e : DsqEvent) :
    Settled (dsqStep w e) ↔ LastFound w e := by
  cases e with
  | dequeue t =>
    rcases dequeue_cases w t with ⟨same,idle⟩ | ⟨on,low,lts,present,queued,taken⟩
    · rw [dsqStep,same]
      refine iff_of_true settled ?_
      intro on low last
      rcases idle with off | unqueued | beyond
      · exact absurd off on
      · obtain ⟨⟨idx,_,waits⟩,_⟩ := last
        exact absurd (linked.flagged _ t waits) unqueued
      · omega
    · rw [dsqStep,taken,dequeue_settled_iff linked settled]
      exact ⟨fun own _ _ => own,fun found => found on low⟩
  | enqueue t cpu => exact iff_of_true (enqueue_settled settled t cpu) trivial
  | scan cpu => exact iff_of_true (scan_settled settled cpu) trivial
  | sync => exact iff_of_true (sync_settled settled) trivial
  | task t p => exact iff_of_true settled trivial
  | hint t taskClass boostPct => exact iff_of_true settled trivial
  | others v => exact iff_of_true settled trivial

theorem dequeue_enable (w : World) (t : ℕ) : (lseDsqDequeueTask w t).dsq.enable = w.dsq.enable := by
  rcases dequeue_cases w t with ⟨same,_⟩ | ⟨_,_,lts,_,_,taken⟩
  · rw [same]
  · rw [taken]
    rfl

theorem step_quiet_iff (linked : Linked w) (settled : Settled w) (e : DsqEvent) :
    NoFalseUrgency (dsqStep w e) ↔ LastFound w e := by
  rw [← step_settled_iff linked settled e]
  refine ⟨?_,settled_quiet⟩
  intro quiet
  by_cases off : (dsqStep w e).dsq.enable = 0
  · -- Switched off, a dequeue does nothing.
    refine (step_settled_iff linked settled e).mpr ?_
    cases e with
    | dequeue t => exact fun on => absurd ((dequeue_enable w t).symm.trans off) on
    | _ => exact trivial
  · exact (noFalseUrgency_iff off).mp quiet

end

/-- Along every run from empty queues that are not flagged, no urgency is reported while
    no task is on a global queue exactly when the last waiting task is always found. -/
theorem no_false_urgency_iff (w : World) (empty : Empty w) (unflagged : ∀ ref, (w.dsq.queue ref).isTimeout = false)
    (run : List DsqEvent) :
    Along dsqStep (fun s e => NoFalseUrgency (dsqStep s e)) w run ↔ Along dsqStep LastFound w run := by
  refine along_iff (fun s => Linked s ∧ Settled s) ?_ ?_ ⟨(empty_linked empty).1,fun _ idx _ => unflagged _⟩ along_true
  · exact fun s e held _ => step_quiet_iff held.1 held.2 e
  · intro s e held _ quiet
    refine ⟨dsqStep_linked held.1 e,?_⟩
    rw [step_settled_iff held.1 held.2 e]
    exact (step_quiet_iff held.1 held.2 e).mp quiet

/-- Task 1 times out on queue 8, becomes a foreground task, and is dequeued from there. -/
def promotedRun : List DsqEvent :=
  [.enqueue 1 0,.others (atJiffies 17),.scan 0,.hint 1 .foreground 1024,.dequeue 1]

/-- Queue 8 is left empty and timed out, because the dequeue looks at queue 6. -/
theorem urgency_without_waiter :
    let w := World.boot 1 (fun _ => plainTask)
    Empty w ∧ (∀ ref, (w.dsq.queue ref).isTimeout = false) ∧
      ¬ Along dsqStep (fun s e => NoFalseUrgency (dsqStep s e)) w promotedRun := by
  refine ⟨boot_empty 1 _,fun _ => rfl,?_⟩
  rintro ⟨_,_,_,_,quiet,_⟩
  exact absurd (quiet (by decide +kernel) (by decide +kernel)) (by decide +kernel)

/-- A task that keeps its class is found on the queue that timed out. -/
theorem no_false_urgency_found :
    Along dsqStep (fun s e => NoFalseUrgency (dsqStep s e)) (World.boot 1 (fun _ => plainTask))
      [.enqueue 1 0,.others (atJiffies 17),.scan 0,.dequeue 1] := by
  refine (no_false_urgency_iff _ (boot_empty 1 _) (fun _ => rfl) _).mpr ⟨trivial,trivial,trivial,?_,trivial⟩
  intro _ _ _ idx low flagged
  simp only [lseMaxGlobalDsqs] at low
  interval_cases idx <;> first | rfl | exact absurd flagged (by decide +kernel)

end LunarSched.Urgency
