import LunarSched.DsqDepth
import Mathlib.Data.List.Nodup

/-!
The order on the dispatch queues. A dequeue may count down another queue than the one
the task is on, and a drain clears several queues at once, but the node itself is only
ever appended to one queue and unlinked from it. So in every state of a run a task's
record says whether it is on a queue, which is then one queue only, and every queue
holds its tasks in the order in which they were last enqueued (`queues_in_order`).
-/
namespace LunarSched.QueueOrder
open LunarSched.Kernel LunarSched.Dsq LunarSched.DsqDepth LunarSched.Runs

/-- The machine in a run, with the number of calls so far and, for every task, the
    number of the call that last enqueued it. -/
structure Ordered where
  world : World
  calls : ℕ
  turn : ℕ → ℕ

/-- The record of a task says that it is on a queue. -/
def onDsq (w : World) (t : ℕ) : Bool := ((w.lts t).map LseTaskStruct.onDsq).getD false

/-- The task that a step enqueues: one that was off the queues before the call and is
    on one after it. -/
def enqueued (w : World) (e : DsqEvent) (t : ℕ) : Bool :=
  match e with
  | .enqueue u _ => decide (u = t) && !onDsq w t && onDsq (dsqStep w e) t
  | _ => false

def orderStep (s : Ordered) (e : DsqEvent) : Ordered where
  world := dsqStep s.world e
  calls := s.calls + 1
  turn := fun t => if enqueued s.world e t then s.calls else s.turn t

/-- The state before the run: no call was made. -/
def ordered (w : World) : Ordered := ⟨w,0,fun _ => 0⟩

/-- A task whose record says so is linked on one FIFO, once; any other is on none. -/
def Member (w : World) : Prop :=
  (∀ t lts, w.lts t = some lts →
    (lts.onDsq = true ↔ ∃ ref, (w.dsq.queue ref).fifo.count t = 1 ∧ ∀ other ≠ ref, t ∉ (w.dsq.queue other).fifo) ∧
      (lts.onDsq = false ↔ ∀ ref, t ∉ (w.dsq.queue ref).fifo)) ∧
    ∀ t, w.lts t = none → ∀ ref, t ∉ (w.dsq.queue ref).fifo

/-- Every FIFO lists its tasks in the order of their last enqueue. -/
def InOrder (s : Ordered) : Prop := ∀ ref, (s.world.dsq.queue ref).fifo.Pairwise (fun t u => s.turn t < s.turn u)

theorem linked_member {w : World} (linked : Linked w) : Member w := by
  obtain ⟨flagged,placed,once,one⟩ := linked
  have marked : ∀ {t lts ref}, w.lts t = some lts → t ∈ (w.dsq.queue ref).fifo → lts.onDsq = true := by
    intro t lts ref present queued
    obtain ⟨lts',present',on⟩ := flagged ref t queued
    rw [present,Option.some.injEq] at present'
    rwa [present']
  refine ⟨fun t lts present => ⟨⟨?_,?_⟩,?_,?_⟩,?_⟩
  · intro on
    obtain ⟨ref,queued⟩ := placed t lts present on
    refine ⟨ref,List.count_eq_one_of_mem (once ref) queued,?_⟩
    intro other away there
    exact away (one other ref t there queued)
  · rintro ⟨ref,count,_⟩
    exact marked present (List.count_pos_iff.mp (count ▸ Nat.one_pos))
  · intro off ref queued
    rw [marked present queued] at off
    cases off
  · intro nowhere
    by_contra on
    obtain ⟨ref,queued⟩ := placed t lts present (by simpa using on)
    exact nowhere ref queued
  · intro t missing ref queued
    obtain ⟨lts,present,_⟩ := flagged ref t queued
    rw [missing] at present
    cases present

/-- The nodes are linked, every queued task had its turn in an earlier call, and the
    FIFOs are in order. -/
structure Sound (s : Ordered) : Prop extends Linked s.world where
  earlier : ∀ ref, ∀ t ∈ (s.world.dsq.queue ref).fifo, s.turn t < s.calls
  order : InOrder s

theorem ordered_sound {w : World} (empty : Empty w) : Sound (ordered w) := by
  refine ⟨(empty_linked empty).1,?_,?_⟩
  · intro ref t queued
    simp only [ordered,(empty.1 ref).1] at queued
    cases queued
  · intro ref
    simp only [ordered,(empty.1 ref).1]
    exact List.Pairwise.nil

section
variable {s : Ordered} {e : DsqEvent}

/-- A step that appends nothing to a FIFO and gives no task a turn. -/
theorem sublist_sound (sound : Sound s) (none : ∀ t, enqueued s.world e t = false)
    (sub : ∀ ref, ((dsqStep s.world e).dsq.queue ref).fifo.Sublist (s.world.dsq.queue ref).fifo) :
    Sound (orderStep s e) := by
  have turns : (orderStep s e).turn = s.turn := by
    funext t
    simp [orderStep,none]
  refine ⟨dsqStep_linked sound.toLinked e,?_,?_⟩
  · intro ref t queued
    rw [turns]
    exact (sound.earlier ref t ((sub ref).subset queued)).trans (Nat.lt_succ_self _)
  · intro ref
    rw [turns]
    exact (sound.order ref).sublist (sub ref)

/-- A step after which every record says what it said before enqueues nobody. -/
theorem not_enqueued {w : World} (t : ℕ)
    (same : ∀ t, ((dsqStep w e).lts t).map LseTaskStruct.onDsq = (w.lts t).map LseTaskStruct.onDsq) :
    enqueued w e t = false := by
  have kept : onDsq (dsqStep w e) t = onDsq w t := by
    rw [onDsq,same]
    rfl
  cases e with
  | enqueue u cpu =>
    rw [enqueued,kept]
    cases onDsq w t <;> simp
  | _ => rfl

/-- The task that is appended to a FIFO is the one that is enqueued. -/
theorem enqueued_append {w : World} {t cpu : ℕ} {ref : DsqRef} {lts : LseTaskStruct} (present : w.lts t = some lts)
    (off : lts.onDsq = false) (queued : dsqStep w (.enqueue t cpu) = dsqEnqueue w ref t lts) (u : ℕ) :
    enqueued w (.enqueue t cpu) u = true ↔ u = t := by
  by_cases same : u = t
  · subst same
    simp [enqueued,onDsq,queued,dsqEnqueue_lts,present,off]
  · simp [enqueued,same,Ne.symm same]

/-- Who is enqueued goes to the end of its FIFO, with the latest turn. -/
theorem append_sound (sound : Sound s) {t cpu : ℕ} {ref : DsqRef} {lts : LseTaskStruct}
    (present : s.world.lts t = some lts) (off : lts.onDsq = false)
    (queued : dsqStep s.world (.enqueue t cpu) = dsqEnqueue s.world ref t lts) :
    Sound (orderStep s (.enqueue t cpu)) := by
  have nowhere := nowhere_of_off sound.toLinked present off
  have turns : ∀ u, (orderStep s (.enqueue t cpu)).turn u = if u = t then s.calls else s.turn u := by
    intro u
    simp only [orderStep,enqueued_append present off queued]
  have other : ∀ {r u}, u ∈ (s.world.dsq.queue r).fifo → u ≠ t := by
    rintro r u member rfl
    exact nowhere r member
  have fifo : ∀ r, ((orderStep s (.enqueue t cpu)).world.dsq.queue r).fifo =
      if r = ref then (s.world.dsq.queue ref).fifo ++ [t] else (s.world.dsq.queue r).fifo := by
    intro r
    simp only [orderStep,queued,(dsqEnqueue_queue r).1]
  have kept : ∀ r, (s.world.dsq.queue r).fifo.Pairwise
      (fun a b => (orderStep s (.enqueue t cpu)).turn a < (orderStep s (.enqueue t cpu)).turn b) := by
    intro r
    refine (sound.order r).imp_of_mem ?_
    intro a b first second lt
    rwa [turns,turns,if_neg (other first),if_neg (other second)]
  refine ⟨dsqStep_linked sound.toLinked (.enqueue t cpu),?_,?_⟩
  · intro r u member
    rw [turns]
    split_ifs with same
    · exact Nat.lt_succ_self _
    · simp only [orderStep,queued] at member
      rcases (mem_dsqEnqueue ref lts nowhere r u).mp member with ⟨here,_⟩ | ⟨_,there⟩
      · exact absurd here same
      · exact (sound.earlier r u there).trans (Nat.lt_succ_self _)
  · intro r
    rw [fifo]
    split_ifs
    · refine List.pairwise_append.mpr ⟨kept ref,List.pairwise_singleton _ _,?_⟩
      intro a first b last
      rw [List.mem_singleton.mp last,turns,turns,if_neg (other first),if_pos rfl]
      exact sound.earlier ref a first
    · exact kept r

theorem orderStep_sound (sound : Sound s) (e : DsqEvent) : Sound (orderStep s e) := by
  rcases dsqStep_cases s.world e with same | ⟨t,cpu,lts,rfl,present,off,_,queued⟩ | ⟨t,lts,rfl,_,_,_,_,taken⟩ |
    ⟨rfl,off⟩
  · refine sublist_sound sound (fun t => not_enqueued t same.queued) (fun ref => ?_)
    rw [same.fifo]
  · exact append_sound sound present off queued
  · refine sublist_sound sound (fun _ => rfl) (fun ref => ?_)
    rw [taken,(dsqDequeue_queue ref).1]
    exact List.erase_sublist
  · refine sublist_sound sound (fun _ => rfl) (fun ref => ?_)
    rw [dsqStep,sync_queue off]
    split_ifs
    · exact List.nil_sublist _
    · exact List.Sublist.refl _

end

/-- In every state of every run from empty queues, a task is on one FIFO and once when
    its record says so and on none otherwise, and every FIFO lists its tasks in the
    order of their last enqueue. -/
theorem queues_in_order (w : World) (empty : Empty w) (run : List DsqEvent) :
    Member (exec orderStep (ordered w) run).world ∧ InOrder (exec orderStep (ordered w) run) := by
  have sound : Sound (exec orderStep (ordered w) run) :=
    exec_invariant Sound (fun _ e sound _ => orderStep_sound sound e) (ordered_sound empty) along_true
  exact ⟨linked_member sound.toLinked,sound.order⟩

/-- Tasks 1 and 2 are queued in this order, and task 1 once more after a dequeue. -/
theorem queues_in_order_requeue :
    Member (exec orderStep (ordered (World.boot 1 (fun _ => plainTask)))
        [.enqueue 1 0,.enqueue 2 0,.dequeue 1,.enqueue 1 0]).world ∧
      InOrder (exec orderStep (ordered (World.boot 1 (fun _ => plainTask)))
        [.enqueue 1 0,.enqueue 2 0,.dequeue 1,.enqueue 1 0]) :=
  queues_in_order _ (boot_empty 1 _) _

end LunarSched.QueueOrder
