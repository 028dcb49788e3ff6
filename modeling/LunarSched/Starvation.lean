import LunarSched.QueueOrder
import Mathlib.Tactic.IntervalCases

/-!
The timeouts of the dispatch queues against the time their tasks wait. The clock of a
queue, `last_consume_at`, is set when the queue becomes non-empty, and a dequeue that
leaves tasks behind does not touch it. So no task waits longer than its queue is
non-empty, and a scan misses no task at the head that waited longer than the deadline
(`no_starvation_missed`). It does flag queues whose head came late: an alarm is true
whenever the head of a queue that has been non-empty for longer than its deadline has
waited for longer than that too (`alarms_true`).
-/
namespace LunarSched.Starvation
open LunarSched.Machine LunarSched.Kernel LunarSched.Dsq LunarSched.DsqDepth LunarSched.QueueOrder LunarSched.Runs

/-- The machine in a run, with the ticks of `jiffies` since its start, the time at which
    every task was last enqueued, and that at which every queue last became non-empty. -/
structure Waiting where
  world : World
  elapsed : ℕ
  enqueuedAt : ℕ → ℕ
  since : DsqRef → ℕ

/-- The ticks of `jiffies` during a step. `jiffies` may wrap around. -/
def ticks (w : World) : DsqEvent → ℕ
  | .others e => u64Sub e.dsq.jiffies w.dsq.jiffies
  | _ => 0

def waitStep (s : Waiting) (e : DsqEvent) : Waiting where
  world := dsqStep s.world e
  elapsed := s.elapsed + ticks s.world e
  enqueuedAt := fun t => if enqueued s.world e t then s.elapsed else s.enqueuedAt t
  since := fun ref =>
    if (s.world.dsq.queue ref).fifo = [] ∧ ((dsqStep s.world e).dsq.queue ref).fifo ≠ [] then s.elapsed
    else s.since ref

/-- The state before the run. -/
def waiting (w : World) : Waiting := ⟨w,0,fun _ => 0,fun _ => 0⟩

/-- How long a task has waited since its last enqueue. -/
def waited (s : Waiting) (t : ℕ) : ℕ := s.elapsed - s.enqueuedAt t

/-- How long a queue has been non-empty. -/
def busyFor (s : Waiting) (ref : DsqRef) : ℕ := s.elapsed - s.since ref

/-- The deadline of a queue in `jiffies`. -/
def deadline (w : World) : DsqRef → ℕ
  | .gdsq idx => w.msecsToJiffies (lseDsqDeadlines.getD idx 0)
  | .pcp _ => w.msecsToJiffies lsePcpDsqDeadlineMs

/-- The queues that `lse_dsq_scan_timeout` looks at on a CPU. -/
def Scanned (cpu : ℕ) : DsqRef → Prop
  | .gdsq idx => lseDsqNonPeriodStart ≤ idx ∧ idx < lseDsqNonPeriodEnd
  | .pcp c => c = cpu

/-- `jiffies` is a 64-bit word. -/
def Word : DsqEvent → Prop
  | .others v => v.dsq.jiffies < 18446744073709551616
  | _ => True

section
variable {w : World} {t : ℕ} {lts : LseTaskStruct} {ref : DsqRef}

theorem scan_gdsq (on : w.dsq.enable ≠ 0) (cpu idx : ℕ) :
    (lseDsqScanTimeout w cpu).dsq.queue (.gdsq idx) =
      if lseDsqNonPeriodStart ≤ idx ∧ idx < lseDsqNonPeriodEnd then
        scanGlobalQueue w (lseDsqDeadlines.getD idx 0) (w.dsq.queue (.gdsq idx))
      else w.dsq.queue (.gdsq idx) := by
  simp only [lseDsqScanTimeout,if_neg on]

theorem scan_pcp (on : w.dsq.enable ≠ 0) (cpu c : ℕ) :
    (lseDsqScanTimeout w cpu).dsq.queue (.pcp c) =
      if c = cpu then scanQueue w lsePcpDsqDeadlineMs (w.dsq.queue (.pcp c)) else w.dsq.queue (.pcp c) := by
  simp only [lseDsqScanTimeout,if_neg on]

theorem scanQueue_consumed (deadlineMs : ℕ) (q : LseDispatchQ) :
    (scanQueue w deadlineMs q).lastConsumeAt = q.lastConsumeAt := by
  unfold scanQueue
  split_ifs <;> rfl

/-- The clock of a queue that is not empty stays as it is. -/
theorem clearTimeout_busy {q : LseDispatchQ} (busy : q.fifo ≠ []) : clearTimeout w q = q := by
  rw [clearTimeout,if_neg (fun empty => busy empty.1)]

theorem scanGlobalQueue_busy {deadlineMs : ℕ} {q : LseDispatchQ} (busy : q.fifo ≠ []) :
    scanGlobalQueue w deadlineMs q = scanQueue w deadlineMs q := by
  rw [scanGlobalQueue,clearTimeout_busy]
  rwa [(scanQueue_same w deadlineMs q).1]

/-- A scan flags a queue with tasks on it when its clock is further back than the deadline. -/
theorem scanQueue_flag (deadlineMs : ℕ) {q : LseDispatchQ} (busy : q.fifo ≠ []) :
    (scanQueue w deadlineMs q).isTimeout = true ↔
      q.isTimeout = true ∨ timeAfter w.dsq.jiffies (u64 (q.lastConsumeAt + w.msecsToJiffies deadlineMs)) = true := by
  unfold scanQueue
  cases flagged : q.isTimeout with
  | true => simp [flagged]
  | false =>
    by_cases late : timeAfter w.dsq.jiffies (u64 (q.lastConsumeAt + w.msecsToJiffies deadlineMs)) = true
    · rw [if_pos ⟨busy,rfl,late⟩]
      exact iff_of_true rfl (Or.inr late)
    · rw [if_neg (fun all => late all.2.2),flagged]
      exact iff_of_false (by decide) (fun either => either.elim (by decide) late)

theorem scan_flag (on : w.dsq.enable ≠ 0) {cpu : ℕ} {r : DsqRef} (scanned : Scanned cpu r)
    (busy : (w.dsq.queue r).fifo ≠ []) :
    ((lseDsqScanTimeout w cpu).dsq.queue r).isTimeout = true ↔ (w.dsq.queue r).isTimeout = true ∨
      timeAfter w.dsq.jiffies (u64 ((w.dsq.queue r).lastConsumeAt + deadline w r)) = true := by
  cases r with
  | gdsq idx =>
    have shared : lseDsqNonPeriodStart ≤ idx ∧ idx < lseDsqNonPeriodEnd := scanned
    rw [scan_gdsq on,if_pos shared,scanGlobalQueue_busy busy]
    exact scanQueue_flag _ busy
  | pcp c =>
    have here : c = cpu := scanned
    rw [scan_pcp on,if_pos here]
    exact scanQueue_flag _ busy

/-- What a step can make of a queue. -/
inductive Moved (w : World) (r : DsqRef) : DsqEvent → LseDispatchQ → Prop where
  | same (e : DsqEvent) : Moved w r e (w.dsq.queue r)
  | appended (t cpu : ℕ) : Moved w r (.enqueue t cpu)
      { w.dsq.queue r with
        fifo := (w.dsq.queue r).fifo ++ [t]
        nr := (w.dsq.queue r).nr + 1
        lastConsumeAt := if (w.dsq.queue r).fifo = [] then w.dsq.jiffies else (w.dsq.queue r).lastConsumeAt }
  /-- The queue that a dequeue counts down. -/
  | counted (t : ℕ) (nr : ℤ) : Moved w r (.dequeue t)
      (clearTimeout w { w.dsq.queue r with fifo := (w.dsq.queue r).fifo.erase t, nr := nr })
  /-- Any other queue, from which the task is unlinked if it is there. -/
  | unlinked (t : ℕ) (home : Remembered w (.dequeue t) → t ∈ (w.dsq.queue (dsqOf (classified w t))).fifo)
      (away : r ≠ dsqOf (classified w t)) :
      Moved w r (.dequeue t) { w.dsq.queue r with fifo := (w.dsq.queue r).fifo.erase t }
  | scanned (cpu deadlineMs : ℕ) (on : w.dsq.enable ≠ 0) : Moved w r (.scan cpu) (scanQueue w deadlineMs (w.dsq.queue r))
  | scannedGlobal (cpu deadlineMs : ℕ) (on : w.dsq.enable ≠ 0) :
      Moved w r (.scan cpu) (scanGlobalQueue w deadlineMs (w.dsq.queue r))
  | drained : Moved w r .sync { w.dsq.queue r with fifo := [], nr := 0, isTimeout := false }

theorem dsqStep_moved (w : World) (e : DsqEvent) (r : DsqRef) : Moved w r e ((dsqStep w e).dsq.queue r) := by
  cases e with
  | enqueue t cpu =>
    rcases enqueue_cases w t cpu with same | ⟨lts,_,_,_,queued⟩
    · rw [dsqStep,same]
      exact .same _
    · rw [dsqStep,queued,dsqEnqueue_at]
      by_cases here : r = dsqOf (classified w t)
      · rw [if_pos here,← here]
        exact .appended t cpu
      · rw [if_neg here]
        exact .same _
  | dequeue t =>
    rcases dequeue_cases w t with ⟨same,_⟩ | ⟨on,low,lts,present,queued,taken⟩
    · rw [dsqStep,same]
      exact .same _
    · rw [dsqStep,taken,dsqDequeue_at]
      by_cases here : r = dsqOf (classified w t)
      · rw [if_pos here,← here]
        exact .counted t _
      · rw [if_neg here]
        exact .unlinked t (fun remembered => remembered on ⟨lts,present,queued⟩ low) here
  | scan cpu =>
    by_cases off : w.dsq.enable = 0
    · rw [dsqStep,lseDsqScanTimeout,if_pos off]
      exact .same _
    · rw [dsqStep]
      cases r with
      | gdsq idx =>
        rw [scan_gdsq off]
        split_ifs
        · exact .scannedGlobal cpu _ off
        · exact .same _
      | pcp c =>
        rw [scan_pcp off]
        split_ifs
        · exact .scanned cpu _ off
        · exact .same _
  | sync =>
    by_cases off : w.dsq.enable = 0
    · rw [dsqStep,sync_queue off]
      split_ifs
      · exact .drained
      · exact .same _
    · rw [dsqStep,sync_on off]
      exact .same _
  | task t p => exact .same _
  | hint t taskClass boostPct => exact .same _
  | others v => exact .same _

/-- The clock of a queue with tasks on it was set when the first of them came. -/
theorem dsqStep_consumed (w : World) (e : DsqEvent) (r : DsqRef) (busy : ((dsqStep w e).dsq.queue r).fifo ≠ []) :
    ((dsqStep w e).dsq.queue r).lastConsumeAt =
      if (w.dsq.queue r).fifo = [] then w.dsq.jiffies else (w.dsq.queue r).lastConsumeAt := by
  have erased : ∀ {t}, (w.dsq.queue r).fifo.erase t ≠ [] → (w.dsq.queue r).fifo ≠ [] := by
    intro t left none
    rw [none] at left
    exact left rfl
  have moved := dsqStep_moved w e r
  generalize (dsqStep w e).dsq.queue r = q at moved busy ⊢
  cases moved with
  | same => rw [if_neg busy]
  | appended t cpu => rfl
  | counted t nr =>
    rw [(clearTimeout_same w _).1] at busy
    rw [clearTimeout_busy busy,if_neg (erased busy)]
  | unlinked t home away => rw [if_neg (erased busy)]
  | scanned cpu deadlineMs on =>
    rw [(scanQueue_same w _ _).1] at busy
    rw [scanQueue_consumed,if_neg busy]
  | scannedGlobal cpu deadlineMs on =>
    rw [(scanGlobalQueue_same w _ _).1] at busy
    rw [scanGlobalQueue_busy busy,scanQueue_consumed,if_neg busy]
  | drained => exact absurd rfl busy

/-- Only what happens between the calls moves the clock and the conversion of times. -/
theorem dsqStep_clock (w : World) (e : DsqEvent) :
    (∃ v, e = .others v) ∨
      ((dsqStep w e).dsq.jiffies = w.dsq.jiffies ∧ (dsqStep w e).msecsToJiffies = w.msecsToJiffies ∧ ticks w e = 0) := by
  rcases dsqStep_rest w e with ⟨t,p,rfl⟩ | ⟨v,rfl⟩ | ⟨rest,jiffies⟩
  · exact Or.inr ⟨rfl,rfl,rfl⟩
  · exact Or.inl ⟨v,rfl⟩
  · cases e with
    | others v => exact Or.inl ⟨v,rfl⟩
    | _ => exact Or.inr ⟨jiffies,by rw [rest],rfl⟩

/-- Who is on a queue after a step was there before, or has just been enqueued. -/
theorem dsqStep_mem (linked : Linked w) (e : DsqEvent) (r : DsqRef) {u : ℕ}
    (queued : u ∈ ((dsqStep w e).dsq.queue r).fifo) : enqueued w e u = true ∨ u ∈ (w.dsq.queue r).fifo := by
  rcases dsqStep_cases w e with same | ⟨t,cpu,lts,rfl,present,off,_,appended⟩ | ⟨t,lts,rfl,_,_,_,_,taken⟩ | ⟨rfl,off⟩
  · exact Or.inr (by rwa [same.fifo] at queued)
  · rw [appended] at queued
    rcases (mem_dsqEnqueue _ lts (nowhere_of_off linked present off) r u).mp queued with ⟨rfl,_⟩ | ⟨_,there⟩
    · exact Or.inl ((enqueued_append present off appended u).mpr rfl)
    · exact Or.inr there
  · rw [taken,(dsqDequeue_queue r).1] at queued
    exact Or.inr (List.mem_of_mem_erase queued)
  · rw [dsqStep,sync_queue off] at queued
    split_ifs at queued
    · cases queued
    · exact Or.inr queued

end

/-- `time_after` compares how long ago a queue's clock was set with the deadline. -/
theorem timeAfter_iff {now last age limit : ℕ} (same : u64 (last + age) = now) (short : limit < 9223372036854775808)
    (near : age ≤ limit + 9223372036854775808) :
    timeAfter now (u64 (last + limit)) = true ↔ limit < age := by
  have ahead : age ≤ limit → u64Sub (u64 (last + limit)) now = limit - age := by
    intro le
    simp only [u64Sub,u64] at same ⊢
    omega
  have behind : limit < age → u64Sub (u64 (last + limit)) now = 18446744073709551616 - (age - limit) := by
    intro lt
    simp only [u64Sub,u64] at same ⊢
    omega
  rw [timeAfter,decide_eq_true_iff]
  rcases Nat.lt_or_ge limit age with lt | le
  · rw [behind lt]
    refine iff_of_true ?_ lt
    simp only [s64,u64]
    split_ifs <;> omega
  · rw [ahead le,s64_of_lt (by omega)]
    exact iff_of_false (by omega) (by omega)

/-- The clock goes on, by as much as passed. -/
theorem age_later {now later last age : ℕ} (same : u64 (last + age) = now) (word : later < 18446744073709551616) :
    u64 (last + (age + u64Sub later now)) = later := by
  simp only [u64Sub,u64] at same ⊢
  omega

/-- The nodes are linked, every queue's clock was set when it became non-empty, and its
    tasks came then or later. -/
structure Timed (s : Waiting) : Prop extends Linked s.world where
  word : s.world.dsq.jiffies < 18446744073709551616
  consumed : ∀ ref, (s.world.dsq.queue ref).fifo ≠ [] → s.since ref ≤ s.elapsed ∧
    (s.world.dsq.queue ref).lastConsumeAt < 18446744073709551616 ∧
    u64 ((s.world.dsq.queue ref).lastConsumeAt + busyFor s ref) = s.world.dsq.jiffies
  waits : ∀ ref, ∀ t ∈ (s.world.dsq.queue ref).fifo, s.since ref ≤ s.enqueuedAt t ∧ s.enqueuedAt t ≤ s.elapsed

theorem waiting_timed {w : World} (empty : Empty w) (word : w.dsq.jiffies < 18446744073709551616) : Timed (waiting w) := by
  refine ⟨(empty_linked empty).1,word,?_,?_⟩
  · intro ref busy
    exact absurd (empty.1 ref).1 busy
  · intro ref t queued
    simp only [waiting,(empty.1 ref).1] at queued
    cases queued

section
variable {s : Waiting} {e : DsqEvent}

theorem Timed.busyFor_le (timed : Timed s) {ref : DsqRef} {t : ℕ} (queued : t ∈ (s.world.dsq.queue ref).fifo) :
    waited s t ≤ busyFor s ref := by
  obtain ⟨came,_⟩ := timed.waits ref t queued
  unfold waited busyFor
  omega

/-- A queue that is non-empty after a step became so now, or was so before. -/
theorem since_cases (timed : Timed s) (e : DsqEvent) (ref : DsqRef)
    (busy : ((dsqStep s.world e).dsq.queue ref).fifo ≠ []) :
    ((s.world.dsq.queue ref).fifo = [] ∧ (waitStep s e).since ref = s.elapsed ∧
      ((dsqStep s.world e).dsq.queue ref).lastConsumeAt = s.world.dsq.jiffies) ∨
    ((s.world.dsq.queue ref).fifo ≠ [] ∧ (waitStep s e).since ref = s.since ref ∧ s.since ref ≤ s.elapsed ∧
      ((dsqStep s.world e).dsq.queue ref).lastConsumeAt = (s.world.dsq.queue ref).lastConsumeAt) := by
  have clock := dsqStep_consumed s.world e ref busy
  by_cases empty : (s.world.dsq.queue ref).fifo = []
  · rw [if_pos empty] at clock
    exact Or.inl ⟨empty,if_pos ⟨empty,busy⟩,clock⟩
  · rw [if_neg empty] at clock
    exact Or.inr ⟨empty,if_neg (fun both => empty both.1),(timed.consumed ref empty).1,clock⟩

theorem waitStep_elapsed (s : Waiting) (e : DsqEvent) : s.elapsed ≤ (waitStep s e).elapsed := Nat.le_add_right _ _

/-- The clock of the machine goes on by the ticks of the step. -/
theorem dsqStep_ticks (word : Word e) {last age : ℕ} (same : u64 (last + age) = s.world.dsq.jiffies) :
    u64 (last + (age + ticks s.world e)) = (dsqStep s.world e).dsq.jiffies := by
  rcases dsqStep_clock s.world e with ⟨v,rfl⟩ | ⟨jiffies,_,none⟩
  · exact age_later same word
  · rw [jiffies,none]
    exact same

theorem dsqStep_word (timed : Timed s) (word : Word e) : (dsqStep s.world e).dsq.jiffies < 18446744073709551616 := by
  rcases dsqStep_clock s.world e with ⟨v,rfl⟩ | ⟨jiffies,_,_⟩
  · exact word
  · rw [jiffies]
    exact timed.word

/-- A queue that is non-empty after a step has been so for as long as its clock says. -/
theorem waitStep_consumed (timed : Timed s) (word : Word e) (ref : DsqRef)
    (busy : ((dsqStep s.world e).dsq.queue ref).fifo ≠ []) :
    (waitStep s e).since ref ≤ s.elapsed ∧
    ((dsqStep s.world e).dsq.queue ref).lastConsumeAt < 18446744073709551616 ∧
    u64 (((dsqStep s.world e).dsq.queue ref).lastConsumeAt + busyFor (waitStep s e) ref) =
      (dsqStep s.world e).dsq.jiffies := by
  have grown : busyFor (waitStep s e) ref = s.elapsed + ticks s.world e - (waitStep s e).since ref := rfl
  rcases since_cases timed e ref busy with ⟨_,since,set⟩ | ⟨there,since,started,kept⟩
  · have now : u64 (s.world.dsq.jiffies + 0) = s.world.dsq.jiffies := u64_of_lt timed.word
    have none : busyFor (waitStep s e) ref = 0 + ticks s.world e := by
      rw [grown,since]
      omega
    rw [set,none]
    exact ⟨since.le,timed.word,dsqStep_ticks word now⟩
  · obtain ⟨_,last,age⟩ := timed.consumed ref there
    have more : busyFor (waitStep s e) ref = busyFor s ref + ticks s.world e := by
      rw [grown,since,busyFor]
      omega
    rw [kept,more,since]
    exact ⟨started,last,dsqStep_ticks word age⟩

/-- A task that is on a queue after a step came since the queue became non-empty. -/
theorem waitStep_waits (timed : Timed s) (e : DsqEvent) (ref : DsqRef) (t : ℕ)
    (queued : t ∈ ((dsqStep s.world e).dsq.queue ref).fifo) :
    (waitStep s e).since ref ≤ (waitStep s e).enqueuedAt t ∧ (waitStep s e).enqueuedAt t ≤ s.elapsed := by
  have cases := since_cases timed e ref (List.ne_nil_of_mem queued)
  by_cases fresh : enqueued s.world e t = true
  · have now : (waitStep s e).enqueuedAt t = s.elapsed := if_pos fresh
    rw [now]
    rcases cases with ⟨_,since,_⟩ | ⟨_,since,started,_⟩
    · exact ⟨since.le,le_rfl⟩
    · rw [since]
      exact ⟨started,le_rfl⟩
  · have kept : (waitStep s e).enqueuedAt t = s.enqueuedAt t := if_neg fresh
    have before := (dsqStep_mem timed.toLinked e ref queued).resolve_left fresh
    obtain ⟨came,past⟩ := timed.waits ref t before
    rw [kept]
    rcases cases with ⟨empty,_,_⟩ | ⟨_,since,_,_⟩
    · rw [empty] at before
      nomatch before
    · rw [since]
      exact ⟨came,past⟩

theorem waitStep_timed (timed : Timed s) (word : Word e) : Timed (waitStep s e) where
  toLinked := dsqStep_linked timed.toLinked e
  word := dsqStep_word timed word
  consumed ref busy := by
    obtain ⟨started,last,age⟩ := waitStep_consumed timed word ref busy
    exact ⟨started.trans (waitStep_elapsed s e),last,age⟩
  waits ref t queued := by
    obtain ⟨came,past⟩ := waitStep_waits timed e ref t queued
    exact ⟨came,past.trans (waitStep_elapsed s e)⟩

end

/-! ### No starvation is missed -/

/-- `jiffies` is a word, and goes on by less than half of its range in the whole run. -/
def HalfRange (s : Waiting) (e : DsqEvent) : Prop := Word e ∧ s.elapsed + ticks s.world e < 9223372036854775808

/-- Every task on a queue was enqueued no earlier than the queue's `last_consume_at`,
    which is no further back than the start of the run. -/
def ConsumedBefore (s : Waiting) : Prop :=
  ∀ ref, ∀ t ∈ (s.world.dsq.queue ref).fifo, s.enqueuedAt t ≤ s.elapsed ∧
    waited s t ≤ u64Sub s.world.dsq.jiffies (s.world.dsq.queue ref).lastConsumeAt ∧
    u64Sub s.world.dsq.jiffies (s.world.dsq.queue ref).lastConsumeAt ≤ s.elapsed

/-- After a scan with the queues switched on, a queue that it looked at and whose head
    waited longer than the deadline is flagged. -/
def FlagsStarved (s : Waiting) : DsqEvent → Prop
  | .scan cpu => s.world.dsq.enable ≠ 0 → ∀ ref, Scanned cpu ref → ∀ t,
      ((waitStep s (.scan cpu)).world.dsq.queue ref).fifo.head? = some t →
      deadline (waitStep s (.scan cpu)).world ref < waited (waitStep s (.scan cpu)) t →
      ((waitStep s (.scan cpu)).world.dsq.queue ref).isTimeout = true
  | _ => True

/-- The age of `last_consume_at` is the time for which the queue has been non-empty. -/
theorem timed_consumedBefore {s : Waiting} (timed : Timed s) (half : s.elapsed < 9223372036854775808) :
    ConsumedBefore s := by
  intro ref t queued
  obtain ⟨_,last,age⟩ := timed.consumed ref (List.ne_nil_of_mem queued)
  have short : busyFor s ref ≤ s.elapsed := Nat.sub_le _ _
  have same : u64Sub s.world.dsq.jiffies (s.world.dsq.queue ref).lastConsumeAt = busyFor s ref := by
    simp only [u64Sub,u64] at age ⊢
    omega
  rw [same]
  exact ⟨(timed.waits ref t queued).2,timed.busyFor_le queued,short⟩

/-- A scan leaves the FIFOs and the deadlines as they are, and takes no time. -/
theorem scan_step (s : Waiting) (cpu : ℕ) (ref : DsqRef) :
    ((waitStep s (.scan cpu)).world.dsq.queue ref).fifo = (s.world.dsq.queue ref).fifo ∧
      deadline (waitStep s (.scan cpu)).world ref = deadline s.world ref ∧
      busyFor (waitStep s (.scan cpu)) ref = busyFor s ref ∧ ∀ t, waited (waitStep s (.scan cpu)) t = waited s t := by
  have fifo := (scan_same s.world cpu).fifo ref
  refine ⟨fifo,?_,?_,fun t => rfl⟩
  · rcases dsqStep_clock s.world (.scan cpu) with ⟨v,same⟩ | ⟨_,conversion,_⟩
    · cases same
    · cases ref with
      | gdsq idx => exact congrFun conversion _
      | pcp c => exact congrFun conversion _
  · have since : (waitStep s (.scan cpu)).since ref = s.since ref := by
      refine if_neg ?_
      rintro ⟨empty,busy⟩
      exact busy (fifo.trans empty)
    rw [busyFor,since]
    rfl

/-- A head that waited longer than the deadline has its queue flagged. -/
theorem flags_starved {s : Waiting} (timed : Timed s) (half : s.elapsed < 9223372036854775808) (e : DsqEvent) :
    FlagsStarved s e := by
  cases e with
  | scan cpu =>
    intro on ref scanned t head late
    obtain ⟨fifo,limit,_,wait⟩ := scan_step s cpu ref
    rw [fifo] at head
    rw [limit,wait] at late
    have queued : t ∈ (s.world.dsq.queue ref).fifo := List.mem_of_head? head
    have busy : (s.world.dsq.queue ref).fifo ≠ [] := List.ne_nil_of_mem queued
    have older : deadline s.world ref < busyFor s ref := late.trans_le (timed.busyFor_le queued)
    have short : busyFor s ref ≤ s.elapsed := Nat.sub_le _ _
    refine (scan_flag on scanned busy).mpr (Or.inr ?_)
    exact (timeAfter_iff (timed.consumed ref busy).2.2 (by omega) (by omega)).mpr older
  | _ => exact trivial

/-- Along every run from empty queues in which `jiffies` covers less than half of its
    range, every task on a queue was enqueued no earlier than the queue's
    `last_consume_at`, and every scan flags the queues whose head waited longer than the
    deadline. -/
theorem no_starvation_missed (w : World) (empty : Empty w) (word : w.dsq.jiffies < 18446744073709551616)
    (run : List DsqEvent) (clock : Along waitStep HalfRange (waiting w) run) :
    Along waitStep (fun s e => ConsumedBefore (waitStep s e) ∧ FlagsStarved s e) (waiting w) run := by
  refine along_invariant (fun s => Timed s ∧ s.elapsed < 9223372036854775808) ?_ ?_
    ⟨waiting_timed empty word,by simp [waiting]⟩ clock
  · exact fun s e held ok => ⟨waitStep_timed held.1 ok.1,ok.2⟩
  · exact fun s e held ok => ⟨timed_consumedBefore (waitStep_timed held.1 ok.1) ok.2,flags_starved held.1 held.2 e⟩

/-- The machine of `World.boot` at another time of `jiffies`. -/
def atJiffies (jiffies : ℕ) : World :=
  { World.boot 1 (fun _ => plainTask) with
    dsq := { (World.boot 1 (fun _ => plainTask)).dsq with jiffies := jiffies } }

/-- Task 1 waits for 17 ticks on queue 8, whose deadline is 16. -/
theorem no_starvation_missed_late :
    Along waitStep (fun s e => ConsumedBefore (waitStep s e) ∧ FlagsStarved s e)
      (waiting (World.boot 1 (fun _ => plainTask))) [.enqueue 1 0,.others (atJiffies 17),.scan 0] := by
  refine no_starvation_missed _ (boot_empty 1 _) (by simp [World.boot]) _ ⟨?_,?_,?_,trivial⟩
  · exact ⟨trivial,by decide +kernel⟩
  · exact ⟨by simp [Word,atJiffies],by decide +kernel⟩
  · exact ⟨trivial,by decide +kernel⟩

/-! ### False alarms -/

/-- `MAX_JIFFY_OFFSET`, the most that `msecs_to_jiffies` returns. -/
def maxJiffyOffset : ℕ := 4611686018427387902

/-- The module is loaded: nothing is queued and nothing timed out. -/
structure Quiet (w : World) : Prop where
  empty : Empty w
  unflagged : ∀ ref, (w.dsq.queue ref).isTimeout = false
  word : w.dsq.jiffies < 18446744073709551616
  bounded : ∀ idx, lseDsqNonPeriodStart ≤ idx → idx < lseDsqNonPeriodEnd → deadline w (.gdsq idx) ≤ maxJiffyOffset

/-- A dequeue finds its task on the queue that it is classified for, as it was when it
    was enqueued, `jiffies` is a word, and `msecs_to_jiffies` is the same function throughout. -/
def Steady (s : Waiting) (e : DsqEvent) : Prop :=
  Remembered s.world e ∧ Word e ∧
    match e with
    | .others v => v.msecsToJiffies = s.world.msecsToJiffies
    | _ => True

/-- After a scan, a flagged global queue that is not a period queue has a head that
    waited longer than the deadline. -/
def AlarmsTrue (s : Waiting) : DsqEvent → Prop
  | .scan cpu => ∀ idx, lseDsqNonPeriodStart ≤ idx → idx < lseDsqNonPeriodEnd →
      ((waitStep s (.scan cpu)).world.dsq.queue (.gdsq idx)).isTimeout = true →
      ∃ t, ((waitStep s (.scan cpu)).world.dsq.queue (.gdsq idx)).fifo.head? = some t ∧
        deadline (waitStep s (.scan cpu)).world (.gdsq idx) < waited (waitStep s (.scan cpu)) t
  | _ => True

/-- A scan that may flag such a queue, or finds it flagged, when it has been non-empty
    for longer than its deadline, finds a head that waited longer than that as well. -/
def HeadsOverdue (s : Waiting) : DsqEvent → Prop
  | .scan _ => ∀ idx, lseDsqNonPeriodStart ≤ idx → idx < lseDsqNonPeriodEnd →
      ∀ t, (s.world.dsq.queue (.gdsq idx)).fifo.head? = some t →
      deadline s.world (.gdsq idx) < busyFor s (.gdsq idx) →
      s.world.dsq.enable ≠ 0 ∨ (s.world.dsq.queue (.gdsq idx)).isTimeout = true →
      deadline s.world (.gdsq idx) < waited s t
  | _ => True

/-- No empty queue is flagged, and a flagged queue has been non-empty for longer than
    its deadline. -/
structure Honest (s : Waiting) : Prop extends Timed s where
  bounded : ∀ idx, lseDsqNonPeriodStart ≤ idx → idx < lseDsqNonPeriodEnd →
    deadline s.world (.gdsq idx) ≤ maxJiffyOffset
  idle : ∀ ref, (s.world.dsq.queue ref).fifo = [] → (s.world.dsq.queue ref).isTimeout = false
  late : ∀ idx, lseDsqNonPeriodStart ≤ idx → idx < lseDsqNonPeriodEnd →
    (s.world.dsq.queue (.gdsq idx)).isTimeout = true → deadline s.world (.gdsq idx) < busyFor s (.gdsq idx)

theorem waiting_honest {w : World} (quiet : Quiet w) : Honest (waiting w) := by
  refine ⟨waiting_timed quiet.empty quiet.word,quiet.bounded,fun ref _ => quiet.unflagged ref,?_⟩
  intro idx _ _ flagged
  rw [waiting,quiet.unflagged] at flagged
  cases flagged

section
variable {w : World} {e : DsqEvent}

theorem clearTimeout_idle (q : LseDispatchQ) (empty : q.fifo = []) : (clearTimeout w q).isTimeout = false := by
  unfold clearTimeout
  split_ifs with flagged
  · rfl
  · simpa using fun on => flagged ⟨empty,on⟩

/-- When dequeues count down the queue that their task is on, no queue is flagged
    when it becomes empty. -/
theorem dsqStep_idle (linked : Linked w) (remembered : Remembered w e)
    (idle : ∀ ref, (w.dsq.queue ref).fifo = [] → (w.dsq.queue ref).isTimeout = false) (r : DsqRef)
    (empty : ((dsqStep w e).dsq.queue r).fifo = []) : ((dsqStep w e).dsq.queue r).isTimeout = false := by
  have moved := dsqStep_moved w e r
  generalize (dsqStep w e).dsq.queue r = q at moved empty ⊢
  cases moved with
  | same => exact idle r empty
  | appended t cpu => exact absurd empty (by simp)
  | counted t nr =>
    rw [(clearTimeout_same w _).1] at empty
    exact clearTimeout_idle _ empty
  | unlinked t home away =>
    have elsewhere : t ∉ (w.dsq.queue r).fifo := fun there => away (linked.one r _ t there (home remembered))
    refine idle r ?_
    rwa [List.erase_of_not_mem elsewhere] at empty
  | scanned cpu deadlineMs on =>
    rw [(scanQueue_same w _ _).1] at empty
    rw [scanQueue,if_neg (fun busy => busy.1 empty)]
    exact idle r empty
  | scannedGlobal cpu deadlineMs on =>
    rw [(scanGlobalQueue_same w _ _).1] at empty
    exact clearTimeout_idle _ ((scanQueue_same w _ _).1.trans empty)
  | drained => rfl

/-- Only a scan flags a queue. -/
theorem dsqStep_flag (w : World) (e : DsqEvent) (r : DsqRef) (flagged : ((dsqStep w e).dsq.queue r).isTimeout = true) :
    (w.dsq.queue r).isTimeout = true ∨ ∃ cpu, e = .scan cpu ∧ w.dsq.enable ≠ 0 := by
  have moved := dsqStep_moved w e r
  generalize (dsqStep w e).dsq.queue r = q at moved flagged
  cases moved with
  | same => exact Or.inl flagged
  | appended t cpu => exact Or.inl flagged
  | counted t nr =>
    unfold clearTimeout at flagged
    split_ifs at flagged
    exact Or.inl flagged
  | unlinked t home away => exact Or.inl flagged
  | scanned cpu deadlineMs on => exact Or.inr ⟨cpu,rfl,on⟩
  | scannedGlobal cpu deadlineMs on => exact Or.inr ⟨cpu,rfl,on⟩
  | drained => cases flagged

end

section
variable {s : Waiting} {e : DsqEvent}

/-- A scan flags a queue only when it has been non-empty for longer than its deadline. -/
theorem scan_late (honest : Honest s) {cpu idx : ℕ} (low : lseDsqNonPeriodStart ≤ idx) (high : idx < lseDsqNonPeriodEnd)
    (on : s.world.dsq.enable ≠ 0) (busy : (s.world.dsq.queue (.gdsq idx)).fifo ≠ [])
    (flagged : ((lseDsqScanTimeout s.world cpu).dsq.queue (.gdsq idx)).isTimeout = true) :
    deadline s.world (.gdsq idx) < busyFor s (.gdsq idx) := by
  have scanned : Scanned cpu (.gdsq idx) := ⟨low,high⟩
  rcases (scan_flag on scanned busy).mp flagged with before | after
  · exact honest.late idx low high before
  · by_contra young
    have bounded : deadline s.world (.gdsq idx) ≤ 4611686018427387902 := honest.bounded idx low high
    exact young ((timeAfter_iff (honest.consumed _ busy).2.2 (by omega) (by omega)).mp after)

theorem waitStep_honest (honest : Honest s) (steady : Steady s e) : Honest (waitStep s e) := by
  obtain ⟨remembered,word,conversion⟩ := steady
  have timed := waitStep_timed honest.toTimed word
  have idle := dsqStep_idle honest.toLinked remembered honest.idle
  have limit : ∀ idx, deadline (waitStep s e).world (.gdsq idx) = deadline s.world (.gdsq idx) := by
    intro idx
    rcases dsqStep_clock s.world e with ⟨v,rfl⟩ | ⟨_,same,_⟩
    · exact congrFun conversion _
    · exact congrFun same _
  refine ⟨timed,fun idx low high => by rw [limit]; exact honest.bounded idx low high,idle,?_⟩
  intro idx low high flagged
  have busy : ((dsqStep s.world e).dsq.queue (.gdsq idx)).fifo ≠ [] := by
    intro empty
    rw [waitStep,idle _ empty] at flagged
    cases flagged
  have late : deadline s.world (.gdsq idx) < busyFor s (.gdsq idx) := by
    rcases dsqStep_flag s.world e _ flagged with before | ⟨cpu,rfl,on⟩
    · exact honest.late idx low high before
    · refine scan_late honest low high on ?_ flagged
      rwa [dsqStep,(scan_same s.world cpu).fifo] at busy
  rw [limit]
  rcases since_cases honest.toTimed e _ busy with ⟨empty,_,_⟩ | ⟨_,since,_,_⟩
  · rcases dsqStep_flag s.world e _ flagged with before | ⟨cpu,rfl,_⟩
    · rw [honest.idle _ empty] at before
      cases before
    · rw [dsqStep,(scan_same s.world cpu).fifo] at busy
      exact absurd empty busy
  · have older : busyFor s (.gdsq idx) ≤ busyFor (waitStep s e) (.gdsq idx) := by
      simp only [busyFor,since]
      exact Nat.sub_le_sub_right (Nat.le_add_right _ _) _
    exact late.trans_le older

/-- What is flagged after a scan is not empty and has been so for longer than its deadline. -/
theorem overdue_true (honest : Honest s) (steady : Steady s e) (heads : HeadsOverdue s e) : AlarmsTrue s e := by
  cases e with
  | scan cpu =>
    intro idx low high flagged
    obtain ⟨fifo,limit,age,wait⟩ := scan_step s cpu (.gdsq idx)
    have after := waitStep_honest honest steady
    have late : deadline s.world (.gdsq idx) < busyFor s (.gdsq idx) := by
      have later := after.late idx low high flagged
      rwa [limit,age] at later
    cases queue : (s.world.dsq.queue (.gdsq idx)).fifo with
    | nil =>
      rw [after.idle _ (fifo.trans queue)] at flagged
      cases flagged
    | cons t rest =>
      refine ⟨t,by rw [fifo,queue]; rfl,?_⟩
      rw [limit,wait]
      refine heads idx low high t (by rw [queue]; rfl) late ?_
      by_cases off : s.world.dsq.enable = 0
      · rw [waitStep,dsqStep,lseDsqScanTimeout,if_pos off] at flagged
        exact Or.inr flagged
      · exact Or.inl off
  | _ => exact trivial

/-- Within half the range of `jiffies` every queue that has been non-empty for longer
    than its deadline is flagged. -/
theorem true_overdue (honest : Honest s) (half : s.elapsed < 9223372036854775808) (alarms : AlarmsTrue s e) :
    HeadsOverdue s e := by
  cases e with
  | scan cpu =>
    intro idx low high t head late may
    obtain ⟨fifo,limit,_,wait⟩ := scan_step s cpu (.gdsq idx)
    have busy : (s.world.dsq.queue (.gdsq idx)).fifo ≠ [] := List.ne_nil_of_mem (List.mem_of_head? head)
    have flagged : ((lseDsqScanTimeout s.world cpu).dsq.queue (.gdsq idx)).isTimeout = true := by
      by_cases off : s.world.dsq.enable = 0
      · rw [lseDsqScanTimeout,if_pos off]
        exact may.resolve_left (fun on => on off)
      · have short : busyFor s (.gdsq idx) ≤ s.elapsed := Nat.sub_le _ _
        have scanned : Scanned cpu (.gdsq idx) := ⟨low,high⟩
        refine (scan_flag off scanned busy).mpr (Or.inr ?_)
        exact (timeAfter_iff (honest.consumed _ busy).2.2 (by omega) (by omega)).mpr late
    obtain ⟨u,first,older⟩ := alarms idx low high flagged
    rw [fifo,head,Option.some.injEq] at first
    rwa [limit,wait,← first] at older
  | _ => exact trivial

end

/-- Along every run in which no task's classification changes while it is queued, every
    alarm is true when the heads of overdue queues are overdue themselves; and while
    `jiffies` covers less than half of its range, only then. -/
theorem alarms_true (w : World) (quiet : Quiet w) (run : List DsqEvent) (steady : Along waitStep Steady (waiting w) run) :
    (Along waitStep HeadsOverdue (waiting w) run → Along waitStep AlarmsTrue (waiting w) run) ∧
      (Along waitStep HalfRange (waiting w) run →
        Along waitStep AlarmsTrue (waiting w) run → Along waitStep HeadsOverdue (waiting w) run) := by
  constructor
  · intro heads
    have both : Along waitStep (fun s e => Steady s e ∧ HeadsOverdue s e) (waiting w) run := along_and.mpr ⟨steady,heads⟩
    refine along_invariant Honest ?_ ?_ (waiting_honest quiet) both
    · exact fun s e honest ok => waitStep_honest honest ok.1
    · exact fun s e honest ok => overdue_true honest ok.1 ok.2
  · intro half alarms
    have all : Along waitStep (fun s e => (Steady s e ∧ HalfRange s e) ∧ AlarmsTrue s e) (waiting w) run :=
      along_and.mpr ⟨along_and.mpr ⟨steady,half⟩,alarms⟩
    refine along_invariant (fun s => Honest s ∧ s.elapsed < 9223372036854775808) ?_ ?_
      ⟨waiting_honest quiet,by simp [waiting]⟩ all
    · exact fun s e held ok => ⟨waitStep_honest held.1 ok.1.1,ok.1.2.2⟩
    · exact fun s e held ok => true_overdue held.1 held.2 ok.2

theorem boot_quiet : Quiet (World.boot 1 (fun _ => plainTask)) := by
  refine ⟨boot_empty 1 _,fun _ => rfl,by simp [World.boot],?_⟩
  intro idx low high
  simp only [lseDsqNonPeriodStart,lseDsqNonPeriodEnd] at low high
  interval_cases idx <;> decide +kernel

/-- Task 1 is consumed after 11 ticks, and task 2, which came at tick 10, is at the head
    of queue 8 when a scan at tick 20 finds that the queue is older than its deadline of 16. -/
def consumedRun : List DsqEvent :=
  [.enqueue 1 0,.others (atJiffies 10),.enqueue 2 0,.others (atJiffies 11),.dequeue 1,.others (atJiffies 20),.scan 0]

/-- Time that passes is steady. -/
theorem passes_steady (s : Waiting) {jiffies : ℕ} (word : jiffies < 18446744073709551616)
    (boot : s.world.msecsToJiffies = (World.boot 1 (fun _ => plainTask)).msecsToJiffies) :
    Steady s (.others (atJiffies jiffies)) := ⟨trivial,word,boot.symm⟩

/-- Queue 8 is flagged for a task that has waited for 10 ticks of 16. -/
theorem alarm_false :
    Quiet (World.boot 1 (fun _ => plainTask)) ∧
      Along waitStep Steady (waiting (World.boot 1 (fun _ => plainTask))) consumedRun ∧
      ¬ Along waitStep AlarmsTrue (waiting (World.boot 1 (fun _ => plainTask))) consumedRun := by
  refine ⟨boot_quiet,⟨?_,passes_steady _ (by decide) rfl,?_,passes_steady _ (by decide) rfl,?_,
    passes_steady _ (by decide) rfl,?_,trivial⟩,?_⟩
  · exact ⟨trivial,trivial,trivial⟩
  · exact ⟨trivial,trivial,trivial⟩
  · refine ⟨?_,trivial,trivial⟩
    intro _ _ _
    decide +kernel
  · exact ⟨trivial,trivial,trivial⟩
  · rintro ⟨_,_,_,_,_,_,alarms,_⟩
    obtain ⟨t,head,late⟩ := alarms 8 (by decide) (by decide) (by decide +kernel)
    have second : t = 2 := Option.some.inj (head.symm.trans (by decide +kernel))
    subst second
    exact absurd late (by decide +kernel)

/-- Task 1 has waited for 17 ticks at the head of queue 8. -/
theorem alarms_true_late :
    Along waitStep AlarmsTrue (waiting (World.boot 1 (fun _ => plainTask)))
      [.enqueue 1 0,.others (atJiffies 17),.scan 0] := by
  have steady : Along waitStep Steady (waiting (World.boot 1 (fun _ => plainTask)))
      [.enqueue 1 0,.others (atJiffies 17),.scan 0] :=
    ⟨⟨trivial,trivial,trivial⟩,passes_steady _ (by decide) rfl,⟨trivial,trivial,trivial⟩,trivial⟩
  refine (alarms_true _ boot_quiet _ steady).1 ⟨trivial,trivial,?_,trivial⟩
  intro idx low high t head late _
  simp only [lseDsqNonPeriodStart,lseDsqNonPeriodEnd] at low high
  interval_cases idx
  · cases head
  · cases head
  · cases head
  · have first : t = 1 := Option.some.inj (head.symm.trans (by decide +kernel))
    subst first
    decide +kernel
  · cases head

end LunarSched.Starvation
