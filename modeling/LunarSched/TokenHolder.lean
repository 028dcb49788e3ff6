import LunarSched.WindowChange

/-!
The rollover token when every CPU has a clock of its own and the window size may
change. A CPU whose clock is behind its window only has its clock set; any other one
moves its window up to the wallclock. The exchange succeeds only on a CPU whose old
window start is the token, and then that CPU takes the token along; a CPU that loses
does not hold the token. So the token is always the window start of some CPU, and
the values written to it increase (`token_held`).
-/
namespace LunarSched.TokenHolder
open LunarSched.Machine LunarSched.Kernel LunarSched.UtilTrack LunarSched.Hooks LunarSched.Accounts LunarSched.Rollover
open LunarSched.WindowChange LunarSched.Runs

/-- The machine in a run, with the last wallclock of each CPU. -/
structure Seen where
  world : World
  clock : ℕ → ℕ

def tokenStep (s : Seen) (e : WindowEvent) : Seen where
  world := e.run s.world
  clock := match e.observed s.world with
    | none => s.clock
    | some (cpu,wallclock) => Function.update s.clock cpu wallclock

/-- The wallclock does not go back on its CPU, and is fewer than 2³¹ windows away from
    the start of the CPU's window, if it has one. -/
def Near (s : Seen) (cpu wallclock : ℕ) : Prop :=
  s.clock cpu ≤ wallclock ∧ wallclock < 18446744073709551616 ∧
    ((s.world.lrq cpu).windowStart ≠ 0 →
      wallclock < (s.world.lrq cpu).windowStart + 2147483648 * s.world.track.ravgWindow ∧
        (s.world.lrq cpu).windowStart < wallclock + 2147483648 * s.world.track.ravgWindow)

instance (s : Seen) (cpu wallclock : ℕ) : Decidable (Near s cpu wallclock) :=
  inferInstanceAs (Decidable (_ ∧ _ ∧ (_ → _)))

/-- Events come in time, and the sizes that are requested are positive. -/
def Admitted (s : Seen) (e : WindowEvent) : Prop :=
  (∀ place ∈ e.observed s.world, Near s place.1 place.2) ∧
    match e with
    | .request framePerSec => 0 < (schedRavgWindowChange s.world framePerSec).track.newRavgWindow
    | _ => True

instance (s : Seen) : (e : WindowEvent) → Decidable (Admitted s e)
  | .request _ => inferInstanceAs (Decidable (_ ∧ 0 < _))
  | .ravg .. | .irqWork .. | .around _ => inferInstanceAs (Decidable (_ ∧ True))

/-- The seeded machine: no CPU has had an event. -/
def tokenStart (w : World) (clock : ℕ) : Seen := ⟨lseSchedulerTick w clock,fun _ => 0⟩

/-- The values written to the token, newest first: those of the exchanges that
    succeeded, each of which queued the `irq_work`, and the one of the seeding tick. -/
def written (w : World) : List ℕ := w.track.rollovers ++ [w.track.tickSchedClock]

/-- The token is the last value written, and the window start of some CPU; the values
    written increase. -/
structure TokenHeld (w : World) : Prop where
  last : (written w).head? = some w.track.rolloverLastqWs
  increasing : (written w).Pairwise (fun later earlier => earlier < later)
  holder : ∃ cpu, w.possible cpu = true ∧ (w.lrq cpu).windowStart = w.track.rolloverLastqWs

/-- The clocks of a run: a CPU's clock is the last wallclock there or the start of
    its window. -/
structure Clocks (s : Seen) : Prop where
  positive : 0 < s.world.track.ravgWindow
  word : s.world.track.ravgWindow < 4294967296
  requested : 0 < s.world.track.newRavgWindow ∧ s.world.track.newRavgWindow < 4294967296
  seeded : ∀ cpu, (s.world.lrq cpu).windowStart ≠ 0 → s.world.possible cpu = true
  small : ∀ cpu, (s.world.lrq cpu).windowStart < 18446744073709551616
  latest : ∀ cpu, (s.world.lrq cpu).latestClock ≤ max (s.clock cpu) (s.world.lrq cpu).windowStart

section
variable {s : Seen} {cpu wallclock : ℕ}

/-- An update of the window moves it forward by whole windows or not at all. -/
theorem updateWindowStart_near (clocks : Clocks s) (near : Near s cpu wallclock)
    (seeded : (s.world.lrq cpu).windowStart ≠ 0) :
    let lrq := (updateWindowStart s.world.track (s.world.lrq cpu) wallclock).2.1
    (s.world.lrq cpu).windowStart ≤ lrq.windowStart ∧ lrq.windowStart < 18446744073709551616 ∧
      lrq.latestClock ≤ max wallclock lrq.windowStart := by
  obtain ⟨later,small,gap⟩ := near
  obtain ⟨gap,distance⟩ := gap seeded
  have latest := clocks.latest cpu
  have word := clocks.word
  by_cases early : wallclock < (s.world.lrq cpu).windowStart
  · have kept := updateWindowStart_early (g := s.world.track) clocks.positive early (by omega) (clocks.small cpu) (by omega)
    rw [kept]
    exact ⟨le_rfl,clocks.small cpu,le_max_right _ _⟩
  · have forward : Forward s.world.track.ravgWindow (s.world.lrq cpu) wallclock :=
      ⟨clocks.positive,clocks.word,by omega,by omega,small,gap⟩
    have inside := (advance_contains forward).1
    rw [updateWindowStart_forward forward]
    exact ⟨le_advance,inside.trans_lt small,by rw [advance_latestClock]; exact le_max_left _ _⟩

/-- A call leaves windows and token alone, or stores a new record of its CPU and offers
    the old window start to the token. -/
theorem call_cases (w : World) (t cpu : ℕ) (event : TaskEvent) (wallclock : ℕ) :
    ((updateIfTracked w t cpu event wallclock).track = w.track ∧ (updateIfTracked w t cpu event wallclock).lrq = w.lrq) ∨
    ((w.lrq cpu).windowStart ≠ 0 ∧ ∃ lrq bugs,
      lrq.windowStart = (updateWindowStart w.track (w.lrq cpu) wallclock).2.1.windowStart ∧
      lrq.latestClock = (updateWindowStart w.track (w.lrq cpu) wallclock).2.1.latestClock ∧
      (updateIfTracked w t cpu event wallclock).lrq = Function.update w.lrq cpu lrq ∧
      (updateIfTracked w t cpu event wallclock).track =
        lseWindowRolloverRunOnce { w.track with bugs := bugs } (w.lrq cpu).windowStart lrq) := by
  cases present : w.lts t with
  | none => exact Or.inl ⟨by simp [updateIfTracked,present],by simp [updateIfTracked,present]⟩
  | some lts =>
    have call : updateIfTracked w t cpu event wallclock = lseUpdateTaskRavg w lts t cpu event wallclock := by
      simp [updateIfTracked,present]
    by_cases skipped : Skipped w lts cpu wallclock
    · obtain ⟨records,same⟩ := lseUpdateTaskRavg_skipped t event skipped
      exact Or.inl ⟨by rw [call,same],by rw [call,same]⟩
    · obtain ⟨start,latest,old⟩ := ravgUpdate_lrq w (lseRefreshTaskHint w.track lts (w.task t)) t cpu event wallclock
      let update := ravgUpdate w (lseRefreshTaskHint w.track lts (w.task t)) t cpu event wallclock
      refine Or.inr ⟨fun zero => skipped (Or.inr (Or.inl zero)),update.2.1,update.2.2.2 ++ w.track.bugs,start,latest,?_,?_⟩
      · rw [call,lseUpdateTaskRavg_taken t event skipped]
      · rw [call,lseUpdateTaskRavg_taken t event skipped,old]

/-- A call keeps the clocks: only the CPU's own record is changed. -/
theorem call_clocks (clocks : Clocks s) (near : Near s cpu wallclock) (t : ℕ) (event : TaskEvent) :
    Clocks ⟨updateIfTracked s.world t cpu event wallclock,Function.update s.clock cpu wallclock⟩ := by
  have fixed : (updateIfTracked s.world t cpu event wallclock).possible = s.world.possible ∧
      SameWindows s.world.track (updateIfTracked s.world t cpu event wallclock).track := by
    rcases updateIfTracked_cases s.world t cpu event wallclock with same | ⟨_,_,_,effect⟩
    · rw [same]
      exact ⟨rfl,SameWindows.refl _⟩
    · exact ⟨effect.possible,effect.windows⟩
  obtain ⟨possible,⟨_,size,requested,_⟩⟩ := fixed
  have records : ∀ other, let lrq := (updateIfTracked s.world t cpu event wallclock).lrq other
      (lrq.windowStart ≠ 0 → (s.world.lrq other).windowStart ≠ 0) ∧ lrq.windowStart < 18446744073709551616 ∧
        lrq.latestClock ≤ max (Function.update s.clock cpu wallclock other) lrq.windowStart := by
    intro other
    have before := clocks.latest other
    have small := clocks.small other
    have onward : s.clock other ≤ Function.update s.clock cpu wallclock other := by
      by_cases same : other = cpu
      · subst same
        simpa using near.1
      · simp [same]
    have kept : (s.world.lrq other).latestClock ≤ max (Function.update s.clock cpu wallclock other)
        (s.world.lrq other).windowStart := by
      omega
    rcases call_cases s.world t cpu event wallclock with ⟨_,lrq⟩ | ⟨seeded,lrq,_,start,latest,lrqs,_⟩
    · rw [lrq]
      exact ⟨id,small,kept⟩
    · rw [lrqs]
      by_cases same : other = cpu
      · subst same
        obtain ⟨_,word,clock⟩ := updateWindowStart_near clocks near seeded
        rw [← start] at word clock
        rw [← latest] at clock
        simp only [Function.update_self]
        exact ⟨fun _ => seeded,word,clock⟩
      · rw [Function.update_of_ne same]
        exact ⟨id,small,kept⟩
  refine ⟨size ▸ clocks.positive,size ▸ clocks.word,requested ▸ clocks.requested,?_,fun other => (records other).2.1,
    fun other => (records other).2.2⟩
  intro other set
  show (updateIfTracked s.world t cpu event wallclock).possible other = true
  rw [possible]
  exact clocks.seeded other ((records other).1 set)

/-- No value written is past the last one. -/
theorem written_le {w : World} (held : TokenHeld w) : ∀ value ∈ written w, value ≤ w.track.rolloverLastqWs := by
  obtain ⟨older,split⟩ := List.head?_eq_some_iff.mp held.last
  have increasing := held.increasing
  rw [split] at increasing ⊢
  intro value member
  rcases List.mem_cons.mp member with here | earlier
  · exact here.le
  · exact (List.rel_of_pairwise_cons increasing earlier).le

/-- The token stays with its holder while neither it nor the log of its values changes. -/
theorem TokenHeld.stays {w v : World} (held : TokenHeld w) (logged : v.track.rollovers = w.track.rollovers)
    (fixed : v.track.tickSchedClock = w.track.tickSchedClock)
    (token : v.track.rolloverLastqWs = w.track.rolloverLastqWs) (possible : v.possible = w.possible)
    (windows : ∀ cpu, (w.lrq cpu).windowStart = w.track.rolloverLastqWs →
      (v.lrq cpu).windowStart = w.track.rolloverLastqWs) : TokenHeld v := by
  obtain ⟨last,increasing,holder,known,holds⟩ := held
  have same : written v = written w := by rw [written,written,logged,fixed]
  refine ⟨?_,same ▸ increasing,holder,possible ▸ known,?_⟩
  · rw [same,token]
    exact last
  · rw [token]
    exact windows holder holds

/-- The token moves forward to a CPU that starts a later window. -/
theorem TokenHeld.moves {w v : World} (held : TokenHeld w) {cpu : ℕ}
    (logged : v.track.rollovers = v.track.rolloverLastqWs :: w.track.rollovers)
    (fixed : v.track.tickSchedClock = w.track.tickSchedClock)
    (past : w.track.rolloverLastqWs < v.track.rolloverLastqWs) (known : v.possible cpu = true)
    (holds : (v.lrq cpu).windowStart = v.track.rolloverLastqWs) : TokenHeld v := by
  have grown : written v = v.track.rolloverLastqWs :: written w := by
    rw [written,written,logged,fixed]
    rfl
  refine ⟨by rw [grown]; rfl,?_,cpu,known,holds⟩
  rw [grown,List.pairwise_cons]
  exact ⟨fun value member => (written_le held value member).trans_lt past,held.increasing⟩

/-- A call keeps the token with some CPU: it moves only along with a CPU that held it,
    and forward. -/
theorem call_held (clocks : Clocks s) (near : Near s cpu wallclock) (held : TokenHeld s.world) (t : ℕ)
    (event : TaskEvent) : TokenHeld (updateIfTracked s.world t cpu event wallclock) := by
  have possible : (updateIfTracked s.world t cpu event wallclock).possible = s.world.possible := by
    rcases updateIfTracked_cases s.world t cpu event wallclock with same | ⟨_,_,_,effect⟩
    · rw [same]
    · exact effect.possible
  rcases call_cases s.world t cpu event wallclock with ⟨track,lrq⟩ | ⟨seeded,lrq,bugs,start,_,lrqs,track⟩
  · refine held.stays (by rw [track]) (by rw [track]) (by rw [track]) possible ?_
    intro holder holds
    rwa [lrq]
  · have later := (updateWindowStart_near clocks near seeded).1
    rw [← start] at later
    rcases rollover_cases { s.world.track with bugs := bugs } (s.world.lrq cpu).windowStart lrq with
      ⟨moved,token,ran⟩ | ⟨stays,ran⟩
    · have token : s.world.track.rolloverLastqWs = (s.world.lrq cpu).windowStart := token
      rw [ran] at track
      have written : (updateIfTracked s.world t cpu event wallclock).track.rolloverLastqWs = lrq.windowStart := by
        rw [track]
      refine held.moves (by rw [track]) (by rw [track]) ?_ (possible ▸ clocks.seeded cpu seeded) ?_
      · rw [written]
        omega
      · rw [written,lrqs,Function.update_self]
    · rw [ran] at track
      refine held.stays (by rw [track]) (by rw [track]) (by rw [track]) possible ?_
      -- Either the CPU's window stayed, or the token is with another CPU.
      intro holder holds
      rw [lrqs]
      by_cases here : holder = cpu
      · subst here
        rw [Function.update_self]
        rcases stays with unmoved | other
        · exact unmoved.symm.trans holds
        · exact absurd holds.symm other
      · rw [Function.update_of_ne here]
        exact holds

end

/-! ### Runs -/

theorem tokenStep_held {s : Seen} {e : WindowEvent} (clocks : Clocks s) (held : TokenHeld s.world)
    (admitted : Admitted s e) : Clocks (tokenStep s e) ∧ TokenHeld (tokenStep s e).world := by
  obtain ⟨intime,requested⟩ := admitted
  cases e with
  | ravg t cpu event wallclock =>
    have near : Near s cpu wallclock := intime _ rfl
    exact ⟨call_clocks clocks near t event,call_held clocks near held t event⟩
  | irqWork cpu clock =>
    have near : Near s cpu (lseSchedClock s.world clock) := intime _ rfl
    have updated := call_clocks clocks near (s.world.rq cpu).curr .taskUpdate
    have still : TokenHeld (beforeCommit s.world cpu clock) := call_held clocks near held _ .taskUpdate
    show Clocks ⟨lseIrqWork s.world cpu clock,_⟩ ∧ TokenHeld (lseIrqWork s.world cpu clock)
    rcases lseIrqWork_cases s.world cpu clock with ⟨_,same⟩ | ⟨_,changed⟩
    · rw [same]
      exact ⟨updated,still⟩
    · rw [changed]
      obtain ⟨_,_,⟨positive,word⟩,seeded,small,latest⟩ := updated
      obtain ⟨last,increasing,holder⟩ := still
      exact ⟨⟨positive,word,⟨positive,word⟩,seeded,small,latest⟩,⟨last,increasing,holder⟩⟩
  | request framePerSec =>
    obtain ⟨positive,word,_,seeded,small,latest⟩ := clocks
    obtain ⟨last,increasing,holder⟩ := held
    exact ⟨⟨positive,word,⟨requested,u32OfInt_lt _⟩,seeded,small,latest⟩,⟨last,increasing,holder⟩⟩
  | around e =>
    obtain ⟨positive,word,requested,seeded,small,latest⟩ := clocks
    obtain ⟨last,increasing,holder⟩ := held
    exact ⟨⟨positive,word,requested,seeded,small,latest⟩,⟨last,increasing,holder⟩⟩

/-- The seeding tick writes the token and hands it to every CPU. -/
theorem tokenStart_held {w : World} (ready : Seedable w) (quiet : w.track.rollovers = []) {clock : ℕ}
    (late : 20000 ≤ clock) (small : clock < 18446744073709551616) {first : ℕ} (known : w.possible first = true) :
    Clocks (tokenStart w clock) ∧ TokenHeld (tokenStart w clock).world := by
  obtain ⟨behind,_,possible,windows⟩ := lseSchedulerTick_behind ready late small
  have track := (lseSchedulerTick_first ready.on ready.tick late small).1
  have latest : ∀ cpu, ((lseSchedulerTick w clock).lrq cpu).latestClock = 0 := by
    intro cpu
    rw [(lseSchedulerTick_frame w clock).lrq]
    exact (ready.lrq cpu).2
  have values : written (lseSchedulerTick w clock) = [clock - 20000] := by
    simp [written,track,quiet]
  refine ⟨⟨behind.positive,behind.word,behind.requested,?_,fun cpu => (behind.started cpu).trans_lt small,?_⟩,?_,?_,?_⟩
  · intro cpu set
    show (lseSchedulerTick w clock).possible cpu = true
    rw [possible]
    by_contra absent
    exact set ((windows cpu).trans (if_neg absent))
  · intro cpu
    exact (latest cpu).le.trans (Nat.zero_le _)
  · show (written (lseSchedulerTick w clock)).head? = _
    rw [values,List.head?_cons]
    simp [tokenStart,track]
  · show (written (lseSchedulerTick w clock)).Pairwise _
    rw [values]
    exact List.pairwise_singleton _ _
  · refine ⟨first,(congrFun possible first).trans known,?_⟩
    show ((lseSchedulerTick w clock).lrq first).windowStart = (lseSchedulerTick w clock).track.rolloverLastqWs
    rw [windows,if_pos known,track]

/-- After every run from the seeding tick, with any clocks that do not go back on a CPU
    and any changes of the window size, the values written to the token increase, no
    window start queued the `irq_work` twice, and some CPU's window starts at the token. -/
theorem token_held (w : World) (ready : Seedable w) (quiet : w.track.rollovers = []) (clock : ℕ)
    (late : 20000 ≤ clock) (small : clock < 18446744073709551616) (first : ℕ) (known : w.possible first = true)
    (run : List WindowEvent) (admitted : Along tokenStep Admitted (tokenStart w clock) run) :
    TokenHeld (exec tokenStep (tokenStart w clock) run).world ∧
      (exec tokenStep (tokenStart w clock) run).world.track.rollovers.Nodup := by
  have kept := exec_invariant (fun s => Clocks s ∧ TokenHeld s.world)
    (fun s e held ok => tokenStep_held held.1 held.2 ok) (tokenStart_held ready quiet late small known) admitted
  refine ⟨kept.2,?_⟩
  have queued := (List.pairwise_append.mp kept.2.increasing).1
  exact queued.imp (fun earlier => earlier.ne')

/-- CPU 1 crosses into the window of 17000000 from the one of 9000000, with the token, and
    CPU 0 with an older clock of its own follows after the size has changed. -/
theorem token_held_overtaken :
    TokenHeld (exec tokenStep (tokenStart (World.boot 2 (fun _ => plainTask)) 1020000)
        [ownUpdate 0 9100000,ownUpdate 1 9150000,ownUpdate 1 17100000,.request 60,.irqWork 0 9200000,
          ownUpdate 0 12000000,ownUpdate 1 45000000]).world ∧
      (exec tokenStep (tokenStart (World.boot 2 (fun _ => plainTask)) 1020000)
        [ownUpdate 0 9100000,ownUpdate 1 9150000,ownUpdate 1 17100000,.request 60,.irqWork 0 9200000,
          ownUpdate 0 12000000,ownUpdate 1 45000000]).world.track.rollovers.Nodup :=
  token_held _ (boot_seedable _ _) rfl 1020000 (by decide) (by decide) 0 (by decide) _ (by decide +kernel)

end LunarSched.TokenHolder
