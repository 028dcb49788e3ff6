import LunarSched.Accounts
import LunarSched.Runs

/-!
The armed flags of the shadow ticks. A flag is set and cleared for the CPU whose run
queue is looked at, but the callback clears that of the CPU it runs on, and a write to
`highres_tick_ctrl` starts every CPU's timer on the CPU that executes the write. Along a
run the flags tell which timers are queued exactly when every timer that expires with a
switch off does so on its own CPU (`armed_truthful_iff`). The schedule hook decides from
`rq->curr`, which is still the previous task: after a switch the timer is armed when the
CPU was busy before it, and so is right exactly for switches between tasks that are not
the idle task (`ticks_when_busy_iff`).
-/
namespace LunarSched.ShadowTimers
open LunarSched.Machine LunarSched.Kernel LunarSched.UtilTrack LunarSched.Dsq LunarSched.ShadowTick LunarSched.Hooks
open LunarSched.Accounts LunarSched.Runs

/-- Neither the shadow ticks nor a run queue nor the switch of the tracker differs. -/
structure SameTicks (w v : World) : Prop where
  shadow : v.shadow = w.shadow
  rq : v.rq = w.rq
  slim : v.track.slimWaltCtrl = w.track.slimWaltCtrl

theorem SameTicks.refl (w : World) : SameTicks w w := ⟨rfl,rfl,rfl⟩

theorem SameTicks.trans {u v w : World} (first : SameTicks u v) (second : SameTicks v w) : SameTicks u w :=
  ⟨second.shadow.trans first.shadow,second.rq.trans first.rq,second.slim.trans first.slim⟩

theorem ite_ticks {w u v : World} {p : Prop} [Decidable p] (yes : SameTicks w u) (no : SameTicks w v) :
    SameTicks w (if p then u else v) := by
  split_ifs
  · exact yes
  · exact no

theorem updateIfTracked_ticks (w : World) (t cpu : ℕ) (event : TaskEvent) (wallclock : ℕ) :
    SameTicks w (updateIfTracked w t cpu event wallclock) := by
  rcases updateIfTracked_outcome w t cpu event wallclock with same | ⟨_,_,_,_,_,stored⟩
  · rw [same]
    exact SameTicks.refl w
  · rw [stored]
    exact ⟨rfl,rfl,rfl⟩

theorem scheduleRavg_ticks (w : World) (cpu prev next clock : ℕ) : SameTicks w (scheduleRavg w cpu prev next clock) := by
  unfold scheduleRavg
  refine ite_ticks ?_ (updateIfTracked_ticks w prev cpu .taskUpdate _)
  exact (updateIfTracked_ticks w prev cpu .putPrevTask _).trans (updateIfTracked_ticks _ next cpu .pickNextTask _)

theorem lseDsqEnqueueTask_ticks (w : World) (t cpu : ℕ) : SameTicks w (lseDsqEnqueueTask w t cpu) := by
  unfold lseDsqEnqueueTask
  refine ite_ticks (SameTicks.refl w) ?_
  cases w.lts t with
  | none => exact SameTicks.refl w
  | some lts =>
    exact ite_ticks (SameTicks.refl w) (ite_ticks (SameTicks.refl w) (ite_ticks ⟨rfl,rfl,rfl⟩ (SameTicks.refl w)))

theorem lseDsqDequeueTask_ticks (w : World) (t : ℕ) : SameTicks w (lseDsqDequeueTask w t) := by
  unfold lseDsqDequeueTask
  refine ite_ticks (SameTicks.refl w) ?_
  cases w.lts t with
  | none => exact SameTicks.refl w
  | some lts => exact ite_ticks (SameTicks.refl w) (ite_ticks (SameTicks.refl w) ⟨rfl,rfl,rfl⟩)

theorem lseDsqOnSchedule_ticks (w : World) (cpu prev next : ℕ) : SameTicks w (lseDsqOnSchedule w cpu prev next) := by
  apply lseDsqOnSchedule_keeps (SameTicks w) cpu prev next (SameTicks.refl w)
  · exact fun v t same => same.trans (lseDsqEnqueueTask_ticks v t cpu)
  · exact fun v t same => same.trans (lseDsqDequeueTask_ticks v t)
  · exact fun v _ same => same.trans (ite_ticks ⟨rfl,rfl,rfl⟩ ⟨rfl,rfl,rfl⟩)

/-- What the update of a CPU's timer does to the timers depends on them and on the run queues only. -/
theorem lseShadowTickUpdateCpu_shadow {w v : World} (same : SameTicks w v) (here cpu : ℕ) :
    (lseShadowTickUpdateCpu v here cpu).shadow = (lseShadowTickUpdateCpu w here cpu).shadow := by
  obtain ⟨shadow,rq,_⟩ := same
  simp only [lseShadowTickUpdateCpu,lseShadowTickStartCpu,lseShadowTickStopCpu,lseShadowTickEnabled,shadow,rq]
  split_ifs <;> simp only [shadow]

/-- The hook updates the timer of its CPU, unless the tracker is switched off. -/
theorem lseSchedule_shadow {w : World} (on : w.track.slimWaltCtrl ≠ 0) (cpu prev next clock : ℕ) :
    (lseSchedule w cpu prev next clock).shadow = (lseShadowTickUpdateCpu w cpu cpu).shadow := by
  rw [lseSchedule,if_neg on]
  exact lseShadowTickUpdateCpu_shadow
    ((scheduleRavg_ticks w cpu prev next clock).trans (lseDsqOnSchedule_ticks _ cpu prev next)) cpu cpu

/-- A CPU's flag is set exactly when its timer is queued. -/
def Truthful (w : World) : Prop := ∀ cpu, w.shadow.armed cpu = true ↔ ∃ here, w.shadow.queuedOn cpu = some here

/-- No timer is armed, as `lse_shadow_tick_init` leaves them. -/
def Unarmed (w : World) : Prop := ∀ cpu, w.shadow.armed cpu = false ∧ w.shadow.queuedOn cpu = none

/-- What drives the timers: the schedule hook, a sync and a write to `highres_tick_ctrl`
    on a CPU `here`, a timer that expires, and the writes to `slim_walt_ctrl`. In `others`
    everything else changes, taken from another state. -/
inductive TimerEvent where
  | schedule (cpu next clock : ℕ)
  | syncAll (here : ℕ)
  | expire (timer clock : ℕ)
  | highresTickCtrl (here val : ℕ)
  | slimWaltCtrl (val : ℤ)
  | others (e : World)

/-- A timer expires on the CPU where it is queued, if it is. -/
def expire (w : World) (timer clock : ℕ) : World :=
  match w.shadow.queuedOn timer with
  | none => w
  | some cpu => lseShadowTickCb w timer cpu clock

def timerStep (w : World) : TimerEvent → World
  | .schedule cpu next clock => switchTo (lseSchedule w cpu (w.rq cpu).curr next clock) cpu next
  | .syncAll here => lseShadowTickSyncAll w here
  | .expire timer clock => expire w timer clock
  | .highresTickCtrl here val => lseProcShadowTickUpdate w here val
  | .slimWaltCtrl val => { w with track := { w.track with slimWaltCtrl := val } }
  | .others e => { e with shadow := w.shadow, track := { e.track with slimWaltCtrl := w.track.slimWaltCtrl } }

/-- A timer that expires while a switch is off is queued on its own CPU. -/
def AtHome (w : World) : TimerEvent → Prop
  | .expire timer _ =>
    lseShadowTickEnabled w = false ∨ w.track.slimWaltCtrl = 0 → ∀ cpu ∈ w.shadow.queuedOn timer, cpu = timer
  | _ => True

section
variable {w v : World}

theorem truthful_congr (same : v.shadow = w.shadow) : Truthful v ↔ Truthful w := by
  unfold Truthful
  rw [same]

/-- The flag of a timer is set together with its place. -/
theorem set_truthful (truthful : Truthful w) (cpu : ℕ) {armed : Bool} {queued : Option ℕ}
    (together : armed = true ↔ ∃ here, queued = some here) :
    Truthful { w with shadow := { w.shadow with
        queuedOn := Function.update w.shadow.queuedOn cpu queued
        armed := Function.update w.shadow.armed cpu armed } } := by
  intro c
  by_cases here : c = cpu
  · subst here
    simpa using together
  · simpa [here] using truthful c

theorem stop_truthful (truthful : Truthful w) (cpu : ℕ) : Truthful (lseShadowTickStopCpu w cpu) := by
  unfold lseShadowTickStopCpu
  split_ifs
  · exact truthful
  · exact set_truthful truthful cpu (by simp)

theorem start_truthful (truthful : Truthful w) (here cpu : ℕ) : Truthful (lseShadowTickStartCpu w here cpu) := by
  unfold lseShadowTickStartCpu
  split_ifs
  · exact stop_truthful truthful cpu
  · exact truthful
  · exact set_truthful truthful cpu (by simp)

/-- Starting and stopping a timer sets its flag and queues it together. -/
theorem update_truthful (truthful : Truthful w) (here cpu : ℕ) : Truthful (lseShadowTickUpdateCpu w here cpu) := by
  unfold lseShadowTickUpdateCpu
  split_ifs
  · exact truthful
  · exact stop_truthful truthful cpu
  · exact stop_truthful truthful cpu
  · exact start_truthful truthful here cpu

theorem updates_truthful (here : ℕ) (cpus : List ℕ) :
    ∀ {w : World}, Truthful w → Truthful (cpus.foldl (fun w cpu => lseShadowTickUpdateCpu w here cpu) w) := by
  induction cpus with
  | nil => exact fun truthful => truthful
  | cons cpu rest ih => exact fun truthful => ih (update_truthful truthful here cpu)

theorem syncAll_truthful (truthful : Truthful w) (here : ℕ) : Truthful (lseShadowTickSyncAll w here) := by
  unfold lseShadowTickSyncAll
  split_ifs
  · exact truthful
  · exact updates_truthful here _ truthful

/-- The callback of a queued timer that is not restarted unqueues that timer, and clears
    the flag of the CPU it runs on. -/
theorem expire_truthful_iff (truthful : Truthful w) (timer clock : ℕ) :
    Truthful (expire w timer clock) ↔ AtHome w (.expire timer clock) := by
  cases queued : w.shadow.queuedOn timer with
  | none =>
    have home : AtHome w (.expire timer clock) := by
      intro _ cpu member
      rw [queued] at member
      cases member
    rw [expire,queued]
    exact iff_of_true truthful home
  | some cpu =>
    have flagged : w.shadow.armed timer = true := (truthful timer).mpr ⟨cpu,queued⟩
    rw [expire,queued]
    show Truthful (lseShadowTickCb w timer cpu clock) ↔ _
    by_cases off : lseShadowTickEnabled w = false ∨ w.track.slimWaltCtrl = 0
    · rw [lseShadowTickCb,if_pos off]
      constructor
      · intro after _ place member
        rw [queued] at member
        cases member
        by_contra away
        have stuck := (after timer).mp (by simpa [Ne.symm away] using flagged)
        simp at stuck
      · intro home
        have here : cpu = timer := home off cpu (by rw [queued]; rfl)
        subst here
        intro c
        by_cases same : c = cpu
        · subst same
          simp
        · simpa [same] using truthful c
    · have home : AtHome w (.expire timer clock) := fun stops => absurd stops off
      rw [lseShadowTickCb,if_neg off]
      refine iff_of_true ?_ home
      split_ifs
      · exact (truthful_congr (updateIfTracked_ticks w _ cpu .taskUpdate _).shadow).mpr truthful
      · exact truthful

/-- One step keeps the flags truthful unless a timer stops away from home. -/
theorem timerStep_truthful_iff (truthful : Truthful w) (e : TimerEvent) : Truthful (timerStep w e) ↔ AtHome w e := by
  cases e with
  | schedule cpu next clock =>
    refine iff_of_true ?_ trivial
    show Truthful (switchTo (lseSchedule w cpu (w.rq cpu).curr next clock) cpu next)
    have switched : (switchTo (lseSchedule w cpu (w.rq cpu).curr next clock) cpu next).shadow =
        (lseSchedule w cpu (w.rq cpu).curr next clock).shadow := rfl
    rw [truthful_congr switched]
    by_cases off : w.track.slimWaltCtrl = 0
    · rwa [lseSchedule,if_pos off]
    · exact (truthful_congr (lseSchedule_shadow off cpu _ next clock)).mpr (update_truthful truthful cpu cpu)
  | syncAll here => exact iff_of_true (syncAll_truthful truthful here) trivial
  | expire timer clock => exact expire_truthful_iff truthful timer clock
  | highresTickCtrl here val =>
    refine iff_of_true ?_ trivial
    show Truthful (lseProcShadowTickUpdate w here val)
    unfold lseProcShadowTickUpdate
    split_ifs
    · exact truthful
    · have stored : Truthful { w with shadow := { w.shadow with highresTickCtrl := val } } := truthful
      exact syncAll_truthful stored here
  | slimWaltCtrl val => exact iff_of_true truthful trivial
  | others e => exact iff_of_true truthful trivial

end

theorem unarmed_truthful {w : World} (unarmed : Unarmed w) : Truthful w := by
  intro cpu
  simp [unarmed cpu]

/-- Along every run from unarmed timers, the flags tell which timers are queued exactly
    when every timer that expires with a switch off does so on its own CPU. -/
theorem armed_truthful_iff (w : World) (unarmed : Unarmed w) (run : List TimerEvent) :
    Along timerStep (fun v e => Truthful (timerStep v e)) w run ↔ Along timerStep AtHome w run :=
  along_iff Truthful (fun _ e truthful _ => timerStep_truthful_iff truthful e) (fun _ _ _ _ after => after)
    (unarmed_truthful unarmed) along_true

/-- CPU 1 turns busy, CPU 0 switches the shadow ticks on and the tracker off, and the
    timer of CPU 1, which is queued on CPU 0, expires. -/
def remoteRun : List TimerEvent := [.schedule 1 2 0,.highresTickCtrl 0 1,.slimWaltCtrl 0,.expire 1 0]

/-- CPU 1 keeps its flag, and its timer is gone. -/
theorem armed_stuck :
    Unarmed (World.boot 2 (fun _ => plainTask)) ∧
      ¬ Along timerStep (fun v e => Truthful (timerStep v e)) (World.boot 2 (fun _ => plainTask)) remoteRun := by
  refine ⟨fun _ => ⟨rfl,rfl⟩,?_⟩
  rintro ⟨_,_,_,truthful,_⟩
  obtain ⟨here,queued⟩ := (truthful 1).mp (by decide +kernel)
  have gone : (exec timerStep (World.boot 2 (fun _ => plainTask)) remoteRun).shadow.queuedOn 1 = none := by
    decide +kernel
  exact absurd (queued.symm.trans gone) (by simp)

/-- A timer that the schedule hook started is queued at home. -/
theorem armed_truthful_home :
    Along timerStep (fun v e => Truthful (timerStep v e)) (World.boot 2 (fun _ => plainTask))
      [.highresTickCtrl 0 1,.schedule 1 2 0,.slimWaltCtrl 0,.expire 1 0] := by
  refine (armed_truthful_iff _ (fun _ => ⟨rfl,rfl⟩) _).mpr ⟨trivial,trivial,trivial,?_,trivial⟩
  intro _
  decide +kernel

/-! ### Busy and idle CPUs -/

/-- A CPU's shadow tick is on: it is armed, and its timer is queued. -/
def Ticks (w : World) (cpu : ℕ) : Prop := w.shadow.armed cpu = true ∧ ∃ here, w.shadow.queuedOn cpu = some here

/-- Switches on one CPU, and what happens in between: anything but a change of the
    CPU's timer, its flag, its run queue and the two switches. -/
inductive SwitchEvent where
  | schedule (next clock : ℕ)
  | others (e : World)

def switchStep (cpu : ℕ) (w : World) : SwitchEvent → World
  | .schedule next clock => switchTo (lseSchedule w cpu (w.rq cpu).curr next clock) cpu next
  | .others e =>
    { e with
      rq := Function.update e.rq cpu (w.rq cpu)
      track := { e.track with slimWaltCtrl := w.track.slimWaltCtrl }
      shadow :=
        { inited := w.shadow.inited
          highresTickCtrl := w.shadow.highresTickCtrl
          armed := Function.update e.shadow.armed cpu (w.shadow.armed cpu)
          queuedOn := Function.update e.shadow.queuedOn cpu (w.shadow.queuedOn cpu) } }

/-- The shadow ticks are set up, both switches are on, and the flag of the CPU tells
    whether its timer is queued. -/
structure Driven (cpu : ℕ) (w : World) : Prop where
  inited : w.shadow.inited = true
  enabled : w.shadow.highresTickCtrl ≠ 0
  on : w.track.slimWaltCtrl ≠ 0
  truthful : w.shadow.armed cpu = true ↔ ∃ here, w.shadow.queuedOn cpu = some here

/-- After a switch to another task the shadow tick is on exactly when that is not the idle task. -/
def TicksWhenBusy (cpu : ℕ) (w : World) : SwitchEvent → Prop
  | .schedule next clock =>
    next ≠ (w.rq cpu).curr → (Ticks (switchStep cpu w (.schedule next clock)) cpu ↔ next ≠ (w.rq cpu).idle)
  | .others _ => True

/-- A switch to another task neither leaves nor enters the idle task. -/
def BusyToBusy (cpu : ℕ) (w : World) : SwitchEvent → Prop
  | .schedule next _ => next ≠ (w.rq cpu).curr → next ≠ (w.rq cpu).idle ∧ (w.rq cpu).curr ≠ (w.rq cpu).idle
  | .others _ => True

section
variable {cpu : ℕ} {w : World}

/-- With the switches on, the update of a CPU's own timer looks at its current task. -/
theorem update_driven (driven : Driven cpu w) :
    (Ticks (lseShadowTickUpdateCpu w cpu cpu) cpu ↔ (w.rq cpu).curr ≠ (w.rq cpu).idle) ∧
      (lseShadowTickUpdateCpu w cpu cpu).shadow.inited = w.shadow.inited ∧
      (lseShadowTickUpdateCpu w cpu cpu).shadow.highresTickCtrl = w.shadow.highresTickCtrl ∧
      ((lseShadowTickUpdateCpu w cpu cpu).shadow.armed cpu = true ↔
        ∃ here, (lseShadowTickUpdateCpu w cpu cpu).shadow.queuedOn cpu = some here) := by
  obtain ⟨inited,enabled,_,truthful⟩ := driven
  have ticking : lseShadowTickEnabled w = true := by simpa [lseShadowTickEnabled] using enabled
  unfold lseShadowTickUpdateCpu
  rw [if_neg (by simp [inited]),if_neg (by simp [ticking])]
  by_cases idle : (w.rq cpu).curr = (w.rq cpu).idle
  · rw [if_pos idle]
    unfold lseShadowTickStopCpu
    split_ifs with off
    · refine ⟨iff_of_false ?_ (fun busy => busy idle),rfl,rfl,truthful⟩
      rintro ⟨armed,_⟩
      rw [off] at armed
      cases armed
    · refine ⟨iff_of_false ?_ (fun busy => busy idle),rfl,rfl,by simp⟩
      rintro ⟨armed,_⟩
      simp at armed
  · rw [if_neg idle]
    unfold lseShadowTickStartCpu
    rw [if_neg (by simp [ticking])]
    split_ifs with armed
    · exact ⟨iff_of_true ⟨armed,truthful.mp armed⟩ idle,rfl,rfl,truthful⟩
    · exact ⟨iff_of_true ⟨by simp,cpu,by simp⟩ idle,rfl,rfl,by simp⟩

/-- After the hook the shadow tick is on exactly when the CPU was busy before it. -/
theorem switch_ticks_iff (driven : Driven cpu w) (next clock : ℕ) :
    Ticks (switchStep cpu w (.schedule next clock)) cpu ↔ (w.rq cpu).curr ≠ (w.rq cpu).idle := by
  have hook := lseSchedule_shadow driven.on cpu (w.rq cpu).curr next clock
  rw [← (update_driven driven).1]
  show (lseSchedule w cpu _ next clock).shadow.armed cpu = true ∧ _ ↔ _
  simp only [switchStep,switchTo,hook,Ticks]

theorem switchStep_driven (driven : Driven cpu w) (e : SwitchEvent) : Driven cpu (switchStep cpu w e) := by
  cases e with
  | schedule next clock =>
    have hook := lseSchedule_shadow driven.on cpu (w.rq cpu).curr next clock
    obtain ⟨_,inited,enabled,truthful⟩ := update_driven driven
    refine ⟨?_,?_,?_,?_⟩
    · simp only [switchStep,switchTo,hook,inited,driven.inited]
    · simpa only [switchStep,switchTo,hook,enabled] using driven.enabled
    · have slim : (lseSchedule w cpu (w.rq cpu).curr next clock).track.slimWaltCtrl = w.track.slimWaltCtrl := by
        rw [lseSchedule,if_neg driven.on,(afterRavg_queues _ cpu _ next).rest]
        exact (scheduleRavg_ticks w cpu _ next clock).slim
      simpa only [switchStep,switchTo,slim] using driven.on
    · simpa only [switchStep,switchTo,hook] using truthful
  | others e => exact ⟨driven.inited,driven.enabled,driven.on,by simpa [switchStep] using driven.truthful⟩

/-- What the hook decides from the previous task fits the next one when neither is the
    idle task. -/
theorem ticksWhenBusy_iff (driven : Driven cpu w) (e : SwitchEvent) : TicksWhenBusy cpu w e ↔ BusyToBusy cpu w e := by
  cases e with
  | others e => exact Iff.rfl
  | schedule next clock =>
    refine forall_congr' (fun other => ?_)
    rw [switch_ticks_iff driven]
    constructor
    · intro same
      by_cases idle : next = (w.rq cpu).idle
      · exact absurd idle (same.mp (fun prev => other (idle.trans prev.symm)))
      · exact ⟨idle,same.mpr idle⟩
    · rintro ⟨next_busy,prev_busy⟩
      exact iff_of_true prev_busy next_busy

end

/-- Along every run of switches on a CPU with both switches on, the shadow tick is on
    after a switch exactly when the next task is not the idle task, if and only if no
    switch leaves or enters the idle task. -/
theorem ticks_when_busy_iff (w : World) (cpu : ℕ) (driven : Driven cpu w) (run : List SwitchEvent) :
    Along (switchStep cpu) (TicksWhenBusy cpu) w run ↔ Along (switchStep cpu) (BusyToBusy cpu) w run :=
  along_iff (Driven cpu) (fun _ e driven _ => ticksWhenBusy_iff driven e)
    (fun _ e driven _ _ => switchStep_driven driven e) driven along_true

/-- The machine of `World.boot` with the shadow ticks switched on. -/
def ticking (nrCpuIds : ℕ) : World :=
  { World.boot nrCpuIds (fun _ => plainTask) with shadow := ⟨true,1,fun _ => false,fun _ => none⟩ }

theorem ticking_driven (nrCpuIds cpu : ℕ) : Driven cpu (ticking nrCpuIds) := by
  refine ⟨rfl,by simp [ticking],by simp [ticking,World.boot],by simp [ticking]⟩

/-- The CPU leaves its idle task 0 for task 1, and has no shadow tick. -/
theorem busy_without_tick :
    Driven 0 (ticking 1) ∧ ¬ Along (switchStep 0) (TicksWhenBusy 0) (ticking 1) [.schedule 1 0] := by
  refine ⟨ticking_driven 1 0,?_⟩
  rintro ⟨busy,_⟩
  obtain ⟨armed,_⟩ := (busy (by decide)).mpr (by decide)
  exact absurd armed (by decide +kernel)

/-- On a CPU that runs task 1, switches between tasks leave the shadow tick on. -/
theorem ticks_busy_to_busy :
    Along (switchStep 0) (TicksWhenBusy 0) (switchStep 0 (ticking 1) (.schedule 1 0)) [.schedule 2 0,.schedule 1 0] := by
  have driven := switchStep_driven (ticking_driven 1 0) (.schedule 1 0)
  refine (ticks_when_busy_iff _ 0 driven _).mpr ⟨fun _ => ?_,fun _ => ?_,trivial⟩
  · decide +kernel
  · decide +kernel

end LunarSched.ShadowTimers
