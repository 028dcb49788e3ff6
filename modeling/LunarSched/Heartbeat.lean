import LunarSched.Watchdog

/-!
The heartbeat over runs of the whole extension. A beat is a sign of life of a hook or a
write of something else than 0 to `heartbeat`; the timer takes the beats away, and so do a
write of 0 and a reset of the statistics. Each run of the timer reports a stall exactly when
there was no beat since the run before or since the beats were taken away otherwise, and
unless they were, the last beat is a period back by then (`stalls_reported_iff`). When the
timer is run at most `late` ticks after its expiry, two periods without a beat and without a
change of a switch are reported while the heartbeat is on (`stall_reported`). The switches
count because either of them sets the timer anew, that of the watchdog as well.
-/
namespace LunarSched.Heartbeat
open LunarSched.Machine LunarSched.Kernel LunarSched.Dsq LunarSched.Monitor LunarSched.MonitoredHooks LunarSched.Runs
open LunarSched.Watchdog (signOfLife touch_mem_hookCalls bootAt)

/-- The events that set `heartbeat`. -/
def beats (w : World) : SystemEvent → Bool
  | .monitor (.heartbeat val) => decide (val ≠ 0)
  | .monitor _ => false
  | e => signOfLife w e

/-- The events that clear `heartbeat` from outside. -/
def clears : SystemEvent → Bool
  | .monitor (.heartbeat val) => decide (val = 0)
  | .monitor (.resetStats count) => decide (count ≠ 0)
  | _ => false

/-- The timer is run. -/
def checks (s : System) : SystemEvent → Bool
  | .monitor .heartbeatTimer => expired s.world s.monitor.heartbeatTimer
  | _ => false

/-- A write changes one of the two switches. -/
def switches (m : LseMonitor) : SystemEvent → Bool
  | .monitor (.heartbeatEnable val) => decide (val ≠ m.heartbeatEnable)
  | .monitor (.watchdogEnable val) => decide (val ≠ m.watchdogEnable)
  | _ => false

/-- How often the heartbeat timer has reported a stall. -/
def stalls (m : LseMonitor) : ℕ := m.dumps.countP (fun dump => dump.reason = .heartbeatStalled)

/-- The step reports a stall. -/
def Stalls (s : System) (e : SystemEvent) : Prop := stalls s.monitor < stalls (systemStep s e).monitor

instance (s : System) (e : SystemEvent) : Decidable (Stalls s e) := inferInstanceAs (Decidable (_ < _))

/-- A run with the times of the last beat and of the last change of a switch, whether there
    was a beat that nothing took away yet, whether one was taken away from outside since the
    last beat, and whether a stall was reported since then. -/
structure Beating where
  system : System
  beatAt : ℕ
  switchedAt : ℕ
  beaten : Bool
  cleared : Bool
  stalled : Bool

def Beating.now (s : Beating) : ℕ := s.system.world.dsq.jiffies

def beatStep (s : Beating) (e : SystemEvent) : Beating where
  system := systemStep s.system e
  beatAt := if beats s.system.world e then s.now else s.beatAt
  switchedAt := if switches s.system.monitor e then s.now else s.switchedAt
  beaten := beats s.system.world e || (s.beaten && !clears e && !checks s.system e)
  cleared := clears e || (s.cleared && !beats s.system.world e)
  stalled := !beats s.system.world e && (s.stalled || decide (Stalls s.system e))

/-- The module is loaded, and there was no beat yet. -/
def beating (w : World) (initialJiffies : ℕ) : Beating :=
  ⟨System.init w initialJiffies,w.dsq.jiffies,w.dsq.jiffies,false,false,false⟩

/-- `jiffies` does not go back and stays below half of its range, and a second stays as many
    ticks as it is. -/
def Onward (s : Beating) : SystemEvent → Prop
  | .others v => (s.now ≤ v.dsq.jiffies ∧ v.dsq.jiffies < 9223372036854775808) ∧
      v.msecsToJiffies lseHeartbeatPeriodMs = s.system.world.msecsToJiffies lseHeartbeatPeriodMs
  | _ => True

instance (s : Beating) : (e : SystemEvent) → Decidable (Onward s e)
  | .others _ => inferInstanceAs (Decidable (_ ∧ _))
  | .schedulerTick _ | .schedule _ _ _ | .tickEntry _ _ | .shadowTick _ _ _ | .irqWork _ _ | .monitor _ => isTrue trivial

/-- `jiffies` does not get more than `late` past the expiry of the timer before it is run. -/
def Prompt (late : ℕ) (s : Beating) : SystemEvent → Prop
  | .others v => ∀ expiry ∈ s.system.monitor.heartbeatTimer, v.dsq.jiffies ≤ expiry + late
  | _ => True

instance (late : ℕ) (s : Beating) : (e : SystemEvent) → Decidable (Prompt late s e)
  | .others v => inferInstanceAs (Decidable (∀ expiry ∈ s.system.monitor.heartbeatTimer, v.dsq.jiffies ≤ expiry + late))
  | .schedulerTick _ | .schedule _ _ _ | .tickEntry _ _ | .shadowTick _ _ _ | .irqWork _ _ | .monitor _ => isTrue trivial

section
variable {w : World} {m : LseMonitor}

theorem monitorCalls_heartbeat (w : World) (calls : List MonitorCall) (m : LseMonitor) :
    (monitorCalls w m calls).heartbeat = if MonitorCall.touch ∈ calls then 1 else m.heartbeat := by
  refine monitorCalls_touched LseMonitor.heartbeat ?_ ?_ calls m
  · intro m
    unfold lseMonitorTouch
    simp only []
    split_ifs <;> rfl
  · intro m c other
    cases c with
    | touch => exact absurd rfl other
    | recordUpdate => rfl
    | recordRollover => rfl

theorem stalls_congr {n : LseMonitor} (same : n.dumps = m.dumps) : stalls n = stalls m := by
  rw [stalls,stalls,same]

/-- A pending timer is switched on. -/
theorem expired_on (armed : Armed m) (due : expired w m.heartbeatTimer = true) : m.heartbeatEnable ≠ 0 := by
  refine armed.heartbeat.mp ?_
  cases timer : m.heartbeatTimer with
  | none => simp [expired,timer] at due
  | some expiry => rfl

/-- A run of the timer takes the beats away, reports a stall if there were none, and sets the
    timer again. -/
theorem timer_check (armed : Armed m) (due : expired w m.heartbeatTimer = true) :
    let n := monitorStep w m .heartbeatTimer
    n.heartbeat = 0 ∧ n.heartbeatTimer = some (nextHeartbeat w) ∧
      stalls n = stalls m + if m.heartbeat = 0 then 1 else 0 := by
  have on := expired_on armed due
  rw [monitorStep,if_pos due]
  by_cases stalled : m.heartbeat = 0
  · rw [heartbeatTimerFn_stalled on stalled]
    exact ⟨stalled,rfl,by simp [stalls,lseMonitorDumpState,stalled]⟩
  · rw [heartbeatTimerFn_beats on stalled]
    exact ⟨rfl,rfl,by simp [stalls,stalled]⟩

/-- What happens to the flag, the timer and the reports in a step other than a run of the timer. -/
structure Unchecked (s : System) (e : SystemEvent) : Prop where
  flag : (systemStep s e).monitor.heartbeat ≠ 0 ↔
    beats s.world e = true ∨ (s.monitor.heartbeat ≠ 0 ∧ clears e = false)
  stalls : stalls (systemStep s e).monitor = stalls s.monitor
  kept : switches s.monitor e = false → (systemStep s e).monitor.heartbeatTimer = s.monitor.heartbeatTimer
  set : switches s.monitor e = true → ∀ expiry ∈ (systemStep s e).monitor.heartbeatTimer, expiry = nextHeartbeat s.world

end

section
variable {s : System} {e : SystemEvent}

theorem hook_unchecked (s : System) (hooked : ∀ m, e ≠ .monitor m) : Unchecked s e := by
  obtain ⟨_,_,_,timer,_,_,dumps⟩ := monitorCalls_timers s.world (hookCalls s.world e) s.monitor
  have beat : beats s.world e = signOfLife s.world e ∧ clears e = false ∧ switches s.monitor e = false := by
    cases e with
    | monitor m => exact absurd rfl (hooked m)
    | _ => exact ⟨rfl,rfl,rfl⟩
  refine ⟨?_,?_,fun _ => ?_,fun switched => ?_⟩
  · rw [systemStep_hooked s hooked,monitorCalls_heartbeat,beat.1,beat.2.1,← touch_mem_hookCalls s.world hooked]
    by_cases touched : MonitorCall.touch ∈ hookCalls s.world e
    · simp [touched]
    · simp [touched]
  · rw [systemStep_hooked s hooked]
    exact stalls_congr dumps
  · rw [systemStep_hooked s hooked,timer]
  · rw [beat.2.2] at switched
    cases switched

theorem toggle_unchecked {m : MonitorEvent} {data : LseMonitor → ℤ} {store : ℤ → LseMonitor → LseMonitor} {val : ℤ}
    (inited : (store val s.monitor).inited = true) (flag : (store val s.monitor).heartbeat = s.monitor.heartbeat)
    (dumps : (store val s.monitor).dumps = s.monitor.dumps) (silent : clears (.monitor m) = false)
    (beat : beats s.world (.monitor m) = false) (switched : switches s.monitor (.monitor m) = decide (val ≠ data s.monitor))
    (toggled : monitorStep s.world s.monitor m = lseProcMonitorToggleUpdate data store s.world s.monitor val) :
    Unchecked s (.monitor m) := by
  have stepped : (systemStep s (.monitor m)).monitor = lseProcMonitorToggleUpdate data store s.world s.monitor val := toggled
  rcases @toggle_cases s.world s.monitor data store val inited with ⟨same,left⟩ | ⟨other,stored⟩
  · refine ⟨?_,?_,fun _ => ?_,fun changed => ?_⟩
    · rw [stepped,left,beat,silent]
      simp
    · rw [stepped,left]
    · rw [stepped,left]
    · simp [switched,same] at changed
  · refine ⟨?_,?_,fun unchanged => ?_,fun _ expiry pending => ?_⟩
    · rw [stepped,stored,beat,silent]
      simp [flag]
    · rw [stepped,stored]
      exact stalls_congr dumps
    · simp [switched,other] at unchanged
    · rw [stepped,stored] at pending
      simp only at pending
      split_ifs at pending with on
      · exact (Option.some.inj pending).symm
      · cases pending

theorem work_unchecked (s : System) : Unchecked s (.monitor .watchdogWork) := by
  have stepped : ∃ work dumps, monitorStep s.world s.monitor .watchdogWork =
      { s.monitor with watchdogWork := work, dumps := dumps } ∧ stalls { s.monitor with dumps := dumps } = stalls s.monitor := by
    rw [monitorStep]
    split_ifs with due
    · by_cases off : s.monitor.watchdogEnable = 0
      · exact ⟨none,s.monitor.dumps,watchdogWorkfn_off off,rfl⟩
      · cases silence : watchdogLate s.world s.monitor with
        | true => exact ⟨_,_,watchdogWorkfn_late off silence,by simp [stalls,lseMonitorDumpState]⟩
        | false => exact ⟨_,s.monitor.dumps,watchdogWorkfn_alive off silence,rfl⟩
    · exact ⟨s.monitor.watchdogWork,s.monitor.dumps,rfl,rfl⟩
  obtain ⟨work,dumps,stepped,silent⟩ := stepped
  refine ⟨?_,?_,fun _ => ?_,fun changed => by cases changed⟩
  · rw [systemStep,stepped]
    simp [beats,clears]
  · rw [systemStep,stepped]
    exact silent
  · rw [systemStep,stepped]

theorem reset_unchecked (s : System) (count : ℕ) : Unchecked s (.monitor (.resetStats count)) := by
  by_cases empty : count = 0
  · have same : (systemStep s (.monitor (.resetStats count))).monitor = s.monitor := if_neg (not_not.mpr empty)
    refine ⟨?_,?_,fun _ => ?_,fun changed => by cases changed⟩
    · rw [same]
      simp [beats,clears,empty]
    · rw [same]
    · rw [same]
  · have reset : (systemStep s (.monitor (.resetStats count))).monitor = lseMonitorResetStats s.world s.monitor :=
      if_pos empty
    refine ⟨?_,?_,fun _ => ?_,fun changed => by cases changed⟩
    · rw [reset]
      simp [lseMonitorResetStats,beats,clears,empty]
    · rw [reset]
      rfl
    · rw [reset]
      rfl

theorem step_unchecked (armed : Armed s.monitor) (idle : checks s e = false) : Unchecked s e := by
  by_cases outside : ∃ m, e = .monitor m
  · obtain ⟨m,rfl⟩ := outside
    cases m with
    | heartbeatTimer =>
      have early : ¬ expired s.world s.monitor.heartbeatTimer = true := Bool.eq_false_iff.mp idle
      have same : (systemStep s (.monitor .heartbeatTimer)).monitor = s.monitor := if_neg early
      refine ⟨?_,?_,fun _ => ?_,fun changed => by cases changed⟩
      · simp [same,beats,clears]
      · rw [same]
      · rw [same]
    | watchdogWork => exact work_unchecked s
    | heartbeatEnable val => exact toggle_unchecked armed.inited rfl rfl rfl rfl rfl rfl
    | watchdogEnable val => exact toggle_unchecked armed.inited rfl rfl rfl rfl rfl rfl
    | heartbeat val =>
      refine ⟨?_,rfl,fun _ => rfl,fun changed => by cases changed⟩
      by_cases zero : val = 0
      · simp [systemStep,monitorStep,beats,clears,zero]
      · simp [systemStep,monitorStep,beats,clears,zero]
    | resetStats count => exact reset_unchecked s count
  · exact hook_unchecked s (fun m same => outside ⟨m,same⟩)

end

/-- The flag of the monitor says whether there was a beat, no arithmetic wraps, and the
    timer comes a period after the last beat at least, unless that is still to be seen. -/
structure Sound (period : ℕ) (s : Beating) : Prop where
  armed : Armed s.system.monitor
  second : s.system.world.msecsToJiffies lseHeartbeatPeriodMs = period
  small : s.now < 9223372036854775808
  flag : s.system.monitor.heartbeat ≠ 0 ↔ s.beaten = true
  past : s.beatAt ≤ s.now
  close : ∀ expiry ∈ s.system.monitor.heartbeatTimer, expiry ≤ s.now + period
  apart : ∀ expiry ∈ s.system.monitor.heartbeatTimer,
    s.beaten = true ∨ s.cleared = true ∨ s.beatAt + period ≤ expiry

section
variable {s : Beating} {period late : ℕ} {e : SystemEvent}

theorem now_step (s : Beating) {e : SystemEvent} (inside : ∀ v, e ≠ .others v) : (beatStep s e).now = s.now := by
  rw [Beating.now,beatStep,systemStep_world]
  exact (hook_clock s.system.world inside).jiffies

theorem now_le (onward : Onward s e) (small : s.now < 9223372036854775808) :
    s.now ≤ (beatStep s e).now ∧ (beatStep s e).now < 9223372036854775808 := by
  by_cases outside : ∃ v, e = .others v
  · obtain ⟨v,rfl⟩ := outside
    exact onward.1
  · rw [now_step s (fun v same => outside ⟨v,same⟩)]
    exact ⟨le_rfl,small⟩

theorem period_step (onward : Onward s e) : (beatStep s e).system.world.msecsToJiffies lseHeartbeatPeriodMs =
    s.system.world.msecsToJiffies lseHeartbeatPeriodMs := by
  rw [beatStep,systemStep_world]
  by_cases outside : ∃ v, e = .others v
  · obtain ⟨v,rfl⟩ := outside
    exact onward.2
  · rw [(hook_clock s.system.world (fun v same => outside ⟨v,same⟩)).msecs]

theorem nextHeartbeat_eq (sound : Sound period s) (short : period < 9223372036854775808) :
    nextHeartbeat s.system.world = s.now + period := by
  have small := sound.small
  rw [nextHeartbeat,sound.second]
  exact u64_of_lt (show s.now + period < 18446744073709551616 by omega)

/-- A timer that is run has reached its expiry. -/
theorem check_due (sound : Sound period s) (short : period < 9223372036854775808)
    (due : expired s.system.world s.system.monitor.heartbeatTimer = true) :
    ∃ expiry ∈ s.system.monitor.heartbeatTimer, expiry ≤ s.now := by
  obtain ⟨expiry,pending,reached⟩ := (Option.any_eq_true _ _).mp due
  have close := sound.close expiry pending
  have small := sound.small
  refine ⟨expiry,pending,?_⟩
  by_contra early
  have before : timeBefore s.now expiry = true := by
    rw [timeBefore,timeAfter,decide_eq_true_iff,s64,u64Sub,u64,u64]
    split_ifs with positive
    · omega
    · omega
  rw [Beating.now] at before
  simp [before] at reached

theorem past_step (sound : Sound period s) (e : SystemEvent) : (beatStep s e).beatAt ≤ s.now := by
  have past := sound.past
  unfold beatStep
  simp only []
  split_ifs
  · exact le_rfl
  · exact past

theorem check_sets (sound : Sound period s) (short : period < 9223372036854775808)
    (due : expired s.system.world s.system.monitor.heartbeatTimer = true) :
    ∀ expiry ∈ (beatStep s (.monitor .heartbeatTimer)).system.monitor.heartbeatTimer, expiry = s.now + period := by
  intro expiry pending
  obtain ⟨_,timer,_⟩ := timer_check sound.armed due
  rw [← nextHeartbeat_eq sound short]
  exact (Option.some.inj (timer.symm.trans pending)).symm

theorem sound_check (sound : Sound period s) (short : period < 9223372036854775808)
    (due : expired s.system.world s.system.monitor.heartbeatTimer = true) :
    Sound period (beatStep s (.monitor .heartbeatTimer)) := by
  have flag := (timer_check sound.armed due).1
  have now : (beatStep s (.monitor .heartbeatTimer)).now = s.now := rfl
  have past := sound.past
  have new := check_sets sound short due
  refine ⟨systemStep_armed sound.armed _,sound.second,sound.small,?_,past,?_,?_⟩
  · have taken : (beatStep s (.monitor .heartbeatTimer)).beaten = false := by simp [beatStep,beats,checks,due]
    rw [taken]
    exact iff_of_false (not_not.mpr flag) Bool.false_ne_true
  · intro expiry pending
    rw [new expiry pending,now]
  · intro expiry pending
    refine Or.inr (Or.inr ?_)
    rw [new expiry pending]
    exact Nat.add_le_add_right past period

theorem sound_unchecked (sound : Sound period s) (short : period < 9223372036854775808) (onward : Onward s e)
    (idle : checks s.system e = false) : Sound period (beatStep s e) := by
  have step := step_unchecked sound.armed idle
  obtain ⟨later,small⟩ := now_le onward sound.small
  have past := past_step sound e
  have set := step.set
  rw [nextHeartbeat_eq sound short] at set
  refine ⟨systemStep_armed sound.armed e,(period_step onward).trans sound.second,small,?_,by omega,?_,?_⟩
  · refine step.flag.trans ?_
    rw [sound.flag]
    simp [beatStep,idle]
  · intro expiry pending
    cases switched : switches s.system.monitor e with
    | true =>
      have new := set switched expiry pending
      omega
    | false =>
      have close := sound.close expiry (step.kept switched ▸ pending)
      omega
  · intro expiry pending
    cases switched : switches s.system.monitor e with
    | true =>
      have new := set switched expiry pending
      exact Or.inr (Or.inr (by omega))
    | false =>
      have before := sound.apart expiry (step.kept switched ▸ pending)
      cases beat : beats s.system.world e with
      | true => simp [beatStep,beat]
      | false =>
        cases clear : clears e with
        | true => simp [beatStep,clear]
        | false => simpa [beatStep,beat,clear,idle] using before

theorem checks_eq (checked : checks s.system e = true) :
    e = .monitor .heartbeatTimer ∧ expired s.system.world s.system.monitor.heartbeatTimer = true := by
  unfold checks at checked
  split at checked
  · exact ⟨rfl,checked⟩
  · cases checked

theorem sound_step (sound : Sound period s) (short : period < 9223372036854775808) (onward : Onward s e) :
    Sound period (beatStep s e) := by
  cases checked : checks s.system e with
  | true =>
    obtain ⟨rfl,due⟩ := checks_eq checked
    exact sound_check sound short due
  | false => exact sound_unchecked sound short onward checked

theorem beating_sound {w : World} (small : w.dsq.jiffies < 9223372036854775808) (initialJiffies : ℕ) :
    Sound (w.msecsToJiffies lseHeartbeatPeriodMs) (beating w initialJiffies) := by
  have off : (beating w initialJiffies).system.monitor.heartbeatTimer = none := rfl
  refine ⟨init_armed w initialJiffies,rfl,small,iff_of_false (not_not.mpr rfl) Bool.false_ne_true,le_rfl,?_,?_⟩
  · simp [off]
  · simp [off]

theorem stalls_iff (sound : Sound period s) : Stalls s.system e ↔ checks s.system e = true ∧ s.beaten = false := by
  cases checked : checks s.system e with
  | true =>
    obtain ⟨rfl,due⟩ := checks_eq checked
    obtain ⟨_,_,counted⟩ := timer_check sound.armed due
    rw [Stalls,systemStep,counted]
    by_cases none : s.system.monitor.heartbeat = 0
    · have unbeaten : s.beaten = false := Bool.eq_false_iff.mpr (fun beaten => sound.flag.mpr beaten none)
      simp [none,unbeaten]
    · simp [none,sound.flag.mp none]
  | false =>
    rw [Stalls,(step_unchecked sound.armed checked).stalls]
    simp

end

/-- In every run a stall is reported exactly when the timer is run and there was no beat since
    it was run before or the beats were taken away from outside; without the latter the last
    beat is a period back or more. -/
theorem stalls_reported_iff (w : World) (initialJiffies : ℕ) {events : List SystemEvent}
    (small : w.dsq.jiffies < 9223372036854775808) (short : w.msecsToJiffies lseHeartbeatPeriodMs < 9223372036854775808)
    (onward : Along beatStep Onward (beating w initialJiffies) events) :
    Along beatStep (fun s e =>
      (Stalls s.system e ↔ checks s.system e = true ∧ s.beaten = false) ∧
      (Stalls s.system e → s.cleared = true ∨ s.beatAt + w.msecsToJiffies lseHeartbeatPeriodMs ≤ s.now))
      (beating w initialJiffies) events := by
  apply along_invariant (Sound (w.msecsToJiffies lseHeartbeatPeriodMs)) (fun s e sound => sound_step sound short) ?_
    (beating_sound small initialJiffies) onward
  intro s e sound _
  refine ⟨stalls_iff sound,fun reported => ?_⟩
  obtain ⟨checked,unbeaten⟩ := (stalls_iff sound).mp reported
  obtain ⟨expiry,pending,reached⟩ := check_due sound short (checks_eq checked).2
  rcases sound.apart expiry pending with beaten | cleared | far
  · rw [unbeaten] at beaten
    cases beaten
  · exact Or.inl cleared
  · exact Or.inr (far.trans reached)

/-- A run in which ticks come once, the heartbeat is switched on and the timer is run twice:
    the first run takes the beat away, the second one reports the stall. -/
def stalledRun : List SystemEvent :=
  [.monitor (.heartbeatEnable 1),.monitor (.heartbeat 1),.others (bootAt 250),.monitor .heartbeatTimer,
    .others (bootAt 501),.monitor .heartbeatTimer]

theorem stalls_reported_iff_stalled :
    Along beatStep (fun s e =>
      (Stalls s.system e ↔ checks s.system e = true ∧ s.beaten = false) ∧
      (Stalls s.system e → s.cleared = true ∨ s.beatAt + 250 ≤ s.now))
      (beating (bootAt 0) 0) stalledRun ∧ stalls (exec beatStep (beating (bootAt 0) 0) stalledRun).system.monitor = 1 :=
  ⟨stalls_reported_iff (bootAt 0) 0 (by decide) (by decide) (by decide +kernel),by decide +kernel⟩

/-! ### Stalls are reported in time -/

/-- A pending timer is overdue by `late` at most, and comes soon enough after the last beat
    and the last change of a switch, unless the stall was reported already. -/
structure Due (period late : ℕ) (s : Beating) : Prop where
  switched : s.switchedAt ≤ s.now
  prompt : ∀ expiry ∈ s.system.monitor.heartbeatTimer, s.now ≤ expiry + late
  timely : ∀ expiry ∈ s.system.monitor.heartbeatTimer, s.stalled = true ∨
    expiry ≤ max s.beatAt s.switchedAt + period + if s.beaten = true then 0 else period + late

section
variable {s : Beating} {period late : ℕ} {e : SystemEvent}

/-- A run of the timer that finds a beat is followed by the next a period later; one that
    finds none reports the stall. -/
theorem due_check (due : Due period late s) (sound : Sound period s) (short : period < 9223372036854775808)
    (reached : expired s.system.world s.system.monitor.heartbeatTimer = true) :
    Due period late (beatStep s (.monitor .heartbeatTimer)) := by
  have new := check_sets sound short reached
  have now : (beatStep s (.monitor .heartbeatTimer)).now = s.now := rfl
  refine ⟨due.switched,?_,?_⟩
  · intro expiry pending
    rw [new expiry pending,now]
    omega
  · intro expiry pending
    have taken : (beatStep s (.monitor .heartbeatTimer)).beaten = false := by simp [beatStep,beats,checks,reached]
    have times : (beatStep s (.monitor .heartbeatTimer)).beatAt = s.beatAt ∧
        (beatStep s (.monitor .heartbeatTimer)).switchedAt = s.switchedAt := ⟨rfl,rfl⟩
    rw [new expiry pending,taken,times.1,times.2]
    cases beaten : s.beaten with
    | true =>
      obtain ⟨old,was,_⟩ := check_due sound short reached
      have prompt := due.prompt old was
      rcases due.timely old was with before | soon
      · exact Or.inl (by simp [beatStep,beats,before])
      · rw [if_pos beaten] at soon
        exact Or.inr (by simp only [Bool.false_eq_true,if_false]; omega)
    | false =>
      have stalls : Stalls s.system (.monitor .heartbeatTimer) := (stalls_iff sound).mpr ⟨reached,beaten⟩
      exact Or.inl (by simp [beatStep,beats,stalls])

/-- A change of a switch sets the timer a period from now. -/
theorem due_switched (sound : Sound period s) (short : period < 9223372036854775808)
    (idle : checks s.system e = false) (switched : switches s.system.monitor e = true) :
    Due period late (beatStep s e) := by
  have inside : ∀ v, e ≠ .others v := by
    rintro v rfl
    cases switched
  have now := now_step s inside
  have switchedAt : (beatStep s e).switchedAt = s.now := if_pos switched
  have new := (step_unchecked sound.armed idle).set switched
  rw [nextHeartbeat_eq sound short] at new
  refine ⟨by omega,?_,?_⟩
  · intro expiry pending
    have set := new expiry pending
    omega
  · intro expiry pending
    have set := new expiry pending
    exact Or.inr (by omega)

/-- Otherwise the timer stays, and a beat makes it early enough. -/
theorem due_kept (due : Due period late s) (sound : Sound period s) (onward : Onward s e) (prompt : Prompt late s e)
    (idle : checks s.system e = false) (switched : switches s.system.monitor e = false) :
    Due period late (beatStep s e) := by
  have kept := (step_unchecked sound.armed idle).kept switched
  have later := (now_le onward sound.small).1
  have past := due.switched
  have switchedAt : (beatStep s e).switchedAt = s.switchedAt := if_neg (Bool.eq_false_iff.mp switched)
  refine ⟨by omega,?_,?_⟩
  · intro expiry pending
    have was := kept ▸ pending
    by_cases outside : ∃ v, e = .others v
    · obtain ⟨v,rfl⟩ := outside
      exact prompt expiry was
    · rw [now_step s (fun v same => outside ⟨v,same⟩)]
      exact due.prompt expiry was
  · intro expiry pending
    have was := kept ▸ pending
    cases beat : beats s.system.world e with
    | true =>
      have close := sound.close expiry was
      have now : (beatStep s e).beatAt = s.now := if_pos beat
      exact Or.inr (by omega)
    | false =>
      have beatAt : (beatStep s e).beatAt = s.beatAt := if_neg (Bool.eq_false_iff.mp beat)
      have less : (beatStep s e).beaten = true → s.beaten = true := by
        simp only [beatStep,beat,Bool.false_or,Bool.and_eq_true]
        exact fun beaten => beaten.1.1
      rcases due.timely expiry was with before | soon
      · exact Or.inl (by simp [beatStep,beat,before])
      · refine Or.inr ?_
        rw [beatAt,switchedAt]
        by_cases beaten : (beatStep s e).beaten = true
        · rw [if_pos (less beaten)] at soon
          rwa [if_pos beaten]
        · rw [if_neg beaten]
          split_ifs at soon
          · omega
          · exact soon

theorem due_step (due : Due period late s) (sound : Sound period s) (short : period < 9223372036854775808)
    (onward : Onward s e) (prompt : Prompt late s e) : Due period late (beatStep s e) := by
  cases checked : checks s.system e with
  | true =>
    obtain ⟨rfl,reached⟩ := checks_eq checked
    exact due_check due sound short reached
  | false =>
    cases switched : switches s.system.monitor e with
    | true => exact due_switched sound short checked switched
    | false => exact due_kept due sound onward prompt checked switched

end

/-- When the kernel runs the timer at most `late` ticks after its expiry, then in every state
    of every run with the heartbeat on a stall has been reported once two periods and twice
    `late` went by without a beat and without a change of a switch. -/
theorem stall_reported (w : World) (initialJiffies late : ℕ) {events : List SystemEvent}
    (small : w.dsq.jiffies < 9223372036854775808) (short : w.msecsToJiffies lseHeartbeatPeriodMs < 9223372036854775808)
    (admitted : Along beatStep (fun s e => Onward s e ∧ Prompt late s e) (beating w initialJiffies) events) :
    let s := exec beatStep (beating w initialJiffies) events
    s.system.monitor.heartbeatEnable ≠ 0 →
      max s.beatAt s.switchedAt + 2 * w.msecsToJiffies lseHeartbeatPeriodMs + 2 * late < s.now → s.stalled = true := by
  intro s on silent
  have kept : Sound (w.msecsToJiffies lseHeartbeatPeriodMs) s ∧ Due (w.msecsToJiffies lseHeartbeatPeriodMs) late s := by
    refine exec_invariant (fun s => Sound (w.msecsToJiffies lseHeartbeatPeriodMs) s ∧
      Due (w.msecsToJiffies lseHeartbeatPeriodMs) late s) ?_ ⟨beating_sound small initialJiffies,?_⟩ admitted
    · exact fun s e held ok => ⟨sound_step held.1 short ok.1,due_step held.2 held.1 short ok.1 ok.2⟩
    · have none : (beating w initialJiffies).system.monitor.heartbeatTimer = Option.none := rfl
      refine ⟨le_rfl,?_,?_⟩
      · simp [none]
      · simp [none]
  obtain ⟨sound,due⟩ := kept
  obtain ⟨expiry,pending⟩ := Option.isSome_iff_exists.mp (sound.armed.heartbeat.mpr on)
  have prompt := due.prompt expiry pending
  rcases due.timely expiry pending with reported | soon
  · exact reported
  · split_ifs at soon
    · omega
    · omega

/-- The stall of `stalledRun` has been reported by the time it lasts for two periods. -/
theorem stall_reported_stalled :
    (exec beatStep (beating (bootAt 0) 0) (stalledRun ++ [.others (bootAt 503)])).stalled = true :=
  stall_reported (bootAt 0) 0 1 (by decide) (by decide) (by decide +kernel) (by decide +kernel) (by decide +kernel)

end LunarSched.Heartbeat
