import LunarSched.Kernel

/-!
The shadow-tick timers (`lse_shadow_tick.c`), as far as the schedule hook and the
writes to `highres_tick_ctrl` (`lse_sysctl.c`) drive them. A pinned `hrtimer_start`
queues a CPU's timer on the CPU that executes the call, and `hrtimer_cancel` takes it
off wherever it is queued.
-/
namespace LunarSched.ShadowTick
open LunarSched.Kernel

def lseShadowTickEnabled (w : World) : Bool := w.shadow.highresTickCtrl ≠ 0

def lseShadowTickStopCpu (w : World) (cpu : ℕ) : World :=
  if w.shadow.armed cpu = false then w
  else
    { w with shadow := { w.shadow with
        queuedOn := Function.update w.shadow.queuedOn cpu none
        armed := Function.update w.shadow.armed cpu false } }

/-- `lse_shadow_tick_start_cpu`, executed on CPU `here`. -/
def lseShadowTickStartCpu (w : World) (here cpu : ℕ) : World :=
  if lseShadowTickEnabled w = false then lseShadowTickStopCpu w cpu
  else if w.shadow.armed cpu = true then w
  else
    { w with shadow := { w.shadow with
        queuedOn := Function.update w.shadow.queuedOn cpu (some here)
        armed := Function.update w.shadow.armed cpu true } }

/-- `lse_shadow_tick_update_cpu` for the run queue of `cpu`, executed on CPU `here`. -/
def lseShadowTickUpdateCpu (w : World) (here cpu : ℕ) : World :=
  if w.shadow.inited = false then w
  else if lseShadowTickEnabled w = false then lseShadowTickStopCpu w cpu
  else if (w.rq cpu).curr = (w.rq cpu).idle then lseShadowTickStopCpu w cpu
  else lseShadowTickStartCpu w here cpu

/-- `lse_shadow_tick_sync_all`, executed on CPU `here`. -/
def lseShadowTickSyncAll (w : World) (here : ℕ) : World :=
  if w.shadow.inited = false then w
  else (forEachCpu w.nrCpuIds w.online).foldl (fun w cpu => lseShadowTickUpdateCpu w here cpu) w

/-- `lse_proc_shadow_tick_update`, a write of `val` that was parsed, on CPU `here`. -/
def lseProcShadowTickUpdate (w : World) (here val : ℕ) : World :=
  if val = w.shadow.highresTickCtrl then w
  else lseShadowTickSyncAll { w with shadow := { w.shadow with highresTickCtrl := val } } here

end LunarSched.ShadowTick
