import LunarSched.Hooks
import LunarSched.OwnedCells
import LunarSched.Runs

/-!
The records of the tasks by their pointers (`lse_task_struct_ext.c`), while tasks are
forked and freed beside the initialisation, which first gives a record to all tasks that
it finds and then registers the hooks for the tasks to come. A fork copies the whole task
struct; whether the kernel clears the copied pointer before it calls the hook differs
between kernels. Three things are followed over every run: whose each record is
(`owned_once_iff`), who has one (`tracked_iff`), and that the pointers implement the table
of records that the rest of the development works with (`records_refined`).
-/
namespace LunarSched.TaskRecords
open LunarSched.Kernel LunarSched.OwnedCells LunarSched.Runs

/-- A `struct lse_task_struct` with its pointer to the task. -/
structure LtsObject where
  task : ℕ
  lts : LseTaskStruct

/-- How far `lse_task_struct_ext_init` has come. -/
inductive InitStage where
  | loading
  | scanned
  | dupRegistered
  | done
deriving DecidableEq

/-- The task structs of the kernel, with `android_vendor_data1[LTS_IDX]` as the slots of
    `records`, whose cells are the objects of the slab cache. -/
structure TaskTable where
  /-- The kernel clears the vendor data of a copy before the hook sees it. -/
  clearsVendorData : Bool
  /-- The idle tasks of the possible CPUs, which are never freed. -/
  idle : List ℕ
  /-- What `for_each_process_thread` walks over. -/
  tasklist : List ℕ
  live : ℕ → Bool
  task : ℕ → TaskStruct
  records : Cells ℕ ℕ LtsObject
  stage : InitStage

def getLseTaskStruct (s : TaskTable) (tsk : ℕ) : Option LseTaskStruct := (s.records.read tsk).map LtsObject.lts

def initLseTaskStruct (s : TaskTable) (tsk : ℕ) : LtsObject := ⟨tsk,Kernel.initLseTaskStruct (s.task tsk)⟩

/-- `alloc_lse_task_struct`, which is also the body of the loops of
    `alloc_lts_mem_for_all_threads`. `memory` is what the slab cache offers. -/
def allocLseTaskStruct (s : TaskTable) (tsk : ℕ) (memory : Option ℕ) : TaskTable :=
  match s.records.slot tsk with
  | some _ => s
  | none =>
    match s.records.grab memory with
    | none => s
    | some lts => { s with records := s.records.install tsk lts (initLseTaskStruct s tsk) }

/-- The cache gets the object back before the hook returns. -/
def freeLseTaskStruct (s : TaskTable) (tsk : ℕ) : TaskTable := { s with records := s.records.release tsk }

/-- The tasks that the scan walks over. -/
def threads (s : TaskTable) : List ℕ := s.tasklist ++ s.idle

def allocLtsMemForAllThreads (s : TaskTable) (memory : ℕ → Option ℕ) : TaskTable :=
  exec (fun s p => allocLseTaskStruct s p (memory p)) s (threads s)

/-- One step of `lse_task_struct_ext_init`. The scan is one step, since `tasklist_lock` is held. -/
def lseTaskStructExtInit (s : TaskTable) (memory : ℕ → Option ℕ) : TaskTable :=
  match s.stage with
  | .loading => { allocLtsMemForAllThreads s memory with stage := .scanned }
  | .scanned => { s with stage := .dupRegistered }
  | .dupRegistered => { s with stage := .done }
  | .done => s

def dupHooked (s : TaskTable) : Bool := s.stage = .dupRegistered ∨ s.stage = .done
def freeHooked (s : TaskTable) : Bool := s.stage = .done

inductive TableEvent where
  | init (memory : ℕ → Option ℕ)
  /-- `dup_task_struct` with its hook. -/
  | dup (orig tsk : ℕ) (memory : Option ℕ)
  /-- The new task is put on the list. -/
  | attach (tsk : ℕ)
  /-- `release_task` takes it from the list. -/
  | detach (tsk : ℕ)
  /-- `free_task` with its hook, for a task that has left the list or never was on it. -/
  | free (tsk : ℕ)
  /-- The accounting changes the record of a task. -/
  | account (tsk : ℕ) (f : LseTaskStruct → LseTaskStruct)

/-- The struct of `orig` can be copied to a new one for `tsk`. -/
def forks (s : TaskTable) (orig tsk : ℕ) : Bool := s.live orig && !s.live tsk

def frees (s : TaskTable) (tsk : ℕ) : Bool := s.live tsk && decide (tsk ∉ threads s)

/-- The task struct is copied, with its vendor data unless the kernel clears it. -/
def copyTaskStruct (s : TaskTable) (orig tsk : ℕ) : TaskTable :=
  { s with
    live := Function.update s.live tsk true
    task := Function.update s.task tsk (s.task orig)
    records := s.records.setSlot tsk (if s.clearsVendorData then none else s.records.slot orig) }

/-- `dup_task_struct`, which calls the hook once it is registered. -/
def dupTaskStruct (s : TaskTable) (orig tsk : ℕ) (memory : Option ℕ) : TaskTable :=
  let s := copyTaskStruct s orig tsk
  if dupHooked s then allocLseTaskStruct s tsk memory else s

/-- `free_task`, which calls the hook once it is registered. -/
def freeTask (s : TaskTable) (tsk : ℕ) : TaskTable :=
  let s := if freeHooked s then freeLseTaskStruct s tsk else s
  { s with live := Function.update s.live tsk false }

def updateRecord (f : LseTaskStruct → LseTaskStruct) (object : LtsObject) : LtsObject := { object with lts := f object.lts }

def tableStep (s : TaskTable) : TableEvent → TaskTable
  | .init memory => lseTaskStructExtInit s memory
  | .dup orig tsk memory => if forks s orig tsk then dupTaskStruct s orig tsk memory else s
  | .attach tsk => if s.live tsk then { s with tasklist := s.tasklist ++ [tsk] } else s
  | .detach tsk => { s with tasklist := s.tasklist.filter (fun p => p ≠ tsk) }
  | .free tsk => if frees s tsk then freeTask s tsk else s
  | .account tsk f => if s.live tsk then { s with records := s.records.write tsk (updateRecord f) } else s

/-- The kernel before the module is loaded: `starting` are tasks that have been copied, but
    are not on the list. -/
def bootTable (clearsVendorData : Bool) (idle tasklist starting : List ℕ) (task : ℕ → TaskStruct) : TaskTable where
  clearsVendorData := clearsVendorData
  idle := idle
  tasklist := tasklist
  live := fun t => decide (t ∈ tasklist ++ idle ++ starting)
  task := task
  records := Cells.empty
  stage := .loading

/-! ### Whose the records are -/

def liveTasks (s : TaskTable) : Set ℕ := { t | s.live t = true }

def ownObject (tsk : ℕ) (object : LtsObject) : Prop := object.task = tsk

/-- Every live task that has a record has one of its own, whose pointer leads back to the
    task, every record in use is a live task's, and none has been freed twice. -/
def OwnedOnce (s : TaskTable) : Prop := Separate ownObject (liveTasks s) s.records ∧ Reached (liveTasks s) s.records

/-- A fork does not leave the pointer of the original in the copy. -/
def NotShared (s : TaskTable) : TableEvent → Prop
  | .dup orig tsk _ => forks s orig tsk = true → s.clearsVendorData = true ∨ s.records.slot orig = none
  | _ => True

/-- A task that has a record is not freed before the hook for it is registered. -/
def NotLost (s : TaskTable) : TableEvent → Prop
  | .free tsk => frees s tsk = true → freeHooked s = true ∨ s.records.slot tsk = none
  | _ => True

/-- The tasks on the list and the idle tasks are live. -/
def Listed (s : TaskTable) : Prop := ∀ t ∈ threads s, s.live t = true

section
variable {s : TaskTable} {tsk : ℕ}

theorem liveTasks_dup (s : TaskTable) (orig tsk : ℕ) : liveTasks (copyTaskStruct s orig tsk) = insert tsk (liveTasks s) := by
  ext t
  by_cases same : t = tsk
  · simp [liveTasks,copyTaskStruct,same]
  · simp [liveTasks,copyTaskStruct,same]

theorem liveTasks_free (live : ℕ → Bool) (tsk : ℕ) :
    { t | Function.update live tsk false t = true } = { t | live t = true } \ {tsk} := by
  ext t
  by_cases same : t = tsk
  · simp [same]
  · simp [same]

/-- The hook installs a new record for a task without one, or does nothing. -/
theorem alloc_cases (s : TaskTable) (tsk : ℕ) (memory : Option ℕ) :
    (allocLseTaskStruct s tsk memory = s ∧ (s.records.slot tsk ≠ none ∨ s.records.grab memory = none)) ∨
    ∃ lts, s.records.slot tsk = none ∧ s.records.grab memory = some lts ∧
      allocLseTaskStruct s tsk memory = { s with records := s.records.install tsk lts (initLseTaskStruct s tsk) } := by
  cases has : s.records.slot tsk with
  | some _ => exact Or.inl ⟨by simp only [allocLseTaskStruct,has],Or.inl (by simp)⟩
  | none =>
    cases got : s.records.grab memory with
    | none => exact Or.inl ⟨by simp only [allocLseTaskStruct,has,got],Or.inr rfl⟩
    | some lts => exact Or.inr ⟨lts,rfl,rfl,by simp only [allocLseTaskStruct,has,got]⟩

/-- The functions of the extension change records only; a fork and the end of a task also
    change which tasks there are. -/
theorem alloc_frame (s : TaskTable) (tsk : ℕ) (memory : Option ℕ) :
    ∃ records, allocLseTaskStruct s tsk memory = { s with records := records } := by
  rcases alloc_cases s tsk memory with ⟨same,_⟩ | ⟨lts,_,_,made⟩
  · exact ⟨s.records,same⟩
  · exact ⟨_,made⟩

theorem scan_frame (s : TaskTable) (memory : ℕ → Option ℕ) :
    ∃ records, allocLtsMemForAllThreads s memory = { s with records := records } := by
  refine exec_always (fun v : TaskTable => ∃ records, v = { s with records := records }) (fun v p before => ?_)
    ⟨s.records,rfl⟩ (threads s)
  obtain ⟨_,rfl⟩ := before
  obtain ⟨after,made⟩ := alloc_frame _ p (memory p)
  exact ⟨after,made⟩

theorem init_frame (s : TaskTable) (memory : ℕ → Option ℕ) :
    ∃ records stage, lseTaskStructExtInit s memory = { s with records := records, stage := stage } := by
  obtain ⟨records,scanned⟩ := scan_frame s memory
  unfold lseTaskStructExtInit
  split
  · exact ⟨records,.scanned,by rw [scanned]⟩
  · exact ⟨s.records,.dupRegistered,rfl⟩
  · exact ⟨s.records,.done,rfl⟩
  · exact ⟨s.records,s.stage,rfl⟩

theorem dup_frame (s : TaskTable) (orig tsk : ℕ) (memory : Option ℕ) : ∃ records, dupTaskStruct s orig tsk memory =
    { s with
      live := Function.update s.live tsk true
      task := Function.update s.task tsk (s.task orig)
      records := records } := by
  obtain ⟨records,made⟩ := alloc_frame (copyTaskStruct s orig tsk) tsk memory
  simp only [dupTaskStruct]
  split_ifs
  · exact ⟨records,made⟩
  · exact ⟨_,rfl⟩

theorem freeTask_frame (s : TaskTable) (tsk : ℕ) :
    ∃ records, freeTask s tsk = { s with live := Function.update s.live tsk false, records := records } := by
  simp only [freeTask]
  split_ifs
  · exact ⟨_,rfl⟩
  · exact ⟨_,rfl⟩

theorem alloc_live (s : TaskTable) (tsk : ℕ) (memory : Option ℕ) : (allocLseTaskStruct s tsk memory).live = s.live := by
  obtain ⟨_,made⟩ := alloc_frame s tsk memory
  rw [made]

theorem alloc_separate (sep : Separate ownObject (liveTasks s) s.records) (memory : Option ℕ) :
    Separate ownObject (liveTasks (allocLseTaskStruct s tsk memory)) (allocLseTaskStruct s tsk memory).records := by
  rw [liveTasks,alloc_live]
  rcases alloc_cases s tsk memory with ⟨same,_⟩ | ⟨lts,_,got,made⟩
  · rw [same]
    exact sep
  · rw [made]
    exact separate_install sep (grab_some got).2 rfl

theorem alloc_ownedOnce (owned : OwnedOnce s) (live : s.live tsk = true) (memory : Option ℕ) :
    OwnedOnce (allocLseTaskStruct s tsk memory) := by
  refine ⟨alloc_separate owned.1 memory,?_⟩
  rw [liveTasks,alloc_live]
  rcases alloc_cases s tsk memory with ⟨same,_⟩ | ⟨lts,empty,_,made⟩
  · rw [same]
    exact owned.2
  · rw [made]
    exact reached_install owned.2 empty live

/-- What the scan keeps, when each of its steps keeps it. -/
theorem scan_invariant {memory : ℕ → Option ℕ} (inv : TaskTable → Prop)
    (keeps : ∀ s tsk, inv s → s.live tsk = true → inv (allocLseTaskStruct s tsk (memory tsk))) (held : inv s)
    (listed : Listed s) : inv (allocLtsMemForAllThreads s memory) := by
  have walk : Along (fun s p => allocLseTaskStruct s p (memory p)) (fun _ p => p ∈ threads s) s (threads s) :=
    along_forall.mpr (fun p member => member)
  refine (exec_invariant (fun v => inv v ∧ v.live = s.live) (fun v p ⟨held,live⟩ member => ?_) ⟨held,rfl⟩ walk).1
  refine ⟨keeps v p held ?_,(alloc_live v p (memory p)).trans live⟩
  rw [live]
  exact listed p member

/-- The initialisation scans, or only goes on to its next stage. -/
theorem init_cases (s : TaskTable) (memory : ℕ → Option ℕ) :
    (s.stage = .loading ∧ lseTaskStructExtInit s memory = { allocLtsMemForAllThreads s memory with stage := .scanned }) ∨
    (s.stage ≠ .loading ∧ ∃ stage, stage ≠ .loading ∧ lseTaskStructExtInit s memory = { s with stage := stage }) := by
  cases stage : s.stage with
  | loading => exact Or.inl ⟨rfl,by simp only [lseTaskStructExtInit,stage]⟩
  | scanned => exact Or.inr ⟨nofun,.dupRegistered,nofun,by simp only [lseTaskStructExtInit,stage]⟩
  | dupRegistered => exact Or.inr ⟨nofun,.done,nofun,by simp only [lseTaskStructExtInit,stage]⟩
  | done =>
    refine Or.inr ⟨nofun,.done,nofun,?_⟩
    simp only [lseTaskStructExtInit,stage]
    rw [← stage]

theorem tableStep_listed (listed : Listed s) (e : TableEvent) : Listed (tableStep s e) := by
  cases e with
  | init memory =>
    obtain ⟨_,_,made⟩ := init_frame s memory
    rw [tableStep,made]
    exact listed
  | dup orig tsk memory =>
    obtain ⟨_,made⟩ := dup_frame s orig tsk memory
    simp only [tableStep,made]
    split_ifs
    · intro t member
      by_cases own : t = tsk
      · simp [own]
      · simpa [own] using listed t member
    · exact listed
  | attach tsk =>
    simp only [tableStep]
    split_ifs with live
    · intro t member
      simp only [threads,List.append_assoc,List.mem_append,List.mem_singleton] at member
      rcases member with member | rfl | member
      · exact listed t (List.mem_append_left _ member)
      · exact live
      · exact listed t (List.mem_append_right _ member)
    · exact listed
  | detach tsk =>
    intro t member
    rcases List.mem_append.mp member with member | member
    · exact listed t (List.mem_append_left _ (List.mem_of_mem_filter member))
    · exact listed t (List.mem_append_right _ member)
  | free tsk =>
    obtain ⟨_,made⟩ := freeTask_frame s tsk
    simp only [tableStep,made]
    split_ifs with can
    · simp only [frees,Bool.and_eq_true,decide_eq_true_eq] at can
      intro t member
      have other : t ≠ tsk := fun same => can.2 (same ▸ member)
      simpa [other] using listed t member
    · exact listed
  | account tsk f =>
    simp only [tableStep]
    split_ifs
    · exact listed
    · exact listed

/-- A copy that does not keep the original's record starts without one. -/
theorem copy_records {orig : ℕ} (alone : s.clearsVendorData = true ∨ s.records.slot orig = none) :
    (copyTaskStruct s orig tsk).records = s.records.setSlot tsk none := by
  have pointer : (if s.clearsVendorData = true then none else s.records.slot orig) = none := by
    rcases alone with clears | none
    · rw [if_pos clears]
    · rw [none,ite_self]
  rw [copyTaskStruct,pointer]

/-- A fork keeps the records apart exactly when it does not hand on that of the original. -/
theorem separate_dup_iff (sep : Separate ownObject (liveTasks s) s.records) {orig : ℕ} (can : forks s orig tsk = true)
    (memory : Option ℕ) :
    Separate ownObject (liveTasks (dupTaskStruct s orig tsk memory)) (dupTaskStruct s orig tsk memory).records ↔
      s.clearsVendorData = true ∨ s.records.slot orig = none := by
  simp only [forks,Bool.and_eq_true,Bool.not_eq_true'] at can
  obtain ⟨parent,new⟩ := can
  have absent : tsk ∉ liveTasks s := by simp [liveTasks,new]
  by_cases alone : s.clearsVendorData = true ∨ s.records.slot orig = none
  · refine iff_of_true ?_ alone
    have copied : Separate ownObject (liveTasks (copyTaskStruct s orig tsk)) (copyTaskStruct s orig tsk).records := by
      rw [liveTasks_dup,copy_records alone]
      exact separate_enter sep
    simp only [dupTaskStruct]
    split_ifs
    · exact alloc_separate copied memory
    · exact copied
  · refine iff_of_false ?_ alone
    obtain ⟨copies,has⟩ := not_or.mp alone
    obtain ⟨a,holds⟩ := Option.ne_none_iff_exists'.mp has
    have kept : allocLseTaskStruct (copyTaskStruct s orig tsk) tsk memory = copyTaskStruct s orig tsk := by
      rcases alloc_cases (copyTaskStruct s orig tsk) tsk memory with ⟨same,_⟩ | ⟨_,empty,_⟩
      · exact same
      · simp [copyTaskStruct,Cells.setSlot,copies,holds] at empty
    simp only [dupTaskStruct,kept,ite_self]
    rw [liveTasks_dup,copyTaskStruct,if_neg copies]
    exact not_separate_copy parent absent holds

/-- A fork leaves every record with one task exactly when it does not hand on that of the original. -/
theorem ownedOnce_dup_iff (owned : OwnedOnce s) (orig tsk : ℕ) (memory : Option ℕ) :
    OwnedOnce (tableStep s (.dup orig tsk memory)) ↔ NotShared s (.dup orig tsk memory) ∧ NotLost s (.dup orig tsk memory) := by
  by_cases can : forks s orig tsk = true
  · simp only [tableStep,can,if_true,NotShared,true_imp_iff,NotLost,and_true]
    refine ⟨fun after => (separate_dup_iff owned.1 can memory).mp after.1,fun alone => ?_⟩
    have copied : OwnedOnce (copyTaskStruct s orig tsk) := by
      have absent : tsk ∉ liveTasks s := by
        simp only [forks,Bool.and_eq_true,Bool.not_eq_true'] at can
        simp [liveTasks,can.2]
      rw [OwnedOnce,liveTasks_dup,copy_records alone]
      exact ⟨separate_enter owned.1,reached_enter owned.2 none absent⟩
    simp only [dupTaskStruct]
    split_ifs
    · exact alloc_ownedOnce copied (by simp [copyTaskStruct]) memory
    · exact copied
  · simp [tableStep,can,NotShared,NotLost,owned]

/-- The end of a task leaves the records of the others where they are. -/
theorem freeTask_separate (sep : Separate ownObject (liveTasks s) s.records) (can : frees s tsk = true) :
    Separate ownObject (liveTasks (freeTask s tsk)) (freeTask s tsk).records := by
  have here : tsk ∈ liveTasks s := by
    simp only [frees,Bool.and_eq_true] at can
    exact can.1
  obtain ⟨_,made⟩ := freeTask_frame s tsk
  have live : liveTasks (freeTask s tsk) = liveTasks s \ {tsk} := by
    rw [made]
    exact liveTasks_free s.live tsk
  rw [live]
  simp only [freeTask]
  split_ifs
  · exact separate_leave (separate_release sep here) tsk
  · exact separate_leave sep tsk

/-- The end of a task leaves no record behind exactly when the hook frees it or there is none. -/
theorem ownedOnce_free_iff (owned : OwnedOnce s) (tsk : ℕ) :
    OwnedOnce (tableStep s (.free tsk)) ↔ NotShared s (.free tsk) ∧ NotLost s (.free tsk) := by
  by_cases can : frees s tsk = true
  · simp only [tableStep,can,if_true,NotShared,NotLost,true_imp_iff,true_and]
    have here : tsk ∈ liveTasks s := by
      simp only [frees,Bool.and_eq_true] at can
      exact can.1
    by_cases hooked : freeHooked s = true
    · refine iff_of_true ?_ (Or.inl hooked)
      simp only [freeTask]
      rw [if_pos hooked,OwnedOnce,liveTasks,liveTasks_free]
      have released := separate_release owned.1 here
      exact ⟨separate_leave released tsk,(reached_leave_iff released (reached_release owned.2) here).mpr release_slot⟩
    · simp only [freeTask]
      rw [if_neg hooked,OwnedOnce,liveTasks,liveTasks_free]
      have left := reached_leave_iff owned.1 owned.2 here
      exact ⟨fun after => Or.inr (left.mp after.2),
        fun empty => ⟨separate_leave owned.1 tsk,left.mpr (empty.resolve_left hooked)⟩⟩
  · simp [tableStep,can,NotShared,NotLost,owned]

/-- The scan, the hooks and the accounting keep every record its task's; a fork does so
    when it shares no record, and the end of a task when it loses none. -/
theorem ownedOnce_step_iff (listed : Listed s) (owned : OwnedOnce s) (e : TableEvent) :
    OwnedOnce (tableStep s e) ↔ NotShared s e ∧ NotLost s e := by
  cases e with
  | init memory =>
    refine iff_of_true ?_ ⟨trivial,trivial⟩
    rcases init_cases s memory with ⟨_,scans⟩ | ⟨_,_,_,goes_on⟩
    · rw [tableStep,scans]
      exact scan_invariant (s := s) OwnedOnce (fun _ _ owned live => alloc_ownedOnce owned live _) owned listed
    · rw [tableStep,goes_on]
      exact owned
  | dup orig tsk memory => exact ownedOnce_dup_iff owned orig tsk memory
  | attach tsk =>
    refine iff_of_true ?_ ⟨trivial,trivial⟩
    simp only [tableStep]
    split_ifs
    · exact owned
    · exact owned
  | detach tsk => exact iff_of_true owned ⟨trivial,trivial⟩
  | free tsk => exact ownedOnce_free_iff owned tsk
  | account tsk f =>
    refine iff_of_true ?_ ⟨trivial,trivial⟩
    simp only [tableStep]
    split_ifs
    · exact ⟨separate_write owned.1 (fun _ _ own => own),reached_write owned.2⟩
    · exact owned

end

theorem bootTable_listed (clearsVendorData : Bool) (idle tasklist starting : List ℕ) (task : ℕ → TaskStruct) :
    Listed (bootTable clearsVendorData idle tasklist starting task) := by
  intro t member
  exact decide_eq_true (List.mem_append_left starting member)

/-- On every kernel, in every run of forks, exits and accounting beside the initialisation,
    each record is always that of exactly one live task, and none is freed twice or lost,
    exactly when no fork hands a record on and no task with a record is freed before the
    last hook is registered. -/
theorem owned_once_iff (clearsVendorData : Bool) (idle tasklist starting : List ℕ) (task : ℕ → TaskStruct)
    (events : List TableEvent) :
    Along tableStep (fun s e => OwnedOnce (tableStep s e)) (bootTable clearsVendorData idle tasklist starting task) events ↔
      Along tableStep (fun s e => NotShared s e ∧ NotLost s e) (bootTable clearsVendorData idle tasklist starting task)
        events :=
  along_iff (fun s => Listed s ∧ OwnedOnce s) (fun _ e ⟨listed,owned⟩ _ => ownedOnce_step_iff listed owned e)
    (fun _ e ⟨listed,_⟩ _ owned => ⟨tableStep_listed listed e,owned⟩)
    ⟨bootTable_listed clearsVendorData idle tasklist starting task,separate_empty,reached_empty⟩ along_true

/-! ### Who has a record -/

def Tracked (s : TaskTable) : Prop := ∀ t, s.live t = true → s.records.slot t ≠ none

/-- No live task's pointer leads to another's record, and once the scan is over every live
    task has one. -/
def Complete (s : TaskTable) : Prop :=
  Separate ownObject (liveTasks s) s.records ∧ (s.stage ≠ .loading → Tracked s)

/-- The hook leaves the task with a record: it has one, or there is memory for one. -/
def gets (s : TaskTable) (tsk : ℕ) (memory : Option ℕ) : Bool :=
  (s.records.slot tsk).isSome || (s.records.grab memory).isSome

/-- The scan finds every live task and has memory for each, and after it a task is copied
    only without the original's vendor data, and when the hook is registered and has memory. -/
def Tracks (s : TaskTable) : TableEvent → Prop
  | .init memory => s.stage = .loading →
      (∀ t, s.live t = true → t ∈ threads s) ∧
        Along (fun s p => allocLseTaskStruct s p (memory p)) (fun s p => gets s p (memory p) = true) s (threads s)
  | .dup orig tsk memory => s.stage ≠ .loading → forks s orig tsk = true →
      s.clearsVendorData = true ∧ dupHooked s = true ∧ (s.records.grab memory).isSome = true
  | _ => True

section
variable {s : TaskTable} {tsk : ℕ} {memory : Option ℕ}

theorem alloc_slot_other {t : ℕ} (other : t ≠ tsk) :
    (allocLseTaskStruct s tsk memory).records.slot t = s.records.slot t := by
  rcases alloc_cases s tsk memory with ⟨same,_⟩ | ⟨lts,_,_,made⟩
  · rw [same]
  · rw [made]
    exact Function.update_of_ne other _ _

theorem alloc_slot_own : (allocLseTaskStruct s tsk memory).records.slot tsk ≠ none ↔ gets s tsk memory = true := by
  rcases alloc_cases s tsk memory with ⟨same,has | none⟩ | ⟨lts,empty,got,made⟩
  · rw [same]
    simp [gets,has,Option.isSome_iff_ne_none]
  · rw [same]
    simp [gets,none,Option.isSome_iff_ne_none]
  · rw [made]
    simp [gets,got,Cells.install]

theorem alloc_slot_keeps {t : ℕ} (has : s.records.slot t ≠ none) :
    (allocLseTaskStruct s tsk memory).records.slot t ≠ none := by
  by_cases own : t = tsk
  · subst own
    exact alloc_slot_own.mpr (by simp [gets,Option.isSome_iff_ne_none,has])
  · rw [alloc_slot_other own]
    exact has

/-- A cell that is in use stays so. -/
theorem alloc_grab_none {choice : Option ℕ} (none : s.records.grab choice = none) :
    (allocLseTaskStruct s tsk memory).records.grab choice = .none := by
  rcases alloc_cases s tsk memory with ⟨same,_⟩ | ⟨lts,_,_,made⟩
  · rw [same]
    exact none
  · rw [made]
    simp only [Cells.grab,Option.filter_eq_none_iff,Option.isNone_iff_eq_none] at none ⊢
    intro a chosen
    by_cases taken : a = lts
    · simp [Cells.install,taken]
    · simpa [Cells.install,taken] using none a chosen

/-- A walk of the scan leaves all its tasks with a record exactly when each gets one at its turn. -/
theorem scan_tracks_iff (memory : ℕ → Option ℕ) : ∀ (todo : List ℕ) (s : TaskTable),
    (∀ t ∈ todo, (exec (fun s p => allocLseTaskStruct s p (memory p)) s todo).records.slot t ≠ none) ↔
      Along (fun s p => allocLseTaskStruct s p (memory p)) (fun s p => gets s p (memory p) = true) s todo := by
  intro todo
  induction todo with
  | nil => simp
  | cons p rest ih =>
    intro s
    rw [along_cons,← ih,exec_cons]
    constructor
    · intro all
      refine ⟨?_,fun t member => all t (List.mem_cons_of_mem p member)⟩
      by_contra misses
      have untracked := mt alloc_slot_own.mp misses
      have no_memory : s.records.grab (memory p) = none := by
        cases got : s.records.grab (memory p) with
        | none => rfl
        | some lts => exact absurd (by simp [gets,got]) misses
      -- The cell that was offered stays in use, so a later turn of the task fails too.
      refine all p List.mem_cons_self (exec_always
        (fun v : TaskTable => v.records.slot p = none ∧ v.records.grab (memory p) = none) (fun v q held => ?_)
        ⟨not_not.mp untracked,alloc_grab_none no_memory⟩ rest).1
      obtain ⟨empty,none⟩ := held
      refine ⟨?_,alloc_grab_none none⟩
      by_cases own : p = q
      · subst own
        exact not_not.mp (mt alloc_slot_own.mp (by simp [gets,empty,none]))
      · exact (alloc_slot_other own).trans empty
    · rintro ⟨gets,all⟩ t member
      rcases List.mem_cons.mp member with rfl | member
      · exact exec_always (fun v : TaskTable => v.records.slot t ≠ none) (fun _ _ has => alloc_slot_keeps has)
          (alloc_slot_own.mpr gets) rest
      · exact all t member

/-- What the scan does not find has no record after it, as nothing has one before it. -/
theorem scan_tracked_iff {memory : ℕ → Option ℕ} (listed : Listed s) (fresh : ∀ t, s.records.slot t = none) :
    Tracked (allocLtsMemForAllThreads s memory) ↔
      (∀ t, s.live t = true → t ∈ threads s) ∧
        Along (fun s p => allocLseTaskStruct s p (memory p)) (fun s p => gets s p (memory p) = true) s (threads s) := by
  have live : (allocLtsMemForAllThreads s memory).live = s.live := by
    obtain ⟨_,made⟩ := scan_frame s memory
    rw [made]
  rw [← scan_tracks_iff,Tracked,live]
  constructor
  · intro all
    refine ⟨fun t alive => ?_,fun t member => all t (listed t member)⟩
    by_contra missed
    have walk : Along (fun s p => allocLseTaskStruct s p (memory p)) (fun _ p => p ∈ threads s) s (threads s) :=
      along_forall.mpr (fun p member => member)
    refine all t alive (exec_invariant (fun v => v.records.slot t = none) (fun v p empty member => ?_) (fresh t) walk)
    have other : t ≠ p := fun same => missed (same ▸ member)
    exact (alloc_slot_other other).trans empty
  · exact fun ⟨found,all⟩ t alive => all t (found t alive)

/-- Before the scan no task has a record. -/
def Fresh (s : TaskTable) : Prop := s.stage = .loading → ∀ t, s.records.slot t = none

theorem dup_stage {orig : ℕ} : (dupTaskStruct s orig tsk memory).stage = s.stage := by
  obtain ⟨_,made⟩ := dup_frame s orig tsk memory
  rw [made]

theorem dup_live {orig : ℕ} : (dupTaskStruct s orig tsk memory).live = Function.update s.live tsk true := by
  obtain ⟨_,made⟩ := dup_frame s orig tsk memory
  rw [made]

theorem freeTask_stage : (freeTask s tsk).stage = s.stage := by
  obtain ⟨_,made⟩ := freeTask_frame s tsk
  rw [made]

theorem freeTask_live : (freeTask s tsk).live = Function.update s.live tsk false := by
  obtain ⟨_,made⟩ := freeTask_frame s tsk
  rw [made]

theorem freeTask_slot_other {t : ℕ} (other : t ≠ tsk) : (freeTask s tsk).records.slot t = s.records.slot t := by
  simp only [freeTask]
  split_ifs
  · cases has : s.records.slot tsk with
    | none => simp only [freeLseTaskStruct,Cells.release,has]
    | some a => simp [freeLseTaskStruct,Cells.release,has,other]
  · rfl

theorem dup_slot_other {orig t : ℕ} (other : t ≠ tsk) :
    (dupTaskStruct s orig tsk memory).records.slot t = s.records.slot t := by
  have copied : (copyTaskStruct s orig tsk).records.slot t = s.records.slot t := Function.update_of_ne other _ _
  simp only [dupTaskStruct]
  split_ifs
  · exact (alloc_slot_other other).trans copied
  · exact copied

/-- The new task has a record when it keeps the original's, or the hook makes one. -/
theorem dup_slot_own {orig : ℕ} : (dupTaskStruct s orig tsk memory).records.slot tsk ≠ none ↔
    (s.clearsVendorData = false ∧ s.records.slot orig ≠ none) ∨
      (dupHooked s = true ∧ (s.records.grab memory).isSome = true) := by
  have copied : (copyTaskStruct s orig tsk).records.slot tsk ≠ none ↔
      s.clearsVendorData = false ∧ s.records.slot orig ≠ none := by
    cases clears : s.clearsVendorData with
    | true => simp [copyTaskStruct,Cells.setSlot,clears]
    | false => simp [copyTaskStruct,Cells.setSlot,clears]
  have hook : dupHooked (copyTaskStruct s orig tsk) = dupHooked s := rfl
  have pool : (copyTaskStruct s orig tsk).records.grab memory = s.records.grab memory := rfl
  simp only [dupTaskStruct,hook]
  split_ifs with hooked
  · rw [alloc_slot_own,gets,Bool.or_eq_true,Option.isSome_iff_ne_none,copied,pool]
    simp [hooked]
  · rw [copied]
    simp [hooked]

theorem tableStep_fresh (fresh : Fresh s) (e : TableEvent) : Fresh (tableStep s e) := by
  cases e with
  | init memory =>
    rcases init_cases s memory with ⟨_,scans⟩ | ⟨_,_,later,goes_on⟩
    · rw [tableStep,scans]
      exact nofun
    · rw [tableStep,goes_on]
      exact fun loading => absurd loading later
  | dup orig tsk memory =>
    simp only [tableStep]
    split_ifs with can
    · intro loading t
      rw [dup_stage] at loading
      by_cases own : t = tsk
      · rw [own]
        exact not_not.mp (mt dup_slot_own.mp (by simp [fresh loading orig,dupHooked,loading]))
      · exact (dup_slot_other own).trans (fresh loading t)
    · exact fresh
  | attach tsk =>
    simp only [tableStep]
    split_ifs
    · exact fresh
    · exact fresh
  | detach tsk => exact fresh
  | free tsk =>
    simp only [tableStep,freeTask]
    split_ifs with can hooked
    · intro loading
      simp [freeHooked,show s.stage = .loading from loading] at hooked
    · exact fresh
    · exact fresh
  | account tsk f =>
    simp only [tableStep]
    split_ifs
    · intro loading t
      have empty := fresh loading
      simpa only [Cells.write,empty tsk] using empty t
    · exact fresh

/-- A fork after the scan gives the new task a record of its own exactly when the original's
    is not in the copy and the hook makes one. -/
theorem complete_dup_iff (fresh : Fresh s) (complete : Complete s) (orig tsk : ℕ) (memory : Option ℕ) :
    Complete (tableStep s (.dup orig tsk memory)) ↔ Tracks s (.dup orig tsk memory) := by
  by_cases can : forks s orig tsk = true
  · simp only [tableStep,can,if_true,Tracks,true_imp_iff,Complete,dup_stage,separate_dup_iff complete.1 can memory]
    by_cases loading : s.stage = .loading
    · exact iff_of_true ⟨Or.inr (fresh loading orig),fun past => absurd loading past⟩ (fun past => absurd loading past)
    · have parent : s.records.slot orig ≠ none := by
        simp only [forks,Bool.and_eq_true] at can
        exact complete.2 loading orig can.1
      have tracked : Tracked (dupTaskStruct s orig tsk memory) ↔
          (s.clearsVendorData = false ∧ s.records.slot orig ≠ none) ∨
            (dupHooked s = true ∧ (s.records.grab memory).isSome = true) := by
        rw [← dup_slot_own,Tracked,dup_live]
        constructor
        · exact fun all => all tsk (Function.update_self _ _ _)
        · intro here t alive
          by_cases same : t = tsk
          · rw [same]
            exact here
          · rw [dup_slot_other same]
            exact complete.2 loading t (by simpa [same] using alive)
      simp only [ne_eq,loading,not_false_eq_true,true_imp_iff,tracked,parent,or_false,and_true]
      cases s.clearsVendorData with
      | true => simp
      | false => simp
  · simp [tableStep,can,Tracks,complete]

theorem complete_step_iff (listed : Listed s) (fresh : Fresh s) (complete : Complete s) (e : TableEvent) :
    Complete (tableStep s e) ↔ Tracks s e := by
  cases e with
  | init memory =>
    rcases init_cases s memory with ⟨loading,scans⟩ | ⟨past,_,later,goes_on⟩
    · have sep : Separate ownObject (liveTasks (allocLtsMemForAllThreads s memory)) (allocLtsMemForAllThreads s memory).records :=
        scan_invariant (fun s => Separate ownObject (liveTasks s) s.records) (fun _ _ sep _ => alloc_separate sep _)
          complete.1 listed
      rw [tableStep,scans,Tracks,← scan_tracked_iff listed (fresh loading)]
      exact ⟨fun after _ => after.2 nofun,fun tracks => ⟨sep,fun _ => tracks loading⟩⟩
    · rw [tableStep,goes_on]
      exact iff_of_true ⟨complete.1,fun _ => complete.2 past⟩ (fun loading => absurd loading past)
  | dup orig tsk memory => exact complete_dup_iff fresh complete orig tsk memory
  | attach tsk =>
    refine iff_of_true ?_ trivial
    simp only [tableStep]
    split_ifs
    · exact complete
    · exact complete
  | detach tsk => exact iff_of_true complete trivial
  | free tsk =>
    refine iff_of_true ?_ trivial
    simp only [tableStep]
    split_ifs with can
    · refine ⟨freeTask_separate complete.1 can,fun past t alive => ?_⟩
      rw [freeTask_stage] at past
      rw [freeTask_live] at alive
      have other : t ≠ tsk := by
        rintro rfl
        simp at alive
      rw [freeTask_slot_other other]
      exact complete.2 past t (by simpa [other] using alive)
    · exact complete
  | account tsk f =>
    refine iff_of_true ?_ trivial
    simp only [tableStep]
    split_ifs with alive
    · refine ⟨separate_write complete.1 (fun _ _ own => own),fun past t live => ?_⟩
      have before := complete.2 past t live
      cases has : s.records.slot tsk with
      | none => simpa only [Cells.write,has] using before
      | some a => simpa only [Cells.write,has] using before
    · exact complete

end

/-- On every kernel and in every run, no live task's pointer leads to another's record and
    from the scan on every live task has one of its own, exactly when no copied task was
    missing from the list at the scan, and after it none is copied with the original's
    vendor data, before the hook is registered or without memory. -/
theorem tracked_iff (clearsVendorData : Bool) (idle tasklist starting : List ℕ) (task : ℕ → TaskStruct)
    (events : List TableEvent) :
    Along tableStep (fun s e => Complete (tableStep s e)) (bootTable clearsVendorData idle tasklist starting task) events ↔
      Along tableStep Tracks (bootTable clearsVendorData idle tasklist starting task) events :=
  along_iff (fun s => Listed s ∧ Fresh s ∧ Complete s)
    (fun _ e ⟨listed,fresh,complete⟩ _ => complete_step_iff listed fresh complete e)
    (fun _ e ⟨listed,fresh,_⟩ _ complete => ⟨tableStep_listed listed e,tableStep_fresh fresh e,complete⟩)
    ⟨bootTable_listed clearsVendorData idle tasklist starting task,fun _ _ => rfl,separate_empty,fun past => absurd rfl past⟩
    along_true

/-! ### The table of records -/

/-- What happens to the table of records of a `World`. -/
inductive RecordCall where
  /-- A task struct is copied. -/
  | copy (orig tsk : ℕ)
  | alloc (tsk : ℕ)
  | free (tsk : ℕ)
  | account (tsk : ℕ) (f : LseTaskStruct → LseTaskStruct)

def recordCall (w : World) : RecordCall → World
  | .copy orig tsk => { w with task := Function.update w.task tsk (w.task orig) }
  | .alloc tsk => Hooks.allocLseTaskStruct w tsk
  | .free tsk => Hooks.freeLseTaskStruct w tsk
  | .account tsk f =>
    match w.lts tsk with
    | some lts => w.setLts tsk (f lts)
    | none => w

/-- A hook that installs a record makes one in the table. -/
def allocCalls (s : TaskTable) (tsk : ℕ) (memory : Option ℕ) : List RecordCall :=
  if s.records.slot tsk = none ∧ (s.records.grab memory).isSome then [.alloc tsk] else []

/-- What an event does to the table. The record of a task that is freed is out of it, also
    when no hook gave it back. -/
def tableCalls (s : TaskTable) : TableEvent → List RecordCall
  | .init memory =>
    if s.stage = .loading then
      outputs (fun s p => allocLseTaskStruct s p (memory p)) (fun s p => allocCalls s p (memory p)) s (threads s)
    else []
  | .dup orig tsk memory =>
    if forks s orig tsk then
      .copy orig tsk :: (if dupHooked s then allocCalls (copyTaskStruct s orig tsk) tsk memory else [])
    else []
  | .free tsk => if frees s tsk then [.free tsk] else []
  | .account tsk f => if s.live tsk then [.account tsk f] else []
  | .attach _ | .detach _ => []

/-- The table has the records that the live tasks find through their pointers, and no others. -/
structure Implements (s : TaskTable) (w : World) : Prop where
  table : ∀ t, w.lts t = if s.live t then getLseTaskStruct s t else none
  task : w.task = s.task

/-- No two live tasks have one record, and the table is implemented. -/
def Related (s : TaskTable) (w : World) : Prop := Separate ownObject (liveTasks s) s.records ∧ Implements s w

section
variable {s : TaskTable} {w : World} {tsk : ℕ}

theorem alloc_related (related : Related s w) (live : s.live tsk = true) (memory : Option ℕ) :
    Related (allocLseTaskStruct s tsk memory) (exec recordCall w (allocCalls s tsk memory)) := by
  obtain ⟨sep,impl⟩ := related
  refine ⟨alloc_separate sep memory,?_⟩
  rcases alloc_cases s tsk memory with ⟨same,has | none⟩ | ⟨lts,empty,got,made⟩
  · rw [same,allocCalls,if_neg (fun both => has both.1)]
    exact impl
  · rw [same,allocCalls,if_neg (by simp [none])]
    exact impl
  · have absent : w.lts tsk = none := by
      rw [impl.table,if_pos live,getLseTaskStruct,Cells.read,empty]
      rfl
    rw [made,allocCalls,if_pos ⟨empty,by simp [got]⟩]
    simp only [exec_cons,exec_nil,recordCall,Hooks.allocLseTaskStruct,absent]
    refine ⟨fun t => ?_,impl.task⟩
    by_cases alive : s.live t = true
    · rw [if_pos alive,getLseTaskStruct,read_install sep (grab_some got).2 alive]
      by_cases own : t = tsk
      · simp [World.setLts,own,initLseTaskStruct,impl.task]
      · have before := impl.table t
        rw [if_pos alive] at before
        simpa [World.setLts,own,getLseTaskStruct] using before
    · have own : t ≠ tsk := fun same => alive (same ▸ live)
      have before := impl.table t
      rw [if_neg alive] at before ⊢
      simpa [World.setLts,own] using before

theorem scan_related {memory : ℕ → Option ℕ} (listed : Listed s) (related : Related s w) :
    Related (allocLtsMemForAllThreads s memory)
      (exec recordCall w
        (outputs (fun s p => allocLseTaskStruct s p (memory p)) (fun s p => allocCalls s p (memory p)) s (threads s))) := by
  have walk : Along (fun s p => allocLseTaskStruct s p (memory p)) (fun _ p => p ∈ threads s) s (threads s) :=
    along_forall.mpr (fun p member => member)
  refine (exec_simulates (fun v w => Related v w ∧ v.live = s.live) (fun v w p held member => ?_) ⟨related,rfl⟩ walk).1
  obtain ⟨related,live⟩ := held
  refine ⟨alloc_related related ?_ _,(alloc_live v p _).trans live⟩
  rw [live]
  exact listed p member

theorem copy_related (related : Related s w) {orig : ℕ} (can : forks s orig tsk = true)
    (alone : s.clearsVendorData = true ∨ s.records.slot orig = none) :
    Related (copyTaskStruct s orig tsk) (recordCall w (.copy orig tsk)) := by
  obtain ⟨sep,impl⟩ := related
  have absent : s.live tsk = false := by
    simp only [forks,Bool.and_eq_true,Bool.not_eq_true'] at can
    exact can.2
  refine ⟨?_,fun t => ?_,?_⟩
  · rw [liveTasks_dup,copy_records alone]
    exact separate_enter sep
  · simp only [copy_records alone,getLseTaskStruct,read_setSlot_none,recordCall]
    simp only [copyTaskStruct]
    by_cases own : t = tsk
    · simp [own,impl.table tsk,absent]
    · simpa [own,getLseTaskStruct] using impl.table t
  · simp only [recordCall,copyTaskStruct,impl.task]

/-- The end of a task leaves the others' records where they are. -/
theorem freeTask_read (sep : Separate ownObject (liveTasks s) s.records) (here : tsk ∈ liveTasks s) {t : ℕ}
    (live : t ∈ liveTasks s) (other : t ≠ tsk) : getLseTaskStruct (freeTask s tsk) t = getLseTaskStruct s t := by
  simp only [freeTask,getLseTaskStruct]
  split_ifs
  · simp only [freeLseTaskStruct,read_release sep here live,Function.update_of_ne other]
  · rfl

theorem free_related (related : Related s w) (can : frees s tsk = true) :
    Related (freeTask s tsk) (recordCall w (.free tsk)) := by
  obtain ⟨sep,impl⟩ := related
  have here : tsk ∈ liveTasks s := by
    simp only [frees,Bool.and_eq_true] at can
    exact can.1
  refine ⟨freeTask_separate sep can,fun t => ?_,?_⟩
  · simp only [recordCall,Hooks.freeLseTaskStruct,freeTask_live]
    by_cases own : t = tsk
    · simp [own]
    · rw [Function.update_of_ne own,Function.update_of_ne own,impl.table t]
      split_ifs with live
      · exact (freeTask_read sep here live own).symm
      · rfl
  · obtain ⟨_,made⟩ := freeTask_frame s tsk
    rw [made]
    exact impl.task

theorem account_related (related : Related s w) (here : s.live tsk = true) (f : LseTaskStruct → LseTaskStruct) :
    Related { s with records := s.records.write tsk (updateRecord f) } (recordCall w (.account tsk f)) := by
  obtain ⟨sep,impl⟩ := related
  have own_before := impl.table tsk
  rw [if_pos here,getLseTaskStruct] at own_before
  refine ⟨separate_write sep (fun _ _ own => own),fun t => ?_,?_⟩
  · have after : (recordCall w (.account tsk f)).lts t = if t = tsk then (w.lts tsk).map f else w.lts t := by
      cases has : w.lts tsk with
      | none =>
        simp only [recordCall,has]
        split_ifs with own
        · rw [own,has]
          rfl
        · rfl
      | some lts =>
        simp only [recordCall,has,World.setLts,Function.update_apply]
        rfl
    rw [after]
    by_cases alive : s.live t = true
    · simp only [alive,if_true,getLseTaskStruct,read_write sep here alive]
      by_cases own : t = tsk
      · rw [if_pos own,own,Function.update_self,own_before,Option.map_map,Option.map_map]
        rfl
      · rw [if_neg own,Function.update_of_ne own,impl.table t,if_pos alive,getLseTaskStruct]
    · have own : t ≠ tsk := fun same => alive (same ▸ here)
      rw [if_neg own,impl.table t,if_neg alive]
      simp [alive]
  · have kept : (recordCall w (.account tsk f)).task = w.task := by
      simp only [recordCall]
      split
      · rfl
      · rfl
    exact kept.trans impl.task

theorem tableStep_related (listed : Listed s) (related : Related s w) (e : TableEvent) (alone : NotShared s e) :
    Related (tableStep s e) (exec recordCall w (tableCalls s e)) := by
  cases e with
  | init memory =>
    rcases init_cases s memory with ⟨loading,scans⟩ | ⟨past,_,_,goes_on⟩
    · rw [tableStep,scans,tableCalls,if_pos loading]
      obtain ⟨sep,impl⟩ := @scan_related s w memory listed related
      exact ⟨sep,impl.table,impl.task⟩
    · rw [tableStep,goes_on,tableCalls,if_neg past]
      exact ⟨related.1,related.2.table,related.2.task⟩
  | dup orig tsk memory =>
    by_cases can : forks s orig tsk = true
    · have copied := copy_related related can (alone can)
      have hook : dupHooked (copyTaskStruct s orig tsk) = dupHooked s := rfl
      simp only [tableStep,tableCalls,can,if_true,exec_cons,dupTaskStruct,hook]
      split_ifs
      · exact alloc_related copied (by simp [copyTaskStruct]) memory
      · exact copied
    · simpa [tableStep,tableCalls,can] using related
  | attach tsk =>
    simp only [tableStep,tableCalls,exec_nil]
    split_ifs
    · exact ⟨related.1,related.2.table,related.2.task⟩
    · exact related
  | detach tsk => exact ⟨related.1,related.2.table,related.2.task⟩
  | free tsk =>
    by_cases can : frees s tsk = true
    · rw [tableStep,if_pos can,tableCalls,if_pos can]
      exact free_related related can
    · simpa [tableStep,tableCalls,can] using related
  | account tsk f =>
    by_cases here : s.live tsk = true
    · simp only [tableStep,tableCalls,here,if_true,exec_cons,exec_nil]
      exact account_related related here f
    · simpa [tableStep,tableCalls,here] using related

end

/-- In every run in which no fork hands a record on, the pointers implement the table of
    records of the `World`: the scan, the hooks and the accounting do to what the tasks find
    through them what the calls do to the table. -/
theorem records_refined (w : World) (clearsVendorData : Bool) (idle tasklist starting : List ℕ) (task : ℕ → TaskStruct)
    (events : List TableEvent)
    (alone : Along tableStep NotShared (bootTable clearsVendorData idle tasklist starting task) events) :
    Implements (exec tableStep (bootTable clearsVendorData idle tasklist starting task) events)
      (exec recordCall { w with lts := fun _ => none, task := task }
        (outputs tableStep tableCalls (bootTable clearsVendorData idle tasklist starting task) events)) := by
  refine (exec_simulates (fun s w => Listed s ∧ Related s w)
    (fun s w e ⟨listed,related⟩ alone => ⟨tableStep_listed listed e,tableStep_related listed related e alone⟩)
    ⟨bootTable_listed clearsVendorData idle tasklist starting task,separate_empty,fun t => ?_,rfl⟩ alone).2.2
  exact (ite_self none).symm

theorem tableStep_clears (s : TaskTable) (e : TableEvent) : (tableStep s e).clearsVendorData = s.clearsVendorData := by
  cases e with
  | init memory =>
    obtain ⟨_,_,made⟩ := init_frame s memory
    rw [tableStep,made]
  | dup orig tsk memory =>
    obtain ⟨_,made⟩ := dup_frame s orig tsk memory
    rw [tableStep,made,apply_ite TaskTable.clearsVendorData,ite_self]
  | free tsk =>
    obtain ⟨_,made⟩ := freeTask_frame s tsk
    rw [tableStep,made,apply_ite TaskTable.clearsVendorData,ite_self]
  | attach tsk => rw [tableStep,apply_ite TaskTable.clearsVendorData,ite_self]
  | account tsk f => rw [tableStep,apply_ite TaskTable.clearsVendorData,ite_self]
  | detach tsk => rfl

/-- A kernel that clears the vendor data shares no record in any run. -/
theorem notShared_clears (idle tasklist starting : List ℕ) (task : ℕ → TaskStruct) (events : List TableEvent) :
    Along tableStep NotShared (bootTable true idle tasklist starting task) events := by
  have all : Along tableStep (fun _ _ => True) (bootTable true idle tasklist starting task) events := along_true
  refine along_invariant (fun s => s.clearsVendorData = true) (fun s e clears _ => ?_) (fun s e clears _ => ?_) rfl all
  · exact (tableStep_clears s e).trans clears
  · cases e with
    | dup orig tsk memory => exact fun _ => Or.inl clears
    | _ => trivial

/-- Task 2 is forked from 1 once the hooks are registered, accounted and freed. -/
def forkRun : List TableEvent :=
  [.init (fun t => some (100 + t)),.init (fun _ => none),.init (fun _ => none),.dup 1 2 (some 200),.attach 2,
    .account 2 (fun lts => { lts with sum := 5 }),.detach 2,.free 2]

theorem records_refined_forked :
    Along tableStep NotShared (bootTable true [0] [1] [] (fun _ => plainTask)) forkRun ∧
      Implements (exec tableStep (bootTable true [0] [1] [] (fun _ => plainTask)) forkRun)
        (exec recordCall { World.boot 1 (fun _ => plainTask) with lts := fun _ => none, task := fun _ => plainTask }
          (outputs tableStep tableCalls (bootTable true [0] [1] [] (fun _ => plainTask)) forkRun)) :=
  ⟨notShared_clears [0] [1] [] (fun _ => plainTask) forkRun,
    records_refined (World.boot 1 (fun _ => plainTask)) true [0] [1] [] (fun _ => plainTask) forkRun
      (notShared_clears [0] [1] [] (fun _ => plainTask) forkRun)⟩

end LunarSched.TaskRecords
