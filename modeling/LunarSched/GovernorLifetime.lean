import LunarSched.GovernorInit
import LunarSched.Runs
import Mathlib.Data.List.Nodup

/-!
What is allocated and who uses it, over all runs of inits and exits. The invariant has the
objects of the attached policies in place and a hook on the tunables for each of them; an
init or an exit that keeps it says by its result whether the policy is attached.
-/
namespace LunarSched.GovernorLifetime
open LunarSched.Governor LunarSched.GovernorInit LunarSched.Runs

section
variable {setup : Setup} {s s' : Gov} {p : ℕ}

def InUse (s : Gov) (tun : ℕ) : Prop := tun < s.tunablesAllocated ∧ GovObject.tunables tun ∉ s.freed

/-- What holds between the calls: the objects of the attached policies are there, the
    tunables that are there have a hook for each of their policies and for no other, and
    what is freed is freed once. A thread that runs is that of an attached policy. -/
structure Lifecycle (setup : Setup) (s : Gov) : Prop where
  unlocked : s.tunablesLock = false
  attached : ∀ p lg, s.governorData p = some lg → lg < s.lgAllocated ∧ GovObject.lgPolicy lg ∉ s.freed ∧
    (s.lgPolicy lg).policy = p ∧
      ∃ tun, (s.lgPolicy lg).tunables = some tun ∧ InUse s tun ∧ lg ∈ (s.tunables tun).policyList
  hooked : ∀ tun, InUse s tun → (s.tunables tun).usageCount = (s.tunables tun).policyList.length ∧
    (s.tunables tun).policyList.Nodup ∧ (s.tunables tun).policyList ≠ [] ∧
      ∀ lg ∈ (s.tunables tun).policyList, ∃ p, s.governorData p = some lg ∧ (s.lgPolicy lg).tunables = some tun
  shared : setup.perPolicy = false → (∀ tun, s.globalTunables = some tun → InUse s tun) ∧
    ∀ p lg, s.governorData p = some lg → (s.lgPolicy lg).tunables = s.globalTunables
  separate : setup.perPolicy = true → s.globalTunables = none
  freedOnce : s.freed.Nodup
  freedMade : ∀ o ∈ s.freed, Made s o
  threadsNodup : s.threads.Nodup
  running : ∀ thread ∈ s.threads, thread < s.threadsCreated ∧
    ∃ p lg, s.governorData p = some lg ∧ (s.lgPolicy lg).thread = some thread ∧ (s.policy p).fastSwitchEnabled = false

theorem failed_inUse (failed : Failed s p s') (tun : ℕ) : InUse s' tun ↔ InUse s tun := by
  obtain ⟨new,freed,_,exactly⟩ := failed.freed
  have made : ∀ o, Made s' o ∧ o ∉ s'.freed ↔ Made s o ∧ o ∉ s.freed := by
    intro o
    rw [freed,List.mem_append,exactly o]
    have := failed.allocated o
    tauto
  exact made (.tunables tun)

theorem failed_lifecycle (inv : Lifecycle setup s) (free : s.governorData p = none) (failed : Failed s p s') :
    Lifecycle setup s' := by
  obtain ⟨new,freed,distinct,exactly⟩ := failed.freed
  refine { unlocked := failed.unlocked, attached := ?_, hooked := ?_, shared := ?_, separate := ?_, freedOnce := ?_
           freedMade := ?_, threadsNodup := failed.threads ▸ inv.threadsNodup, running := ?_ }
  · intro q lg data
    rw [failed.governorData] at data
    obtain ⟨below,alive,own,tun,has,inUse,hook⟩ := inv.attached q lg data
    rw [failed.lgPolicy lg below]
    refine ⟨failed.allocated (.lgPolicy lg) below,?_,own,tun,has,(failed_inUse failed tun).mpr inUse,?_⟩
    · rw [freed,List.mem_append,exactly]
      exact fun member => member.elim (fun fresh => fresh.2 below) alive
    · rw [failed.tunables tun inUse.1]
      exact hook
  · intro tun inUse
    have before := (failed_inUse failed tun).mp inUse
    obtain ⟨count,nodup,some,hooks⟩ := inv.hooked tun before
    rw [failed.tunables tun before.1,failed.governorData]
    refine ⟨count,nodup,some,fun lg member => ?_⟩
    obtain ⟨q,data,has⟩ := hooks lg member
    refine ⟨q,data,?_⟩
    rw [failed.lgPolicy lg (inv.attached q lg data).1]
    exact has
  · intro mode
    obtain ⟨global,all⟩ := inv.shared mode
    rw [failed.globalTunables,failed.governorData]
    refine ⟨fun tun same => (failed_inUse failed tun).mpr (global tun same),fun q lg data => ?_⟩
    rw [failed.lgPolicy lg (inv.attached q lg data).1]
    exact all q lg data
  · intro mode
    rw [failed.globalTunables]
    exact inv.separate mode
  · rw [freed]
    refine List.nodup_append.mpr ⟨distinct,inv.freedOnce,fun o member other before => ?_⟩
    rintro rfl
    exact ((exactly o).mp member).2 (inv.freedMade o before)
  · intro o member
    rw [freed,List.mem_append] at member
    exact member.elim (fun fresh => ((exactly o).mp fresh).1) (fun before => failed.allocated o (inv.freedMade o before))
  · intro thread member
    rw [failed.threads] at member
    obtain ⟨below,q,lg,data,own,off⟩ := inv.running thread member
    have other : q ≠ p := by
      rintro rfl
      simp [free] at data
    rw [failed.governorData]
    refine ⟨below.trans_le failed.threadsCreated,q,lg,data,?_,?_⟩
    · rw [failed.lgPolicy lg (inv.attached q lg data).1]
      exact own
    · rw [failed.policy q other]
      exact off

/-- The new object is known to no policy and to no tunables. -/
theorem attaches_fresh (inv : Lifecycle setup s) : (∀ q, s.governorData q ≠ some s.lgAllocated) ∧
    (∀ tun, InUse s tun → s.lgAllocated ∉ (s.tunables tun).policyList) ∧ GovObject.lgPolicy s.lgAllocated ∉ s.freed := by
  have unknown : ∀ q, s.governorData q ≠ some s.lgAllocated := fun q data => lt_irrefl _ (inv.attached q _ data).1
  refine ⟨unknown,fun tun inUse member => ?_,fun member => lt_irrefl s.lgAllocated (inv.freedMade _ member)⟩
  obtain ⟨q,data,_⟩ := (inv.hooked tun inUse).2.2.2 _ member
  exact unknown q data

/-- A policy that is attached afterwards is the new one or was attached before. -/
theorem attaches_data {tun : ℕ} (attaches : Attaches s p tun s') {q lg : ℕ} (data : s'.governorData q = some lg) :
    (q = p ∧ lg = s.lgAllocated) ∨ (q ≠ p ∧ s.governorData q = some lg) := by
  rw [attaches.governorData,Function.update_apply] at data
  by_cases own : q = p
  · rw [if_pos own] at data
    exact .inl ⟨own,(Option.some.inj data).symm⟩
  · rw [if_neg own] at data
    exact .inr ⟨own,data⟩

theorem attaches_hook {tun : ℕ} (attaches : Attaches s p tun s') (inv : Lifecycle setup s) (free : s.governorData p = none)
    {q lg other : ℕ} (data : s.governorData q = some lg) (has : (s.lgPolicy lg).tunables = some other) :
    s'.governorData q = some lg ∧ (s'.lgPolicy lg).tunables = some other := by
  have own : q ≠ p := by
    rintro rfl
    simp [free] at data
  rw [attaches.governorData,Function.update_of_ne own,attaches.lgPolicy lg (inv.attached q lg data).1]
  exact ⟨data,has⟩

/-- The threads after a success: those before, and that of the new policy if it needs one. -/
theorem attaches_running {tun : ℕ} (attaches : Attaches s p tun s') (inv : Lifecycle setup s) (free : s.governorData p = none) :
    s'.threads.Nodup ∧ ∀ thread ∈ s'.threads, thread < s'.threadsCreated ∧
      ∃ q lg, s'.governorData q = some lg ∧ (s'.lgPolicy lg).thread = some thread ∧
        (s'.policy q).fastSwitchEnabled = false := by
  have kept : ∀ thread ∈ s.threads, ∃ q lg, s'.governorData q = some lg ∧ (s'.lgPolicy lg).thread = some thread ∧
      (s'.policy q).fastSwitchEnabled = false := by
    intro thread member
    obtain ⟨_,q,lg,data,own,off⟩ := inv.running thread member
    have other : q ≠ p := by
      rintro rfl
      simp [free] at data
    refine ⟨q,lg,?_,?_,?_⟩
    · rw [attaches.governorData,Function.update_of_ne other]
      exact data
    · rw [attaches.lgPolicy lg (inv.attached q lg data).1]
      exact own
    · rw [attaches.policy q other]
      exact off
  rcases attaches.thread with ⟨threads,created⟩ | ⟨off,own,threads,created⟩
  · rw [threads,created]
    exact ⟨inv.threadsNodup,fun thread member => ⟨(inv.running thread member).1,kept thread member⟩⟩
  · rw [threads,created]
    have fresh : s.threadsCreated ∉ s.threads := fun member => lt_irrefl _ (inv.running _ member).1
    refine ⟨List.nodup_cons.mpr ⟨fresh,inv.threadsNodup⟩,fun thread member => ?_⟩
    rcases List.mem_cons.mp member with rfl | before
    · refine ⟨Nat.lt_succ_self _,p,s.lgAllocated,?_,own,off⟩
      rw [attaches.governorData,Function.update_self]
    · exact ⟨Nat.lt_succ_of_lt (inv.running thread before).1,kept thread before⟩

/-- Every attached policy has its objects and its hook after a success, when the tunables
    in use stay so and keep their hooks. -/
theorem attaches_attached {tun : ℕ} (attaches : Attaches s p tun s') (inv : Lifecycle setup s)
    (kept : ∀ t, InUse s t → InUse s' t ∧ (s.tunables t).policyList ⊆ (s'.tunables t).policyList)
    (new : InUse s' tun ∧ s.lgAllocated ∈ (s'.tunables tun).policyList) (q lg : ℕ) (data : s'.governorData q = some lg) :
    lg < s'.lgAllocated ∧ GovObject.lgPolicy lg ∉ s'.freed ∧ (s'.lgPolicy lg).policy = q ∧
      ∃ t, (s'.lgPolicy lg).tunables = some t ∧ InUse s' t ∧ lg ∈ (s'.tunables t).policyList := by
  rw [attaches.lgAllocated,attaches.freed]
  rcases attaches_data attaches data with ⟨rfl,rfl⟩ | ⟨_,before⟩
  · exact ⟨Nat.lt_succ_self _,(attaches_fresh inv).2.2,attaches.own.1,tun,attaches.own.2,new⟩
  · obtain ⟨below,alive,own,t,has,there,hook⟩ := inv.attached q lg before
    obtain ⟨inUse,hooks⟩ := kept t there
    rw [attaches.lgPolicy lg below]
    exact ⟨Nat.lt_succ_of_lt below,alive,own,t,has,inUse,hooks hook⟩

/-- The tunables have one hook more. -/
theorem joins_hooked {tun : ℕ} (inv : Lifecycle setup s) (free : s.governorData p = none) (here : InUse s tun)
    (joins : Joins s p tun s') {t : ℕ} (there : InUse s t) :
    (s'.tunables t).usageCount = (s'.tunables t).policyList.length ∧ (s'.tunables t).policyList.Nodup ∧
      (s'.tunables t).policyList ≠ [] ∧
        ∀ lg ∈ (s'.tunables t).policyList, ∃ q, s'.governorData q = some lg ∧ (s'.lgPolicy lg).tunables = some t := by
  obtain ⟨count,nodup,filled,hooks⟩ := inv.hooked t there
  have kept : ∀ lg ∈ (s.tunables t).policyList, ∃ q, s'.governorData q = some lg ∧ (s'.lgPolicy lg).tunables = some t := by
    intro lg member
    obtain ⟨q,data,has⟩ := hooks lg member
    exact ⟨q,attaches_hook joins.toAttaches inv free data has⟩
  by_cases same : t = tun
  · subst same
    rw [joins.hook.1,joins.hook.2,count]
    refine ⟨by simp,List.nodup_cons.mpr ⟨(attaches_fresh inv).2.1 t here,nodup⟩,List.cons_ne_nil _ _,fun lg member => ?_⟩
    rcases List.mem_cons.mp member with rfl | later
    · refine ⟨p,?_,joins.own.2⟩
      rw [joins.governorData,Function.update_self]
    · exact kept lg later
  · rw [joins.tunables t same]
    exact ⟨count,nodup,filled,kept⟩

theorem joins_lifecycle {tun : ℕ} (inv : Lifecycle setup s) (free : s.governorData p = none)
    (mode : setup.perPolicy = false) (global : s.globalTunables = some tun) (joins : Joins s p tun s') :
    Lifecycle setup s' := by
  have inUse : ∀ other, InUse s' other ↔ InUse s other := by
    intro other
    rw [InUse,InUse,joins.tunablesAllocated,joins.freed]
  have here := (inv.shared mode).1 tun global
  obtain ⟨threadsNodup,running⟩ := attaches_running joins.toAttaches inv free
  refine { unlocked := joins.unlocked
           attached := attaches_attached joins.toAttaches inv (fun t there => ⟨(inUse t).mpr there,?_⟩) ?_
           hooked := fun t there => joins_hooked inv free here joins ((inUse t).mp there), shared := fun _ => ?_
           separate := fun other => ?_, freedOnce := ?_, freedMade := ?_, threadsNodup := threadsNodup, running := running }
  · by_cases same : t = tun
    · rw [same,joins.hook.2]
      exact List.subset_cons_self _ _
    · rw [joins.tunables t same]
      exact List.Subset.refl _
  · rw [joins.hook.2]
    exact ⟨(inUse tun).mpr here,List.mem_cons_self⟩
  · rw [joins.globalTunables]
    refine ⟨fun other same => (inUse other).mpr ((inv.shared mode).1 other same),fun q lg data => ?_⟩
    rcases attaches_data joins.toAttaches data with ⟨rfl,rfl⟩ | ⟨_,before⟩
    · rw [joins.own.2,global]
    · rw [joins.lgPolicy lg (inv.attached q lg before).1]
      exact (inv.shared mode).2 q lg before
  · rw [mode] at other
    cases other
  · rw [joins.freed]
    exact inv.freedOnce
  · intro o member
    rw [joins.freed] at member
    exact made_of_le (joins.lgAllocated ▸ Nat.le_succ _) joins.tunablesAllocated.ge (inv.freedMade o member)

/-- The new tunables are in use, and so are those that were. -/
theorem founds_inUse (inv : Lifecycle setup s) (founds : Founds setup s p s') (t : ℕ) :
    InUse s' t ↔ InUse s t ∨ t = s.tunablesAllocated := by
  have unfreed : GovObject.tunables s.tunablesAllocated ∉ s.freed :=
    fun member => lt_irrefl s.tunablesAllocated (inv.freedMade _ member)
  rw [InUse,InUse,founds.tunablesAllocated,founds.freed,Nat.lt_succ_iff_lt_or_eq]
  constructor
  · rintro ⟨below | rfl,away⟩
    · exact .inl ⟨below,away⟩
    · exact .inr rfl
  · rintro (⟨below,away⟩ | rfl)
    · exact ⟨.inl below,away⟩
    · exact ⟨.inr rfl,unfreed⟩

/-- The new tunables have one hook. -/
theorem founds_hooked (inv : Lifecycle setup s) (free : s.governorData p = none) (founds : Founds setup s p s') {t : ℕ}
    (there : InUse s t ∨ t = s.tunablesAllocated) :
    (s'.tunables t).usageCount = (s'.tunables t).policyList.length ∧ (s'.tunables t).policyList.Nodup ∧
      (s'.tunables t).policyList ≠ [] ∧
        ∀ lg ∈ (s'.tunables t).policyList, ∃ q, s'.governorData q = some lg ∧ (s'.lgPolicy lg).tunables = some t := by
  rcases there with before | rfl
  · obtain ⟨count,nodup,filled,hooks⟩ := inv.hooked t before
    rw [founds.tunables t before.1.ne]
    refine ⟨count,nodup,filled,fun lg member => ?_⟩
    obtain ⟨q,data,has⟩ := hooks lg member
    exact ⟨q,attaches_hook founds.toAttaches inv free data has⟩
  · rw [founds.hook.1,founds.hook.2]
    refine ⟨rfl,List.nodup_singleton _,List.cons_ne_nil _ _,fun lg member => ⟨p,?_,?_⟩⟩
    · rw [List.mem_singleton.mp member,founds.governorData,Function.update_self]
    · rw [List.mem_singleton.mp member]
      exact founds.own.2

theorem founds_lifecycle (inv : Lifecycle setup s) (free : s.governorData p = none) (empty : s.globalTunables = none)
    (founds : Founds setup s p s') : Lifecycle setup s' := by
  have inUse := founds_inUse inv founds
  obtain ⟨threadsNodup,running⟩ := attaches_running founds.toAttaches inv free
  refine { unlocked := founds.unlocked
           attached := attaches_attached founds.toAttaches inv (fun t there => ⟨(inUse t).mpr (.inl there),?_⟩) ?_
           hooked := fun t there => founds_hooked inv free founds ((inUse t).mp there), shared := fun mode => ?_
           separate := fun mode => ?_, freedOnce := ?_, freedMade := ?_, threadsNodup := threadsNodup, running := running }
  · rw [founds.tunables t there.1.ne]
    exact List.Subset.refl _
  · rw [founds.hook.2]
    exact ⟨(inUse _).mpr (.inr rfl),List.mem_singleton_self _⟩
  · have global : s'.globalTunables = some s.tunablesAllocated := by simp [founds.globalTunables,mode]
    refine ⟨fun other same => (inUse other).mpr (.inr (Option.some.inj (same.symm.trans global))),fun q lg data => ?_⟩
    rcases attaches_data founds.toAttaches data with ⟨rfl,rfl⟩ | ⟨_,before⟩
    · rw [founds.own.2,global]
    · -- No policy was attached while there were no tunables to share.
      obtain ⟨_,_,_,other,has,_⟩ := inv.attached q lg before
      have none := (inv.shared mode).2 q lg before
      rw [has,empty] at none
      cases none
  · simp [founds.globalTunables,mode]
  · rw [founds.freed]
    exact inv.freedOnce
  · intro o member
    rw [founds.freed] at member
    exact made_of_le (founds.lgAllocated ▸ Nat.le_succ _) (founds.tunablesAllocated ▸ Nat.le_succ _) (inv.freedMade o member)

/-- Tunables remain in use when other policies share them. -/
theorem detaches_inUse {lg tun : ℕ} (count : (s.tunables tun).usageCount = (s.tunables tun).policyList.length)
    (hook : lg ∈ (s.tunables tun).policyList) (detaches : Detaches setup s p lg tun s') :
    ((s.tunables tun).usageCount - 1 = 0 ↔ (s.tunables tun).policyList.erase lg = []) ∧
    ∀ other, InUse s' other ↔ InUse s other ∧ (other = tun → (s.tunables tun).policyList.erase lg ≠ []) := by
  have length : ((s.tunables tun).policyList.erase lg).length = (s.tunables tun).policyList.length - 1 :=
    List.length_erase_of_mem hook
  have positive : 0 < (s.tunables tun).policyList.length := List.length_pos_of_mem hook
  have last : (s.tunables tun).usageCount - 1 = 0 ↔ (s.tunables tun).policyList.erase lg = [] := by
    rw [← List.length_eq_zero_iff,length,count]
    omega
  refine ⟨last,fun other => ?_⟩
  rw [InUse,InUse,detaches.tunablesAllocated,detaches.freed]
  by_cases gone : (s.tunables tun).usageCount - 1 = 0
  · have empty := last.mp gone
    simp only [gone,if_true,empty,List.mem_cons,List.cons_append,List.nil_append,reduceCtorEq,false_or,
      GovObject.tunables.injEq,ne_eq,not_true_eq_false,not_or,imp_false]
    tauto
  · have filled : (s.tunables tun).policyList.erase lg ≠ [] := fun empty => gone (last.mpr empty)
    simp [gone,filled]

/-- The policies that are attached afterwards are the others that were, with other objects. -/
theorem detaches_data {lg tun : ℕ} (inv : Lifecycle setup s) (data : s.governorData p = some lg)
    (detaches : Detaches setup s p lg tun s') (q other : ℕ) :
    s'.governorData q = some other ↔ s.governorData q = some other ∧ other ≠ lg := by
  have own := (inv.attached p lg data).2.2.1
  rw [detaches.governorData,Function.update_apply]
  by_cases same : q = p
  · subst same
    rw [if_pos rfl,data]
    constructor
    · intro none
      cases none
    · rintro ⟨equal,away⟩
      exact absurd (Option.some.inj equal).symm away
  · rw [if_neg same]
    refine (and_iff_left_of_imp ?_).symm
    rintro dataQ rfl
    exact same ((inv.attached q other dataQ).2.2.1.symm.trans own)

/-- The policy's thread is stopped, and the others belong to policies that are still attached. -/
theorem detaches_running {lg tun : ℕ} (inv : Lifecycle setup s) (data : s.governorData p = some lg)
    (detaches : Detaches setup s p lg tun s') :
    s'.threads.Nodup ∧ ∀ thread ∈ s'.threads, thread < s'.threadsCreated ∧
      ∃ q other, s'.governorData q = some other ∧ (s'.lgPolicy other).thread = some thread ∧
        (s'.policy q).fastSwitchEnabled = false := by
  have own := (inv.attached p lg data).2.2.1
  have remaining : s'.threads.Nodup ∧ ∀ thread ∈ s'.threads, thread ∈ s.threads ∧
      ¬ ((s.lgPolicy lg).thread = some thread ∧ (s.policy p).fastSwitchEnabled = false) := by
    rw [detaches.threads.1,stoppedThreads,fastSwitchEnabled,own]
    cases on : (s.policy p).fastSwitchEnabled with
    | true => exact ⟨inv.threadsNodup,fun thread member => ⟨member,fun both => by cases both.2⟩⟩
    | false =>
      cases mine : (s.lgPolicy lg).thread with
      | none => exact ⟨inv.threadsNodup,fun thread member => ⟨member,fun both => by cases both.1⟩⟩
      | some stopped =>
        refine ⟨inv.threadsNodup.erase stopped,fun thread member => ?_⟩
        obtain ⟨away,inside⟩ := inv.threadsNodup.mem_erase_iff.mp member
        exact ⟨inside,fun both => away (Option.some.inj both.1).symm⟩
  refine ⟨remaining.1,fun thread member => ?_⟩
  obtain ⟨inside,notMine⟩ := remaining.2 thread member
  obtain ⟨below,q,other,dataQ,ownQ,off⟩ := inv.running thread inside
  have away : other ≠ lg := by
    rintro rfl
    have same : q = p := (inv.attached q other dataQ).2.2.1.symm.trans own
    exact notMine ⟨ownQ,same ▸ off⟩
  have apart : q ≠ p := by
    rintro rfl
    exact away (Option.some.inj (dataQ.symm.trans data))
  rw [detaches.threads.2,detaches.lgPolicy]
  refine ⟨below,q,other,(detaches_data inv data detaches q other).mpr ⟨dataQ,away⟩,ownQ,?_⟩
  rw [detaches.policy q apart]
  exact off

/-- A policy with another object keeps its hook. -/
theorem detaches_kept {lg tun : ℕ} (inv : Lifecycle setup s) (data : s.governorData p = some lg)
    (has : (s.lgPolicy lg).tunables = some tun) (detaches : Detaches setup s p lg tun s') {q other t : ℕ}
    (dataQ : s.governorData q = some other) (away : other ≠ lg) (hasT : (s.lgPolicy other).tunables = some t) :
    InUse s' t ∧ other ∈ (s'.tunables t).policyList := by
  obtain ⟨_,_,_,_,same,inUse,hook⟩ := inv.attached p lg data
  cases has.symm.trans same
  obtain ⟨_,_,_,_,same',inUseT,hookT⟩ := inv.attached q other dataQ
  cases hasT.symm.trans same'
  obtain ⟨_,remains⟩ := detaches_inUse (inv.hooked tun inUse).1 hook detaches
  by_cases shared : t = tun
  · subst shared
    have member := (List.mem_erase_of_ne away).mpr hookT
    rw [detaches.hook.2]
    exact ⟨(remains t).mpr ⟨inUseT,fun _ => List.ne_nil_of_mem member⟩,member⟩
  · rw [detaches.tunables t shared]
    exact ⟨(remains t).mpr ⟨inUseT,fun same => absurd same shared⟩,hookT⟩

/-- The tunables that remain have the hooks of the policies that do. -/
theorem detaches_hooked {lg tun : ℕ} (inv : Lifecycle setup s) (data : s.governorData p = some lg)
    (has : (s.lgPolicy lg).tunables = some tun) (detaches : Detaches setup s p lg tun s') {t : ℕ} (there : InUse s' t) :
    (s'.tunables t).usageCount = (s'.tunables t).policyList.length ∧ (s'.tunables t).policyList.Nodup ∧
      (s'.tunables t).policyList ≠ [] ∧
        ∀ other ∈ (s'.tunables t).policyList, ∃ q, s'.governorData q = some other ∧ (s'.lgPolicy other).tunables = some t := by
  obtain ⟨_,_,_,_,same,inUse,hook⟩ := inv.attached p lg data
  cases has.symm.trans same
  obtain ⟨_,remains⟩ := detaches_inUse (inv.hooked tun inUse).1 hook detaches
  have attached := detaches_data inv data detaches
  obtain ⟨before,filled⟩ := (remains t).mp there
  obtain ⟨count,nodup,someT,hooks⟩ := inv.hooked t before
  rw [detaches.lgPolicy]
  by_cases shared : t = tun
  · subst shared
    have positive : 0 < (s.tunables t).policyList.length := List.length_pos_of_mem hook
    rw [detaches.hook.1,detaches.hook.2,List.length_erase_of_mem hook,count]
    refine ⟨by omega,nodup.erase lg,filled rfl,fun other member => ?_⟩
    obtain ⟨away,inside⟩ := (nodup.mem_erase_iff).mp member
    obtain ⟨q,dataQ,hasT⟩ := hooks other inside
    exact ⟨q,(attached q other).mpr ⟨dataQ,away⟩,hasT⟩
  · rw [detaches.tunables t shared]
    refine ⟨count,nodup,someT,fun other member => ?_⟩
    obtain ⟨q,dataQ,hasT⟩ := hooks other member
    refine ⟨q,(attached q other).mpr ⟨dataQ,?_⟩,hasT⟩
    rintro rfl
    exact shared (Option.some.inj (hasT.symm.trans has))

/-- What is freed had been allocated, and had not been freed before. -/
theorem detaches_freed {lg tun : ℕ} (inv : Lifecycle setup s) (data : s.governorData p = some lg)
    (has : (s.lgPolicy lg).tunables = some tun) (detaches : Detaches setup s p lg tun s') :
    s'.freed.Nodup ∧ ∀ o ∈ s'.freed, Made s' o := by
  obtain ⟨below,alive,_,_,same,inUse,_⟩ := inv.attached p lg data
  cases has.symm.trans same
  have made : ∀ {o}, Made s o → Made s' o := fun made => made_of_le detaches.lgAllocated.ge detaches.tunablesAllocated.ge made
  rw [detaches.freed]
  constructor
  · rw [List.nodup_cons]
    split
    · exact ⟨by simp [alive],List.nodup_cons.mpr ⟨inUse.2,inv.freedOnce⟩⟩
    · exact ⟨by simp [alive],inv.freedOnce⟩
  · intro o member
    rw [List.mem_cons,List.mem_append] at member
    rcases member with rfl | now | before
    · exact made below
    · split at now
      · rw [List.mem_singleton.mp now]
        exact made inUse.1
      · cases now
    · exact made (inv.freedMade o before)

theorem detaches_lifecycle {lg tun : ℕ} (inv : Lifecycle setup s) (data : s.governorData p = some lg)
    (has : (s.lgPolicy lg).tunables = some tun) (detaches : Detaches setup s p lg tun s') : Lifecycle setup s' := by
  obtain ⟨_,_,_,_,same,inUse,hook⟩ := inv.attached p lg data
  cases has.symm.trans same
  obtain ⟨last,remains⟩ := detaches_inUse (inv.hooked tun inUse).1 hook detaches
  obtain ⟨threadsNodup,running⟩ := detaches_running inv data detaches
  obtain ⟨freedOnce,freedMade⟩ := detaches_freed inv data has detaches
  have attached := detaches_data inv data detaches
  refine { unlocked := detaches.unlocked, attached := ?_, hooked := fun t there => detaches_hooked inv data has detaches there
           shared := fun mode => ?_, separate := fun mode => ?_, freedOnce := freedOnce, freedMade := freedMade
           threadsNodup := threadsNodup, running := running }
  · intro q other dataQ
    obtain ⟨before,away⟩ := (attached q other).mp dataQ
    obtain ⟨below,alive,own,t,hasT,_⟩ := inv.attached q other before
    obtain ⟨inUseT,hookT⟩ := detaches_kept inv data has detaches before away hasT
    rw [detaches.lgAllocated,detaches.lgPolicy,detaches.freed]
    refine ⟨below,?_,own,t,hasT,inUseT,hookT⟩
    split <;> simp [away,alive]
  · obtain ⟨global,all⟩ := inv.shared mode
    have one : s.globalTunables = some tun := (all p lg data).symm.trans has
    rw [detaches.globalTunables,detaches.lgPolicy]
    by_cases gone : (s.tunables tun).usageCount - 1 = 0
    · rw [if_pos ⟨gone,mode⟩]
      refine ⟨by simp,fun q other dataQ => ?_⟩
      -- Nobody else shares the tunables.
      obtain ⟨before,away⟩ := (attached q other).mp dataQ
      obtain ⟨still,_⟩ := detaches_kept inv data has detaches before away ((all q other before).trans one)
      exact absurd (last.mp gone) (((remains tun).mp still).2 rfl)
    · rw [if_neg (fun both => gone both.1)]
      refine ⟨fun t same => (remains t).mpr ⟨global t same,fun _ empty => gone (last.mpr empty)⟩,fun q other dataQ => ?_⟩
      exact all q other ((attached q other).mp dataQ).1
  · rw [detaches.globalTunables,inv.separate mode,ite_self]

end

/-! ### Runs -/

inductive GovCall where
  | init (p : ℕ) (o : InitOutcome)
  | exit (p : ℕ) (memory : Bool)

/-- A state with the calls so far and what they returned. -/
structure Run where
  gov : Gov
  trace : List (GovCall × ℤ)

def step (setup : Setup) (r : Run) : GovCall → Run
  | .init p o => ⟨(lseGovInit setup r.gov p o).2,r.trace ++ [(.init p o,(lseGovInit setup r.gov p o).1)]⟩
  | .exit p memory => ⟨(lseGovExit setup r.gov p memory).getD r.gov,r.trace ++ [(.exit p memory,0)]⟩

/-- The state in which no policy is attached yet. -/
def start (policy : ℕ → CpufreqPolicy) : Run where
  gov :=
    { policy := policy
      governorData := fun _ => none
      dvfsPossibleFromAnyCpu := fun _ => false
      globalTunables := none
      tunablesLock := false
      lgPolicy := fun _ => ⟨0,none,none,Governor.lseGovPolicyAlloc⟩
      lgAllocated := 0
      tunables := fun _ => ⟨0,[],⟨0,0,0,false⟩⟩
      tunablesAllocated := 0
      freed := []
      threads := []
      threadsCreated := 0
      cachedTunables := fun _ => none
      cachedAllocated := 0
      govCpu := fun _ => none }
  trace := []

/-- The core exits the governor of attached policies only. -/
def Admitted (r : Run) : GovCall → Prop
  | .init _ _ => True
  | .exit p _ => (r.gov.governorData p).isSome = true

instance decidableAdmitted (r : Run) : ∀ c, Decidable (Admitted r c)
  | .init _ _ => isTrue trivial
  | .exit p _ => inferInstanceAs (Decidable ((r.gov.governorData p).isSome = true))

/-- Whether the policy is attached after a call, of the inits whose results count. -/
def attachedAfter (counts : ℤ → Bool) (p : ℕ) (before : Bool) : GovCall × ℤ → Bool
  | (.init q _,ret) => if q = p ∧ counts ret then decide (ret = 0) else before
  | (.exit q _,_) => if q = p then false else before

/-- The last init that counts succeeded, and the policy has not exited since. -/
def attachedBy (counts : ℤ → Bool) (p : ℕ) (trace : List (GovCall × ℤ)) : Bool :=
  trace.foldl (attachedAfter counts p) false

/-- Every init counts but those that are refused because the policy is attached. -/
def unrefused (ret : ℤ) : Bool := decide (ret ≠ ebusy)

structure Lifetime (counts : ℤ → Bool) (setup : Setup) (r : Run) : Prop where
  data : ∀ p, (r.gov.governorData p).isSome = attachedBy counts p r.trace
  allocated : ∀ p lg, r.gov.governorData p = some lg → lg < r.gov.lgAllocated ∧ GovObject.lgPolicy lg ∉ r.gov.freed ∧
    ∃ tun, (r.gov.lgPolicy lg).tunables = some tun ∧ InUse r.gov tun
  freedOnce : r.gov.freed.Nodup
  shared : setup.perPolicy = false →
    (r.gov.globalTunables.isSome = true ↔ ∃ p, (r.gov.governorData p).isSome = true) ∧
    ∀ p lg, r.gov.governorData p = some lg → (r.gov.lgPolicy lg).tunables = r.gov.globalTunables
  separate : setup.perPolicy = true → r.gov.globalTunables = none

/-- What an init that returns an error leaves behind. -/
structure FailsAtomically (s : Gov) (p : ℕ) (ret : ℤ) (s' : Gov) : Prop where
  unlocked : s'.tunablesLock = false
  threads : s'.threads = s.threads
  stopped : ret ≠ ebusy → ∀ thread ∈ s'.threads,
    ∃ q ≠ p, ∃ lg, s'.governorData q = some lg ∧ (s'.lgPolicy lg).thread = some thread
  fastSwitch : ret ≠ ebusy → (s'.policy p).fastSwitchEnabled = false
  governorData : s'.governorData = s.governorData
  globalTunables : s'.globalTunables = s.globalTunables
  policies : ∀ q ≠ p, s'.policy q = s.policy q ∧ s'.dvfsPossibleFromAnyCpu q = s.dvfsPossibleFromAnyCpu q
  lgPolicy : ∀ lg < s.lgAllocated, s'.lgPolicy lg = s.lgPolicy lg
  tunables : ∀ tun < s.tunablesAllocated, s'.tunables tun = s.tunables tun
  freed : ∀ o, Made s o → (o ∈ s'.freed ↔ o ∈ s.freed)

/-- The property of a call: what holds after it, and that an init that fails is atomic. -/
def CallCorrect (counts : ℤ → Bool) (setup : Setup) (r : Run) (c : GovCall) : Prop :=
  Lifetime counts setup (step setup r c) ∧
    ∀ p o, c = .init p o → (lseGovInit setup r.gov p o).1 ≠ 0 →
      FailsAtomically r.gov p (lseGovInit setup r.gov p o).1 (lseGovInit setup r.gov p o).2

section
variable {setup : Setup} {r : Run} {s s' : Gov} {p : ℕ}

theorem attachedBy_append (counts : ℤ → Bool) (p : ℕ) (trace : List (GovCall × ℤ)) (c : GovCall × ℤ) :
    attachedBy counts p (trace ++ [c]) = attachedAfter counts p (attachedBy counts p trace) c := by
  simp [attachedBy]

/-- The invariant of runs. -/
structure Tracked (setup : Setup) (r : Run) : Prop where
  lifecycle : Lifecycle setup r.gov
  data : ∀ p, (r.gov.governorData p).isSome = attachedBy unrefused p r.trace

theorem tracked_start (setup : Setup) (policy : ℕ → CpufreqPolicy) : Tracked setup (start policy) := by
  refine ⟨{ unlocked := rfl, attached := ?_, hooked := ?_, shared := fun _ => ⟨?_,?_⟩, separate := fun _ => rfl, freedOnce := .nil
            freedMade := ?_, threadsNodup := .nil, running := ?_ },fun _ => rfl⟩
  · intro p lg data
    cases data
  · intro tun inUse
    exact absurd inUse.1 (Nat.not_lt_zero tun)
  · intro tun same
    cases same
  · intro p lg data
    cases data
  · intro o member
    cases member
  · intro thread member
    cases member

theorem tracked_lifetime (tracked : Tracked setup r) : Lifetime unrefused setup r := by
  have inv := tracked.lifecycle
  refine { data := tracked.data, allocated := ?_, freedOnce := inv.freedOnce, shared := ?_, separate := inv.separate }
  · intro p lg data
    obtain ⟨below,alive,_,tun,has,inUse,_⟩ := inv.attached p lg data
    exact ⟨below,alive,tun,has,inUse⟩
  · intro mode
    obtain ⟨global,all⟩ := inv.shared mode
    refine ⟨⟨fun some => ?_,?_⟩,all⟩
    · obtain ⟨tun,same⟩ := Option.isSome_iff_exists.mp some
      obtain ⟨_,_,filled,hooks⟩ := inv.hooked tun (global tun same)
      obtain ⟨lg,member⟩ := List.exists_mem_of_ne_nil _ filled
      obtain ⟨p,data,_⟩ := hooks lg member
      exact ⟨p,by rw [data]; rfl⟩
    · rintro ⟨p,some⟩
      obtain ⟨lg,data⟩ := Option.isSome_iff_exists.mp some
      obtain ⟨_,_,_,tun,has,_⟩ := inv.attached p lg data
      rw [← all p lg data,has]
      rfl

/-- An init keeps the lifecycle, and says by its result whether the policy is attached. -/
theorem init_lifecycle (inv : Lifecycle setup s) (p : ℕ) (o : InitOutcome) :
    Lifecycle setup (lseGovInit setup s p o).2 ∧
      ∀ q, ((lseGovInit setup s p o).2.governorData q).isSome =
        attachedAfter unrefused q (s.governorData q).isSome (.init p o,(lseGovInit setup s p o).1) := by
  rcases lseGovInit_spec setup s p o inv.unlocked with ⟨_,same⟩ | ⟨free,⟨ret,failed⟩ | ⟨ret,mode,tun,global,joins⟩ |
    ⟨ret,empty,founds⟩⟩
  · rw [same]
    exact ⟨inv,fun q => by simp [attachedAfter,unrefused]⟩
  · refine ⟨failed_lifecycle inv free failed,fun q => ?_⟩
    rw [failed.governorData,attachedAfter]
    split
    · rename_i counts
      rw [← counts.1,free,decide_eq_false ret]
      rfl
    · rfl
  · refine ⟨joins_lifecycle inv free mode global joins,fun q => ?_⟩
    rw [joins.governorData,ret,Function.update_apply]
    by_cases own : q = p
    · simp [attachedAfter,unrefused,ebusy,own]
    · simp [attachedAfter,own,Ne.symm own]
  · refine ⟨founds_lifecycle inv free empty founds,fun q => ?_⟩
    rw [founds.governorData,ret,Function.update_apply]
    by_cases own : q = p
    · simp [attachedAfter,unrefused,ebusy,own]
    · simp [attachedAfter,own,Ne.symm own]

/-- The exit of an attached policy finds its objects. -/
theorem exit_lifecycle (inv : Lifecycle setup s) (attached : (s.governorData p).isSome = true) (memory : Bool) :
    ∃ s', lseGovExit setup s p memory = some s' ∧ Lifecycle setup s' ∧
      ∀ q, (s'.governorData q).isSome = attachedAfter unrefused q (s.governorData q).isSome (.exit p memory,0) := by
  obtain ⟨lg,data⟩ := Option.isSome_iff_exists.mp attached
  obtain ⟨_,_,_,tun,has,_⟩ := inv.attached p lg data
  have detaches := detached setup s p lg tun memory
  refine ⟨detach setup s p lg tun memory,?_,detaches_lifecycle inv data has detaches,fun q => ?_⟩
  · rw [lseGovExit,data,Option.bind_some,has]
    rfl
  · rw [detaches.governorData,Function.update_apply,attachedAfter]
    by_cases own : q = p
    · rw [if_pos own,if_pos own.symm]
      rfl
    · rw [if_neg own,if_neg (Ne.symm own)]

theorem tracked_step (tracked : Tracked setup r) {c : GovCall} (admitted : Admitted r c) : Tracked setup (step setup r c) := by
  cases c with
  | init p o =>
    obtain ⟨lifecycle,data⟩ := init_lifecycle tracked.lifecycle p o
    refine ⟨lifecycle,fun q => ?_⟩
    rw [step,attachedBy_append,← tracked.data q]
    exact data q
  | exit p memory =>
    obtain ⟨s',same,lifecycle,data⟩ := exit_lifecycle tracked.lifecycle admitted memory
    rw [step,same]
    refine ⟨lifecycle,fun q => ?_⟩
    rw [attachedBy_append,← tracked.data q]
    exact data q

theorem init_fails_atomically (inv : Lifecycle setup s) (p : ℕ) (o : InitOutcome) (ret : (lseGovInit setup s p o).1 ≠ 0) :
    FailsAtomically s p (lseGovInit setup s p o).1 (lseGovInit setup s p o).2 := by
  rcases lseGovInit_spec setup s p o inv.unlocked with ⟨_,same⟩ | ⟨free,⟨_,failed⟩ | ⟨zero,_⟩ | ⟨zero,_⟩⟩
  · rw [same]
    exact { unlocked := inv.unlocked, threads := rfl, stopped := fun other => absurd rfl other
            fastSwitch := fun other => absurd rfl other, governorData := rfl, globalTunables := rfl
            policies := fun _ _ => ⟨rfl,rfl⟩, lgPolicy := fun _ _ => rfl, tunables := fun _ _ => rfl
            freed := fun _ _ => Iff.rfl }
  · obtain ⟨new,freed,_,exactly⟩ := failed.freed
    refine { unlocked := failed.unlocked, threads := failed.threads, stopped := fun _ thread member => ?_
             fastSwitch := fun _ => failed.fastSwitch, governorData := failed.governorData
             globalTunables := failed.globalTunables
             policies := fun q other => ⟨failed.policy q other,congrFun failed.dvfsPossibleFromAnyCpu q⟩
             lgPolicy := failed.lgPolicy, tunables := failed.tunables, freed := fun o made => ?_ }
    · obtain ⟨_,q,lg,data,own,_⟩ := (failed_lifecycle inv free failed).running thread member
      refine ⟨q,?_,lg,data,own⟩
      rintro rfl
      simp [failed.governorData,free] at data
    · rw [freed,List.mem_append,exactly]
      exact or_iff_right (fun fresh => fresh.2 made)
  · exact absurd zero ret
  · exact absurd zero ret

/-- In every run of inits and exits of attached policies, the objects of the attached
    policies are there, nothing is freed twice, and an init that fails is atomic. -/
theorem lifetime (setup : Setup) (policy : ℕ → CpufreqPolicy) (calls : List GovCall)
    (admitted : Along (step setup) Admitted (start policy) calls) :
    Along (step setup) (CallCorrect unrefused setup) (start policy) calls := by
  refine along_invariant (Tracked setup) (fun r c tracked => tracked_step tracked) ?_ (tracked_start setup policy) admitted
  intro r c tracked admitted
  refine ⟨tracked_lifetime (tracked_step tracked admitted),fun p o _ failed => ?_⟩
  exact init_fails_atomically tracked.lifecycle p o failed

end

def succeeds : InitOutcome := ⟨false,true,0,0,true,0⟩

/-- Two policies share their tunables, and one of them fails to start its thread at first. -/
def sharedRun : List GovCall :=
  [.init 0 succeeds,.init 1 { succeeds with setscheduler := einval },.init 1 succeeds,.exit 0 true,.exit 1 true]

def sharedSetup : Setup := ⟨2,false,fun p => p⟩

theorem lifetime_shared :
    Along (step sharedSetup) (CallCorrect unrefused sharedSetup) (start (fun _ => fullPolicy)) sharedRun :=
  lifetime sharedSetup (fun _ => fullPolicy) sharedRun (by decide +kernel)

/-- A second init of an attached policy fails and leaves the policy attached. -/
theorem attached_after_refusal :
    ¬ ∀ (setup : Setup) (policy : ℕ → CpufreqPolicy) (calls : List GovCall),
      Along (step setup) Admitted (start policy) calls →
        Along (step setup) (CallCorrect (fun _ => true) setup) (start policy) calls := by
  intro claimed
  have correct := claimed sharedSetup (fun _ => fullPolicy) [.init 0 succeeds,.init 0 succeeds] ⟨trivial,trivial,trivial⟩
  exact absurd (correct.2.1.1.data 0) (by decide +kernel)

end LunarSched.GovernorLifetime
