import LunarSched.GovernorCache
import LunarSched.GovernorLifetime

/-!
The soft limits that are written to sysfs. Policies share their tunables, but a write
applies the new limits to the first policy of the list only, and to none when the value
is the one that is stored; the frequencies of the others are right after it exactly when
they were right before.
-/
namespace LunarSched.SoftLimits
open LunarSched.Governor LunarSched.GovernorInit LunarSched.GovernorLifetime LunarSched.Runs
open LunarSched.GovernorCache (clampingCore)

/-- `lse_gov_update_soft_limit_cpufreq` on an object. -/
def updateSoftLimit (core : Core) (y : GovSysctl) (s : Gov) (lg : ℕ) : Gov :=
  match (s.lgPolicy lg).tunables with
  | some tun =>
    let p := (s.lgPolicy lg).policy
    let (policy,record) := lseGovUpdateSoftLimitCpufreq core y (s.tunables tun).tunables (s.policy p) (s.lgPolicy lg).record
    (s.setPolicy p (fun _ => policy)).setLgPolicy lg (fun l => { l with record := record })
  | none => s

/-- The files `soft_freq_max`, `soft_freq_min` and `soft_freq_cur`. -/
inductive SoftFreq where
  | max
  | min
  | cur
  deriving DecidableEq, Repr

/-- The value is what is stored. -/
def SoftFreq.unchanged (t : LseGovTunables) (value : ℤ) : SoftFreq → Bool
  | .max => t.softFreqMax = value
  | .min => t.softFreqMin = value
  | .cur => t.softFreqMax = value ∧ t.softFreqMin = value

def SoftFreq.set (t : LseGovTunables) (value : ℤ) : SoftFreq → LseGovTunables
  | .max => { t with softFreqMax := value }
  | .min => { t with softFreqMin := value }
  | .cur => { t with softFreqMax := value, softFreqMin := value }

/-- What the three store functions have in common. `parsed` is what `kstrtoint` makes of
    the text. -/
def softFreqStore (f : SoftFreq) (core : Core) (y : GovSysctl) (s : Gov) (tun : ℕ) (parsed : Option ℤ)
    (count : ℤ) : ℤ × Gov :=
  match parsed with
  | none => (einval,s)
  | some value =>
    if f.unchanged (s.tunables tun).tunables value then (count,s)
    else
      let s := s.setTunables tun (fun o => { o with tunables := f.set o.tunables value })
      if (s.tunables tun).tunables.applyFreqImmediately then
        (count,((s.tunables tun).policyList.head?.map (updateSoftLimit core y s)).getD s)
      else (count,s)

def softFreqMaxStore := softFreqStore .max
def softFreqMinStore := softFreqStore .min
def softFreqCurStore := softFreqStore .cur

def SoftFreq.store : SoftFreq → Core → GovSysctl → Gov → ℕ → Option ℤ → ℤ → ℤ × Gov
  | .max => softFreqMaxStore
  | .min => softFreqMinStore
  | .cur => softFreqCurStore

theorem SoftFreq.store_eq (f : SoftFreq) : f.store = softFreqStore f := by
  cases f with
  | max => rfl
  | min => rfl
  | cur => rfl

def applyFreqImmediatelyStore (s : Gov) (tun : ℕ) (parsed : Option ℤ) (count : ℤ) : ℤ × Gov :=
  match parsed with
  | none => (einval,s)
  | some value =>
    (count,s.setTunables tun (fun o => { o with tunables := { o.tunables with applyFreqImmediately := decide (0 < value) } }))

section
variable {core : Core} {y : GovSysctl} {s : Gov} {tun lg : ℕ}

/-- The frequency that the limits ask for, from the one that the policy has. -/
def clamped (core : Core) (y : GovSysctl) (limits : LseGovTunables) (s : Gov) (lg : ℕ) : ℕ :=
  core.driverResolveFreq (s.policy (s.lgPolicy lg).policy)
    (softFreqClamp y limits (s.lgPolicy lg).record (s.lgPolicy lg).record.nextFreq).1

theorem requestFreq_nextFreq (core : Core) (p : CpufreqPolicy) (lg : LseGovPolicy) (nextF : ℕ) :
    (requestFreq core p lg nextF).2.nextFreq = nextF := by
  unfold requestFreq
  split
  · assumption
  · split
    · rfl
    · rfl

theorem updateSoftLimit_nextFreq (has : (s.lgPolicy lg).tunables = some tun) (other : ℕ) :
    ((updateSoftLimit core y s lg).lgPolicy other).record.nextFreq =
      if other = lg then clamped core y (s.tunables tun).tunables s lg else (s.lgPolicy other).record.nextFreq := by
  simp only [updateSoftLimit,has]
  by_cases same : other = lg
  · subst same
    rw [if_pos rfl]
    simp [Gov.setLgPolicy,Gov.setPolicy,lseGovUpdateSoftLimitCpufreq,softLimitRequest,requestFreq_nextFreq,clamped]
  · rw [if_neg same]
    simp [Gov.setLgPolicy,Gov.setPolicy,same]

/-- After the write every policy that shares the tunables has the frequency that the new
    limits ask for. -/
def LimitsReach (core : Core) (y : GovSysctl) (s : Gov) (tun : ℕ) (s' : Gov) : Prop :=
  ∀ lg ∈ (s.tunables tun).policyList,
    (s'.lgPolicy lg).record.nextFreq = clamped core y (s'.tunables tun).tunables s lg

/-- Every policy to which the write does not get has that frequency already: those that are
    not the first, and all when the value is the one that is stored. -/
def AlreadyClamped (f : SoftFreq) (core : Core) (y : GovSysctl) (s : Gov) (tun : ℕ) (value : ℤ) : Prop :=
  ∀ lg ∈ (s.tunables tun).policyList,
    f.unchanged (s.tunables tun).tunables value = true ∨ (s.tunables tun).policyList.head? ≠ some lg →
      (s.lgPolicy lg).record.nextFreq = clamped core y (f.set (s.tunables tun).tunables value) s lg

/-- A value that is stored already changes nothing. -/
theorem set_unchanged {f : SoftFreq} {t : LseGovTunables} {value : ℤ} (same : f.unchanged t value = true) :
    f.set t value = t := by
  cases f with
  | max =>
    simp only [SoftFreq.unchanged,decide_eq_true_eq] at same
    rw [SoftFreq.set,← same]
  | min =>
    simp only [SoftFreq.unchanged,decide_eq_true_eq] at same
    rw [SoftFreq.set,← same]
  | cur =>
    simp only [SoftFreq.unchanged,decide_eq_true_eq] at same
    obtain ⟨max,min⟩ := same
    cases t
    simp only at max min
    subst max
    rw [SoftFreq.set,min]

theorem set_applies (f : SoftFreq) (t : LseGovTunables) (value : ℤ) :
    (f.set t value).applyFreqImmediately = t.applyFreqImmediately := by
  cases f with
  | max => rfl
  | min => rfl
  | cur => rfl

theorem updateSoftLimit_tunables (core : Core) (y : GovSysctl) (s : Gov) (lg : ℕ) :
    (updateSoftLimit core y s lg).tunables = s.tunables := by
  unfold updateSoftLimit
  split
  · rfl
  · rfl

/-- What a write makes of the limits and of the frequencies. -/
theorem softFreqStore_spec (f : SoftFreq) (value count : ℤ) (applies : (s.tunables tun).tunables.applyFreqImmediately = true)
    (shared : ∀ lg ∈ (s.tunables tun).policyList, (s.lgPolicy lg).tunables = some tun) :
    ((softFreqStore f core y s tun (some value) count).2.tunables tun).tunables = f.set (s.tunables tun).tunables value ∧
    ∀ lg, ((softFreqStore f core y s tun (some value) count).2.lgPolicy lg).record.nextFreq =
      if f.unchanged (s.tunables tun).tunables value = true ∨ (s.tunables tun).policyList.head? ≠ some lg then
        (s.lgPolicy lg).record.nextFreq
      else clamped core y (f.set (s.tunables tun).tunables value) s lg := by
  simp only [softFreqStore]
  by_cases same : f.unchanged (s.tunables tun).tunables value = true
  · rw [if_pos same]
    exact ⟨(set_unchanged same).symm,fun lg => by rw [if_pos (.inl same)]⟩
  · rw [if_neg same]
    set stored := s.setTunables tun (fun o => { o with tunables := f.set o.tunables value }) with spec
    have limits : (stored.tunables tun).tunables = f.set (s.tunables tun).tunables value := by simp [spec,Gov.setTunables]
    have list : (stored.tunables tun).policyList = (s.tunables tun).policyList := by simp [spec,Gov.setTunables]
    rw [limits,set_applies,if_pos applies,list]
    cases first : (s.tunables tun).policyList.head? with
    | none => exact ⟨limits,fun lg => by rw [if_pos (.inr (by simp))]; rfl⟩
    | some lg =>
      have has : (stored.lgPolicy lg).tunables = some tun := shared lg (List.mem_of_mem_head? first)
      simp only [Option.map_some,Option.getD_some]
      refine ⟨by rw [updateSoftLimit_tunables,limits],fun other => ?_⟩
      rw [updateSoftLimit_nextFreq has,limits]
      by_cases own : other = lg
      · subst own
        rw [if_pos rfl,if_neg (by simp [same])]
        rfl
      · rw [if_neg own,if_pos (.inr (by simpa using Ne.symm own))]
        rfl

theorem limits_reach_iff (f : SoftFreq) (value count : ℤ) (applies : (s.tunables tun).tunables.applyFreqImmediately = true)
    (shared : ∀ lg ∈ (s.tunables tun).policyList, (s.lgPolicy lg).tunables = some tun) :
    LimitsReach core y s tun (softFreqStore f core y s tun (some value) count).2 ↔ AlreadyClamped f core y s tun value := by
  obtain ⟨limits,nextFreq⟩ := @softFreqStore_spec core y s tun f value count applies shared
  refine forall_congr' (fun lg => forall_congr' (fun member => ?_))
  rw [limits,nextFreq]
  by_cases skipped : f.unchanged (s.tunables tun).tunables value = true ∨ (s.tunables tun).policyList.head? ≠ some lg
  · rw [if_pos skipped]
    exact ⟨fun already _ => already,fun already => already skipped⟩
  · rw [if_neg skipped]
    exact iff_of_true rfl (fun other => absurd other skipped)

end

/-! ### Ownership -/

/-- The states differ in limits, frequencies and requests only: who has which objects and
    threads is the same, and fast switching is turned on for no policy. -/
structure SameOwners (s s' : Gov) : Prop where
  governorData : s'.governorData = s.governorData
  globalTunables : s'.globalTunables = s.globalTunables
  tunablesLock : s'.tunablesLock = s.tunablesLock
  lgPolicy : ∀ lg, (s'.lgPolicy lg).policy = (s.lgPolicy lg).policy ∧
    (s'.lgPolicy lg).tunables = (s.lgPolicy lg).tunables ∧ (s'.lgPolicy lg).thread = (s.lgPolicy lg).thread
  hooks : ∀ tun, (s'.tunables tun).usageCount = (s.tunables tun).usageCount ∧
    (s'.tunables tun).policyList = (s.tunables tun).policyList
  allocated : s'.lgAllocated = s.lgAllocated ∧ s'.tunablesAllocated = s.tunablesAllocated
  freed : s'.freed = s.freed
  threads : s'.threads = s.threads ∧ s'.threadsCreated = s.threadsCreated
  fastSwitch : ∀ p, (s.policy p).fastSwitchEnabled = false → (s'.policy p).fastSwitchEnabled = false

section
variable {core : Core} {y : GovSysctl} {setup : Setup} {s s' s'' : Gov} {tun lg : ℕ}

theorem sameOwners_refl (s : Gov) : SameOwners s s :=
  ⟨rfl,rfl,rfl,fun _ => ⟨rfl,rfl,rfl⟩,fun _ => ⟨rfl,rfl⟩,⟨rfl,rfl⟩,rfl,⟨rfl,rfl⟩,fun _ off => off⟩

theorem sameOwners_trans (first : SameOwners s s') (second : SameOwners s' s'') : SameOwners s s'' where
  governorData := second.governorData.trans first.governorData
  globalTunables := second.globalTunables.trans first.globalTunables
  tunablesLock := second.tunablesLock.trans first.tunablesLock
  lgPolicy lg :=
    have ⟨policy,tunables,thread⟩ := first.lgPolicy lg
    have ⟨policy',tunables',thread'⟩ := second.lgPolicy lg
    ⟨policy'.trans policy,tunables'.trans tunables,thread'.trans thread⟩
  hooks tun := ⟨(second.hooks tun).1.trans (first.hooks tun).1,(second.hooks tun).2.trans (first.hooks tun).2⟩
  allocated := ⟨second.allocated.1.trans first.allocated.1,second.allocated.2.trans first.allocated.2⟩
  freed := second.freed.trans first.freed
  threads := ⟨second.threads.1.trans first.threads.1,second.threads.2.trans first.threads.2⟩
  fastSwitch p off := second.fastSwitch p (first.fastSwitch p off)

theorem sameOwners_made (same : SameOwners s s') (o : GovObject) : Made s' o ↔ Made s o := by
  cases o with
  | lgPolicy n => rw [Made,Made,same.allocated.1]
  | tunables n => rw [Made,Made,same.allocated.2]

theorem sameOwners_inUse (same : SameOwners s s') (tun : ℕ) : InUse s' tun ↔ InUse s tun := by
  rw [InUse,InUse,same.allocated.2,same.freed]

/-- The invariant of the lifetimes is about the owners alone. -/
theorem sameOwners_lifecycle (same : SameOwners s s') (inv : Lifecycle setup s) : Lifecycle setup s' := by
  refine { unlocked := same.tunablesLock.trans inv.unlocked, attached := ?_, hooked := ?_, shared := fun mode => ?_
           separate := fun mode => same.globalTunables.trans (inv.separate mode), freedOnce := ?_, freedMade := ?_
           threadsNodup := ?_, running := ?_ }
  · intro p lg data
    rw [same.governorData] at data
    obtain ⟨below,alive,own,tun,has,inUse,hook⟩ := inv.attached p lg data
    rw [same.allocated.1,same.freed,(same.lgPolicy lg).1,(same.lgPolicy lg).2.1]
    refine ⟨below,alive,own,tun,has,(sameOwners_inUse same tun).mpr inUse,?_⟩
    rw [(same.hooks tun).2]
    exact hook
  · intro tun inUse
    rw [(same.hooks tun).1,(same.hooks tun).2,same.governorData]
    obtain ⟨count,nodup,filled,hooks⟩ := inv.hooked tun ((sameOwners_inUse same tun).mp inUse)
    refine ⟨count,nodup,filled,fun lg member => ?_⟩
    rw [(same.lgPolicy lg).2.1]
    exact hooks lg member
  · obtain ⟨global,all⟩ := inv.shared mode
    rw [same.globalTunables,same.governorData]
    refine ⟨fun tun own => (sameOwners_inUse same tun).mpr (global tun own),fun p lg data => ?_⟩
    rw [(same.lgPolicy lg).2.1]
    exact all p lg data
  · rw [same.freed]
    exact inv.freedOnce
  · intro o member
    rw [same.freed] at member
    exact (sameOwners_made same o).mpr (inv.freedMade o member)
  · rw [same.threads.1]
    exact inv.threadsNodup
  · intro thread member
    rw [same.threads.1] at member
    obtain ⟨below,p,lg,data,own,off⟩ := inv.running thread member
    rw [same.threads.2,same.governorData]
    refine ⟨below,p,lg,data,?_,same.fastSwitch p off⟩
    rw [(same.lgPolicy lg).2.2]
    exact own

theorem setTunables_sameOwners (s : Gov) (tun : ℕ) (f : LseGovTunables → LseGovTunables) :
    SameOwners s (s.setTunables tun (fun o => { o with tunables := f o.tunables })) := by
  refine { sameOwners_refl s with hooks := fun other => ?_ }
  by_cases own : other = tun
  · subst own
    simp [Gov.setTunables]
  · simp [Gov.setTunables,own]

/-- A policy and its record may be anything, as long as fast switching is not turned on. -/
theorem setPolicy_sameOwners (s : Gov) (p lg : ℕ) (policy : CpufreqPolicy) (record : LseGovPolicy)
    (off : (s.policy p).fastSwitchEnabled = false → policy.fastSwitchEnabled = false) :
    SameOwners s ((s.setPolicy p (fun _ => policy)).setLgPolicy lg (fun l => { l with record := record })) := by
  refine { sameOwners_refl s with lgPolicy := fun other => ?_, fastSwitch := fun q => ?_ }
  · by_cases own : other = lg
    · subst own
      simp [Gov.setLgPolicy,Gov.setPolicy]
    · simp [Gov.setLgPolicy,Gov.setPolicy,own]
  · by_cases own : q = p
    · subst own
      simpa [Gov.setLgPolicy,Gov.setPolicy] using off
    · simp [Gov.setLgPolicy,Gov.setPolicy,own]

/-- The driver switches the frequency of policies with fast switching only. -/
theorem requestFreq_off {p : CpufreqPolicy} (off : p.fastSwitchEnabled = false) (record : LseGovPolicy) (nextF : ℕ) :
    (requestFreq core p record nextF).1 = p := by
  unfold requestFreq
  split
  · rfl
  · rw [if_neg (by simp [off])]

theorem updateSoftLimit_sameOwners (core : Core) (y : GovSysctl) (s : Gov) (lg : ℕ) :
    SameOwners s (updateSoftLimit core y s lg) := by
  unfold updateSoftLimit
  split
  · refine setPolicy_sameOwners s _ lg _ _ (fun off => ?_)
    exact (congrArg CpufreqPolicy.fastSwitchEnabled (requestFreq_off off _ _)).trans off
  · exact sameOwners_refl s

theorem softFreqStore_sameOwners (f : SoftFreq) (core : Core) (y : GovSysctl) (s : Gov) (tun : ℕ) (parsed : Option ℤ)
    (count : ℤ) : SameOwners s (softFreqStore f core y s tun parsed count).2 := by
  cases parsed with
  | none => exact sameOwners_refl s
  | some value =>
    have stored := setTunables_sameOwners s tun (fun t => f.set t value)
    simp only [softFreqStore]
    split
    · exact sameOwners_refl s
    · split
      · cases (Gov.tunables _ tun).policyList.head? with
        | none => exact stored
        | some lg => exact sameOwners_trans stored (updateSoftLimit_sameOwners core y _ lg)
      · exact stored

theorem applyFreqImmediatelyStore_sameOwners (s : Gov) (tun : ℕ) (parsed : Option ℤ) (count : ℤ) :
    SameOwners s (applyFreqImmediatelyStore s tun parsed count).2 := by
  cases parsed with
  | none => exact sameOwners_refl s
  | some value => exact setTunables_sameOwners s tun (fun t => { t with applyFreqImmediately := decide (0 < value) })

end

/-- What happens to the policies of the governor: they are attached and taken off, sysfs is
    written to under some sysctls, and the governor and cpufreq go on with a policy in some way. -/
inductive SoftEvent where
  | call (c : GovCall)
  | store (f : SoftFreq) (y : GovSysctl) (tun : ℕ) (parsed : Option ℤ) (count : ℤ)
  | apply (tun : ℕ) (parsed : Option ℤ) (count : ℤ)
  | run (p lg : ℕ) (policy : CpufreqPolicy) (record : LseGovPolicy)

def softStep (core : Core) (setup : Setup) (s : Gov) : SoftEvent → Gov
  | .call (.init p o) => (lseGovInit setup s p o).2
  | .call (.exit p memory) => (lseGovExit setup s p memory).getD s
  | .store f y tun parsed count => (f.store core y s tun parsed count).2
  | .apply tun parsed count => (applyFreqImmediatelyStore s tun parsed count).2
  | .run p lg policy record => (s.setPolicy p (fun _ => policy)).setLgPolicy lg (fun l => { l with record := record })

/-- The core exits attached policies only, the files are those of tunables in use, and
    fast switching is turned on and off by init and exit alone. -/
def SoftAdmitted (s : Gov) : SoftEvent → Prop
  | .call (.init _ _) => True
  | .call (.exit p _) => (s.governorData p).isSome = true
  | .store _ _ tun _ _ => InUse s tun
  | .apply _ _ _ => True
  | .run p _ policy _ => policy.fastSwitchEnabled = (s.policy p).fastSwitchEnabled

section
variable {core : Core} {setup : Setup} {s : Gov}

theorem soft_step {e : SoftEvent} (inv : Lifecycle setup s) (admitted : SoftAdmitted s e) :
    Lifecycle setup (softStep core setup s e) := by
  cases e with
  | call c =>
    cases c with
    | init p o => exact (init_lifecycle inv p o).1
    | exit p memory =>
      obtain ⟨s',same,lifecycle,_⟩ := exit_lifecycle inv admitted memory
      rw [softStep,same]
      exact lifecycle
  | store f y tun parsed count =>
    rw [softStep,f.store_eq]
    exact sameOwners_lifecycle (softFreqStore_sameOwners f core y s tun parsed count) inv
  | apply tun parsed count => exact sameOwners_lifecycle (applyFreqImmediatelyStore_sameOwners s tun parsed count) inv
  | run p lg policy record =>
    exact sameOwners_lifecycle (setPolicy_sameOwners s p lg policy record (fun off => admitted.trans off)) inv

/-- The property of a step: a write of a value that is accepted, while the limits are
    applied immediately, reaches every policy exactly when `reached` says so. -/
def ReachesWhen (reached : SoftFreq → GovSysctl → Gov → ℕ → ℤ → Prop) (core : Core) (s : Gov) (e : SoftEvent) : Prop :=
  ∀ f y tun value count, e = .store f y tun (some value) count → (s.tunables tun).tunables.applyFreqImmediately = true →
    (LimitsReach core y s tun (f.store core y s tun (some value) count).2 ↔ reached f y s tun value)

/-- In every run, a write of a soft limit reaches all policies that share the tunables
    exactly when those that it skips have the right frequency already. -/
theorem limits_reach_along (core : Core) (setup : Setup) (policy : ℕ → CpufreqPolicy) (events : List SoftEvent)
    (admitted : Along (softStep core setup) SoftAdmitted (start policy).gov events) :
    Along (softStep core setup) (ReachesWhen (fun f y s tun value => AlreadyClamped f core y s tun value) core)
      (start policy).gov events := by
  refine along_invariant (Lifecycle setup) (fun s e inv ok => soft_step inv ok) ?_ (tracked_start setup policy).lifecycle admitted
  rintro s e inv ok f y tun value count rfl applies
  rw [f.store_eq]
  refine limits_reach_iff f value count applies (fun lg member => ?_)
  obtain ⟨_,_,has⟩ := (inv.hooked tun ok).2.2.2 lg member
  exact has

end

instance decidableSoftAdmitted (s : Gov) : ∀ e, Decidable (SoftAdmitted s e)
  | .call (.init _ _) => isTrue trivial
  | .call (.exit p _) => inferInstanceAs (Decidable ((s.governorData p).isSome = true))
  | .store _ _ tun _ _ => inferInstanceAs (Decidable (tun < s.tunablesAllocated ∧ GovObject.tunables tun ∉ s.freed))
  | .apply _ _ _ => isTrue trivial
  | .run p _ policy _ => inferInstanceAs (Decidable (policy.fastSwitchEnabled = (s.policy p).fastSwitchEnabled))

/-- Two policies share their tunables and run at these frequencies when the file is written. -/
def sharedWrite (first second : ℕ) : List SoftEvent :=
  [.call (.init 0 succeeds),.call (.init 1 succeeds),.run 0 0 fullPolicy { Governor.lseGovPolicyAlloc with nextFreq := first },
    .run 1 1 fullPolicy { Governor.lseGovPolicyAlloc with nextFreq := second },
    .store .max govSysctlDefaults 0 (some 1500000) 8]

/-- The state before the write. -/
def sharedPolicies (first second : ℕ) : Gov :=
  exec (softStep clampingCore sharedSetup) (start (fun _ => fullPolicy)).gov ((sharedWrite first second).take 4)

/-- The policy that was attached first is below the new limit already. -/
theorem limits_reach_below :
    LimitsReach clampingCore govSysctlDefaults (sharedPolicies 1000000 2000000) 0
      (SoftFreq.max.store clampingCore govSysctlDefaults (sharedPolicies 1000000 2000000) 0 (some 1500000) 8).2 := by
  obtain ⟨_,_,_,_,write,_⟩ := limits_reach_along clampingCore sharedSetup (fun _ => fullPolicy) (sharedWrite 1000000 2000000)
    (by decide +kernel)
  refine (write .max govSysctlDefaults 0 1500000 8 rfl (by decide +kernel)).mpr ?_
  unfold AlreadyClamped
  decide +kernel

/-- The policy that was attached first stays above the new limit. -/
theorem limit_missed :
    ¬ ∀ (core : Core) (setup : Setup) (policy : ℕ → CpufreqPolicy) (events : List SoftEvent),
      Along (softStep core setup) SoftAdmitted (start policy).gov events →
        Along (softStep core setup) (ReachesWhen (fun _ _ _ _ _ => True) core) (start policy).gov events := by
  intro claimed
  obtain ⟨_,_,_,_,write,_⟩ := claimed clampingCore sharedSetup (fun _ => fullPolicy) (sharedWrite 2000000 1000000)
    (by decide +kernel)
  have reached := (write .max govSysctlDefaults 0 1500000 8 rfl (by decide +kernel)).mpr trivial 0 (by decide +kernel)
  exact absurd reached (by decide +kernel)

end LunarSched.SoftLimits
