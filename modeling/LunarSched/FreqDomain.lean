import LunarSched.CpufreqNotifier
import LunarSched.Runs

/-!
The frequency domains of the CPUs. A new policy's CPUs become the domain of every CPU in
the clusters that the policy reaches first, also of CPUs that belong to another policy;
so domains are those of the policies when every policy takes whole clusters. A transition
reaches the cluster of the policy's CPU, and not the other clusters of its domain.
-/
namespace LunarSched.FreqDomain
open LunarSched.Kernel LunarSched.SchedCluster LunarSched.Governor LunarSched.CpufreqNotifier LunarSched.Runs

/-- The policies, numbered, share the possible CPUs out among themselves. A number without
    a CPU is no policy. -/
structure PolicyPartition (t : CpuTopology) where
  relatedCpus : ℕ → Cpumask
  inside : ∀ p cpu, relatedCpus p cpu = true → t.possible cpu = true
  covers : ∀ cpu, t.possible cpu = true → ∃ p, relatedCpus p cpu = true
  disjoint : ∀ p q cpu, relatedCpus p cpu = true → relatedCpus q cpu = true → p = q

/-- A policy that is created: its number, and the policy as it is then. -/
abbrev Creation := ℕ × CpufreqPolicy

def createPolicy (t : CpuTopology) (s : Notified) (e : Creation) : Notified :=
  (cpufreqNotifierPolicy t.nrCpuIds s .createPolicy e.1 e.2).1

def Creates {t : CpuTopology} (parts : PolicyPartition t) (e : Creation) : Prop := e.2.relatedCpus = parts.relatedCpus e.1

/-- The CPUs of the new policy have it for their domain, and those of others what they had. -/
def DomainsMatch {t : CpuTopology} (parts : PolicyPartition t) (s : Notified) (e : Creation) : Prop :=
  (∀ cpu, parts.relatedCpus e.1 cpu = true → (createPolicy t s e).clusters.freqDomain cpu = parts.relatedCpus e.1) ∧
  ∀ p ≠ e.1, ∀ cpu, parts.relatedCpus p cpu = true →
    (createPolicy t s e).clusters.freqDomain cpu = s.clusters.freqDomain cpu

/-- A cluster that has a CPU of the mask has all its CPUs in it. -/
def WholeClusters (s : Clusters) (mask : Cpumask) : Prop :=
  ∀ cpu, mask cpu = true → ∀ other, (s.cluster (s.rqCluster cpu)).cpus other = true → mask other = true

section
variable {t : CpuTopology} {parts : PolicyPartition t} {s : Notified} {e : Creation}

theorem created_clusters : (createPolicy t s e).clusters =
    (visited s.clusters.rqCluster (fun c => (s.clusters.cluster c).cpus) (List.range t.nrCpuIds)
      e.2.relatedCpus).foldl (initFreqDomain e.2) s.clusters := by
  have loop := forEachCluster_eq (fun s i => s.rqCluster i) (initFreqDomain e.2)
    (fun _ _ same => same.rqCluster) (initFreqDomain_same e.2) (List.range t.nrCpuIds) e.2.relatedCpus .null s.clusters
  rw [createPolicy,cpufreqNotifierPolicy]
  simp only [loop]
  rfl

theorem created_same : SameClustering s.clusters (createPolicy t s e).clusters := by
  rw [created_clusters]
  exact foldl_same (initFreqDomain_same e.2) _ _

/-- The mask has a CPU whose cluster it is. -/
def Reaches (s : Clusters) (mask : Cpumask) (c : ClusterPtr) : Prop := ∃ i, mask i = true ∧ s.rqCluster i = c

theorem mem_created_visited (clustered : Clustered t s.clusters) (creates : Creates parts e) {c : ClusterPtr} :
    c ∈ visited s.clusters.rqCluster (fun c => (s.clusters.cluster c).cpus) (List.range t.nrCpuIds) e.2.relatedCpus ↔
      Reaches s.clusters (parts.relatedCpus e.1) c := by
  rw [creates]
  exact mem_visited clustered (parts.inside e.1)

/-- What a creation makes of the flags of the clusters and of the domains of their CPUs. -/
theorem created_done (clustered : Clustered t s.clusters) (creates : Creates parts e) (c : ClusterPtr) :
    ((createPolicy t s e).clusters.cluster c).freqInitDone = true ↔
      (s.clusters.cluster c).freqInitDone = true ∨ Reaches s.clusters (parts.relatedCpus e.1) c := by
  rw [created_clusters,(initFreqDomains _ _ _).2,Bool.or_eq_true,decide_eq_true_eq,mem_created_visited clustered creates]

theorem created_domain_iff (clustered : Clustered t s.clusters) (creates : Creates parts e) {cpu : ℕ}
    (possible : t.possible cpu = true) :
    (∃ c ∈ visited s.clusters.rqCluster (fun c => (s.clusters.cluster c).cpus) (List.range t.nrCpuIds) e.2.relatedCpus,
      (s.clusters.cluster c).freqInitDone = false ∧ (s.clusters.cluster c).cpus cpu = true) ↔
    Reaches s.clusters (parts.relatedCpus e.1) (s.clusters.rqCluster cpu) ∧
      (s.clusters.cluster (s.clusters.rqCluster cpu)).freqInitDone = false := by
  simp only [mem_created_visited clustered creates]
  constructor
  · rintro ⟨c,⟨i,member,rfl⟩,undone,into⟩
    have same := (clustered.mask i cpu (parts.inside _ i member) into).2
    exact ⟨⟨i,member,same.symm⟩,same ▸ undone⟩
  · rintro ⟨reached,undone⟩
    exact ⟨_,reached,undone,clustered.owned cpu possible⟩

theorem created_domain (clustered : Clustered t s.clusters) (creates : Creates parts e) {cpu : ℕ}
    (possible : t.possible cpu = true) (reached : Reaches s.clusters (parts.relatedCpus e.1) (s.clusters.rqCluster cpu))
    (undone : (s.clusters.cluster (s.clusters.rqCluster cpu)).freqInitDone = false) :
    (createPolicy t s e).clusters.freqDomain cpu = parts.relatedCpus e.1 := by
  rw [created_clusters,(initFreqDomains _ _ _).1,
    if_pos ((created_domain_iff clustered creates possible).mpr ⟨reached,undone⟩)]
  exact creates

theorem created_domain_kept (clustered : Clustered t s.clusters) (creates : Creates parts e) {cpu : ℕ}
    (possible : t.possible cpu = true)
    (kept : ¬ (Reaches s.clusters (parts.relatedCpus e.1) (s.clusters.rqCluster cpu) ∧
      (s.clusters.cluster (s.clusters.rqCluster cpu)).freqInitDone = false)) :
    (createPolicy t s e).clusters.freqDomain cpu = s.clusters.freqDomain cpu := by
  rw [created_clusters,(initFreqDomains _ _ _).1,
    if_neg (fun found => kept ((created_domain_iff clustered creates possible).mp found))]

/-- What holds after creations of policies that take whole clusters. -/
structure Domains (parts : PolicyPartition t) (start : Clusters) (s : Notified) : Prop where
  clustered : Clustered t s.clusters
  same : SameClustering start s.clusters
  undone : ∀ cpu, t.possible cpu = true → (s.clusters.cluster (s.clusters.rqCluster cpu)).freqInitDone = false →
    s.clusters.freqDomain cpu = fun other => other == cpu
  done : ∀ cpu, t.possible cpu = true → (s.clusters.cluster (s.clusters.rqCluster cpu)).freqInitDone = true →
    ∃ p, s.clusters.freqDomain cpu = parts.relatedCpus p ∧
      ∀ other, (s.clusters.cluster (s.clusters.rqCluster cpu)).cpus other = true → parts.relatedCpus p other = true

theorem domains_start (clustered : Clustered t s.clusters) (fresh : Fresh t s.clusters) :
    Domains parts s.clusters s := by
  refine ⟨clustered,.refl _,fun cpu possible _ => fresh.domain cpu possible,fun cpu possible done => ?_⟩
  rw [fresh.undone cpu possible] at done
  cases done

theorem whole_same {start : Clusters} (same : SameClustering start s.clusters) (mask : Cpumask) :
    WholeClusters s.clusters mask ↔ WholeClusters start mask := by
  simp only [WholeClusters,same.rqCluster,same.cpus]

/-- A policy that takes whole clusters and reaches the cluster of a CPU has the CPU. -/
theorem whole_reached (clustered : Clustered t s.clusters) (whole : WholeClusters s.clusters (parts.relatedCpus e.1))
    {cpu : ℕ} (possible : t.possible cpu = true)
    (reached : Reaches s.clusters (parts.relatedCpus e.1) (s.clusters.rqCluster cpu)) :
    parts.relatedCpus e.1 cpu = true := by
  obtain ⟨i,member,same⟩ := reached
  exact whole i member cpu (same ▸ clustered.owned cpu possible)

theorem domains_match_of_whole {start : Clusters} (inv : Domains parts start s) (creates : Creates parts e)
    (whole : WholeClusters s.clusters (parts.relatedCpus e.1)) : DomainsMatch parts s e := by
  constructor
  · intro cpu member
    have possible := parts.inside _ cpu member
    cases done : (s.clusters.cluster (s.clusters.rqCluster cpu)).freqInitDone with
    | false => exact created_domain inv.clustered creates possible ⟨cpu,member,rfl⟩ done
    | true =>
      obtain ⟨p,domain,all⟩ := inv.done cpu possible done
      have same : p = e.1 := parts.disjoint p e.1 cpu (all cpu (inv.clustered.owned cpu possible)) member
      rw [created_domain_kept inv.clustered creates possible (by simp [done]),domain,same]
  · intro p other cpu member
    have possible := parts.inside _ cpu member
    refine created_domain_kept inv.clustered creates possible (fun ⟨reached,_⟩ => ?_)
    exact other (parts.disjoint p e.1 cpu member (whole_reached inv.clustered whole possible reached))

theorem whole_of_domains_match {start : Clusters} (inv : Domains parts start s) (creates : Creates parts e)
    (matched : DomainsMatch parts s e) : WholeClusters s.clusters (parts.relatedCpus e.1) := by
  intro i member other into
  have possibleI := parts.inside _ i member
  obtain ⟨possible,same⟩ := inv.clustered.mask i other possibleI into
  cases done : (s.clusters.cluster (s.clusters.rqCluster i)).freqInitDone with
  | true =>
    -- The policy that initialised the cluster has CPU `i`, too.
    obtain ⟨p,_,all⟩ := inv.done i possibleI done
    have own := parts.disjoint p e.1 i (all i (inv.clustered.owned i possibleI)) member
    exact own ▸ all other into
  | false =>
    rw [← same] at done
    have domain := created_domain inv.clustered creates possible ⟨i,member,same.symm⟩ done
    obtain ⟨p,owner⟩ := parts.covers other possible
    by_cases own : p = e.1
    · exact own ▸ owner
    · have kept := matched.2 p own other owner
      rw [domain,inv.undone other possible done] at kept
      rw [kept]
      exact beq_self_eq_true other

theorem domains_step {start : Clusters} (inv : Domains parts start s) (creates : Creates parts e)
    (whole : WholeClusters s.clusters (parts.relatedCpus e.1)) : Domains parts start (createPolicy t s e) := by
  have same := created_same (t := t) (s := s) (e := e)
  refine { clustered := inv.clustered.same same, same := inv.same.trans same, undone := ?_, done := ?_ }
  · intro cpu possible undone
    rw [same.rqCluster,Bool.eq_false_iff,Ne,created_done inv.clustered creates,not_or] at undone
    rw [created_domain_kept inv.clustered creates possible (fun both => undone.2 both.1)]
    exact inv.undone cpu possible (Bool.eq_false_iff.mpr undone.1)
  · intro cpu possible done
    rw [same.rqCluster,created_done inv.clustered creates] at done
    rw [same.rqCluster,same.cpus]
    cases before : (s.clusters.cluster (s.clusters.rqCluster cpu)).freqInitDone with
    | true =>
      rw [created_domain_kept inv.clustered creates possible (by simp [before])]
      exact inv.done cpu possible before
    | false =>
      have reached := done.resolve_left (by simp [before])
      refine ⟨e.1,created_domain inv.clustered creates possible reached before,?_⟩
      exact whole cpu (whole_reached inv.clustered whole possible reached)

/-- In every run of creations the domains are those of the policies exactly when every
    policy that is created takes whole clusters. -/
theorem domains_match_iff (parts : PolicyPartition t) (s : Notified) (clustered : Clustered t s.clusters)
    (fresh : Fresh t s.clusters) (events : List Creation) (creates : ∀ e ∈ events, Creates parts e) :
    Along (createPolicy t) (DomainsMatch parts) s events ↔
      ∀ e ∈ events, WholeClusters s.clusters (parts.relatedCpus e.1) := by
  have constant : Along (createPolicy t) (fun _ e => WholeClusters s.clusters (parts.relatedCpus e.1)) s events ↔ _ :=
    along_forall
  rw [← constant]
  have admitted : Along (createPolicy t) (fun _ e => Creates parts e) s events := along_forall.mpr creates
  refine along_iff (Domains parts s.clusters) ?_ ?_ (domains_start clustered fresh) admitted
  · intro now e inv creates
    rw [← whole_same inv.same]
    exact ⟨whole_of_domains_match inv creates,domains_match_of_whole inv creates⟩
  · exact fun now e inv creates matched => domains_step inv creates (whole_of_domains_match inv creates matched)

end

/-- Two CPUs of one capacity. -/
def twoCpus (ids : ℕ → ℤ) (known : ∀ cpu, -1 ≤ ids cpu) : CpuTopology where
  nrCpuIds := 2
  possible := fun cpu => decide (cpu < 2)
  clusterId := ids
  capacity := fun _ => 1024
  bounded := fun _ possible => of_decide_eq_true possible
  boot := ⟨0,rfl⟩
  known := known

def oneCluster : CpuTopology := twoCpus (fun _ => 0) (fun _ => by decide)

theorem oneCluster_ready : ∃ s, lseSchedClusterInit oneCluster = some s ∧ Clustered oneCluster s ∧ Fresh oneCluster s :=
  discovered_ready (fun _ _ => le_rfl) (by decide +kernel)

def wholePolicy : PolicyPartition oneCluster where
  relatedCpus := fun p cpu => decide (p = 0 ∧ cpu < 2)
  inside := fun p cpu member => by simp at member; simp [oneCluster,twoCpus,member.2]
  covers := fun cpu possible => ⟨0,by simpa [oneCluster,twoCpus] using possible⟩
  disjoint := fun p q cpu memberP memberQ => by simp at memberP memberQ; omega

/-- Each of the two CPUs is a policy. -/
def splitPolicies : PolicyPartition oneCluster where
  relatedCpus := fun p cpu => decide (p = cpu ∧ cpu < 2)
  inside := fun p cpu member => by simp at member; simp [oneCluster,twoCpus,member.2]
  covers := fun cpu possible => ⟨cpu,by simpa [oneCluster,twoCpus] using possible⟩
  disjoint := fun p q cpu memberP memberQ => by simp at memberP memberQ; omega

def creation (parts : PolicyPartition oneCluster) (p : ℕ) : Creation :=
  (p,{ fullPolicy with cpus := parts.relatedCpus p, relatedCpus := parts.relatedCpus p })

theorem domains_match_whole : ∃ s, lseSchedClusterInit oneCluster = some s ∧
    Along (createPolicy oneCluster) (DomainsMatch wholePolicy) ⟨s,fun _ _ => []⟩ [creation wholePolicy 0] := by
  obtain ⟨s,same,clustered,fresh⟩ := oneCluster_ready
  refine ⟨s,same,(domains_match_iff wholePolicy ⟨s,fun _ _ => []⟩ clustered fresh _ ?_).mpr ?_⟩
  · intro e member
    rw [List.mem_singleton.mp member]
    rfl
  · intro e member cpu inside other into
    rw [List.mem_singleton.mp member] at inside ⊢
    have possible := (clustered.mask cpu other (wholePolicy.inside _ cpu inside) into).1
    simpa [creation,wholePolicy,oneCluster,twoCpus] using possible

/-- CPU 0's policy becomes the domain of CPU 1, too. -/
theorem domain_of_another :
    ¬ ∀ (t : CpuTopology) (parts : PolicyPartition t) (s : Notified), Clustered t s.clusters → Fresh t s.clusters →
      ∀ events : List Creation, (∀ e ∈ events, Creates parts e) →
        Along (createPolicy t) (DomainsMatch parts) s events := by
  intro claimed
  obtain ⟨s,same,clustered,fresh⟩ := oneCluster_ready
  have matched := (claimed oneCluster splitPolicies ⟨s,fun _ _ => []⟩ clustered fresh [creation splitPolicies 0]
    (fun e member => List.mem_singleton.mp member ▸ rfl)).1
  have domain : (lseSchedClusterInit oneCluster).map (fun s =>
      (createPolicy oneCluster ⟨s,fun _ _ => []⟩ (creation splitPolicies 0)).clusters.freqDomain 1 0) = some true := by
    decide +kernel
  rw [same,Option.map_some,Option.some.injEq,matched.2 1 (by decide) 1 rfl,fresh.domain 1 rfl] at domain
  exact absurd domain (by decide)

/-! ### Transitions -/

section
variable {t : CpuTopology} {s : Clusters}

theorem setCurFreq_same (newFreq : ℕ) (s : Clusters) (c : ClusterPtr) : SameClustering s (setCurFreq newFreq s c) := by
  refine ⟨rfl,fun d => ?_⟩
  by_cases same : d = c
  · subst same
    simp [setCurFreq,Clusters.setCluster]
  · simp [setCurFreq,Clusters.setCluster,same]

theorem setCurFreqs (newFreq : ℕ) (cs : List ClusterPtr) (s : Clusters) (c : ClusterPtr) :
    ((cs.foldl (setCurFreq newFreq) s).cluster c).curFreq = if c ∈ cs then newFreq else (s.cluster c).curFreq := by
  induction cs generalizing s with
  | nil => rfl
  | cons d cs ih =>
    rw [List.foldl_cons,ih]
    by_cases same : c = d
    · subst same
      simp [setCurFreq,Clusters.setCluster]
    · simp [setCurFreq,Clusters.setCluster,same]

/-- A loop that always looks up one cluster comes to no other. -/
theorem visited_const (cluster : ClusterPtr) (cpusOf : ClusterPtr → Cpumask) :
    ∀ {cpus : List ℕ} {mask : Cpumask}, ∀ c ∈ visited (fun _ => cluster) cpusOf cpus mask, c = cluster := by
  intro cpus
  induction cpus with
  | nil => simp [visited]
  | cons i rest ih =>
    intro mask c
    rw [visited]
    by_cases member : mask i = true
    · rw [if_pos member,List.mem_cons]
      exact fun found => found.elim id (ih c)
    · rw [if_neg member]
      exact ih c

theorem visited_const_some (cluster : ClusterPtr) (cpusOf : ClusterPtr → Cpumask) :
    ∀ {cpus : List ℕ} {mask : Cpumask}, (∃ i ∈ cpus, mask i = true) →
      cluster ∈ visited (fun _ => cluster) cpusOf cpus mask := by
  intro cpus
  induction cpus with
  | nil => simp
  | cons i rest ih =>
    rintro mask ⟨j,inside,memberJ⟩
    rw [visited]
    by_cases member : mask i = true
    · rw [if_pos member]
      exact List.mem_cons_self
    · rw [if_neg member]
      refine ih ⟨j,(List.mem_cons.mp inside).resolve_left ?_,memberJ⟩
      rintro rfl
      exact member memberJ

/-- A transition sets the frequency of the cluster of the policy's CPU, and of no other. -/
theorem transition_curFreq {cpu newFreq : ℕ} (possible : t.possible cpu = true) (own : s.freqDomain cpu cpu = true)
    (positive : newFreq ≠ 0) :
    ∃ s', cpufreqNotifierTrans t.nrCpuIds s .postchange cpu newFreq = some s' ∧
      ∀ c, (s'.cluster c).curFreq = if c = s.rqCluster cpu then newFreq else (s.cluster c).curFreq := by
  refine ⟨_,by rw [cpufreqNotifierTrans,if_neg (by simp),if_neg positive],fun c => ?_⟩
  rw [forEachCluster_eq (fun s _ => s.rqCluster cpu) (setCurFreq newFreq)
    (fun s s' same => by rw [same.rqCluster]) (setCurFreq_same newFreq)]
  rw [setCurFreqs]
  refine if_congr ⟨visited_const _ _ c,?_⟩ rfl rfl
  rintro rfl
  exact visited_const_some _ _ ⟨cpu,List.mem_range.mpr (t.bounded cpu possible),own⟩

/-- The clusters that have a CPU of the domain run at the new frequency, and the others at
    the one they had. -/
def FrequencyUpdated (t : CpuTopology) (s : Clusters) (cpu newFreq : ℕ) (s' : Clusters) : Prop :=
  ∀ c, (∃ i, t.possible i = true ∧ s.rqCluster i = c) →
    ((∃ i, s.freqDomain cpu i = true ∧ (s.cluster c).cpus i = true) → (s'.cluster c).curFreq = newFreq) ∧
    (¬ (∃ i, s.freqDomain cpu i = true ∧ (s.cluster c).cpus i = true) → (s'.cluster c).curFreq = (s.cluster c).curFreq)

/-- A transition is right exactly when the CPUs of the domain that are not in the cluster
    of the policy's CPU run at the new frequency already. -/
theorem frequency_updated_iff (clustered : Clustered t s) (cpu newFreq : ℕ) (possible : t.possible cpu = true)
    (own : s.freqDomain cpu cpu = true) (positive : newFreq ≠ 0) :
    ∃ s', cpufreqNotifierTrans t.nrCpuIds s .postchange cpu newFreq = some s' ∧
      (FrequencyUpdated t s cpu newFreq s' ↔
        ∀ i, t.possible i = true → s.freqDomain cpu i = true →
          s.rqCluster i = s.rqCluster cpu ∨ (s.cluster (s.rqCluster i)).curFreq = newFreq) := by
  obtain ⟨s',same,curFreq⟩ := transition_curFreq possible own positive
  refine ⟨s',same,?_,?_⟩
  · intro updated i possibleI inside
    have reached := (updated (s.rqCluster i) ⟨i,possibleI,rfl⟩).1 ⟨i,inside,clustered.owned i possibleI⟩
    rw [curFreq] at reached
    by_cases one : s.rqCluster i = s.rqCluster cpu
    · exact Or.inl one
    · rw [if_neg one] at reached
      exact Or.inr reached
  · rintro already c ⟨k,possibleK,rfl⟩
    rw [curFreq]
    constructor
    · rintro ⟨i,inside,into⟩
      obtain ⟨possibleI,one⟩ := clustered.mask k i possibleK into
      rw [← one]
      rcases already i possibleI inside with here | running
      · rw [if_pos here]
      · rw [running,ite_self]
    · intro none
      refine if_neg (fun here => none ⟨cpu,own,?_⟩)
      rw [here]
      exact clustered.owned cpu possible

theorem frequency_updated_alone : ∃ s s', lseSchedClusterInit oneCluster = some s ∧
    cpufreqNotifierTrans 2 s .postchange 0 500000 = some s' ∧ FrequencyUpdated oneCluster s 0 500000 s' := by
  obtain ⟨s,ready,clustered,fresh⟩ := oneCluster_ready
  have domain := fresh.domain 0 rfl
  obtain ⟨s',same,updated⟩ := frequency_updated_iff clustered 0 500000 rfl (by rw [domain]; rfl) (by decide)
  refine ⟨s,s',ready,same,updated.mpr (fun i _ inside => Or.inl ?_)⟩
  rw [domain] at inside
  rw [eq_of_beq inside]

theorem natCast_known (cpu : ℕ) : -1 ≤ (cpu : ℤ) := by omega

/-- Each of the two CPUs is a cluster. -/
def twoClusters : CpuTopology := twoCpus (fun cpu => cpu) natCast_known

/-- One policy has both clusters. -/
def sharedPolicy : CpufreqPolicy :=
  { fullPolicy with cpus := fun cpu => decide (cpu < 2), relatedCpus := fun cpu => decide (cpu < 2) }

/-- The cluster of CPU 1 stays behind when CPU 0's policy changes its frequency. -/
theorem frequency_left_behind :
    ¬ ∀ (t : CpuTopology) (s : Clusters), Clustered t s → ∀ cpu newFreq : ℕ, t.possible cpu = true →
      s.freqDomain cpu cpu = true → newFreq ≠ 0 →
      ∃ s', cpufreqNotifierTrans t.nrCpuIds s .postchange cpu newFreq = some s' ∧ FrequencyUpdated t s cpu newFreq s' := by
  intro claimed
  obtain ⟨s,ready,clustered,fresh⟩ :
      ∃ s, lseSchedClusterInit twoClusters = some s ∧ Clustered twoClusters s ∧ Fresh twoClusters s :=
    discovered_ready (fun cpu _ => Int.natCast_nonneg cpu) (by decide +kernel)
  have domains : (lseSchedClusterInit twoClusters).map (fun s =>
      let s := (createPolicy twoClusters ⟨s,fun _ _ => []⟩ (0,sharedPolicy)).clusters
      (s.freqDomain 0 0,s.freqDomain 0 1)) = some (true,true) := by decide +kernel
  have behind : (lseSchedClusterInit twoClusters).bind (fun s =>
      let s := (createPolicy twoClusters ⟨s,fun _ _ => []⟩ (0,sharedPolicy)).clusters
      (cpufreqNotifierTrans 2 s .postchange 0 500000).map (fun s' => (s'.cluster (s.rqCluster 1)).curFreq)) = some 1 := by
    decide +kernel
  simp only [ready,Option.map_some,Option.bind_some,Option.some.injEq,Prod.mk.injEq] at domains behind
  have clustered := clustered.same (created_same (t := twoClusters) (s := ⟨s,fun _ _ => []⟩) (e := (0,sharedPolicy)))
  obtain ⟨s',same,updated⟩ := claimed twoClusters _ clustered 0 500000 rfl domains.1 (by decide)
  have reached := (updated _ ⟨1,rfl,rfl⟩).1 ⟨1,domains.2,clustered.owned 1 rfl⟩
  rw [show twoClusters.nrCpuIds = 2 from rfl] at same
  rw [same,Option.map_some,Option.some.injEq,reached] at behind
  exact absurd behind (by decide)

end

end LunarSched.FreqDomain
