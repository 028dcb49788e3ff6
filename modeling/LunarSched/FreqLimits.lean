import LunarSched.QosBlocks

/-!
The limits of the clusters. A new policy sets the limits of the clusters that it is the
first to come to, and a change of one of its limits is told to the cluster that the
notifier came to last. So the clusters of the live policies have their limits as long as a
new policy finds its limits on the clusters that it shares, and a change finds the new
limit everywhere but on that one cluster (`limits_follow_iff`); where the policies are the
clusters, always.
-/
namespace LunarSched.FreqLimits
open LunarSched.Machine LunarSched.Kernel LunarSched.SchedCluster LunarSched.Governor LunarSched.CpufreqNotifier
open LunarSched.FreqDomain LunarSched.Runs
open LunarSched.QosBlocks (LastOpens exists_lastOpens created_registered opens_same)

def policyLimit (data : CpufreqPolicy) : FreqQosReqType → ℕ
  | .min => data.min
  | .max => data.max

def clusterLimit (c : SchedCluster.LseSchedCluster) : FreqQosReqType → ℕ
  | .min => c.minFreq
  | .max => c.maxFreq

/-- The state of the notifiers, with the policies that there are and their limits. -/
structure Limited where
  notified : Notified
  live : ℕ → Bool
  limit : ℕ → FreqQosReqType → ℕ

inductive LimitEvent where
  | created (policy : ℕ) (data : CpufreqPolicy)
  | changed (policy : ℕ) (type : FreqQosReqType) (freq : ℕ)

def limitStep (t : CpuTopology) (r : Limited) : LimitEvent → Limited
  | .created p data =>
    ⟨createPolicy t r.notified (p,data),Function.update r.live p true,Function.update r.limit p (policyLimit data)⟩
  | .changed p k freq =>
    ⟨freqQosNotify r.notified p k freq,r.live,Function.update r.limit p (Function.update (r.limit p) k freq)⟩

/-- No policy has been created. -/
def unlimited (s : Clusters) : Limited := ⟨⟨s,fun _ _ => []⟩,fun _ => false,fun _ _ => 0⟩

section
variable {t : CpuTopology}

/-- A policy that is created has CPUs and is not there yet; one whose limit changes is there,
    and the limit is a word. -/
def Admitted (parts : PolicyPartition t) (r : Limited) : LimitEvent → Prop
  | .created p data => r.live p = false ∧ data.relatedCpus = parts.relatedCpus p ∧ ∃ cpu, parts.relatedCpus p cpu = true
  | .changed p _ freq => r.live p = true ∧ freq < 4294967296

/-- The clusters of every live policy have its limits. -/
def Follows (parts : PolicyPartition t) (r : Limited) : Prop :=
  ∀ p, r.live p = true → ∀ cpu, parts.relatedCpus p cpu = true → ∀ k,
    clusterLimit (r.notified.clusters.cluster (r.notified.clusters.rqCluster cpu)) k = r.limit p k

/-- A new policy finds its limits on its clusters that are initialised already. A change finds
    the new limit on the policy's clusters but the last one, which has it from now on, and it
    is the limit of every other policy with a CPU in that one. -/
def Finds (parts : PolicyPartition t) (r : Limited) : LimitEvent → Prop
  | .created p data => ∀ cpu, parts.relatedCpus p cpu = true →
      (r.notified.clusters.cluster (r.notified.clusters.rqCluster cpu)).freqInitDone = true →
      ∀ k, clusterLimit (r.notified.clusters.cluster (r.notified.clusters.rqCluster cpu)) k = policyLimit data k
  | .changed p k freq => ∀ i, LastOpens r.notified.clusters (parts.relatedCpus p) i →
      (∀ cpu, parts.relatedCpus p cpu = true →
        r.notified.clusters.rqCluster cpu ≠ r.notified.clusters.rqCluster i → r.limit p k = freq) ∧
      ∀ q ≠ p, r.live q = true →
        Reaches r.notified.clusters (parts.relatedCpus q) (r.notified.clusters.rqCluster i) → r.limit q k = freq

theorem initFreqDomain_limit (policy : CpufreqPolicy) (s : Clusters) (c d : ClusterPtr) (k : FreqQosReqType) :
    clusterLimit ((initFreqDomain policy s c).cluster d) k =
      if d = c ∧ (s.cluster d).freqInitDone = false then policyLimit policy k else clusterLimit (s.cluster d) k := by
  unfold initFreqDomain
  by_cases here : d = c
  · subst here
    cases done : (s.cluster d).freqInitDone with
    | true => simp
    | false => cases k <;> simp [Clusters.setCluster,clusterLimit,policyLimit]
  · split_ifs <;> simp_all [Clusters.setCluster]

theorem initFreqDomains_limit (policy : CpufreqPolicy) (cs : List ClusterPtr) (s : Clusters) (d : ClusterPtr)
    (k : FreqQosReqType) : clusterLimit ((cs.foldl (initFreqDomain policy) s).cluster d) k =
      if d ∈ cs ∧ (s.cluster d).freqInitDone = false then policyLimit policy k else clusterLimit (s.cluster d) k := by
  induction cs generalizing s with
  | nil => simp
  | cons c cs ih =>
    rw [List.foldl_cons,ih,initFreqDomain_done,initFreqDomain_limit]
    by_cases here : d = c
    · subst here
      simp
    · simp [here]

theorem notifierCall_same (freq : ℕ) (s : Clusters) (nb : NotifierBlock) : SameClustering s (notifierCall freq s nb) := by
  unfold notifierCall cpufreqUpdateMin cpufreqUpdateMax
  refine ⟨by cases nb.kind <;> rfl,fun d => ?_⟩
  by_cases here : d = nb.cluster
  · subst here
    cases nb.kind <;> simp [Clusters.setCluster]
  · cases nb.kind <;> simp [Clusters.setCluster,here]

theorem notifierCall_done (freq : ℕ) (s : Clusters) (nb : NotifierBlock) (d : ClusterPtr) :
    ((notifierCall freq s nb).cluster d).freqInitDone = (s.cluster d).freqInitDone := by
  unfold notifierCall cpufreqUpdateMin cpufreqUpdateMax
  by_cases here : d = nb.cluster
  · subst here
    cases nb.kind <;> simp [Clusters.setCluster]
  · cases nb.kind <;> simp [Clusters.setCluster,here]

theorem notifierCall_limit (freq : ℕ) (s : Clusters) (c d : ClusterPtr) (k l : FreqQosReqType) :
    clusterLimit ((notifierCall freq s ⟨c,k⟩).cluster d) l =
      if d = c ∧ l = k then u32 freq else clusterLimit (s.cluster d) l := by
  unfold notifierCall cpufreqUpdateMin cpufreqUpdateMax
  by_cases here : d = c
  · subst here
    cases k <;> cases l <;> simp [Clusters.setCluster,clusterLimit]
  · cases k <;> simp [Clusters.setCluster,here]

end

/-- What holds after every run: the clusters of the live policies are initialised, and each
    of them has its blocks with the cluster to which its notifier came last. -/
structure Notifying (parts : PolicyPartition t) (r : Limited) : Prop where
  clustered : Clustered t r.notified.clusters
  some : ∀ p, r.live p = true → ∃ cpu, parts.relatedCpus p cpu = true
  done : ∀ p, r.live p = true → ∀ cpu, parts.relatedCpus p cpu = true →
    (r.notified.clusters.cluster (r.notified.clusters.rqCluster cpu)).freqInitDone = true
  live : ∀ p, r.live p = true → ∀ i, LastOpens r.notified.clusters (parts.relatedCpus p) i →
    ∀ k, r.notified.registered p k = [⟨r.notified.clusters.rqCluster i,k⟩]
  idle : ∀ p, r.live p = false → ∀ k, r.notified.registered p k = []

section
variable {t : CpuTopology} {parts : PolicyPartition t} {r : Limited}

theorem created_limit_new (clustered : Clustered t r.notified.clusters) {p : ℕ} {data : CpufreqPolicy}
    (creates : data.relatedCpus = parts.relatedCpus p) {c : ClusterPtr}
    (reached : Reaches r.notified.clusters (parts.relatedCpus p) c)
    (undone : (r.notified.clusters.cluster c).freqInitDone = false) (k : FreqQosReqType) :
    clusterLimit ((createPolicy t r.notified (p,data)).clusters.cluster c) k = policyLimit data k := by
  rw [created_clusters,initFreqDomains_limit]
  exact if_pos ⟨(mem_created_visited (e := (p,data)) clustered creates).mpr reached,undone⟩

theorem created_limit_kept {p : ℕ} {data : CpufreqPolicy} {c : ClusterPtr}
    (done : (r.notified.clusters.cluster c).freqInitDone = true) (k : FreqQosReqType) :
    clusterLimit ((createPolicy t r.notified (p,data)).clusters.cluster c) k =
      clusterLimit (r.notified.clusters.cluster c) k := by
  rw [created_clusters,initFreqDomains_limit]
  exact if_neg (by simp [done])

/-- A live policy's change is told to its last cluster. -/
theorem changed_clusters (notifying : Notifying parts r) {p i : ℕ} (live : r.live p = true)
    (last : LastOpens r.notified.clusters (parts.relatedCpus p) i) (k : FreqQosReqType) (freq : ℕ) :
    (freqQosNotify r.notified p k freq).clusters =
      notifierCall freq r.notified.clusters ⟨r.notified.clusters.rqCluster i,k⟩ := by
  rw [freqQosNotify,notifying.live p live i last k]
  rfl

theorem last_unique {s : Clusters} {mask : Cpumask} {i j : ℕ} (lastI : LastOpens s mask i) (lastJ : LastOpens s mask j) :
    i = j := by
  rcases Nat.lt_trichotomy i j with less | equal | less
  · exact absurd lastJ.1 (lastI.2 j less)
  · exact equal
  · exact absurd lastI.1 (lastJ.2 i less)

theorem notifying_start {s : Clusters} (clustered : Clustered t s) : Notifying parts (unlimited s) := by
  refine { clustered := clustered, some := ?_, done := ?_, live := ?_, idle := fun _ _ _ => rfl }
  · intro p live
    cases live
  · intro p live
    cases live
  · intro p live
    cases live

theorem notifying_created (notifying : Notifying parts r) {p : ℕ} {data : CpufreqPolicy}
    (admitted : Admitted parts r (.created p data)) : Notifying parts (limitStep t r (.created p data)) := by
  obtain ⟨idle,creates,some⟩ := admitted
  have same := created_same (t := t) (s := r.notified) (e := (p,data))
  obtain ⟨i,last⟩ := exists_lastOpens (parts.inside p) some
  have registered := created_registered notifying.clustered creates last
  refine { clustered := notifying.clustered.same same, some := ?_, done := ?_, live := ?_, idle := ?_ }
  all_goals simp only [limitStep,opens_same same.rqCluster,same.rqCluster,registered,Function.update_apply]
  · intro q live
    by_cases own : q = p
    · exact own ▸ some
    · rw [if_neg own] at live
      exact notifying.some q live
  · intro q live cpu member
    rw [created_done (e := (p,data)) notifying.clustered creates]
    by_cases own : q = p
    · exact Or.inr ⟨cpu,own ▸ member,rfl⟩
    · rw [if_neg own] at live
      exact Or.inl (notifying.done q live cpu member)
  · intro q live j lastJ k
    by_cases own : q = p
    · subst own
      rw [if_pos rfl,notifying.idle q idle k,last_unique lastJ last]
    · rw [if_neg own] at live ⊢
      exact notifying.live q live j lastJ k
  · intro q live k
    by_cases own : q = p
    · simp [own] at live
    · rw [if_neg own] at live ⊢
      exact notifying.idle q live k

theorem notifying_changed (notifying : Notifying parts r) {p freq : ℕ} {k : FreqQosReqType}
    (admitted : Admitted parts r (.changed p k freq)) : Notifying parts (limitStep t r (.changed p k freq)) := by
  obtain ⟨i,last⟩ := exists_lastOpens (parts.inside p) (notifying.some p admitted.1)
  have told := changed_clusters notifying admitted.1 last k freq
  have same := notifierCall_same freq r.notified.clusters ⟨r.notified.clusters.rqCluster i,k⟩
  refine { clustered := ?_, some := notifying.some, done := ?_, live := ?_, idle := notifying.idle }
  all_goals simp only [limitStep,told]
  · exact notifying.clustered.same same
  · intro q live cpu member
    rw [same.rqCluster,notifierCall_done]
    exact notifying.done q live cpu member
  · intro q live j lastJ l
    rw [opens_same same.rqCluster] at lastJ
    rw [same.rqCluster]
    exact notifying.live q live j lastJ l

theorem notifying_step (notifying : Notifying parts r) {e : LimitEvent} (admitted : Admitted parts r e) :
    Notifying parts (limitStep t r e) := by
  cases e with
  | created p data => exact notifying_created notifying admitted
  | changed p k freq => exact notifying_changed notifying admitted

/-- A creation, when the clusters of the live policies have their limits before it. -/
theorem created_follows_iff (notifying : Notifying parts r) (follows : Follows parts r) {p : ℕ} {data : CpufreqPolicy}
    (admitted : Admitted parts r (.created p data)) :
    Follows parts (limitStep t r (.created p data)) ↔ Finds parts r (.created p data) := by
  obtain ⟨idle,creates,some⟩ := admitted
  have same := created_same (t := t) (s := r.notified) (e := (p,data))
  simp only [Follows,Finds,limitStep,same.rqCluster]
  constructor
  · intro after cpu member done k
    have kept := after p (Function.update_self _ _ _) cpu member k
    rwa [created_limit_kept done,Function.update_self] at kept
  · intro finds q live cpu member k
    by_cases own : q = p
    · subst own
      rw [Function.update_self]
      cases done : (r.notified.clusters.cluster (r.notified.clusters.rqCluster cpu)).freqInitDone with
      | false => exact created_limit_new notifying.clustered creates ⟨cpu,member,rfl⟩ done k
      | true => exact (created_limit_kept done k).trans (finds cpu member done k)
    · rw [Function.update_of_ne own] at live
      rw [Function.update_of_ne own,created_limit_kept (notifying.done q live cpu member)]
      exact follows q live cpu member k

theorem changed_follows_iff (notifying : Notifying parts r) (follows : Follows parts r) {p freq : ℕ} {k : FreqQosReqType}
    (admitted : Admitted parts r (.changed p k freq)) :
    Follows parts (limitStep t r (.changed p k freq)) ↔ Finds parts r (.changed p k freq) := by
  obtain ⟨live,word⟩ := admitted
  obtain ⟨i,last⟩ := exists_lastOpens (parts.inside p) (notifying.some p live)
  have told := changed_clusters notifying live last k freq
  have same := notifierCall_same freq r.notified.clusters ⟨r.notified.clusters.rqCluster i,k⟩
  simp only [Follows,Finds,limitStep,told,same.rqCluster,notifierCall_limit,u32_of_lt word]
  constructor
  · intro after j lastJ
    obtain rfl := last_unique last lastJ
    refine ⟨fun cpu member away => ?_,fun q other liveQ reached => ?_⟩
    · have kept := after p live cpu member k
      rw [if_neg (fun here => away here.1),follows p live cpu member k,Function.update_self,Function.update_self] at kept
      exact kept
    · obtain ⟨cpu,member,here⟩ := reached
      have set := after q liveQ cpu member k
      rw [if_pos ⟨here,rfl⟩,Function.update_of_ne other] at set
      exact set.symm
  · intro finds q liveQ cpu member l
    obtain ⟨elsewhere,others⟩ := finds i last
    by_cases own : q = p
    · subst own
      rw [Function.update_self]
      by_cases kind : l = k
      · subst kind
        rw [Function.update_self]
        by_cases here : r.notified.clusters.rqCluster cpu = r.notified.clusters.rqCluster i
        · exact if_pos ⟨here,rfl⟩
        · rw [if_neg (fun both => here both.1),follows q live cpu member l]
          exact elsewhere cpu member here
      · rw [Function.update_of_ne kind,if_neg (fun both => kind both.2)]
        exact follows q live cpu member l
    · rw [Function.update_of_ne own]
      by_cases told : r.notified.clusters.rqCluster cpu = r.notified.clusters.rqCluster i ∧ l = k
      · rw [if_pos told,told.2]
        exact (others q own liveQ ⟨cpu,member,told.1⟩).symm
      · rw [if_neg told]
        exact follows q liveQ cpu member l

/-! ### Policies that are clusters -/

/-- Two CPUs are in one cluster exactly when they are in one policy. -/
def Matching (parts : PolicyPartition t) (s : Clusters) : Prop :=
  ∀ p q i j, parts.relatedCpus p i = true → parts.relatedCpus q j = true → (s.rqCluster i = s.rqCluster j ↔ p = q)

/-- Only the clusters of live policies are initialised. -/
def Touched (parts : PolicyPartition t) (r : Limited) : Prop :=
  ∀ cpu, t.possible cpu = true → (r.notified.clusters.cluster (r.notified.clusters.rqCluster cpu)).freqInitDone = true →
    ∃ p, r.live p = true ∧ Reaches r.notified.clusters (parts.relatedCpus p) (r.notified.clusters.rqCluster cpu)

theorem reaches_same {s s' : Clusters} (same : s'.rqCluster = s.rqCluster) (mask : Cpumask) (c : ClusterPtr) :
    Reaches s' mask c ↔ Reaches s mask c := by
  simp only [Reaches,same]

theorem step_rqCluster (notifying : Notifying parts r) {e : LimitEvent} (admitted : Admitted parts r e) :
    (limitStep t r e).notified.clusters.rqCluster = r.notified.clusters.rqCluster := by
  cases e with
  | created p data => exact created_same.rqCluster
  | changed p k freq =>
    obtain ⟨i,last⟩ := exists_lastOpens (parts.inside p) (notifying.some p admitted.1)
    rw [limitStep,changed_clusters notifying admitted.1 last k freq]
    exact (notifierCall_same freq _ _).rqCluster

theorem touched_step (notifying : Notifying parts r) (touched : Touched parts r) {e : LimitEvent}
    (admitted : Admitted parts r e) : Touched parts (limitStep t r e) := by
  have same := step_rqCluster notifying admitted
  intro cpu possible done
  rw [same] at done
  simp only [same,reaches_same same]
  cases e with
  | created p data =>
    rcases (created_done (e := (p,data)) notifying.clustered admitted.2.1 _).mp done with before | reached
    · obtain ⟨q,live,reached⟩ := touched cpu possible before
      have other : q ≠ p := fun own => absurd (own ▸ live) (by simp [admitted.1])
      exact ⟨q,(Function.update_of_ne other _ _).trans live,reached⟩
    · exact ⟨p,Function.update_self _ _ _,reached⟩
  | changed p k freq =>
    obtain ⟨i,last⟩ := exists_lastOpens (parts.inside p) (notifying.some p admitted.1)
    rw [limitStep,changed_clusters notifying admitted.1 last k freq,notifierCall_done] at done
    exact touched cpu possible done

/-- Where the policies are the clusters, nothing is shared that an event could miss. -/
theorem finds_of_matching (touched : Touched parts r) (matching : Matching parts r.notified.clusters) {e : LimitEvent}
    (admitted : Admitted parts r e) : Finds parts r e := by
  cases e with
  | created p data =>
    intro cpu member done
    obtain ⟨q,live,i,memberI,same⟩ := touched cpu (parts.inside p cpu member) done
    obtain rfl := (matching q p i cpu memberI member).mp same
    exact absurd live (by simp [admitted.1])
  | changed p k freq =>
    intro i last
    refine ⟨fun cpu member away => ?_,fun q other _ reached => ?_⟩
    · exact absurd ((matching p p cpu i member last.1.1).mpr rfl) away
    · obtain ⟨j,memberJ,same⟩ := reached
      exact absurd ((matching q p j i memberJ last.1.1).mp same) other

theorem matching_finds {s : Clusters} (clustered : Clustered t s) (fresh : Fresh t s) (matching : Matching parts s)
    {events : List LimitEvent} (admitted : Along (limitStep t) (Admitted parts) (unlimited s) events) :
    Along (limitStep t) (Finds parts) (unlimited s) events := by
  have start : Touched parts (unlimited s) := by
    intro cpu possible done
    exact absurd ((fresh.undone cpu possible).symm.trans done) Bool.false_ne_true
  refine along_invariant
    (fun r => Notifying parts r ∧ Touched parts r ∧ r.notified.clusters.rqCluster = s.rqCluster) ?_ ?_
    ⟨notifying_start clustered,start,rfl⟩ admitted
  · rintro r e ⟨notifying,touched,same⟩ admitted
    exact ⟨notifying_step notifying admitted,touched_step notifying touched admitted,
      (step_rqCluster notifying admitted).trans same⟩
  · rintro r e ⟨notifying,touched,same⟩ admitted
    refine finds_of_matching touched ?_ admitted
    simpa only [Matching,same] using matching

/-- In every run of creations of policies and of changes of their limits, the clusters of
    every live policy always have its limits exactly when each creation and each change
    finds its limits on the clusters that it is not told to; and so they do in every run
    when the policies are the clusters. -/
theorem limits_follow_iff (parts : PolicyPartition t) (s : Clusters) (clustered : Clustered t s) (fresh : Fresh t s)
    (events : List LimitEvent) (admitted : Along (limitStep t) (Admitted parts) (unlimited s) events) :
    (Along (limitStep t) (fun r e => Follows parts (limitStep t r e)) (unlimited s) events ↔
      Along (limitStep t) (Finds parts) (unlimited s) events) ∧
    (Matching parts s → Along (limitStep t) (fun r e => Follows parts (limitStep t r e)) (unlimited s) events) := by
  have agree : ∀ r e, Notifying parts r ∧ Follows parts r → Admitted parts r e →
      (Follows parts (limitStep t r e) ↔ Finds parts r e) := by
    rintro r e ⟨notifying,follows⟩ admitted
    cases e with
    | created p data => exact created_follows_iff notifying follows admitted
    | changed p k freq => exact changed_follows_iff notifying follows admitted
  have exactly : Along (limitStep t) (fun r e => Follows parts (limitStep t r e)) (unlimited s) events ↔
      Along (limitStep t) (Finds parts) (unlimited s) events := by
    refine along_iff (fun r => Notifying parts r ∧ Follows parts r) agree ?_ ⟨notifying_start clustered,?_⟩ admitted
    · exact fun r e held admitted follows => ⟨notifying_step held.1 admitted,follows⟩
    · intro p live
      cases live
  exact ⟨exactly,fun matching => exactly.mpr (matching_finds clustered fresh matching admitted)⟩

end

theorem wholePolicy_matching {s : Clusters} (ready : lseSchedClusterInit oneCluster = some s) : Matching wholePolicy s := by
  have both : (lseSchedClusterInit oneCluster).map (fun s => decide (s.rqCluster 0 = s.rqCluster 1)) = some true := by
    decide +kernel
  rw [ready,Option.map_some,Option.some.injEq,decide_eq_true_eq] at both
  have first : ∀ cpu < 2, s.rqCluster cpu = s.rqCluster 0 := by
    intro cpu low
    rcases (by omega : cpu = 0 ∨ cpu = 1) with rfl | rfl
    · rfl
    · exact both.symm
  intro p q i j memberI memberJ
  simp only [wholePolicy,decide_eq_true_eq] at memberI memberJ
  rw [first i memberI.2,first j memberJ.2]
  exact iff_of_true rfl (memberI.1.trans memberJ.1.symm)

/-- A policy that has both CPUs of a cluster is created and changes its limits. -/
theorem limits_follow_whole : ∃ s, lseSchedClusterInit oneCluster = some s ∧
    Along (limitStep oneCluster) (fun r e => Follows wholePolicy (limitStep oneCluster r e)) (unlimited s)
      [.created 0 (creation wholePolicy 0).2,.changed 0 .max 1500000,.changed 0 .min 600000] := by
  obtain ⟨s,ready,clustered,fresh⟩ := oneCluster_ready
  have admitted : Along (limitStep oneCluster) (Admitted wholePolicy) (unlimited s)
      [.created 0 (creation wholePolicy 0).2,.changed 0 .max 1500000,.changed 0 .min 600000] :=
    ⟨⟨rfl,rfl,0,rfl⟩,⟨rfl,by decide⟩,⟨rfl,by decide⟩,trivial⟩
  exact ⟨s,ready,(limits_follow_iff wholePolicy s clustered fresh _ admitted).2 (wholePolicy_matching ready)⟩

end LunarSched.FreqLimits
