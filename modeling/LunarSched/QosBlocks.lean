import LunarSched.FreqDomain

/-!
The notifier blocks that the clusters have registered with the policies. A new policy gets
the two blocks of the cluster to which the notifier comes last, and the notifier of its
removal looks for blocks at NULL: what is registered stays. So the blocks are those of the
live policies in the runs that remove no policy and in which no two of them end on one
cluster.
-/
namespace LunarSched.QosBlocks
open LunarSched.Kernel LunarSched.SchedCluster LunarSched.Governor LunarSched.CpufreqNotifier LunarSched.FreqDomain
  LunarSched.Runs

inductive PolicyEvent where
  | created (policy : ℕ) (data : CpufreqPolicy)
  | removed (policy : ℕ) (data : CpufreqPolicy)

/-- The state of the notifier, with the policies that there are. -/
structure Policies where
  notified : Notified
  live : ℕ → Bool

def step (t : CpuTopology) (r : Policies) : PolicyEvent → Policies
  | .created p data => ⟨createPolicy t r.notified (p,data),Function.update r.live p true⟩
  | .removed p data => ⟨(cpufreqNotifierPolicy t.nrCpuIds r.notified .removePolicy p data).1,Function.update r.live p false⟩

def noPolicies (s : Clusters) : Policies := ⟨⟨s,fun _ _ => []⟩,fun _ => false⟩

section
variable {t : CpuTopology}

/-- A policy that is created has CPUs and is not there yet; one that is removed is there. -/
def Admitted (parts : PolicyPartition t) (r : Policies) : PolicyEvent → Prop
  | .created p data => r.live p = false ∧ data.relatedCpus = parts.relatedCpus p ∧ ∃ cpu, parts.relatedCpus p cpu = true
  | .removed p _ => r.live p = true

/-- Every live policy has one block of either kind, of a cluster with a CPU of the policy;
    no block is registered twice, and none with a policy that is gone. -/
structure RoundTrip (parts : PolicyPartition t) (r : Policies) : Prop where
  one : ∀ p, r.live p = true → ∀ k, (r.notified.registered p k).length = 1
  belongs : ∀ p k, ∀ b ∈ r.notified.registered p k, b.kind = k ∧
    (∃ i, t.possible i = true ∧ r.notified.clusters.rqCluster i = b.cluster) ∧
    ∃ cpu, parts.relatedCpus p cpu = true ∧ (r.notified.clusters.cluster b.cluster).cpus cpu = true
  nodup : ∀ p k, (r.notified.registered p k).Nodup
  once : ∀ p k q l, ∀ b ∈ r.notified.registered p k, b ∈ r.notified.registered q l → p = q ∧ k = l
  gone : ∀ p, r.live p = false → ∀ k, r.notified.registered p k = []

/-- The CPU opens the last cluster to which the notifier of the policy comes. -/
def LastOpens (s : Clusters) (mask : Cpumask) (i : ℕ) : Prop := Opens s mask i ∧ ∀ j, i < j → ¬ Opens s mask j

/-- No policy is removed, and one that is created ends on another cluster than every live one. -/
def EndsApart (parts : PolicyPartition t) (r : Policies) : PolicyEvent → Prop
  | .created p _ => ∀ q, r.live q = true → ∀ i j, LastOpens r.notified.clusters (parts.relatedCpus p) i →
      LastOpens r.notified.clusters (parts.relatedCpus q) j →
      r.notified.clusters.rqCluster i ≠ r.notified.clusters.rqCluster j
  | .removed _ _ => False

theorem exists_lastOpens {s : Clusters} {mask : Cpumask} (inside : ∀ cpu, mask cpu = true → t.possible cpu = true)
    (some : ∃ cpu, mask cpu = true) : ∃ i, LastOpens s mask i := by
  obtain ⟨cpu,member⟩ := some
  obtain ⟨j,_,opens,_⟩ := exists_opens (s := s) member
  have bound : ∀ i, Opens s mask i → i ≤ t.nrCpuIds := fun i opened => (t.bounded i (inside i opened.1)).le
  refine ⟨Nat.findGreatest (Opens s mask) t.nrCpuIds,Nat.findGreatest_spec (bound j opens) opens,?_⟩
  intro i above opened
  exact Nat.findGreatest_is_greatest above (bound i opened) opened

theorem visited_last {s : Clusters} {mask : Cpumask} (clustered : Clustered t s)
    (inside : ∀ cpu, mask cpu = true → t.possible cpu = true) {i : ℕ} (last : LastOpens s mask i) :
    (visited s.rqCluster (fun c => (s.cluster c).cpus) (List.range t.nrCpuIds) mask).getLastD .null = s.rqCluster i := by
  have below := t.bounded i (inside i last.1.1)
  have later : (List.range' (i + 1) (t.nrCpuIds - (i + 1))).filter (fun j => decide (Opens s mask j)) = [] := by
    rw [List.filter_eq_nil_iff]
    intro j member
    have above : i < j := (List.mem_range'_1.mp member).1
    simpa using last.2 j above
  rw [visited_eq clustered inside,FirstMembers.range_split below,List.filter_append,
    List.filter_cons_of_pos (by simpa using last.1),later,List.map_append,List.map_singleton,List.getLastD_concat]

/-- What the notifier of a new policy registers. -/
theorem created_registered {parts : PolicyPartition t} {s : Notified} {p : ℕ} {data : CpufreqPolicy}
    (clustered : Clustered t s.clusters) (creates : data.relatedCpus = parts.relatedCpus p) {i : ℕ}
    (last : LastOpens s.clusters (parts.relatedCpus p) i) (q : ℕ) (k : FreqQosReqType) :
    (createPolicy t s (p,data)).registered q k =
      if q = p then ⟨s.clusters.rqCluster i,k⟩ :: s.registered q k else s.registered q k := by
  have loop := forEachCluster_eq (fun s i => s.rqCluster i) (initFreqDomain data)
    (fun _ _ same => same.rqCluster) (initFreqDomain_same data) (List.range t.nrCpuIds) data.relatedCpus .null s.clusters
  have ends := visited_last clustered (parts.inside p) last
  rw [← creates] at ends
  rw [createPolicy,cpufreqNotifierPolicy]
  simp only [loop,ends,freqQosAddNotifier]
  by_cases own : q = p
  · subst own
    cases k <;> simp
  · simp [own]

/-- The notifier of a removal takes no block of a cluster away. -/
theorem removed_registered {s : Notified} {p : ℕ} {data : CpufreqPolicy} (q : ℕ) (k : FreqQosReqType)
    (real : ∀ b ∈ s.registered q k, b.cluster ≠ .null) :
    (cpufreqNotifierPolicy t.nrCpuIds s .removePolicy p data).1.registered q k = s.registered q k := by
  have away : ∀ k', NotifierBlock.mk .null k' ∉ s.registered q k := fun k' member => real _ member rfl
  simp only [cpufreqNotifierPolicy,freqQosRemoveNotifier]
  by_cases own : q = p
  · subst own
    cases k <;> simp [List.erase_of_not_mem,away]
  · simp [own]

end

section
variable {t : CpuTopology} {parts : PolicyPartition t} {r : Policies}

/-- What holds while no policy is removed and all end on clusters of their own. -/
structure Blocks (parts : PolicyPartition t) (r : Policies) : Prop where
  clustered : Clustered t r.notified.clusters
  some : ∀ p, r.live p = true → ∃ cpu, parts.relatedCpus p cpu = true
  live : ∀ p, r.live p = true → ∀ i, LastOpens r.notified.clusters (parts.relatedCpus p) i →
    ∀ k, r.notified.registered p k = [⟨r.notified.clusters.rqCluster i,k⟩]
  idle : ∀ p, r.live p = false → ∀ k, r.notified.registered p k = []
  apart : ∀ p q, r.live p = true → r.live q = true → p ≠ q → ∀ i j,
    LastOpens r.notified.clusters (parts.relatedCpus p) i → LastOpens r.notified.clusters (parts.relatedCpus q) j →
      r.notified.clusters.rqCluster i ≠ r.notified.clusters.rqCluster j

theorem opens_same {s s' : Clusters} (same : s'.rqCluster = s.rqCluster) (mask : Cpumask) (i : ℕ) :
    LastOpens s' mask i ↔ LastOpens s mask i := by
  simp only [LastOpens,Opens,same]

/-- A block is that of the live policy's last cluster. -/
theorem blocks_mem (blocks : Blocks parts r) {p : ℕ} {k : FreqQosReqType} {b : NotifierBlock}
    (member : b ∈ r.notified.registered p k) :
    ∃ i, r.live p = true ∧ LastOpens r.notified.clusters (parts.relatedCpus p) i ∧
      b = ⟨r.notified.clusters.rqCluster i,k⟩ := by
  cases live : r.live p with
  | false =>
    rw [blocks.idle p live k] at member
    cases member
  | true =>
    obtain ⟨i,last⟩ := exists_lastOpens (parts.inside p) (blocks.some p live)
    rw [blocks.live p live i last k] at member
    exact ⟨i,rfl,last,List.mem_singleton.mp member⟩

theorem blocks_roundTrip (blocks : Blocks parts r) : RoundTrip parts r := by
  refine { one := ?_, belongs := ?_, nodup := ?_, once := ?_, gone := blocks.idle }
  · intro p live k
    obtain ⟨i,last⟩ := exists_lastOpens (parts.inside p) (blocks.some p live)
    rw [blocks.live p live i last k]
    rfl
  · intro p k b member
    obtain ⟨i,_,last,rfl⟩ := blocks_mem blocks member
    have possible := parts.inside p i last.1.1
    exact ⟨rfl,⟨i,possible,rfl⟩,i,last.1.1,blocks.clustered.owned i possible⟩
  · intro p k
    cases live : r.live p with
    | false =>
      rw [blocks.idle p live k]
      exact List.nodup_nil
    | true =>
      obtain ⟨i,last⟩ := exists_lastOpens (parts.inside p) (blocks.some p live)
      rw [blocks.live p live i last k]
      exact List.nodup_singleton _
  · intro p k q l b member other
    obtain ⟨i,liveP,lastP,rfl⟩ := blocks_mem blocks member
    obtain ⟨j,liveQ,lastQ,same⟩ := blocks_mem blocks other
    rw [NotifierBlock.mk.injEq] at same
    refine ⟨?_,same.2⟩
    by_contra different
    exact blocks.apart p q liveP liveQ different i j lastP lastQ same.1

theorem blocks_start {s : Clusters} (clustered : Clustered t s) : Blocks parts (noPolicies s) := by
  refine { clustered := clustered, some := ?_, live := ?_, idle := fun _ _ _ => rfl, apart := ?_ }
  · intro p live
    cases live
  · intro p live
    cases live
  · intro p q live
    cases live

theorem blocks_created (blocks : Blocks parts r) {p : ℕ} {data : CpufreqPolicy}
    (admitted : Admitted parts r (.created p data)) (apart : EndsApart parts r (.created p data)) :
    Blocks parts (step t r (.created p data)) := by
  obtain ⟨idle,creates,some⟩ := admitted
  have same := created_same (t := t) (s := r.notified) (e := (p,data))
  obtain ⟨i,last⟩ := exists_lastOpens (parts.inside p) some
  have registered := created_registered blocks.clustered creates last
  refine { clustered := blocks.clustered.same same, some := ?_, live := ?_, idle := ?_, apart := ?_ }
  all_goals simp only [step,opens_same same.rqCluster,same.rqCluster,registered,Function.update_apply]
  · intro q live
    by_cases own : q = p
    · exact own ▸ some
    · rw [if_neg own] at live
      exact blocks.some q live
  · intro q live j lastJ k
    by_cases own : q = p
    · subst own
      have one : j = i := by
        rcases Nat.lt_trichotomy j i with less | equal | less
        · exact absurd last.1 (lastJ.2 i less)
        · exact equal
        · exact absurd lastJ.1 (last.2 j less)
      rw [if_pos rfl,blocks.idle q idle k,one]
    · rw [if_neg own] at live ⊢
      exact blocks.live q live j lastJ k
  · intro q live k
    by_cases own : q = p
    · simp [own] at live
    · rw [if_neg own] at live ⊢
      exact blocks.idle q live k
  · intro q q' live live' different j j' lastJ lastJ'
    by_cases own : q = p
    · subst own
      rw [if_neg different.symm] at live'
      exact apart q' live' j j' lastJ lastJ'
    · by_cases own' : q' = p
      · subst own'
        rw [if_neg own] at live
        exact (apart q live j' j lastJ' lastJ).symm
      · rw [if_neg own] at live
        rw [if_neg own'] at live'
        exact blocks.apart q q' live live' different j j' lastJ lastJ'

theorem endsApart_of_roundTrip (blocks : Blocks parts r) {e : PolicyEvent} (admitted : Admitted parts r e)
    (kept : RoundTrip parts (step t r e)) : EndsApart parts r e := by
  cases e with
  | created p data =>
    obtain ⟨idle,creates,some⟩ := admitted
    intro q live i j lastI lastJ same
    have other : q ≠ p := fun own => absurd (own ▸ live) (by simp [idle])
    have registered := created_registered blocks.clustered creates lastI
    have here : ⟨r.notified.clusters.rqCluster i,.min⟩ ∈ (createPolicy t r.notified (p,data)).registered p .min := by
      rw [registered,if_pos rfl]
      exact List.mem_cons_self
    have there : ⟨r.notified.clusters.rqCluster i,.min⟩ ∈ (createPolicy t r.notified (p,data)).registered q .min := by
      rw [registered,if_neg other,blocks.live q live j lastJ .min,same]
      exact List.mem_singleton_self _
    exact other (kept.once p .min q .min _ here there).1.symm
  | removed p data =>
    -- The block of the policy's last cluster is still there.
    obtain ⟨i,last⟩ := exists_lastOpens (parts.inside p) (blocks.some p admitted)
    have real : ∀ b ∈ r.notified.registered p .min, b.cluster ≠ .null := by
      intro b member
      obtain ⟨j,_,lastJ,rfl⟩ := blocks_mem blocks member
      exact blocks.clustered.real j (parts.inside p j lastJ.1.1)
    have remains := @removed_registered t r.notified p data p .min real
    have gone := kept.gone p (by simp [step]) .min
    rw [step,remains,blocks.live p admitted i last .min] at gone
    cases gone

/-- In every run of creations and removals the blocks make the round trip exactly when no
    policy is removed and every one that is created ends on a cluster of its own. -/
theorem round_trip_iff (parts : PolicyPartition t) (s : Clusters) (clustered : Clustered t s) (events : List PolicyEvent)
    (admitted : Along (step t) (Admitted parts) (noPolicies s) events) :
    Along (step t) (fun r e => RoundTrip parts (step t r e)) (noPolicies s) events ↔
      Along (step t) (EndsApart parts) (noPolicies s) events := by
  have created : ∀ r e, Blocks parts r → Admitted parts r e → EndsApart parts r e → Blocks parts (step t r e) := by
    intro r e blocks admitted apart
    cases e with
    | created p data => exact blocks_created blocks admitted apart
    | removed p data => exact apart.elim
  refine along_iff (Blocks parts) ?_ ?_ (blocks_start clustered) admitted
  · intro r e blocks admitted
    exact ⟨endsApart_of_roundTrip blocks admitted,fun apart => blocks_roundTrip (created r e blocks admitted apart)⟩
  · intro r e blocks admitted kept
    exact created r e blocks admitted (endsApart_of_roundTrip blocks admitted kept)

end

/-- Two clusters of one CPU, each with a policy of its own. -/
def apartPolicies : PolicyPartition twoClusters where
  relatedCpus := fun p cpu => decide (cpu = p ∧ cpu < 2)
  inside := fun p cpu member => decide_eq_true (of_decide_eq_true member).2
  covers := fun cpu possible => ⟨cpu,decide_eq_true ⟨rfl,of_decide_eq_true possible⟩⟩
  disjoint := fun p q cpu memberP memberQ => (of_decide_eq_true memberP).1.symm.trans (of_decide_eq_true memberQ).1

def apartPolicy (p : ℕ) : CpufreqPolicy :=
  { fullPolicy with cpus := apartPolicies.relatedCpus p, relatedCpus := apartPolicies.relatedCpus p }

theorem lastOpens_apart {s : Clusters} {p i : ℕ} (last : LastOpens s (apartPolicies.relatedCpus p) i) : i = p := by
  have member : decide (i = p ∧ i < 2) = true := last.1.1
  exact (of_decide_eq_true member).1

/-- The two policies end on different clusters, and the blocks of both are registered. -/
theorem round_trip_apart : ∃ s, lseSchedClusterInit twoClusters = some s ∧
    Along (step twoClusters) (fun r e => RoundTrip apartPolicies (step twoClusters r e)) (noPolicies s)
      [.created 0 (apartPolicy 0),.created 1 (apartPolicy 1)] := by
  obtain ⟨s,ready,clustered,_⟩ := discovered_ready (t := twoClusters) (fun cpu _ => Int.natCast_nonneg cpu) (by decide +kernel)
  have admitted : Along (step twoClusters) (Admitted apartPolicies) (noPolicies s)
      [.created 0 (apartPolicy 0),.created 1 (apartPolicy 1)] :=
    ⟨⟨rfl,rfl,0,rfl⟩,⟨rfl,rfl,1,rfl⟩,trivial⟩
  have apart : (lseSchedClusterInit twoClusters).map (fun s => decide (s.rqCluster 1 = s.rqCluster 0)) = some false := by
    decide +kernel
  rw [ready,Option.map_some,Option.some.injEq,decide_eq_false_iff_not] at apart
  have same := created_same (t := twoClusters) (s := (noPolicies s).notified) (e := (0,apartPolicy 0))
  refine ⟨s,ready,(round_trip_iff apartPolicies s clustered _ admitted).mpr ⟨fun q live => ?_,fun q live i j lastI lastJ => ?_,
    trivial⟩⟩
  · cases live
  · have first : q = 0 := by
      by_contra other
      simp [step,noPolicies,other] at live
    rw [lastOpens_apart lastI,lastOpens_apart lastJ,first]
    exact (same.rqCluster.symm ▸ apart)

/-- The blocks of a policy that is removed stay registered. -/
theorem blocks_stay :
    ¬ ∀ (t : CpuTopology) (parts : PolicyPartition t) (s : Clusters), Clustered t s → ∀ events : List PolicyEvent,
      Along (step t) (Admitted parts) (noPolicies s) events →
        Along (step t) (fun r e => RoundTrip parts (step t r e)) (noPolicies s) events := by
  intro claimed
  obtain ⟨s,ready,clustered,_⟩ := oneCluster_ready
  let events : List PolicyEvent := [.created 0 (creation wholePolicy 0).2,.removed 0 (creation wholePolicy 0).2]
  have admitted : Along (step oneCluster) (Admitted wholePolicy) (noPolicies s) events :=
    ⟨⟨rfl,rfl,0,rfl⟩,rfl,trivial⟩
  have gone := (claimed oneCluster wholePolicy s clustered events admitted).2.1.gone 0 rfl .min
  have stays : (lseSchedClusterInit oneCluster).map (fun s =>
      ((exec (step oneCluster) (noPolicies s) events).notified.registered 0 .min).length) = some 1 := by decide +kernel
  rw [ready,Option.map_some,Option.some.injEq] at stays
  exact absurd (stays.symm.trans (congrArg List.length gone)) (by decide)

end LunarSched.QosBlocks
